import CBrain.Framework.JsonRoundTrip

/-! # Further escapes in JSON text

    A character that JSON text has only inside its string literals may be
    written as a `\u` escape after the encoder has run: the text decodes to the
    same value (`parse_escaping`).  The decoder reads an escaped text step by step
    as it reads the text itself. -/

namespace Json

/-! ## Section 1: Escaping a character -/

/-- The `\u` escape of a character. -/
def unicodeEscape (e : Char) : List Char := '\\' :: 'u' :: hex4 e.toNat

/-- Write one character as its escape wherever it stands. -/
def escaping (e : Char) : List Char → List Char
  | [] => []
  | c :: cs => if c = e then unicodeEscape e ++ escaping e cs else c :: escaping e cs

/-- The characters that have a meaning in JSON text outside of its string
    literals, or after a backslash. -/
def isSyntax (c : Char) : Bool :=
  c.isAlphanum || isWs c || c ∈ ['"', '\\', '/', '[', ']', '{', '}', ',', ':', '.', '+', '-']

/-- A character that stands in string literals only, and that one escape of four
    digits writes. -/
structure Inert (e : Char) : Prop where
  not_syntax : isSyntax e = false
  not_control : 32 ≤ e.toNat
  basic : e.toNat < 0x10000

variable {e : Char}

/-- A character with a meaning is not inert. -/
theorem Inert.ne (he : Inert e) {c : Char} (hc : isSyntax c = true) : c ≠ e := by
  intro h
  rw [h, he.not_syntax] at hc
  cases hc

@[simp] theorem escaping_nil (e : Char) : escaping e [] = [] := rfl

theorem escaping_self (e : Char) (cs : List Char) :
    escaping e (e :: cs) = unicodeEscape e ++ escaping e cs := if_pos rfl

theorem escaping_ne {c : Char} (h : c ≠ e) (cs : List Char) :
    escaping e (c :: cs) = c :: escaping e cs := if_neg h

/-- A character with a meaning stays. -/
theorem Inert.escaping_cons (he : Inert e) {c : Char} (hc : isSyntax c = true) (cs : List Char) :
    escaping e (c :: cs) = c :: escaping e cs := escaping_ne (he.ne hc) cs

/-- What begins an escaped text begins the text, unless it is a backslash. -/
theorem head_escaping {c : Char} (hc : c ≠ '\\') {cs r : List Char}
    (h : escaping e cs = c :: r) : ∃ r', cs = c :: r' := by
  match cs with
  | [] => cases h
  | d :: cs =>
    by_cases hd : d = e
    · rw [hd, escaping_self] at h
      exact absurd (List.cons.inj h).1.symm hc
    · rw [escaping_ne hd] at h
      exact ⟨cs, by rw [(List.cons.inj h).1]⟩

theorem length_le_escaping (e : Char) (cs : List Char) : cs.length ≤ (escaping e cs).length := by
  induction cs with
  | nil => exact le_refl _
  | cons c cs ih =>
    by_cases h : c = e
    · rw [h, escaping_self, List.length_append]
      have hsix : (unicodeEscape e).length = 6 := rfl
      rw [List.length_cons]
      omega
    · rw [escaping_ne h, List.length_cons, List.length_cons]
      omega

/-- The longest prefix in a class without inert characters stays the same. -/
theorem takeWhile_escaping {p : Char → Bool} (hp : p e = false) (hb : p '\\' = false)
    (cs : List Char) : (escaping e cs).takeWhile p = cs.takeWhile p := by
  induction cs with
  | nil => rfl
  | cons c cs ih =>
    by_cases h : c = e
    · subst h
      rw [escaping_self]
      simp [unicodeEscape, hp, hb]
    · rw [escaping_ne h, List.takeWhile_cons, List.takeWhile_cons, ih]

theorem dropWhile_escaping {p : Char → Bool} (hp : p e = false) (hb : p '\\' = false)
    (cs : List Char) : (escaping e cs).dropWhile p = escaping e (cs.dropWhile p) := by
  induction cs with
  | nil => rfl
  | cons c cs ih =>
    by_cases h : c = e
    · subst h
      rw [List.dropWhile_cons_of_neg (by simp [hp]), escaping_self]
      simp [unicodeEscape, hb]
    · rw [escaping_ne h]
      by_cases hc : p c = true
      · rw [List.dropWhile_cons_of_pos hc, List.dropWhile_cons_of_pos hc, ih]
      · rw [List.dropWhile_cons_of_neg hc, List.dropWhile_cons_of_neg hc, escaping_ne h]

theorem Inert.isWs (he : Inert e) : Json.isWs e = false := by
  have h := he.not_syntax
  simp only [isSyntax, Bool.or_eq_false_iff] at h
  exact h.1.2

theorem Inert.isAlphanum (he : Inert e) : e.isAlphanum = false := by
  have h := he.not_syntax
  simp only [isSyntax, Bool.or_eq_false_iff] at h
  exact h.1.1

theorem Inert.isDigit (he : Inert e) : e.isDigit = false := by
  have h := he.isAlphanum
  simp only [Char.isAlphanum, Bool.or_eq_false_iff] at h
  exact h.2

theorem isSyntax_digit {c : Char} (h : c.isDigit = true) : isSyntax c = true := by
  simp [isSyntax, Char.isAlphanum, h]

theorem skipWs_escaping (he : Inert e) (cs : List Char) :
    skipWs (escaping e cs) = escaping e (skipWs cs) := dropWhile_escaping he.isWs rfl cs

/-! ## Section 2: Strings -/

theorem isAlphanum_iff (c : Char) : c.isAlphanum = true ↔
    65 ≤ c.toNat ∧ c.toNat ≤ 90 ∨ 97 ≤ c.toNat ∧ c.toNat ≤ 122 ∨
      48 ≤ c.toNat ∧ c.toNat ≤ 57 := by
  have hupper : c.isUpper = decide (c.val ≥ 65 ∧ c.val ≤ 90) := rfl
  have hlower : c.isLower = (decide (c.val ≥ 97) && decide (c.val ≤ 122)) := rfl
  have hletter : c.isAlpha = (c.isUpper || c.isLower) := rfl
  simp only [Char.isAlphanum, hletter, hupper, hlower, Char.isDigit, Bool.or_eq_true,
    Bool.and_eq_true, decide_eq_true_eq, UInt32.le_iff_toNat_le, ge_iff_le]
  exact or_assoc

theorem isSyntax_hexVal {c : Char} {n : Nat} (h : hexVal c = some n) : isSyntax c = true := by
  have hle : ∀ a b : Char, a ≤ b ↔ a.toNat ≤ b.toNat := by
    intro a b
    rw [Char.le_def, UInt32.le_iff_toNat_le]
    rfl
  have hupper : ('F' : Char).toNat = 70 ∧ ('A' : Char).toNat = 65 := ⟨rfl, rfl⟩
  have hlower : ('f' : Char).toNat = 102 ∧ ('a' : Char).toNat = 97 := ⟨rfl, rfl⟩
  have hdigit : ('9' : Char).toNat = 57 ∧ ('0' : Char).toNat = 48 := ⟨rfl, rfl⟩
  have halpha : c.isAlphanum = true := by
    rw [isAlphanum_iff]
    unfold hexVal at h
    by_cases h₀ : '0' ≤ c ∧ c ≤ '9'
    · rw [hle, hle] at h₀
      omega
    by_cases h₁ : 'a' ≤ c ∧ c ≤ 'f'
    · rw [hle, hle] at h₁
      omega
    by_cases h₂ : 'A' ≤ c ∧ c ≤ 'F'
    · rw [hle, hle] at h₂
      omega
    rw [if_neg h₀, if_neg h₁, if_neg h₂] at h
    cases h
  simp [isSyntax, halpha]

/-- The digits of a `\u` escape stay. -/
theorem hex4?_syntax {a b c d : Char} {n : Nat} (h : hex4? a b c d = some n) :
    isSyntax a = true ∧ isSyntax b = true ∧ isSyntax c = true ∧ isSyntax d = true := by
  unfold hex4? at h
  simp only [Option.bind_eq_bind, Option.bind_eq_some_iff] at h
  obtain ⟨w, hw, x, hx, y, hy, z, hz, -⟩ := h
  exact ⟨isSyntax_hexVal hw, isSyntax_hexVal hx, isSyntax_hexVal hy, isSyntax_hexVal hz⟩

theorem isSyntax_unescape {c d : Char} (h : unescape c = some d) : isSyntax c = true := by
  unfold unescape at h
  repeat' split at h
  all_goals first | (subst c; decide) | cases h

/-- A character of a literal is written back as its own escape. -/
theorem parseStr_unicodeEscape (he : Inert e) (r : List Char) :
    parseStr (unicodeEscape e ++ r) = consChar e (parseStr r) := by
  unfold unicodeEscape
  rw [List.cons_append, List.cons_append, parseStr_hex4 r he.basic (toNat_not_surrogate e),
    Char.ofNat_toNat]

/-- What is left after reading has its characters escaped. -/
def rest {A : Type} (e : Char) (p : A × List Char) : A × List Char := (p.1, escaping e p.2)

theorem consChar_eq_some {c : Char} {o : Option (List Char × List Char)}
    {p : List Char × List Char} :
    consChar c o = some p ↔ ∃ q, o = some q ∧ p = (c :: q.1, q.2) := by
  unfold consChar
  rw [Option.map_eq_some_iff]
  exact exists_congr fun q => and_congr_right fun _ => eq_comm

/-- A string literal is read the same with the character escaped. -/
theorem parseStr_escaping (he : Inert e) {cs : List Char} {p : List Char × List Char}
    (h : parseStr cs = some p) : parseStr (escaping e cs) = some (rest e p) := by
  have hslash : isSyntax '\\' = true := by decide
  have hu : isSyntax 'u' = true := by decide
  induction cs using parseStr.induct generalizing p with
  | case1 => cases h
  | case2 r =>
    obtain rfl := Option.some.inj h
    rw [he.escaping_cons (by decide)]
    rfl
  | case3 a b c d r hhex =>
    simp [parseStr, hhex] at h
  | case4 a b c d hi hhex hhigh a' b' c' d' r' lo hhex' hlow ih =>
    obtain ⟨ha, hb, hc, hd⟩ := hex4?_syntax hhex
    obtain ⟨ha', hb', hc', hd'⟩ := hex4?_syntax hhex'
    simp only [parseStr, hhex, hhex', if_pos hhigh, if_pos hlow] at h
    obtain ⟨q, hq, rfl⟩ := consChar_eq_some.mp h
    simp only [he.escaping_cons, hslash, hu, ha, hb, hc, hd, ha', hb', hc', hd', parseStr, hhex,
      hhex', if_pos hhigh, if_pos hlow, ih hq]
    rfl
  | case5 a b c d hi hhex hhigh a' b' c' d' r' lo hhex' hlow =>
    simp [parseStr, hhex, hhex', hhigh, hlow] at h
  | case6 a b c d hi hhex hhigh a' b' c' d' r' hhex' =>
    simp [parseStr, hhex, hhex', hhigh] at h
  | case7 a b c d r hi hhex hhigh hno =>
    simp only [parseStr, hhex, if_pos hhigh] at h
    cases h
  | case8 a b c d r hi hhex hhigh hlow =>
    simp [parseStr, hhex, hhigh, hlow] at h
  | case9 a b c d r hi hhex hhigh hlow ih =>
    obtain ⟨ha, hb, hc, hd⟩ := hex4?_syntax hhex
    simp only [parseStr, hhex, if_neg hhigh, if_neg hlow] at h
    obtain ⟨q, hq, rfl⟩ := consChar_eq_some.mp h
    simp only [he.escaping_cons, hslash, hu, ha, hb, hc, hd, parseStr, hhex, if_neg hhigh,
      if_neg hlow, ih hq]
    rfl
  | case10 x r hno c hshort ih =>
    have hx : x ≠ 'u' := by
      rintro rfl
      have hnone : unescape 'u' = none := by decide
      rw [hnone] at hshort
      cases hshort
    rw [parseStr_backslash r hx, hshort] at h
    obtain ⟨q, hq, rfl⟩ := consChar_eq_some.mp h
    rw [he.escaping_cons hslash, he.escaping_cons (isSyntax_unescape hshort),
      parseStr_backslash _ hx, hshort]
    show consChar c (parseStr (escaping e r)) = _
    rw [ih hq]
    rfl
  | case11 x r hno hshort =>
    rw [parseStr.eq_4 x r hno, hshort] at h
    cases h
  | case12 c r hq hb hb' hcontrol =>
    rw [parseStr.eq_5 c r hq hb hb', if_pos hcontrol] at h
    cases h
  | case13 c r hq hb hb' hcontrol ih =>
    rw [parseStr.eq_5 c r hq hb hb', if_neg hcontrol] at h
    obtain ⟨q, hrest, rfl⟩ := consChar_eq_some.mp h
    by_cases hc : c = e
    · subst hc
      rw [escaping_self, parseStr_unicodeEscape he, ih hrest]
      rfl
    · -- a backslash at the end of the text begins nothing
      have hne : c ≠ '\\' := by
        rintro rfl
        cases r with
        | nil => cases hrest
        | cons x r' => exact hb' x r' rfl rfl
      rw [escaping_ne hc, parseStr_plain _ hq hne hcontrol, ih hrest]
      rfl

/-! ## Section 3: Numbers -/

theorem parseFrac_escaping (he : Inert e) (cs : List Char) :
    parseFrac (escaping e cs) = rest e (parseFrac cs) := by
  have hpoint : isSyntax '.' = true := by decide
  by_cases hdot : ∃ r, cs = '.' :: r
  · obtain ⟨r, rfl⟩ := hdot
    rw [he.escaping_cons hpoint]
    cases r with
    | nil =>
      have hnone : parseFrac ['.'] = (none, ['.']) := parseFrac.eq_2 _ (by simp)
      rw [escaping_nil, hnone, rest, he.escaping_cons hpoint, escaping_nil]
    | cons c r =>
      by_cases hc : c.isDigit = true
      · rw [he.escaping_cons (isSyntax_digit hc)]
        simp only [parseFrac, if_pos hc, rest, takeWhile_escaping he.isDigit rfl,
          dropWhile_escaping he.isDigit rfl]
      · have hfirst : parseFrac ('.' :: c :: r) = (none, '.' :: c :: r) := by
          simp only [parseFrac, if_neg hc]
        have hsecond : parseFrac ('.' :: escaping e (c :: r)) =
            (none, '.' :: escaping e (c :: r)) := by
          by_cases hce : c = e
          · subst hce
            rw [escaping_self]
            rfl
          · rw [escaping_ne hce]
            simp only [parseFrac, if_neg hc]
        rw [hfirst, hsecond, rest, he.escaping_cons hpoint]
  · have hno : ∀ r, cs ≠ '.' :: r := fun r h => hdot ⟨r, h⟩
    have hno' : ∀ r, escaping e cs ≠ '.' :: r := by
      intro r h
      obtain ⟨r', hcs⟩ := head_escaping (by decide) h
      exact hno r' hcs
    rw [parseFrac_none hno, parseFrac_none hno']
    rfl

theorem parseExpDigits_escaping (he : Inert e) (neg : Bool) (cs : List Char) :
    parseExpDigits neg (escaping e cs) = (parseExpDigits neg cs).map (rest e) := by
  match cs with
  | [] => rfl
  | c :: cs =>
    by_cases hc : c.isDigit = true
    · rw [he.escaping_cons (isSyntax_digit hc)]
      simp only [parseExpDigits, if_pos hc, rest, Option.map_some,
        takeWhile_escaping he.isDigit rfl, dropWhile_escaping he.isDigit rfl]
    · have hfirst : parseExpDigits neg (c :: cs) = none := by
        simp only [parseExpDigits, if_neg hc]
      rw [hfirst]
      by_cases hce : c = e
      · subst hce
        rw [escaping_self]
        rfl
      · rw [escaping_ne hce]
        simp only [parseExpDigits, if_neg hc]
        rfl

theorem parseExpSigned_escaping (he : Inert e) (cs : List Char) :
    parseExpSigned (escaping e cs) = (parseExpSigned cs).map (rest e) := by
  have hminus : isSyntax '-' = true := by decide
  have hplus : isSyntax '+' = true := by decide
  match cs with
  | [] => rfl
  | c :: cs =>
    by_cases hneg : c = '-'
    · rw [hneg, he.escaping_cons hminus]
      exact parseExpDigits_escaping he true cs
    by_cases hpos : c = '+'
    · rw [hpos, he.escaping_cons hplus]
      exact parseExpDigits_escaping he false cs
    have hunsigned : parseExpSigned (c :: cs) = parseExpDigits false (c :: cs) := by
      rw [parseExpSigned.eq_3 _ (by simp [hneg]) (by simp [hpos])]
    rw [hunsigned, ← parseExpDigits_escaping he]
    by_cases hce : c = e
    · subst hce
      rw [escaping_self]
      rfl
    · rw [escaping_ne hce, parseExpSigned.eq_3 _ (by simp [hneg]) (by simp [hpos])]

theorem parseExp_escaping (he : Inert e) (cs : List Char) :
    parseExp (escaping e cs) = rest e (parseExp cs) := by
  cases cs with
  | nil => rfl
  | cons c cs =>
    by_cases hexp : c = 'e' ∨ c = 'E'
    · have hc : isSyntax c = true := by
        rcases hexp with rfl | rfl
        · decide
        · decide
      rw [he.escaping_cons hc]
      simp only [parseExp, if_pos hexp, parseExpSigned_escaping he]
      cases parseExpSigned cs with
      | some q => rfl
      | none =>
        show (none, c :: escaping e cs) = rest e (none, c :: cs)
        rw [rest, he.escaping_cons hc]
    · have hfirst : parseExp (c :: cs) = (none, c :: cs) := by
        simp only [parseExp, if_neg hexp]
      rw [hfirst]
      by_cases hce : c = e
      · subst hce
        rw [rest, escaping_self]
        rfl
      · rw [rest, escaping_ne hce]
        simp only [parseExp, if_neg hexp]

theorem parseAfterInt_escaping (he : Inert e) (neg : Bool) (ds cs : List Char) :
    parseAfterInt neg ds (escaping e cs) = rest e (parseAfterInt neg ds cs) := by
  unfold parseAfterInt
  rw [parseFrac_escaping he]
  simp only [rest]
  rw [parseExp_escaping he]
  simp only [rest]
  split <;> rfl

/-- A number without its sign begins with a digit or with `I`. -/
theorem parseUnsigned_head {neg : Bool} {cs : List Char} {p : Json × List Char}
    (h : parseUnsigned neg cs = some p) :
    ∃ c r, cs = c :: r ∧ (c = 'I' ∨ c.isDigit = true) := by
  cases cs using parseUnsigned.fun_cases with
  | case1 r => exact ⟨_, _, rfl, Or.inl rfl⟩
  | case2 => cases h
  | case3 r _ => exact ⟨_, _, rfl, Or.inr rfl⟩
  | case4 c r _ _ hdigit => exact ⟨c, r, rfl, Or.inr hdigit⟩
  | case5 c r hno hzero hdigit =>
    rw [parseUnsigned.eq_3 neg c r hno, if_neg hzero, if_neg hdigit] at h
    cases h

theorem parseUnsigned_escaping (he : Inert e) {neg : Bool} {cs : List Char}
    {p : Json × List Char} (h : parseUnsigned neg cs = some p) :
    parseUnsigned neg (escaping e cs) = some (rest e p) := by
  cases cs using parseUnsigned.fun_cases with
  | case1 r =>
    obtain rfl := Option.some.inj h
    simp (disch := decide) only [he.escaping_cons]
    rfl
  | case2 => cases h
  | case3 r hno =>
    have hescaped : ∀ r', '0' = 'I' →
        escaping e r = 'n' :: 'f' :: 'i' :: 'n' :: 'i' :: 't' :: 'y' :: r' → False := nofun
    rw [parseUnsigned.eq_3 neg _ r hno, if_pos rfl] at h
    rw [he.escaping_cons (by decide), parseUnsigned.eq_3 neg _ _ hescaped, if_pos rfl,
      parseAfterInt_escaping he, Option.some.inj h]
  | case4 c r hno hzero hdigit =>
    have hescaped : ∀ r', c = 'I' →
        escaping e r = 'n' :: 'f' :: 'i' :: 'n' :: 'i' :: 't' :: 'y' :: r' → False := by
      intro _ hc _
      rw [hc] at hdigit
      cases hdigit
    rw [parseUnsigned.eq_3 neg _ r hno, if_neg hzero, if_pos hdigit] at h
    rw [he.escaping_cons (isSyntax_digit hdigit), parseUnsigned.eq_3 neg _ _ hescaped,
      if_neg hzero, if_pos hdigit, takeWhile_escaping he.isDigit rfl,
      dropWhile_escaping he.isDigit rfl, parseAfterInt_escaping he, Option.some.inj h]
  | case5 c r hno hzero hdigit =>
    rw [parseUnsigned.eq_3 neg c r hno, if_neg hzero, if_neg hdigit] at h
    cases h

/-! ## Section 4: Values -/

/-- A value, the elements of an array and the members of an object are read the
    same with the character escaped, when there is fuel enough. -/
structure ReadsEscaped (e : Char) (n : Nat) : Prop where
  value : ∀ {m cs p}, n ≤ m → parseValue n cs = some p →
    parseValue m (escaping e cs) = some (rest e p)
  elems : ∀ {m cs p}, n ≤ m → parseElems n cs = some p →
    parseElems m (escaping e cs) = some (rest e p)
  members : ∀ {m cs p}, n ≤ m → parseMembers n cs = some p →
    parseMembers m (escaping e cs) = some (rest e p)

theorem parseElems_escaping (he : Inert e) {n : Nat} (ih : ReadsEscaped e n) {m : Nat}
    {cs : List Char} {p : List Json × List Char} (hm : n + 1 ≤ m)
    (h : parseElems (n + 1) cs = some p) : parseElems m (escaping e cs) = some (rest e p) := by
  obtain ⟨m, rfl⟩ : ∃ k, m = k + 1 := ⟨m - 1, by omega⟩
  rw [parseElems] at h ⊢
  cases hvalue : parseValue n cs with
  | none =>
    rw [hvalue] at h
    cases h
  | some read =>
    obtain ⟨v, r⟩ := read
    rw [hvalue] at h
    rw [ih.value (by omega) hvalue]
    dsimp only [rest] at h ⊢
    rw [skipWs_escaping he]
    split at h
    · next r' hr =>
      obtain ⟨q, hq, rfl⟩ := Option.map_eq_some_iff.mp h
      rw [hr, he.escaping_cons (by decide)]
      show (parseElems m (skipWs (escaping e r'))).map
        (fun p : List Json × List Char => (v :: p.1, p.2)) = _
      rw [skipWs_escaping he, ih.elems (by omega) hq]
      rfl
    · next r' hr =>
      obtain rfl := Option.some.inj h
      rw [hr, he.escaping_cons (by decide)]
      rfl
    · cases h

theorem parseMembers_escaping (he : Inert e) {n : Nat} (ih : ReadsEscaped e n) {m : Nat}
    {cs : List Char} {p : Members × List Char} (hm : n + 1 ≤ m)
    (h : parseMembers (n + 1) cs = some p) : parseMembers m (escaping e cs) = some (rest e p) := by
  obtain ⟨m, rfl⟩ : ∃ k, m = k + 1 := ⟨m - 1, by omega⟩
  by_cases hquote : ∃ r, cs = '"' :: r
  · obtain ⟨r, rfl⟩ := hquote
    rw [he.escaping_cons (by decide), parseMembers.eq_2]
    rw [parseMembers.eq_2] at h
    cases hkey : parseStr r with
    | none =>
      rw [hkey] at h
      cases h
    | some read =>
      obtain ⟨k, r₁⟩ := read
      rw [hkey] at h
      rw [parseStr_escaping he hkey]
      dsimp only [rest] at h ⊢
      rw [skipWs_escaping he]
      split at h
      · next r₂ hr₂ =>
        rw [hr₂, he.escaping_cons (by decide)]
        simp only [skipWs_escaping he]
        cases hvalue : parseValue n (skipWs r₂) with
        | none =>
          rw [hvalue] at h
          cases h
        | some read =>
          obtain ⟨v, r₃⟩ := read
          rw [hvalue] at h
          rw [ih.value (by omega) hvalue]
          dsimp only [rest] at h ⊢
          rw [skipWs_escaping he]
          split at h
          · next r₄ hr₄ =>
            obtain ⟨q, hq, rfl⟩ := Option.map_eq_some_iff.mp h
            rw [hr₄, he.escaping_cons (by decide)]
            show (parseMembers m (skipWs (escaping e r₄))).map
              (fun p : Members × List Char => ((String.ofList k, v) :: p.1, p.2)) = _
            rw [skipWs_escaping he, ih.members (by omega) hq]
            rfl
          · next r₄ hr₄ =>
            obtain rfl := Option.some.inj h
            rw [hr₄, he.escaping_cons (by decide)]
            rfl
          · cases h
      · cases h
  · rw [parseMembers.eq_3 cs n (fun r hr => hquote ⟨r, hr⟩)] at h
    cases h

/-- A value that begins as a number. -/
theorem parseValue_number {c : Char} (n : Nat) (hc : c = 'I' ∨ c.isDigit = true)
    (cs : List Char) : parseValue (n + 1) (c :: cs) = parseUnsigned false (c :: cs) := by
  rcases hc with rfl | hc
  · rfl
  · exact parseValue_unsigned n hc

theorem parseValue_escaping (he : Inert e) {n : Nat} (ih : ReadsEscaped e n) {m : Nat}
    {cs : List Char} {p : Json × List Char} (hm : n + 1 ≤ m)
    (h : parseValue (n + 1) cs = some p) : parseValue m (escaping e cs) = some (rest e p) := by
  obtain ⟨m, rfl⟩ : ∃ k, m = k + 1 := ⟨m - 1, by omega⟩
  rw [parseValue.eq_def] at h
  dsimp only at h
  split at h
  · next r =>
    obtain ⟨q, hq, rfl⟩ := Option.map_eq_some_iff.mp h
    rw [he.escaping_cons (by decide), parseValue.eq_2, parseStr_escaping he hq]
    rfl
  · next r =>
    rw [he.escaping_cons (by decide), parseValue.eq_3, skipWs_escaping he]
    split at h
    · next r' hr =>
      obtain rfl := Option.some.inj h
      rw [hr, he.escaping_cons (by decide)]
      rfl
    · next hopen =>
      obtain ⟨q, hq, rfl⟩ := Option.map_eq_some_iff.mp h
      split
      · next r' hr =>
        obtain ⟨r'', hr⟩ := head_escaping (by decide) hr
        exact (hopen r'' hr).elim
      · rw [ih.elems (by omega) hq]
        rfl
  · next r =>
    rw [he.escaping_cons (by decide), parseValue.eq_4, skipWs_escaping he]
    split at h
    · next r' hr =>
      obtain rfl := Option.some.inj h
      rw [hr, he.escaping_cons (by decide)]
      rfl
    · next hopen =>
      obtain ⟨q, hq, rfl⟩ := Option.map_eq_some_iff.mp h
      split
      · next r' hr =>
        obtain ⟨r'', hr⟩ := head_escaping (by decide) hr
        exact (hopen r'' hr).elim
      · rw [ih.members (by omega) hq]
        rfl
  · next r =>
    obtain rfl := Option.some.inj h
    simp (disch := decide) only [he.escaping_cons]
    rfl
  · next r =>
    obtain rfl := Option.some.inj h
    simp (disch := decide) only [he.escaping_cons]
    rfl
  · next r =>
    obtain rfl := Option.some.inj h
    simp (disch := decide) only [he.escaping_cons]
    rfl
  · next r =>
    obtain rfl := Option.some.inj h
    simp (disch := decide) only [he.escaping_cons]
    rfl
  · next r =>
    rw [he.escaping_cons (by decide)]
    exact parseUnsigned_escaping he h
  · obtain ⟨c, r, rfl, hc⟩ := parseUnsigned_head h
    have hsyntax : isSyntax c = true := by
      rcases hc with rfl | hc
      · decide
      · exact isSyntax_digit hc
    rw [he.escaping_cons hsyntax, parseValue_number m hc, ← he.escaping_cons hsyntax]
    exact parseUnsigned_escaping he h

theorem readsEscaped (he : Inert e) (n : Nat) : ReadsEscaped e n := by
  induction n with
  | zero => exact ⟨nofun, nofun, nofun⟩
  | succ n ih =>
    exact ⟨parseValue_escaping he ih, parseElems_escaping he ih, parseMembers_escaping he ih⟩

/-! ## Section 5: Whole texts -/

/-- A text decodes to the same value when an inert character is escaped. -/
theorem parse_escaping (he : Inert e) {cs : List Char} {v : Json} (h : parse cs = some v) :
    parse (escaping e cs) = some v := by
  unfold parse at h ⊢
  match hvalue : parseValue (cs.length + 1) (skipWs cs) with
  | none =>
    rw [hvalue] at h
    cases h
  | some (w, r) =>
    rw [hvalue] at h
    have hfuel : cs.length + 1 ≤ (escaping e cs).length + 1 :=
      Nat.succ_le_succ (length_le_escaping e cs)
    rw [skipWs_escaping he, (readsEscaped he _).value hfuel hvalue]
    dsimp only [rest] at h ⊢
    by_cases hend : skipWs r = []
    · rw [if_pos hend] at h
      rw [skipWs_escaping he, hend, escaping_nil, if_pos rfl, h]
    · rw [if_neg hend] at h
      cases h

theorem loads_escaping (he : Inert e) {cs : List Char} {v : Json} (h : loads cs = some v) :
    loads (escaping e cs) = some v := by
  unfold loads at h ⊢
  obtain ⟨w, hw, rfl⟩ := Option.map_eq_some_iff.mp h
  rw [parse_escaping he hw]
  rfl

/-- Escaping takes the character away, and brings in no other but those of
    escapes. -/
theorem mem_escaping {c : Char} {cs : List Char} (h : c ∈ escaping e cs) :
    c ≠ e ∧ c ∈ cs ∨ c ∈ unicodeEscape e := by
  induction cs with
  | nil => cases h
  | cons d cs ih =>
    by_cases hd : d = e
    · rw [hd, escaping_self] at h
      rcases List.mem_append.mp h with h | h
      · exact Or.inr h
      · rcases ih h with ⟨hne, hmem⟩ | hmem
        · exact Or.inl ⟨hne, List.mem_cons_of_mem _ hmem⟩
        · exact Or.inr hmem
    · rw [escaping_ne hd] at h
      rcases List.mem_cons.mp h with rfl | h
      · exact Or.inl ⟨hd, List.mem_cons_self⟩
      · rcases ih h with ⟨hne, hmem⟩ | hmem
        · exact Or.inl ⟨hne, List.mem_cons_of_mem _ hmem⟩
        · exact Or.inr hmem

end Json

import CBrain.Framework.JsonText

/-! # The decoder inverts the encoder

    Each lemma reads what the encoder wrote in front of an arbitrary rest.
    For numbers the rest must not begin with a character that could still
    belong to the number; every character the encoder writes after a value
    (a comma, a closing bracket, nothing) is of that kind.
-/

namespace Json

/-! ## Section 1: Strings -/

theorem hexVal_digitChar {d : Nat} (h : d < 16) : hexVal d.digitChar = some d := by
  revert d
  decide

theorem hex4?_hex4 {n : Nat} (h : n < 65536) :
    hex4? (n / 4096 % 16).digitChar (n / 256 % 16).digitChar (n / 16 % 16).digitChar
      (n % 16).digitChar = some n := by
  have hmod : ∀ m : Nat, m % 16 < 16 := fun m => Nat.mod_lt m (by omega)
  simp only [hex4?, hexVal_digitChar (hmod _), bind, Option.bind, pure]
  congr 1
  omega

theorem unescape_of_shortEscape {c e : Char} (h : shortEscape c = some e) :
    unescape e = some c ∧ e ≠ 'u' := by
  have hchar : ∀ n, c.toNat = n → c = Char.ofNat n := by
    rintro n rfl
    exact (Char.ofNat_toNat c).symm
  unfold shortEscape at h
  repeat' split at h
  all_goals first
    | (obtain rfl : _ = e := by simpa using h
       first
         | (subst_vars; decide)
         | (next hn => rw [hchar _ hn]; decide))
    | simp at h

theorem parseStr_backslash {e : Char} (r : List Char) (h : e ≠ 'u') :
    parseStr ('\\' :: e :: r) =
      match unescape e with
      | some c => consChar c (parseStr r)
      | none => none := by
  conv => lhs; rw [parseStr.eq_def]
  split
  · next heq => cases heq
  · next heq => cases heq
  · next heq => exact absurd (List.cons.inj (List.cons.inj heq).2).1 h
  · next heq =>
    obtain ⟨rfl, rfl⟩ := List.cons.inj (List.cons.inj heq).2
    rfl
  · next hne heq =>
    obtain ⟨hc, hr⟩ := List.cons.inj heq
    exact (hne e r hc.symm hr.symm).elim

theorem parseStr_plain {c : Char} (r : List Char) (hq : c ≠ '"') (hb : c ≠ '\\')
    (hc : ¬ c.toNat < 32) : parseStr (c :: r) = consChar c (parseStr r) := by
  rw [parseStr.eq_def]
  split <;> simp_all

/-- A four-digit escape of a code point that is not a surrogate. -/
theorem parseStr_hex4 {n : Nat} (r : List Char) (h : n < 65536)
    (hs : ¬ (0xd800 ≤ n ∧ n < 0xe000)) :
    parseStr ('\\' :: 'u' :: (hex4 n ++ r)) = consChar (Char.ofNat n) (parseStr r) := by
  simp only [hex4, List.cons_append, List.nil_append]
  rw [parseStr.eq_def]
  simp only [hex4?_hex4 h]
  have h1 : ¬ (0xd800 ≤ n ∧ n < 0xdc00) := by omega
  have h2 : ¬ (0xdc00 ≤ n ∧ n < 0xe000) := by omega
  simp [h1, h2]

/-- A surrogate pair. -/
theorem parseStr_pair {hi lo : Nat} (r : List Char) (hhi : 0xd800 ≤ hi ∧ hi < 0xdc00)
    (hlo : 0xdc00 ≤ lo ∧ lo < 0xe000) :
    parseStr ('\\' :: 'u' :: (hex4 hi ++ '\\' :: 'u' :: (hex4 lo ++ r))) =
      consChar (Char.ofNat (0x10000 + (hi - 0xd800) * 1024 + (lo - 0xdc00))) (parseStr r) := by
  simp only [hex4, List.cons_append, List.nil_append]
  rw [parseStr.eq_def]
  simp only [hex4?_hex4 (show hi < 65536 by omega), hex4?_hex4 (show lo < 65536 by omega)]
  simp [hhi, hlo]

theorem toNat_not_surrogate (c : Char) : ¬ (0xd800 ≤ c.toNat ∧ c.toNat < 0xe000) := by
  have hv := c.valid
  simp only [Char.toNat, UInt32.isValidChar, Nat.isValidChar] at hv ⊢
  omega

theorem toNat_lt (c : Char) : c.toNat < 0x110000 := by
  have hv := c.valid
  simp only [Char.toNat, UInt32.isValidChar, Nat.isValidChar] at hv ⊢
  omega

/-- One escaped character is read back. -/
theorem parseStr_escapeChar (ascii : Bool) (c : Char) (r : List Char) :
    parseStr (escapeChar ascii c ++ r) = consChar c (parseStr r) := by
  have hsur := toNat_not_surrogate c
  have hlt := toNat_lt c
  unfold escapeChar
  split
  · next e he =>
    obtain ⟨hun, hne⟩ := unescape_of_shortEscape he
    simp only [List.cons_append, List.nil_append]
    rw [parseStr_backslash r hne, hun]
  · next hnone =>
    split
    · next hctl =>
      simp only [List.cons_append]
      rw [parseStr_hex4 r (by omega) hsur, Char.ofNat_toNat]
    · next hctl =>
      split
      · split
        · next hbmp =>
          simp only [List.cons_append]
          rw [parseStr_hex4 r hbmp hsur, Char.ofNat_toNat]
        · next hbmp =>
          simp only [List.cons_append, List.append_assoc]
          rw [parseStr_pair r (by omega) (by omega)]
          have hval : 0x10000 + (0xd800 + (c.toNat - 0x10000) / 1024 - 0xd800) * 1024
              + (0xdc00 + (c.toNat - 0x10000) % 1024 - 0xdc00) = c.toNat := by omega
          rw [hval, Char.ofNat_toNat]
      · have hq : c ≠ '"' := by rintro rfl; simp [shortEscape] at hnone
        have hb : c ≠ '\\' := by rintro rfl; simp [shortEscape] at hnone
        simp only [List.cons_append, List.nil_append]
        exact parseStr_plain r hq hb hctl

theorem parseStr_escapeBody (ascii : Bool) (cs r : List Char) :
    parseStr (escapeBody ascii cs ++ r) = some (cs, r) := by
  induction cs with
  | nil => simp [escapeBody, parseStr]
  | cons c cs ih =>
    rw [escapeBody, List.append_assoc, parseStr_escapeChar, ih]
    rfl

/-! ## Section 2: Numbers -/

/-- The rest does not continue a number. -/
def NumEnd (r : List Char) : Prop :=
  ∀ c r', r = c :: r' → c.isDigit = false ∧ c ≠ '.' ∧ c ≠ 'e' ∧ c ≠ 'E'

theorem numEnd_nil : NumEnd [] := by
  intro c r' h
  cases h

theorem numEnd_cons {c : Char} {r : List Char}
    (h : c.isDigit = false ∧ c ≠ '.' ∧ c ≠ 'e' ∧ c ≠ 'E') : NumEnd (c :: r) := by
  intro c' r' heq
  cases heq
  exact h

/-- The rest does not begin with a digit. -/
def DigitEnd (r : List Char) : Prop := ∀ c r', r = c :: r' → c.isDigit = false

theorem NumEnd.digitEnd {r : List Char} (h : NumEnd r) : DigitEnd r :=
  fun c r' heq => (h c r' heq).1

theorem takeWhile_digits {ds r : List Char} (hd : ∀ c ∈ ds, c.isDigit = true) (hr : DigitEnd r) :
    (ds ++ r).takeWhile Char.isDigit = ds := by
  induction ds with
  | nil =>
    cases r with
    | nil => rfl
    | cons c r' => simp [hr c r' rfl]
  | cons d ds ih => simp [hd d (by simp), ih (fun c hc => hd c (by simp [hc]))]

theorem dropWhile_digits {ds r : List Char} (hd : ∀ c ∈ ds, c.isDigit = true) (hr : DigitEnd r) :
    (ds ++ r).dropWhile Char.isDigit = r := by
  induction ds with
  | nil =>
    cases r with
    | nil => rfl
    | cons c r' => simp [hr c r' rfl]
  | cons d ds ih => simp [hd d (by simp), ih (fun c hc => hd c (by simp [hc]))]

theorem isDigit_toDigits (n : Nat) : ∀ c ∈ Nat.toDigits 10 n, c.isDigit = true :=
  fun _ hc => Nat.isDigit_of_mem_toDigits (by omega) (by omega) hc

theorem toDigits_ne_nil (n : Nat) : Nat.toDigits 10 n ≠ [] := Nat.toDigits_ne_nil

/-- Only zero is written with a leading zero. -/
theorem toDigits_head {n : Nat} (h : n ≠ 0) : ∃ c cs, Nat.toDigits 10 n = c :: cs ∧ c ≠ '0' := by
  induction n using Nat.strongRecOn with
  | ind n ih =>
    rw [Nat.toDigits_eq_if (by omega)]
    split
    · next hlt => exact ⟨n.digitChar, [], rfl, by simpa using h⟩
    · next hge =>
      obtain ⟨c, cs, hcs, hc⟩ := ih (n / 10) (by omega) (by omega)
      exact ⟨c, cs ++ [(n % 10).digitChar], by simp [hcs], hc⟩

theorem parseFrac_none {r : List Char} (h : ∀ r', r ≠ '.' :: r') : parseFrac r = (none, r) := by
  unfold parseFrac
  split
  · next c r' => exact absurd rfl (h (c :: r'))
  · rfl

theorem parseFrac_digits {ds r : List Char} (hne : ds ≠ []) (hd : ∀ c ∈ ds, c.isDigit = true)
    (hr : DigitEnd r) : parseFrac ('.' :: (ds ++ r)) = (some ds, r) := by
  cases ds with
  | nil => exact absurd rfl hne
  | cons d ds =>
    have hds : ∀ c ∈ ds, c.isDigit = true := fun c hc => hd c (by simp [hc])
    simp only [List.cons_append, parseFrac, hd d (by simp), if_true,
      takeWhile_digits hds hr, dropWhile_digits hds hr]

theorem parseExp_none {r : List Char} (h : ∀ c r', r = c :: r' → c ≠ 'e' ∧ c ≠ 'E') :
    parseExp r = (none, r) := by
  cases r with
  | nil => rfl
  | cons c r' =>
    obtain ⟨h1, h2⟩ := h c r' rfl
    simp [parseExp, h1, h2]

theorem ofDigitChars_zero_cons (ds : List Char) :
    Nat.ofDigitChars 10 ('0' :: ds) 0 = Nat.ofDigitChars 10 ds 0 := by
  simp [Nat.ofDigitChars_cons]

theorem parseExpDigits_digits {neg : Bool} {ds r : List Char} (hne : ds ≠ [])
    (hd : ∀ c ∈ ds, c.isDigit = true) (hr : DigitEnd r) :
    parseExpDigits neg (ds ++ r) =
      some (if neg then -((Nat.ofDigitChars 10 ds 0 : Nat) : Int)
        else (Nat.ofDigitChars 10 ds 0 : Nat), r) := by
  cases ds with
  | nil => exact absurd rfl hne
  | cons d ds =>
    have hds : ∀ c ∈ ds, c.isDigit = true := fun c hc => hd c (by simp [hc])
    simp only [List.cons_append, parseExpDigits, hd d (by simp), if_true,
      takeWhile_digits hds hr, dropWhile_digits hds hr]

theorem parseExp_dumpsExp (e : Int) {r : List Char} (hr : DigitEnd r) :
    parseExp (dumpsExp e ++ r) = (some e, r) := by
  have hpad : ∃ ds, ds = (if e.natAbs < 10 then ['0'] else []) ++ Nat.toDigits 10 e.natAbs ∧
      ds ≠ [] ∧ (∀ c ∈ ds, c.isDigit = true) ∧ Nat.ofDigitChars 10 ds 0 = e.natAbs := by
    refine ⟨_, rfl, by simp, ?_, ?_⟩
    · intro c hc
      rcases List.mem_append.mp hc with hc | hc
      · split at hc
        · rw [List.mem_singleton.mp hc]; rfl
        · simp at hc
      · exact isDigit_toDigits _ c hc
    · split
      · rw [List.singleton_append, ofDigitChars_zero_cons, Nat.ofDigitChars_ten_toDigits]
      · rw [List.nil_append, Nat.ofDigitChars_ten_toDigits]
  obtain ⟨ds, hds, hne, hdig, hval⟩ := hpad
  rw [dumpsExp, ← hds]
  by_cases he : e < 0
  · simp only [he, if_true, List.cons_append, parseExp, true_or, parseExpSigned,
      parseExpDigits_digits hne hdig hr, hval]
    congr 2
    omega
  · simp only [he, if_false, List.cons_append, parseExp, true_or, parseExpSigned,
      parseExpDigits_digits hne hdig hr, hval]
    simp only [if_true, Bool.false_eq_true, if_false]
    congr 2
    omega

/-- An unsigned number whose integer part is `0` or does not begin with `0`. -/
theorem parseUnsigned_digits (neg : Bool) {ds r : List Char} (hd : ∀ c ∈ ds, c.isDigit = true)
    (hhead : ds = ['0'] ∨ ∃ c cs, ds = c :: cs ∧ c ≠ '0') (hr : DigitEnd r) :
    parseUnsigned neg (ds ++ r) = some (parseAfterInt neg ds r) := by
  rcases hhead with rfl | ⟨c, cs, rfl, hc⟩
  · rfl
  · have hcd : c.isDigit = true := hd c (by simp)
    have hcs : ∀ x ∈ cs, x.isDigit = true := fun x hx => hd x (by simp [hx])
    have hI : c ≠ 'I' := by rintro rfl; exact absurd hcd (by decide)
    rw [List.cons_append, parseUnsigned.eq_def]
    split
    · next heq => exact absurd (List.cons.inj heq).1 hI
    · next heq => cases heq
    · next heq =>
      obtain ⟨rfl, rfl⟩ := List.cons.inj heq
      simp [hc, hcd, takeWhile_digits hcs hr, dropWhile_digits hcs hr]

theorem parseUnsigned_nat (neg : Bool) (n : Nat) {r : List Char} (hr : NumEnd r) :
    parseUnsigned neg (Nat.toDigits 10 n ++ r) =
      some (.int (if neg then -(n : Int) else n), r) := by
  have hhead : Nat.toDigits 10 n = ['0'] ∨
      ∃ c cs, Nat.toDigits 10 n = c :: cs ∧ c ≠ '0' := by
    by_cases h : n = 0
    · left; rw [h]; exact Nat.toDigits_zero 10
    · right; exact toDigits_head h
  rw [parseUnsigned_digits neg (isDigit_toDigits n) hhead hr.digitEnd]
  have hf := parseFrac_none (r := r) fun r' heq => (hr _ r' heq).2.1 rfl
  have he := parseExp_none (r := r) fun c r' heq => (hr c r' heq).2.2
  simp only [parseAfterInt, hf, he, Nat.ofDigitChars_ten_toDigits]

/-- The value a float literal's parts stand for. -/
theorem parseAfterInt_frac (neg : Bool) (ds : List Char) {fs r : List Char} (hne : fs ≠ [])
    (hfs : ∀ c ∈ fs, c.isDigit = true) (hr : NumEnd r) :
    parseAfterInt neg ds ('.' :: (fs ++ r)) =
      (.float (.finite (Decimal.ofScaled neg (Nat.ofDigitChars 10 (ds ++ fs) 0)
        (-(fs.length : Int)))), r) := by
  have he := parseExp_none (r := r) fun c r' heq => (hr c r' heq).2.2
  simp only [parseAfterInt, parseFrac_digits hne hfs hr.digitEnd, he]
  simp

theorem parseAfterInt_exp {neg : Bool} {ds fs r : List Char} (e : Int)
    (hfs : ∀ c ∈ fs, c.isDigit = true) (hr : NumEnd r) :
    parseAfterInt neg ds ((if fs = [] then [] else '.' :: fs) ++ (dumpsExp e ++ r)) =
      (.float (.finite (Decimal.ofScaled neg (Nat.ofDigitChars 10 (ds ++ fs) 0)
        (e - fs.length))), r) := by
  have hexp : DigitEnd (dumpsExp e ++ r) := by
    intro c r' heq
    simp only [dumpsExp, List.cons_append] at heq
    rw [← (List.cons.inj heq).1]
    rfl
  by_cases hnil : fs = []
  · have hf : parseFrac (dumpsExp e ++ r) = (none, dumpsExp e ++ r) := by
      apply parseFrac_none
      intro r' heq
      simp only [dumpsExp, List.cons_append] at heq
      exact absurd (List.cons.inj heq).1 (by decide)
    simp only [hnil, if_true, List.nil_append, parseAfterInt, hf,
      parseExp_dumpsExp e hr.digitEnd]
    simp
  · simp only [hnil, if_false, List.cons_append, parseAfterInt,
      parseFrac_digits hnil hfs hexp, parseExp_dumpsExp e hr.digitEnd]
    simp

theorem length_toDigits_pos (n : Nat) : 0 < (Nat.toDigits 10 n).length :=
  List.length_pos_iff.mpr (toDigits_ne_nil n)

/-- A finite float literal without its sign is read back. -/
theorem parseUnsigned_mantissa (d : Decimal) {r : List Char} (hr : NumEnd r) :
    parseUnsigned d.neg (dumpsMantissa d ++ r) = some (.float (.finite d), r) := by
  have hdig := isDigit_toDigits d.coeff
  have hval : Nat.ofDigitChars 10 (Nat.toDigits 10 d.coeff) 0 = d.coeff :=
    Nat.ofDigitChars_ten_toDigits
  have hpos := length_toDigits_pos d.coeff
  have hzero : d.coeff = 0 → Nat.toDigits 10 d.coeff = ['0'] ∧ d.exp = 0 := by
    intro h
    refine ⟨by rw [h]; exact Nat.toDigits_zero 10, ?_⟩
    rcases d.normal with h' | h'
    · exact h'.2
    · rw [h] at h'; exact absurd rfl h'
  have hhead : Nat.toDigits 10 d.coeff = ['0'] ∨
      ∃ c cs, Nat.toDigits 10 d.coeff = c :: cs ∧ c ≠ '0' := by
    by_cases h : d.coeff = 0
    · exact Or.inl (hzero h).1
    · exact Or.inr (toDigits_head h)
  have hdot : ∀ xs : List Char, DigitEnd ('.' :: xs) := by
    intro xs c r' heq
    rw [← (List.cons.inj heq).1]
    rfl
  generalize hds : Nat.toDigits 10 d.coeff = ds at *
  simp only [dumpsMantissa, hds]
  split
  · -- scientific notation
    next hsci =>
    cases ds with
    | nil => simp at hpos
    | cons c cs =>
      have hcs : ∀ x ∈ cs, x.isDigit = true := fun x hx => hdig x (by simp [hx])
      have hc : ∀ x ∈ [c], x.isDigit = true := fun x hx => hdig x (by simp_all)
      have hchead : [c] = ['0'] ∨ ∃ a as, [c] = a :: as ∧ a ≠ '0' := by
        by_cases h0 : c = '0'
        · exact Or.inl (by rw [h0])
        · exact Or.inr ⟨c, [], rfl, h0⟩
      have hend : DigitEnd ((if cs = [] then [] else '.' :: cs) ++
          (dumpsExp (((c :: cs).length : Int) + d.exp - 1) ++ r)) := by
        split
        · intro x r' heq
          simp only [dumpsExp, List.nil_append, List.cons_append] at heq
          rw [← (List.cons.inj heq).1]
          rfl
        · exact hdot _
      have hrun := parseUnsigned_digits d.neg hc hchead hend
      simp only [List.cons_append, List.nil_append, List.append_assoc] at hrun ⊢
      rw [hrun, parseAfterInt_exp _ hcs hr, List.singleton_append, hval]
      have hexp : ((c :: cs).length : Int) + d.exp - 1 - cs.length = d.exp := by
        simp only [List.length_cons]; push_cast; ring
      rw [hexp, Decimal.ofScaled_self]
  · split
    · -- a leading `0.` and zeros
      next _ hle =>
      have hz : ∀ c ∈ List.replicate (-((ds.length : Int) + d.exp)).toNat '0' ++ ds,
          c.isDigit = true := by
        intro c hc
        rcases List.mem_append.mp hc with hc | hc
        · rw [(List.mem_replicate.mp hc).2]; rfl
        · exact hdig c hc
      have hne : List.replicate (-((ds.length : Int) + d.exp)).toNat '0' ++ ds ≠ [] := by
        intro h
        rw [(List.append_eq_nil_iff.mp h).2] at hpos
        simp at hpos
      have hrun := parseUnsigned_digits d.neg (show ∀ c ∈ ['0'], c.isDigit = true by simp) (Or.inl rfl)
        (hdot (List.replicate (-((ds.length : Int) + d.exp)).toNat '0' ++ ds ++ r))
      simp only [List.cons_append, List.nil_append, List.append_assoc] at hrun ⊢
      rw [hrun, ← List.append_assoc, parseAfterInt_frac _ _ hne hz hr, List.singleton_append,
        ofDigitChars_zero_cons, Nat.ofDigitChars_append, Nat.ofDigitChars_replicate_zero,
        Nat.mul_zero, hval]
      have hexp : -((List.replicate (-((ds.length : Int) + d.exp)).toNat '0' ++ ds).length : Int)
          = d.exp := by
        simp only [List.length_append, List.length_replicate]; push_cast; omega
      rw [hexp, Decimal.ofScaled_self]
    · split
      · -- the point inside the digits
        next _ hgt hlt =>
        have hpt : ((ds.length : Int) + d.exp).toNat < ds.length := by omega
        have hppos : 0 < ((ds.length : Int) + d.exp).toNat := by omega
        generalize hp : ((ds.length : Int) + d.exp).toNat = p at *
        have htake : ∀ c ∈ ds.take p, c.isDigit = true := fun c hc => hdig c (List.mem_of_mem_take hc)
        have hdrop : ∀ c ∈ ds.drop p, c.isDigit = true := fun c hc => hdig c (List.mem_of_mem_drop hc)
        have hdne : ds.drop p ≠ [] := by
          intro h
          have := List.drop_eq_nil_iff.mp h
          omega
        have hthead : ds.take p = ['0'] ∨ ∃ c cs, ds.take p = c :: cs ∧ c ≠ '0' := by
          rcases hhead with h | ⟨c, cs, h, hc⟩
          · rw [h] at hpt; simp at hpt; omega
          · right
            obtain ⟨q, rfl⟩ : ∃ q, p = q + 1 := ⟨p - 1, by omega⟩
            exact ⟨c, cs.take q, by rw [h]; rfl, hc⟩
        have hrun := parseUnsigned_digits d.neg htake hthead
          (hdot (ds.drop p ++ r))
        simp only [List.cons_append, List.append_assoc] at hrun ⊢
        rw [hrun, parseAfterInt_frac _ _ hdne hdrop hr, List.take_append_drop, hval]
        have hexp : -((ds.drop p).length : Int) = d.exp := by
          rw [List.length_drop]; omega
        rw [hexp, Decimal.ofScaled_self]
      · -- trailing zeros and `.0`
        next _ hgt hge =>
        have hpad : ((ds.length : Int) + d.exp).toNat - ds.length = d.exp.toNat := by omega
        have he0 : (d.exp.toNat : Int) = d.exp := by omega
        rw [hpad]
        have hz : ∀ c ∈ ds ++ List.replicate d.exp.toNat '0', c.isDigit = true := by
          intro c hc
          rcases List.mem_append.mp hc with hc | hc
          · exact hdig c hc
          · rw [(List.mem_replicate.mp hc).2]; rfl
        have hzhead : ds ++ List.replicate d.exp.toNat '0' = ['0'] ∨
            ∃ c cs, ds ++ List.replicate d.exp.toNat '0' = c :: cs ∧ c ≠ '0' := by
          rcases hhead with h | ⟨c, cs, h, hc⟩
          · left
            have hc0 : d.coeff = 0 := by
              rw [h] at hval
              simpa [Nat.ofDigitChars_cons] using hval.symm
            rw [h, (hzero hc0).2]
            rfl
          · right
            exact ⟨c, cs ++ List.replicate d.exp.toNat '0', by rw [h]; rfl, hc⟩
        have hrun := parseUnsigned_digits d.neg hz hzhead (hdot (['0'] ++ r))
        simp only [List.append_assoc, List.cons_append, List.nil_append] at hrun ⊢
        rw [hrun]
        have hfrac := parseAfterInt_frac d.neg (ds ++ List.replicate d.exp.toNat '0')
          (show ['0'] ≠ [] by simp) (by simp) hr
        simp only [List.cons_append, List.nil_append] at hfrac
        rw [hfrac]
        have hcoeff : Nat.ofDigitChars 10 (ds ++ List.replicate d.exp.toNat '0' ++ ['0']) 0
            = d.coeff * 10 ^ (d.exp.toNat + 1) := by
          have : List.replicate d.exp.toNat '0' ++ ['0'] = List.replicate (d.exp.toNat + 1) '0' := by
            rw [List.replicate_succ']
          rw [List.append_assoc, this, Nat.ofDigitChars_append, hval,
            Nat.ofDigitChars_replicate_zero, Nat.mul_comm]
        rw [hcoeff, Decimal.ofScaled_mul_pow]
        have hexp : -(([ '0' ] : List Char).length : Int) + ((d.exp.toNat + 1 : Nat) : Int) = d.exp := by
          simp only [List.length_singleton]; push_cast; omega
        rw [hexp, Decimal.ofScaled_self]

/-! ## Section 3: Values -/

mutual

/-- Fuel that suffices to read the value back. -/
def size : Json → Nat
  | .arr xs => 1 + sizeElems xs
  | .obj ms => 1 + sizeMembers ms
  | _ => 1

def sizeElems : List Json → Nat
  | [] => 0
  | x :: xs => 1 + size x + sizeElems xs

def sizeMembers : Members → Nat
  | [] => 0
  | (_, v) :: ms => 1 + size v + sizeMembers ms

end

theorem dumpsMantissa_head (d : Decimal) :
    ∃ c cs, dumpsMantissa d = c :: cs ∧ c.isDigit = true := by
  have hne := toDigits_ne_nil d.coeff
  have hdig := isDigit_toDigits d.coeff
  unfold dumpsMantissa
  cases hds : Nat.toDigits 10 d.coeff with
  | nil => exact absurd hds hne
  | cons c cs =>
    have hc : c.isDigit = true := hdig c (by rw [hds]; simp)
    simp only
    split
    · exact ⟨c, _, rfl, hc⟩
    · split
      · exact ⟨'0', _, rfl, rfl⟩
      · split
        · next hpos _ =>
          obtain ⟨p, hp⟩ : ∃ p, (((c :: cs).length : Int) + d.exp).toNat = p + 1 :=
            ⟨(((c :: cs).length : Int) + d.exp).toNat - 1, by omega⟩
          rw [hp]
          exact ⟨c, _, rfl, hc⟩
        · exact ⟨c, _, rfl, hc⟩

theorem dumpsInt_head (i : Int) :
    ∃ c cs, dumpsInt i = c :: cs ∧ (c.isDigit = true ∨ c = '-') := by
  unfold dumpsInt
  split
  · exact ⟨'-', _, rfl, Or.inr rfl⟩
  · cases hds : Nat.toDigits 10 i.natAbs with
    | nil => exact absurd hds (toDigits_ne_nil _)
    | cons c cs => exact ⟨c, cs, rfl, Or.inl (isDigit_toDigits i.natAbs c (by rw [hds]; simp))⟩

/-- A character a value can begin with: neither white space nor a closing
    bracket. -/
def Opens (c : Char) : Prop := isWs c = false ∧ c ≠ ']' ∧ c ≠ '}'

theorem opens_digit {c : Char} (h : c.isDigit = true) : Opens c := by
  refine ⟨?_, ?_, ?_⟩
  · cases hw : isWs c with
    | false => rfl
    | true =>
      simp only [isWs, Bool.or_eq_true, beq_iff_eq] at hw
      rcases hw with ((rfl | rfl) | rfl) | rfl <;> exact absurd h (by decide)
  · rintro rfl; exact absurd h (by decide)
  · rintro rfl; exact absurd h (by decide)

theorem dumps_head (st : Style) (v : Json) : ∃ c cs, dumps st v = c :: cs ∧ Opens c := by
  have lit : ∀ c cs, Opens c → ∃ c' cs', c :: cs = c' :: cs' ∧ Opens c' :=
    fun c cs h => ⟨c, cs, rfl, h⟩
  cases v with
  | null => exact lit 'n' _ (by simp [Opens, isWs])
  | bool b => cases b with
    | true => exact lit 't' _ (by simp [Opens, isWs])
    | false => exact lit 'f' _ (by simp [Opens, isWs])
  | int i =>
    obtain ⟨c, cs, h, hc⟩ := dumpsInt_head i
    refine ⟨c, cs, by rw [dumps, h], ?_⟩
    rcases hc with hc | rfl
    · exact opens_digit hc
    · simp [Opens, isWs]
  | float x =>
    cases x with
    | finite d =>
      obtain ⟨c, cs, h, hc⟩ := dumpsMantissa_head d
      rw [dumps, dumpsFloat]
      split
      · exact lit '-' _ (by simp [Opens, isWs])
      · exact ⟨c, cs, h, opens_digit hc⟩
    | infinity neg => cases neg with
      | true => exact lit '-' _ (by simp [Opens, isWs])
      | false => exact lit 'I' _ (by simp [Opens, isWs])
    | nan => exact lit 'N' _ (by simp [Opens, isWs])
  | str s => exact lit '"' _ (by simp [Opens, isWs])
  | arr xs => cases xs with
    | nil => exact lit '[' _ (by simp [Opens, isWs])
    | cons x xs => exact lit '[' _ (by simp [Opens, isWs])
  | obj ms => rcases ms with _ | ⟨⟨k, v⟩, ms⟩
              · exact lit '{' _ (by simp [Opens, isWs])
              · exact lit '{' _ (by simp [Opens, isWs])

theorem skipWs_cons {c : Char} {r : List Char} (h : isWs c = false) :
    skipWs (c :: r) = c :: r := by
  simp [skipWs, h]

theorem skipWs_dumps (st : Style) (v : Json) (r : List Char) :
    skipWs (dumps st v ++ r) = dumps st v ++ r := by
  obtain ⟨c, cs, h, hc⟩ := dumps_head st v
  rw [h, List.cons_append]
  exact skipWs_cons hc.1

/-- A separator is read up to the first character of what follows. -/
theorem sep_append (st : Style) (c : Char) (r : List Char) :
    ∃ r', sep st c ++ r = c :: r' ∧ skipWs r' = skipWs r := by
  unfold sep
  split
  · exact ⟨' ' :: r, rfl, by simp [skipWs, isWs]⟩
  · exact ⟨r, rfl, rfl⟩

theorem numEnd_dumpsElems (st : Style) (xs : List Json) (r : List Char) :
    NumEnd (dumpsElems st xs ++ r) := by
  cases xs with
  | nil => exact numEnd_cons (by decide)
  | cons x xs =>
    obtain ⟨r', h, -⟩ := sep_append st ',' (dumps st x ++ dumpsElems st xs ++ r)
    have heq : dumpsElems st (x :: xs) ++ r = ',' :: r' := by
      rw [← h]; simp [dumpsElems]
    rw [heq]
    exact numEnd_cons (by decide)

theorem numEnd_dumpsMembers (st : Style) (ms : Members) (r : List Char) :
    NumEnd (dumpsMembers st ms ++ r) := by
  rcases ms with _ | ⟨⟨k, v⟩, ms⟩
  · exact numEnd_cons (by decide)
  · obtain ⟨r', h, -⟩ := sep_append st ',' (dumpsStr st.ensure_ascii k ++
      (sep st ':' ++ (dumps st v ++ dumpsMembers st ms)) ++ r)
    have heq : dumpsMembers st ((k, v) :: ms) ++ r = ',' :: r' := by
      rw [← h]; simp [dumpsMembers]
    rw [heq]
    exact numEnd_cons (by decide)

/-- A number is read by its sign and first digit. -/
theorem parseValue_unsigned {c : Char} {cs : List Char} (n : Nat) (h : c.isDigit = true) :
    parseValue (n + 1) (c :: cs) = parseUnsigned false (c :: cs) := by
  rw [parseValue.eq_def]
  split
  · next heq => cases heq
  · next heq =>
    obtain rfl : n = _ := by simpa using heq
    split
    all_goals first
      | rfl
      | (next heq => obtain ⟨rfl, -⟩ := List.cons.inj heq; exact absurd h (by decide))

theorem parseValue_str (n : Nat) (ascii : Bool) (s : String) (r : List Char) :
    parseValue (n + 1) (dumpsStr ascii s ++ r) = some (.str s, r) := by
  simp only [dumpsStr, List.cons_append, parseValue, parseStr_escapeBody, Option.map_some,
    String.ofList_toList]

theorem parseValue_int (n : Nat) (i : Int) {r : List Char} (hr : NumEnd r) :
    parseValue (n + 1) (dumpsInt i ++ r) = some (.int i, r) := by
  unfold dumpsInt
  split
  · next hi =>
    simp only [List.cons_append, parseValue, parseUnsigned_nat _ _ hr, if_true]
    congr 3
    omega
  · next hi =>
    have hnat := parseUnsigned_nat false i.natAbs hr
    have habs : ((i.natAbs : Nat) : Int) = i := by omega
    cases hds : Nat.toDigits 10 i.natAbs with
    | nil => exact absurd hds (toDigits_ne_nil _)
    | cons c cs =>
      have hc : c.isDigit = true := isDigit_toDigits i.natAbs c (by rw [hds]; simp)
      rw [hds] at hnat
      rw [List.cons_append, parseValue_unsigned n hc, ← List.cons_append, hnat, habs]
      rfl

theorem parseValue_float (n : Nat) (x : JsonFloat) {r : List Char} (hr : NumEnd r) :
    parseValue (n + 1) (dumpsFloat x ++ r) = some (.float x, r) := by
  cases x with
  | nan => rfl
  | infinity neg => cases neg <;> rfl
  | finite d =>
    have hman := parseUnsigned_mantissa d hr
    simp only [dumpsFloat]
    split
    · next hneg =>
      rw [hneg] at hman
      simp only [List.cons_append, parseValue, hman]
    · next hneg =>
      have hneg' : d.neg = false := by simpa using hneg
      obtain ⟨c, cs, hcs, hc⟩ := dumpsMantissa_head d
      rw [hneg', hcs] at hman
      rw [hcs, List.cons_append, parseValue_unsigned n hc, ← List.cons_append, hman]

/-- The value is read back in front of any rest that does not continue a
    number. -/
def Reads (st : Style) (v : Json) : Prop :=
  ∀ n r, size v ≤ n → NumEnd r → parseValue n (dumps st v ++ r) = some (v, r)

theorem parseElems_dumps {st : Style} {x : Json} {xs : List Json}
    (h : ∀ y ∈ x :: xs, Reads st y) (n : Nat) (r : List Char) (hn : sizeElems (x :: xs) ≤ n) :
    parseElems n (dumps st x ++ (dumpsElems st xs ++ r)) = some (x :: xs, r) := by
  induction xs generalizing x n with
  | nil =>
    obtain ⟨m, rfl⟩ : ∃ m, n = m + 1 := ⟨n - 1, by simp [sizeElems] at hn; omega⟩
    simp only [sizeElems] at hn
    have hx := h x (by simp) m (dumpsElems st [] ++ r) (by omega) (numEnd_dumpsElems st [] r)
    simp only [parseElems, hx]
    rfl
  | cons y ys ih =>
    obtain ⟨m, rfl⟩ : ∃ m, n = m + 1 := ⟨n - 1, by simp [sizeElems] at hn; omega⟩
    simp only [sizeElems] at hn
    have hx := h x (by simp) m (dumpsElems st (y :: ys) ++ r) (by omega)
      (numEnd_dumpsElems st (y :: ys) r)
    obtain ⟨r', hsep, hskip⟩ := sep_append st ',' (dumps st y ++ (dumpsElems st ys ++ r))
    have hrest : dumpsElems st (y :: ys) ++ r = ',' :: r' := by
      rw [← hsep]; simp [dumpsElems]
    have hys := ih (fun z hz => h z (List.mem_cons_of_mem x hz)) m
      (by simp only [sizeElems]; omega)
    rw [hrest] at hx ⊢
    simp only [parseElems, hx, skipWs_cons (c := ',') rfl, hskip, skipWs_dumps, hys,
      Option.map_some]

theorem parseMembers_dumps {st : Style} {k : String} {v : Json} {ms : Members}
    (h : ∀ m ∈ (k, v) :: ms, Reads st m.2) (n : Nat) (r : List Char)
    (hn : sizeMembers ((k, v) :: ms) ≤ n) :
    parseMembers n (dumpsStr st.ensure_ascii k ++
      (sep st ':' ++ (dumps st v ++ (dumpsMembers st ms ++ r)))) = some ((k, v) :: ms, r) := by
  induction ms generalizing k v n with
  | nil =>
    obtain ⟨m, rfl⟩ : ∃ m, n = m + 1 := ⟨n - 1, by simp [sizeMembers] at hn; omega⟩
    simp only [sizeMembers] at hn
    have hv := h (k, v) (by simp) m (dumpsMembers st [] ++ r) (by simp only; omega)
      (numEnd_dumpsMembers st [] r)
    obtain ⟨r', hsep, hskip⟩ := sep_append st ':' (dumps st v ++ (dumpsMembers st [] ++ r))
    simp only at hv
    rw [hsep]
    simp only [dumpsStr, List.cons_append, parseMembers, parseStr_escapeBody,
      skipWs_cons (c := ':') rfl, hskip, skipWs_dumps, hv, String.ofList_toList]
    rfl
  | cons m' ms ih =>
    rcases m' with ⟨l, w⟩
    obtain ⟨m, rfl⟩ : ∃ m, n = m + 1 := ⟨n - 1, by simp [sizeMembers] at hn; omega⟩
    simp only [sizeMembers] at hn
    have hv := h (k, v) (by simp) m (dumpsMembers st ((l, w) :: ms) ++ r) (by simp only; omega)
      (numEnd_dumpsMembers st ((l, w) :: ms) r)
    have hms := ih (fun z hz => h z (List.mem_cons_of_mem _ hz)) m
      (by simp only [sizeMembers]; omega)
    obtain ⟨r₁, hcomma, hskip₁⟩ := sep_append st ',' (dumpsStr st.ensure_ascii l ++
      (sep st ':' ++ (dumps st w ++ (dumpsMembers st ms ++ r))))
    have hrest : dumpsMembers st ((l, w) :: ms) ++ r = ',' :: r₁ := by
      rw [← hcomma]; simp [dumpsMembers]
    have hkey : skipWs r₁ = dumpsStr st.ensure_ascii l ++
        (sep st ':' ++ (dumps st w ++ (dumpsMembers st ms ++ r))) := by
      rw [hskip₁, dumpsStr, List.cons_append]
      exact skipWs_cons rfl
    obtain ⟨r₂, hcolon, hskip₂⟩ := sep_append st ':' (dumps st v ++ ',' :: r₁)
    simp only [hrest] at hv ⊢
    rw [hcolon]
    simp only [dumpsStr, List.cons_append, parseMembers, parseStr_escapeBody,
      skipWs_cons (c := ':') rfl, skipWs_cons (c := ',') rfl, hskip₂, skipWs_dumps, hv,
      String.ofList_toList]
    simp only [dumpsStr, List.cons_append] at hkey hms
    rw [hkey, hms]
    rfl

/-- An array whose first element is at hand. -/
theorem parseValue_arr (st : Style) (x : Json) (n : Nat) (r : List Char) :
    parseValue (n + 1) ('[' :: (dumps st x ++ r)) =
      (parseElems n (dumps st x ++ r)).map fun p => (.arr p.1, p.2) := by
  obtain ⟨c, cs, h, hc⟩ := dumps_head st x
  have hskip := skipWs_dumps st x r
  rw [h, List.cons_append] at hskip ⊢
  simp only [parseValue, hskip]
  split
  · next heq => exact absurd (List.cons.inj heq).1 hc.2.1
  · rfl

/-- An object whose first key is at hand. -/
theorem parseValue_obj (n : Nat) (r : List Char) :
    parseValue (n + 1) ('{' :: '"' :: r) =
      (parseMembers n ('"' :: r)).map fun p => (.obj p.1, p.2) := by
  rfl

theorem reads_all (st : Style) (v : Json) : Reads st v := by
  induction v using ind with
  | null =>
    intro n r hn hr
    obtain ⟨m, rfl⟩ : ∃ m, n = m + 1 := ⟨n - 1, by simp [size] at hn; omega⟩
    rfl
  | bool b =>
    intro n r hn hr
    obtain ⟨m, rfl⟩ : ∃ m, n = m + 1 := ⟨n - 1, by simp [size] at hn; omega⟩
    cases b <;> rfl
  | int i =>
    intro n r hn hr
    obtain ⟨m, rfl⟩ : ∃ m, n = m + 1 := ⟨n - 1, by simp [size] at hn; omega⟩
    exact parseValue_int m i hr
  | float x =>
    intro n r hn hr
    obtain ⟨m, rfl⟩ : ∃ m, n = m + 1 := ⟨n - 1, by simp [size] at hn; omega⟩
    exact parseValue_float m x hr
  | str s =>
    intro n r hn hr
    obtain ⟨m, rfl⟩ : ∃ m, n = m + 1 := ⟨n - 1, by simp [size] at hn; omega⟩
    exact parseValue_str m st.ensure_ascii s r
  | arr xs ih =>
    intro n r hn hr
    obtain ⟨m, rfl⟩ : ∃ m, n = m + 1 := ⟨n - 1, by simp [size] at hn; omega⟩
    cases xs with
    | nil => rfl
    | cons x xs =>
      have hm : sizeElems (x :: xs) ≤ m := by simp only [size] at hn; omega
      have helems := parseElems_dumps ih m r hm
      simp only [dumps, List.cons_append, List.append_assoc]
      rw [parseValue_arr, helems]
      rfl
  | obj ms ih =>
    intro n r hn hr
    obtain ⟨m, rfl⟩ : ∃ m, n = m + 1 := ⟨n - 1, by simp [size] at hn; omega⟩
    rcases ms with _ | ⟨⟨k, v⟩, ms⟩
    · rfl
    · have hm : sizeMembers ((k, v) :: ms) ≤ m := by simp only [size] at hn; omega
      have hmembers := parseMembers_dumps ih m r hm
      simp only [dumpsStr, List.cons_append] at hmembers
      simp only [dumps, dumpsStr, List.cons_append, List.append_assoc]
      rw [parseValue_obj, hmembers]
      rfl

/-! ## Section 4: Whole texts -/

theorem length_dumps_pos (st : Style) (v : Json) : 1 ≤ (dumps st v).length := by
  obtain ⟨c, cs, h, -⟩ := dumps_head st v
  simp [h]

theorem length_sep_pos (st : Style) (c : Char) : 1 ≤ (sep st c).length := by
  unfold sep
  split <;> simp

theorem sizeElems_le (st : Style) {xs : List Json} (h : ∀ x ∈ xs, size x ≤ (dumps st x).length) :
    sizeElems xs + 1 ≤ (dumpsElems st xs).length := by
  induction xs with
  | nil => simp [sizeElems, dumpsElems]
  | cons x xs ih =>
    have hx := h x (by simp)
    have hxs := ih fun y hy => h y (by simp [hy])
    have hsep := length_sep_pos st ','
    simp only [sizeElems, dumpsElems, List.length_append]
    omega

theorem sizeMembers_le (st : Style) {ms : Members}
    (h : ∀ m ∈ ms, size m.2 ≤ (dumps st m.2).length) :
    sizeMembers ms + 1 ≤ (dumpsMembers st ms).length := by
  induction ms with
  | nil => simp [sizeMembers, dumpsMembers]
  | cons m ms ih =>
    rcases m with ⟨k, v⟩
    have hv := h (k, v) (by simp)
    have hms := ih fun y hy => h y (by simp [hy])
    have hsep := length_sep_pos st ','
    simp only at hv
    simp only [sizeMembers, dumpsMembers, List.length_append]
    omega

/-- The text of a value is long enough to serve as fuel. -/
theorem size_le_length (st : Style) (v : Json) : size v ≤ (dumps st v).length := by
  induction v using ind with
  | arr xs ih =>
    cases xs with
    | nil => simp [size, sizeElems, dumps]
    | cons x xs =>
      have hx := ih x (by simp)
      have hxs := sizeElems_le st fun y hy => ih y (List.mem_cons_of_mem x hy)
      simp only [size, sizeElems, dumps, List.length_cons, List.length_append]
      omega
  | obj ms ih =>
    rcases ms with _ | ⟨⟨k, v⟩, ms⟩
    · simp [size, sizeMembers, dumps]
    · have hv := ih (k, v) (by simp)
      have hms := sizeMembers_le st fun y hy => ih y (List.mem_cons_of_mem _ hy)
      simp only at hv
      simp only [size, sizeMembers, dumps, List.length_cons, List.length_append]
      omega
  | _ => simp only [size]; exact length_dumps_pos st _

/-- **The decoder inverts the encoder**. -/
theorem parse_dumps (st : Style) (v : Json) : parse (dumps st v) = some v := by
  have hskip := skipWs_dumps st v []
  have hread := reads_all st v ((dumps st v).length + 1) []
    (by have := size_le_length st v; omega) numEnd_nil
  rw [List.append_nil] at hskip hread
  simp only [parse, hskip, hread]
  rfl

theorem dumps_injective {st : Style} {v w : Json} (h : dumps st v = dumps st w) : v = w := by
  have hv := parse_dumps st v
  rw [h, parse_dumps] at hv
  exact (Option.some.inj hv).symm

/-! ## Section 5: Dictionaries -/

theorem normalizeElems_eq {xs : List Json} (h : ∀ x ∈ xs, normalize x = x) :
    normalizeElems xs = xs := by
  induction xs with
  | nil => rfl
  | cons x xs ih =>
    rw [normalizeElems, h x (by simp), ih fun y hy => h y (by simp [hy])]

theorem normalizeMembers_eq {ms : Members} (h : ∀ m ∈ ms, normalize m.2 = m.2) :
    normalizeMembers ms = ms := by
  induction ms with
  | nil => rfl
  | cons m ms ih =>
    rcases m with ⟨k, v⟩
    have hv := h (k, v) (by simp)
    simp only at hv
    rw [normalizeMembers, hv, ih fun y hy => h y (by simp [hy])]

/-- A value already made of dictionaries is left as it is. -/
theorem normalize_wf {v : Json} (h : WF v) : normalize v = v := by
  induction h with
  | arr _ ih => rw [normalize, normalizeElems_eq ih]
  | obj hs _ ih => rw [normalize, normalizeMembers_eq ih, dictOf_sorted hs]
  | _ => rfl

theorem wf_normalizeElems {xs : List Json} (h : ∀ x ∈ xs, WF (normalize x)) :
    ∀ x ∈ normalizeElems xs, WF x := by
  induction xs with
  | nil => simp [normalizeElems]
  | cons x xs ih =>
    intro y hy
    rcases List.mem_cons.mp hy with rfl | hy
    · exact h x (by simp)
    · exact ih (fun z hz => h z (by simp [hz])) y hy

theorem wf_normalizeMembers {ms : Members} (h : ∀ m ∈ ms, WF (normalize m.2)) :
    ∀ m ∈ normalizeMembers ms, WF m.2 := by
  induction ms with
  | nil => simp [normalizeMembers]
  | cons m ms ih =>
    rcases m with ⟨k, v⟩
    intro y hy
    rcases List.mem_cons.mp hy with rfl | hy
    · exact h (k, v) (by simp)
    · exact ih (fun z hz => h z (by simp [hz])) y hy

/-- Decoding makes dictionaries. -/
theorem wf_normalize (v : Json) : WF (normalize v) := by
  induction v using ind with
  | null => exact WF.null
  | bool b => exact WF.bool b
  | int i => exact WF.int i
  | float x => exact WF.float x
  | str s => exact WF.str s
  | arr xs ih => exact WF.arr (wf_normalizeElems ih)
  | obj ms ih => exact wf_dictOf (wf_normalizeMembers ih)

theorem normalizeMembers_eq_map (ms : Members) :
    normalizeMembers ms = ms.map fun m => (m.1, normalize m.2) := by
  induction ms with
  | nil => rfl
  | cons m ms ih => rw [normalizeMembers, ih, List.map_cons]

theorem mem_dictOf {ms : Members} {m : String × Json} (h : m ∈ dictOf ms) : m ∈ ms := by
  suffices hgen : ∀ acc : Members, m ∈ ms.foldl (fun acc m => setMember m.1 m.2 acc) acc →
      m ∈ acc ∨ m ∈ ms by
    rcases hgen [] h with hnil | hm
    · cases hnil
    · exact hm
  clear h
  induction ms with
  | nil => exact fun acc h => Or.inl h
  | cons x ms ih =>
    intro acc h
    rcases ih _ h with hacc | hm
    · rcases mem_setMember hacc with rfl | hacc
      · exact Or.inr List.mem_cons_self
      · exact Or.inl hacc
    · exact Or.inr (List.mem_cons_of_mem x hm)

/-- The normal form of a finite value is finite. -/
theorem finite_normalize (v : Json) (h : finite v = true) : finite (normalize v) = true := by
  induction v using Json.ind with
  | null => exact h
  | bool b => exact h
  | int i => exact h
  | float x => exact h
  | str s => exact h
  | arr xs ih =>
    rw [finite, finiteElems_iff] at h
    rw [normalize, finite]
    induction xs with
    | nil => rfl
    | cons x xs ihxs =>
      rw [normalizeElems, finiteElems, ih x List.mem_cons_self (h x List.mem_cons_self),
        ihxs (fun y hy => ih y (List.mem_cons_of_mem x hy))
          (fun y hy => h y (List.mem_cons_of_mem x hy))]
      rfl
  | obj ms ih =>
    rw [finite, finiteMembers_iff] at h
    rw [normalize, finite, finiteMembers_iff]
    intro m hm
    have hmem := mem_dictOf hm
    rw [normalizeMembers_eq_map] at hmem
    obtain ⟨n, hn, rfl⟩ := List.mem_map.mp hmem
    exact ih n hn (h n hn)

theorem wf_loads {cs : List Char} {v : Json} (h : loads cs = some v) : WF v := by
  unfold loads at h
  obtain ⟨w, -, rfl⟩ := Option.map_eq_some_iff.mp h
  exact wf_normalize w

/-- **Dictionaries survive the round trip**. -/
theorem loads_dumps (st : Style) {v : Json} (h : WF v) : loads (dumps st v) = some v := by
  rw [loads, parse_dumps, Option.map_some, normalize_wf h]

theorem pairwise_setMember {k : String} {v : Json} {ms : Members}
    (h : ms.Pairwise (fun a b => a.1 < b.1)) :
    (setMember k v ms).Pairwise (fun a b => a.1 < b.1) := by
  induction ms with
  | nil => simp [setMember]
  | cons a ms ih =>
    rcases a with ⟨l, w⟩
    have hsorted := List.pairwise_cons.mp h
    simp only [setMember]
    split
    · next hkl =>
      apply List.pairwise_cons.mpr
      refine ⟨?_, h⟩
      intro m hm
      rcases List.mem_cons.mp hm with rfl | hm
      · exact hkl
      · exact String.lt_trans hkl (hsorted.1 m hm)
    · next hkl =>
      split
      · next heq =>
        subst heq
        exact List.pairwise_cons.mpr ⟨hsorted.1, hsorted.2⟩
      · next hne =>
        apply List.pairwise_cons.mpr
        refine ⟨?_, ih hsorted.2⟩
        intro m hm
        rcases mem_setMember hm with rfl | hm
        · have hle := String.not_lt.mp hkl
          by_contra hlk
          exact hne (String.le_antisymm (String.not_lt.mp hlk) hle)
        · exact hsorted.1 m hm

/-- An object is in key order, whatever its values. -/
theorem pairwise_dictOf (ms : Members) : (dictOf ms).Pairwise (fun a b => a.1 < b.1) := by
  suffices hgen : ∀ acc : Members, acc.Pairwise (fun a b => a.1 < b.1) →
      (ms.foldl (fun acc m => setMember m.1 m.2 acc) acc).Pairwise (fun a b => a.1 < b.1) by
    exact hgen [] List.Pairwise.nil
  induction ms with
  | nil =>
    intro acc hacc
    exact hacc
  | cons m ms ih =>
    intro acc hacc
    exact ih _ (pairwise_setMember hacc)

theorem get?_map (f : Json → Json) (ms : Members) (k : String) :
    get? (ms.map fun m => (m.1, f m.2)) k = (get? ms k).map f := by
  induction ms with
  | nil => rfl
  | cons m ms ih =>
    rw [List.map_cons, get?_cons, get?_cons, ih]
    split <;> rfl

/-- **What the text of a literal holds**: under each key the normal form of
    the value the literal has there. -/
theorem loads_dumps_dictOf (st : Style) (ms : Members) :
    ∃ d : Dict, loads (dumps st (.obj (dictOf ms))) = some d.json ∧
      ∀ k, d.get k = normalize ((get? ms.reverse k).getD .null) := by
  have hsorted : (normalizeMembers (dictOf ms)).Pairwise (fun a b => a.1 < b.1) := by
    rw [normalizeMembers_eq_map]
    exact List.pairwise_map.mpr (pairwise_dictOf ms)
  have hnormal : normalize (.obj (dictOf ms)) = .obj (normalizeMembers (dictOf ms)) := by
    rw [normalize, dictOf_sorted hsorted]
  have hwf : WF (.obj (normalizeMembers (dictOf ms))) := by
    rw [← hnormal]
    exact wf_normalize _
  refine ⟨⟨normalizeMembers (dictOf ms), hwf⟩, ?_, ?_⟩
  · rw [loads, parse_dumps, Option.map_some, hnormal]
    rfl
  · intro k
    show (get? (normalizeMembers (dictOf ms)) k).getD .null = _
    rw [normalizeMembers_eq_map, get?_map, get?_dictOf]
    cases get? ms.reverse k <;> rfl

/-! ## Section 6: Bytes -/

theorem fromUTF8?_toUTF8 (s : String) : String.fromUTF8? s.toUTF8 = some s := by
  unfold String.fromUTF8?
  split
  · next h => rfl
  · next h => exact absurd s.isValidUTF8 h

theorem encode_injective {cs ds : List Char} (h : encode cs = encode ds) : cs = ds := by
  have hs := congrArg String.fromUTF8? h
  rw [encode, encode, fromUTF8?_toUTF8, fromUTF8?_toUTF8] at hs
  have := congrArg String.toList (Option.some.inj hs)
  simpa using this

theorem loadsBytes_encode (cs : List Char) : loadsBytes (encode cs) = loads cs := by
  rw [loadsBytes, encode, fromUTF8?_toUTF8, Option.bind_some, String.toList_ofList]

theorem wf_loadsBytes {b : ByteArray} {v : Json} (h : loadsBytes b = some v) : WF v := by
  unfold loadsBytes at h
  obtain ⟨s, -, hs⟩ := Option.bind_eq_some_iff.mp h
  exact wf_loads hs

theorem loadsBytes_dumps (st : Style) {v : Json} (h : WF v) :
    loadsBytes (encode (dumps st v)) = some v := by
  rw [loadsBytes_encode, loads_dumps st h]

/-- A dictionary's canonical bytes decode to it. -/
theorem loadsBytes_canonical (d : Dict) : loadsBytes (canonical d.json) = some d.json :=
  loadsBytes_dumps .canonical d.wf

theorem canonical_injective {v w : Json} (h : canonical v = canonical w) : v = w :=
  dumps_injective (encode_injective h)

end Json

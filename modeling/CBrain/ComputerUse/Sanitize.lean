import CBrain.Contracts
import Mathlib.Data.List.Infix

/-! # Sanitizing what a page shows

    Models `sanitize_excerpt` and `looks_like_secret` (`cbrain/computer_use/sanitize.py`).

    The text is redacted line by line and the lines are joined again.  `\s` of the pattern
    matches a line feed too, so a name at the end of one line and a value in a later one
    make a match of the joined text that no line is.

    * `isWord`       : `\w`, of which only ASCII is fixed.
    * `LeftOpen`     : a kept line ends within an assignment, and later lines complete it.
    * `SanitizedLaw` : no marker, no assignment, and nothing to sanitize again. -/

namespace CBrain.ComputerUse

/-! ## Section 1: Lines -/

/-- The characters at which `str.splitlines` breaks. -/
def isBreak (c : Char) : Bool :=
  let n := c.toNat
  (10 ≤ n && n ≤ 13) || (28 ≤ n && n ≤ 30) || n == 0x85 || n == 0x2028 || n == 0x2029

/-- `text.splitlines()`. -/
def splitLines : List Char → List (List Char)
  | [] => []
  | '\r' :: '\n' :: cs => [] :: splitLines cs
  | c :: cs =>
    if isBreak c then [] :: splitLines cs
    else
      match splitLines cs with
      | [] => [[c]]
      | line :: lines => (c :: line) :: lines

/-- `text.splitlines() or [text]`. -/
def linesOf (text : List Char) : List (List Char) :=
  if splitLines text = [] then [text] else splitLines text

/-- `"\n".join(lines)`. -/
def joinLines : List (List Char) → List Char
  | [] => []
  | [line] => line
  | line :: lines => line ++ '\n' :: joinLines lines

/-! ## Section 2: Secrets -/

/-- `_SECRET_MARKERS`. -/
def SECRET_MARKERS : List String :=
  ["password", "passwd", "secret", "api_key", "apikey", "token", "bearer ", "authorization:"]

/-- `str.lower()` of a character, as far as a marker can tell: no other character outside
    ASCII has one of ASCII in lower case. -/
def lowerChar (c : Char) : List Char :=
  if c.toNat = 0x212A then ['k']
  else if c.toNat = 0x130 then ['i', Char.ofNat 0x307]
  else [c.toLower]

/-- `looks_like_secret`. -/
def looksLikeSecret (text : List Char) : Bool :=
  SECRET_MARKERS.any fun marker => decide (marker.toList <:+: text.flatMap lowerChar)

/-- The names of `_ASSIGNMENT`. -/
def ASSIGNMENT_NAMES : List String :=
  ["password", "passwd", "secret", "api_key", "api-key", "apikey", "token", "authorization"]

/-- A letter of the pattern with `(?i)`. -/
def sameLetter (letter c : Char) : Bool :=
  c.toLower == letter ||
    (letter == 'i' && (c.toNat == 0x130 || c.toNat == 0x131)) ||
    (letter == 's' && c.toNat == 0x17F) || (letter == 'k' && c.toNat == 0x212A)

/-- The text begins with the name. -/
def beginsWith : List Char → List Char → Bool
  | [], _ => true
  | _ :: _, [] => false
  | letter :: letters, c :: cs => sameLetter letter c && beginsWith letters cs

/-- `[:=]`. -/
def isSeparator (c : Char) : Bool := c == ':' || c == '='

/-- `\s*\S+`. -/
def afterSeparator (cs : List Char) : Bool := cs.any fun c => !isSpace c

/-- `\s*[:=]\s*\S+`. -/
def afterName (cs : List Char) : Bool :=
  match cs.dropWhile isSpace with
  | [] => false
  | c :: rest => isSeparator c && afterSeparator rest

section pattern
variable (isWord : Char → Bool)

/-- `\b` between two characters, each of which may be absent. -/
def boundary (before after : Option Char) : Bool := before.any isWord != after.any isWord

/-- A name between word boundaries begins the text, and what follows is accepted. -/
def namedAt (accept : List Char → Bool) (before : Option Char) (cs : List Char) : Bool :=
  ASSIGNMENT_NAMES.any fun name =>
    beginsWith name.toList cs && accept (cs.drop name.length) && boundary isWord before cs.head? &&
      boundary isWord (cs.take name.length).getLast? (cs.drop name.length).head?

/-- The same somewhere in the text. -/
def namedIn (accept : List Char → Bool) (before : Option Char) : List Char → Bool
  | [] => false
  | c :: cs => namedAt isWord accept before (c :: cs) || namedIn accept (some c) cs

/-- `_ASSIGNMENT.search(text)`. -/
def hasAssignment (text : List Char) : Bool := namedIn isWord afterName none text

def REDACTED : List Char := "[redacted]".toList

/-- `looks_like_secret(line) or _ASSIGNMENT.search(line)`. -/
def redacts (line : List Char) : Bool := looksLikeSecret line || hasAssignment isWord line

/-- A line of the output. -/
def redactLine (line : List Char) : List Char := if redacts isWord line then REDACTED else line

/-- `sanitize_excerpt`. -/
def sanitizeExcerpt (text : List Char) : List Char :=
  joinLines ((linesOf text).map (redactLine isWord))

/-! ## Section 3: What lines leave open -/

/-- A separator is all there is, apart from blanks. -/
def onlySeparator (cs : List Char) : Bool :=
  match cs.dropWhile isSpace with
  | [] => false
  | c :: rest => isSeparator c && rest.all isSpace

/-- A name ends the line, apart from blanks. -/
def endsInName (line : List Char) : Bool :=
  namedIn isWord (fun rest => rest.all isSpace) none line

/-- A name with its separator ends the line, apart from blanks. -/
def endsInSeparator (line : List Char) : Bool :=
  namedIn isWord onlySeparator none line

/-- A line ends within an assignment, and the lines behind it complete that. -/
def Completed : List (List Char) → Prop
  | [] => False
  | line :: lines =>
    (endsInName isWord line = true ∧ afterName (joinLines lines) = true) ∨
      (endsInSeparator isWord line = true ∧ afterSeparator (joinLines lines) = true) ∨
      Completed lines

/-- A line that is not redacted ends within an assignment, and the lines behind it complete
    that.  A separator counts unless the line it begins is redacted, a value counts anyway. -/
def LeftOpen : List (List Char) → Prop
  | [] => False
  | line :: lines =>
    (redacts isWord line = false ∧ endsInName isWord line = true ∧
        afterName (joinLines lines) = true ∧
        ∀ next ∈ lines.find? afterSeparator, redacts isWord next = false) ∨
      (redacts isWord line = false ∧ endsInSeparator isWord line = true ∧
        afterSeparator (joinLines lines) = true) ∨
      LeftOpen lines

instance decidableLeftOpen : (lines : List (List Char)) → Decidable (LeftOpen isWord lines)
  | [] => inferInstanceAs (Decidable False)
  | _ :: lines =>
    have := decidableLeftOpen lines
    inferInstanceAs (Decidable (_ ∨ _ ∨ _))

end pattern

/-- What is fixed of `\w`. -/
def AsciiWords (isWord : Char → Bool) : Prop :=
  ∀ c : Char, c.toNat < 128 → isWord c = (c.isAlphanum || c == '_')

/-- What the text becomes has no marker and no assignment, and is left as it is. -/
structure SanitizedLaw (isWord : Char → Bool) (text : List Char) : Prop where
  markers : looksLikeSecret (sanitizeExcerpt isWord text) = false
  assignments : hasAssignment isWord (sanitizeExcerpt isWord text) = false
  again : sanitizeExcerpt isWord (sanitizeExcerpt isWord text) = sanitizeExcerpt isWord text

/-! ## Section 4: Assignments of joined lines -/

section joined
variable {isWord : Char → Bool}

/-- No letter of a pattern is a line feed. -/
theorem sameLetter_newline {letter : Char} (h : letter ≠ '\n') : sameLetter letter '\n' = false := by
  have hlower : ('\n' : Char).toLower = '\n' := by decide
  have hne : ('\n' == letter) = false := by simpa using fun heq => h heq.symm
  unfold sameLetter
  rw [hlower, hne]
  simp

theorem beginsWith_append {name cs rest : List Char} (h : '\n' ∉ name) :
    beginsWith name (cs ++ '\n' :: rest) = beginsWith name cs := by
  induction name generalizing cs with
  | nil => rfl
  | cons letter letters ih =>
    rw [List.mem_cons, not_or] at h
    cases cs with
    | nil =>
      show (sameLetter letter '\n' && _) = false
      rw [sameLetter_newline fun heq => h.1 heq.symm]
      rfl
    | cons c cs =>
      show (sameLetter letter c && beginsWith letters (cs ++ '\n' :: rest)) = _
      rw [ih h.2]
      rfl

theorem length_le_of_beginsWith {name cs : List Char} (h : beginsWith name cs = true) :
    name.length ≤ cs.length := by
  induction name generalizing cs with
  | nil => exact Nat.zero_le _
  | cons letter letters ih =>
    cases cs with
    | nil => cases h
    | cons c cs =>
      have hrest : beginsWith letters cs = true := (Bool.and_eq_true_iff.mp h).2
      exact Nat.succ_le_succ (ih hrest)

theorem names_plain : ∀ name ∈ ASSIGNMENT_NAMES, '\n' ∉ name.toList ∧ name.toList ≠ [] := by
  decide

/-- A line feed is a boundary like the end of the text. -/
theorem boundary_newline (hword : isWord '\n' = false) (before : Option Char) (cs rest : List Char) :
    boundary isWord before (cs ++ '\n' :: rest).head? = boundary isWord before cs.head? := by
  cases cs with
  | nil => simp [boundary, hword]
  | cons c cs => rfl

/-- A name within a line is one of the joined text. -/
theorem namedAt_append (hword : isWord '\n' = false) (accept : List Char → Bool)
    (before : Option Char) (cs rest : List Char) :
    namedAt isWord accept before (cs ++ '\n' :: rest) =
      namedAt isWord (fun r => accept (r ++ '\n' :: rest)) before cs := by
  unfold namedAt
  rw [Bool.eq_iff_iff, List.any_eq_true, List.any_eq_true]
  apply exists_congr
  intro name
  apply and_congr_right
  intro hname
  rw [beginsWith_append (names_plain name hname).1]
  by_cases hbegins : beginsWith name.toList cs = true
  · have hlength : name.length ≤ cs.length := by
      rw [← String.length_toList]
      exact length_le_of_beginsWith hbegins
    rw [List.drop_append_of_le_length hlength, List.take_append_of_le_length hlength,
      boundary_newline hword, boundary_newline hword]
  · simp [hbegins]

/-- No name begins with a line feed. -/
theorem namedAt_newline (accept : List Char → Bool) (before : Option Char) (rest : List Char) :
    namedAt isWord accept before ('\n' :: rest) = false := by
  unfold namedAt
  rw [List.any_eq_false]
  intro name hname
  obtain ⟨hplain, hne⟩ := names_plain name hname
  have hbegins : beginsWith name.toList ('\n' :: rest) = false := by
    have happend := @beginsWith_append name.toList [] rest hplain
    rw [List.nil_append] at happend
    rw [happend]
    cases hname : name.toList with
    | nil => exact absurd hname hne
    | cons letter letters => rfl
  simp [hbegins]

/-- What stands before counts only as a word or not. -/
theorem namedIn_before (accept : List Char → Bool) {before before' : Option Char}
    (h : before.any isWord = before'.any isWord) (cs : List Char) :
    namedIn isWord accept before cs = namedIn isWord accept before' cs := by
  cases cs with
  | nil => rfl
  | cons c cs =>
    unfold namedIn namedAt boundary
    rw [h]

/-- **Step**: a name of the joined text stands in the first line or in the others. -/
theorem namedIn_append (hword : isWord '\n' = false) (accept : List Char → Bool)
    (before : Option Char) (line rest : List Char) :
    namedIn isWord accept before (line ++ '\n' :: rest) =
      (namedIn isWord (fun r => accept (r ++ '\n' :: rest)) before line ||
        namedIn isWord accept none rest) := by
  induction line generalizing before with
  | nil =>
    show (namedAt isWord accept before ('\n' :: rest) || namedIn isWord accept (some '\n') rest) = _
    rw [namedAt_newline, namedIn_before accept (show (some '\n').any isWord = none.any isWord from
      hword)]
    rfl
  | cons c line ih =>
    show (namedAt isWord accept before (c :: line ++ '\n' :: rest) ||
      namedIn isWord accept (some c) (line ++ '\n' :: rest)) = _
    rw [namedAt_append hword, ih, ← Bool.or_assoc]
    rfl

theorem any_or {α : Type} (p q : α → Bool) (xs : List α) :
    (xs.any fun x => p x || q x) = (xs.any p || xs.any q) := by
  induction xs with
  | nil => rfl
  | cons x xs ih =>
    rw [List.any_cons, List.any_cons, List.any_cons, ih]
    ac_rfl

theorem namedAt_or (accept accept' : List Char → Bool) (before : Option Char) (cs : List Char) :
    namedAt isWord (fun r => accept r || accept' r) before cs =
      (namedAt isWord accept before cs || namedAt isWord accept' before cs) := by
  unfold namedAt
  rw [← any_or]
  congr 1
  funext name
  rw [← Bool.and_or_distrib_right, ← Bool.and_or_distrib_right, ← Bool.and_or_distrib_left]

theorem namedIn_or (accept accept' : List Char → Bool) (before : Option Char) (cs : List Char) :
    namedIn isWord (fun r => accept r || accept' r) before cs =
      (namedIn isWord accept before cs || namedIn isWord accept' before cs) := by
  induction cs generalizing before with
  | nil => rfl
  | cons c cs ih =>
    unfold namedIn
    rw [namedAt_or, ih]
    ac_rfl

theorem namedIn_and (accept : List Char → Bool) (b : Bool) (before : Option Char)
    (cs : List Char) :
    namedIn isWord (fun r => accept r && b) before cs =
      (namedIn isWord accept before cs && b) := by
  cases b with
  | true => simp
  | false =>
    simp only [Bool.and_false]
    induction cs generalizing before with
    | nil => rfl
    | cons c cs ih =>
      unfold namedIn
      rw [ih]
      simp [namedAt]

/-- What is left when the blanks of a line are dropped from the joined text. -/
theorem dropWhile_append_newline (cs rest : List Char) :
    (cs ++ '\n' :: rest).dropWhile isSpace =
      if cs.all isSpace then rest.dropWhile isSpace
      else cs.dropWhile isSpace ++ '\n' :: rest := by
  have hnewline : isSpace '\n' = true := by decide
  induction cs with
  | nil => simp [hnewline]
  | cons c cs ih =>
    by_cases hc : isSpace c = true
    · simp only [List.cons_append, List.dropWhile_cons, hc, if_true, ih, List.all_cons,
        Bool.true_and]
    · simp [hc]

theorem afterSeparator_append (cs rest : List Char) :
    afterSeparator (cs ++ '\n' :: rest) =
      (afterSeparator cs || afterSeparator rest) := by
  unfold afterSeparator
  rw [List.any_append, List.any_cons]
  rfl

/-- A blank tail has no value. -/
theorem all_isSpace_iff {cs : List Char} : cs.all isSpace = !afterSeparator cs := by
  unfold afterSeparator
  rw [List.not_any_eq_all_not]
  simp

/-- What follows a name in the joined text is an assignment in the line, or it is left open
    there and completed behind. -/
theorem afterName_append (cs rest : List Char) :
    afterName (cs ++ '\n' :: rest) =
      (afterName cs || (cs.all isSpace && afterName rest) ||
        (onlySeparator cs && afterSeparator rest)) := by
  have hblank : cs.all isSpace = true ↔ cs.dropWhile isSpace = [] := by
    rw [List.dropWhile_eq_nil_iff, List.all_eq_true]
  unfold afterName onlySeparator
  rw [dropWhile_append_newline]
  by_cases hall : cs.all isSpace = true
  · rw [if_pos hall, hblank.mp hall, hall]
    simp
  · rw [if_neg hall]
    cases hdrop : cs.dropWhile isSpace with
    | nil => exact absurd (hblank.mpr hdrop) hall
    | cons c tail =>
      simp only [List.cons_append, afterSeparator_append, all_isSpace_iff]
      have hopen : afterSeparator cs = true := by simpa [all_isSpace_iff] using hall
      rw [hopen]
      cases isSeparator c with
      | false => simp
      | true =>
        cases afterSeparator tail with
        | false => simp
        | true => simp

/-- An assignment of the joined text stands in the first line, or is left open there, or stands
    in the others. -/
theorem hasAssignment_append (hword : isWord '\n' = false) (line rest : List Char) :
    hasAssignment isWord (line ++ '\n' :: rest) =
      (hasAssignment isWord line || (endsInName isWord line && afterName rest) ||
        (endsInSeparator isWord line && afterSeparator rest) || hasAssignment isWord rest) := by
  have haccept : (fun r => afterName (r ++ '\n' :: rest)) = fun r =>
      (afterName r || (r.all isSpace && afterName rest) ||
        (onlySeparator r && afterSeparator rest)) :=
    funext fun r => afterName_append r rest
  unfold hasAssignment endsInName endsInSeparator
  rw [namedIn_append hword, haccept,
    namedIn_or (fun r => afterName r || (r.all isSpace && afterName rest)),
    namedIn_or afterName fun r => r.all isSpace && afterName rest,
    namedIn_and fun r => r.all isSpace, namedIn_and onlySeparator]

/-- **Run**: an assignment of joined lines stands in one of them, or is left open and
    completed. -/
theorem hasAssignment_joinLines (hword : isWord '\n' = false) (lines : List (List Char)) :
    hasAssignment isWord (joinLines lines) = true ↔
      (∃ line ∈ lines, hasAssignment isWord line = true) ∨ Completed isWord lines := by
  induction lines with
  | nil => simp [joinLines, hasAssignment, namedIn, Completed]
  | cons line lines ih =>
    cases lines with
    | nil => simp [joinLines, Completed, afterName, afterSeparator]
    | cons next lines =>
      have hjoin : joinLines (line :: next :: lines) = line ++ '\n' :: joinLines (next :: lines) :=
        rfl
      have hcompleted : Completed isWord (line :: next :: lines) ↔
          (endsInName isWord line = true ∧ afterName (joinLines (next :: lines)) = true) ∨
            (endsInSeparator isWord line = true ∧ afterSeparator (joinLines (next :: lines)) = true) ∨
              Completed isWord (next :: lines) :=
        Iff.rfl
      rw [hjoin, hasAssignment_append hword, Bool.or_eq_true, ih, Bool.or_eq_true, Bool.or_eq_true,
        Bool.and_eq_true, Bool.and_eq_true, hcompleted, @List.exists_mem_cons_iff _ _ line,
        @or_assoc (hasAssignment isWord line = true), or_or_or_comm, @or_assoc (_ ∧ _)]

end joined

/-! ## Section 5: Markers of joined lines -/

/-- What occurs in a text without its separator occurs on one side of that. -/
theorem infix_of_separated {m left right : List Char} {c : Char} (hm : c ∉ m)
    (h : m <:+: left ++ c :: right) : m <:+: left ∨ m <:+: right := by
  obtain ⟨s, t, heq⟩ := h
  rcases List.append_eq_append_iff.mp heq with ⟨rest, rfl, -⟩ | ⟨middle, hleft, hright⟩
  · exact Or.inl ⟨s, rest, rfl⟩
  cases middle with
  | nil =>
    rw [List.append_nil] at hleft
    exact Or.inl ⟨s, [], by rw [List.append_nil, hleft]⟩
  | cons d middle =>
    obtain ⟨rfl, rfl⟩ := List.cons.inj hright
    rcases List.append_eq_append_iff.mp hleft with ⟨rest, -, rfl⟩ | ⟨rest, -, hmiddle⟩
    · exact absurd (List.mem_append_right rest List.mem_cons_self) hm
    · cases rest with
      | nil =>
        rw [List.nil_append] at hmiddle
        exact absurd (hmiddle ▸ List.mem_cons_self) hm
      | cons e rest =>
        obtain ⟨-, rfl⟩ := List.cons.inj hmiddle
        exact Or.inr ⟨rest, t, rfl⟩

theorem markers_plain : ∀ marker ∈ SECRET_MARKERS, '\n' ∉ marker.toList := by decide

/-- No marker runs across a line feed. -/
theorem looksLikeSecret_append {left right : List Char}
    (h : looksLikeSecret (left ++ '\n' :: right) = true) :
    looksLikeSecret left = true ∨ looksLikeSecret right = true := by
  unfold looksLikeSecret at h ⊢
  rw [List.any_eq_true] at h
  obtain ⟨marker, hmarker, hinfix⟩ := h
  have hnewline : lowerChar '\n' = ['\n'] := by decide
  rw [List.flatMap_append, List.flatMap_cons, hnewline, List.singleton_append,
    decide_eq_true_eq] at hinfix
  rcases infix_of_separated (markers_plain marker hmarker) hinfix with hleft | hright
  · exact Or.inl (List.any_eq_true.mpr ⟨marker, hmarker, decide_eq_true hleft⟩)
  · exact Or.inr (List.any_eq_true.mpr ⟨marker, hmarker, decide_eq_true hright⟩)

/-- **Run**: lines without a marker are joined to text without one. -/
theorem looksLikeSecret_joinLines {lines : List (List Char)}
    (h : ∀ line ∈ lines, looksLikeSecret line = false) :
    looksLikeSecret (joinLines lines) = false := by
  induction lines with
  | nil => decide
  | cons line lines ih =>
    rw [List.forall_mem_cons] at h
    cases lines with
    | nil => exact h.1
    | cons next lines =>
      rw [← Bool.not_eq_true]
      intro hsecret
      rcases looksLikeSecret_append hsecret with hline | hrest
      · rw [h.1] at hline
        cases hline
      · rw [ih h.2] at hrest
        cases hrest

/-! ## Section 6: Splitting joined lines -/

/-- The line has no break. -/
def Unbroken (line : List Char) : Prop := ∀ c ∈ line, isBreak c = false

theorem unbroken_nil : Unbroken [] := by
  intro c hc
  cases hc

theorem unbroken_cons {c : Char} {line : List Char} (hc : isBreak c = false)
    (h : Unbroken line) : Unbroken (c :: line) :=
  List.forall_mem_cons.mpr ⟨hc, h⟩

theorem splitLines_cons {c : Char} {cs : List Char} (hc : isBreak c = false) :
    splitLines (c :: cs) =
      match splitLines cs with
      | [] => [[c]]
      | line :: lines => (c :: line) :: lines := by
  have hreturn : c ≠ '\r' := by
    rintro rfl
    revert hc
    decide
  rw [splitLines]
  · rw [hc]
    rfl
  · intro _ heq _
    exact hreturn heq

theorem splitLines_append {line rest : List Char} (h : Unbroken line) :
    splitLines (line ++ '\n' :: rest) = line :: splitLines rest := by
  induction line with
  | nil =>
    rw [List.nil_append, splitLines]
    · rfl
    · intro _ heq _
      revert heq
      decide
  | cons c line ih =>
    rw [List.cons_append, splitLines_cons (h c List.mem_cons_self),
      ih fun d hd => h d (List.mem_cons_of_mem _ hd)]

theorem splitLines_unbroken {line : List Char} (h : Unbroken line) (hne : line ≠ []) :
    splitLines line = [line] := by
  induction line with
  | nil => exact absurd rfl hne
  | cons c line ih =>
    rw [splitLines_cons (h c List.mem_cons_self)]
    by_cases hline : line = []
    · rw [hline]
      rfl
    · rw [ih (fun d hd => h d (List.mem_cons_of_mem _ hd)) hline]

/-- Joined lines are split again, apart from an empty last one. -/
theorem splitLines_joinLines {lines : List (List Char)} (h : ∀ line ∈ lines, Unbroken line) :
    splitLines (joinLines lines) =
      if lines.getLast? = some [] then lines.dropLast else lines := by
  induction lines with
  | nil => rfl
  | cons line lines ih =>
    rw [List.forall_mem_cons] at h
    cases lines with
    | nil =>
      by_cases hline : line = []
      · rw [hline]
        rfl
      · simp [joinLines, splitLines_unbroken h.1 hline, hline]
    | cons next lines =>
      show splitLines (line ++ '\n' :: joinLines (next :: lines)) = _
      rw [splitLines_append h.1, ih h.2, List.getLast?_cons_cons, List.dropLast_cons_cons]
      split
      · rfl
      · rfl

/-- **Invariant**: no line of the text has a break. -/
theorem unbroken_of_splitLines (text : List Char) : ∀ line ∈ splitLines text, Unbroken line := by
  induction text using splitLines.induct with
  | case1 =>
    intro line hline
    cases hline
  | case2 cs ih =>
    rw [splitLines]
    exact List.forall_mem_cons.mpr ⟨unbroken_nil, ih⟩
  | case3 c cs hpair hc ih =>
    rw [splitLines, if_pos hc]
    · exact List.forall_mem_cons.mpr ⟨unbroken_nil, ih⟩
    · exact hpair
  | case4 c cs _ hc hnil ih =>
    rw [Bool.not_eq_true] at hc
    rw [splitLines_cons hc, hnil]
    exact List.forall_mem_cons.mpr ⟨unbroken_cons hc unbroken_nil, fun _ h => absurd h List.not_mem_nil⟩
  | case5 c cs _ hc line lines hcons ih =>
    rw [Bool.not_eq_true] at hc
    rw [hcons, List.forall_mem_cons] at ih
    rw [splitLines_cons hc, hcons]
    exact List.forall_mem_cons.mpr ⟨unbroken_cons hc ih.1, ih.2⟩

theorem splitLines_eq_nil {text : List Char} (h : splitLines text = []) : text = [] := by
  induction text using splitLines.induct with
  | case1 => rfl
  | case2 cs ih =>
    rw [splitLines] at h
    cases h
  | case3 c cs hpair hc ih =>
    rw [splitLines, if_pos hc] at h
    · cases h
    · exact hpair
  | case4 c cs _ hc hnil ih =>
    rw [Bool.not_eq_true] at hc
    rw [splitLines_cons hc, hnil] at h
    cases h
  | case5 c cs _ hc line lines hcons ih =>
    rw [Bool.not_eq_true] at hc
    rw [splitLines_cons hc, hcons] at h
    cases h

theorem unbroken_of_linesOf (text : List Char) : ∀ line ∈ linesOf text, Unbroken line := by
  unfold linesOf
  by_cases hnil : splitLines text = []
  · rw [if_pos hnil, splitLines_eq_nil hnil]
    exact List.forall_mem_cons.mpr ⟨unbroken_nil, fun _ h => absurd h List.not_mem_nil⟩
  · rw [if_neg hnil]
    exact unbroken_of_splitLines text

theorem linesOf_ne_nil (text : List Char) : linesOf text ≠ [] := by
  unfold linesOf
  split
  · exact List.cons_ne_nil _ _
  · assumption

/-- Joined lines are those of the text, apart from an empty last one. -/
theorem linesOf_joinLines {lines : List (List Char)} (h : ∀ line ∈ lines, Unbroken line)
    (hne : lines ≠ []) :
    linesOf (joinLines lines) =
      if 2 ≤ lines.length ∧ lines.getLast? = some [] then lines.dropLast else lines := by
  unfold linesOf
  rw [splitLines_joinLines h]
  obtain ⟨line, lines, rfl⟩ := List.exists_cons_of_ne_nil hne
  cases lines with
  | nil =>
    by_cases hline : line = []
    · rw [hline]
      rfl
    · simp [hline]
  | cons next lines =>
    have hlength : 2 ≤ (line :: next :: lines).length := Nat.le_add_left 2 _
    by_cases hlast : (line :: next :: lines).getLast? = some []
    · have hdrop : (line :: next :: lines).dropLast ≠ [] := List.cons_ne_nil _ _
      rw [if_pos hlast, if_neg hdrop, if_pos ⟨hlength, hlast⟩]
    · rw [if_neg hlast, if_neg (List.cons_ne_nil _ _), if_neg fun h => hlast h.2]

/-- An empty last line adds a line feed. -/
theorem length_joinLines_dropLast {lines : List (List Char)} (hlength : 2 ≤ lines.length)
    (hlast : lines.getLast? = some []) :
    (joinLines lines).length = (joinLines lines.dropLast).length + 1 := by
  induction lines with
  | nil => simp at hlength
  | cons line lines ih =>
    cases lines with
    | nil => simp at hlength
    | cons next lines =>
      cases lines with
      | nil =>
        have hnext : next = [] := by simpa using hlast
        rw [hnext]
        simp [joinLines]
      | cons third lines =>
        rw [List.getLast?_cons_cons] at hlast
        have hrest := ih (Nat.le_add_left 2 _) hlast
        rw [List.dropLast_cons_cons] at hrest
        show (line ++ '\n' :: joinLines (next :: third :: lines)).length =
          (line ++ '\n' :: joinLines (next :: (third :: lines).dropLast)).length + 1
        rw [List.length_append, List.length_append, List.length_cons, List.length_cons, hrest]
        omega

/-! ## Section 7: Redacted lines -/

section redacted
variable {isWord : Char → Bool}

theorem redacts_REDACTED : redacts isWord REDACTED = false := by
  have hsecret : looksLikeSecret REDACTED = false := by decide +kernel
  have hassignment : hasAssignment isWord REDACTED = false := rfl
  unfold redacts
  rw [hsecret, hassignment]
  rfl

/-- What is redacted is left alone afterwards. -/
theorem redacts_redactLine (line : List Char) : redacts isWord (redactLine isWord line) = false := by
  unfold redactLine
  by_cases hline : redacts isWord line = true
  · rw [if_pos hline]
    exact redacts_REDACTED
  · rw [if_neg hline]
    rwa [Bool.not_eq_true] at hline

theorem redactLine_redactLine (line : List Char) :
    redactLine isWord (redactLine isWord line) = redactLine isWord line := by
  rw [redactLine, redacts_redactLine]
  rfl

theorem unbroken_redactLine {line : List Char} (h : Unbroken line) :
    Unbroken (redactLine isWord line) := by
  unfold redactLine
  have hplain : REDACTED.all (fun c => !isBreak c) = true := by decide
  split
  · intro c hc
    have := List.all_eq_true.mp hplain c hc
    simpa using this
  · exact h

/-- A blank is its own lower case. -/
theorem lowerChar_blank {c : Char} (h : isSpace c = true) : lowerChar c = [c] := by
  unfold isSpace at h
  simp only [Bool.or_eq_true, Bool.and_eq_true, decide_eq_true_eq, beq_iff_eq] at h
  have hlower : c.toLower = c := by
    unfold Char.toLower
    rw [dif_neg]
    rintro ⟨hA, hZ⟩
    have h65 : 65 ≤ c.toNat := UInt32.le_iff_toNat_le.mp hA
    have h90 : c.toNat ≤ 90 := UInt32.le_iff_toNat_le.mp hZ
    omega
  unfold lowerChar
  rw [if_neg (by omega), if_neg (by omega), hlower]

theorem markers_visible : ∀ marker ∈ SECRET_MARKERS, afterSeparator marker.toList = true := by
  decide

theorem afterSeparator_eq_false_iff {cs : List Char} :
    afterSeparator cs = false ↔ ∀ c ∈ cs, isSpace c = true := by
  unfold afterSeparator
  simp

theorem afterSeparator_of_subset {cs cs' : List Char} (hsubset : cs ⊆ cs')
    (h : afterSeparator cs = true) : afterSeparator cs' = true := by
  unfold afterSeparator at h ⊢
  rw [List.any_eq_true] at h ⊢
  obtain ⟨c, hc, hvisible⟩ := h
  exact ⟨c, hsubset hc, hvisible⟩

theorem visible_of_looksLikeSecret {line : List Char} (h : looksLikeSecret line = true) :
    afterSeparator line = true := by
  by_contra hblank
  rw [Bool.not_eq_true, afterSeparator_eq_false_iff] at hblank
  have hlower : line.flatMap lowerChar = line := by
    rw [List.flatMap_congr fun c hc => lowerChar_blank (hblank c hc)]
    exact List.flatMap_singleton' line
  unfold looksLikeSecret at h
  rw [hlower, List.any_eq_true] at h
  obtain ⟨marker, hmarker, hinfix⟩ := h
  have hvisible : afterSeparator line = true :=
    afterSeparator_of_subset (of_decide_eq_true hinfix).subset (markers_visible marker hmarker)
  rw [afterSeparator_eq_false_iff.mpr hblank] at hvisible
  cases hvisible

theorem visible_of_afterName {cs : List Char} (h : afterName cs = true) :
    afterSeparator cs = true := by
  unfold afterName at h
  cases hdrop : cs.dropWhile isSpace with
  | nil =>
    rw [hdrop] at h
    cases h
  | cons c rest =>
    rw [hdrop, Bool.and_eq_true] at h
    have hsuffix : c :: rest <:+ cs := hdrop ▸ List.dropWhile_suffix isSpace
    exact afterSeparator_of_subset (fun d hd => hsuffix.subset (List.mem_cons_of_mem c hd)) h.2

theorem visible_of_namedIn {before : Option Char} {cs : List Char}
    (h : namedIn isWord afterName before cs = true) : afterSeparator cs = true := by
  induction cs generalizing before with
  | nil => cases h
  | cons c cs ih =>
    unfold namedIn namedAt at h
    rw [Bool.or_eq_true, List.any_eq_true] at h
    rcases h with ⟨name, -, hnamed⟩ | hrest
    · simp only [Bool.and_eq_true] at hnamed
      exact afterSeparator_of_subset (List.drop_subset name.length (c :: cs))
        (visible_of_afterName hnamed.1.1.2)
    · exact afterSeparator_of_subset (List.subset_cons_self c cs) (ih hrest)

/-- A line of blanks is kept. -/
theorem visible_of_redacts {line : List Char} (h : redacts isWord line = true) :
    afterSeparator line = true := by
  rcases Bool.or_eq_true_iff.mp h with hsecret | hassignment
  · exact visible_of_looksLikeSecret hsecret
  · exact visible_of_namedIn hassignment

theorem afterSeparator_redactLine (line : List Char) :
    afterSeparator (redactLine isWord line) = afterSeparator line := by
  unfold redactLine
  by_cases hline : redacts isWord line = true
  · rw [if_pos hline, visible_of_redacts hline]
    decide
  · rw [if_neg hline]

theorem afterSeparator_joinLines_cons (line : List Char) (lines : List (List Char)) :
    afterSeparator (joinLines (line :: lines)) =
      (afterSeparator line || afterSeparator (joinLines lines)) := by
  cases lines with
  | nil => simp [joinLines, afterSeparator]
  | cons next lines => exact afterSeparator_append line _

theorem afterName_joinLines_cons (line : List Char) (lines : List (List Char)) :
    afterName (joinLines (line :: lines)) =
      (afterName line || (line.all isSpace && afterName (joinLines lines)) ||
        (onlySeparator line && afterSeparator (joinLines lines))) := by
  cases lines with
  | nil => simp [joinLines, afterName, afterSeparator]
  | cons next lines => exact afterName_append line _

/-- Redaction hides no value. -/
theorem afterSeparator_redacted (lines : List (List Char)) :
    afterSeparator (joinLines (lines.map (redactLine isWord))) =
      afterSeparator (joinLines lines) := by
  induction lines with
  | nil => rfl
  | cons line lines ih =>
    rw [List.map_cons, afterSeparator_joinLines_cons, afterSeparator_joinLines_cons, ih,
      afterSeparator_redactLine]

/-- Redaction hides a separator when it hides the line that this begins. -/
theorem afterName_redacted (lines : List (List Char)) :
    afterName (joinLines (lines.map (redactLine isWord))) = true ↔
      afterName (joinLines lines) = true ∧
        ∀ next ∈ lines.find? afterSeparator, redacts isWord next = false := by
  induction lines with
  | nil => simp [joinLines, afterName]
  | cons line lines ih =>
    rw [List.map_cons, afterName_joinLines_cons, afterName_joinLines_cons, afterSeparator_redacted]
    by_cases hvisible : afterSeparator line = true
    · rw [List.find?_cons_of_pos hvisible]
      have hall : line.all isSpace = false := by
        rw [all_isSpace_iff, hvisible]
        rfl
      by_cases hline : redacts isWord line = true
      · have hname : afterName REDACTED = false := by decide
        have hblank : REDACTED.all isSpace = false := by decide
        have honly : onlySeparator REDACTED = false := by decide
        simp [redactLine, hline, hname, hblank, honly]
      · simp [redactLine, hline, hall]
    · rw [List.find?_cons_of_neg hvisible]
      rw [Bool.not_eq_true] at hvisible
      have hkept : redacts isWord line = false := by
        rw [← Bool.not_eq_true]
        exact fun hline => Bool.false_ne_true (hvisible ▸ visible_of_redacts hline)
      have hredact : redactLine isWord line = line := by
        unfold redactLine
        rw [hkept]
        rfl
      have hname : afterName line = false := by
        rw [← Bool.not_eq_true]
        exact fun hline => Bool.false_ne_true (hvisible ▸ visible_of_afterName hline)
      have hall : line.all isSpace = true := by
        rw [all_isSpace_iff, hvisible]
        rfl
      have honly : onlySeparator line = false := by
        unfold onlySeparator
        rw [List.dropWhile_eq_nil_iff.mpr (List.all_eq_true.mp hall)]
      simp only [hredact, hname, hall, honly, Bool.false_or, Bool.true_and, Bool.false_and,
        Bool.or_false]
      exact ih

/-- **Simulation**: the lines of the output complete an assignment when those of the text
    do. -/
theorem completed_redacted (lines : List (List Char)) :
    Completed isWord (lines.map (redactLine isWord)) ↔ LeftOpen isWord lines := by
  induction lines with
  | nil => exact Iff.rfl
  | cons line lines ih =>
    rw [List.map_cons, Completed, LeftOpen, afterName_redacted, afterSeparator_redacted, ih]
    by_cases hline : redacts isWord line = true
    · have hname : endsInName isWord REDACTED = false := rfl
      have hseparator : endsInSeparator isWord REDACTED = false := rfl
      simp [redactLine, hline, hname, hseparator]
    · rw [Bool.not_eq_true] at hline
      simp [redactLine, hline]

theorem redactLine_eq_nil_iff {line : List Char} : redactLine isWord line = [] ↔ line = [] := by
  unfold redactLine
  by_cases hline : redacts isWord line = true
  · rw [if_pos hline]
    have hvisible := visible_of_redacts hline
    constructor
    · intro h
      cases h
    · rintro rfl
      cases hvisible
  · rw [if_neg hline]

theorem getLast?_redacted (lines : List (List Char)) :
    (lines.map (redactLine isWord)).getLast? = some [] ↔ lines.getLast? = some [] := by
  rw [List.getLast?_map]
  cases lines.getLast? with
  | none => simp
  | some line => simp [redactLine_eq_nil_iff]

/-! ## Section 8: The whole output -/

theorem looksLikeSecret_sanitizeExcerpt (text : List Char) :
    looksLikeSecret (sanitizeExcerpt isWord text) = false := by
  apply looksLikeSecret_joinLines
  rw [List.forall_mem_map]
  intro line _
  exact (Bool.or_eq_false_iff.mp (redacts_redactLine line)).1

/-- The output has an assignment when lines of the text are left open. -/
theorem hasAssignment_sanitizeExcerpt (hword : isWord '\n' = false) (text : List Char) :
    hasAssignment isWord (sanitizeExcerpt isWord text) = true ↔ LeftOpen isWord (linesOf text) := by
  have hkept : ¬ ∃ line ∈ (linesOf text).map (redactLine isWord),
      hasAssignment isWord line = true := by
    rintro ⟨line, hline, hassignment⟩
    obtain ⟨source, -, rfl⟩ := List.mem_map.mp hline
    rw [(Bool.or_eq_false_iff.mp (redacts_redactLine source)).2] at hassignment
    cases hassignment
  unfold sanitizeExcerpt
  rw [hasAssignment_joinLines hword, or_iff_right hkept, completed_redacted]

/-- The output is left as it is unless its last line is empty and not the only one. -/
theorem sanitizeExcerpt_again_iff (text : List Char) :
    sanitizeExcerpt isWord (sanitizeExcerpt isWord text) = sanitizeExcerpt isWord text ↔
      ¬ (2 ≤ (linesOf text).length ∧ (linesOf text).getLast? = some []) := by
  have hunbroken : ∀ line ∈ (linesOf text).map (redactLine isWord), Unbroken line := by
    rw [List.forall_mem_map]
    exact fun line hline => unbroken_redactLine (unbroken_of_linesOf text line hline)
  have hne : (linesOf text).map (redactLine isWord) ≠ [] := by
    rw [ne_eq, List.map_eq_nil_iff]
    exact linesOf_ne_nil text
  have hagain : ((linesOf text).map (redactLine isWord)).map (redactLine isWord) =
      (linesOf text).map (redactLine isWord) := by
    rw [List.map_map]
    exact List.map_congr_left fun line _ => redactLine_redactLine line
  have hlines := linesOf_joinLines hunbroken hne
  simp only [List.length_map, getLast?_redacted] at hlines
  by_cases hlast : 2 ≤ (linesOf text).length ∧ (linesOf text).getLast? = some []
  · -- the second pass drops the line feed before the empty line
    rw [if_pos hlast] at hlines
    have hlonger := @length_joinLines_dropLast ((linesOf text).map (redactLine isWord))
      ((List.length_map _).symm ▸ hlast.1) ((getLast?_redacted _).mpr hlast.2)
    unfold sanitizeExcerpt
    rw [hlines, List.map_dropLast, hagain]
    refine iff_of_false (fun heq => ?_) (not_not_intro hlast)
    rw [heq] at hlonger
    omega
  · rw [if_neg hlast] at hlines
    unfold sanitizeExcerpt
    rw [hlines, hagain]
    exact iff_of_true rfl hlast

end redacted

theorem AsciiWords.newline {isWord : Char → Bool} (h : AsciiWords isWord) :
    isWord '\n' = false := by
  rw [h '\n' (by decide)]
  decide

/-- The law holds exactly of the texts of which no lines that are kept complete an assignment
    together, and whose last line is not an empty one behind others. -/
theorem sanitizeExcerpt_law_iff {isWord : Char → Bool} (hword : AsciiWords isWord)
    (text : List Char) :
    SanitizedLaw isWord text ↔
      ¬ LeftOpen isWord (linesOf text) ∧
        ¬ (2 ≤ (linesOf text).length ∧ (linesOf text).getLast? = some []) := by
  constructor
  · rintro ⟨-, hassignments, hagain⟩
    rw [← Bool.not_eq_true, hasAssignment_sanitizeExcerpt hword.newline] at hassignments
    exact ⟨hassignments, (sanitizeExcerpt_again_iff text).mp hagain⟩
  · rintro ⟨hopen, hlast⟩
    rw [← hasAssignment_sanitizeExcerpt hword.newline, Bool.not_eq_true] at hopen
    exact ⟨looksLikeSecret_sanitizeExcerpt text, hopen, (sanitizeExcerpt_again_iff text).mpr hlast⟩

/-- A page with a redacted line between two others. -/
theorem sanitizeExcerpt_law_iff_page :
    SanitizedLaw (fun c => c.isAlphanum || c == '_')
      "name: Ann\npassword: x\nauthorization".toList :=
  (sanitizeExcerpt_law_iff (fun _ _ => rfl) _).mpr ⟨by decide +kernel, by decide⟩

/-- A name and its value on two lines are joined to an assignment. -/
theorem assignment_across_lines :
    ¬ ∃ isWord : Char → Bool, AsciiWords isWord ∧ ∀ text, SanitizedLaw isWord text := by
  rintro ⟨isWord, hword, hlaw⟩
  have hlines : linesOf "api-key:\nabc".toList = ["api-key:".toList, "abc".toList] := by decide
  have hkept : redacts isWord "api-key:".toList = false := by
    have hsecret : looksLikeSecret "api-key:".toList = false := by decide +kernel
    have hassignment : hasAssignment isWord "api-key:".toList = false := rfl
    unfold redacts
    rw [hsecret, hassignment]
    rfl
  have hname : isWord 'a' = true ∧ isWord 'y' = true ∧ isWord ':' = false :=
    ⟨by rw [hword _ (by decide)]; decide, by rw [hword _ (by decide)]; decide,
      by rw [hword _ (by decide)]; decide⟩
  have hnamed : namedAt isWord onlySeparator none "api-key:".toList = true := by
    refine List.any_eq_true.mpr ⟨"api-key", by decide, ?_⟩
    show (true && (false != isWord 'a') && (isWord 'y' != isWord ':')) = true
    rw [hname.1, hname.2.1, hname.2.2]
    rfl
  have hends : endsInSeparator isWord "api-key:".toList = true :=
    Bool.or_eq_true_iff.mpr (Or.inl hnamed)
  have hopen : LeftOpen isWord (linesOf "api-key:\nabc".toList) := by
    rw [hlines]
    exact Or.inr (Or.inl ⟨hkept, hends, by decide⟩)
  have hassignments := (hlaw "api-key:\nabc".toList).assignments
  rw [(hasAssignment_sanitizeExcerpt hword.newline _).mpr hopen] at hassignments
  cases hassignments

end CBrain.ComputerUse

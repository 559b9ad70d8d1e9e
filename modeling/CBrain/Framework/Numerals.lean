import CBrain.Framework.PyDecimal
import Mathlib.Data.List.TakeWhile

/-! # Decimals and their text

    What `Decimal(text)` reads and `str(value)` writes, apart from blanks around
    the text.

    * Reading admits the decimal digits of every script, underscores, a sign, a
      point, an exponent, infinities and NaN.
    * Writing gives digits for a whole number without exponent, and only
      `Nat.toDigits` is written for such a number. -/

namespace Numeral

/-! ## Section 1: Digits -/

/-- The zeros of the scripts that have decimal digits. -/
def zeros : List Nat :=
  [0x30, 0x660, 0x6F0, 0x7C0, 0x966, 0x9E6, 0xA66, 0xAE6, 0xB66, 0xBE6, 0xC66, 0xCE6, 0xD66, 0xDE6,
    0xE50, 0xED0, 0xF20, 0x1040, 0x1090, 0x17E0, 0x1810, 0x1946, 0x19D0, 0x1A80, 0x1A90, 0x1B50,
    0x1BB0, 0x1C40, 0x1C50, 0xA620, 0xA8D0, 0xA900, 0xA9D0, 0xA9F0, 0xAA50, 0xABF0, 0xFF10, 0x104A0,
    0x10D30, 0x11066, 0x110F0, 0x11136, 0x111D0, 0x112F0, 0x11450, 0x114D0, 0x11650, 0x116C0,
    0x11730, 0x118E0, 0x11950, 0x11C50, 0x11D50, 0x11DA0, 0x11F50, 0x16A60, 0x16AC0, 0x16B50,
    0x1D7CE, 0x1D7D8, 0x1D7E2, 0x1D7EC, 0x1D7F6, 0x1E140, 0x1E2F0, 0x1E4F0, 0x1E950, 0x1FBF0]

/-- The value of a decimal digit. -/
def digit? (c : Char) : Option Nat :=
  (zeros.find? fun first => first ≤ c.toNat ∧ c.toNat < first + 10).map fun first => c.toNat - first

/-- `\d`. -/
def isDecimal (c : Char) : Bool := (digit? c).isSome

/-- The text in ASCII, without underscores: none where it has another
    character. -/
def ascii : List Char → Option (List Char)
  | [] => some []
  | c :: cs =>
    if c = '_' then ascii cs
    else if 0 < c.toNat ∧ c.toNat < 128 then (ascii cs).map (c :: ·)
    else
      match digit? c with
      | some d => (ascii cs).map (Nat.digitChar d :: ·)
      | none => none

theorem digit?_lt {c : Char} {d : Nat} (h : digit? c = some d) : d < 10 := by
  obtain ⟨first, hfirst, rfl⟩ := Option.map_eq_some_iff.mp h
  have hrange := List.find?_some hfirst
  simp only [decide_eq_true_eq] at hrange
  omega

/-- An ASCII character is a decimal digit only as one of ten. -/
theorem isDigit_of_ascii {c : Char} (h : isDecimal c = true) (hc : c.toNat < 128) :
    c.isDigit = true := by
  obtain ⟨d, hd⟩ := Option.isSome_iff_exists.mp h
  obtain ⟨first, hfirst, -⟩ := Option.map_eq_some_iff.mp hd
  have hmem := List.mem_of_find?_eq_some hfirst
  have hrange := List.find?_some hfirst
  simp only [decide_eq_true_eq] at hrange
  have hleast : ∀ first ∈ zeros, first < 128 → first = 0x30 := by decide
  have heq := hleast first hmem (by omega)
  rw [Char.isDigit_iff_toNat]
  show 48 ≤ c.toNat ∧ c.toNat ≤ 57
  omega

/-- Decimal digits become ASCII digits. -/
theorem ascii_digits {cs : List Char} (h : ∀ c ∈ cs, isDecimal c = true) :
    ∃ ds, ascii cs = some ds ∧ ds.length = cs.length ∧ ∀ d ∈ ds, d.isDigit = true := by
  induction cs with
  | nil => exact ⟨[], rfl, rfl, by simp⟩
  | cons c cs ih =>
    obtain ⟨ds, hds, hlength, hdigits⟩ := ih fun c hc => h c (List.mem_cons_of_mem _ hc)
    have hc := h c List.mem_cons_self
    have hscore : c ≠ '_' := by
      rintro rfl
      revert hc
      decide
    unfold ascii
    rw [if_neg hscore, hds]
    by_cases hascii : 0 < c.toNat ∧ c.toNat < 128
    · rw [if_pos hascii]
      refine ⟨c :: ds, rfl, by simp [hlength], ?_⟩
      intro d hd
      rcases List.mem_cons.mp hd with rfl | hd
      · exact isDigit_of_ascii hc hascii.2
      · exact hdigits d hd
    · rw [if_neg hascii]
      obtain ⟨value, hvalue⟩ := Option.isSome_iff_exists.mp hc
      rw [hvalue]
      refine ⟨Nat.digitChar value :: ds, rfl, by simp [hlength], ?_⟩
      intro d hd
      rcases List.mem_cons.mp hd with rfl | hd
      · have hlt := digit?_lt hvalue
        rw [Char.isDigit_iff_toNat, Nat.toNat_digitChar_of_lt_ten hlt]
        show 48 ≤ 48 + value ∧ 48 + value ≤ 57
        omega
      · exact hdigits d hd

/-- ASCII digits stay as they are. -/
theorem ascii_self {cs : List Char} (h : ∀ c ∈ cs, c.isDigit = true) : ascii cs = some cs := by
  induction cs with
  | nil => rfl
  | cons c cs ih =>
    have hc := Char.isDigit_iff_toNat.mp (h c List.mem_cons_self)
    have hrange : 48 ≤ c.toNat ∧ c.toNat ≤ 57 := hc
    have hscore : c ≠ '_' := by
      rintro rfl
      revert hrange
      decide
    unfold ascii
    rw [if_neg hscore, if_pos (by omega), ih fun c hc => h c (List.mem_cons_of_mem _ hc)]
    rfl

/-! ## Section 2: Reading -/

/-- Digits, at least one of them. -/
def natural (ds : List Char) : Option Nat :=
  if ds ≠ [] ∧ ds.all Char.isDigit = true then some (Nat.ofDigitChars 10 ds 0) else none

/-- What follows the letter of an exponent. -/
def exponent : List Char → Option Int
  | '-' :: ds => (natural ds).map fun n => -(n : Int)
  | '+' :: ds => (natural ds).map fun n => (n : Int)
  | ds => (natural ds).map fun n => (n : Int)

/-- The digits behind a point. -/
def places : List Char → List Char
  | '.' :: rest => rest.takeWhile Char.isDigit
  | _ => []

/-- What is left behind a point and its digits. -/
def behind : List Char → List Char
  | '.' :: rest => rest.dropWhile Char.isDigit
  | rest => rest

/-- The coefficient and the exponent of an unsigned number. -/
def scan (cs : List Char) : Option (Nat × Int) :=
  let rest := cs.dropWhile Char.isDigit
  let digits := cs.takeWhile Char.isDigit ++ places rest
  let coeff := Nat.ofDigitChars 10 digits 0
  let point : Int := (places rest).length
  if digits = [] then none
  else
    match behind rest with
    | [] => some (coeff, -point)
    | e :: rest =>
      if e = 'e' ∨ e = 'E' then (exponent rest).map fun exp => (coeff, exp - point) else none

theorem scan_digits {cs : List Char} (hne : cs ≠ []) (h : ∀ c ∈ cs, c.isDigit = true) :
    scan cs = some (Nat.ofDigitChars 10 cs 0, 0) := by
  have htake : cs.takeWhile Char.isDigit = cs := List.takeWhile_eq_self_iff.mpr h
  have hdrop : cs.dropWhile Char.isDigit = [] := List.dropWhile_eq_nil_iff.mpr h
  unfold scan
  simp [htake, hdrop, places, behind, hne]

/-- The sign of a number and what follows it. -/
def sign : List Char → Bool × List Char
  | '-' :: cs => (true, cs)
  | '+' :: cs => (false, cs)
  | cs => (false, cs)

/-- `nan` or `snan`, and perhaps digits. -/
def isNan (lowered : List Char) : Bool :=
  ["nan".toList, "snan".toList].any fun word =>
    lowered.take word.length == word && (lowered.drop word.length).all Char.isDigit

end Numeral

namespace PyDecimal

open Numeral

/-- The exponent is within the bounds of an exact number. -/
def Representable (coeff : Nat) (exp : Int) : Prop :=
  -1999999999999999997 ≤ exp ∧ exp + (Nat.toDigits 10 coeff).length - 1 ≤ 999999999999999999

instance (coeff : Nat) (exp : Int) : Decidable (Representable coeff exp) :=
  inferInstanceAs (Decidable (_ ∧ _))

/-- What follows the sign of a number. -/
def ofUnsigned (neg : Bool) (cs : List Char) : Option PyDecimal :=
  let lowered := cs.map Char.toLower
  if lowered = "inf".toList ∨ lowered = "infinity".toList then some (.infinity neg)
  else if isNan lowered then some .nan
  else
    (scan cs).bind fun (coeff, exp) =>
      if Representable coeff exp then some (.finite neg coeff exp) else none

/-- `Decimal(text)` of text without blanks around it. -/
def ofNumeral (text : List Char) : Option PyDecimal :=
  (ascii text).bind fun cs => ofUnsigned (sign cs).1 (sign cs).2

/-- The text of a number with an exponent. -/
def scientificText (coeff : Nat) (exp : Int) : List Char :=
  let ds := Nat.toDigits 10 coeff
  let adjusted := exp + ds.length - 1
  ds.take 1 ++ (if ds.length = 1 then [] else '.' :: ds.drop 1) ++ 'E' ::
    (if 0 ≤ adjusted then '+' else '-') :: Nat.toDigits 10 adjusted.natAbs

/-- `str(value)`. -/
def str : PyDecimal → String
  | .finite neg c e =>
    let plain := e ≤ 0 ∧ -6 ≤ e + (Nat.toDigits 10 c).length - 1
    String.ofList ((if neg then ['-'] else []) ++
      if plain then fixedText c e else scientificText c e)
  | .infinity neg => if neg then "-Infinity" else "Infinity"
  | .nan => "NaN"

/-- `a == b`. -/
def equal : PyDecimal → PyDecimal → Bool
  | .finite neg c e, .finite neg' c' e' => value neg c e == value neg' c' e'
  | .infinity neg, .infinity neg' => neg == neg'
  | _, _ => false

/-- `value == value.to_integral_value()`, for a finite number. -/
def isWhole : PyDecimal → Bool
  | .finite _ c e => 0 ≤ e || c % 10 ^ (-e).toNat == 0
  | _ => false

/-! ## Section 3: Whole numbers -/

@[simp] theorem isWhole_int (neg : Bool) (n : Nat) : isWhole (.finite neg n 0) = true := rfl

theorem equal_int {n m : Nat} : equal (.finite false n 0) (.finite false m 0) = true ↔ n = m := by
  simp [equal, value]

/-- A whole number without exponent is written as its digits. -/
@[simp] theorem str_int (n : Nat) : str (.finite false n 0) = toString n := by
  have hlength := Nat.length_toDigits_pos (b := 10) (n := n)
  have hplain : (0 : Int) ≤ 0 ∧ -6 ≤ 0 + ((Nat.toDigits 10 n).length : Int) - 1 := by omega
  show String.ofList ([] ++ if _ then fixedText n 0 else _) = String.ofList (Nat.toDigits 10 n)
  rw [if_pos hplain]
  unfold fixedText
  simp

theorem toLower_digit {c : Char} (h : c.isDigit = true) : c.toLower = c := by
  have hrange : 48 ≤ c.toNat ∧ c.toNat ≤ 57 := Char.isDigit_iff_toNat.mp h
  have hupper : ¬ (c.val ≥ 'A'.val ∧ c.val ≤ 'Z'.val) := by
    rintro ⟨hA, _⟩
    have hnat : 65 ≤ c.toNat := hA
    omega
  unfold Char.toLower
  rw [dif_neg hupper]

/-- What is read from digits alone has no exponent. -/
theorem ofUnsigned_digits (neg : Bool) {ds : List Char} (hne : ds ≠ [])
    (hdigits : ∀ d ∈ ds, d.isDigit = true) :
    ofUnsigned neg ds =
      if Representable (Nat.ofDigitChars 10 ds 0) 0 then
        some (.finite neg (Nat.ofDigitChars 10 ds 0) 0) else none := by
  have hlowered : ds.map Char.toLower = ds := by
    calc ds.map Char.toLower = ds.map id := List.map_congr_left fun d hd =>
          toLower_digit (hdigits d hd)
      _ = ds := List.map_id ds
  -- no word of the grammar begins with a digit
  have hword : ∀ first rest, first.isDigit = false → ds ≠ first :: rest := by
    rintro first rest hfirst rfl
    rw [hdigits first List.mem_cons_self] at hfirst
    cases hfirst
  have hinfinite : ¬ (ds = "inf".toList ∨ ds = "infinity".toList) := by
    rintro (heq | heq)
    · exact hword 'i' _ (by decide) heq
    · exact hword 'i' _ (by decide) heq
  have hnan : ¬ isNan ds = true := by
    intro hnan
    obtain ⟨first, rest, rfl⟩ := List.exists_cons_of_ne_nil hne
    have hfirst := hdigits first List.mem_cons_self
    simp only [isNan, List.any_cons, List.any_nil, Bool.or_false, Bool.or_eq_true,
      Bool.and_eq_true, beq_iff_eq] at hnan
    rcases hnan with ⟨hnan, -⟩ | ⟨hnan, -⟩
    · obtain rfl : first = 'n' := (List.cons.inj hnan).1
      revert hfirst
      decide
    · obtain rfl : first = 's' := (List.cons.inj hnan).1
      revert hfirst
      decide
  unfold ofUnsigned
  simp only [hlowered]
  rw [if_neg hinfinite, if_neg hnan, scan_digits hne hdigits, Option.bind_some]

theorem sign_digits {ds : List Char} (hdigits : ∀ d ∈ ds, d.isDigit = true) :
    sign ds = (false, ds) := by
  unfold sign
  split
  · exact absurd (hdigits '-' List.mem_cons_self) (by decide)
  · exact absurd (hdigits '+' List.mem_cons_self) (by decide)
  · rfl

/-- What is read from decimal digits, perhaps behind a minus, has no exponent. -/
theorem ofNumeral_integer {cs : List Char} (hne : cs ≠ []) (hdigits : ∀ c ∈ cs, isDecimal c = true)
    {x : PyDecimal} (h : ofNumeral cs = some x ∨ ofNumeral ('-' :: cs) = some x) :
    ∃ neg n, x = .finite neg n 0 := by
  obtain ⟨ds, hascii, hlength, hds⟩ := ascii_digits hdigits
  have hds_ne : ds ≠ [] := by
    rintro rfl
    exact hne (List.length_eq_zero_iff.mp hlength.symm)
  have hread : ∀ neg, ofUnsigned neg ds = some x → ∃ neg n, x = .finite neg n 0 := by
    intro neg hsome
    rw [ofUnsigned_digits neg hds_ne hds] at hsome
    split at hsome
    · exact ⟨_, _, (Option.some.inj hsome).symm⟩
    · cases hsome
  rcases h with h | h
  · rw [ofNumeral, hascii, Option.bind_some, sign_digits hds] at h
    exact hread false h
  · have hminus : ascii ('-' :: cs) = some ('-' :: ds) := by
      rw [ascii, if_neg (by decide), if_pos (by decide), hascii]
      rfl
    rw [ofNumeral, hminus, Option.bind_some] at h
    exact hread true h

/-- The digits of a number are read as that number, if they are not too many. -/
theorem ofNumeral_toDigits (n : Nat) :
    ofNumeral (Nat.toDigits 10 n) =
      if Representable n 0 then some (.finite false n 0) else none := by
  have hdigits : ∀ d ∈ Nat.toDigits 10 n, d.isDigit = true := by
    intro d hd
    exact Nat.isDigit_of_mem_toDigits (by omega) (by omega) hd
  have hne : Nat.toDigits 10 n ≠ [] := List.ne_nil_of_length_pos Nat.length_toDigits_pos
  rw [ofNumeral, ascii_self hdigits, Option.bind_some, sign_digits hdigits,
    ofUnsigned_digits false hne hdigits, Nat.ofDigitChars_ten_toDigits]

example : (ofNumeral "-1_000.50E+5".toList).map str = some "-1.00050E+8" := by decide +kernel
example : (ofNumeral "٣٤".toList).map str = some "34" := by decide +kernel

end PyDecimal

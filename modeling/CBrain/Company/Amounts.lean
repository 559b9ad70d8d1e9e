import CBrain.Company.LegalMatters
import CBrain.Framework.Numerals
import CBrain.Knowledge.Contracts

/-! # Amounts of company actions

    Models how the amounts of actions and records are read:
    `_parse_amount` (`cbrain/company/validation.py`) and `parse_decimal_minor`
    (`cbrain/company/simulators.py`).

    An amount that validation accepts is a whole number that is written in
    decimal digits, so `str` of it is the plain digits whatever its spelling. -/

namespace CBrain

open Json (Dict)
open Numeral (isDecimal)
open Knowledge (stripChars stripChars_idem dropWhile_isSpace_eq)

/-! ## Section 1: Reading -/

/-- `Decimal(text)`. -/
def decimalOf (text : String) : Option PyDecimal := PyDecimal.ofNumeral (stripChars text.toList)

def ACCOUNTS_AMOUNT_INVALID : String := "ACCOUNTS_AMOUNT_INVALID"
def ACCOUNTS_AMOUNT_NON_FINITE : String := "ACCOUNTS_AMOUNT_NON_FINITE"
def ACCOUNTS_AMOUNT_NON_POSITIVE : String := "ACCOUNTS_AMOUNT_NON_POSITIVE"
def ACCOUNTS_AMOUNT_OVER_LIMIT : String := "ACCOUNTS_AMOUNT_OVER_LIMIT"
def ACCOUNTS_CURRENCY_UNSUPPORTED : String := "ACCOUNTS_CURRENCY_UNSUPPORTED"

def SUPPORTED_CURRENCIES : List String := ["USD", "EUR"]
def AMOUNT_CEILING : PyDecimal := .ofInt 100000000
def BOOL_TEXT : List String := ["true", "false"]
def NON_FINITE_TEXT : List String :=
  ["nan", "inf", "+inf", "-inf", "infinity", "+infinity", "-infinity"]

/-- `_INTEGER_MINOR.fullmatch(text)`. -/
def isIntegerMinor (cs : List Char) : Bool :=
  let digits := match cs with
    | '-' :: ds => ds
    | ds => ds
  digits != [] && digits.all isDecimal

/-- `_parse_amount` of text that is not blank at its ends. -/
def amountOfText (text : String) : Except String PyDecimal :=
  -- No character outside ASCII becomes one of these letters in lower case.
  let lowered := text.map Char.toLower
  if text = "" ∨ lowered ∈ BOOL_TEXT then .error ACCOUNTS_AMOUNT_INVALID
  else if lowered ∈ NON_FINITE_TEXT then .error ACCOUNTS_AMOUNT_NON_FINITE
  else if 'e' ∈ lowered.toList then .error ACCOUNTS_AMOUNT_INVALID
  else if isIntegerMinor text.toList = false then .error ACCOUNTS_AMOUNT_INVALID
  else
    match decimalOf text with
    | none => .error ACCOUNTS_AMOUNT_INVALID
    | some amount =>
      if amount.isFinite = false then .error ACCOUNTS_AMOUNT_NON_FINITE
      else if (PyDecimal.ofInt 0).lt? amount ≠ some true then .error ACCOUNTS_AMOUNT_NON_POSITIVE
      else if AMOUNT_CEILING.lt? amount = some true then .error ACCOUNTS_AMOUNT_OVER_LIMIT
      else .ok amount

/-- `_parse_amount`. -/
def parseAmount : Json → Except String PyDecimal
  | .int i => amountOfText (pyStr (.int i))
  | .str s => amountOfText (String.ofList (stripChars s.toList))
  | _ => .error ACCOUNTS_AMOUNT_INVALID

/-- `parse_decimal_minor`. -/
def parseDecimalMinor (value field_name : String) : Raises PyDecimal :=
  match decimalOf value with
  | none => .error (simulatorValidationError s!"{field_name} is not a valid decimal")
  | some amount => do
    require (amount.isFinite = true) (simulatorValidationError s!"{field_name} must be finite")
    require (amount.isWhole = true)
      (simulatorValidationError s!"{field_name} must be integer minor units")
    require (amount.lt? (.ofInt 0) ≠ some true)
      (simulatorValidationError s!"{field_name} must be non-negative")
    pure amount

/-! ## Section 2: What is accepted -/

theorem isSpace_of_isDecimal {c : Char} (h : isDecimal c = true) : isSpace c = false := by
  obtain ⟨d, hd⟩ := Option.isSome_iff_exists.mp h
  obtain ⟨first, hfirst, -⟩ := Option.map_eq_some_iff.mp hd
  have hrange := List.find?_some hfirst
  simp only [decide_eq_true_eq] at hrange
  -- where the digits lie between the blanks
  have hplace : ∀ first ∈ Numeral.zeros, first = 0x30 ∨ (0x660 ≤ first ∧ first + 10 ≤ 0x1680) ∨
      (0x1680 < first ∧ first + 10 ≤ 0x2000) ∨ 0x3000 < first := by decide
  have hwhere := hplace first (List.mem_of_find?_eq_some hfirst)
  simp only [isSpace, Bool.or_eq_false_iff, Bool.and_eq_false_iff, decide_eq_false_iff_not,
    beq_eq_false_iff_ne]
  omega

theorem stripChars_self {cs : List Char} (h : ∀ c ∈ cs, isSpace c = false) :
    stripChars cs = cs := by
  unfold stripChars
  rw [dropWhile_isSpace_eq fun c hc => h c (List.mem_of_mem_head? hc),
    dropWhile_isSpace_eq fun c hc => h c (List.mem_reverse.mp (List.mem_of_mem_head? hc)),
    List.reverse_reverse]

/-- The text of an integer: digits, perhaps behind a minus. -/
theorem isIntegerMinor_cases {cs : List Char} (h : isIntegerMinor cs = true) :
    ∃ ds, ds ≠ [] ∧ (∀ d ∈ ds, isDecimal d = true) ∧ (cs = ds ∨ cs = '-' :: ds) := by
  unfold isIntegerMinor at h
  split at h
  · next ds =>
    rw [Bool.and_eq_true, bne_iff_ne, List.all_eq_true] at h
    exact ⟨ds, h.1, h.2, Or.inr rfl⟩
  · next ds _ =>
    rw [Bool.and_eq_true, bne_iff_ne, List.all_eq_true] at h
    exact ⟨_, h.1, h.2, Or.inl rfl⟩

theorem stripChars_integer {cs : List Char} (h : isIntegerMinor cs = true) :
    stripChars cs = cs := by
  obtain ⟨ds, -, hdigits, hcs⟩ := isIntegerMinor_cases h
  apply stripChars_self
  intro c hc
  rcases hcs with rfl | rfl
  · exact isSpace_of_isDecimal (hdigits c hc)
  · rcases List.mem_cons.mp hc with rfl | hc
    · decide
    · exact isSpace_of_isDecimal (hdigits c hc)

theorem pos_of_zero_lt {neg : Bool} {n : Nat}
    (h : (PyDecimal.ofInt 0).lt? (.finite neg n 0) = some true) : neg = false ∧ 0 < n := by
  have hlt : PyDecimal.value false 0 0 < PyDecimal.value neg n 0 :=
    of_decide_eq_true (Option.some.inj h)
  cases neg with
  | false =>
    have hpos : (0 : ℚ) < n := by simpa [PyDecimal.value] using hlt
    exact ⟨rfl, by exact_mod_cast hpos⟩
  | true =>
    have hneg : (n : ℚ) < 0 := by simpa [PyDecimal.value] using hlt
    exact absurd hneg (not_lt.mpr (Nat.cast_nonneg n))

theorem amountOfText_ok {text : String} {amount : PyDecimal} (h : amountOfText text = .ok amount) :
    decimalOf text = some amount ∧ ∃ n, amount = .finite false n 0 ∧ 0 < n ∧ n ≤ 100000000 := by
  unfold amountOfText at h
  dsimp only at h
  split at h
  · cases h
  split at h
  · cases h
  split at h
  · cases h
  split at h
  · cases h
  next hinteger =>
  cases hread : decimalOf text with
  | none =>
    rw [hread] at h
    cases h
  | some x =>
    rw [hread] at h
    dsimp only at h
    split at h
    · cases h
    split at h
    · cases h
    next hpos =>
    split at h
    · cases h
    next hceiling =>
    obtain rfl : x = amount := Except.ok.inj h
    refine ⟨rfl, ?_⟩
    have hint : isIntegerMinor text.toList = true := by simpa using hinteger
    obtain ⟨ds, hne, hdigits, hcs⟩ := isIntegerMinor_cases hint
    have hdecimal : PyDecimal.ofNumeral ds = some x ∨ PyDecimal.ofNumeral ('-' :: ds) = some x := by
      unfold decimalOf at hread
      rw [stripChars_integer hint] at hread
      rcases hcs with hcs | hcs
      · exact Or.inl (hcs ▸ hread)
      · exact Or.inr (hcs ▸ hread)
    obtain ⟨neg, n, rfl⟩ := PyDecimal.ofNumeral_integer hne hdigits hdecimal
    obtain ⟨rfl, hn⟩ := pos_of_zero_lt (not_not.mp hpos)
    refine ⟨n, rfl, hn, ?_⟩
    by_contra hover
    apply hceiling
    have hlt : (100000000 : ℚ) < n := by exact_mod_cast not_le.mp hover
    show some (decide (PyDecimal.value false 100000000 0 < PyDecimal.value false n 0)) = some true
    simp only [PyDecimal.value, zpow_zero, mul_one, Bool.false_eq_true, if_false]
    exact congrArg some (decide_eq_true (by exact_mod_cast hlt))

/-- **Amounts**: what validation accepts is a positive whole number up to the
    ceiling, and `Decimal(str(value))` is the same number. -/
theorem parseAmount_ok {value : Json} {amount : PyDecimal} (h : parseAmount value = .ok amount) :
    decimalOf (pyStr value) = some amount ∧
      ∃ n, amount = .finite false n 0 ∧ 0 < n ∧ n ≤ 100000000 := by
  cases value with
  | int i => exact amountOfText_ok h
  | str s =>
    obtain ⟨hread, hn⟩ := amountOfText_ok h
    refine ⟨?_, hn⟩
    unfold decimalOf at hread ⊢
    rw [String.toList_ofList, stripChars_idem] at hread
    exact hread
  | _ => cases h

theorem decimalOf_digits (n : Nat) :
    decimalOf (toString n) =
      if PyDecimal.Representable n 0 then some (.finite false n 0) else none := by
  have hchars : (toString n).toList = Nat.toDigits 10 n := String.toList_ofList
  have hdigits : ∀ c ∈ Nat.toDigits 10 n, isSpace c = false := by
    intro c hc
    have hrange : 48 ≤ c.toNat ∧ c.toNat ≤ 57 :=
      Char.isDigit_iff_toNat.mp (Nat.isDigit_of_mem_toDigits (by omega) (by omega) hc)
    simp only [isSpace, Bool.or_eq_false_iff, Bool.and_eq_false_iff, decide_eq_false_iff_not,
      beq_eq_false_iff_ne]
    omega
  unfold decimalOf
  rw [hchars, stripChars_self hdigits, PyDecimal.ofNumeral_toDigits]

/-- The plain digits of a small number are read back. -/
theorem decimalOf_toString {n : Nat} (h : n ≤ 100000000) :
    decimalOf (toString n) = some (.finite false n 0) := by
  rw [decimalOf_digits, if_pos]
  have hlength : (Nat.toDigits 10 n).length ≤ 9 :=
    (Nat.length_toDigits_le_iff (by omega) (by omega)).mpr (by omega)
  constructor
  · omega
  · omega

/-- Plain digits are read as their number, or not at all. -/
theorem of_decimalOf_toString {n : Nat} {x : PyDecimal} (h : decimalOf (toString n) = some x) :
    x = .finite false n 0 := by
  rw [decimalOf_digits] at h
  split at h
  · exact (Option.some.inj h).symm
  · cases h

/-- The handlers read the amounts that validation accepts. -/
theorem parseDecimalMinor_amount {value : Json} {amount : PyDecimal}
    (h : parseAmount value = .ok amount) (field_name : String) :
    parseDecimalMinor (pyStr value) field_name = .ok amount := by
  obtain ⟨hread, n, rfl, -, -⟩ := parseAmount_ok h
  have hnonneg : (PyDecimal.finite false n 0).lt? (.ofInt 0) ≠ some true := by
    intro hlt
    have hneg : PyDecimal.value false n 0 < PyDecimal.value false 0 0 :=
      of_decide_eq_true (Option.some.inj hlt)
    have hneg' : (n : ℚ) < 0 := by simpa [PyDecimal.value] using hneg
    exact absurd hneg' (not_lt.mpr (Nat.cast_nonneg n))
  unfold parseDecimalMinor
  rw [hread]
  dsimp only
  have hfinite : (PyDecimal.finite false n 0).isFinite = true := rfl
  have hwhole : (PyDecimal.finite false n 0).isWhole = true := rfl
  rw [require_bind_pos hfinite, require_bind_pos hwhole, require_bind_pos hnonneg]
  rfl

end CBrain

import Mathlib.Algebra.Order.Field.Rat
import Mathlib.Algebra.Order.Ring.Abs
import Mathlib.Data.Nat.Log
import Mathlib.Tactic.Linarith
import Mathlib.Tactic.Ring

/-! # Python's decimals

    The numbers of the module `decimal` in its default context: 28 significant
    digits, halves rounded to even, exponents up to 999999.  A finite number
    keeps its exponent, so `1.50` and `1.5` are two numbers of one value.

    What signals `InvalidOperation` or `Overflow` has no result; the other
    signals are not trapped. -/

/-- A number of the module `decimal`. -/
inductive PyDecimal where
  | finite (neg : Bool) (coeff : Nat) (exp : Int)
  | infinity (neg : Bool)
  | nan
  deriving DecidableEq, Repr

namespace PyDecimal

/-! ## Values -/

/-- `Decimal(str(i))` of an integer. -/
def ofInt (i : Int) : PyDecimal := .finite (decide (i < 0)) i.natAbs 0

/-- The value of a finite number. -/
def value (neg : Bool) (coeff : Nat) (exp : Int) : ℚ :=
  (if neg then -(coeff : ℚ) else coeff) * 10 ^ exp

def isFinite : PyDecimal → Bool
  | .finite .. => true
  | _ => false

/-- `a < b`, where the comparison does not signal. -/
def lt? : PyDecimal → PyDecimal → Option Bool
  | .nan, _ | _, .nan => none
  | .infinity neg, .infinity neg' => some (neg && !neg')
  | .infinity neg, .finite .. => some neg
  | .finite .., .infinity neg => some (!neg)
  | .finite neg c e, .finite neg' c' e' => some (decide (value neg c e < value neg' c' e'))

/-! ## Rounding -/

/-- The context's `prec`, `Emax` and the exponent of the least digit of all. -/
def precision : Nat := 28
def maxExponent : Int := 999999
def leastExponent : Int := -1000026

/-- `n / d` as an integer, a half going to the even one. -/
def divHalfEven (n d : Nat) : Nat :=
  let q := n / d
  let r := n % d
  if 2 * r < d then q else if d < 2 * r then q + 1 else if q % 2 = 0 then q else q + 1

/-- An integer below the quotient stays below the rounded one. -/
theorem le_divHalfEven {n d q : Nat} (hd : 0 < d) (h : q * d ≤ n) : q ≤ divHalfEven n d := by
  have hq : q ≤ n / d := (Nat.le_div_iff_mul_le hd).mpr h
  unfold divHalfEven
  grind

/-- What rounds above an integer is half a unit above it. -/
theorem of_lt_divHalfEven {n d q : Nat} (h : q < divHalfEven n d) : (2 * q + 1) * d ≤ 2 * n := by
  have hdiv := Nat.div_add_mod n d
  have hq : q < n / d ∨ (q = n / d ∧ d ≤ 2 * (n % d)) := by
    unfold divHalfEven at h
    grind
  have hmul : q * d ≤ n / d * d := by
    rcases hq with hlt | ⟨rfl, _⟩
    · exact Nat.mul_le_mul_right d hlt.le
    · exact Nat.le_refl _
  rw [Nat.mul_comm d] at hdiv
  rw [Nat.add_mul, Nat.mul_assoc, Nat.one_mul]
  rcases hq with hlt | ⟨_, hhalf⟩
  · have hnext : q * d + d ≤ n / d * d := by
      rw [← Nat.succ_mul]
      exact Nat.mul_le_mul_right d hlt
    omega
  · omega

/-- An integer above the quotient stays above the rounded one. -/
theorem divHalfEven_le {n d q : Nat} (hd : 0 < d) (h : n ≤ q * d) : divHalfEven n d ≤ q := by
  by_contra hlt
  have hhalf := of_lt_divHalfEven (not_le.mp hlt)
  nlinarith

theorem divHalfEven_mono {n m d : Nat} (h : n ≤ m) : divHalfEven n d ≤ divHalfEven m d := by
  have hn := Nat.div_add_mod n d
  have hm := Nat.div_add_mod m d
  rcases Nat.lt_or_eq_of_le (Nat.div_le_div_right (c := d) h) with hlt | heq
  · unfold divHalfEven
    grind
  · have hrest : n % d ≤ m % d := by
      rw [heq] at hn
      omega
    unfold divHalfEven
    grind

/-- The coefficient of a number at another exponent. -/
def rescale (coeff : Nat) (exp target : Int) : Nat :=
  if target ≤ exp then coeff * 10 ^ (exp - target).toNat
  else divHalfEven coeff (10 ^ (target - exp).toNat)

theorem rescale_self (coeff : Nat) (exp : Int) : rescale coeff exp exp = coeff := by
  unfold rescale
  simp

/-- The number of digits of a coefficient. -/
def digits (coeff : Nat) : Nat := Nat.log 10 coeff + 1

/-- `value.quantize(Decimal("1").scaleb(target))`: none where the result has too
    many digits. -/
def quantize (target : Int) : PyDecimal → Option PyDecimal
  | .finite neg c e =>
    let coeff := rescale c e target
    if coeff < 10 ^ precision then some (.finite neg coeff target) else none
  | .infinity _ => none
  | .nan => some .nan

/-- A quantized number can be quantized again, and stays. -/
theorem quantize_again {target : Int} {x y : PyDecimal} (h : quantize target x = some y) :
    quantize target y = some y := by
  cases x with
  | finite neg c e =>
    unfold quantize at h
    by_cases hfits : rescale c e target < 10 ^ precision
    · simp only [if_pos hfits] at h
      obtain rfl := Option.some.inj h
      unfold quantize
      simp only [rescale_self, if_pos hfits]
    · simp only [if_neg hfits] at h
      cases h
  | infinity neg => cases h
  | nan =>
    obtain rfl := Option.some.inj h
    rfl

/-- `Decimal._fix`: the number within the context. -/
def fix (neg : Bool) (coeff : Nat) (exp : Int) : Option PyDecimal :=
  if coeff = 0 then some (.finite neg 0 (min (max exp leastExponent) maxExponent))
  else
    let least := max ((digits coeff : Int) + exp - precision) leastExponent
    if maxExponent < exp + digits coeff - 1 then none
    else if least ≤ exp then some (.finite neg coeff exp)
    else
      let rounded := rescale coeff exp least
      if rounded < 10 ^ precision then some (.finite neg rounded least)
      -- The carry gives one digit more, a zero at the end.
      else if maxExponent < least + precision then none
      else some (.finite neg (rounded / 10) (least + 1))

/-- `a - b` of finite numbers, none on overflow. -/
def subFinite (neg : Bool) (c : Nat) (e : Int) (neg' : Bool) (c' : Nat) (e' : Int) :
    Option PyDecimal :=
  let least := min e e'
  let a : Int := rescale c e least
  let b : Int := rescale c' e' least
  let difference := (if neg then -a else a) - (if neg' then -b else b)
  fix (if difference = 0 then neg && !neg' else decide (difference < 0)) difference.natAbs least

/-- `a - b`. -/
def sub? : PyDecimal → PyDecimal → Option PyDecimal
  | .nan, _ | _, .nan => some .nan
  | .infinity neg, .infinity neg' => if neg = neg' then none else some (.infinity neg)
  | .infinity neg, .finite .. => some (.infinity neg)
  | .finite .., .infinity neg => some (.infinity (!neg))
  | .finite neg c e, .finite neg' c' e' => subFinite neg c e neg' c' e'

/-! ## Exact differences -/

/-- The value of a finite number. -/
def value? : PyDecimal → Option ℚ
  | .finite neg c e => some (value neg c e)
  | _ => none

/-- Numbers that the context holds without rounding: no more digits than its
    precision, and none below the least exponent. -/
def Exact (x : ℚ) : Prop :=
  ∃ m j : Int, m.natAbs < 10 ^ precision ∧ leastExponent ≤ j ∧ x = m * 10 ^ j

theorem lt_pow_digits (coeff : Nat) : coeff < 10 ^ digits coeff :=
  Nat.lt_pow_succ_log_self (by omega) coeff

theorem digits_le {coeff k : Nat} (hcoeff : coeff ≠ 0) (h : coeff < 10 ^ k) : digits coeff ≤ k :=
  Nat.log_lt_of_lt_pow hcoeff h

/-- A coefficient with its sign. -/
def signed (neg : Bool) (coeff : Nat) : Int := if neg then -(coeff : Int) else coeff

/-- The value of a finite number as an integer and an exponent. -/
theorem value_eq (neg : Bool) (coeff : Nat) (exp : Int) :
    value neg coeff exp = (signed neg coeff : ℚ) * 10 ^ exp := by
  unfold value signed
  cases neg <;> simp

theorem signed_natAbs (z : Int) : signed (decide (z < 0)) z.natAbs = z := by
  unfold signed
  by_cases h : z < 0
  · simp only [h, decide_true, if_true]
    omega
  · simp only [h, decide_false, Bool.false_eq_true, if_false]
    omega

theorem value_congr {neg : Bool} {c c' : Nat} {e e' : Int}
    (h : (c : ℚ) * 10 ^ e = c' * 10 ^ e') : value neg c e = value neg c' e' := by
  unfold value
  cases neg
  · exact h
  · simp only [if_true, neg_mul, h]

theorem zpow_toNat {e e' : Int} (h : e ≤ e') : (10 : ℚ) ^ e' = 10 ^ (e' - e).toNat * 10 ^ e := by
  rw [← zpow_natCast, ← zpow_add₀ (by norm_num), Int.toNat_of_nonneg (by omega)]
  congr 1
  omega

/-- Equal values, with the coefficient at the lesser exponent. -/
theorem coeff_of_value {c c' : Nat} {e e' : Int} (h : (c : ℚ) * 10 ^ e = c' * 10 ^ e')
    (hle : e ≤ e') : c = c' * 10 ^ (e' - e).toNat := by
  rw [zpow_toNat hle, ← mul_assoc] at h
  have hpos : (10 : ℚ) ^ e ≠ 0 := zpow_ne_zero _ (by norm_num)
  exact_mod_cast mul_right_cancel₀ hpos h

/-- The exponent to which the context rounds a coefficient. -/
def contextExponent (coeff : Nat) (exp : Int) : Int :=
  max ((digits coeff : Int) + exp - precision) leastExponent

/-- A coefficient rounded to the context's exponent has at most one digit too
    many. -/
theorem rescale_le {coeff : Nat} {exp : Int} (h : exp < contextExponent coeff exp) :
    rescale coeff exp (contextExponent coeff exp) ≤ 10 ^ precision := by
  have hcontext : (digits coeff : Int) + exp - precision ≤ contextExponent coeff exp :=
    le_max_left _ _
  generalize contextExponent coeff exp = least at h hcontext
  unfold rescale
  rw [if_neg (by omega)]
  apply divHalfEven_le (by positivity)
  rw [← Nat.pow_add]
  exact (lt_pow_digits coeff).le.trans (Nat.pow_le_pow_right (by omega) (by omega))

/-- What the context makes of a number. -/
theorem fix_some {neg : Bool} {coeff : Nat} {exp : Int} {r : PyDecimal}
    (h : fix neg coeff exp = some r) :
    ∃ c e, r = .finite neg c e ∧ c < 10 ^ precision ∧ leastExponent ≤ e ∧
      (coeff = 0 → c = 0) := by
  unfold fix at h
  by_cases hzero : coeff = 0
  · rw [if_pos hzero] at h
    have hexponents : leastExponent ≤ maxExponent := by decide
    exact ⟨0, _, (Option.some.inj h).symm, by decide, by omega, fun _ => rfl⟩
  · rw [if_neg hzero] at h
    simp only at h
    have hleast : leastExponent ≤ contextExponent coeff exp := le_max_right _ _
    split at h
    · cases h
    split at h
    · rename_i hwithin
      have hdigits : digits coeff ≤ precision := by omega
      exact ⟨coeff, exp, (Option.some.inj h).symm,
        (lt_pow_digits coeff).trans_le (Nat.pow_le_pow_right (by omega) hdigits), by omega,
        fun h => absurd h hzero⟩
    rename_i hbeyond
    split at h
    · rename_i hfits
      exact ⟨_, _, (Option.some.inj h).symm, hfits, hleast, fun h => absurd h hzero⟩
    split at h
    · cases h
    · have hcarry := @rescale_le coeff exp (by unfold contextExponent; omega)
      refine ⟨_, _, (Option.some.inj h).symm, ?_, by unfold contextExponent at hleast; omega,
        fun h => absurd h hzero⟩
      unfold contextExponent at hcarry
      have : 0 < 10 ^ precision := by positivity
      omega

/-- What the context makes of a number is one that it holds. -/
theorem exact_of_fix {neg : Bool} {coeff : Nat} {exp : Int} {r : PyDecimal} {x : ℚ}
    (h : fix neg coeff exp = some r) (hx : r.value? = some x) : Exact x := by
  obtain ⟨c, e, rfl, hc, he, -⟩ := fix_some h
  refine ⟨signed neg c, e, ?_, he, ?_⟩
  · cases neg <;> simpa [signed] using hc
  · rw [← Option.some.inj hx, value_eq]

theorem divHalfEven_mul {q d : Nat} (hd : 0 < d) : divHalfEven (q * d) d = q :=
  Nat.le_antisymm (divHalfEven_le hd (Nat.le_refl _)) (le_divHalfEven hd (Nat.le_refl _))

/-- A number that the context holds keeps its value. -/
theorem value_fix {neg : Bool} {coeff : Nat} {exp : Int} {r : PyDecimal}
    (h : fix neg coeff exp = some r) (hexact : Exact (value neg coeff exp)) :
    r.value? = some (value neg coeff exp) := by
  by_cases hzero : coeff = 0
  · unfold fix at h
    rw [if_pos hzero] at h
    obtain rfl := Option.some.inj h
    rw [hzero]
    simp [value?, value]
  · obtain ⟨m, j, hm, hj, hvalue⟩ := hexact
    have heq : (coeff : ℚ) * 10 ^ exp = (m.natAbs : ℚ) * 10 ^ j := by
      have habs := congrArg abs hvalue
      unfold value at habs
      have hcoeff : |(if neg then -(coeff : ℚ) else coeff)| = coeff := by
        cases neg <;> simp
      have hpow : ∀ i : Int, (0 : ℚ) < 10 ^ i := fun i => zpow_pos (by norm_num) i
      rw [abs_mul, abs_mul, hcoeff, abs_of_pos (hpow exp), abs_of_pos (hpow j), ← Int.cast_abs,
        Int.abs_eq_natAbs, Int.cast_natCast] at habs
      exact habs
    -- The digits of the coefficient end at the exponent that the context needs.
    have hdigits : (digits coeff : Int) + exp - precision ≤ j := by
      rcases le_total exp j with hle | hle
      · have hcoeff := coeff_of_value heq hle
        have hbound : digits coeff ≤ precision + (j - exp).toNat := by
          apply digits_le hzero
          rw [hcoeff, Nat.pow_add]
          exact Nat.mul_lt_mul_of_pos_right hm (by positivity)
        omega
      · have hcoeff := coeff_of_value heq.symm hle
        have hbound : Nat.log 10 coeff + (exp - j).toNat < precision := by
          rw [← Nat.pow_lt_pow_iff_right (show 1 < 10 by omega), Nat.pow_add]
          refine lt_of_le_of_lt ?_ (hcoeff ▸ hm)
          exact Nat.mul_le_mul_right _ (Nat.pow_log_le_self 10 hzero)
        unfold digits
        omega
    have hleast : contextExponent coeff exp ≤ j := max_le hdigits hj
    unfold fix at h
    rw [if_neg hzero] at h
    simp only at h
    split at h
    · cases h
    split at h
    · obtain rfl := Option.some.inj h
      rfl
    rename_i hbeyond
    have hlt : exp < contextExponent coeff exp := by
      unfold contextExponent
      omega
    have hcontext : (digits coeff : Int) + exp - precision ≤ contextExponent coeff exp :=
      le_max_left _ _
    have hfold : max ((digits coeff : Int) + exp - precision) leastExponent =
      contextExponent coeff exp := rfl
    rw [hfold] at h
    generalize contextExponent coeff exp = least at h hlt hcontext hleast
    -- The coefficient is a multiple of what is rounded away.
    obtain ⟨q, hq⟩ : ∃ q, q = m.natAbs * 10 ^ (j - least).toNat := ⟨_, rfl⟩
    have hcoeff : coeff = q * 10 ^ (least - exp).toNat := by
      rw [coeff_of_value heq (by omega), hq, Nat.mul_assoc, ← Nat.pow_add]
      congr 2
      omega
    have hrescale : rescale coeff exp least = q := by
      unfold rescale
      rw [if_neg (by omega), hcoeff]
      exact divHalfEven_mul (by positivity)
    have hfits : q < 10 ^ precision := by
      by_contra hlarge
      have hwhole : 10 ^ (precision + (least - exp).toNat) ≤ coeff := by
        rw [hcoeff, Nat.pow_add]
        exact Nat.mul_le_mul_right _ (by omega)
      have hpow : 10 ^ digits coeff ≤ 10 ^ (precision + (least - exp).toNat) :=
        Nat.pow_le_pow_right (by omega) (by omega)
      have := lt_pow_digits coeff
      omega
    rw [hrescale, if_pos hfits] at h
    obtain rfl := Option.some.inj h
    have hsame : (q : ℚ) * 10 ^ least = coeff * 10 ^ exp := by
      rw [hcoeff, zpow_toNat hlt.le]
      push_cast
      ring
    exact congrArg some (value_congr hsame)

/-- A difference as an integer at the lesser exponent, where nothing is lost. -/
theorem subFinite_eq (neg : Bool) (c : Nat) (e : Int) (neg' : Bool) (c' : Nat) (e' : Int) :
    ∃ z : Int, value neg c e - value neg' c' e' = z * 10 ^ min e e' ∧
      subFinite neg c e neg' c' e' =
        fix (if z = 0 then neg && !neg' else decide (z < 0)) z.natAbs (min e e') := by
  have hscaled : ∀ (n : Bool) (k : Nat) (i : Int), min e e' ≤ i →
      value n k i = (signed n (rescale k i (min e e')) : ℚ) * 10 ^ min e e' := by
    intro n k i hi
    rw [← value_eq]
    apply value_congr
    unfold rescale
    rw [if_pos hi, zpow_toNat hi]
    push_cast
    ring
  refine ⟨signed neg (rescale c e (min e e')) - signed neg' (rescale c' e' (min e e')), ?_, rfl⟩
  rw [hscaled neg c e (min_le_left _ _), hscaled neg' c' e' (min_le_right _ _), ← sub_mul,
    ← Int.cast_sub]

/-- A finite difference is the exact one, fixed in the context. -/
theorem sub_fixed {a b d : PyDecimal} {x y : ℚ} (h : sub? a b = some d) (ha : a.value? = some x)
    (hb : b.value? = some y) : ∃ neg c e, fix neg c e = some d ∧ value neg c e = x - y := by
  cases a with
  | infinity neg => cases ha
  | nan => cases ha
  | finite neg c e =>
    cases b with
    | infinity neg => cases hb
    | nan => cases hb
    | finite neg' c' e' =>
      obtain rfl := Option.some.inj ha
      obtain rfl := Option.some.inj hb
      obtain ⟨z, hz, hsub⟩ := subFinite_eq neg c e neg' c' e'
      refine ⟨if z = 0 then neg && !neg' else decide (z < 0), z.natAbs, min e e',
        hsub.symm.trans h, ?_⟩
      rw [hz]
      by_cases hzero : z = 0
      · simp [hzero, value]
      · rw [if_neg hzero, value_eq, signed_natAbs]

/-- A finite difference has the exact value if and only if the context holds
    that. -/
theorem sub_value_iff {a b d : PyDecimal} {x y : ℚ} (h : sub? a b = some d)
    (ha : a.value? = some x) (hb : b.value? = some y) : d.value? = some (x - y) ↔ Exact (x - y) := by
  obtain ⟨neg, c, e, hfix, hvalue⟩ := sub_fixed h ha hb
  rw [← hvalue]
  exact ⟨exact_of_fix hfix, value_fix hfix⟩

/-! ## Text -/

/-- `format(coeff, "f")` at an exponent. -/
def fixedText (coeff : Nat) (exp : Int) : List Char :=
  let ds := Nat.toDigits 10 coeff
  if 0 ≤ exp then (if coeff = 0 then ds else ds ++ List.replicate exp.toNat '0')
  else
    let places := exp.natAbs
    let padded := List.replicate (places + 1 - ds.length) '0' ++ ds
    padded.take (padded.length - places) ++ '.' :: padded.drop (padded.length - places)

/-- `format(value, "f")`. -/
def text : PyDecimal → String
  | .finite neg c e => String.ofList ((if neg then ['-'] else []) ++ fixedText c e)
  | .infinity neg => if neg then "-Infinity" else "Infinity"
  | .nan => "NaN"

/-- `Decimal(text)` of digits with at most one point among them. -/
def ofFixed (text : String) : Option PyDecimal :=
  let whole := text.toList.takeWhile Char.isDigit
  match text.toList.dropWhile Char.isDigit with
  | [] => if whole = [] then none else some (.finite false (Nat.ofDigitChars 10 whole 0) 0)
  | '.' :: places =>
    if whole ≠ [] ∧ places ≠ [] ∧ places.all Char.isDigit = true then
      some (.finite false (Nat.ofDigitChars 10 (whole ++ places) 0) (-(places.length : Int)))
    else none
  | _ => none

/-- Digits with decimal places are read back. -/
theorem ofFixed_places {coeff places : Nat} (h : places ≠ 0) :
    ofFixed (String.ofList (fixedText coeff (-(places : Int)))) =
      some (.finite false coeff (-(places : Int))) := by
  obtain ⟨padded, hpadded⟩ : ∃ padded, padded =
    List.replicate (places + 1 - (Nat.toDigits 10 coeff).length) '0' ++ Nat.toDigits 10 coeff :=
    ⟨_, rfl⟩
  have hlength : places < padded.length := by
    rw [hpadded, List.length_append, List.length_replicate]
    omega
  have hdigit : ∀ c ∈ padded, c.isDigit = true := by
    intro c hc
    rw [hpadded] at hc
    rcases List.mem_append.mp hc with hc | hc
    · rw [(List.mem_replicate.mp hc).2]
      rfl
    · exact Nat.isDigit_of_mem_toDigits (by omega) (by omega) hc
  have hvalue : Nat.ofDigitChars 10 padded 0 = coeff := by
    rw [hpadded, Nat.ofDigitChars_append, Nat.ofDigitChars_replicate_zero, Nat.mul_zero,
      Nat.ofDigitChars_ten_toDigits]
  have hfixed : fixedText coeff (-(places : Int)) =
      padded.take (padded.length - places) ++ '.' :: padded.drop (padded.length - places) := by
    unfold fixedText
    simp only [Int.natAbs_neg, Int.natAbs_natCast]
    rw [if_neg (by omega), ← hpadded]
  obtain ⟨whole, hwhole⟩ : ∃ whole, whole = padded.take (padded.length - places) := ⟨_, rfl⟩
  obtain ⟨rest, hrest⟩ : ∃ rest, rest = padded.drop (padded.length - places) := ⟨_, rfl⟩
  have happend : whole ++ rest = padded := by
    rw [hwhole, hrest, List.take_append_drop]
  have hwholeLength : whole.length = padded.length - places := by
    rw [hwhole, List.length_take]
    omega
  have hrestLength : rest.length = places := by
    rw [hrest, List.length_drop]
    omega
  have hwholeDigit : ∀ c ∈ whole, c.isDigit = true := by
    intro c hc
    exact hdigit c (happend ▸ List.mem_append_left rest hc)
  have hrestDigit : rest.all Char.isDigit = true := by
    rw [List.all_eq_true]
    intro c hc
    exact hdigit c (happend ▸ List.mem_append_right whole hc)
  have hwholeNe : whole ≠ [] := List.ne_nil_of_length_pos (by omega)
  have hrestNe : rest ≠ [] := List.ne_nil_of_length_pos (by omega)
  unfold ofFixed
  rw [String.toList_ofList, hfixed, ← hwhole, ← hrest, List.takeWhile_append_of_pos hwholeDigit,
    List.dropWhile_append_of_pos hwholeDigit]
  have htake : List.takeWhile Char.isDigit ('.' :: rest) = [] := rfl
  have hdrop : List.dropWhile Char.isDigit ('.' :: rest) = '.' :: rest := rfl
  rw [htake, hdrop, List.append_nil]
  simp only [happend, hvalue, hrestLength]
  rw [if_pos ⟨hwholeNe, hrestNe, hrestDigit⟩]

/-- What is written with decimal places is read back. -/
theorem ofFixed_text {coeff places : Nat} (h : places ≠ 0) :
    ofFixed (text (.finite false coeff (-(places : Int)))) =
      some (.finite false coeff (-(places : Int))) := ofFixed_places h

example : (quantize (-2) (.finite false 1005 (-3))).map text = some "1.00" := by decide +kernel
example : (sub? (ofInt 5) (.finite false 25 (-2))).map text = some "4.75" := by decide +kernel

end PyDecimal

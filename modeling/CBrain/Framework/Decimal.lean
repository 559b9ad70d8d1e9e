import Mathlib.Algebra.Order.Field.Rat
import Mathlib.Algebra.Order.Ring.Rat
import Mathlib.Tactic.Ring
import Mathlib.Tactic.FieldSimp
import Mathlib.Tactic.Linarith
import Mathlib.Tactic.NormNum
import Mathlib.Tactic.Positivity

/-! # Decimal numbers

    A finite number as its shortest decimal literal `± coeff * 10 ^ exp`:
    the coefficient has no trailing zero, so each literal stands for exactly
    one value and each value (up to the sign of zero) has exactly one
    literal.  Addition and subtraction are exact; no rounding to a binary
    format takes place.
-/

/-- A decimal literal in lowest terms.  The sign is kept for zero too. -/
structure Decimal where
  neg : Bool
  coeff : Nat
  exp : Int
  /-- Zero has exponent zero; any other coefficient ends in a nonzero digit. -/
  normal : (coeff = 0 ∧ exp = 0) ∨ coeff % 10 ≠ 0
  deriving DecidableEq, Repr

namespace Decimal

/-! ## Lowest terms -/

/-- Move trailing zeros of the coefficient into the exponent. -/
def strip (c : Nat) (e : Int) : Nat × Int :=
  if c = 0 then (0, 0) else if c % 10 = 0 then strip (c / 10) (e + 1) else (c, e)
termination_by c
decreasing_by omega

@[simp] theorem strip_zero (e : Int) : strip 0 e = (0, 0) := by
  rw [strip]; simp

theorem strip_of_mod_ne {c : Nat} (e : Int) (h : c % 10 ≠ 0) : strip c e = (c, e) := by
  have hc : c ≠ 0 := by rintro rfl; simp at h
  rw [strip]; simp [hc, h]

theorem strip_mul_ten {c : Nat} (e : Int) (hc : c ≠ 0) :
    strip (c * 10) e = strip c (e + 1) := by
  rw [strip]
  have h0 : c * 10 ≠ 0 := by omega
  have h1 : c * 10 % 10 = 0 := by omega
  have h2 : c * 10 / 10 = c := by omega
  simp [h0, h1, h2]

/-- Padding the coefficient with `k` zeros and lowering the exponent by `k`
    does not change the literal. -/
theorem strip_mul_pow (c : Nat) (e : Int) (k : Nat) :
    strip (c * 10 ^ k) e = strip c (e + k) := by
  by_cases hc : c = 0
  · simp [hc]
  · induction k generalizing e with
    | zero => simp
    | succ k ih =>
      have hk : c * 10 ^ k ≠ 0 := by positivity
      rw [pow_succ, ← mul_assoc, strip_mul_ten e hk, ih]
      congr 1
      push_cast
      ring

theorem strip_normal (c : Nat) (e : Int) :
    ((strip c e).1 = 0 ∧ (strip c e).2 = 0) ∨ (strip c e).1 % 10 ≠ 0 := by
  induction c using Nat.strongRecOn generalizing e with
  | ind c ih =>
    rw [strip]
    split
    · left; simp
    · next hc =>
      split
      · exact ih (c / 10) (by omega) (e + 1)
      · next hm => exact Or.inr hm

theorem strip_value (c : Nat) (e : Int) :
    ((strip c e).1 : ℚ) * 10 ^ (strip c e).2 = (c : ℚ) * 10 ^ e := by
  induction c using Nat.strongRecOn generalizing e with
  | ind c ih =>
    rw [strip]
    split
    · next hc => simp [hc]
    · next hc =>
      split
      · next hm =>
        rw [ih (c / 10) (by omega) (e + 1)]
        have hcd : (c : ℚ) = ((c / 10 : ℕ) : ℚ) * 10 := by
          have : c = c / 10 * 10 := by omega
          exact_mod_cast this
        rw [hcd, zpow_add₀ (by norm_num : (10 : ℚ) ≠ 0), zpow_one]
        ring
      · rfl

/-- The literal of `± c * 10 ^ e`. -/
def ofScaled (neg : Bool) (c : Nat) (e : Int) : Decimal where
  neg := neg
  coeff := (strip c e).1
  exp := (strip c e).2
  normal := strip_normal c e

theorem ofScaled_self (d : Decimal) : ofScaled d.neg d.coeff d.exp = d := by
  rcases d with ⟨neg, coeff, exp, h⟩
  rcases h with ⟨rfl, rfl⟩ | h
  · simp [ofScaled]
  · simp [ofScaled, strip_of_mod_ne exp h]

theorem ofScaled_mul_pow (neg : Bool) (c : Nat) (e : Int) (k : Nat) :
    ofScaled neg (c * 10 ^ k) e = ofScaled neg c (e + k) := by
  simp [ofScaled, strip_mul_pow]

/-! ## Values, order and arithmetic -/

/-- The signed coefficient. -/
def signed (d : Decimal) : Int := if d.neg then -(d.coeff : Int) else d.coeff

/-- The exact value. -/
def toRat (d : Decimal) : ℚ := d.signed * 10 ^ d.exp

/-- The literal of `z * 10 ^ e`; its zero is the positive one. -/
def ofInt (z : Int) (e : Int) : Decimal := ofScaled (decide (z < 0)) z.natAbs e

theorem toRat_ofInt (z : Int) (e : Int) : (ofInt z e).toRat = z * 10 ^ e := by
  have hv := strip_value z.natAbs e
  simp only [toRat, signed, ofInt, ofScaled, decide_eq_true_eq]
  split
  · next hz =>
    have hzabs : ((z.natAbs : ℕ) : ℚ) = -(z : ℚ) := by
      rw [Nat.cast_natAbs, abs_of_neg hz]; push_cast; rfl
    push_cast
    rw [neg_mul, hv, hzabs]
    ring
  · next hz =>
    have hzabs : ((z.natAbs : ℕ) : ℚ) = (z : ℚ) := by
      rw [Nat.cast_natAbs, abs_of_nonneg (not_lt.mp hz)]
    push_cast
    rw [hv, hzabs]

/-- The coefficient of `d` over a common exponent `m ≤ d.exp`. -/
def scaledTo (d : Decimal) (m : Int) : Int := d.signed * 10 ^ (d.exp - m).toNat

theorem scaledTo_value {d : Decimal} {m : Int} (h : m ≤ d.exp) :
    (d.scaledTo m : ℚ) * 10 ^ m = d.toRat := by
  have he : ((d.exp - m).toNat : Int) = d.exp - m := by omega
  simp only [scaledTo, toRat]
  push_cast
  rw [← zpow_natCast, he, mul_assoc, ← zpow_add₀ (by norm_num : (10 : ℚ) ≠ 0)]
  congr 2
  ring

/-- Exact addition. -/
def add (a b : Decimal) : Decimal :=
  ofInt (a.scaledTo (min a.exp b.exp) + b.scaledTo (min a.exp b.exp)) (min a.exp b.exp)

/-- Exact subtraction. -/
def sub (a b : Decimal) : Decimal :=
  ofInt (a.scaledTo (min a.exp b.exp) - b.scaledTo (min a.exp b.exp)) (min a.exp b.exp)

instance : Add Decimal := ⟨add⟩
instance : Sub Decimal := ⟨sub⟩
instance : Zero Decimal := ⟨⟨false, 0, 0, Or.inl ⟨rfl, rfl⟩⟩⟩
instance : LT Decimal := ⟨fun a b => a.toRat < b.toRat⟩
instance : LE Decimal := ⟨fun a b => a.toRat ≤ b.toRat⟩

theorem lt_def (a b : Decimal) : a < b ↔ a.toRat < b.toRat := Iff.rfl
theorem le_def (a b : Decimal) : a ≤ b ↔ a.toRat ≤ b.toRat := Iff.rfl

instance (a b : Decimal) : Decidable (a < b) := decidable_of_iff _ (lt_def a b).symm
instance (a b : Decimal) : Decidable (a ≤ b) := decidable_of_iff _ (le_def a b).symm

@[simp] theorem toRat_zero : (0 : Decimal).toRat = 0 := by
  show toRat ⟨false, 0, 0, _⟩ = 0
  simp [toRat, signed]

@[simp] theorem toRat_add (a b : Decimal) : (a + b).toRat = a.toRat + b.toRat := by
  show (add a b).toRat = _
  rw [add, toRat_ofInt]
  push_cast
  rw [add_mul, scaledTo_value (min_le_left _ _), scaledTo_value (min_le_right _ _)]

@[simp] theorem toRat_sub (a b : Decimal) : (a - b).toRat = a.toRat - b.toRat := by
  show (sub a b).toRat = _
  rw [sub, toRat_ofInt]
  push_cast
  rw [sub_mul, scaledTo_value (min_le_left _ _), scaledTo_value (min_le_right _ _)]

/-! ## Literals are determined by their value and sign -/

theorem coeff_exp_unique {c c' : Nat} {e e' : Int} (hle : e ≤ e')
    (hc : (c = 0 ∧ e = 0) ∨ c % 10 ≠ 0) (hc' : (c' = 0 ∧ e' = 0) ∨ c' % 10 ≠ 0)
    (h : (c : ℚ) * 10 ^ e = (c' : ℚ) * 10 ^ e') : c = c' ∧ e = e' := by
  obtain ⟨k, rfl⟩ : ∃ k : Nat, e' = e + k := ⟨(e' - e).toNat, by omega⟩
  have hten : (10 : ℚ) ^ e ≠ 0 := zpow_ne_zero e (by norm_num)
  have hmul : c = c' * 10 ^ k := by
    rw [zpow_add₀ (by norm_num : (10 : ℚ) ≠ 0), zpow_natCast, mul_comm ((10 : ℚ) ^ e),
      ← mul_assoc] at h
    exact_mod_cast mul_right_cancel₀ hten h
  rcases k with _ | k
  · simpa using hmul
  · -- A larger exponent would leave a trailing zero in the smaller one's coefficient.
    have hdvd : c % 10 = 0 := by
      rw [hmul, pow_succ, ← mul_assoc]
      exact Nat.mul_mod_left _ _
    rcases hc with ⟨rfl, rfl⟩ | hc
    · have hc0 : c' = 0 := by
        rcases Nat.mul_eq_zero.mp hmul.symm with h0 | h0
        · exact h0
        · exact absurd h0 (by positivity)
      rcases hc' with ⟨_, he⟩ | hc'
      · exact ⟨hc0.symm, he.symm⟩
      · rw [hc0] at hc'; exact absurd rfl hc'
    · exact absurd hdvd hc

/-- Two literals of one value and one sign are the same. -/
theorem eq_of_toRat {a b : Decimal} (hneg : a.neg = b.neg) (h : a.toRat = b.toRat) : a = b := by
  have hval : (a.coeff : ℚ) * 10 ^ a.exp = (b.coeff : ℚ) * 10 ^ b.exp := by
    unfold toRat signed at h
    rw [← hneg] at h
    split at h
    · push_cast at h
      linarith
    · exact_mod_cast h
  have hboth : a.coeff = b.coeff ∧ a.exp = b.exp := by
    rcases le_total a.exp b.exp with hle | hle
    · exact coeff_exp_unique hle a.normal b.normal hval
    · obtain ⟨h1, h2⟩ := coeff_exp_unique hle b.normal a.normal hval.symm
      exact ⟨h1.symm, h2.symm⟩
  rcases a with ⟨na, ca, ea, ha⟩
  rcases b with ⟨nb, cb, eb, hb⟩
  simp only at hneg hboth
  obtain ⟨rfl, rfl⟩ := hboth
  subst hneg
  rfl

/-- The larger of two numbers; the first one if they are equal. -/
def max (a b : Decimal) : Decimal := if a < b then b else a

@[simp] theorem toRat_max (a b : Decimal) : (max a b).toRat = Max.max a.toRat b.toRat := by
  unfold max
  split
  · next h => rw [max_eq_right (le_of_lt ((lt_def a b).mp h))]
  · next h => rw [max_eq_left (not_lt.mp ((lt_def a b).not.mp h))]

end Decimal

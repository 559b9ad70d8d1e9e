import CBrain.Framework.PyDecimal
import Mathlib.Data.Int.ConditionallyCompleteOrder
import Mathlib.Data.Int.Order.Basic
import Mathlib.Order.WithBot

/-! # Double-precision numbers

    The binary floating-point numbers of 64 bits: what compares, what is
    added, and what rounding keeps of the order.  Every finite number is a
    multiple of the smallest positive one, `2 ^ (-1074)`, and is given by that
    multiple, so that a sum of two is an exact integer before it is rounded to
    53 significant bits.

    The sign of a zero is left out: no comparison and no sum here sees it. -/

namespace Double

open PyDecimal (divHalfEven)

/-! ## Section 1: Rounding a magnitude -/

/-- `n` rounded to 53 significant bits, a half going to the even side. -/
def roundMagnitude (n : Nat) : Nat :=
  if n < 2 ^ 53 then n else divHalfEven n (2 ^ (n.log2 - 52)) * 2 ^ (n.log2 - 52)

/-- A finite number is at most 53 bits, shifted so far to the left. -/
def maxShift : Nat := 2045

/-- One is the smallest positive number, shifted so far to the left. -/
def unitShift : Nat := 1074

theorem unitShift_le : unitShift ≤ maxShift := by decide

theorem maxShift_pos : maxShift ≠ 0 := by decide

/-- The magnitudes of finite numbers, the largest just below `2 ^ 1024`. -/
def Representable (n : Nat) : Prop := ∃ m q, m < 2 ^ 53 ∧ q ≤ maxShift ∧ n = m * 2 ^ q

/-- From `2 ^ 1024 - 2 ^ 970` on, a magnitude rounds to infinity. -/
def overflow : Nat := (2 ^ 54 - 1) * 2 ^ (maxShift - 1)

attribute [irreducible] maxShift unitShift overflow

theorem two_pow_split {n : Nat} (h : 2 ^ 53 ≤ n) : 2 ^ n.log2 = 2 ^ 52 * 2 ^ (n.log2 - 52) := by
  have hlog : 53 ≤ n.log2 := (Nat.le_log2 (by omega)).mpr h
  rw [← Nat.pow_add]
  congr 1
  omega

/-- A rounded magnitude keeps its leading power of two or reaches the next. -/
theorem roundMagnitude_bounds {n : Nat} (h : 2 ^ 53 ≤ n) :
    2 ^ n.log2 ≤ roundMagnitude n ∧ roundMagnitude n ≤ 2 ^ (n.log2 + 1) := by
  have hsplit := two_pow_split h
  have hpos : 0 < 2 ^ (n.log2 - 52) := Nat.two_pow_pos _
  rw [roundMagnitude, if_neg (by omega)]
  constructor
  · have hlow : 2 ^ 52 * 2 ^ (n.log2 - 52) ≤ n := by
      rw [← hsplit]
      exact Nat.log2_self_le (by omega)
    rw [hsplit]
    exact Nat.mul_le_mul_right _ (PyDecimal.le_divHalfEven hpos hlow)
  · have hhigh : n ≤ 2 ^ 53 * 2 ^ (n.log2 - 52) := by
      have := Nat.lt_log2_self (n := n)
      rw [Nat.pow_succ, hsplit] at this
      omega
    calc divHalfEven n (2 ^ (n.log2 - 52)) * 2 ^ (n.log2 - 52)
        ≤ 2 ^ 53 * 2 ^ (n.log2 - 52) :=
          Nat.mul_le_mul_right _ (PyDecimal.divHalfEven_le hpos hhigh)
      _ = 2 ^ (n.log2 + 1) := by rw [Nat.pow_succ 2 n.log2, hsplit]; ring

theorem roundMagnitude_mono {n m : Nat} (h : n ≤ m) : roundMagnitude n ≤ roundMagnitude m := by
  by_cases hn : n < 2 ^ 53
  · by_cases hm : m < 2 ^ 53
    · rw [roundMagnitude, roundMagnitude, if_pos hn, if_pos hm]
      exact h
    · -- The larger one has at least 53 bits, and keeps them.
      have hlog : 53 ≤ m.log2 := (Nat.le_log2 (by omega)).mpr (by omega)
      have hpow : 2 ^ 53 ≤ 2 ^ m.log2 := Nat.pow_le_pow_right (by omega) hlog
      have hlow := (roundMagnitude_bounds (n := m) (by omega)).1
      rw [roundMagnitude, if_pos hn]
      omega
  · have hlog : n.log2 ≤ m.log2 :=
      (Nat.le_log2 (by omega)).mpr ((Nat.log2_self_le (by omega)).trans h)
    rcases Nat.lt_or_eq_of_le hlog with hlt | heq
    · -- The smaller one stays below the next power of two.
      calc roundMagnitude n ≤ 2 ^ (n.log2 + 1) := (roundMagnitude_bounds (by omega)).2
        _ ≤ 2 ^ m.log2 := Nat.pow_le_pow_right (by omega) hlt
        _ ≤ roundMagnitude m := (roundMagnitude_bounds (by omega)).1
    · rw [roundMagnitude, roundMagnitude, if_neg hn, if_neg (by omega), heq]
      exact Nat.mul_le_mul_right _ (PyDecimal.divHalfEven_mono h)

/-- A shifted significand, which may have been rounded up to the next power of
    two. -/
theorem representable_mul {m s : Nat} (hm : m ≤ 2 ^ 53) (hs : s ≤ maxShift)
    (hlast : m = 2 ^ 53 → s ≠ maxShift) : Representable (m * 2 ^ s) := by
  rcases Nat.lt_or_eq_of_le hm with hlt | heq
  · exact ⟨m, s, hlt, hs, rfl⟩
  · have hne := hlast heq
    refine ⟨2 ^ 52, s + 1, by omega, by omega, ?_⟩
    rw [heq, Nat.pow_succ 2 s]
    ring

theorem two_overflow : 2 * overflow = (2 * (2 ^ 53 - 1) + 1) * 2 ^ maxShift := by
  have hshift := maxShift_pos
  unfold overflow
  generalize maxShift = shift at hshift ⊢
  have hpow : 2 ^ shift = 2 * 2 ^ (shift - 1) := by
    rw [← Nat.pow_succ']
    congr 1
    omega
  rw [hpow, show 2 ^ 54 - 1 = 2 * (2 ^ 53 - 1) + 1 by norm_num]
  ring

theorem log2_lt_of_lt_overflow {n : Nat} (hn : n ≠ 0) (h : n < overflow) :
    n.log2 - 52 ≤ maxShift := by
  have hshift := maxShift_pos
  unfold overflow at h
  generalize maxShift = shift at h hshift ⊢
  have hlog : n.log2 < 54 + (shift - 1) := by
    rw [Nat.log2_lt hn, Nat.pow_add]
    exact h.trans_le (Nat.mul_le_mul_right _ (by omega))
  omega

theorem representable_roundMagnitude {n : Nat} (h : n < overflow) :
    Representable (roundMagnitude n) := by
  unfold roundMagnitude
  by_cases hn : n < 2 ^ 53
  · rw [if_pos hn]
    exact ⟨n, 0, hn, Nat.zero_le _, by omega⟩
  · have hsplit := two_pow_split (n := n) (by omega)
    have hhigh : n ≤ 2 ^ 53 * 2 ^ (n.log2 - 52) := by
      have := Nat.lt_log2_self (n := n)
      rw [Nat.pow_succ, hsplit] at this
      omega
    rw [if_neg hn]
    refine representable_mul (PyDecimal.divHalfEven_le (Nat.two_pow_pos _) hhigh)
      (log2_lt_of_lt_overflow (by omega) h) ?_
    intro heq hlast
    -- The last binade does not reach the next power of two.
    have hhalf : (2 * (2 ^ 53 - 1) + 1) * 2 ^ (n.log2 - 52) ≤ 2 * n :=
      PyDecimal.of_lt_divHalfEven (by omega)
    rw [hlast, ← two_overflow] at hhalf
    omega

end Double

/-! ## Section 2: The numbers -/

/-- A float. -/
inductive Double where
  /-- A multiple of the smallest positive number. -/
  | finite (units : Int) (representable : Double.Representable units.natAbs)
  | infinity (negative : Bool)
  | nan
  deriving DecidableEq

namespace Double

open PyDecimal (divHalfEven)

/-- `math.isfinite`. -/
def isFinite : Double → Bool
  | .finite .. => true
  | _ => false

/-- `a <= b`, which NaN never satisfies. -/
protected def le : Double → Double → Prop
  | .nan, _ | _, .nan => False
  | .infinity true, _ | _, .infinity false => True
  | .finite x _, .finite y _ => x ≤ y
  | .infinity false, _ | _, .infinity true => False

instance : LE Double := ⟨Double.le⟩

/-- `a < b`. -/
instance : LT Double := ⟨fun a b => a ≤ b ∧ ¬ b ≤ a⟩

instance : DecidableLE Double := fun a b =>
  match a, b with
  | .nan, _ => isFalse (by cases b <;> exact id)
  | .finite .., .nan => isFalse id
  | .infinity _, .nan => isFalse (by rename_i neg; cases neg <;> exact id)
  | .finite x _, .finite y _ => inferInstanceAs (Decidable (x ≤ y))
  | .infinity true, .finite .. => isTrue trivial
  | .infinity true, .infinity _ => isTrue trivial
  | .finite .., .infinity false => isTrue trivial
  | .infinity false, .infinity false => isTrue trivial
  | .infinity false, .finite .. => isFalse id
  | .infinity false, .infinity true => isFalse id
  | .finite .., .infinity true => isFalse id

instance : DecidableLT Double := fun a b => inferInstanceAs (Decidable (a ≤ b ∧ ¬ b ≤ a))

/-- The number nearest to a multiple of the smallest one. -/
def round (units : Int) : Double :=
  if h : units.natAbs < overflow then
    .finite (if units < 0 then -(roundMagnitude units.natAbs : Int)
      else roundMagnitude units.natAbs) (by
        have := representable_roundMagnitude h
        split <;> simpa using this)
  else .infinity (decide (units < 0))

/-- `a + b`. -/
protected def add : Double → Double → Double
  | .nan, _ | _, .nan => .nan
  | .infinity neg, .infinity neg' => if neg = neg' then .infinity neg else .nan
  | .infinity neg, .finite .. | .finite .., .infinity neg => .infinity neg
  | .finite x _, .finite y _ => round (x + y)

instance : Add Double := ⟨Double.add⟩

theorem representable_of_lt {n : Nat} (h : n < 2 ^ 53) : Representable n :=
  ⟨n, 0, h, Nat.zero_le _, by omega⟩

/-- `float(n)`. -/
def ofNat (n : Nat) (h : n < 2 ^ 53) : Double :=
  .finite ((n * 2 ^ unitShift : Nat) : Int)
    ⟨n, unitShift, h, unitShift_le, Int.natAbs_natCast _⟩

/-- `n / d` of integers, in multiples of the smallest positive number. -/
def ratioMagnitude (n d : Nat) : Nat :=
  if n * 2 ^ unitShift / d < 2 ^ 53 then divHalfEven (n * 2 ^ unitShift) d
  else
    let shift := (n * 2 ^ unitShift / d).log2 - 52
    divHalfEven (n * 2 ^ unitShift) (d * 2 ^ shift) * 2 ^ shift

theorem representable_ratioMagnitude {n d : Nat} (hd : 0 < d)
    (h : n * 2 ^ unitShift < overflow * d) : Representable (ratioMagnitude n d) := by
  unfold ratioMagnitude
  generalize n * 2 ^ unitShift = u at h ⊢
  have hlt : u < (u / d + 1) * d := Nat.lt_mul_of_div_lt (Nat.lt_succ_self _) hd
  by_cases hsmall : u / d < 2 ^ 53
  · rw [if_pos hsmall]
    have hle : divHalfEven u d ≤ 2 ^ 53 := by
      apply PyDecimal.divHalfEven_le hd
      exact hlt.le.trans (Nat.mul_le_mul_right d hsmall)
    have := representable_mul (s := 0) hle (Nat.zero_le _) (fun _ => maxShift_pos.symm)
    rwa [Nat.pow_zero, Nat.mul_one] at this
  · rw [if_neg hsmall]
    have hquotient : u / d < overflow := Nat.div_lt_of_lt_mul (by rwa [Nat.mul_comm])
    have hlog := log2_lt_of_lt_overflow (n := u / d) (by omega) hquotient
    have hpos : 0 < d * 2 ^ ((u / d).log2 - 52) := Nat.mul_pos hd (Nat.two_pow_pos _)
    refine representable_mul (PyDecimal.divHalfEven_le hpos ?_) hlog ?_
    · have hbits := Nat.lt_log2_self (n := u / d)
      rw [Nat.pow_succ, two_pow_split (by omega)] at hbits
      calc u ≤ (u / d + 1) * d := hlt.le
        _ ≤ (2 ^ 52 * 2 ^ ((u / d).log2 - 52) * 2) * d := Nat.mul_le_mul_right d hbits
        _ = 2 ^ 53 * (d * 2 ^ ((u / d).log2 - 52)) := by ring
    · intro heq hlast
      have hhalf : (2 * (2 ^ 53 - 1) + 1) * (d * 2 ^ ((u / d).log2 - 52)) ≤ 2 * u :=
        PyDecimal.of_lt_divHalfEven (by omega)
      rw [hlast, Nat.mul_comm d, ← Nat.mul_assoc, ← two_overflow, Nat.mul_assoc] at hhalf
      omega

/-- `n / d` of integers. -/
def ratio (n d : Nat) (hd : 0 < d) : Double :=
  if h : n * 2 ^ unitShift < overflow * d then
    .finite (ratioMagnitude n d : Int) (by
      rw [Int.natAbs_natCast]
      exact representable_ratioMagnitude hd h)
  else .infinity false

instance : Zero Double := ⟨.finite 0 (representable_of_lt (by decide))⟩

/-! ## Section 3: What rounding and adding keep -/

variable {x y : Int} {a b c : Double}

theorem ofNat_le_zero {n : Nat} {h : n < 2 ^ 53} : ofNat n h ≤ 0 ↔ n = 0 := by
  show ((n * 2 ^ unitShift : Nat) : Int) ≤ 0 ↔ _
  have hpos : 0 < 2 ^ unitShift := Nat.two_pow_pos _
  rw [Int.natCast_nonpos_iff, Nat.mul_eq_zero]
  exact or_iff_left hpos.ne'

theorem ofNat_le {n m : Nat} {hn : n < 2 ^ 53} {hm : m < 2 ^ 53} :
    ofNat n hn ≤ ofNat m hm ↔ n ≤ m := by
  show ((n * 2 ^ unitShift : Nat) : Int) ≤ ((m * 2 ^ unitShift : Nat) : Int) ↔ _
  rw [Int.ofNat_le]
  exact Nat.mul_le_mul_right_iff (Nat.two_pow_pos _)

theorem Representable.lt_overflow {n : Nat} (h : Representable n) : n < overflow := by
  obtain ⟨m, q, hm, hq, rfl⟩ := h
  have hpow : 2 ^ q ≤ 2 ^ maxShift := Nat.pow_le_pow_right (by omega) hq
  have hpos : 0 < 2 ^ maxShift := Nat.two_pow_pos _
  have hle : m * 2 ^ q ≤ (2 ^ 53 - 1) * 2 ^ maxShift := Nat.mul_le_mul (by omega) hpow
  have htwo : 2 * (m * 2 ^ q) < 2 * overflow := by
    rw [two_overflow, Nat.add_mul, Nat.one_mul, Nat.mul_assoc]
    omega
  omega

/-- A whole number added to zero does not overflow. -/
theorem zero_add_ofNat_lt (n : Nat) (h : n < 2 ^ 53) :
    (0 : Int) + ((n * 2 ^ unitShift : Nat) : Int) < overflow := by
  have hrepresentable : Representable (n * 2 ^ unitShift) := ⟨n, unitShift, h, unitShift_le, rfl⟩
  have := hrepresentable.lt_overflow
  omega

theorem not_le_nan : ¬ a ≤ .nan := by
  cases a with
  | finite x _ => exact id
  | infinity neg => cases neg <;> exact id
  | nan => exact id

theorem add_nan : a + .nan = .nan := by
  cases a <;> rfl

theorem le_infinity (h : a ≠ .nan) : a ≤ .infinity false := by
  cases a with
  | finite x _ => trivial
  | infinity neg => cases neg <;> trivial
  | nan => exact absurd rfl h

theorem round_ne_nan : round x ≠ .nan := by
  unfold round
  split <;> simp

/-- Rounding keeps the order. -/
theorem round_mono (h : x ≤ y) : round x ≤ round y := by
  unfold round
  by_cases hx : x.natAbs < overflow
  · by_cases hy : y.natAbs < overflow
    · rw [dif_pos hx, dif_pos hy]
      show (_ : Int) ≤ _
      by_cases hxneg : x < 0
      · by_cases hyneg : y < 0
        · have := roundMagnitude_mono (show y.natAbs ≤ x.natAbs by omega)
          rw [if_pos hxneg, if_pos hyneg]
          omega
        · rw [if_pos hxneg, if_neg hyneg]
          omega
      · have := roundMagnitude_mono (show x.natAbs ≤ y.natAbs by omega)
        rw [if_neg hxneg, if_neg (by omega)]
        omega
    · -- Only the larger one overflows, and upwards.
      rw [dif_pos hx, dif_neg hy, decide_eq_false (by omega)]
      trivial
  · by_cases hxneg : x < 0
    · rw [dif_neg hx, decide_eq_true hxneg]
      split <;> trivial
    · rw [dif_neg hx, dif_neg (by omega), decide_eq_false hxneg, decide_eq_false (by omega)]
      trivial

/-! ## Section 4: The order of the numbers -/

/-- The place of a number among the integers and two ends. -/
def place : Double → WithBot (WithTop Int)
  | .finite x _ => ((x : WithTop Int) : WithBot (WithTop Int))
  | .infinity false => ((⊤ : WithTop Int) : WithBot (WithTop Int))
  | .infinity true | .nan => ⊥

theorem ne_nan_of_le (h : a ≤ b) : a ≠ .nan ∧ b ≠ .nan := by
  constructor
  · rintro rfl
    exact h
  · rintro rfl
    exact not_le_nan h

/-- Numbers compare as their places do. -/
theorem le_iff_place (ha : a ≠ .nan) (hb : b ≠ .nan) : a ≤ b ↔ place a ≤ place b := by
  rcases a with ⟨x, hx⟩ | (_ | _) | _
  · rcases b with ⟨y, hy⟩ | (_ | _) | _
    · show x ≤ y ↔ ((x : WithTop Int) : WithBot (WithTop Int)) ≤ ((y : WithTop Int) : WithBot _)
      rw [WithBot.coe_le_coe, WithTop.coe_le_coe]
    · exact iff_of_true trivial (WithBot.coe_le_coe.mpr le_top)
    · exact iff_of_false id (by simp [place])
    · exact absurd rfl hb
  · rcases b with ⟨y, hy⟩ | (_ | _) | _
    · exact iff_of_false id (by simp [place])
    · exact iff_of_true trivial le_rfl
    · exact iff_of_false id (by simp [place])
    · exact absurd rfl hb
  · refine iff_of_true ?_ bot_le
    rcases b with ⟨y, hy⟩ | (_ | _) | _
    · trivial
    · trivial
    · trivial
    · exact absurd rfl hb
  · exact absurd rfl ha

theorem place_inj (ha : a ≠ .nan) (hb : b ≠ .nan) (h : place a = place b) : a = b := by
  rcases a with ⟨x, hx⟩ | (_ | _) | _ <;> rcases b with ⟨y, hy⟩ | (_ | _) | _ <;>
    simp_all [place]

protected theorem le_trans (hab : a ≤ b) (hbc : b ≤ c) : a ≤ c := by
  obtain ⟨ha, hb⟩ := ne_nan_of_le hab
  obtain ⟨-, hc⟩ := ne_nan_of_le hbc
  rw [le_iff_place ha hb] at hab
  rw [le_iff_place hb hc] at hbc
  exact (le_iff_place ha hc).mpr (hab.trans hbc)

protected theorem le_antisymm (hab : a ≤ b) (hba : b ≤ a) : a = b := by
  obtain ⟨ha, hb⟩ := ne_nan_of_le hab
  rw [le_iff_place ha hb] at hab
  rw [le_iff_place hb ha] at hba
  exact place_inj ha hb (le_antisymm hab hba)

protected theorem le_total (ha : a ≠ .nan) (hb : b ≠ .nan) : a ≤ b ∨ b ≤ a := by
  rw [le_iff_place ha hb, le_iff_place hb ha]
  exact le_total _ _

/-! ## Section 5: The floats from zero on -/

/-- A float that passes `value >= 0`, which NaN does not. -/
structure NonNegative where
  value : Double
  nonneg : 0 ≤ value
  deriving DecidableEq

instance : LinearOrder NonNegative where
  le a b := a.value ≤ b.value
  lt a b := a.value < b.value
  le_refl a := (Double.le_total (ne_nan_of_le a.nonneg).2 (ne_nan_of_le a.nonneg).2).elim id id
  le_trans _ _ _ hab hbc := Double.le_trans hab hbc
  lt_iff_le_not_ge _ _ := Iff.rfl
  le_antisymm a b hab hba := by
    have hvalue := Double.le_antisymm hab hba
    cases a
    cases b
    cases hvalue
    rfl
  le_total a b := Double.le_total (ne_nan_of_le a.nonneg).2 (ne_nan_of_le b.nonneg).2
  toDecidableLE := fun a b => inferInstanceAs (Decidable (a.value ≤ b.value))
  toDecidableLT := fun a b => inferInstanceAs (Decidable (a.value < b.value))
  toDecidableEq := inferInstance

end Double

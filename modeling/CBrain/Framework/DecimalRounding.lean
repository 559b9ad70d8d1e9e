import CBrain.Framework.PyDecimalArithmetic
import Mathlib.Data.Int.Log
import Mathlib.Data.Rat.Floor
import Mathlib.Tactic.FieldSimp

/-! # Rounding in the order of the values

    The operations of Python's decimals on the values alone: each is the exact
    operation on rational numbers and one rounding after it, and rounding keeps
    the order.

    * `halfEven`      : the nearest integer, a half going to the even one.
    * `roundAt`       : rounding to multiples of a power of ten.
    * `contextRound`  : rounding to the digits of the context.
    * `add_value`, `mul_value`, `div_value` : what the operations compute. -/

namespace PyDecimal

/-! ## The nearest integer -/

/-- The integer is nearest to the number, and even if it is so by a half. -/
def Nearest (x : ℚ) (n : ℤ) : Prop := |x - n| < 1 / 2 ∨ |x - n| = 1 / 2 ∧ Even n

/-- The nearest integer. -/
def halfEven (x : ℚ) : ℤ :=
  let n := ⌊x⌋
  if x - n < 1 / 2 then n
  else if 1 / 2 < x - n then n + 1
  else if n % 2 = 0 then n else n + 1

theorem nearest_halfEven (x : ℚ) : Nearest x (halfEven x) := by
  have hlow := Int.floor_le x
  have hhigh := Int.lt_floor_add_one x
  unfold halfEven
  simp only
  split
  · left
    rw [abs_of_nonneg (by linarith)]
    assumption
  split
  · left
    push_cast
    rw [abs_of_neg (by linarith)]
    linarith
  -- A half remains between the two integers.
  have hhalf : x - ⌊x⌋ = 1 / 2 := by linarith
  split
  · rename_i heven
    right
    rw [hhalf]
    exact ⟨by norm_num, Int.even_iff.mpr heven⟩
  · rename_i hodd
    right
    push_cast
    rw [show x - (⌊x⌋ + 1) = -(1 / 2) from by linarith]
    exact ⟨by norm_num, Int.even_iff.mpr (by omega)⟩

theorem Nearest.within {x : ℚ} {n : ℤ} (h : Nearest x n) : |x - n| ≤ 1 / 2 := by
  rcases h with h | h
  · exact h.le
  · exact h.1.le

/-- Of two nearest integers, both would be even and next to each other. -/
theorem Nearest.unique {x : ℚ} {m n : ℤ} (hm : Nearest x m) (hn : Nearest x n) : m = n := by
  by_contra hne
  have hstep : (1 : ℚ) ≤ |(m : ℚ) - n| := by
    exact_mod_cast Int.one_le_abs (sub_ne_zero.mpr hne)
  have htriangle : |(m : ℚ) - n| ≤ |x - n| + |x - m| := by
    have habs := abs_sub_le (m : ℚ) x n
    rw [abs_sub_comm (m : ℚ) x] at habs
    linarith
  have hmle := hm.within
  have hnle := hn.within
  have hm' : |x - m| = 1 / 2 ∧ Even m := hm.resolve_left (by linarith)
  have hn' : |x - n| = 1 / 2 ∧ Even n := hn.resolve_left (by linarith)
  have hone : |(m : ℚ) - n| ≤ 1 := by linarith
  have hone' : |m - n| ≤ 1 := by exact_mod_cast hone
  obtain ⟨i, hi⟩ := hm'.2
  obtain ⟨j, hj⟩ := hn'.2
  have hbounds := abs_le.mp hone'
  omega

theorem halfEven_eq_iff {x : ℚ} {n : ℤ} : halfEven x = n ↔ Nearest x n :=
  ⟨fun h => h ▸ nearest_halfEven x, fun h => (nearest_halfEven x).unique h⟩

theorem halfEven_mono {x y : ℚ} (h : x ≤ y) : halfEven x ≤ halfEven y := by
  by_contra hlt
  have hx := (abs_le.mp (nearest_halfEven x).within).1
  have hy := (abs_le.mp (nearest_halfEven y).within).2
  have hstep : (halfEven y : ℚ) + 1 ≤ halfEven x := by exact_mod_cast (by omega)
  have hsame : x = y := by linarith
  rw [hsame] at hlt
  exact hlt (le_refl _)

@[simp] theorem halfEven_intCast (n : ℤ) : halfEven n = n := by
  rw [halfEven_eq_iff]
  left
  simp

@[simp] theorem halfEven_zero : halfEven 0 = 0 := by
  simpa using halfEven_intCast 0

theorem halfEven_neg (x : ℚ) : halfEven (-x) = -halfEven x := by
  rw [halfEven_eq_iff]
  have hflip : |-x - ((-halfEven x : ℤ) : ℚ)| = |x - halfEven x| := by
    rw [← abs_neg]
    congr 1
    push_cast
    ring
  unfold Nearest
  rw [hflip, even_neg]
  exact nearest_halfEven x

/-- A fraction is rounded by its remainder. -/
theorem halfEven_div (n : Nat) {d : Nat} (hd : 0 < d) :
    halfEven ((n : ℚ) / d) = divHalfEven n d := by
  have hd' : (0 : ℚ) < d := by exact_mod_cast hd
  have hn := Nat.div_add_mod n d
  have hlt := Nat.mod_lt n hd
  rw [halfEven_eq_iff]
  unfold divHalfEven
  generalize n / d = q at hn
  generalize n % d = r at hn hlt
  have hsplit : (n : ℚ) / d = q + (r : ℚ) / d := by
    rw [← hn]
    push_cast
    field_simp
  have hrest : (r : ℚ) / d < 1 := (div_lt_one hd').mpr (by exact_mod_cast hlt)
  have hnonneg : (0 : ℚ) ≤ (r : ℚ) / d := by positivity
  rw [hsplit]
  simp only
  split
  · rename_i hbelow
    have hhalf : (r : ℚ) / d < 1 / 2 := by
      rw [div_lt_iff₀ hd']
      have hbelow' : 2 * (r : ℚ) < d := by exact_mod_cast hbelow
      linarith
    left
    rw [Int.cast_natCast, add_sub_cancel_left, abs_of_nonneg hnonneg]
    exact hhalf
  split
  · rename_i habove
    have hhalf : 1 / 2 < (r : ℚ) / d := by
      rw [lt_div_iff₀ hd']
      have habove' : (d : ℚ) < 2 * r := by exact_mod_cast habove
      linarith
    left
    push_cast
    rw [add_sub_add_left_eq_sub, abs_lt]
    exact ⟨by linarith, by linarith⟩
  have hhalf : (r : ℚ) / d = 1 / 2 := by
    rw [div_eq_iff hd'.ne']
    have htwice : 2 * (r : ℚ) = d := by exact_mod_cast (by omega)
    linarith
  rw [hhalf]
  split
  · rename_i heven
    right
    rw [Int.cast_natCast, add_sub_cancel_left]
    exact ⟨by norm_num, Int.even_iff.mpr (by omega)⟩
  · rename_i hodd
    right
    push_cast
    rw [add_sub_add_left_eq_sub]
    exact ⟨by norm_num, Int.even_iff.mpr (by omega)⟩

/-! ## Multiples of a power of ten -/

/-- Round to a multiple of `10 ^ target`. -/
def roundAt (target : Int) (x : ℚ) : ℚ := halfEven (x / 10 ^ target) * 10 ^ target

theorem pow_ten_pos (i : Int) : (0 : ℚ) < 10 ^ i := zpow_pos (by norm_num) i

theorem roundAt_mono (target : Int) {x y : ℚ} (h : x ≤ y) :
    roundAt target x ≤ roundAt target y := by
  have hpow := pow_ten_pos target
  have hdiv : x / 10 ^ target ≤ y / 10 ^ target := div_le_div_of_nonneg_right h hpow.le
  exact mul_le_mul_of_nonneg_right (by exact_mod_cast halfEven_mono hdiv) hpow.le

@[simp] theorem roundAt_zero (target : Int) : roundAt target 0 = 0 := by
  simp [roundAt]

theorem roundAt_neg (target : Int) (x : ℚ) : roundAt target (-x) = -roundAt target x := by
  unfold roundAt
  rw [neg_div, halfEven_neg]
  push_cast
  ring

/-- A multiple stays. -/
theorem roundAt_multiple (target : Int) (m : Int) : roundAt target (m * 10 ^ target) = m * 10 ^ target := by
  unfold roundAt
  rw [mul_div_cancel_right₀ _ (pow_ten_pos target).ne', halfEven_intCast]

/-- A multiple of a greater power stays, too. -/
theorem roundAt_of_le {target j : Int} (m : Int) (h : target ≤ j) :
    roundAt target (m * 10 ^ j) = m * 10 ^ j := by
  have hmultiple : (m : ℚ) * 10 ^ j = ((m * 10 ^ (j - target).toNat : Int) : ℚ) * 10 ^ target := by
    rw [zpow_toNat h]
    push_cast
    ring
  rw [hmultiple, roundAt_multiple]

/-- The coefficient at another exponent is the rounded one. -/
theorem value_rescale (neg : Bool) (coeff : Nat) (exp target : Int) :
    value neg (rescale coeff exp target) target = roundAt target (value neg coeff exp) := by
  have hunsigned : ((rescale coeff exp target : Nat) : ℚ) * 10 ^ target =
      roundAt target (coeff * 10 ^ exp) := by
    unfold rescale
    by_cases h : target ≤ exp
    · have hstays : roundAt target ((coeff : Int) * 10 ^ exp) = (coeff : Int) * 10 ^ exp :=
        roundAt_of_le coeff h
      rw [Int.cast_natCast] at hstays
      rw [if_pos h, hstays, zpow_toNat h]
      push_cast
      ring
    · unfold roundAt
      have hfraction : (coeff : ℚ) * 10 ^ exp / 10 ^ target =
          (coeff : ℚ) / ((10 ^ (target - exp).toNat : Nat) : ℚ) := by
        have hpow := (pow_ten_pos exp).ne'
        rw [zpow_toNat (show exp ≤ target by omega)]
        push_cast
        field_simp
      rw [if_neg h, hfraction, halfEven_div _ (by positivity), Int.cast_natCast]
  cases neg
  · exact hunsigned
  · show -((rescale coeff exp target : Nat) : ℚ) * 10 ^ target = roundAt target (-(coeff : ℚ) * 10 ^ exp)
    rw [neg_mul, neg_mul, roundAt_neg, hunsigned]

theorem quantize_value {target : Int} {a b : PyDecimal} {x : ℚ} (h : quantize target a = some b)
    (ha : a.value? = some x) : b.value? = some (roundAt target x) := by
  cases a with
  | infinity neg => cases ha
  | nan => cases ha
  | finite neg c e =>
    obtain rfl := Option.some.inj ha
    unfold quantize at h
    simp only at h
    split at h
    · obtain rfl := Option.some.inj h
      rw [← value_rescale]
      rfl
    · cases h

/-! ## The digits of the context -/

/-- The exponent of the last digit that the context keeps. -/
def contextUnit (x : ℚ) : Int := max (Int.log 10 |x| + 1 - precision) leastExponent

/-- The number within the context. -/
def contextRound (x : ℚ) : ℚ := roundAt (contextUnit x) x

@[simp] theorem contextRound_zero : contextRound 0 = 0 := by
  simp [contextRound]

theorem contextRound_neg (x : ℚ) : contextRound (-x) = -contextRound x := by
  unfold contextRound contextUnit
  rw [abs_neg, roundAt_neg]

theorem contextUnit_mono {x y : ℚ} (hx : 0 < x) (h : x ≤ y) : contextUnit x ≤ contextUnit y := by
  have hlog : Int.log 10 x ≤ Int.log 10 y := Int.log_mono_right hx h
  unfold contextUnit
  rw [abs_of_pos hx, abs_of_pos (hx.trans_le h)]
  omega

/-- Above zero, a number with a greater last digit is greater after rounding,
    too: a power of ten stands between them. -/
theorem contextRound_mono_pos {x y : ℚ} (hx : 0 < x) (h : x ≤ y) :
    contextRound x ≤ contextRound y := by
  have hy := hx.trans_le h
  rcases (contextUnit_mono hx h).eq_or_lt with hsame | hlt
  · unfold contextRound
    rw [hsame]
    exact roundAt_mono _ h
  have hunit : contextUnit y = Int.log 10 y + 1 - precision := by
    have hleast : leastExponent ≤ contextUnit x := le_max_right _ _
    unfold contextUnit at hlt hleast ⊢
    rw [abs_of_pos hy] at hlt ⊢
    omega
  have hbelow : x ≤ (1 : Int) * 10 ^ (Int.log 10 y) := by
    have hlog : Int.log 10 x + 1 ≤ Int.log 10 y := by
      have hle : Int.log 10 |x| + 1 - precision ≤ contextUnit x := le_max_left _ _
      rw [abs_of_pos hx] at hle
      omega
    rw [Int.cast_one, one_mul]
    have hx' : x < ((10 : ℕ) : ℚ) ^ (Int.log 10 x + 1) := Int.lt_zpow_succ_log_self (by norm_num) x
    push_cast at hx'
    exact hx'.le.trans (zpow_le_zpow_right₀ (by norm_num) hlog)
  have habove : (1 : Int) * 10 ^ (Int.log 10 y) ≤ y := by
    have hy' : ((10 : ℕ) : ℚ) ^ Int.log 10 y ≤ y := Int.zpow_log_le_self (by norm_num) hy
    push_cast at hy'
    rw [Int.cast_one, one_mul]
    exact hy'
  have hprecision : (precision : Int) = 28 := rfl
  calc contextRound x
      ≤ roundAt (contextUnit x) ((1 : Int) * 10 ^ Int.log 10 y) := roundAt_mono _ hbelow
    _ = (1 : Int) * 10 ^ Int.log 10 y := roundAt_of_le _ (by omega)
    _ = roundAt (contextUnit y) ((1 : Int) * 10 ^ Int.log 10 y) :=
        (roundAt_of_le _ (by omega)).symm
    _ ≤ contextRound y := roundAt_mono _ habove

/-- **Rounding keeps the order.** -/
theorem contextRound_mono {x y : ℚ} (h : x ≤ y) : contextRound x ≤ contextRound y := by
  have hnonneg : ∀ {z : ℚ}, 0 ≤ z → 0 ≤ contextRound z := by
    intro z hz
    have hround := roundAt_mono (contextUnit z) hz
    rw [roundAt_zero] at hround
    exact hround
  have hnonpos : ∀ {z : ℚ}, z ≤ 0 → contextRound z ≤ 0 := by
    intro z hz
    have hround := roundAt_mono (contextUnit z) hz
    rw [roundAt_zero] at hround
    exact hround
  rcases lt_or_ge 0 x with hx | hx
  · exact contextRound_mono_pos hx h
  rcases lt_or_ge y 0 with hy | hy
  · -- Below zero the order is that of the magnitudes, reversed.
    have hflip := contextRound_mono_pos (neg_pos.mpr hy) (neg_le_neg h)
    rw [contextRound_neg, contextRound_neg] at hflip
    exact neg_le_neg_iff.mp hflip
  · exact (hnonpos hx).trans (hnonneg hy)

/-- A number that the context holds stays. -/
theorem contextRound_exact {x : ℚ} (h : Exact x) : contextRound x = x := by
  obtain ⟨m, j, hm, hj, rfl⟩ := h
  by_cases hzero : m = 0
  · simp [hzero]
  have hpow := pow_ten_pos j
  have habs : |(m : ℚ) * 10 ^ j| = (m.natAbs : ℚ) * 10 ^ j := by
    rw [abs_mul, abs_of_pos hpow, ← Int.cast_abs, Int.abs_eq_natAbs, Int.cast_natCast]
  have hpos : (0 : ℚ) < |(m : ℚ) * 10 ^ j| := by
    rw [habs]
    exact mul_pos (by exact_mod_cast Int.natAbs_pos.mpr hzero) hpow
  have hlog : Int.log 10 |(m : ℚ) * 10 ^ j| < precision + j := by
    rw [← Int.lt_zpow_iff_log_lt (by norm_num) hpos, habs, Nat.cast_ofNat, zpow_add₀ (by norm_num),
      zpow_natCast]
    exact mul_lt_mul_of_pos_right (by exact_mod_cast hm) hpow
  apply roundAt_of_le
  exact max_le (by omega) hj

/-! ## What the operations compute -/

theorem abs_value (neg : Bool) (coeff : Nat) (exp : Int) :
    |value neg coeff exp| = coeff * 10 ^ exp := by
  have hnonneg : (0 : ℚ) ≤ coeff * 10 ^ exp :=
    mul_nonneg (Nat.cast_nonneg _) (pow_ten_pos exp).le
  cases neg
  · exact abs_of_nonneg hnonneg
  · show |-(coeff : ℚ) * 10 ^ exp| = _
    rw [neg_mul, abs_neg, abs_of_nonneg hnonneg]

theorem log_eq {x : ℚ} {k : Int} (hlow : 10 ^ k ≤ x) (hhigh : x < 10 ^ (k + 1)) :
    Int.log 10 x = k := by
  have hpos : 0 < x := (pow_ten_pos k).trans_le hlow
  have hge : k ≤ Int.log 10 x := by
    rw [← Int.zpow_le_iff_le_log (by norm_num) hpos]
    exact_mod_cast hlow
  have hlt : Int.log 10 x < k + 1 := by
    rw [← Int.lt_zpow_iff_log_lt (by norm_num) hpos]
    exact_mod_cast hhigh
  omega

theorem log_coeff {coeff : Nat} (exp : Int) (h : coeff ≠ 0) :
    Int.log 10 ((coeff : ℚ) * 10 ^ exp) = Nat.log 10 coeff + exp := by
  have hpow := pow_ten_pos exp
  apply log_eq
  · rw [zpow_add₀ (by norm_num), zpow_natCast]
    apply mul_le_mul_of_nonneg_right _ hpow.le
    exact_mod_cast Nat.pow_log_le_self 10 h
  · rw [show (Nat.log 10 coeff : Int) + exp + 1 = ((Nat.log 10 coeff + 1 : Nat) : Int) + exp from by
      push_cast; ring, zpow_add₀ (by norm_num), zpow_natCast]
    apply mul_lt_mul_of_pos_right _ hpow
    exact_mod_cast Nat.lt_pow_succ_log_self (by norm_num) coeff

theorem contextExponent_eq {coeff : Nat} (neg : Bool) (exp : Int) (h : coeff ≠ 0) :
    contextExponent coeff exp = contextUnit (value neg coeff exp) := by
  unfold contextExponent contextUnit digits
  rw [abs_value, log_coeff exp h]
  push_cast
  congr 2
  ring

/-- `Decimal._fix` rounds the value. -/
theorem fix_value {neg : Bool} {coeff : Nat} {exp : Int} {r : PyDecimal}
    (h : fix neg coeff exp = some r) : r.value? = some (contextRound (value neg coeff exp)) := by
  by_cases hzero : coeff = 0
  · unfold fix at h
    rw [if_pos hzero] at h
    obtain rfl := Option.some.inj h
    have hvalue : value neg coeff exp = 0 := by
      rw [hzero]
      simp [value]
    rw [hvalue, contextRound_zero]
    simp [value?, value]
  · unfold contextRound
    rw [← contextExponent_eq neg exp hzero, ← value_rescale]
    unfold fix at h
    rw [if_neg hzero] at h
    simp only at h
    split at h
    · cases h
    split at h
    · rename_i hwithin
      obtain rfl := Option.some.inj h
      have hexact := roundAt_of_le (signed neg coeff) hwithin
      rw [← value_eq, ← value_rescale] at hexact
      exact congrArg some hexact.symm
    rename_i hbeyond
    split at h
    · obtain rfl := Option.some.inj h
      rfl
    split at h
    · cases h
    · rename_i hcarry _
      obtain rfl := Option.some.inj h
      have hle : rescale coeff exp (contextExponent coeff exp) ≤ 10 ^ precision :=
        rescale_le (by unfold contextExponent; omega)
      have hfold : max ((digits coeff : Int) + exp - precision) leastExponent =
        contextExponent coeff exp := rfl
      rw [hfold] at hcarry ⊢
      -- The rounded coefficient is the power of ten itself.
      have hpower : rescale coeff exp (contextExponent coeff exp) = 10 ^ precision := by omega
      rw [hpower]
      show some (value neg (10 ^ precision / 10) _) = some (value neg (10 ^ precision) _)
      apply congrArg some
      apply value_congr
      rw [zpow_add₀ (by norm_num), show (10 ^ precision / 10 : Nat) = 10 ^ 27 from by decide,
        show precision = 28 from rfl]
      push_cast
      ring

theorem flip_value {a : PyDecimal} {x : ℚ} (h : a.value? = some x) : a.flip.value? = some (-x) := by
  cases a with
  | infinity neg => cases h
  | nan => cases h
  | finite neg c e =>
    obtain rfl := Option.some.inj h
    exact congrArg some (value_flip neg c e)

/-- `-a`: a zero loses its sign. -/
def neg? : PyDecimal → Option PyDecimal
  | .finite neg c e => if c = 0 then fix false 0 e else fix (!neg) c e
  | .infinity neg => some (.infinity (!neg))
  | .nan => some .nan

theorem neg_value {a d : PyDecimal} {x : ℚ} (h : neg? a = some d) (ha : a.value? = some x) :
    d.value? = some (contextRound (-x)) := by
  cases a with
  | infinity neg => cases ha
  | nan => cases ha
  | finite neg c e =>
    obtain rfl := Option.some.inj ha
    unfold neg? at h
    simp only at h
    split at h
    · rename_i hzero
      have hvalue : -value neg c e = value false 0 e := by
        rw [hzero]
        simp [value]
      rw [hvalue]
      exact fix_value h
    · rw [← value_flip]
      exact fix_value h

/-- A finite difference is the rounded one. -/
theorem sub_value {a b d : PyDecimal} {x y : ℚ} (h : sub? a b = some d) (ha : a.value? = some x)
    (hb : b.value? = some y) : d.value? = some (contextRound (x - y)) := by
  obtain ⟨neg, c, e, hfix, hvalue⟩ := sub_fixed h ha hb
  rw [← hvalue]
  exact fix_value hfix

/-- A finite sum is the rounded one. -/
theorem add_value {a b d : PyDecimal} {x y : ℚ} (h : add? a b = some d) (ha : a.value? = some x)
    (hb : b.value? = some y) : d.value? = some (contextRound (x + y)) := by
  rw [← sub_neg_eq_add]
  exact sub_value h ha (flip_value hb)

theorem value_mul (neg neg' : Bool) (c c' : Nat) (e e' : Int) :
    value (neg != neg') (c * c') (e + e') = value neg c e * value neg' c' e' := by
  unfold value
  rw [zpow_add₀ (by norm_num)]
  push_cast
  cases neg <;> cases neg' <;> simp <;> ring

/-- A finite product is the rounded one. -/
theorem mul_value {a b d : PyDecimal} {x y : ℚ} (h : mul? a b = some d) (ha : a.value? = some x)
    (hb : b.value? = some y) : d.value? = some (contextRound (x * y)) := by
  cases a with
  | infinity neg => cases ha
  | nan => cases ha
  | finite neg c e =>
    cases b with
    | infinity neg => cases hb
    | nan => cases hb
    | finite neg' c' e' =>
      obtain rfl := Option.some.inj ha
      obtain rfl := Option.some.inj hb
      rw [← value_mul]
      exact fix_value h

/-- Finite numbers compare by their values. -/
theorem lt_value {a b : PyDecimal} {x y : ℚ} (ha : a.value? = some x) (hb : b.value? = some y) :
    a.lt? b = some (decide (x < y)) := by
  cases a with
  | infinity neg => cases ha
  | nan => cases ha
  | finite neg c e =>
    cases b with
    | infinity neg => cases hb
    | nan => cases hb
    | finite neg' c' e' =>
      obtain rfl := Option.some.inj ha
      obtain rfl := Option.some.inj hb
      rfl

theorem value_of_finite {a : PyDecimal} (h : a.isFinite = true) : ∃ x, a.value? = some x := by
  cases a with
  | finite neg c e => exact ⟨_, rfl⟩
  | infinity neg => cases h
  | nan => cases h

theorem ofInt_value (i : Int) : (ofInt i).value? = some (i : ℚ) := by
  show some (value (decide (i < 0)) i.natAbs 0) = some (i : ℚ)
  rw [value_eq, signed_natAbs, zpow_zero, mul_one]

/-- Above zero, a quantized number is determined by its value. -/
theorem eq_of_quantized {target : Int} {a b : PyDecimal} {x : ℚ} (ha : a.quantize target = some a)
    (hb : b.quantize target = some b) (hax : a.value? = some x) (hbx : b.value? = some x)
    (hx : 0 < x) : a = b := by
  have hexp : ∀ {neg : Bool} {c : Nat} {e : Int},
      (PyDecimal.finite neg c e).quantize target = some (.finite neg c e) → e = target := by
    intro neg c e h
    unfold quantize at h
    simp only at h
    split at h
    · obtain ⟨-, -, h⟩ := PyDecimal.finite.inj (Option.some.inj h)
      exact h.symm
    · cases h
  cases a with
  | infinity neg => cases hax
  | nan => cases hax
  | finite neg c e =>
    cases b with
    | infinity neg => cases hbx
    | nan => cases hbx
    | finite neg' c' e' =>
      obtain rfl := hexp ha
      obtain rfl := hexp hb
      have hvalue : value neg c e' = x := Option.some.inj hax
      have hvalue' : value neg' c' e' = x := Option.some.inj hbx
      obtain ⟨rfl, -⟩ := value_pos_iff.mp (hvalue ▸ hx)
      obtain ⟨rfl, -⟩ := value_pos_iff.mp (hvalue' ▸ hx)
      have hsame : (c : ℚ) * 10 ^ e' = c' * 10 ^ e' := hvalue.trans hvalue'.symm
      have hcoeff : (c : ℚ) = c' := mul_right_cancel₀ (pow_ten_pos e').ne' hsame
      rw [show c = c' from by exact_mod_cast hcoeff]

/-! ## Quotients -/

/-- The last digit of a quotient with a remainder. -/
def sticky (m : Nat) : Nat := if m % 5 = 0 then m + 1 else m

theorem sticky_mod (m : Nat) : sticky m % 5 ≠ 0 := by
  unfold sticky
  split <;> omega

theorem le_sticky (m : Nat) : m ≤ sticky m := by
  unfold sticky
  split <;> omega

theorem sticky_le (m : Nat) : sticky m ≤ m + 1 := by
  unfold sticky
  split <;> omega

/-- A digit that is no multiple of five is on the same side of every half and
    of every whole as the number. -/
theorem halfEven_sticky {m K : Nat} {u : ℚ} (hlow : (m : ℚ) < u) (hhigh : u < m + 1) (hK : K ≠ 0) :
    halfEven ((sticky m : ℚ) / 10 ^ K) = halfEven (u / 10 ^ K) := by
  obtain ⟨w, hw⟩ : ∃ w : Nat, 10 ^ K = 10 * w := by
    obtain ⟨i, rfl⟩ := Nat.exists_eq_succ_of_ne_zero hK
    exact ⟨10 ^ i, by rw [Nat.pow_succ, Nat.mul_comm]⟩
  have hw' : ((10 : ℚ) ^ K) = 10 * w := by exact_mod_cast hw
  have hpos : (0 : ℚ) < 10 * w := by
    rw [← hw']
    positivity
  rw [hw']
  have hnear := (nearest_halfEven (u / (10 * w))).within
  generalize halfEven (u / (10 * w)) = n at hnear ⊢
  rw [abs_le, le_sub_iff_add_le, sub_le_iff_le_add, le_div_iff₀ hpos, div_le_iff₀ hpos] at hnear
  -- The ends of the interval are integers, and the number is none.
  have hleast : n * (10 * w) - 5 * w ≤ (m : Int) := by
    by_contra hlt
    have hreal : ((m + 1 : Int) : ℚ) ≤ ((n * (10 * w) - 5 * w : Int) : ℚ) :=
      Int.cast_le.mpr (by omega)
    push_cast at hreal
    linarith
  have hmost : (m : Int) + 1 ≤ n * (10 * w) + 5 * w := by
    by_contra hlt
    have hreal : ((n * (10 * w) + 5 * w : Int) : ℚ) ≤ ((m : Int) : ℚ) :=
      Int.cast_le.mpr (by omega)
    push_cast at hreal
    linarith
  have hmod := sticky_mod m
  have hge := le_sticky m
  have hle := sticky_le m
  generalize sticky m = s at hmod hge hle ⊢
  have hends : n * (10 * w) - 5 * w < (s : Int) ∧ (s : Int) < n * (10 * w) + 5 * w := by
    have hleft : n * (10 * w) - 5 * w = 5 * (2 * (n * w) - w) := by ring
    have hright : n * (10 * w) + 5 * w = 5 * (2 * (n * w) + w) := by ring
    omega
  have hlower : (n * (10 * w) - 5 * w : ℚ) < s := by exact_mod_cast hends.1
  have hupper : (s : ℚ) < n * (10 * w) + 5 * w := by exact_mod_cast hends.2
  rw [halfEven_eq_iff]
  left
  rw [abs_lt, lt_sub_iff_add_lt, sub_lt_iff_lt_add, lt_div_iff₀ hpos, div_lt_iff₀ hpos]
  exact ⟨by linarith, by linarith⟩

theorem log_sticky {m : Nat} (h : m ≠ 0) : Nat.log 10 (sticky m) = Nat.log 10 m := by
  have hlow := Nat.pow_log_le_self 10 h
  have hhigh := Nat.lt_pow_succ_log_self (show 1 < 10 by norm_num) m
  have hmod := sticky_mod m
  have hge := le_sticky m
  have hle := sticky_le m
  have hfive : 10 ^ (Nat.log 10 m + 1) % 5 = 0 := by
    rw [Nat.pow_succ]
    omega
  rw [Nat.log_eq_iff (Or.inr ⟨by norm_num, by omega⟩)]
  refine ⟨by omega, ?_⟩
  by_contra hlt
  have hend : sticky m = 10 ^ (Nat.log 10 m + 1) := by omega
  rw [hend] at hmod
  exact hmod hfive

/-- Rounding the quotient with its last digit rounds the quotient. -/
theorem contextRound_sticky {m : Nat} {u : ℚ} (exp : Int) (hlow : (m : ℚ) < u) (hhigh : u < m + 1)
    (hdigits : 10 ^ precision ≤ m) :
    contextRound ((sticky m : ℚ) * 10 ^ exp) = contextRound (u * 10 ^ exp) := by
  have hm : m ≠ 0 := by
    have : 0 < 10 ^ precision := by positivity
    omega
  have hpow := pow_ten_pos exp
  have hlog : precision ≤ Nat.log 10 m := (Nat.le_log_iff_pow_le (by norm_num) hm).mpr hdigits
  have hu : Int.log 10 (u * 10 ^ exp) = Nat.log 10 m + exp := by
    apply log_eq
    · rw [zpow_add₀ (by norm_num), zpow_natCast]
      apply mul_le_mul_of_nonneg_right _ hpow.le
      have hleast : ((10 ^ Nat.log 10 m : Nat) : ℚ) ≤ m := by
        exact_mod_cast Nat.pow_log_le_self 10 hm
      push_cast at hleast
      linarith
    · rw [show (Nat.log 10 m : Int) + exp + 1 = ((Nat.log 10 m + 1 : Nat) : Int) + exp from by
        push_cast; ring, zpow_add₀ (by norm_num), zpow_natCast]
      apply mul_lt_mul_of_pos_right _ hpow
      have hmost : ((m + 1 : Nat) : ℚ) ≤ ((10 ^ (Nat.log 10 m + 1) : Nat) : ℚ) := by
        exact_mod_cast Nat.lt_pow_succ_log_self (show 1 < 10 by norm_num) m
      push_cast at hmost
      linarith
  have hsticky : sticky m ≠ 0 := by
    have := le_sticky m
    omega
  have hpositive : (0 : ℚ) < u := lt_of_le_of_lt (Nat.cast_nonneg m) hlow
  have hunits : contextUnit ((sticky m : ℚ) * 10 ^ exp) = contextUnit (u * 10 ^ exp) := by
    unfold contextUnit
    rw [abs_of_nonneg (mul_nonneg (Nat.cast_nonneg _) hpow.le),
      abs_of_pos (mul_pos hpositive hpow), log_coeff exp hsticky, log_sticky hm, hu]
  have hunit : exp + 1 ≤ contextUnit (u * 10 ^ exp) := by
    have hle : Int.log 10 |u * 10 ^ exp| + 1 - precision ≤ contextUnit (u * 10 ^ exp) :=
      le_max_left _ _
    rw [abs_of_pos (mul_pos hpositive hpow), hu] at hle
    omega
  unfold contextRound roundAt
  rw [hunits]
  generalize contextUnit (u * 10 ^ exp) = target at hunit
  have hscale : ∀ v : ℚ, v * 10 ^ exp / 10 ^ target = v / 10 ^ (target - exp).toNat := by
    intro v
    rw [zpow_toNat (show exp ≤ target by omega)]
    field_simp
  rw [hscale, hscale, halfEven_sticky hlow hhigh (by omega)]

theorem stripZeros_value (n coeff : Nat) (exp : Int) :
    ((stripZeros n coeff exp).1 : ℚ) * 10 ^ (stripZeros n coeff exp).2 = coeff * 10 ^ exp := by
  induction n generalizing coeff exp with
  | zero => rfl
  | succ n ih =>
    unfold stripZeros
    split
    · rename_i hzero
      have hcoeff : (coeff : ℚ) = (coeff / 10 : Nat) * 10 := by
        exact_mod_cast (by omega)
      rw [ih, zpow_add₀ (by norm_num), zpow_one, hcoeff]
      ring
    · rfl

/-- The coefficients are scaled to a quotient of more digits than the context
    holds. -/
theorem quotient_scaled {c : Nat} (hc : c ≠ 0) (c' : Nat) (shift : Int)
    (hshift : shift = digits c' - digits c + precision + 1) :
    10 ^ precision * (if 0 ≤ shift then c' else c' * 10 ^ (-shift).toNat) ≤
      (if 0 ≤ shift then c * 10 ^ shift.toNat else c) := by
  have hlow : 10 ^ (digits c - 1) ≤ c := Nat.pow_log_le_self 10 hc
  have hhigh := lt_pow_digits c'
  have hdigits : 0 < digits c := by
    unfold digits
    omega
  by_cases h : 0 ≤ shift
  · rw [if_pos h, if_pos h]
    calc 10 ^ precision * c' ≤ 10 ^ precision * 10 ^ digits c' := Nat.mul_le_mul_left _ hhigh.le
      _ = 10 ^ (digits c - 1) * 10 ^ shift.toNat := by
          rw [← Nat.pow_add, ← Nat.pow_add]
          congr 1
          omega
      _ ≤ c * 10 ^ shift.toNat := Nat.mul_le_mul_right _ hlow
  · rw [if_neg h, if_neg h]
    calc 10 ^ precision * (c' * 10 ^ (-shift).toNat)
        ≤ 10 ^ precision * (10 ^ digits c' * 10 ^ (-shift).toNat) :=
          Nat.mul_le_mul_left _ (Nat.mul_le_mul_right _ hhigh.le)
      _ = 10 ^ (digits c - 1) := by
          rw [← Nat.pow_add, ← Nat.pow_add]
          congr 1
          omega
      _ ≤ c := hlow

theorem quotient_round {c c' : Nat} (hc : c ≠ 0) (hc' : c' ≠ 0) (ideal : Int) :
    contextRound (((quotient c c' ideal).1 : ℚ) * 10 ^ (quotient c c' ideal).2) =
      contextRound ((c : ℚ) / c' * 10 ^ ideal) := by
  obtain ⟨shift, hshift⟩ : ∃ shift : Int, shift = digits c' - digits c + precision + 1 := ⟨_, rfl⟩
  have hscaled := quotient_scaled hc c' shift hshift
  have hfraction : (((if 0 ≤ shift then c * 10 ^ shift.toNat else c : Nat) : ℚ) /
      ((if 0 ≤ shift then c' else c' * 10 ^ (-shift).toNat : Nat) : ℚ)) * 10 ^ (ideal - shift) =
        (c : ℚ) / c' * 10 ^ ideal := by
    by_cases h : 0 ≤ shift
    · rw [if_pos h, if_pos h, zpow_toNat (show ideal - shift ≤ ideal by omega)]
      push_cast
      rw [show (ideal - (ideal - shift)).toNat = shift.toNat from by congr 1; omega]
      ring
    · rw [if_neg h, if_neg h, zpow_toNat (show ideal ≤ ideal - shift by omega)]
      push_cast
      rw [show (ideal - shift - ideal).toNat = (-shift).toNat from by congr 1; omega]
      field_simp
  have hdivisor : 0 < (if 0 ≤ shift then c' else c' * 10 ^ (-shift).toNat) := by
    split
    · omega
    · positivity
  unfold quotient
  simp only [← hshift]
  generalize (if 0 ≤ shift then c * 10 ^ shift.toNat else c) = N at hscaled hfraction ⊢
  generalize (if 0 ≤ shift then c' else c' * 10 ^ (-shift).toNat) = D at hscaled hfraction hdivisor ⊢
  have hD : (0 : ℚ) < D := by exact_mod_cast hdivisor
  have hsplit := Nat.div_add_mod N D
  rw [← hfraction]
  split
  · rename_i hrest
    have hmod := Nat.mod_lt N hdivisor
    have hN : (N : ℚ) = D * (N / D : Nat) + (N % D : Nat) := by exact_mod_cast hsplit.symm
    have hpos : (0 : ℚ) < (N % D : Nat) := by exact_mod_cast Nat.pos_of_ne_zero hrest
    have hlt : ((N % D : Nat) : ℚ) < D := by exact_mod_cast hmod
    have hlow : ((N / D : Nat) : ℚ) < (N : ℚ) / D := by
      rw [lt_div_iff₀ hD]
      linarith
    have hhigh : (N : ℚ) / D < (N / D : Nat) + 1 := by
      rw [div_lt_iff₀ hD]
      linarith
    exact contextRound_sticky (ideal - shift) hlow hhigh ((Nat.le_div_iff_mul_le hdivisor).mpr hscaled)
  · rename_i hrest
    have hN : (N : ℚ) = D * (N / D : Nat) := by exact_mod_cast (by omega)
    have hexact : (N : ℚ) / D = (N / D : Nat) := by
      rw [div_eq_iff hD.ne', hN]
      ring
    rw [stripZeros_value, hexact]

theorem value_div (neg neg' : Bool) (c c' : Nat) (e e' : Int) :
    value neg c e / value neg' c' e' =
      (if (neg != neg') = true then -1 else 1) * ((c : ℚ) / c' * 10 ^ (e - e')) := by
  unfold value
  rw [zpow_sub₀ (by norm_num)]
  cases neg <;> cases neg' <;> simp <;> ring

/-- A finite quotient is the rounded one. -/
theorem div_value {a b d : PyDecimal} {x y : ℚ} (h : div? a b = some d) (ha : a.value? = some x)
    (hb : b.value? = some y) : d.value? = some (contextRound (x / y)) := by
  cases a with
  | infinity neg => cases ha
  | nan => cases ha
  | finite neg c e =>
    cases b with
    | infinity neg => cases hb
    | nan => cases hb
    | finite neg' c' e' =>
      obtain rfl := Option.some.inj ha
      obtain rfl := Option.some.inj hb
      unfold div? at h
      simp only at h
      split at h
      · cases h
      rename_i hc'
      split at h
      · rename_i hc
        have hzero : value neg c e / value neg' c' e' = 0 := by
          rw [value_div, hc]
          simp
        have hvalue := fix_value h
        rw [hzero, contextRound_zero]
        simpa [value] using hvalue
      · rename_i hc
        rw [fix_value h, value_div, ← Option.some.injEq]
        congr 1
        have hround := quotient_round hc hc' (e - e')
        cases neg <;> cases neg' <;> simp [value, contextRound_neg, hround]

end PyDecimal

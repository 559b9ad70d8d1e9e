import CBrain.Framework.DecimalRounding
import CBrain.Framework.Numerals
import CBrain.Framework.PyDecimalArithmetic
import Mathlib.Data.List.Forall2

/-! # Sums of Python's decimals

    `sum(values, start)` in the default context, which rounds after each addition.

    * `Settled`      : not below zero, and a number that the context holds.
    * `FitsTogether` : numbers with a common last place whose sum has no more digits than
      the context keeps.  Their sum is exact in any order. -/

namespace PyDecimal

/-- `sum(values, start)`. -/
def sum? (start : PyDecimal) (values : List PyDecimal) : Option PyDecimal :=
  values.foldlM add? start

theorem sum?_cons {start x r : PyDecimal} {xs : List PyDecimal} :
    sum? start (x :: xs) = some r ↔ ∃ next, add? start x = some next ∧ sum? next xs = some r := by
  unfold sum?
  rw [List.foldlM_cons]
  exact Option.bind_eq_some_iff

/-! ## Section 1: Sums that return -/

/-- A number that is far enough from overflow is kept. -/
theorem fix_returns {neg : Bool} {coeff : Nat} {exp : Int}
    (h : |value neg coeff exp| < 10 ^ maxExponent) : ∃ r, fix neg coeff exp = some r := by
  unfold fix
  by_cases hzero : coeff = 0
  · rw [if_pos hzero]
    exact ⟨_, rfl⟩
  rw [if_neg hzero]
  -- The first digit stands below the greatest exponent.
  have hfirst : (digits coeff : Int) - 1 + exp < maxExponent := by
    have hlog := log_coeff exp hzero
    have hpos : (0 : ℚ) < coeff * 10 ^ exp :=
      mul_pos (by exact_mod_cast Nat.pos_of_ne_zero hzero) (pow_ten_pos exp)
    rw [abs_value] at h
    have hlt := (Int.lt_zpow_iff_log_lt (b := 10) (by norm_num) hpos).mp (by exact_mod_cast h)
    rw [hlog] at hlt
    unfold digits
    push_cast
    omega
  have hleast : leastExponent + precision ≤ maxExponent := by decide
  simp only
  rw [if_neg (by omega)]
  split
  · exact ⟨_, rfl⟩
  split
  · exact ⟨_, rfl⟩
  · rw [if_neg (by omega)]
    exact ⟨_, rfl⟩

theorem add_returns {a b : PyDecimal} {x y : ℚ} (ha : a.value? = some x) (hb : b.value? = some y)
    (h : |x + y| < 10 ^ maxExponent) : ∃ r, add? a b = some r := by
  cases a with
  | infinity neg => cases ha
  | nan => cases ha
  | finite neg c e =>
    cases b with
    | infinity neg => cases hb
    | nan => cases hb
    | finite neg' c' e' =>
      obtain rfl := Option.some.inj ha
      obtain rfl := Option.some.inj hb
      obtain ⟨z, hz, hsub⟩ := subFinite_eq neg c e (!neg') c' e'
      have hvalue : value (if z = 0 then neg && !!neg' else decide (z < 0)) z.natAbs (min e e') =
          value neg c e + value neg' c' e' := by
        rw [← sub_neg_eq_add, ← value_flip, hz]
        by_cases hzero : z = 0
        · simp [hzero, value]
        · rw [if_neg hzero, value_eq, signed_natAbs]
      rw [← hvalue] at h
      obtain ⟨r, hr⟩ := fix_returns h
      exact ⟨r, hsub.trans hr⟩

/-! ## Section 2: Sums that are zero -/

/-- Not below zero and, if finite, a number that the context holds. -/
structure Settled (x : PyDecimal) : Prop where
  unsigned : Unsigned x
  held : ∀ v, x.value? = some v → Exact v

/-- A finite sum has finite terms. -/
theorem finite_of_add {a b r : PyDecimal} {v : ℚ} (h : add? a b = some r)
    (hv : r.value? = some v) :
    ∃ neg c e neg' c' e', a = .finite neg c e ∧ b = .finite neg' c' e' := by
  unfold add? at h
  cases a with
  | nan =>
    obtain rfl : PyDecimal.nan = r := Option.some.inj h
    cases hv
  | infinity neg =>
    cases b with
    | nan =>
      obtain rfl : PyDecimal.nan = r := Option.some.inj h
      cases hv
    | finite neg' c' e' =>
      obtain rfl : PyDecimal.infinity neg = r := Option.some.inj h
      cases hv
    | infinity neg' =>
      replace h : (if neg = !neg' then none else some (PyDecimal.infinity neg)) = some r := h
      split at h
      · cases h
      · obtain rfl := Option.some.inj h
        cases hv
  | finite neg c e =>
    cases b with
    | nan =>
      obtain rfl : PyDecimal.nan = r := Option.some.inj h
      cases hv
    | infinity neg' =>
      obtain rfl : PyDecimal.infinity (!!neg') = r := Option.some.inj h
      cases hv
    | finite neg' c' e' => exact ⟨neg, c, e, neg', c', e', rfl, rfl⟩

/-- A finite product has finite factors. -/
theorem finite_of_mul {a b r : PyDecimal} {v : ℚ} (h : mul? a b = some r)
    (hv : r.value? = some v) :
    ∃ neg c e neg' c' e', a = .finite neg c e ∧ b = .finite neg' c' e' := by
  have hinfinite : ∀ {neg : Bool} {c : Nat},
      (if c = 0 then none else some (PyDecimal.infinity neg)) ≠ some r := by
    intro neg c hsome
    split at hsome
    · cases hsome
    · obtain rfl := Option.some.inj hsome
      cases hv
  cases a with
  | nan =>
    obtain rfl : PyDecimal.nan = r := Option.some.inj h
    cases hv
  | infinity neg =>
    cases b with
    | nan =>
      obtain rfl : PyDecimal.nan = r := Option.some.inj h
      cases hv
    | infinity neg' =>
      obtain rfl : PyDecimal.infinity (neg != neg') = r := Option.some.inj h
      cases hv
    | finite neg' c' e' => exact absurd h hinfinite
  | finite neg c e =>
    cases b with
    | nan =>
      obtain rfl : PyDecimal.nan = r := Option.some.inj h
      cases hv
    | infinity neg' => exact absurd h hinfinite
    | finite neg' c' e' => exact ⟨neg, c, e, neg', c', e', rfl, rfl⟩

/-- What an addition or a product gives is held. -/
theorem exact_of_add {a b r : PyDecimal} {v : ℚ} (h : add? a b = some r)
    (hv : r.value? = some v) : Exact v := by
  obtain ⟨neg, c, e, neg', c', e', rfl, rfl⟩ := finite_of_add h hv
  obtain ⟨z, -, hsub⟩ := subFinite_eq neg c e (!neg') c' e'
  exact exact_of_fix (hsub.symm.trans h) hv

theorem exact_of_mul {a b r : PyDecimal} {v : ℚ} (h : mul? a b = some r)
    (hv : r.value? = some v) : Exact v := by
  obtain ⟨neg, c, e, neg', c', e', rfl, rfl⟩ := finite_of_mul h hv
  exact exact_of_fix h hv

theorem Settled.add {a b r : PyDecimal} (ha : Settled a) (hb : Settled b)
    (h : add? a b = some r) : Settled r :=
  ⟨ha.unsigned.add hb.unsigned h, fun _ => exact_of_add h⟩

theorem Settled.mul {a b r : PyDecimal} (ha : Unsigned a) (hb : Unsigned b)
    (h : mul? a b = some r) : Settled r :=
  ⟨ha.mul hb h, fun _ => exact_of_mul h⟩

theorem Settled.ofNat {n : Nat} (h : n < 10 ^ precision) : Settled (ofInt n) := by
  refine ⟨Unsigned.ofNat n, ?_⟩
  intro v hv
  rw [ofInt_value] at hv
  obtain rfl := Option.some.inj hv
  exact ⟨n, 0, by simpa using h, by decide, by simp⟩

theorem Settled.sum {xs : List PyDecimal} {start r : PyDecimal} (hstart : Settled start)
    (hxs : ∀ x ∈ xs, Settled x) (h : sum? start xs = some r) : Settled r := by
  induction xs generalizing start with
  | nil =>
    obtain rfl : start = r := Option.some.inj h
    exact hstart
  | cons x xs ih =>
    obtain ⟨next, hnext, hrest⟩ := sum?_cons.mp h
    rw [List.forall_mem_cons] at hxs
    exact ih (hstart.add hxs.1 hnext) hxs.2 hrest

/-- The value of a finite number that is not below zero. -/
theorem Settled.value_nonneg {a : PyDecimal} {x : ℚ} (ha : Settled a) (hx : a.value? = some x) :
    0 ≤ x := by
  cases a with
  | infinity neg => cases hx
  | nan => cases hx
  | finite neg c e =>
    obtain rfl := Option.some.inj hx
    exact ha.unsigned.value_nonneg

/-- A sum is zero only if both terms are. -/
theorem Settled.zero_of_add {a b r : PyDecimal} (ha : Settled a) (hb : Settled b)
    (h : add? a b = some r) (hr : r.value? = some 0) :
    a.value? = some 0 ∧ b.value? = some 0 := by
  obtain ⟨x, y, hx, hy⟩ : ∃ x y, a.value? = some x ∧ b.value? = some y := by
    obtain ⟨neg, c, e, neg', c', e', rfl, rfl⟩ := finite_of_add h hr
    exact ⟨_, _, rfl, rfl⟩
  have hround : contextRound (x + y) = 0 :=
    Option.some.inj ((add_value h hx hy).symm.trans hr)
  have hxpos := ha.value_nonneg hx
  have hypos := hb.value_nonneg hy
  -- Rounding does not go below a term that the context holds.
  have hxle : x ≤ 0 := by
    rw [← contextRound_exact (ha.held x hx), ← hround]
    exact contextRound_mono (by linarith)
  have hyle : y ≤ 0 := by
    rw [← contextRound_exact (hb.held y hy), ← hround]
    exact contextRound_mono (by linarith)
  rw [hx, hy, le_antisymm hxle hxpos, le_antisymm hyle hypos]
  exact ⟨rfl, rfl⟩

/-- **Run**: so is a sum of many. -/
theorem Settled.zero_of_sum {xs : List PyDecimal} {start r : PyDecimal} (hstart : Settled start)
    (hxs : ∀ x ∈ xs, Settled x) (h : sum? start xs = some r) (hr : r.value? = some 0) :
    start.value? = some 0 ∧ ∀ x ∈ xs, x.value? = some 0 := by
  induction xs generalizing start with
  | nil =>
    obtain rfl : start = r := Option.some.inj h
    exact ⟨hr, by simp⟩
  | cons x xs ih =>
    obtain ⟨next, hnext, hrest⟩ := sum?_cons.mp h
    rw [List.forall_mem_cons] at hxs
    obtain ⟨hzero, hzeros⟩ := ih (hstart.add hxs.1 hnext) hxs.2 hrest
    obtain ⟨hs, hx⟩ := hstart.zero_of_add hxs.1 hnext hzero
    exact ⟨hs, List.forall_mem_cons.mpr ⟨hx, hzeros⟩⟩

/-- A sum of zeros is zero. -/
theorem zero_sum {xs : List PyDecimal} {start r : PyDecimal} (hstart : start.value? = some 0)
    (hxs : ∀ x ∈ xs, x.value? = some 0) (h : sum? start xs = some r) : r.value? = some 0 := by
  induction xs generalizing start with
  | nil =>
    obtain rfl : start = r := Option.some.inj h
    exact hstart
  | cons x xs ih =>
    obtain ⟨next, hnext, hrest⟩ := sum?_cons.mp h
    rw [List.forall_mem_cons] at hxs
    have hzero : next.value? = some 0 := by
      rw [add_value hnext hstart hxs.1, add_zero, contextRound_zero]
    exact ih hzero hxs.2 hrest

/-! ## Section 3: Sums that are exact -/

/-- So many units at a place. -/
def HasUnits (place : Int) (x : PyDecimal) (n : Nat) : Prop :=
  x.value? = some ((n : ℚ) * 10 ^ place)

/-- The numbers are multiples of one power of ten, and the sum of the multiples has no more
    digits than the context keeps. -/
def FitsTogether (xs : List PyDecimal) : Prop :=
  ∃ (place : Int) (units : List Nat), leastExponent ≤ place ∧ place + precision ≤ maxExponent ∧
    List.Forall₂ (HasUnits place) xs units ∧
    units.sum < 10 ^ precision

/-- **Step**: an addition of multiples that fits is exact. -/
theorem add_units {a b : PyDecimal} {place : Int} {m n : Nat} (hleast : leastExponent ≤ place)
    (hmost : place + precision ≤ maxExponent) (ha : HasUnits place a m)
    (hb : HasUnits place b n) (h : m + n < 10 ^ precision) :
    ∃ r, add? a b = some r ∧ HasUnits place r (m + n) := by
  have hsum : (m : ℚ) * 10 ^ place + n * 10 ^ place = ((m + n : Nat) : ℚ) * 10 ^ place := by
    push_cast
    ring
  have hexact : Exact (((m + n : Nat) : ℚ) * 10 ^ place) :=
    ⟨(m + n : Nat), place, h, hleast, by simp⟩
  have hbound : |((m + n : Nat) : ℚ) * 10 ^ place| < 10 ^ maxExponent := by
    rw [abs_of_nonneg (mul_nonneg (Nat.cast_nonneg _) (pow_ten_pos place).le)]
    calc ((m + n : Nat) : ℚ) * 10 ^ place
        < ((10 ^ precision : Nat) : ℚ) * 10 ^ place :=
          mul_lt_mul_of_pos_right (by exact_mod_cast h) (pow_ten_pos place)
      _ = 10 ^ (place + precision) := by
          rw [zpow_add₀ (by norm_num), zpow_natCast, mul_comm]
          push_cast
          rfl
      _ ≤ 10 ^ maxExponent := zpow_le_zpow_right₀ (by norm_num) hmost
  rw [← hsum] at hbound
  obtain ⟨r, hr⟩ := add_returns ha hb hbound
  refine ⟨r, hr, ?_⟩
  unfold HasUnits
  rw [add_value hr ha hb, hsum, contextRound_exact hexact]

/-- **Run**: so is a sum of many. -/
theorem sum_units {xs : List PyDecimal} {units : List Nat} {place : Int}
    (hleast : leastExponent ≤ place) (hmost : place + precision ≤ maxExponent)
    (hxs : List.Forall₂ (HasUnits place) xs units) :
    ∀ {start : PyDecimal} {m : Nat}, HasUnits place start m →
      m + units.sum < 10 ^ precision →
      ∃ r, sum? start xs = some r ∧ HasUnits place r (m + units.sum) := by
  induction hxs with
  | nil =>
    intro start m hstart _
    exact ⟨start, rfl, hstart⟩
  | @cons x n xs units hx _ ih =>
    intro start m hstart h
    rw [List.sum_cons] at h
    obtain ⟨next, hnext, hvalue⟩ := add_units hleast hmost hstart hx (by omega)
    obtain ⟨r, hr, hsum⟩ := ih hvalue (by omega)
    refine ⟨r, sum?_cons.mpr ⟨next, hnext, hr⟩, ?_⟩
    rw [List.sum_cons, ← Nat.add_assoc]
    exact hsum

/-- Finite numbers of one value are equal. -/
theorem equal_of_value {a b : PyDecimal} {x : ℚ} (ha : a.value? = some x) (hb : b.value? = some x) :
    equal a b = true := by
  cases a with
  | infinity neg => cases ha
  | nan => cases ha
  | finite neg c e =>
    cases b with
    | infinity neg => cases hb
    | nan => cases hb
    | finite neg' c' e' =>
      rw [← hb] at ha
      simpa [equal] using Option.some.inj ha

/-- Equal finite numbers have one value. -/
theorem value_of_equal {a b : PyDecimal} {x : ℚ} (h : equal a b = true) (ha : a.value? = some x) :
    b.value? = some x := by
  cases a with
  | infinity neg => cases ha
  | nan => cases ha
  | finite neg c e =>
    cases b with
    | infinity neg => cases h
    | nan => cases h
    | finite neg' c' e' =>
      have hvalue : value neg c e = value neg' c' e' := by simpa [equal] using h
      rw [← ha]
      exact congrArg some hvalue.symm

theorem equal_comm {a b : PyDecimal} : equal a b = equal b a := by
  cases a with
  | infinity neg =>
    cases b with
    | infinity neg' => exact Bool.beq_comm
    | _ => rfl
  | nan =>
    cases b with
    | _ => rfl
  | finite neg c e =>
    cases b with
    | finite neg' c' e' =>
      show (value neg c e == value neg' c' e') = (value neg' c' e' == value neg c e)
      exact Bool.beq_comm
    | _ => rfl

/-- Numbers that fit together have one sum in any order. -/
theorem FitsTogether.sum_perm {xs ys : List PyDecimal} {start : PyDecimal} (h : FitsTogether xs)
    (hperm : ys.Perm xs) (hstart : start.value? = some 0) :
    ∃ s t, sum? start xs = some s ∧ sum? start ys = some t ∧ equal t s = true := by
  obtain ⟨place, units, hleast, hmost, hunits, hsum⟩ := h
  obtain ⟨units', hunits', hperm'⟩ := List.perm_comp_forall₂ hperm hunits
  have hzero : HasUnits place start 0 := by
    unfold HasUnits
    rw [hstart]
    simp
  have hsum' : units'.sum = units.sum := hperm'.sum_eq
  obtain ⟨s, hs, hsvalue⟩ := sum_units hleast hmost hunits hzero (by omega)
  obtain ⟨t, ht, htvalue⟩ := sum_units hleast hmost hunits' hzero (by omega)
  rw [hsum'] at htvalue
  exact ⟨s, t, hs, ht, equal_of_value htvalue hsvalue⟩

end PyDecimal

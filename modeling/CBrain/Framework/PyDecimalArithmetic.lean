import CBrain.Framework.PyDecimal
import Mathlib.Data.List.TakeWhile

/-! # Arithmetic of Python's decimals

    Sums, products and quotients in the default context, reading a number back
    from its text, and what these keep of the sign.

    * `Unsigned` : not below zero, and not NaN. -/

namespace PyDecimal

/-! ## Operations -/

/-- `-a`, without rounding. -/
def flip : PyDecimal → PyDecimal
  | .finite neg c e => .finite (!neg) c e
  | .infinity neg => .infinity (!neg)
  | .nan => .nan

/-- `a + b`. -/
def add? (a b : PyDecimal) : Option PyDecimal := sub? a b.flip

/-- `a * b`. -/
def mul? : PyDecimal → PyDecimal → Option PyDecimal
  | .nan, _ | _, .nan => some .nan
  | .infinity neg, .infinity neg' => some (.infinity (neg != neg'))
  | .infinity neg, .finite neg' c _ | .finite neg' c _, .infinity neg =>
    if c = 0 then none else some (.infinity (neg != neg'))
  | .finite neg c e, .finite neg' c' e' => fix (neg != neg') (c * c') (e + e')

/-- The loop that takes zeros off an exact quotient, so many at most. -/
def stripZeros : Nat → Nat → Int → Nat × Int
  | 0, coeff, exp => (coeff, exp)
  | n + 1, coeff, exp =>
    if coeff % 10 = 0 then stripZeros n (coeff / 10) (exp + 1) else (coeff, exp)

/-- `c / c'` of coefficients with one digit more than the precision, the last
    one showing whether there is a remainder. -/
def quotient (c c' : Nat) (ideal : Int) : Nat × Int :=
  let shift : Int := digits c' - digits c + precision + 1
  let scaled := if 0 ≤ shift then c * 10 ^ shift.toNat else c
  let divisor := if 0 ≤ shift then c' else c' * 10 ^ (-shift).toNat
  let coeff := scaled / divisor
  if scaled % divisor ≠ 0 then
    (if coeff % 5 = 0 then coeff + 1 else coeff, ideal - shift)
  else stripZeros shift.toNat coeff (ideal - shift)

/-- `a / b`. -/
def div? : PyDecimal → PyDecimal → Option PyDecimal
  | .nan, _ | _, .nan => some .nan
  | .infinity _, .infinity _ => none
  | .infinity neg, .finite neg' _ _ => some (.infinity (neg != neg'))
  | .finite neg _ _, .infinity neg' => some (.finite (neg != neg') 0 leastExponent)
  | .finite neg c e, .finite neg' c' e' =>
    if c' = 0 then none
    else if c = 0 then fix (neg != neg') 0 (e - e')
    else
      let (coeff, exp) := quotient c c' (e - e')
      fix (neg != neg') coeff exp

/-- `Decimal(text)` of what `format` writes. -/
def ofText (text : String) : Option PyDecimal :=
  let unsigned (digits : String) : Option PyDecimal :=
    match ofFixed digits with
    | some x => some x
    | none =>
      if digits = "Infinity" then some (.infinity false)
      else if digits = "NaN" then some .nan
      else none
  match text.toList with
  | '-' :: cs => (unsigned (String.ofList cs)).map flip
  | _ => unsigned text

/-! ## Signs -/

/-- Not below zero, and not NaN. -/
def Unsigned : PyDecimal → Prop
  | .finite neg c _ => neg = true → c = 0
  | .infinity neg => neg = false
  | .nan => False

theorem value_pos_iff {neg : Bool} {c : Nat} {e : Int} :
    0 < value neg c e ↔ neg = false ∧ c ≠ 0 := by
  have hpow : (0 : ℚ) < 10 ^ e := zpow_pos (by norm_num) e
  have hcoeff : (0 : ℚ) ≤ c := Nat.cast_nonneg c
  unfold value
  rw [mul_pos_iff_of_pos_right hpow]
  cases neg
  · simp [Nat.pos_iff_ne_zero]
  · simp

theorem value_zero : value (decide ((0 : Int) < 0)) (0 : Int).natAbs 0 = 0 := by
  simp [value]

/-- What is above zero. -/
theorem zero_lt_iff {x : PyDecimal} :
    (ofInt 0).lt? x = some true ↔
      x = .infinity false ∨ ∃ c e, x = .finite false c e ∧ c ≠ 0 := by
  cases x with
  | nan => simp [ofInt, lt?]
  | infinity neg => simp [ofInt, lt?]
  | finite neg c e =>
    have hlt : (ofInt 0).lt? (.finite neg c e) = some (decide (0 < value neg c e)) := by
      show some (decide (value (decide ((0 : Int) < 0)) (0 : Int).natAbs 0 < value neg c e)) = _
      rw [value_zero]
    rw [hlt, Option.some.injEq, decide_eq_true_eq, value_pos_iff]
    constructor
    · rintro ⟨rfl, hc⟩
      exact Or.inr ⟨c, e, rfl, hc⟩
    · rintro (h | ⟨c', e', h, hc⟩)
      · cases h
      · obtain ⟨rfl, rfl, rfl⟩ := PyDecimal.finite.inj h
        exact ⟨rfl, hc⟩

theorem Unsigned.value_nonneg {neg : Bool} {c : Nat} {e : Int} (h : Unsigned (.finite neg c e)) :
    0 ≤ value neg c e := by
  unfold value
  have hpow : (0 : ℚ) < 10 ^ e := zpow_pos (by norm_num) e
  cases neg
  · rw [if_neg (by simp)]
    positivity
  · rw [h rfl]
    simp

/-- Nothing unsigned is below zero. -/
theorem Unsigned.not_below {x b : PyDecimal} (h : Unsigned x) (hb : Unsigned b)
    (hnot : (ofInt 0).lt? b ≠ some true) : x.lt? b ≠ some true := by
  cases b with
  | nan => exact hb.elim
  | infinity neg =>
    obtain rfl : neg = false := hb
    exact absurd rfl hnot
  | finite neg c e =>
    have hzero : c = 0 := by
      by_contra hc
      have hneg : neg = false := by
        by_contra hneg
        exact hc (hb (Bool.eq_true_of_not_eq_false hneg))
      exact hnot (zero_lt_iff.mpr (Or.inr ⟨c, e, by rw [hneg], hc⟩))
    have hvalue : value neg c e = 0 := by
      rw [hzero]
      simp [value]
    cases x with
    | nan => exact h.elim
    | infinity neg' =>
      obtain rfl : neg' = false := h
      simp [lt?]
    | finite neg' c' e' =>
      have hnonneg : 0 ≤ value neg' c' e' := h.value_nonneg
      show some (decide (value neg' c' e' < value neg c e)) ≠ some true
      rw [hvalue, decide_eq_false (not_lt.mpr hnonneg)]
      simp

theorem value_flip (neg : Bool) (c : Nat) (e : Int) : value (!neg) c e = -value neg c e := by
  unfold value
  cases neg <;> simp

theorem unsigned_iff {x : PyDecimal} : Unsigned x ↔ x.lt? (ofInt 0) = some false := by
  cases x with
  | nan => simp [Unsigned, lt?]
  | infinity neg => simp [Unsigned, lt?, ofInt]
  | finite neg c e =>
    have hlt : lt? (.finite neg c e) (ofInt 0) = some (decide (value neg c e < 0)) := by
      show some (decide (value neg c e < value (decide ((0 : Int) < 0)) (0 : Int).natAbs 0)) = _
      rw [value_zero]
    rw [hlt, Option.some.injEq, decide_eq_false_iff_not, not_lt]
    constructor
    · exact fun h => h.value_nonneg
    · intro h hneg
      subst hneg
      have hflip : 0 ≤ -value false c e := by
        rw [← value_flip]
        exact h
      by_contra hc
      have hpos : 0 < value false c e := value_pos_iff.mpr ⟨rfl, hc⟩
      linarith

theorem unsigned_fix {neg : Bool} {coeff : Nat} {exp : Int} {r : PyDecimal}
    (h : fix neg coeff exp = some r) (hneg : neg = true → coeff = 0) : Unsigned r := by
  obtain ⟨c, e, rfl, -, -, hzero⟩ := fix_some h
  exact fun hn => hzero (hneg hn)

theorem Unsigned.add {a b r : PyDecimal} (ha : Unsigned a) (hb : Unsigned b)
    (h : add? a b = some r) : Unsigned r := by
  cases a with
  | nan => exact ha.elim
  | infinity neg =>
    obtain rfl : neg = false := ha
    cases b with
    | nan => exact hb.elim
    | infinity neg' =>
      obtain rfl : neg' = false := hb
      exact Option.some.inj h ▸ rfl
    | finite neg' c' e' => exact Option.some.inj h ▸ rfl
  | finite neg c e =>
    cases b with
    | nan => exact hb.elim
    | infinity neg' =>
      obtain rfl : neg' = false := hb
      exact Option.some.inj h ▸ rfl
    | finite neg' c' e' =>
      obtain ⟨z, hz, hsub⟩ := subFinite_eq neg c e (!neg') c' e'
      refine unsigned_fix (hsub.symm.trans h) ?_
      intro hsign
      by_contra hne
      have hzero : z ≠ 0 := by omega
      rw [if_neg hzero, decide_eq_true_eq] at hsign
      -- The sum would be below zero.
      have hsum : 0 ≤ value neg c e - value (!neg') c' e' := by
        rw [value_flip, sub_neg_eq_add]
        exact add_nonneg ha.value_nonneg hb.value_nonneg
      rw [hz] at hsum
      have hpow : (0 : ℚ) < 10 ^ min e e' := zpow_pos (by norm_num) _
      have hcast : (z : ℚ) < 0 := by exact_mod_cast hsign
      exact absurd hsum (not_le.mpr (mul_neg_of_neg_of_pos hcast hpow))

theorem Unsigned.mul {a b r : PyDecimal} (ha : Unsigned a) (hb : Unsigned b)
    (h : mul? a b = some r) : Unsigned r := by
  -- An infinite factor meets a coefficient that is not zero, and so no sign.
  have hinfinite : ∀ {neg : Bool} {c : Nat} {e : Int}, Unsigned (.finite neg c e) →
      (if c = 0 then none else some (PyDecimal.infinity (false != neg))) = some r → Unsigned r := by
    intro neg c e hu heq
    split at heq
    · cases heq
    · rename_i hc
      rw [← Option.some.inj heq]
      cases neg
      · rfl
      · exact absurd (hu rfl) hc
  cases a with
  | nan => exact ha.elim
  | infinity neg =>
    obtain rfl : neg = false := ha
    cases b with
    | nan => exact hb.elim
    | infinity neg' =>
      obtain rfl : neg' = false := hb
      exact Option.some.inj h ▸ rfl
    | finite neg' c' e' => exact hinfinite hb h
  | finite neg c e =>
    cases b with
    | nan => exact hb.elim
    | infinity neg' =>
      obtain rfl : neg' = false := hb
      exact hinfinite ha h
    | finite neg' c' e' =>
      refine unsigned_fix h ?_
      intro hsign
      cases neg
      · obtain rfl : neg' = true := by simpa using hsign
        rw [hb rfl, Nat.mul_zero]
      · rw [ha rfl, Nat.zero_mul]

/-- A quotient by a positive integer. -/
theorem Unsigned.div {a r : PyDecimal} {n : Nat} (ha : Unsigned a)
    (h : div? a (.finite false n 0) = some r) : Unsigned r := by
  cases a with
  | nan => exact ha.elim
  | infinity neg =>
    obtain rfl : neg = false := ha
    exact Option.some.inj h ▸ rfl
  | finite neg c e =>
    unfold div? at h
    simp only at h
    split at h
    · cases h
    split at h
    · exact unsigned_fix h fun _ => rfl
    · rename_i hc
      refine unsigned_fix h ?_
      intro hsign
      obtain rfl : neg = true := by simpa using hsign
      exact absurd (ha rfl) hc

theorem Unsigned.ofNat (n : Nat) : Unsigned (ofInt n) := by
  intro hneg
  have : (n : Int) < 0 := of_decide_eq_true hneg
  omega

/-- A quotient by a positive number is above zero only if the dividend is. -/
theorem of_zero_lt_div {neg : Bool} {c cb : Nat} {e eb : Int} {q : PyDecimal}
    (hq : div? (.finite neg c e) (.finite false cb eb) = some q)
    (hpos : (ofInt 0).lt? q = some true) : neg = false ∧ c ≠ 0 := by
  have hshape : ∀ {coeff : Nat} {exp : Int}, fix (neg != false) coeff exp = some q →
      neg = false ∧ coeff ≠ 0 := by
    intro coeff exp hfix
    obtain ⟨cq, eq, rfl, -, -, hzero⟩ := fix_some hfix
    rcases zero_lt_iff.mp hpos with h | ⟨c', e', h, hc'⟩
    · cases h
    · obtain ⟨hneg, rfl, rfl⟩ := PyDecimal.finite.inj h
      exact ⟨by simpa using hneg, fun h0 => hc' (hzero h0)⟩
  unfold div? at hq
  simp only at hq
  split at hq
  · cases hq
  split at hq
  · exact absurd rfl (hshape hq).2
  · rename_i hc
    exact ⟨(hshape hq).1, hc⟩

/-- If a positive share of a number is left after taking another away, the
    other is the lesser. -/
theorem lt_of_share {b o d q : PyDecimal} (hb : (ofInt 0).lt? b = some true)
    (hd : sub? b o = some d) (hq : div? d b = some q) (hpos : (ofInt 0).lt? q = some true) :
    o.lt? b = some true := by
  rcases zero_lt_iff.mp hb with rfl | ⟨cb, eb, rfl, hcb⟩
  · -- An infinite number has no share of itself.
    cases o with
    | nan =>
      obtain rfl := Option.some.inj hd
      obtain rfl := Option.some.inj hq
      cases hpos
    | infinity neg =>
      cases neg
      · cases hd
      · obtain rfl := Option.some.inj hd
        cases hq
    | finite neg c e =>
      obtain rfl := Option.some.inj hd
      cases hq
  · cases o with
    | nan =>
      obtain rfl := Option.some.inj hd
      obtain rfl := Option.some.inj hq
      cases hpos
    | infinity neg =>
      obtain rfl := Option.some.inj hd
      obtain rfl := Option.some.inj hq
      cases neg
      · cases hpos
      · rfl
    | finite neg c e =>
      obtain ⟨z, hz, hsub⟩ := subFinite_eq false cb eb neg c e
      have hfix := hsub.symm.trans hd
      obtain ⟨cd, ed, rfl, -, -, hzero⟩ := fix_some hfix
      obtain ⟨hsign, hcd⟩ := of_zero_lt_div hq hpos
      have hzpos : 0 < z := by
        have hne : z ≠ 0 := fun h0 => hcd (hzero (by omega))
        rw [if_neg hne, decide_eq_false_iff_not] at hsign
        omega
      have hpow : (0 : ℚ) < 10 ^ min eb e := zpow_pos (by norm_num) _
      have hdiff : 0 < value false cb eb - value neg c e := by
        rw [hz]
        have hcast : (0 : ℚ) < z := by exact_mod_cast hzpos
        positivity
      show some (decide (value neg c e < value false cb eb)) = some true
      rw [decide_eq_true (sub_pos.mp hdiff)]

/-! ## Reading back -/

/-- Digits are read back, at the exponent at which they were written. -/
theorem ofFixed_digits (coeff : Nat) (exp : Int) :
    ∃ c e, ofFixed (String.ofList (fixedText coeff exp)) = some (.finite false c e) ∧
      (c : ℚ) * 10 ^ e = coeff * 10 ^ exp := by
  by_cases hexp : 0 ≤ exp
  · obtain ⟨ds, hds⟩ : ∃ ds, ds = fixedText coeff exp := ⟨_, rfl⟩
    have hdigits : ∀ c ∈ ds, c.isDigit = true := by
      intro c hc
      rw [hds] at hc
      unfold fixedText at hc
      simp only [if_pos hexp] at hc
      split at hc
      · exact Nat.isDigit_of_mem_toDigits (by omega) (by omega) hc
      · rcases List.mem_append.mp hc with hc | hc
        · exact Nat.isDigit_of_mem_toDigits (by omega) (by omega) hc
        · rw [(List.mem_replicate.mp hc).2]
          rfl
    have hne : ds ≠ [] := by
      rw [hds]
      unfold fixedText
      simp only [if_pos hexp]
      split
      · exact Nat.toDigits_ne_nil
      · exact List.append_ne_nil_of_left_ne_nil Nat.toDigits_ne_nil _
    have hvalue : ((Nat.ofDigitChars 10 ds 0 : Nat) : ℚ) * 10 ^ (0 : Int) = coeff * 10 ^ exp := by
      rw [hds]
      unfold fixedText
      simp only [if_pos hexp]
      by_cases hzero : coeff = 0
      · rw [if_pos hzero, Nat.ofDigitChars_ten_toDigits, hzero]
        simp
      · rw [if_neg hzero, Nat.ofDigitChars_append, Nat.ofDigitChars_replicate_zero,
          Nat.ofDigitChars_ten_toDigits, zpow_toNat hexp]
        push_cast
        rw [Int.sub_zero]
        ring
    refine ⟨_, 0, ?_, hvalue⟩
    unfold ofFixed
    rw [← hds, String.toList_ofList, List.takeWhile_eq_self_iff.mpr hdigits,
      List.dropWhile_eq_nil_iff.mpr hdigits]
    simp only [if_neg hne]
  · obtain ⟨places, hplaces⟩ : ∃ places : Nat, exp = -(places : Int) := ⟨exp.natAbs, by omega⟩
    rw [hplaces]
    exact ⟨coeff, _, ofFixed_places (by omega), rfl⟩

/-- Two numbers of one kind and value. -/
def Same : PyDecimal → PyDecimal → Prop
  | .finite neg c e, .finite neg' c' e' => neg = neg' ∧ (c : ℚ) * 10 ^ e = c' * 10 ^ e'
  | x, y => x = y

/-- What is written is read back. -/
theorem ofText_text (x : PyDecimal) : ∃ y, ofText (text x) = some y ∧ Same y x := by
  cases x with
  | nan => exact ⟨.nan, by decide +kernel, rfl⟩
  | infinity neg =>
    cases neg
    · exact ⟨.infinity false, by decide +kernel, rfl⟩
    · exact ⟨.infinity true, by decide +kernel, rfl⟩
  | finite neg coeff exp =>
    obtain ⟨c, e, hread, hvalue⟩ := ofFixed_digits coeff exp
    refine ⟨.finite neg c e, ?_, rfl, hvalue⟩
    cases neg
    · -- Without a sign, the text begins with a digit.
      have htext : text (.finite false coeff exp) = String.ofList (fixedText coeff exp) := rfl
      rw [htext]
      unfold ofText
      rw [String.toList_ofList]
      cases hchars : fixedText coeff exp with
      | nil =>
        rw [hchars] at hread
        simp only [hread]
      | cons first rest =>
        rw [hchars] at hread
        have hfirst : first ≠ '-' := by
          rintro rfl
          have hnone : ofFixed (String.ofList ('-' :: rest)) = none := by
            unfold ofFixed
            rw [String.toList_ofList]
            rfl
          rw [hnone] at hread
          cases hread
        simp only [hread]
        split
        · rename_i hsign
          exact absurd (List.cons.inj hsign).1 hfirst
        · rfl
    · have htext : text (.finite true coeff exp) = String.ofList ('-' :: fixedText coeff exp) := rfl
      rw [htext]
      unfold ofText
      rw [String.toList_ofList]
      simp only [hread]
      rfl

/-- Numbers of one kind and value compare alike. -/
theorem Same.lt {a a' b b' : PyDecimal} (ha : Same a a') (hb : Same b b') :
    a.lt? b = a'.lt? b' := by
  have hvalue : ∀ {neg neg' : Bool} {c c' : Nat} {e e' : Int},
      Same (.finite neg c e) (.finite neg' c' e') → value neg c e = value neg' c' e' := by
    intro neg neg' c c' e e' h
    obtain ⟨rfl, h⟩ := h
    exact value_congr h
  cases a with
  | finite neg c e =>
    cases a' with
    | finite neg' c' e' =>
      cases b with
      | finite n k i =>
        cases b' with
        | finite n' k' i' =>
          show some (decide (value neg c e < value n k i)) =
            some (decide (value neg' c' e' < value n' k' i'))
          rw [hvalue ha, hvalue hb]
        | infinity n' => cases hb
        | nan => cases hb
      | infinity n =>
        obtain rfl : PyDecimal.infinity n = b' := hb
        rfl
      | nan =>
        obtain rfl : PyDecimal.nan = b' := hb
        rfl
    | infinity neg' => cases ha
    | nan => cases ha
  | infinity neg =>
    obtain rfl : PyDecimal.infinity neg = a' := ha
    cases b with
    | finite n k i =>
      cases b' with
      | finite n' k' i' => rfl
      | infinity n' => cases hb
      | nan => cases hb
    | infinity n =>
      obtain rfl : PyDecimal.infinity n = b' := hb
      rfl
    | nan =>
      obtain rfl : PyDecimal.nan = b' := hb
      rfl
  | nan =>
    obtain rfl : PyDecimal.nan = a' := ha
    rfl

theorem Same.refl (a : PyDecimal) : Same a a := by
  cases a with
  | finite neg c e => exact ⟨rfl, rfl⟩
  | infinity neg => rfl
  | nan => rfl

example : (div? (ofInt 1) (ofInt 3)).map text = some "0.3333333333333333333333333333" := by
  decide +kernel
example : (div? (ofInt 10) (ofInt 4)).map text = some "2.5" := by decide +kernel

end PyDecimal

import Mathlib.Algebra.Order.Field.Rat
import Mathlib.Data.Char
import Mathlib.Order.Fin.Basic
import Mathlib.Tactic.FieldSimp
import Mathlib.Tactic.Linarith
import CBrain.Framework.CivilTime

/-! # Timestamps and the order of their texts

    A timestamp is a local date and time, a fraction of a second and the offset
    of its zone.  Its text is compared character by character, its instant as a
    number.

    * `text_lt_iff` : what decides between two texts.
    * `text_agrees_iff` : exactly when the order of the texts is the order of
      the instants. -/

namespace Rfc3339

open CivilTime

/-! ## Section 1: Fractions of a second -/

/-- The character of a digit. -/
def digit (d : Fin 10) : Char := Nat.digitChar d

/-- The fraction is written after a point, or not at all. -/
def fractionText : List (Fin 10) → List Char
  | [] => []
  | d :: ds => '.' :: (d :: ds).map digit

/-- The fraction as a number. -/
def fractionValue : List (Fin 10) → ℚ
  | [] => 0
  | d :: ds => ((d : ℕ) + fractionValue ds) / 10

theorem digit_lt : ∀ c d : Fin 10, digit c < digit d ↔ c < d := by decide

theorem digit_inj : ∀ c d : Fin 10, digit c = digit d ↔ c = d := by decide

/-- Digits lie between the signs and the letters. -/
theorem digit_between : ∀ d : Fin 10, '-' < digit d ∧ digit d < 'Z' := by decide

theorem fractionValue_nonneg (ds : List (Fin 10)) : 0 ≤ fractionValue ds := by
  induction ds with
  | nil => exact le_refl 0
  | cons d ds ih =>
    have hdigit : (0 : ℚ) ≤ (d : ℕ) := Nat.cast_nonneg _
    rw [fractionValue]
    linarith

theorem fractionValue_lt_one (ds : List (Fin 10)) : fractionValue ds < 1 := by
  induction ds with
  | nil => exact zero_lt_one
  | cons d ds ih =>
    have hdigit : ((d : ℕ) : ℚ) ≤ 9 := by
      have := d.isLt
      exact_mod_cast (by omega : (d : ℕ) ≤ 9)
    rw [fractionValue]
    linarith

/-- A greater leading digit outweighs all digits after it. -/
theorem fractionValue_lt_of_digit_lt {c d : Fin 10} (h : c < d) (cs ds : List (Fin 10)) :
    fractionValue (c :: cs) < fractionValue (d :: ds) := by
  have hdigit : ((c : ℕ) : ℚ) + 1 ≤ (d : ℕ) := by
    exact_mod_cast (by omega : (c : ℕ) + 1 ≤ d)
  have hlt := fractionValue_lt_one cs
  have hnonneg := fractionValue_nonneg ds
  rw [fractionValue, fractionValue]
  linarith

theorem fractionValue_cons_lt (d : Fin 10) (cs ds : List (Fin 10)) :
    fractionValue (d :: cs) < fractionValue (d :: ds) ↔ fractionValue cs < fractionValue ds := by
  rw [fractionValue, fractionValue]
  constructor
  · intro h
    linarith
  · intro h
    linarith

/-- More digits do not make a fraction less. -/
theorem fractionValue_le_of_prefix {cs ds : List (Fin 10)} (h : cs <+: ds) :
    fractionValue cs ≤ fractionValue ds := by
  induction cs generalizing ds with
  | nil => exact fractionValue_nonneg ds
  | cons c cs ih =>
    obtain ⟨rest, rfl⟩ := h
    have hrest := ih (List.prefix_append cs rest)
    rw [List.cons_append, fractionValue, fractionValue]
    linarith

/-- Fractions with a digit that differs are not the same number. -/
theorem fractionValue_ne {cs ds : List (Fin 10)} (h : ¬ cs <+: ds) (h' : ¬ ds <+: cs) :
    fractionValue cs ≠ fractionValue ds := by
  induction cs generalizing ds with
  | nil => exact absurd List.nil_prefix h
  | cons c cs ih =>
    cases ds with
    | nil => exact absurd List.nil_prefix h'
    | cons d ds =>
      rcases lt_trichotomy c d with hlt | rfl | hgt
      · exact (fractionValue_lt_of_digit_lt hlt cs ds).ne
      · rw [List.prefix_cons_inj] at h h'
        have hrest := ih h h'
        intro heq
        rw [fractionValue, fractionValue] at heq
        exact hrest (by linarith)
      · exact (fractionValue_lt_of_digit_lt hgt ds cs).ne'

/-! ## Section 2: Zones -/

/-- Hours and minutes of an offset. -/
structure Offset where
  hour : Nat
  minute : Nat
  hour_lt : hour < 24
  minute_lt : minute < 60

theorem Offset.fields_injective : Function.Injective fun o : Offset => (o.hour, o.minute) := by
  rintro ⟨_, _, _, _⟩ ⟨_, _, _, _⟩ h
  cases h
  rfl

instance : DecidableEq Offset := Offset.fields_injective.decidableEq

/-- The zone: UTC, which is also written in lower case, or a signed offset. -/
inductive Zone where
  | utc (lower : Bool)
  | east (offset : Offset)
  | west (offset : Offset)
  deriving DecidableEq

def Offset.seconds (o : Offset) : Nat := 3600 * o.hour + 60 * o.minute

def Offset.text (o : Offset) : List Char := padded 2 o.hour ++ ':' :: padded 2 o.minute

def Zone.text : Zone → List Char
  | .utc lower => [if lower then 'z' else 'Z']
  | .east offset => '+' :: offset.text
  | .west offset => '-' :: offset.text

/-- The seconds by which local time is ahead of UTC. -/
def Zone.shift : Zone → ℤ
  | .utc _ => 0
  | .east offset => offset.seconds
  | .west offset => -offset.seconds

/-- The zone is written as a letter. -/
def Zone.isUtc : Zone → Bool
  | .utc _ => true
  | _ => false

/-- Offsets are ordered as their texts are. -/
theorem Offset.text_lt_iff (o p : Offset) : o.text < p.text ↔ o.seconds < p.seconds := by
  have := o.hour_lt
  have := o.minute_lt
  have := p.hour_lt
  have := p.minute_lt
  have hcolon : ¬ (':' < ':') := by decide
  have hend : ¬ ([] : List Char) < [] := List.not_lt_nil []
  have hminutes := padded_append_lt (w := 2) (by omega : o.minute < 10 ^ 2)
    (by omega : p.minute < 10 ^ 2) [] []
  rw [List.append_nil, List.append_nil] at hminutes
  unfold text seconds
  rw [padded_append_lt (w := 2) (by omega : o.hour < 10 ^ 2) (by omega : p.hour < 10 ^ 2),
    List.cons_lt_cons_iff, hminutes]
  simp only [hcolon, hend, false_or, true_and, and_false, or_false]
  omega

/-- A point or a digit comes after the sign of an offset and before the letter
    of UTC. -/
theorem Zone.cons_lt_text {c : Char} (hc : '-' < c ∧ c < 'Z') (rest : List Char) (z : Zone) :
    c :: rest < z.text ↔ z.isUtc = true := by
  cases z with
  | utc lower =>
    have hlower : c < 'z' := lt_trans hc.2 (by decide)
    refine iff_of_true ?_ rfl
    cases lower with
    | false => exact List.cons_lt_cons_iff.mpr (Or.inl hc.2)
    | true => exact List.cons_lt_cons_iff.mpr (Or.inl hlower)
  | east offset =>
    have hplus : '+' < c := lt_trans (by decide) hc.1
    simp [text, isUtc, List.cons_lt_cons_iff, hplus.ne', hplus.asymm]
  | west offset =>
    simp [text, isUtc, List.cons_lt_cons_iff, hc.1.ne', hc.1.asymm]

theorem Zone.text_lt_cons {c : Char} (hc : '-' < c ∧ c < 'Z') (rest : List Char) (z : Zone) :
    z.text < c :: rest ↔ z.isUtc = false := by
  cases z with
  | utc lower =>
    have hlower : c < 'z' := lt_trans hc.2 (by decide)
    cases lower with
    | false => simp [text, isUtc, List.cons_lt_cons_iff, hc.2.ne', hc.2.asymm]
    | true => simp [text, isUtc, List.cons_lt_cons_iff, hlower.ne', hlower.asymm]
  | east offset =>
    have hplus : '+' < c := lt_trans (by decide) hc.1
    exact iff_of_true (List.cons_lt_cons_iff.mpr (Or.inl hplus)) rfl
  | west offset =>
    exact iff_of_true (List.cons_lt_cons_iff.mpr (Or.inl hc.1)) rfl

/-! ## Section 3: What follows the time -/

/-- What decides between two fractions with their zones: the first digit that
    differs, and where one fraction ends before the other, the zone after it. -/
def TailBefore (cs ds : List (Fin 10)) (x y : Zone) : Prop :=
  cs = ds ∧ x.text < y.text ∨
  cs ≠ ds ∧ ds <+: cs ∧ y.isUtc = true ∨
  cs ≠ ds ∧ cs <+: ds ∧ x.isUtc = false ∨
  ¬ ds <+: cs ∧ ¬ cs <+: ds ∧ fractionValue cs < fractionValue ds

theorem digits_append_lt (cs ds : List (Fin 10)) (x y : Zone) :
    cs.map digit ++ x.text < ds.map digit ++ y.text ↔ TailBefore cs ds x y := by
  induction cs generalizing ds with
  | nil =>
    cases ds with
    | nil => simp [TailBefore]
    | cons d ds =>
      have hzone := Zone.text_lt_cons (digit_between d) (ds.map digit ++ y.text) x
      simpa [TailBefore] using hzone
  | cons c cs ih =>
    cases ds with
    | nil =>
      have hzone := Zone.cons_lt_text (digit_between c) (cs.map digit ++ x.text) y
      simpa [TailBefore] using hzone
    | cons d ds =>
      rw [List.map_cons, List.map_cons, List.cons_append, List.cons_append,
        List.cons_lt_cons_iff, digit_lt, digit_inj, ih]
      by_cases hsame : c = d
      · subst hsame
        simp [TailBefore, fractionValue_cons_lt]
      · -- the leading digits decide, in the text and in the number
        have hprefix : ¬ (d :: ds) <+: (c :: cs) := fun h => hsame (List.cons_prefix_cons.mp h).1.symm
        have hprefix' : ¬ (c :: cs) <+: (d :: ds) := fun h => hsame (List.cons_prefix_cons.mp h).1
        have hvalue : fractionValue (c :: cs) < fractionValue (d :: ds) ↔ c < d := by
          constructor
          · intro h
            by_contra hle
            have hgt : d < c := lt_of_le_of_ne (not_lt.mp hle) (Ne.symm hsame)
            exact lt_asymm h (fractionValue_lt_of_digit_lt hgt ds cs)
          · intro h
            exact fractionValue_lt_of_digit_lt h cs ds
        simp [TailBefore, hsame, hprefix, hprefix', hvalue]

theorem tail_lt_iff (cs ds : List (Fin 10)) (x y : Zone) :
    fractionText cs ++ x.text < fractionText ds ++ y.text ↔ TailBefore cs ds x y := by
  have hpoint : '-' < '.' ∧ '.' < 'Z' := by decide
  have hirrefl : ¬ ('.' < '.') := by decide
  cases cs with
  | nil =>
    cases ds with
    | nil => simp [fractionText, TailBefore]
    | cons d ds =>
      have hzone := Zone.text_lt_cons hpoint ((d :: ds).map digit ++ y.text) x
      simpa [fractionText, TailBefore] using hzone
  | cons c cs =>
    cases ds with
    | nil =>
      have hzone := Zone.cons_lt_text hpoint ((c :: cs).map digit ++ x.text) y
      simpa [fractionText, TailBefore] using hzone
    | cons d ds =>
      rw [fractionText, fractionText, List.cons_append, List.cons_append, List.cons_lt_cons_iff,
        digits_append_lt]
      simp only [hirrefl, false_or, true_and]

/-! ## Section 4: Timestamps -/

/-- What stands between date and time. -/
inductive Separator where
  | upper
  | lower
  | space
  deriving DecidableEq

def Separator.char : Separator → Char
  | .upper => 'T'
  | .lower => 't'
  | .space => ' '

theorem Separator.char_inj : ∀ s t : Separator, s.char = t.char ↔ s = t := by
  intro s t
  cases s with
  | upper => cases t <;> decide
  | lower => cases t <;> decide
  | space => cases t <;> decide

/-- A timestamp. -/
structure Stamp where
  moment : Moment
  year_lt : moment.date.year < 10000
  separator : Separator
  fraction : List (Fin 10)
  zone : Zone
  deriving DecidableEq

def Stamp.characters (s : Stamp) : List Char :=
  s.moment.date.text ++ s.separator.char ::
    (s.moment.time.text ++ (fractionText s.fraction ++ s.zone.text))

def Stamp.text (s : Stamp) : String := String.ofList s.characters

/-- The instant, in seconds of UTC. -/
def Stamp.instant (s : Stamp) : ℚ :=
  (s.moment.seconds : ℤ) - s.zone.shift + fractionValue s.fraction

section Gaps

variable (a e : Stamp)

/-- How far the second timestamp is ahead of the first by its local time. -/
def localGap : ℤ := (e.moment.seconds : ℤ) - a.moment.seconds

/-- How far its zone is east of the other. -/
def shiftGap : ℤ := e.zone.shift - a.zone.shift

/-- How far its fraction is ahead. -/
def fractionGap : ℚ := fractionValue e.fraction - fractionValue a.fraction

theorem instant_lt_iff :
    a.instant < e.instant ↔ (shiftGap a e : ℚ) < localGap a e + fractionGap a e := by
  unfold Stamp.instant shiftGap localGap fractionGap
  push_cast
  constructor
  · intro h
    linarith
  · intro h
    linarith

theorem fractionGap_lt_one : fractionGap a e < 1 := by
  have := fractionValue_lt_one e.fraction
  have := fractionValue_nonneg a.fraction
  unfold fractionGap
  linarith

theorem neg_one_lt_fractionGap : -1 < fractionGap a e := by
  have := fractionValue_lt_one a.fraction
  have := fractionValue_nonneg e.fraction
  unfold fractionGap
  linarith

/-- At one local time the zones decide, and between equal offsets the
    fractions. -/
theorem instant_lt_iff_of_localGap (h : localGap a e = 0) :
    a.instant < e.instant ↔ shiftGap a e < 0 ∨ shiftGap a e = 0 ∧ 0 < fractionGap a e := by
  have hlt := fractionGap_lt_one a e
  have hgt := neg_one_lt_fractionGap a e
  rw [instant_lt_iff, h]
  rcases lt_trichotomy (shiftGap a e) 0 with hneg | hzero | hpos
  · have hcast : (shiftGap a e : ℚ) ≤ -1 := by exact_mod_cast Int.le_sub_one_of_lt hneg
    simp only [hneg, true_or, iff_true, Int.cast_zero, zero_add]
    linarith
  · simp [hzero]
  · have hcast : (1 : ℚ) ≤ shiftGap a e := by exact_mod_cast hpos
    simp only [hpos.asymm, hpos.ne', false_and, or_self, iff_false, not_lt, Int.cast_zero, zero_add]
    linarith

end Gaps

/-- **Texts of timestamps**: the date decides, then the separator, the time,
    the fraction and the zone. -/
theorem text_lt_iff (a e : Stamp) :
    a.text < e.text ↔
      a.moment.date.Before e.moment.date ∨
        a.moment.date = e.moment.date ∧
          (a.separator.char < e.separator.char ∨
            a.separator = e.separator ∧
              (a.moment.time.seconds < e.moment.time.seconds ∨
                a.moment.time.seconds = e.moment.time.seconds ∧
                  TailBefore a.fraction e.fraction a.zone e.zone)) := by
  have hlist : a.text < e.text ↔ a.characters < e.characters := by
    rw [Stamp.text, Stamp.text, String.lt_iff, String.toList_ofList, String.toList_ofList]
  rw [hlist, Stamp.characters, Stamp.characters, Date.text_append_lt a.year_lt e.year_lt,
    List.cons_lt_cons_iff, Separator.char_inj, TimeOfDay.text_append_lt, tail_lt_iff]

/-! ## Section 5: Where texts and instants agree -/

/-- The letters or signs of two zones, and their offsets where these count, put
    the zones in the order of the instants. -/
def ZonesAgree : Zone → Zone → Prop
  | .east o, .east p => o.seconds = p.seconds
  | .west _, .west _ => True
  | .west _, .east _ => True
  | .east o, .west p => o.seconds ≠ 0 ∨ p.seconds ≠ 0
  | .east o, .utc _ => o.seconds ≠ 0
  | .utc _, .east _ => True
  | .west _, .utc _ => False
  | .utc _, .west p => p.seconds = 0
  | .utc lower, .utc lower' => lower = true ∨ lower' = false

instance (x y : Zone) : Decidable (ZonesAgree x y) :=
  match x, y with
  | .east o, .east p => inferInstanceAs (Decidable (o.seconds = p.seconds))
  | .west _, .west _ => inferInstanceAs (Decidable True)
  | .west _, .east _ => inferInstanceAs (Decidable True)
  | .east o, .west p => inferInstanceAs (Decidable (o.seconds ≠ 0 ∨ p.seconds ≠ 0))
  | .east o, .utc _ => inferInstanceAs (Decidable (o.seconds ≠ 0))
  | .utc _, .east _ => inferInstanceAs (Decidable True)
  | .west _, .utc _ => inferInstanceAs (Decidable False)
  | .utc _, .west p => inferInstanceAs (Decidable (p.seconds = 0))
  | .utc lower, .utc lower' => inferInstanceAs (Decidable (lower = true ∨ lower' = false))

/-- At one local time: zones after equal fractions, a fraction that ends before
    the other, or a digit that differs. -/
def TailsAgree (a e : Stamp) : Prop :=
  if a.fraction = e.fraction then ZonesAgree a.zone e.zone
  else if e.fraction <+: a.fraction then
    if e.zone.isUtc then shiftGap a e < 0 else 0 ≤ shiftGap a e
  else if a.fraction <+: e.fraction then
    if a.zone.isUtc then fractionGap a e ≤ shiftGap a e else shiftGap a e < fractionGap a e
  else (0 < fractionGap a e → shiftGap a e ≤ 0) ∧ (fractionGap a e < 0 → 0 ≤ shiftGap a e)

instance (a e : Stamp) : Decidable (TailsAgree a e) := by
  unfold TailsAgree
  infer_instance

/-- The offsets do not undo what the local times, the separators of one date, or
    at one local time the fractions and the letters of the zones decide. -/
def Agree (a e : Stamp) : Prop :=
  if a.moment.date = e.moment.date ∧ a.separator ≠ e.separator then
    a.separator.char < e.separator.char ↔ shiftGap a e < localGap a e + fractionGap a e
  else if localGap a e = 0 then TailsAgree a e
  else 0 < localGap a e ↔ shiftGap a e < localGap a e + fractionGap a e

instance (a e : Stamp) : Decidable (Agree a e) := by
  unfold Agree
  infer_instance

/-- The order of the texts of zones: the signs, the offsets after one sign, and
    the letters. -/
theorem Zone.text_lt_iff (x y : Zone) :
    x.text < y.text ↔
      match x, y with
      | .utc lower, .utc lower' => lower = false ∧ lower' = true
      | .utc _, _ => False
      | _, .utc _ => True
      | .east o, .east p => o.seconds < p.seconds
      | .west o, .west p => o.seconds < p.seconds
      | .east _, .west _ => True
      | .west _, .east _ => False := by
  cases x with
  | utc lower =>
    cases y with
    | utc lower' =>
      cases lower with
      | false => cases lower' <;> simp [text, List.cons_lt_cons_iff]
      | true => cases lower' <;> simp [text, List.cons_lt_cons_iff]
    | east p => cases lower <;> simp [text, List.cons_lt_cons_iff]
    | west p => cases lower <;> simp [text, List.cons_lt_cons_iff]
  | east o =>
    cases y with
    | utc lower => cases lower <;> simp [text, List.cons_lt_cons_iff]
    | east p => simp [text, Offset.text_lt_iff]
    | west p => simp [text, List.cons_lt_cons_iff]
  | west o =>
    cases y with
    | utc lower => cases lower <;> simp [text, List.cons_lt_cons_iff]
    | east p => simp [text, List.cons_lt_cons_iff]
    | west p => simp [text, Offset.text_lt_iff]

/-- After equal fractions at one local time. -/
theorem zones_agree_iff (x y : Zone) :
    (x.text < y.text ↔ y.shift < x.shift) ↔ ZonesAgree x y := by
  rw [Zone.text_lt_iff]
  cases x with
  | utc lower =>
    cases y with
    | utc lower' => cases lower <;> simp [Zone.shift, ZonesAgree]
    | east p =>
      simp only [Zone.shift, ZonesAgree, iff_true, false_iff]
      omega
    | west p =>
      simp only [Zone.shift, ZonesAgree, false_iff]
      omega
  | east o =>
    cases y with
    | utc lower =>
      simp only [Zone.shift, ZonesAgree, true_iff]
      omega
    | east p =>
      simp only [Zone.shift, ZonesAgree]
      omega
    | west p =>
      simp only [Zone.shift, ZonesAgree, true_iff]
      omega
  | west o =>
    cases y with
    | utc lower =>
      simp only [Zone.shift, ZonesAgree, true_iff, iff_false]
      omega
    | east p =>
      simp only [Zone.shift, ZonesAgree, iff_true, false_iff]
      omega
    | west p =>
      simp only [Zone.shift, ZonesAgree, iff_true]
      omega

/-- At one local time. -/
theorem tails_agree_iff (a e : Stamp) (h : localGap a e = 0) :
    (TailBefore a.fraction e.fraction a.zone e.zone ↔ a.instant < e.instant) ↔
      TailsAgree a e := by
  have hinstant := instant_lt_iff_of_localGap a e h
  have hlater : a.instant < e.instant ↔ (shiftGap a e : ℚ) < fractionGap a e := by
    rw [instant_lt_iff, h, Int.cast_zero, zero_add]
  have hantisymm : ∀ {cs ds : List (Fin 10)}, cs <+: ds → ds <+: cs → cs = ds :=
    fun h h' => h.eq_of_length (le_antisymm h.length_le h'.length_le)
  unfold TailBefore TailsAgree
  split_ifs with hsame hends hutc hends' hutc'
  · have hgap : fractionGap a e = 0 := by rw [fractionGap, hsame, sub_self]
    have hshift : shiftGap a e < 0 ↔ e.zone.shift < a.zone.shift := by
      unfold shiftGap
      omega
    rw [hinstant, hgap, hshift, ← zones_agree_iff]
    simp [hsame]
  -- the second fraction ends first: its zone stands against a digit
  · have hgap : ¬ 0 < fractionGap a e := by
      have := fractionValue_le_of_prefix hends
      unfold fractionGap
      linarith
    rw [hinstant]
    simp [hsame, hends, hutc, hgap]
  · have hgap : ¬ 0 < fractionGap a e := by
      have := fractionValue_le_of_prefix hends
      unfold fractionGap
      linarith
    have hother : ¬ a.fraction <+: e.fraction := fun h => hsame (hantisymm h hends)
    rw [hinstant]
    simp [hsame, hends, hutc, hgap, hother]
  · rw [hlater]
    simp [hsame, hends, hends', hutc']
  · rw [hlater]
    simp [hsame, hends, hends', hutc']
  · have hne := fractionValue_ne hends' hends
    have hbefore : fractionValue a.fraction < fractionValue e.fraction ↔ 0 < fractionGap a e := by
      rw [fractionGap, sub_pos]
    rw [hinstant]
    simp only [hsame, hends, hends', hbefore, false_and, not_false_eq_true, true_and, false_or,
      and_false]
    rcases lt_trichotomy (fractionGap a e) 0 with hneg | hzero | hpos
    · simp only [hneg, hneg.asymm, and_false, or_false, false_iff, false_implies, true_implies,
        true_and, not_lt]
    · exact absurd (sub_eq_zero.mp hzero).symm hne
    · simp only [hpos, hpos.asymm, and_true, true_iff, true_implies, false_implies]
      omega

/-- **Agreement**: the order of two texts is the order of their instants exactly
    when the offsets do not undo it. -/
theorem text_agrees_iff (a e : Stamp) :
    (a.text < e.text ↔ a.instant < e.instant) ↔ Agree a e := by
  have htext := text_lt_iff a e
  unfold Agree
  by_cases hdate : a.moment.date = e.moment.date
  · have hbefore : ¬ e.moment.date.Before e.moment.date := by
      rw [← hdate, ← Date.dayNumber_lt_iff]
      exact lt_irrefl _
    by_cases hseparator : a.separator = e.separator
    · have hgap : localGap a e = e.moment.time.seconds - a.moment.time.seconds := by
        unfold localGap Moment.seconds
        rw [hdate]
        omega
      simp only [hbefore, hdate, hseparator, lt_irrefl, false_or, true_and] at htext
      rw [if_neg (fun h => h.2 hseparator)]
      by_cases hzero : localGap a e = 0
      · have htimes : a.moment.time.seconds = e.moment.time.seconds := by omega
        rw [if_pos hzero, ← tails_agree_iff a e hzero, htext, htimes]
        simp only [lt_irrefl, false_or, true_and]
      · have htimes : a.moment.time.seconds ≠ e.moment.time.seconds := by omega
        have hpos : 0 < localGap a e ↔ a.moment.time.seconds < e.moment.time.seconds := by omega
        rw [if_neg hzero, htext, hpos, instant_lt_iff]
        simp only [htimes, false_and, or_false]
    · simp only [hbefore, hdate, hseparator, false_or, true_and, false_and, or_false] at htext
      rw [if_pos ⟨hdate, hseparator⟩, htext, instant_lt_iff]
  · -- different dates are apart by their local times
    have hdays : a.moment.date.dayNumber ≠ e.moment.date.dayNumber :=
      fun h => hdate (Date.dayNumber_inj.mp h)
    have hzero : localGap a e ≠ 0 := by
      intro h
      have hseconds : a.moment.seconds = e.moment.seconds := by
        unfold localGap at h
        omega
      rw [Moment.seconds_inj] at hseconds
      exact hdate (congrArg Moment.date hseconds)
    have hseconds : 0 < localGap a e ↔ a.moment.seconds < e.moment.seconds := by
      unfold localGap
      omega
    have hpos : 0 < localGap a e ↔ a.moment.date.Before e.moment.date := by
      rw [hseconds, Moment.seconds_lt_iff, Date.dayNumber_lt_iff]
      simp only [hdays, false_and, or_false]
    simp only [hdate, false_and, or_false] at htext
    rw [if_neg (fun h => hdate h.1), if_neg hzero, htext, hpos, instant_lt_iff]

end Rfc3339

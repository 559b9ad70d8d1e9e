import Mathlib.Data.Nat.Find
import Mathlib.Order.Lattice
import Mathlib.Tactic.Common
import Mathlib.Tactic.NormNum

/-! # Calendar dates and times of day

    Dates of the Gregorian calendar by their day numbers, times of day by their
    seconds, and the order of numbers that are written with a fixed number of
    digits.

    * `padded_append_lt` : padded numbers are ordered as texts as they are as
      numbers.
    * `dayNumber_lt_iff` : day numbers are ordered as year, month and day.
    * `Moment.seconds_lt_iff` : moments are ordered by day and by second.
    * `Moment.ofSeconds` : the date and the time of a number of seconds. -/

namespace CivilTime

/-! ## Section 1: Padded numbers -/

/-- The last digits of a number, so many of them. -/
def padded : Nat → Nat → List Char
  | 0, _ => []
  | w + 1, n => padded w (n / 10) ++ [Nat.digitChar (n % 10)]

theorem digitChar_lt : ∀ a b : Fin 10,
    Nat.digitChar a < Nat.digitChar b ↔ a < b := by decide

theorem digitChar_inj : ∀ a b : Fin 10, Nat.digitChar a = Nat.digitChar b ↔ a = b := by decide

@[simp] theorem length_padded (w n : Nat) : (padded w n).length = w := by
  induction w generalizing n with
  | zero => rfl
  | succ w ih => rw [padded, List.length_append, ih, List.length_singleton]

/-- **Padded numbers**: the greater number is the greater text, and after equal
    numbers what follows decides. -/
theorem padded_append_lt {w n m : Nat} (hn : n < 10 ^ w) (hm : m < 10 ^ w) (s t : List Char) :
    padded w n ++ s < padded w m ++ t ↔ n < m ∨ n = m ∧ s < t := by
  induction w generalizing n m s t with
  | zero =>
    rw [pow_zero] at hn hm
    have hsame : n = m := by omega
    simp [padded, hsame]
  | succ w ih =>
    rw [pow_succ] at hn hm
    have hdigit := digitChar_lt ⟨n % 10, Nat.mod_lt n (by omega)⟩ ⟨m % 10, Nat.mod_lt m (by omega)⟩
    have hsame := digitChar_inj ⟨n % 10, Nat.mod_lt n (by omega)⟩ ⟨m % 10, Nat.mod_lt m (by omega)⟩
    simp only [Fin.mk_lt_mk, Fin.mk.injEq] at hdigit hsame
    rw [padded, padded, List.append_assoc, List.append_assoc, ih (by omega) (by omega),
      List.singleton_append, List.singleton_append, List.cons_lt_cons_iff, hdigit, hsame]
    -- the leading digits decide, and then the last one
    constructor
    · rintro (hlead | ⟨hlead, hlast | ⟨hlast, hrest⟩⟩)
      · left
        omega
      · left
        omega
      · right
        exact ⟨by omega, hrest⟩
    · rintro (hlt | ⟨rfl, hrest⟩)
      · by_cases hlead : n / 10 < m / 10
        · exact Or.inl hlead
        · right
          exact ⟨by omega, Or.inl (by omega)⟩
      · exact Or.inr ⟨rfl, Or.inr ⟨rfl, hrest⟩⟩

/-! ## Section 2: Dates -/

/-- The year has a leap day. -/
def isLeap (year : Nat) : Bool := year % 4 = 0 ∧ (year % 100 ≠ 0 ∨ year % 400 = 0)

/-- The days of a month. -/
def monthDays (year month : Nat) : Nat :=
  if month = 2 then (if isLeap year then 29 else 28)
  else if month ∈ [4, 6, 9, 11] then 30
  else 31

/-- The days of a year. -/
def yearDays (year : Nat) : Nat := if isLeap year then 366 else 365

/-- The days before a year. -/
def daysBeforeYear (year : Nat) : Nat :=
  365 * year + (year + 3) / 4 - (year + 99) / 100 + (year + 399) / 400

/-- The days of a year before a month. -/
def daysBeforeMonth (year : Nat) : Nat → Nat
  | 0 => 0
  | 1 => 0
  | month + 2 => daysBeforeMonth year (month + 1) + monthDays year (month + 1)

/-- A date. -/
structure Date where
  year : Nat
  month : Nat
  day : Nat
  month_pos : 1 ≤ month
  month_le : month ≤ 12
  day_pos : 1 ≤ day
  day_le : day ≤ monthDays year month
  deriving DecidableEq

/-- The number of the day, from the first day of the year 0. -/
def Date.dayNumber (d : Date) : Nat :=
  daysBeforeYear d.year + daysBeforeMonth d.year d.month + d.day

/-- The order of dates by year, month and day. -/
def Date.Before (d e : Date) : Prop :=
  d.year < e.year ∨ d.year = e.year ∧ (d.month < e.month ∨ d.month = e.month ∧ d.day < e.day)

theorem monthDays_le (year month : Nat) : monthDays year month ≤ 31 := by
  unfold monthDays
  split
  · split <;> omega
  · split <;> omega

theorem daysBeforeYear_succ (year : Nat) :
    daysBeforeYear (year + 1) = daysBeforeYear year + yearDays year := by
  have h4 : (year + 1 + 3) / 4 = (year + 3) / 4 + if year % 4 = 0 then 1 else 0 := by
    split <;> omega
  have h100 : (year + 1 + 99) / 100 = (year + 99) / 100 + if year % 100 = 0 then 1 else 0 := by
    split <;> omega
  have h400 : (year + 1 + 399) / 400 = (year + 399) / 400 + if year % 400 = 0 then 1 else 0 := by
    split <;> omega
  have hsmall : (year + 99) / 100 ≤ year := by omega
  have hhundreds : year % 100 = 0 → year % 4 = 0 := by omega
  have hmost : year % 400 = 0 → year % 100 = 0 := by omega
  unfold daysBeforeYear yearDays isLeap
  rw [h4, h100, h400]
  clear h4 h100 h400
  generalize (year + 3) / 4 = fours at *
  generalize (year + 99) / 100 = hundreds at *
  generalize (year + 399) / 400 = most at *
  by_cases h4 : year % 4 = 0
  · by_cases h100 : year % 100 = 0
    · by_cases h400 : year % 400 = 0
      · rw [if_pos h4, if_pos h100, if_pos h400, if_pos (by simp [h4, h400])]
        omega
      · rw [if_pos h4, if_pos h100, if_neg h400, if_neg (by simp [h4, h100, h400])]
        omega
    · have h400 : ¬ year % 400 = 0 := fun h => h100 (hmost h)
      rw [if_pos h4, if_neg h100, if_neg h400, if_pos (by simp [h4, h100])]
      omega
  · have h100 : ¬ year % 100 = 0 := fun h => h4 (hhundreds h)
    have h400 : ¬ year % 400 = 0 := fun h => h100 (hmost h)
    rw [if_neg h4, if_neg h100, if_neg h400, if_neg (by simp [h4])]
    omega

theorem daysBeforeYear_mono {y z : Nat} (h : y < z) :
    daysBeforeYear y + yearDays y ≤ daysBeforeYear z := by
  induction z with
  | zero => omega
  | succ z ih =>
    by_cases hlast : y = z
    · rw [hlast, daysBeforeYear_succ]
    · have hbefore := ih (by omega)
      rw [daysBeforeYear_succ]
      omega

theorem daysBeforeMonth_mono (year : Nat) {m k : Nat} (hm : 1 ≤ m) (h : m < k) :
    daysBeforeMonth year m + monthDays year m ≤ daysBeforeMonth year k := by
  induction k with
  | zero => omega
  | succ k ih =>
    obtain ⟨k, rfl⟩ : ∃ j, k = j + 1 := ⟨k - 1, by omega⟩
    by_cases hlast : m = k + 1
    · rw [hlast, daysBeforeMonth]
    · have hbefore := ih (by omega)
      rw [daysBeforeMonth]
      omega

theorem daysBeforeMonth_end (year : Nat) : daysBeforeMonth year 13 = yearDays year := by
  unfold yearDays
  cases hleap : isLeap year with
  | true => simp [daysBeforeMonth, monthDays, hleap]
  | false => simp [daysBeforeMonth, monthDays, hleap]

/-- A date lies in its year. -/
theorem Date.day_in_year (d : Date) :
    0 < daysBeforeMonth d.year d.month + d.day ∧
      daysBeforeMonth d.year d.month + d.day ≤ yearDays d.year := by
  have hmonth := daysBeforeMonth_mono d.year d.month_pos
    (show d.month < 13 from by have := d.month_le; omega)
  rw [daysBeforeMonth_end] at hmonth
  have hpos := d.day_pos
  have hle := d.day_le
  omega

theorem Date.dayNumber_lt_of_before {d e : Date} (h : d.Before e) : d.dayNumber < e.dayNumber := by
  have hd := d.day_in_year
  have he := e.day_in_year
  unfold Date.dayNumber
  rcases h with hyear | ⟨hyear, hmonth | ⟨hmonth, hday⟩⟩
  · have hyears := daysBeforeYear_mono hyear
    omega
  · have hmonths := daysBeforeMonth_mono d.year d.month_pos hmonth
    have hle := d.day_le
    have hpos := e.day_pos
    rw [← hyear]
    omega
  · rw [← hyear, ← hmonth]
    omega

theorem Date.ext_iff {d e : Date} :
    d = e ↔ d.year = e.year ∧ d.month = e.month ∧ d.day = e.day := by
  constructor
  · rintro rfl
    exact ⟨rfl, rfl, rfl⟩
  · rintro ⟨hyear, hmonth, hday⟩
    obtain ⟨_, _, _, _, _, _, _⟩ := d
    obtain ⟨_, _, _, _, _, _, _⟩ := e
    simp only at hyear hmonth hday
    subst hyear hmonth hday
    rfl

theorem Date.eq_or_before (d e : Date) : d = e ∨ d.Before e ∨ e.Before d := by
  rw [ext_iff]
  unfold Before
  omega

/-- **Dates**: day numbers are ordered as year, month and day. -/
theorem Date.dayNumber_lt_iff {d e : Date} : d.dayNumber < e.dayNumber ↔ d.Before e := by
  constructor
  · intro h
    rcases d.eq_or_before e with rfl | hbefore | hafter
    · omega
    · exact hbefore
    · have := dayNumber_lt_of_before hafter
      omega
  · exact dayNumber_lt_of_before

theorem Date.dayNumber_inj {d e : Date} : d.dayNumber = e.dayNumber ↔ d = e := by
  constructor
  · intro h
    rcases d.eq_or_before e with heq | hbefore | hafter
    · exact heq
    · have := dayNumber_lt_of_before hbefore
      omega
    · have := dayNumber_lt_of_before hafter
      omega
  · rintro rfl
    rfl

/-- `YYYY-MM-DD`. -/
def Date.text (d : Date) : List Char :=
  padded 4 d.year ++ '-' :: (padded 2 d.month ++ '-' :: padded 2 d.day)

/-- Dates are ordered as their texts are. -/
theorem Date.text_append_lt {d e : Date} (hd : d.year < 10000) (he : e.year < 10000)
    (s t : List Char) : d.text ++ s < e.text ++ t ↔ d.Before e ∨ d = e ∧ s < t := by
  have := d.month_le
  have := e.month_le
  have hday : d.day < 10 ^ 2 := by
    have := d.day_le
    have := monthDays_le d.year d.month
    omega
  have hday' : e.day < 10 ^ 2 := by
    have := e.day_le
    have := monthDays_le e.year e.month
    omega
  have hyears := fun s t => padded_append_lt (w := 4) (by omega : d.year < 10 ^ 4)
    (by omega : e.year < 10 ^ 4) s t
  have hmonths := fun s t => padded_append_lt (w := 2) (by omega : d.month < 10 ^ 2)
    (by omega : e.month < 10 ^ 2) s t
  have hdash : ¬ ('-' < '-') := by decide
  unfold text Before
  simp only [List.append_assoc, List.cons_append, List.cons_lt_cons_iff, hdash, false_or,
    true_and, hyears, hmonths, padded_append_lt hday hday', ext_iff]
  -- what follows counts only after the same year, month and day
  by_cases hrest : s < t
  · simp only [hrest, and_true]
    omega
  · simp only [hrest, and_false, or_false]

/-! ## Section 3: Times of day -/

/-- A time of day, to the second. -/
structure TimeOfDay where
  hour : Nat
  minute : Nat
  second : Nat
  hour_lt : hour < 24
  minute_lt : minute < 60
  second_lt : second < 60
  deriving DecidableEq

/-- The seconds since midnight. -/
def TimeOfDay.seconds (t : TimeOfDay) : Nat := 3600 * t.hour + 60 * t.minute + t.second

/-- The order of times by hour, minute and second. -/
def TimeOfDay.Before (t u : TimeOfDay) : Prop :=
  t.hour < u.hour ∨ t.hour = u.hour ∧
    (t.minute < u.minute ∨ t.minute = u.minute ∧ t.second < u.second)

theorem TimeOfDay.seconds_lt (t : TimeOfDay) : t.seconds < 86400 := by
  have hhour := t.hour_lt
  have hminute := t.minute_lt
  have hsecond := t.second_lt
  unfold seconds
  omega

theorem TimeOfDay.seconds_lt_iff {t u : TimeOfDay} : t.seconds < u.seconds ↔ t.Before u := by
  have := t.minute_lt
  have := t.second_lt
  have := u.minute_lt
  have := u.second_lt
  unfold seconds Before
  omega

theorem TimeOfDay.seconds_inj {t u : TimeOfDay} : t.seconds = u.seconds ↔ t = u := by
  constructor
  · intro h
    obtain ⟨_, _, _, _, _, _⟩ := t
    obtain ⟨_, _, _, _, _, _⟩ := u
    simp only [seconds] at h
    congr 1 <;> omega
  · rintro rfl
    rfl

/-- `HH:MM:SS`. -/
def TimeOfDay.text (t : TimeOfDay) : List Char :=
  padded 2 t.hour ++ ':' :: (padded 2 t.minute ++ ':' :: padded 2 t.second)

/-- Times are ordered as their texts are. -/
theorem TimeOfDay.text_append_lt {t u : TimeOfDay} (r s : List Char) :
    t.text ++ r < u.text ++ s ↔ t.seconds < u.seconds ∨ t.seconds = u.seconds ∧ r < s := by
  have := t.hour_lt
  have := t.minute_lt
  have := t.second_lt
  have := u.hour_lt
  have := u.minute_lt
  have := u.second_lt
  have hhours := fun r s => padded_append_lt (w := 2) (by omega : t.hour < 10 ^ 2)
    (by omega : u.hour < 10 ^ 2) r s
  have hminutes := fun r s => padded_append_lt (w := 2) (by omega : t.minute < 10 ^ 2)
    (by omega : u.minute < 10 ^ 2) r s
  have hseconds := fun r s => padded_append_lt (w := 2) (by omega : t.second < 10 ^ 2)
    (by omega : u.second < 10 ^ 2) r s
  have hcolon : ¬ (':' < ':') := by decide
  unfold text seconds
  simp only [List.append_assoc, List.cons_append, List.cons_lt_cons_iff, hcolon, false_or,
    true_and, hhours, hminutes, hseconds]
  by_cases hrest : r < s
  · simp only [hrest, and_true]
    omega
  · simp only [hrest, and_false, or_false]
    omega

/-- A date and a time. -/
structure Moment where
  date : Date
  time : TimeOfDay
  deriving DecidableEq

/-- The seconds since midnight before the first day of the year 0. -/
def Moment.seconds (m : Moment) : Nat := 86400 * m.date.dayNumber + m.time.seconds

theorem Moment.seconds_lt_iff {m k : Moment} :
    m.seconds < k.seconds ↔
      m.date.dayNumber < k.date.dayNumber ∨
        m.date.dayNumber = k.date.dayNumber ∧ m.time.seconds < k.time.seconds := by
  have := m.time.seconds_lt
  have := k.time.seconds_lt
  unfold seconds
  omega

theorem Moment.seconds_inj {m k : Moment} : m.seconds = k.seconds ↔ m = k := by
  constructor
  · intro h
    have := m.time.seconds_lt
    have := k.time.seconds_lt
    unfold seconds at h
    have hdate : m.date = k.date := Date.dayNumber_inj.mp (by omega)
    have htime : m.time = k.time := TimeOfDay.seconds_inj.mp (by omega)
    obtain ⟨_, _⟩ := m
    obtain ⟨_, _⟩ := k
    simp only at hdate htime
    subst hdate htime
    rfl
  · rintro rfl
    rfl

/-! ## Section 4: The date of a day number -/

theorem daysBeforeYear_ge (year : Nat) : 365 * year ≤ daysBeforeYear year := by
  have hfours : (year + 99) / 100 ≤ (year + 3) / 4 := by omega
  unfold daysBeforeYear
  generalize (year + 3) / 4 = fours at *
  generalize (year + 99) / 100 = hundreds at *
  generalize (year + 399) / 400 = most at *
  omega

/-- The year of a day number. -/
def yearOf (n : Nat) : Nat := Nat.findGreatest (fun year => daysBeforeYear year < n) (n / 365)

/-- The month of a day of a year. -/
def monthOf (year n : Nat) : Nat := Nat.findGreatest (fun m => daysBeforeMonth year m < n) 12

theorem yearOf_spec {n : Nat} (h : 1 ≤ n) :
    daysBeforeYear (yearOf n) < n ∧ n ≤ daysBeforeYear (yearOf n) + yearDays (yearOf n) := by
  constructor
  · exact Nat.findGreatest_spec (P := fun year => daysBeforeYear year < n) (Nat.zero_le _) h
  · rw [← daysBeforeYear_succ]
    by_contra hlt
    have hge := daysBeforeYear_ge (yearOf n + 1)
    have hgreatest : yearOf n + 1 ≤ yearOf n :=
      Nat.le_findGreatest (P := fun year => daysBeforeYear year < n) (by omega) (by omega)
    omega

theorem monthOf_spec (year n : Nat) (h : 1 ≤ n) (hyear : n ≤ yearDays year) :
    1 ≤ monthOf year n ∧ monthOf year n ≤ 12 ∧
      daysBeforeMonth year (monthOf year n) < n ∧
      n ≤ daysBeforeMonth year (monthOf year n) + monthDays year (monthOf year n) := by
  have hpos : 1 ≤ monthOf year n :=
    Nat.le_findGreatest (P := fun m => daysBeforeMonth year m < n) (by omega) h
  have hle : monthOf year n ≤ 12 := Nat.findGreatest_le _
  refine ⟨hpos, hle, ?_, ?_⟩
  · exact Nat.findGreatest_spec (P := fun m => daysBeforeMonth year m < n) (Nat.zero_le _) h
  · have hsucc : daysBeforeMonth year (monthOf year n) + monthDays year (monthOf year n) =
        daysBeforeMonth year (monthOf year n + 1) := by
      obtain ⟨m, hm⟩ : ∃ m, monthOf year n = m + 1 := ⟨monthOf year n - 1, by omega⟩
      rw [hm, daysBeforeMonth]
    rw [hsucc]
    by_cases hlast : monthOf year n = 12
    · rw [hlast, daysBeforeMonth_end]
      exact hyear
    · by_contra hlt
      have hgreatest : monthOf year n + 1 ≤ monthOf year n :=
        Nat.le_findGreatest (P := fun m => daysBeforeMonth year m < n) (by omega) (by omega)
      omega

/-- The date of a day number. -/
def Date.ofDay (n : Nat) (h : 1 ≤ n) : Date :=
  have hyear := yearOf_spec h
  have hmonth := monthOf_spec (yearOf n) (n - daysBeforeYear (yearOf n)) (by omega) (by omega)
  { year := yearOf n
    month := monthOf (yearOf n) (n - daysBeforeYear (yearOf n))
    day := n - daysBeforeYear (yearOf n) -
      daysBeforeMonth (yearOf n) (monthOf (yearOf n) (n - daysBeforeYear (yearOf n)))
    month_pos := hmonth.1
    month_le := hmonth.2.1
    day_pos := by omega
    day_le := by omega }

theorem Date.dayNumber_ofDay {n : Nat} (h : 1 ≤ n) : (ofDay n h).dayNumber = n := by
  have hyear := yearOf_spec h
  have hmonth := monthOf_spec (yearOf n) (n - daysBeforeYear (yearOf n)) (by omega) (by omega)
  unfold dayNumber ofDay
  simp only
  omega

/-- The date and the time of a number of seconds. -/
def Moment.ofSeconds (n : Nat) (h : 86400 ≤ n) : Moment where
  date := Date.ofDay (n / 86400) (by omega)
  time :=
    { hour := n % 86400 / 3600
      minute := n % 3600 / 60
      second := n % 60
      hour_lt := by omega
      minute_lt := by omega
      second_lt := by omega }

theorem Moment.seconds_ofSeconds {n : Nat} (h : 86400 ≤ n) : (ofSeconds n h).seconds = n := by
  have hhour : 3600 * (n % 86400 / 3600) + n % 3600 = n % 86400 := by omega
  have hminute : 60 * (n % 3600 / 60) + n % 60 = n % 3600 := by omega
  unfold seconds ofSeconds
  simp only [Date.dayNumber_ofDay, TimeOfDay.seconds]
  omega

end CivilTime

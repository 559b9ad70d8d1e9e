import CBrain.Framework.CivilTime
import CBrain.Framework.Numerals

/-! # The clock format

    What `strptime` reads and `strftime` writes for `%Y-%m-%dT%H:%M:%SZ`.

    * Reading admits numbers of one digit, decimal digits of every script where
      a field asks for any digit, a blank before a day of one digit, and letters
      of either case.
    * Writing gives every number its full width.
    * `parse_text`    : what is written is read back.
    * `text_lt_iff`   : written texts are ordered as their moments. -/

namespace ClockFormat

open CivilTime
open Numeral (digit?)

/-! ## Section 1: Fields -/

/-- A digit of a range. -/
def between (lo hi : Nat) (c : Char) : Option Nat :=
  if 0x30 + lo ≤ c.toNat ∧ c.toNat ≤ 0x30 + hi then some (c.toNat - 0x30) else none

/-- `%m` of two characters: `1[0-2]|0[1-9]`. -/
def monthPair (a b : Char) : Option Nat :=
  if a = '1' then (between 0 2 b).map (10 + ·)
  else if a = '0' then between 1 9 b
  else none

/-- `%d` of two characters: `3[0-1]|[1-2]\d|0[1-9]| [1-9]`. -/
def dayPair (a b : Char) : Option Nat :=
  if a = '3' then (between 0 1 b).map (30 + ·)
  else if a = '2' then (digit? b).map (20 + ·)
  else if a = '1' then (digit? b).map (10 + ·)
  else if a = '0' ∨ a = ' ' then between 1 9 b
  else none

/-- `%H` of two characters: `2[0-3]|[0-1]\d`. -/
def hourPair (a b : Char) : Option Nat :=
  if a = '2' then (between 0 3 b).map (20 + ·)
  else if a = '1' then (digit? b).map (10 + ·)
  else if a = '0' then digit? b
  else none

/-- `%M` of two characters: `[0-5]\d`. -/
def minutePair (a b : Char) : Option Nat := do
  let tens ← between 0 5 a
  let units ← digit? b
  return 10 * tens + units

/-- `%S` of two characters: `6[0-1]|[0-5]\d`. -/
def secondPair (a b : Char) : Option Nat :=
  if a = '6' then (between 0 1 b).map (60 + ·) else minutePair a b

/-- A field of two characters, or else of one, with what follows it. -/
def field (two : Char → Char → Option Nat) (one : Char → Option Nat) :
    List Char → Option (Nat × List Char)
  | a :: b :: rest =>
    match two a b with
    | some value => some (value, rest)
    | none => (one a).map fun value => (value, b :: rest)
  | [a] => (one a).map fun value => (value, [])
  | [] => none

def month : List Char → Option (Nat × List Char) := field monthPair (between 1 9)
def day : List Char → Option (Nat × List Char) := field dayPair (between 1 9)
def hour : List Char → Option (Nat × List Char) := field hourPair digit?
def minute : List Char → Option (Nat × List Char) := field minutePair digit?
def second : List Char → Option (Nat × List Char) := field secondPair digit?

/-- `%Y`: `\d\d\d\d`. -/
def year : List Char → Option (Nat × List Char)
  | a :: b :: c :: d :: rest => do
    let thousands ← digit? a
    let hundreds ← digit? b
    let tens ← digit? c
    let units ← digit? d
    return (1000 * thousands + 100 * hundreds + 10 * tens + units, rest)
  | _ => none

/-- One of the characters, with what follows it. -/
def literal (allowed : List Char) : List Char → Option (List Char)
  | c :: rest => if c ∈ allowed then some rest else none
  | [] => none

/-! ## Section 2: Reading and writing -/

/-- What `datetime` accepts. -/
def moment? (year month day hour minute second : Nat) : Option Moment :=
  if h : (1 ≤ year ∧ year ≤ 9999) ∧ (1 ≤ month ∧ month ≤ 12) ∧
      (1 ≤ day ∧ day ≤ monthDays year month) ∧ hour < 24 ∧ minute < 60 ∧ second < 60 then
    some
      { date := ⟨year, month, day, h.2.1.1, h.2.1.2, h.2.2.1.1, h.2.2.1.2⟩
        time := ⟨hour, minute, second, h.2.2.2.1, h.2.2.2.2.1, h.2.2.2.2.2⟩ }
  else none

/-- `strptime`. -/
def parse (text : List Char) : Option Moment := do
  let (year, rest) ← year text
  let rest ← literal ['-'] rest
  let (month, rest) ← month rest
  let rest ← literal ['-'] rest
  let (day, rest) ← day rest
  let rest ← literal ['T', 't'] rest
  let (hour, rest) ← hour rest
  let rest ← literal [':'] rest
  let (minute, rest) ← minute rest
  let rest ← literal [':'] rest
  let (second, rest) ← second rest
  let rest ← literal ['Z', 'z'] rest
  -- the whole text has to be read
  if rest = [] then moment? year month day hour minute second else none

/-- `strftime`. -/
def text (m : Moment) : List Char := m.date.text ++ 'T' :: (m.time.text ++ ['Z'])

/-- The years that a text can have. -/
def InYears (m : Moment) : Prop := 1 ≤ m.date.year ∧ m.date.year ≤ 9999

instance (m : Moment) : Decidable (InYears m) :=
  inferInstanceAs (Decidable (1 ≤ m.date.year ∧ m.date.year ≤ 9999))

theorem inYears_moment? {year month day hour minute second : Nat} {m : Moment}
    (h : moment? year month day hour minute second = some m) : InYears m := by
  unfold moment? at h
  split at h
  next hrange =>
    obtain rfl := Option.some.inj h
    exact hrange.1
  next => cases h

/-- What is read has a year of four digits. -/
theorem inYears_parse {cs : List Char} {m : Moment} (h : parse cs = some m) : InYears m := by
  unfold parse at h
  simp only [Option.bind_eq_bind, Option.bind_eq_some_iff] at h
  obtain ⟨_, -, _, -, _, -, _, -, _, -, _, -, _, -, _, -, _, -, _, -, _, -, _, -, h⟩ := h
  split at h
  · exact inYears_moment? h
  · cases h

/-- **Written texts** are ordered as their moments. -/
theorem text_lt_iff {m k : Moment} (hm : InYears m) (hk : InYears k) :
    text m < text k ↔ m.seconds < k.seconds := by
  have hletter : ¬ ('T' < 'T') := by decide
  have hend : ¬ (['Z'] < ['Z']) := by decide
  have hm' : m.date.year < 10000 := Nat.lt_succ_of_le hm.2
  have hk' : k.date.year < 10000 := Nat.lt_succ_of_le hk.2
  unfold text
  rw [Date.text_append_lt hm' hk', List.cons_lt_cons_iff, TimeOfDay.text_append_lt,
    Moment.seconds_lt_iff, Date.dayNumber_lt_iff, Date.dayNumber_inj]
  simp only [hletter, hend, and_false, or_false, false_or, true_and]

/-! ## Section 3: What is written is read back -/

theorem digit?_digitChar : ∀ n : Fin 10, digit? (Nat.digitChar n) = some n.val := by decide

theorem field_padded {two : Char → Char → Option Nat} {one : Char → Option Nat} {n : Nat}
    (h : two (Nat.digitChar (n / 10 % 10)) (Nat.digitChar (n % 10)) = some n)
    (rest : List Char) : field two one (padded 2 n ++ rest) = some (n, rest) := by
  simp only [padded, List.nil_append, List.cons_append, field, h]

theorem month_padded : ∀ n : Fin 13, 1 ≤ n.val →
    monthPair (Nat.digitChar (n / 10 % 10)) (Nat.digitChar (n % 10)) = some n.val := by decide

theorem day_padded : ∀ n : Fin 32, 1 ≤ n.val →
    dayPair (Nat.digitChar (n / 10 % 10)) (Nat.digitChar (n % 10)) = some n.val := by decide

theorem hour_padded : ∀ n : Fin 24,
    hourPair (Nat.digitChar (n / 10 % 10)) (Nat.digitChar (n % 10)) = some n.val := by decide

theorem minute_padded : ∀ n : Fin 60,
    minutePair (Nat.digitChar (n / 10 % 10)) (Nat.digitChar (n % 10)) = some n.val := by decide

theorem second_padded : ∀ n : Fin 60,
    secondPair (Nat.digitChar (n / 10 % 10)) (Nat.digitChar (n % 10)) = some n.val := by decide

theorem year_padded {n : Nat} (h : n < 10000) (rest : List Char) :
    year (padded 4 n ++ rest) = some (n, rest) := by
  have hdigit : ∀ k : Nat, digit? (Nat.digitChar (k % 10)) = some (k % 10) :=
    fun k => digit?_digitChar ⟨k % 10, Nat.mod_lt k (by omega)⟩
  simp only [padded, List.nil_append, List.cons_append, year, hdigit, Option.bind_eq_bind,
    Option.bind_some]
  have hvalue : 1000 * (n / 10 / 10 / 10 % 10) + 100 * (n / 10 / 10 % 10) + 10 * (n / 10 % 10) +
      n % 10 = n := by omega
  rw [hvalue]
  rfl

/-- **Round trip**: what is written is read back. -/
theorem parse_text {m : Moment} (h : InYears m) : parse (text m) = some m := by
  obtain ⟨⟨y, mo, d, hmonth, hmonth', hday, hday'⟩, ⟨ho, mi, s, hhour, hminute, hsecond⟩⟩ := m
  have hdays := monthDays_le y mo
  have hrange : (1 ≤ y ∧ y ≤ 9999) ∧ (1 ≤ mo ∧ mo ≤ 12) ∧ (1 ≤ d ∧ d ≤ monthDays y mo) ∧
      ho < 24 ∧ mi < 60 ∧ s < 60 :=
    ⟨h, ⟨hmonth, hmonth'⟩, ⟨hday, hday'⟩, hhour, hminute, hsecond⟩
  have hy : y < 10000 := Nat.lt_succ_of_le h.2
  unfold parse text Date.text TimeOfDay.text
  simp only [List.append_assoc, List.cons_append, year_padded hy, Option.bind_eq_bind,
    Option.bind_some, literal, if_true, month, day, hour, minute, second,
    field_padded (month_padded ⟨mo, by omega⟩ hmonth),
    field_padded (day_padded ⟨d, by omega⟩ hday), field_padded (hour_padded ⟨ho, hhour⟩),
    field_padded (minute_padded ⟨mi, hminute⟩), field_padded (second_padded ⟨s, hsecond⟩),
    List.mem_cons, true_or]
  unfold moment?
  rw [dif_pos hrange]

end ClockFormat

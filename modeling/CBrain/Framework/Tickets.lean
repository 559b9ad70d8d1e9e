import Mathlib.Data.List.Induction
import Mathlib.Data.List.Nodup
import Mathlib.Data.List.Perm.Subperm
import Mathlib.Logic.Function.Basic

/-! # Tickets that threads take and use

    Threads act one after the other.  An event may take a ticket, or use the one
    that its thread took last and has not used.  A `Reading` says which events do so,
    and the `ledger` of a history keeps the open tickets and the used ones.

    * `distinct`    : tickets that are taken once each are used once each.
    * `used_countP` : if every use finds a ticket, as many are used as there are uses. -/

namespace Tickets

/-- How an event is read. -/
structure Reading (E α : Type) where
  takes : E → Option α
  uses : E → Bool
  apart : ∀ e, uses e = true → takes e = none

/-- The tickets that are open, and the used ones in order. -/
structure Ledger (T α : Type) where
  held : T → Option α
  used : List α

variable {T E α κ : Type}

/-- The tickets of a history, in order. -/
def taken (R : Reading E α) (log : List (T × E)) : List α := log.filterMap fun e => R.takes e.2

@[simp] theorem taken_nil {R : Reading E α} : taken (T := T) R [] = [] := rfl

theorem taken_snoc {R : Reading E α} (log : List (T × E)) (t : T) (e : E) :
    taken R (log ++ [(t, e)]) = taken R log ++ (R.takes e).toList := by
  unfold taken
  rw [List.filterMap_append]
  cases h : R.takes e <;> simp [h]

variable [DecidableEq T]

/-- One event. -/
def Ledger.enter (R : Reading E α) (l : Ledger T α) (t : T) (e : E) : Ledger T α :=
  match R.takes e with
  | some a => { l with held := Function.update l.held t (some a) }
  | none =>
    if R.uses e then
      { held := Function.update l.held t none, used := l.used ++ (l.held t).toList }
    else l

/-- The ledger of a history. -/
def ledger (R : Reading E α) (log : List (T × E)) : Ledger T α :=
  log.foldl (fun l e => l.enter R e.1 e.2) ⟨fun _ => none, []⟩

variable {R : Reading E α}

@[simp] theorem ledger_nil : ledger (T := T) R [] = ⟨fun _ => none, []⟩ := rfl

theorem ledger_snoc (log : List (T × E)) (t : T) (e : E) :
    ledger R (log ++ [(t, e)]) = (ledger R log).enter R t e := by
  simp [ledger]

/-! ## What one event does -/

theorem enter_takes {l : Ledger T α} {t : T} {e : E} {a : α} (h : R.takes e = some a) :
    l.enter R t e = { l with held := Function.update l.held t (some a) } := by
  unfold Ledger.enter
  rw [h]

theorem enter_uses {l : Ledger T α} {t : T} {e : E} (h : R.uses e = true) :
    l.enter R t e =
      { held := Function.update l.held t none, used := l.used ++ (l.held t).toList } := by
  unfold Ledger.enter
  rw [R.apart e h]
  simp only [h, if_true]

theorem enter_other {l : Ledger T α} {t : T} {e : E} (htakes : R.takes e = none)
    (huses : R.uses e = false) : l.enter R t e = l := by
  unfold Ledger.enter
  rw [htakes, huses]
  rfl

/-- Another thread's ticket stays as it is. -/
theorem enter_held_of_ne {l : Ledger T α} {t u : T} (h : u ≠ t) (e : E) :
    (l.enter R t e).held u = l.held u := by
  unfold Ledger.enter
  cases R.takes e with
  | some a => exact Function.update_of_ne h _ _
  | none =>
    by_cases huses : R.uses e = true
    · simp only [huses, if_true]
      exact Function.update_of_ne h _ _
    · simp only [huses, Bool.false_eq_true, if_false]

/-! ## Laws of a history -/

/-- Open and used tickets were taken, and no two of them have one key. -/
structure Distinct (key : α → κ) (R : Reading E α) (log : List (T × E)) : Prop where
  used : ((ledger R log).used.map key).Nodup
  used_taken : ∀ a ∈ (ledger R log).used, a ∈ taken R log
  held_taken : ∀ t a, (ledger R log).held t = some a → a ∈ taken R log
  held_unused : ∀ t a, (ledger R log).held t = some a → key a ∉ (ledger R log).used.map key
  held_apart : ∀ t u a b, (ledger R log).held t = some a → (ledger R log).held u = some b →
    key a = key b → t = u

/-- A ticket with a key of its own is taken. -/
theorem Distinct.take {key : α → κ} {log : List (T × E)} (h : Distinct key R log) {t : T} {e : E}
    {a : α} (htakes : R.takes e = some a) (hfresh : key a ∉ (taken R log).map key) :
    Distinct key R (log ++ [(t, e)]) := by
  have hne : ∀ b ∈ taken R log, key b ≠ key a := by
    intro b hb heq
    exact hfresh (heq ▸ List.mem_map_of_mem hb)
  have htaken : taken R (log ++ [(t, e)]) = taken R log ++ [a] := by
    rw [taken_snoc, htakes]
    rfl
  have hheld : ∀ u b, (Function.update (ledger R log).held t (some a)) u = some b →
      (u = t ∧ b = a) ∨ (ledger R log).held u = some b := by
    intro u b hb
    by_cases hu : u = t
    · subst hu
      rw [Function.update_self] at hb
      exact Or.inl ⟨rfl, (Option.some.inj hb).symm⟩
    · rw [Function.update_of_ne hu] at hb
      exact Or.inr hb
  constructor
  · rw [ledger_snoc, enter_takes htakes]
    exact h.used
  · rw [ledger_snoc, enter_takes htakes, htaken]
    exact fun b hb => List.mem_append_left _ (h.used_taken b hb)
  · rw [ledger_snoc, enter_takes htakes, htaken]
    intro u b hb
    rcases hheld u b hb with ⟨-, rfl⟩ | hold
    · exact List.mem_append_right _ List.mem_cons_self
    · exact List.mem_append_left _ (h.held_taken u b hold)
  · rw [ledger_snoc, enter_takes htakes]
    intro u b hb
    rcases hheld u b hb with ⟨-, rfl⟩ | hold
    · intro hmem
      obtain ⟨c, hc, heq⟩ := List.mem_map.mp hmem
      exact hne c (h.used_taken c hc) heq
    · exact h.held_unused u b hold
  · rw [ledger_snoc, enter_takes htakes]
    intro u v b c hb hc heq
    rcases hheld u b hb with ⟨hu, hba⟩ | hold
    · rcases hheld v c hc with ⟨hv, -⟩ | hold'
      · rw [hu, hv]
      · rw [hba] at heq
        exact absurd heq.symm (hne c (h.held_taken v c hold'))
    · rcases hheld v c hc with ⟨-, hca⟩ | hold'
      · rw [hca] at heq
        exact absurd heq (hne b (h.held_taken u b hold))
      · exact h.held_apart u v b c hold hold' heq

/-- A ticket is used, if the thread has one. -/
theorem Distinct.use {key : α → κ} {log : List (T × E)} (h : Distinct key R log) {t : T} {e : E}
    (huses : R.uses e = true) : Distinct key R (log ++ [(t, e)]) := by
  have htaken : taken R (log ++ [(t, e)]) = taken R log := by
    rw [taken_snoc, R.apart e huses, Option.toList_none, List.append_nil]
  have hheld : ∀ u b, (Function.update (ledger R log).held t none) u = some b →
      u ≠ t ∧ (ledger R log).held u = some b := by
    intro u b hb
    by_cases hu : u = t
    · rw [hu, Function.update_self] at hb
      cases hb
    · rw [Function.update_of_ne hu] at hb
      exact ⟨hu, hb⟩
  have hspent : ∀ b ∈ ((ledger R log).held t).toList, (ledger R log).held t = some b :=
    fun b hb => Option.mem_toList.mp hb
  constructor
  · rw [ledger_snoc, enter_uses huses, List.map_append, List.nodup_append]
    refine ⟨h.used, ?_, ?_⟩
    · cases (ledger R log).held t <;> simp
    · intro k hk k' hk' heq
      obtain ⟨b, hb, rfl⟩ := List.mem_map.mp hk'
      exact h.held_unused t b (hspent b hb) (heq ▸ hk)
  · rw [ledger_snoc, enter_uses huses, htaken]
    intro b hb
    rcases List.mem_append.mp hb with hold | hnew
    · exact h.used_taken b hold
    · exact h.held_taken t b (hspent b hnew)
  · rw [ledger_snoc, enter_uses huses, htaken]
    exact fun u b hb => h.held_taken u b (hheld u b hb).2
  · rw [ledger_snoc, enter_uses huses]
    intro u b hb hmem
    obtain ⟨hu, hold⟩ := hheld u b hb
    rw [List.map_append, List.mem_append] at hmem
    rcases hmem with hmem | hmem
    · exact h.held_unused u b hold hmem
    · obtain ⟨c, hc, heq⟩ := List.mem_map.mp hmem
      exact hu (h.held_apart u t b c hold (hspent c hc) heq.symm)
  · rw [ledger_snoc, enter_uses huses]
    exact fun u v b c hb hc => h.held_apart u v b c (hheld u b hb).2 (hheld v c hc).2

/-- **Run**: tickets with keys of their own are used once each. -/
theorem distinct (key : α → κ) {log : List (T × E)} (h : ((taken R log).map key).Nodup) :
    Distinct key R log := by
  induction log using List.reverseRecOn with
  | nil => constructor <;> simp
  | append_singleton log e ih =>
    obtain ⟨t, e⟩ := e
    rw [taken_snoc, List.map_append, List.nodup_append] at h
    have hlog := ih h.1
    by_cases huses : R.uses e = true
    · exact hlog.use huses
    · rw [Bool.not_eq_true] at huses
      cases htakes : R.takes e with
      | some a =>
        apply hlog.take htakes
        intro hmem
        exact h.2.2 _ hmem (key a) (by simp [htakes]) rfl
      | none =>
        have hledger : ledger R (log ++ [(t, e)]) = ledger R log := by
          rw [ledger_snoc, enter_other htakes huses]
        have htaken : taken R (log ++ [(t, e)]) = taken R log := by
          rw [taken_snoc, htakes, Option.toList_none, List.append_nil]
        constructor
        · rw [hledger]
          exact hlog.used
        · rw [hledger, htaken]
          exact hlog.used_taken
        · rw [hledger, htaken]
          exact hlog.held_taken
        · rw [hledger]
          exact hlog.held_unused
        · rw [hledger]
          exact hlog.held_apart

/-- **Counting**: if each event that counts finds a ticket that counts, and each other use
    one that does not, as many tickets count as events do. -/
theorem used_countP {p : E → Bool} {q : α → Bool} {log : List (T × E)}
    (hp : ∀ e, p e = true → R.uses e = true)
    (h : ∀ pre t e post, log = pre ++ (t, e) :: post → R.uses e = true →
      ∃ a, (ledger R pre).held t = some a ∧ q a = p e) :
    (ledger R log).used.countP q = log.countP fun e => p e.2 := by
  induction log using List.reverseRecOn with
  | nil => rfl
  | append_singleton log e ih =>
    obtain ⟨t, e⟩ := e
    have hlog := ih fun pre u e' post heq => h pre u e' (post ++ [(t, e)]) (by simp [heq])
    rw [ledger_snoc, List.countP_append, List.countP_singleton]
    by_cases huses : R.uses e = true
    · obtain ⟨a, ha, hq⟩ := h log t e [] rfl huses
      rw [enter_uses huses, ha]
      simp [List.countP_append, List.countP_singleton, hlog, hq]
    · have hnot : p e = false := by
        rw [← Bool.not_eq_true]
        exact fun hpe => huses (hp e hpe)
      rw [Bool.not_eq_true] at huses
      cases htakes : R.takes e with
      | some a => simp [enter_takes htakes, hlog, hnot]
      | none => simp [enter_other htakes huses, hlog, hnot]

/-- Used tickets are taken ones, at most as often. -/
theorem Distinct.countP_le {key : α → κ} {log : List (T × E)} (h : Distinct key R log)
    (q : α → Bool) : (ledger R log).used.countP q ≤ (taken R log).countP q :=
  (List.subperm_of_subset h.used.of_map h.used_taken).countP_le q

end Tickets

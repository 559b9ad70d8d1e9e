import Mathlib.Data.List.Basic

/-! # Calls over a link that loses messages

    A server answers requests one after the other.  A caller reaches it over a
    link on which a request may be lost before the server sees it, or the
    response after the server has acted.

    * `call`   : a call over the link, from which nothing comes back if a
      message is lost.
    * `run`    : what the server answers, and the state that it ends in.
    * `Guards` : a server that acts on what it admits as another one would, and
      on nothing else.

    A guarded server ends where the other one does after what was admitted. -/

namespace LossyCalls

/-- A server: an answer and the next state. -/
abbrev Server (Q A S : Type) : Type := Q → S → A × S

/-- How a call fares on the link. -/
inductive Fate where
  | delivered
  /-- The server never sees the request. -/
  | requestLost
  /-- The server acts, and its response is lost. -/
  | responseLost
  deriving DecidableEq, Repr

/-- The server sees the request. -/
def Fate.arrives : Fate → Bool
  | .delivered | .responseLost => true
  | .requestLost => false

variable {Q Q' A A' S : Type}

/-- A call: what comes back, if anything does. -/
def call (server : Server Q A S) (fate : Fate) (q : Q) (s : S) : Option A × S :=
  match fate with
  | .delivered => (some (server q s).1, (server q s).2)
  | .requestLost => (none, s)
  | .responseLost => (none, (server q s).2)

/-- The answers to some requests, and the state after them. -/
def run (server : Server Q A S) : List Q → S → List A × S
  | [], s => ([], s)
  | q :: qs, s =>
    ((server q s).1 :: (run server qs (server q s).2).1, (run server qs (server q s).2).2)

theorem state_run_append (server : Server Q A S) (qs qs' : List Q) (s : S) :
    (run server (qs ++ qs') s).2 = (run server qs' (run server qs s).2).2 := by
  induction qs generalizing s with
  | nil => rfl
  | cons q qs ih => exact ih _

/-- What holds of every answer holds of every answer of a run. -/
theorem answers_run {server : Server Q A S} {P : Q → A → Prop} (h : ∀ q s, P q (server q s).1)
    (qs : List Q) (s : S) : ∀ p ∈ qs.zip (run server qs s).1, P p.1 p.2 := by
  induction qs generalizing s with
  | nil =>
    intro p hp
    cases hp
  | cons q qs ih =>
    intro p hp
    rcases List.mem_cons.mp hp with rfl | hp
    · exact h q s
    · exact ih _ p hp

/-! ## Guarded servers -/

/-- Nothing is done for what is not admitted, and for what is admitted the
    state changes as it does in the other server. -/
structure Guards (server : Server Q A S) (inner : Server Q' A' S) (admits : Q → Option Q') :
    Prop where
  refused : ∀ q s, admits q = none → (server q s).2 = s
  admitted : ∀ q q' s, admits q = some q' → (server q s).2 = (inner q' s).2

section guards
variable {server : Server Q A S} {inner : Server Q' A' S} {admits : Q → Option Q'}

/-- **State**: what is admitted is acted on once, in order, and nothing else is. -/
theorem Guards.state_run (h : Guards server inner admits) (qs : List Q) (s : S) :
    (run server qs s).2 = (run inner (qs.filterMap admits) s).2 := by
  induction qs generalizing s with
  | nil => rfl
  | cons q qs ih =>
    rw [List.filterMap_cons]
    show (run server qs (server q s).2).2 = _
    cases hq : admits q with
    | none =>
      rw [h.refused q s hq]
      exact ih s
    | some q' =>
      rw [h.admitted q q' s hq]
      exact ih _

/-- **Answers**: to what is admitted the other server's answers are relayed. -/
theorem Guards.answers_run (h : Guards server inner admits) {relay : Q → A' → A}
    (hrelay : ∀ q q' s, admits q = some q' → (server q s).1 = relay q (inner q' s).1)
    (qs : List Q) (s : S) :
    ((qs.zip (run server qs s).1).filterMap fun p => (admits p.1).map fun _ => p.2) =
      (qs.filter fun q => (admits q).isSome).zipWith relay
        (run inner (qs.filterMap admits) s).1 := by
  induction qs generalizing s with
  | nil => rfl
  | cons q qs ih =>
    show ((q, (server q s).1) :: qs.zip (run server qs (server q s).2).1).filterMap _ = _
    rw [List.filterMap_cons, List.filterMap_cons, List.filter_cons]
    cases hq : admits q with
    | none =>
      rw [h.refused q s hq]
      exact ih s
    | some q' =>
      rw [h.admitted q q' s hq, hrelay q q' s hq]
      exact congrArg (relay q (inner q' s).1 :: ·) (ih _)

end guards

end LossyCalls

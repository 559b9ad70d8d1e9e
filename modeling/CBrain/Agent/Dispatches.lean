import CBrain.Agent.Traces
import CBrain.Framework.Tickets
import CBrain.Runtime

/-! # One dispatch for each claim

    Workers with one profile share a run store, in any interleaving, and any of them may
    be cut off between two of its operations.  A claim that succeeds is a ticket: the call
    that won it enters the governed runtime once, and nobody else does.

    * `claims`     : the claims that succeeded, in order.
    * `dispatches` : the claim of each entry into the governed runtime.
    * `recordsOf`  : what was written last for each run.

    A stored record moves one way (`Moves`): its version grows with every write, and a
    step of the run is prepared, claimed and completed at most once. -/

namespace CBrain

open Effect
open Json (Dict)
open Tickets (Reading ledger taken ledger_snoc taken_snoc)

/-! ## Section 1: Claims and dispatches -/

/-- A claim that succeeded. -/
structure Claim where
  run_id : String
  expected_version : Nat
  record : StoredRunRecord

/-- The version of a run that was claimed. -/
def Claim.key (k : Claim) : String × Nat := (k.run_id, k.expected_version)

/-- A claim is taken by the store's answer, and used by `GovernedRuntime.execute`. -/
def dispatchReading : Reading AgentSig.Event Claim where
  takes
    | ⟨.claim run_id n, .ok (some r)⟩ => some ⟨run_id, n, r⟩
    | _ => none
  uses
    | ⟨.execute _ _, _⟩ => true
    | _ => false
  apart := by
    rintro ⟨o, x⟩ h
    cases o <;> first | rfl | cases h

section logs
variable {T : Type}

/-- The claims that succeeded. -/
def claims (log : List (T × AgentSig.Event)) : List Claim := taken dispatchReading log

variable [DecidableEq T]

/-- The claim a call has won and not dispatched yet. -/
def openClaim (log : List (T × AgentSig.Event)) (t : T) : Option Claim :=
  (ledger dispatchReading log).held t

/-- The claim of each `GovernedRuntime.execute`, in order. -/
def dispatches (log : List (T × AgentSig.Event)) : List Claim :=
  (ledger dispatchReading log).used

omit [DecidableEq T] in
/-- The records that were written last. -/
def recordsOf (log : List (T × AgentSig.Event)) : Records :=
  log.foldl (fun m e =>
    match written e.2.1 e.2.2 with
    | some r => Function.update m r.run_id (some r)
    | none => m) fun _ => none

end logs

/-- The governed runtime is entered. -/
def entersRuntime (e : AgentSig.Event) : Bool := dispatchReading.uses e

/-- The governed runtime is entered for a request. -/
def entersFor (request_id : String) : AgentSig.Event → Bool
  | ⟨.execute action _, _⟩ => action.request_id == request_id
  | _ => false

/-! ## Section 2: How a stored record moves -/

/-- What one write makes of the record it finds. -/
inductive Moves : StoredRunRecord → StoredRunRecord → Prop where
  | turn {cur r : StoredRunRecord} (hfrom : cur.durable_state = .running)
      (hto : r.durable_state = .running) (hstep : r.next_step = cur.next_step) : Moves cur r
  | prepare {cur r : StoredRunRecord} (hfrom : cur.durable_state = .running)
      (hto : r.durable_state = .toolPrepared) (hstep : r.next_step = cur.next_step) : Moves cur r
  | claim {cur r : StoredRunRecord} (hfrom : cur.durable_state = .toolPrepared)
      (hto : r.durable_state = .toolInFlight) (hstep : r.next_step = cur.next_step) : Moves cur r
  | complete {cur r : StoredRunRecord} (hfrom : cur.durable_state = .toolInFlight)
      (hto : r.durable_state = .toolCompleted) (hstep : r.next_step = cur.next_step) : Moves cur r
  | advance {cur r : StoredRunRecord} (hfrom : cur.durable_state = .toolCompleted)
      (hto : r.durable_state = .running) (hstep : r.next_step = cur.next_step + 1) : Moves cur r
  | terminal {cur r : StoredRunRecord} (hfrom : cur.durable_state.isTerminal = false)
      (hflight : cur.durable_state ≠ .toolInFlight) (hto : r.durable_state.isTerminal = true) :
      Moves cur r

/-- The step whose claim left `r` is over, or still open as that claim left it. -/
def Passed (r cur : StoredRunRecord) : Prop :=
  r.next_step < cur.next_step ∨ cur.durable_state.isTerminal = true ∨
    (r.next_step = cur.next_step ∧
      (cur.durable_state = .toolInFlight ∨ cur.durable_state = .toolCompleted))

/-- **Step**: a passed step stays passed. -/
theorem Passed.moves {r cur next : StoredRunRecord} (h : Passed r cur) (hmoves : Moves cur next) :
    Passed r next := by
  rcases h with hlt | hterminal | ⟨heq, hstate⟩
  · cases hmoves with
    | turn _ _ hstep | prepare _ _ hstep | claim _ _ hstep | complete _ _ hstep =>
      left
      omega
    | advance _ _ hstep =>
      left
      omega
    | terminal _ _ hto => exact Or.inr (Or.inl hto)
  · -- nothing is written over a terminal record
    cases hmoves with
    | turn hfrom | prepare hfrom | claim hfrom | complete hfrom | advance hfrom =>
      rw [hfrom] at hterminal
      cases hterminal
    | terminal hfrom =>
      rw [hfrom] at hterminal
      cases hterminal
  · cases hmoves with
    | turn hfrom | prepare hfrom | claim hfrom =>
      rw [hfrom] at hstate
      rcases hstate with h | h <;> cases h
    | complete _ hto hstep => exact Or.inr (Or.inr ⟨heq.trans hstep.symm, Or.inr hto⟩)
    | advance _ _ hstep =>
      left
      omega
    | terminal _ _ hto => exact Or.inr (Or.inl hto)

/-- A prepared record is at a later step than any that passed. -/
theorem Passed.lt {r cur : StoredRunRecord} (h : Passed r cur)
    (hstate : cur.durable_state = .toolPrepared) : r.next_step < cur.next_step := by
  rcases h with hlt | hterminal | ⟨-, hopen⟩
  · exact hlt
  · rw [hstate] at hterminal
    cases hterminal
  · rw [hstate] at hopen
    rcases hopen with h | h <;> cases h

theorem Checkpoint.moves {a : FoundationAgent} {input : RunInput} {v : WorkerView}
    {r r' : StoredRunRecord} (h : Checkpoint a input v r r') (version : Nat) :
    Moves r { r' with version := version } := by
  cases h with
  | turn _ hstate => exact Moves.turn hstate rfl rfl
  | prepare _ hstate => exact Moves.prepare hstate rfl rfl
  | complete _ hstate => exact Moves.complete hstate rfl rfl
  | advance _ hstate => exact Moves.advance hstate rfl rfl
  | terminal _ hstate => exact Moves.terminal hstate.1 hstate.2 (terminalState_isTerminal _)

theorem Moves.congr {cur cur' r : StoredRunRecord} (h : Moves cur r) (hsame : cur.SameText cur') :
    Moves cur' r := by
  have hstate : cur.durable_state = cur'.durable_state :=
    hsame.field StoredRunRecord.durable_state fun _ => rfl
  have hstep : cur.next_step = cur'.next_step := hsame.field StoredRunRecord.next_step fun _ => rfl
  cases h with
  | turn hfrom hto h => exact Moves.turn (hstate ▸ hfrom) hto (hstep ▸ h)
  | prepare hfrom hto h => exact Moves.prepare (hstate ▸ hfrom) hto (hstep ▸ h)
  | claim hfrom hto h => exact Moves.claim (hstate ▸ hfrom) hto (hstep ▸ h)
  | complete hfrom hto h => exact Moves.complete (hstate ▸ hfrom) hto (hstep ▸ h)
  | advance hfrom hto h => exact Moves.advance (hstate ▸ hfrom) hto (hstep ▸ h)
  | terminal hfrom hflight hto => exact Moves.terminal (hstate ▸ hfrom) (hstate ▸ hflight) hto

section step
variable {T : Type} {w : Workers T} {C : Condition T} {m m' : Records} {t : T}
  {past : T → List AgentSig.Event} {o : AgentOp} {x : o.Ans}

/-- **Step**: a write moves the record it finds. -/
theorem moves_written (h : C.Holds m past)
    (hallows : Worker.Allows (w.agent t) (w.input t) (callView (past t)) o)
    (hm' : m.Answers o x m') {r cur : StoredRunRecord} (hr : written o x = some r)
    (hcur : m r.run_id = some cur) : Moves cur r := by
  cases o with
  | create r' =>
    cases x with
    | ok u =>
      obtain rfl : r' = r := Option.some.inj hr
      rw [hm'.1] at hcur
      cases hcur
    | error e => cases hr
  | save r' n =>
    cases x with
    | ok saved =>
      obtain rfl : saved = r := Option.some.inj hr
      obtain ⟨hsaved, ⟨found, hfound, hversion⟩, -⟩ := hm'
      obtain ⟨held, hrecord, rfl, hcheckpoint⟩ := hallows
      have hid : r'.run_id = held.run_id := hcheckpoint.run_id
      rw [hsaved] at hcur
      have heq : found = cur := Option.some.inj (hfound.symm.trans hcur)
      -- the call holds the text of what is stored
      obtain ⟨newest, hnewest, -, hsame⟩ := h.current t held hrecord
      rw [← hid, hfound] at hnewest
      obtain rfl := Option.some.inj hnewest
      rw [hsaved, ← heq]
      exact (hcheckpoint.moves _).congr (hsame hversion).symm
    | error e => cases hr
  | claim run_id n =>
    match x, hm', hr with
    | .ok (some claimed), ⟨⟨found, read, hfound, hread, hversion, hstate, hclaimed⟩, _⟩, hr =>
      obtain rfl : claimed = r := Option.some.inj hr
      have hid : read.run_id = found.run_id :=
        hread.sameText.field StoredRunRecord.run_id fun _ => rfl
      have hkeyed : found.run_id = run_id := h.keyed run_id found hfound
      have hstep : read.next_step = found.next_step :=
        hread.sameText.field StoredRunRecord.next_step fun _ => rfl
      have hrun : claimed.run_id = run_id := by
        rw [hclaimed]
        exact hid.trans hkeyed
      rw [hrun, hfound] at hcur
      obtain rfl := Option.some.inj hcur
      rw [hclaimed]
      exact Moves.claim hstate rfl hstep
    | .ok none, _, hr => cases hr
    | .error e, _, hr => cases hr
  | clock | wallClock | cancelled | newRunId | retrieve _ | complete _ _ _ _ | execute _ _
  | load _ => cases hr

/-- What an answered claim says. -/
theorem claim_answers (hkeyed : m.Keyed) {run_id : String} {n : Nat} {r : StoredRunRecord}
    (h : m.Answers (.claim run_id n) (.ok (some r)) m') :
    r.run_id = run_id ∧ r.version = n + 1 ∧ r.durable_state = .toolInFlight ∧
      m' = Function.update m run_id (some r) ∧
      ∃ cur, m run_id = some cur ∧ cur.version = n ∧ cur.durable_state = .toolPrepared ∧
        r.next_step = cur.next_step := by
  obtain ⟨⟨cur, read, hcur, hread, hversion, hstate, rfl⟩, hm'⟩ := h
  have hid : read.run_id = cur.run_id := hread.sameText.field StoredRunRecord.run_id fun _ => rfl
  have hstep : read.next_step = cur.next_step :=
    hread.sameText.field StoredRunRecord.next_step fun _ => rfl
  exact ⟨hid.trans (hkeyed run_id cur hcur), rfl, rfl, hm', cur, hcur, hversion, hstate, hstep⟩

end step

/-! ## Section 3: The request of a record -/

/-- The pending action of a record that is to be dispatched is the one it names. -/
def NamesAction (r : StoredRunRecord) : Prop :=
  r.durable_state = .toolPrepared ∨ r.durable_state = .toolInFlight →
    ∃ action, restoreAction r = .ok action ∧ r.pending_request_id = some action.request_id

/-- A record between steps has no request, and one within a step has the step's. -/
structure NumberedTurn (f : String → Nat → String) (r : StoredRunRecord) : Prop where
  between : r.durable_state = .running → r.pending_request_id = none
  within : r.durable_state = .toolPrepared ∨ r.durable_state = .toolInFlight →
    r.pending_request_id = some (f r.run_id r.next_step)

/-- The condition on records.  Request ids are numbered where all workers have one
    factory. -/
def requestCondition (T : Type) (f : Option (String → Nat → String)) : Condition T where
  J := fun r => NamesAction r ∧ ∀ g, f = some g → NumberedTurn g r
  K := fun _ _ => True
  G := fun _ _ => True
  reloaded := fun _ h => ⟨h.1, fun g hg => ⟨(h.2 g hg).between, (h.2 g hg).within⟩⟩
  claimed := by
    intro r hstate h
    refine ⟨fun _ => h.1 (Or.inl hstate), fun g hg => ⟨?_, fun _ => (h.2 g hg).within (Or.inl hstate)⟩⟩
    intro hrunning
    cases hrunning
  start := fun _ => trivial
  earlier := fun _ _ _ _ => trivial

theorem request_opening {a : FoundationAgent} {input : RunInput} {r : StoredRunRecord}
    (h : Opening a input r) : NamesAction r ∧ ∀ g, NumberedTurn g r := by
  obtain ⟨run_id, started, expires, opening, event, durable_input, -, -, -, -, rfl⟩ := h
  constructor
  · intro hstate
    rcases hstate with hs | hs <;> cases hs
  · refine fun g => ⟨fun _ => rfl, ?_⟩
    intro hstate
    rcases hstate with hs | hs <;> cases hs

/-- The action of a prepared record is the captured one. -/
theorem namesAction_prepared {a : FoundationAgent} {r : StoredRunRecord} {es : List RunEvent}
    {ms : List Message} {tool : GovernedTool} {call : ToolCall} {request_id : String}
    {timestamp : Decimal} {action : ActionIntent} (version : Nat)
    (haction : captureAction a tool r.run_id call request_id timestamp = .ok action) :
    NamesAction { preparedRecord a r es ms tool call request_id action.timestamp with
      version := version } := by
  intro _
  refine ⟨action, ?_, congrArg some (ActionIntent.capture_fields haction).1.symm⟩
  have htime := (ActionIntent.capture_fields haction).2.2
  unfold captureAction at haction
  rw [← htime] at haction
  exact restoreAction_pending rfl haction

theorem requestIdFor_none {a : FoundationAgent} {r : StoredRunRecord}
    (h : r.pending_request_id = none) :
    requestIdFor a r = a.request_id_factory r.run_id r.next_step := by
  unfold requestIdFor
  rw [h]

/-- **Checkpoint lemma**: what each save does to the request. -/
theorem request_checkpoint {a : FoundationAgent} {input : RunInput} {v : WorkerView}
    {r r' : StoredRunRecord} {f : Option (String → Nat → String)}
    (hf : ∀ g, f = some g → a.request_id_factory = g) (h : ∀ g, f = some g → NumberedTurn g r)
    (hcheckpoint : Checkpoint a input v r r') (version : Nat) :
    NamesAction { r' with version := version } ∧
      ∀ g, f = some g → NumberedTurn g { r' with version := version } := by
  -- a record that is not to be dispatched satisfies the first part
  have hidle {r : StoredRunRecord} (hp : r.durable_state ≠ .toolPrepared)
      (hq : r.durable_state ≠ .toolInFlight) : NamesAction r := by
    intro hstate
    rcases hstate with hs | hs
    · exact absurd hs hp
    · exact absurd hs hq
  cases hcheckpoint with
  | turn _ hstate =>
    refine ⟨hidle (by simp [turnRecord, StoredRunRecord.update])
      (by simp [turnRecord, StoredRunRecord.update]), fun g hg => ⟨?_, ?_⟩⟩
    · intro _
      exact (h g hg).between hstate
    · intro hs
      rcases hs with hs | hs <;> cases hs
  | prepare _ hstate _ _ _ haction =>
    refine ⟨namesAction_prepared _ haction, fun g hg => ⟨?_, ?_⟩⟩
    · intro hs
      cases hs
    · intro _
      have hid := requestIdFor_none (a := a) ((h g hg).between hstate)
      rw [hf g hg] at hid
      exact congrArg some hid
  | complete =>
    refine ⟨hidle (by simp [completedRecord, StoredRunRecord.update])
      (by simp [completedRecord, StoredRunRecord.update]), fun g hg => ⟨?_, ?_⟩⟩
    · intro hs
      cases hs
    · intro hs
      rcases hs with hs | hs <;> cases hs
  | advance =>
    refine ⟨hidle (by simp [advancedRecord, StoredRunRecord.update])
      (by simp [advancedRecord, StoredRunRecord.update]), fun g hg => ⟨fun _ => rfl, ?_⟩⟩
    intro hs
    rcases hs with hs | hs <;> cases hs
  | @terminal es ms status final_text metadata =>
    have hterminal := terminalState_isTerminal status
    refine ⟨hidle ?_ ?_, fun g hg => ⟨?_, ?_⟩⟩
    · intro hs
      rw [show terminalState status = .toolPrepared from hs] at hterminal
      cases hterminal
    · intro hs
      rw [show terminalState status = .toolInFlight from hs] at hterminal
      cases hterminal
    · intro _
      rfl
    · intro hs
      rcases hs with hs | hs
      · rw [show terminalState status = .toolPrepared from hs] at hterminal
        cases hterminal
      · rw [show terminalState status = .toolInFlight from hs] at hterminal
        cases hterminal

theorem requestCondition_kept {T : Type} {w : Workers T} {f : Option (String → Nat → String)}
    (hf : ∀ g, f = some g → ∀ t, (w.agent t).request_id_factory = g) :
    (requestCondition T f).KeptBy w := by
  apply Condition.KeptBy.of
  · intro t past r _ _ hopening _
    have h := request_opening hopening
    exact ⟨⟨h.1, fun g _ => h.2 g⟩, trivial⟩
  · intro t past r r' _ _ hJ hcheckpoint
    exact ⟨request_checkpoint (fun g hg => hf g hg t) hJ.2 hcheckpoint _, trivial⟩
  · exact fun _ _ _ _ _ _ _ _ _ => trivial
  · exact fun _ _ _ _ _ _ _ _ _ _ => trivial

/-! ## Section 4: The invariant of a run -/

theorem takes_eq_some {e : AgentSig.Event} {k : Claim} :
    dispatchReading.takes e = some k ↔
      e = ⟨.claim k.run_id k.expected_version, .ok (some k.record)⟩ := by
  constructor
  · intro h
    obtain ⟨o, x⟩ := e
    cases o with
    | claim run_id n =>
      match x, h with
      | .ok (some r), h =>
        obtain rfl := Option.some.inj h
        rfl
      | .ok none, h => cases h
      | .error e, h => cases h
    | _ => cases h
  · rintro rfl
    rfl

section runs
variable {T : Type}

theorem recordsOf_snoc (log : List (T × AgentSig.Event)) (t : T) (e : AgentSig.Event) :
    recordsOf (log ++ [(t, e)]) =
      match written e.1 e.2 with
      | some r => Function.update (recordsOf log) r.run_id (some r)
      | none => recordsOf log := by
  unfold recordsOf
  rw [List.foldl_append]
  rfl

theorem claims_snoc (log : List (T × AgentSig.Event)) (t : T) (e : AgentSig.Event) :
    claims (log ++ [(t, e)]) = claims log ++ (dispatchReading.takes e).toList := taken_snoc log t e

theorem mem_claims_snoc {log : List (T × AgentSig.Event)} {t : T} {e : AgentSig.Event} {k : Claim}
    (h : k ∈ claims (log ++ [(t, e)])) : k ∈ claims log ∨ dispatchReading.takes e = some k := by
  rw [claims_snoc, List.mem_append, Option.mem_toList] at h
  exact h

/-- The place of an event in a history that is one event longer. -/
theorem split_snoc {α : Type} {log pre post : List α} {a b : α}
    (h : log ++ [a] = pre ++ b :: post) :
    (pre = log ∧ b = a) ∨ ∃ post', log = pre ++ b :: post' := by
  rcases List.eq_nil_or_concat post with rfl | ⟨post', c, rfl⟩
  · obtain ⟨hpre, hlast⟩ := List.append_inj' h rfl
    exact Or.inl ⟨hpre.symm, (List.cons.inj hlast).1.symm⟩
  · right
    rw [List.concat_eq_append, ← List.cons_append, ← List.append_assoc] at h
    exact ⟨post', (List.append_inj' h rfl).1⟩

/-- The record of a dispatch that a call has claimed. -/
def Phase.InFlight (p : Phase) (r : StoredRunRecord) : Prop :=
  (∃ resumed, p = .claimed r resumed) ∨ ∃ execution resumed, p = .executed r execution resumed

variable [DecidableEq T]

/-- The governed runtime is entered for the claim that its call has open. -/
def Entered (log : List (T × AgentSig.Event)) : Prop :=
  ∀ pre t action tool x post, log = pre ++ (t, ⟨.execute action tool, x⟩) :: post →
    ∃ k, openClaim pre t = some k ∧ restoreAction k.record = .ok action ∧
      k.record.pending_request_id = some action.request_id

/-- A record in flight is written over only by the call that claimed it. -/
def LeftByClaimant (log : List (T × AgentSig.Event)) : Prop :=
  ∀ pre t o x post r cur, log = pre ++ (t, ⟨o, x⟩) :: post → written o x = some r →
    recordsOf pre r.run_id = some cur → cur.durable_state = .toolInFlight →
    ∃ run_id n, (t, ⟨.claim run_id n, .ok (some cur)⟩) ∈ pre

/-- What holds of records and history throughout. -/
structure Dispatching (f : Option (String → Nat → String)) (m : Records)
    (log : List (T × AgentSig.Event)) : Prop where
  records : recordsOf log = m
  newest : ∀ t e r, (t, e) ∈ log → written e.1 e.2 = some r →
    ∃ cur, m r.run_id = some cur ∧ r.version ≤ cur.version ∧ (r.version = cur.version → r = cur)
  claimed : ∀ k ∈ claims log, ∃ cur, m k.run_id = some cur ∧ k.expected_version < cur.version ∧
    Passed k.record cur
  named : ∀ k ∈ claims log, ∀ g, f = some g →
    k.record.pending_request_id = some (g k.run_id k.record.next_step)
  once : ((claims log).map Claim.key).Nodup
  steps : ((claims log).map fun k => (k.run_id, k.record.next_step)).Nodup
  opened : ∀ t r resumed, (callView (ofThread t log)).phase = .claimed r resumed →
    ∃ k, openClaim log t = some k ∧ k.record = r
  flight : ∀ t r, (callView (ofThread t log)).phase.InFlight r →
    ∃ run_id n, (t, ⟨.claim run_id n, .ok (some r)⟩) ∈ log
  entered : Entered log
  left_by : LeftByClaimant log

theorem dispatching_start (f : Option (String → Nat → String)) :
    Dispatching (T := T) f (fun _ => none) [] where
  records := rfl
  newest := fun _ _ _ h => nomatch h
  claimed := fun _ h => nomatch h
  named := fun _ h => nomatch h
  once := List.nodup_nil
  steps := List.nodup_nil
  opened := fun _ _ _ h => nomatch h
  flight := by
    rintro t r (⟨_, h⟩ | ⟨_, _, h⟩) <;> cases h
  entered := fun pre t action tool x post h => by simp at h
  left_by := fun pre t o x post r cur h => by simp at h

variable {w : Workers T} {f : Option (String → Nat → String)} {m m' : Records}
  {log : List (T × AgentSig.Event)} {t : T} {o : AgentOp} {x : o.Ans}

/-- What is stored stays, or is moved to a newer version. -/
theorem stored_next {C : Condition T} (h : C.Holds m fun u => ofThread u log)
    (hallows : Worker.Allows (w.agent t) (w.input t) (callView (ofThread t log)) o)
    (hm' : m.Answers o x m') {run_id : String} {cur : StoredRunRecord}
    (hcur : m run_id = some cur) :
    m' run_id = some cur ∨ ∃ next, m' run_id = some next ∧ written o x = some next ∧
      cur.version < next.version ∧ Moves cur next := by
  rcases hm'.cases h.keyed with ⟨-, rfl⟩ | ⟨r, hr, rfl, hnewer⟩
  · exact Or.inl hcur
  · by_cases hid : run_id = r.run_id
    · subst hid
      refine Or.inr ⟨r, Function.update_self .., hr, hnewer cur hcur, ?_⟩
      exact moves_written h hallows hm' hr hcur
    · exact Or.inl (by rw [Function.update_of_ne hid]; exact hcur)

theorem Dispatching.newest_next {C : Condition T} (hI : Dispatching f m log)
    (h : C.Holds m fun u => ofThread u log)
    (hallows : Worker.Allows (w.agent t) (w.input t) (callView (ofThread t log)) o)
    (hm' : m.Answers o x m') :
    ∀ u e r, (u, e) ∈ log ++ [(t, ⟨o, x⟩)] → written e.1 e.2 = some r →
      ∃ cur, m' r.run_id = some cur ∧ r.version ≤ cur.version ∧
        (r.version = cur.version → r = cur) := by
  intro u e r hmem hr
  rcases List.mem_append.mp hmem with hold | hnew
  · obtain ⟨cur, hcur, hle, hsame⟩ := hI.newest u e r hold hr
    rcases stored_next h hallows hm' hcur with hkept | ⟨next, hnext, -, hlt, -⟩
    · exact ⟨cur, hkept, hle, hsame⟩
    · refine ⟨next, hnext, by omega, ?_⟩
      intro heq
      omega
  · obtain ⟨-, rfl⟩ := Prod.mk.inj (List.mem_singleton.mp hnew)
    rcases hm'.cases h.keyed with ⟨hnone, -⟩ | ⟨r', hr', rfl, -⟩
    · rw [hr] at hnone
      cases hnone
    · obtain rfl := Option.some.inj (hr.symm.trans hr')
      exact ⟨r, Function.update_self .., le_rfl, fun _ => rfl⟩

/-- A claim that is taken in this step. -/
theorem claim_taken (hkeyed : m.Keyed) (hm' : m.Answers o x m') {k : Claim}
    (hk : dispatchReading.takes ⟨o, x⟩ = some k) :
    k.record.run_id = k.run_id ∧ k.record.version = k.expected_version + 1 ∧
      k.record.durable_state = .toolInFlight ∧ m' k.run_id = some k.record ∧
      ∃ cur, m k.run_id = some cur ∧ cur.version = k.expected_version ∧
        cur.durable_state = .toolPrepared ∧ k.record.next_step = cur.next_step := by
  obtain ⟨rfl, hx⟩ := Sigma.mk.inj (takes_eq_some.mp hk)
  obtain rfl := eq_of_heq hx
  obtain ⟨hid, hversion, hstate, rfl, hfound⟩ := claim_answers hkeyed hm'
  exact ⟨hid, hversion, hstate, Function.update_self .., hfound⟩

theorem Dispatching.claimed_next {C : Condition T} (hI : Dispatching f m log)
    (h : C.Holds m fun u => ofThread u log)
    (hallows : Worker.Allows (w.agent t) (w.input t) (callView (ofThread t log)) o)
    (hm' : m.Answers o x m') :
    ∀ k ∈ claims (log ++ [(t, ⟨o, x⟩)]), ∃ cur, m' k.run_id = some cur ∧
      k.expected_version < cur.version ∧ Passed k.record cur := by
  intro k hk
  rcases mem_claims_snoc hk with hold | hnew
  · obtain ⟨cur, hcur, hlt, hpassed⟩ := hI.claimed k hold
    rcases stored_next h hallows hm' hcur with hkept | ⟨next, hnext, -, hnewer, hmoves⟩
    · exact ⟨cur, hkept, hlt, hpassed⟩
    · exact ⟨next, hnext, by omega, hpassed.moves hmoves⟩
  · obtain ⟨-, hversion, hstate, hm, -⟩ := claim_taken h.keyed hm' hnew
    exact ⟨k.record, hm, by omega, Or.inr (Or.inr ⟨rfl, Or.inl hstate⟩)⟩

/-- A claim is of a version and a step that no claim before it was of. -/
theorem Dispatching.fresh (hI : Dispatching f m log) (hkeyed : m.Keyed) (hm' : m.Answers o x m')
    {k : Claim} (hk : dispatchReading.takes ⟨o, x⟩ = some k) :
    ∀ k' ∈ claims log, k'.run_id = k.run_id →
      k'.expected_version < k.expected_version ∧ k'.record.next_step < k.record.next_step := by
  intro k' hk' hrun
  obtain ⟨-, -, -, -, cur, hcur, hversion, hprepared, hstep⟩ := claim_taken hkeyed hm' hk
  obtain ⟨cur', hcur', hlt, hpassed⟩ := hI.claimed k' hk'
  rw [hrun, hcur] at hcur'
  obtain rfl := Option.some.inj hcur'
  refine ⟨by omega, ?_⟩
  rw [hstep]
  exact hpassed.lt hprepared

theorem Dispatching.once_next (hI : Dispatching f m log) (hkeyed : m.Keyed)
    (hm' : m.Answers o x m') {κ : Type} (key : Claim → κ) (hlog : ((claims log).map key).Nodup)
    (hkey : ∀ k k', key k' = key k → k'.run_id = k.run_id ∧
      (k'.expected_version = k.expected_version ∨ k'.record.next_step = k.record.next_step)) :
    ((claims (log ++ [(t, ⟨o, x⟩)])).map key).Nodup := by
  rw [claims_snoc, List.map_append, List.nodup_append]
  refine ⟨hlog, ?_, ?_⟩
  · cases dispatchReading.takes ⟨o, x⟩ <;> simp
  · intro y hy z hz heq
    obtain ⟨k', hk', rfl⟩ := List.mem_map.mp hy
    obtain ⟨k, hk, rfl⟩ := List.mem_map.mp hz
    rw [Option.mem_toList] at hk
    obtain ⟨hrun, hsame⟩ := hkey k k' heq
    obtain ⟨hversion, hstep⟩ := hI.fresh hkeyed hm' hk k' hk' hrun
    omega

/-- A call has a dispatch in flight because it claims it now, or had it before. -/
theorem next_inFlight {v : WorkerView} {r : StoredRunRecord}
    (h : (Worker.next v o x).phase.InFlight r) :
    (∃ k, dispatchReading.takes ⟨o, x⟩ = some k ∧ k.record = r) ∨ v.phase.InFlight r := by
  have hclaimed {s : StoredRunRecord} {resumed : Bool} (h : (Phase.claimed s resumed).InFlight r) :
      s = r := by
    rcases h with ⟨_, h⟩ | ⟨_, _, h⟩
    · exact (Phase.claimed.inj h).1
    · cases h
  have hnot {p : Phase} (hp : ∀ resumed, p ≠ .claimed r resumed)
      (hq : ∀ execution resumed, p ≠ .executed r execution resumed) (h : p.InFlight r) : False := by
    rcases h with ⟨resumed, h⟩ | ⟨execution, resumed, h⟩
    · exact hp resumed h
    · exact hq execution resumed h
  cases o with
  | clock | wallClock | cancelled | newRunId | retrieve _ => exact Or.inr h
  | complete route ms tools n =>
    right
    cases x with
    | error e => exact h
    | ok output =>
      cases hr : v.phase.record? with
      | none =>
        simp only [Worker.next, hr] at h
        exact h
      | some s =>
        simp only [Worker.next, hr] at h
        exact absurd h (hnot (by simp) (by simp))
  | execute action tool =>
    right
    cases hp : v.phase <;> simp only [Worker.next, hp] at h
    case claimed s resumed =>
      rcases h with ⟨_, h⟩ | ⟨_, _, h⟩
      · cases h
      · exact Or.inl ⟨resumed, by rw [(Phase.executed.inj h).1]⟩
    all_goals exact h
  | create s =>
    right
    cases x with
    | error e => exact h
    | ok u => exact absurd h (hnot (by simp [Worker.next]) (by simp [Worker.next]))
  | load run_id =>
    right
    cases x <;> cases hp : v.phase <;> simp only [Worker.next, hp] at h
    all_goals first
      | exact h
      | exact absurd h (hnot (by simp) (by simp))
  | save s n =>
    right
    cases x with
    | error e => exact h
    | ok saved =>
      have hsaved : (v.phase.saved saved).InFlight r := h
      unfold Phase.saved at hsaved
      split at hsaved
      · exact absurd hsaved (hnot (by simp) (by simp))
      · cases hp : v.phase <;> rw [hp] at hsaved
        all_goals first
          | exact hsaved
          | exact absurd hsaved (hnot (by simp) (by simp))
  | claim run_id n =>
    cases x with
    | error e => exact Or.inr h
    | ok answer =>
      cases answer with
      | none => exact absurd h (hnot (by simp [Worker.next]) (by simp [Worker.next]))
      | some s =>
        left
        refine ⟨⟨run_id, n, s⟩, rfl, ?_⟩
        cases hp : v.phase <;> simp only [Worker.next, hp] at h
        all_goals exact hclaimed h

/-- What an executed dispatch becomes without a new claim. -/
theorem next_executed {v : WorkerView} {r : StoredRunRecord} {execution : GovernedExecution}
    {resumed : Bool} (hphase : v.phase = .executed r execution resumed)
    (htakes : dispatchReading.takes ⟨o, x⟩ = none) (s : StoredRunRecord) (again : Bool) :
    (Worker.next v o x).phase ≠ .claimed s again := by
  cases o with
  | clock | wallClock | cancelled | newRunId | retrieve _ => simp [Worker.next, hphase]
  | complete route ms tools n => cases x <;> simp [Worker.next, hphase, Phase.record?]
  | execute action tool => simp [Worker.next, hphase]
  | create record => cases x <;> simp [Worker.next, hphase]
  | load run_id => cases x <;> simp [Worker.next, hphase]
  | save record n =>
    cases x with
    | error e => simp [Worker.next, hphase]
    | ok saved =>
      show v.phase.saved saved ≠ _
      rw [hphase]
      unfold Phase.saved
      split
      · simp
      · simp
  | claim run_id n =>
    cases x with
    | error e => simp [Worker.next, hphase]
    | ok answer =>
      cases answer with
      | none => simp [Worker.next]
      | some record => cases htakes

/-- A call has an open claim because it wins it now, or had it and did something else. -/
theorem next_claimed {v : WorkerView} {r : StoredRunRecord} {resumed : Bool}
    (h : (Worker.next v o x).phase = .claimed r resumed) :
    (∃ k, dispatchReading.takes ⟨o, x⟩ = some k ∧ k.record = r) ∨
      ((∃ resumed, v.phase = .claimed r resumed) ∧ dispatchReading.takes ⟨o, x⟩ = none ∧
        dispatchReading.uses ⟨o, x⟩ = false) := by
  cases htakes : dispatchReading.takes ⟨o, x⟩ with
  | some k =>
    left
    obtain ⟨rfl, hx⟩ := Sigma.mk.inj (takes_eq_some.mp htakes)
    obtain rfl := eq_of_heq hx
    refine ⟨k, rfl, ?_⟩
    cases hp : v.phase <;> simp only [Worker.next, hp] at h
    all_goals exact (Phase.claimed.inj h).1
  | none =>
    right
    rcases next_inFlight (Or.inl ⟨resumed, h⟩) with ⟨k, hk, -⟩ | ⟨before, hp⟩ | ⟨execution, before, hp⟩
    · rw [htakes] at hk
      cases hk
    · refine ⟨⟨before, hp⟩, rfl, ?_⟩
      cases o with
      | execute action tool =>
        simp only [Worker.next, hp] at h
        cases h
      | _ => rfl
    · exact absurd h (next_executed hp htakes r resumed)

theorem Dispatching.opened_next (hI : Dispatching f m log) :
    ∀ u r resumed,
      (callView (ofThread u (log ++ [(t, ⟨o, x⟩)]))).phase = .claimed r resumed →
      ∃ k, openClaim (log ++ [(t, ⟨o, x⟩)]) u = some k ∧ k.record = r := by
  intro u r resumed hphase
  unfold openClaim
  rw [ledger_snoc]
  by_cases hu : u = t
  · subst hu
    rw [ofThread_self, callView_snoc] at hphase
    rcases next_claimed hphase with ⟨k, hk, hrecord⟩ | ⟨⟨before, hp⟩, htakes, huses⟩
    · refine ⟨k, ?_, hrecord⟩
      rw [Tickets.enter_takes hk]
      exact Function.update_self ..
    · rw [Tickets.enter_other htakes huses]
      exact hI.opened u r before hp
  · rw [ofThread_other (Ne.symm hu)] at hphase
    rw [Tickets.enter_held_of_ne hu]
    exact hI.opened u r resumed hphase

theorem Dispatching.flight_next (hI : Dispatching f m log) :
    ∀ u r, (callView (ofThread u (log ++ [(t, ⟨o, x⟩)]))).phase.InFlight r →
      ∃ run_id n, (u, ⟨.claim run_id n, .ok (some r)⟩) ∈ log ++ [(t, ⟨o, x⟩)] := by
  intro u r hphase
  by_cases hu : u = t
  · subst hu
    rw [ofThread_self, callView_snoc] at hphase
    rcases next_inFlight hphase with ⟨k, hk, rfl⟩ | hbefore
    · refine ⟨k.run_id, k.expected_version, List.mem_append_right _ ?_⟩
      rw [takes_eq_some.mp hk]
      exact List.mem_cons_self
    · obtain ⟨run_id, n, hmem⟩ := hI.flight u r hbefore
      exact ⟨run_id, n, List.mem_append_left _ hmem⟩
  · rw [ofThread_other (Ne.symm hu)] at hphase
    obtain ⟨run_id, n, hmem⟩ := hI.flight u r hphase
    exact ⟨run_id, n, List.mem_append_left _ hmem⟩

theorem Dispatching.entered_next (hI : Dispatching f m log)
    (hheld : (requestCondition T f).Held (ofThread t log))
    (hallows : Worker.Allows (w.agent t) (w.input t) (callView (ofThread t log)) o) :
    Entered (log ++ [(t, ⟨o, x⟩)]) := by
  intro pre u action tool y post hlog
  rcases split_snoc hlog with ⟨rfl, hevent⟩ | ⟨post', hbefore⟩
  · obtain ⟨rfl, hop⟩ := Prod.mk.inj hevent
    obtain ⟨rfl, -⟩ := Sigma.mk.inj hop
    obtain ⟨r, resumed, hphase, hstate, hrestore, -⟩ := hallows
    obtain ⟨k, hk, rfl⟩ := hI.opened u r resumed hphase
    have hrecord : (callView (ofThread u pre)).phase.record? = some k.record := by
      rw [hphase]
      rfl
    obtain ⟨action', hrestore', hrequest⟩ := (hheld k.record hrecord).1 (Or.inr hstate)
    obtain rfl := Except.ok.inj (hrestore.symm.trans hrestore')
    exact ⟨k, hk, hrestore, hrequest⟩
  · exact hI.entered pre u action tool y post' hbefore

/-- A call writes over a record in flight only if it is in flight for that call. -/
theorem inFlight_of_written {C : Condition T} (h : C.Holds m fun u => ofThread u log)
    (hallows : Worker.Allows (w.agent t) (w.input t) (callView (ofThread t log)) o)
    (hm' : m.Answers o x m') {r cur : StoredRunRecord} (hr : written o x = some r)
    (hcur : m r.run_id = some cur) (hstate : cur.durable_state = .toolInFlight) :
    ∃ held, (callView (ofThread t log)).phase.InFlight held ∧ held.run_id = r.run_id ∧
      held.version = cur.version := by
  cases o with
  | create r' =>
    cases x with
    | ok u =>
      obtain rfl : r' = r := Option.some.inj hr
      rw [hm'.1] at hcur
      cases hcur
    | error e => cases hr
  | save r' n =>
    cases x with
    | ok saved =>
      obtain rfl : saved = r := Option.some.inj hr
      obtain ⟨hsaved, ⟨found, hfound, hversion⟩, -⟩ := hm'
      obtain ⟨held, hrecord, rfl, hcheckpoint⟩ := hallows
      have hid : r'.run_id = held.run_id := hcheckpoint.run_id
      rw [hsaved] at hcur
      obtain rfl : found = cur := Option.some.inj (hfound.symm.trans hcur)
      obtain ⟨newest, hnewest, -, hsame⟩ := h.current t held hrecord
      rw [← hid, hfound] at hnewest
      obtain rfl := Option.some.inj hnewest
      have hheld : held.durable_state = .toolInFlight :=
        ((hsame hversion).symm.field StoredRunRecord.durable_state fun _ => rfl).trans hstate
      refine ⟨held, ?_, by rw [hsaved]; exact hid.symm, hversion.symm⟩
      cases hcheckpoint with
      | complete hphase => exact Or.inr ⟨_, _, hphase⟩
      | turn _ hrunning | prepare _ hrunning | advance _ hrunning =>
        rw [hheld] at hrunning
        cases hrunning
      | terminal _ hflight => exact absurd hheld hflight.2
    | error e => cases hr
  | claim run_id n =>
    match x, hm', hr with
    | .ok (some claimed), hm', hr =>
      obtain rfl : claimed = r := Option.some.inj hr
      obtain ⟨hid, -, -, -, found, hfound, -, hprepared, -⟩ := claim_answers h.keyed hm'
      rw [hid, hfound] at hcur
      obtain rfl := Option.some.inj hcur
      rw [hprepared] at hstate
      cases hstate
    | .ok none, _, hr => cases hr
    | .error e, _, hr => cases hr
  | clock | wallClock | cancelled | newRunId | retrieve _ | complete _ _ _ _ | execute _ _
  | load _ => cases hr

theorem Dispatching.left_next {C : Condition T} (hI : Dispatching f m log)
    (h : C.Holds m fun u => ofThread u log)
    (hallows : Worker.Allows (w.agent t) (w.input t) (callView (ofThread t log)) o)
    (hm' : m.Answers o x m') : LeftByClaimant (log ++ [(t, ⟨o, x⟩)]) := by
  intro pre u o' x' post r cur hlog hr hcur hstate
  rcases split_snoc hlog with ⟨rfl, hevent⟩ | ⟨post', hbefore⟩
  · obtain ⟨rfl, hop⟩ := Prod.mk.inj hevent
    obtain ⟨rfl, hx⟩ := Sigma.mk.inj hop
    obtain rfl := eq_of_heq hx
    rw [hI.records] at hcur
    obtain ⟨held, hphase, hid, hversion⟩ := inFlight_of_written h hallows hm' hr hcur hstate
    obtain ⟨run_id, n, hmem⟩ := hI.flight u held hphase
    -- the claim wrote that version, and no other write did
    obtain ⟨cur', hcur', -, hsame⟩ := hI.newest u _ held hmem rfl
    rw [hid, hcur] at hcur'
    obtain rfl := Option.some.inj hcur'
    obtain rfl := hsame hversion
    exact ⟨run_id, n, hmem⟩
  · exact hI.left_by pre u o' x' post' r cur hbefore hr hcur hstate

/-- **Step lemma**. -/
theorem Dispatching.step (hI : Dispatching f m log)
    (h : (requestCondition T f).Holds m fun u => ofThread u log)
    (hallows : Worker.Allows (w.agent t) (w.input t) (callView (ofThread t log)) o)
    (hm' : m.Answers o x m') : Dispatching f m' (log ++ [(t, ⟨o, x⟩)]) where
  records := by
    rw [recordsOf_snoc, hI.records]
    rcases hm'.cases h.keyed with ⟨hnone, rfl⟩ | ⟨r, hr, rfl, -⟩
    · rw [hnone]
    · rw [hr]
  newest := hI.newest_next h hallows hm'
  claimed := hI.claimed_next h hallows hm'
  named := by
    intro k hk g hg
    rcases mem_claims_snoc hk with hold | hnew
    · exact hI.named k hold g hg
    · obtain ⟨hid, -, hstate, -, -⟩ := claim_taken h.keyed hm' hnew
      have hgiven : given o x = some k.record := by
        obtain ⟨rfl, hx⟩ := Sigma.mk.inj (takes_eq_some.mp hnew)
        obtain rfl := eq_of_heq hx
        rfl
      have hJ := (requestCondition T f).ofGiven (h.good fun _ => trivial).1 hm' hgiven
      rw [← hid]
      exact (hJ.2 g hg).within (Or.inr hstate)
  once := hI.once_next h.keyed hm' Claim.key hI.once fun k k' hkey =>
    ⟨(Prod.mk.inj hkey).1, Or.inl (Prod.mk.inj hkey).2⟩
  steps := hI.once_next h.keyed hm' _ hI.steps fun k k' hkey =>
    ⟨(Prod.mk.inj hkey).1, Or.inr (Prod.mk.inj hkey).2⟩
  opened := hI.opened_next
  flight := hI.flight_next
  entered := hI.entered_next ((h.good fun _ => trivial).2 t).2 hallows
  left_by := hI.left_next h hallows hm'

/-- **Run lemma**. -/
theorem Workers.Reachable.dispatching {store : LawfulRunStore}
    {c : Config AgentSig T store.State (Except Exn RunResult)} (hc : w.Reachable store c)
    (hf : ∀ g, f = some g → ∀ t, (w.agent t).request_id_factory = g) :
    store.Represents (recordsOf c.log) c.shared ∧ Dispatching f (recordsOf c.log) c.log := by
  obtain ⟨m, hm, -, hI⟩ := hc.tracks (requestCondition_kept hf)
    (I := fun m _ log => Dispatching f m log) (dispatching_start f)
    fun m s log t o x m' s' h _ hI hallows _ hm' _ _ => hI.step h hallows hm'
  rw [← hI.records] at hm hI
  exact ⟨hm, hI⟩

/-! ## Section 5: The law -/

/-- As many dispatches are for a request as the runtime is entered for it. -/
theorem Dispatching.countP_entersFor (hI : Dispatching f m log) (request_id : String) :
    ((dispatches log).countP fun k => k.record.pending_request_id == some request_id) =
      log.countP fun e => entersFor request_id e.2 := by
  apply Tickets.used_countP
  · rintro ⟨o, x⟩ he
    cases o <;> first | rfl | cases he
  · rintro pre t ⟨o, x⟩ post hlog huses
    cases o with
    | execute action tool =>
      obtain ⟨k, hk, -, hrequest⟩ := hI.entered pre t action tool x post hlog
      refine ⟨k, hk, ?_⟩
      rw [hrequest]
      rfl
    | _ => cases huses

theorem Dispatching.length_dispatches (hI : Dispatching f m log) :
    (dispatches log).length = log.countP fun e => entersRuntime e.2 := by
  rw [← List.countP_true]
  apply Tickets.used_countP
  · exact fun _ he => he
  · rintro pre t ⟨o, x⟩ post hlog huses
    cases o with
    | execute action tool =>
      obtain ⟨k, hk, -, -⟩ := hI.entered pre t action tool x post hlog
      exact ⟨k, hk, rfl⟩
    | _ => cases huses

omit [DecidableEq T] in
/-- Of elements that differ in a key, at most one has a given key. -/
theorem countP_le_one {α κ : Type} {key : α → κ} {l : List α} (h : (l.map key).Nodup)
    {p : α → Bool} (hp : ∀ a ∈ l, ∀ b ∈ l, p a = true → p b = true → key a = key b) :
    l.countP p ≤ 1 := by
  induction l with
  | nil => exact Nat.zero_le 1
  | cons a l ih =>
    rw [List.map_cons, List.nodup_cons] at h
    rw [List.countP_cons]
    by_cases ha : p a = true
    · have hnone : l.countP p = 0 := by
        rw [List.countP_eq_zero]
        intro b hb hpb
        have heq := hp a List.mem_cons_self b (List.mem_cons_of_mem a hb) ha hpb
        exact h.1 (heq ▸ List.mem_map_of_mem hb)
      rw [hnone, if_pos ha]
    · rw [if_neg ha]
      exact ih h.2 fun b hb c hc =>
        hp b (List.mem_cons_of_mem a hb) c (List.mem_cons_of_mem a hc)

/-- **One dispatch for each claim**: in every run of workers that share a store, however
    they interleave and wherever they are cut off.

    A version is claimed at most once, and so is a step of a run.  Each entry into the
    governed runtime is for the claim that its call has open, with the claimed action, and
    no claim is used twice; the runtime enters its handler at most once.  A record in flight
    is written over only by the call that claimed it.  A request is entered for at most as
    often as it was claimed, and at most once where the request ids of steps differ. -/
theorem dispatched_once {store : LawfulRunStore}
    {c : Config AgentSig T store.State (Except Exn RunResult)} (hc : w.Reachable store c) :
    ((claims c.log).map Claim.key).Nodup ∧
    ((claims c.log).map fun k => (k.run_id, k.record.next_step)).Nodup ∧
    (dispatches c.log).length = (c.log.countP fun e => entersRuntime e.2) ∧
    ((dispatches c.log).map Claim.key).Nodup ∧ (∀ k ∈ dispatches c.log, k ∈ claims c.log) ∧
    Entered c.log ∧ LeftByClaimant c.log ∧ store.Represents (recordsOf c.log) c.shared ∧
    (∀ (E : Sig) (gateway : PrivateVaultGateway E) (action : ActionIntent) inner result,
      Prog.Run (execute gateway action) inner result → handlerEntries inner ≤ 1) ∧
    ∀ request_id,
      (c.log.countP fun e => entersFor request_id e.2) ≤
        ((claims c.log).countP fun k => k.record.pending_request_id == some request_id) ∧
      ∀ g : String → Nat → String, (∀ t, (w.agent t).request_id_factory = g) →
        (∀ run_id step run_id' step', g run_id step = g run_id' step' →
          run_id = run_id' ∧ step = step') →
        (c.log.countP fun e => entersFor request_id e.2) ≤ 1 := by
  obtain ⟨hrepresents, hI⟩ := hc.dispatching (f := none) fun g hg => nomatch hg
  have hdistinct := Tickets.distinct Claim.key hI.once
  have hentered (request_id : String) :
      (c.log.countP fun e => entersFor request_id e.2) ≤
        ((claims c.log).countP fun k => k.record.pending_request_id == some request_id) := by
    rw [← hI.countP_entersFor]
    exact hdistinct.countP_le _
  refine ⟨hI.once, hI.steps, hI.length_dispatches, hdistinct.used, hdistinct.used_taken,
    hI.entered, hI.left_by, hrepresents, ?_, ?_⟩
  · intro E gateway action inner result hrun
    obtain ⟨outcome, n, hinner, -⟩ := run_execute.mp hrun
    rw [entries_invokeOnce hinner]
    exact min_le_right n 1
  · intro request_id
    refine ⟨hentered request_id, ?_⟩
    intro g hg hinjective
    obtain ⟨-, hnumbered⟩ := hc.dispatching (f := some g) fun g' hg' => Option.some.inj hg' ▸ hg
    refine (hentered request_id).trans (countP_le_one hI.steps ?_)
    intro k hk k' hk' hrequest hrequest'
    have hid := hnumbered.named k hk g rfl
    have hid' := hnumbered.named k' hk' g rfl
    rw [beq_iff_eq] at hrequest hrequest'
    rw [hid] at hrequest
    rw [hid'] at hrequest'
    obtain ⟨hrun, hstep⟩ := hinjective _ _ _ _
      ((Option.some.inj hrequest).trans (Option.some.inj hrequest').symm)
    rw [hrun, hstep]

end runs

/-- A run with one tool call claims it, and enters the runtime for it once. -/
theorem dispatched_once_look :
    ∃ c : Config AgentSig Nat lawfulInMemory.State (Except Exn RunResult),
      soloPlain.workers.Reachable lawfulInMemory c ∧
      (claims c.log).map Claim.key = [("run", 2)] ∧
      (c.log.countP fun e => entersFor "request" e.2) = 1 ∧
      (dispatches c.log).length = (c.log.countP fun e => entersRuntime e.2) := by
  obtain ⟨c, hc, hlog⟩ := SoloRun.look_reachable .none
  refine ⟨c, hc, ?_, ?_, (dispatched_once hc).2.2.1⟩
  · rw [hlog]
    rfl
  · rw [hlog]
    rfl

/-! ## Section 6: The default request ids -/

theorem split_at_first {α : Type} {x x' y y' : List α} {a : α} (hx : a ∉ x) (hx' : a ∉ x')
    (h : x ++ a :: y = x' ++ a :: y') : x = x' ∧ y = y' := by
  induction x generalizing x' with
  | nil =>
    cases x' with
    | nil => exact ⟨rfl, (List.cons.inj h).2⟩
    | cons b x' =>
      obtain ⟨rfl, -⟩ := List.cons.inj h
      exact absurd List.mem_cons_self hx'
  | cons b x ih =>
    cases x' with
    | nil =>
      obtain ⟨rfl, -⟩ := List.cons.inj h
      exact absurd List.mem_cons_self hx
    | cons b' x' =>
      obtain ⟨rfl, hrest⟩ := List.cons.inj h
      rw [List.mem_cons, not_or] at hx hx'
      obtain ⟨rfl, rfl⟩ := ih hx.2 hx'.2 hrest
      exact ⟨rfl, rfl⟩

/-- **The default ids tell run and step**: the step is what stands behind the last dash. -/
theorem defaultRequestId_injective (run_id : String) (step : Nat) (run_id' : String) (step' : Nat)
    (h : defaultRequestId run_id step = defaultRequestId run_id' step') :
    run_id = run_id' ∧ step = step' := by
  have hdash (n : Nat) : '-' ∉ (Nat.toDigits 10 n).reverse := by
    rw [List.mem_reverse]
    intro hmem
    have hdigit := Nat.isDigit_of_mem_toDigits (b := 10) (by decide) (by decide) hmem
    exact absurd hdigit (by decide)
  have hchars (run_id : String) (n : Nat) : (defaultRequestId run_id n).toList.reverse =
      (Nat.toDigits 10 n).reverse ++ '-' :: ("-step".toList.reverse ++ run_id.toList.reverse) := by
    have htext : defaultRequestId run_id n = run_id ++ "-step-" ++ Nat.repr n := by
      unfold defaultRequestId
      simp [toString]
    have hdigits : (Nat.repr n).toList = Nat.toDigits 10 n := by simp [Nat.repr]
    have hsep : "-step-".toList.reverse = '-' :: "-step".toList.reverse := by decide
    rw [htext, String.toList_append, String.toList_append, hdigits, List.reverse_append,
      List.reverse_append, hsep]
    rfl
  have hreverse := congrArg (fun s : String => s.toList.reverse) h
  simp only [hchars] at hreverse
  obtain ⟨hdigits, hrest⟩ := split_at_first (hdash step) (hdash step') hreverse
  constructor
  · exact String.toList_injective (List.reverse_injective (List.append_cancel_left hrest))
  · have hvalue := congrArg (fun ds : List Char => Nat.ofDigitChars 10 ds.reverse 0) hdigits
    simpa only [List.reverse_reverse, Nat.ofDigitChars_ten_toDigits] using hvalue

end CBrain

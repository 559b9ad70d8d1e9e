import CBrain.Contracts
import CBrain.Framework.Effect

/-! # The governed runtime

    Models `GovernedRuntime.execute` (`cbrain/runtime.py`).  The execution
    gateway is an arbitrary program over the operations of its own ports and
    one more: calling the tool handler it was given.  It may call the handler
    as often as it likes, catch what a call raises, return anything or raise.

    The runtime hands the gateway a wrapper that lets one call through, and
    classifies the gateway's outcome by the number of calls it made.
-/

namespace CBrain

open Effect
open Json (Dict)

/-! ## Section 1: Programs that may call a tool handler -/

/-- The operations of a program that was handed a tool handler. -/
inductive HandlerOp (E : Sig) where
  /-- Enter the tool handler. -/
  | handler (arguments : Dict)
  /-- Use a port. -/
  | port (o : E.Op)

/-- The signature `E` with a tool handler. -/
def WithHandler (E : Sig) : Sig where
  Op := HandlerOp E
  Ans
    | .handler _ => Raises PyVal
    | .port o => E.Ans o

variable {E : Sig} {α : Type}

/-- The number of handler entries among the events of a run. -/
def handlerEntries : List (WithHandler E).Event → Nat
  | [] => 0
  | ⟨.handler _, _⟩ :: log => handlerEntries log + 1
  | ⟨.port _, _⟩ :: log => handlerEntries log

/-- The view that counts handler entries. -/
def countEntry (n : Nat) (o : (WithHandler E).Op) (_ : (WithHandler E).Ans o) : Nat :=
  match o with
  | .handler _ => n + 1
  | .port _ => n

theorem after_countEntry (n : Nat) (log : List (WithHandler E).Event) :
    (Protocol.observe countEntry).after n log = n + handlerEntries log := by
  induction log generalizing n with
  | nil => rfl
  | cons e log ih =>
    obtain ⟨o, x⟩ := e
    cases o with
    | handler arguments =>
      show (Protocol.observe countEntry).after (n + 1) log = n + (handlerEntries log + 1)
      rw [ih]
      omega
    | port o => exact ih n

/-- `invoke_once`: the first call enters the handler, every later one raises.
    Returns the program's result and the number of calls it made, `n` of them
    before it started. -/
def invokeOnce (n : Nat) : Prog (WithHandler E) α → Prog (WithHandler E) (α × Nat)
  | .ret a => .ret (a, n)
  | .op (.handler arguments) k =>
    if n + 1 > 1 then
      invokeOnce (n + 1) (k (.error (Exn.of .runtimeError "tool handler invoked more than once")))
    else .op (.handler arguments) fun x => invokeOnce (n + 1) (k x)
  | .op (.port o) k => .op (.port o) fun x => invokeOnce n (k x)

/-- However often the handler was called, it was entered at most once. -/
theorem invokeOnce_obeys (p : Prog (WithHandler E) α) (n : Nat) :
    Prog.Obeys (Protocol.observe countEntry) (fun entries r => entries = min r.2 1)
      (min n 1) (invokeOnce n p) := by
  induction p generalizing n with
  | ret a => exact rfl
  | op o k ih =>
    cases o with
    | port o => exact ⟨trivial, fun x _ => ih x n⟩
    | handler arguments =>
      by_cases hn : n + 1 > 1
      · have hmin : min n 1 = min (n + 1) 1 := by omega
        rw [invokeOnce, if_pos hn, hmin]
        exact ih _ (n + 1)
      · have hmin : min n 1 + 1 = min (n + 1) 1 := by omega
        rw [invokeOnce, if_neg hn]
        refine ⟨trivial, fun x _ => ?_⟩
        show Prog.Obeys _ _ (min n 1 + 1) _
        rw [hmin]
        exact ih x (n + 1)

/-- The entries of a run of the wrapped program. -/
theorem entries_invokeOnce {p : Prog (WithHandler E) α} {log : List (WithHandler E).Event}
    {r : α × Nat} (h : Prog.Run (invokeOnce 0 p) log r) : handlerEntries log = min r.2 1 := by
  have hpost := (invokeOnce_obeys p 0).observe_run h
  rw [after_countEntry] at hpost
  omega

/-! ## Section 2: The runtime -/

/-- What a gateway returns when it does not raise. -/
inductive GatewayResult where
  | execution (g : GovernedExecution)
  /-- Anything that is not a `GovernedExecution`. -/
  | other

/-- `PrivateVaultGateway`: an implementation and its declaration of whether
    it executes independently of the handler (`independent_execution is True`). -/
structure PrivateVaultGateway (E : Sig) where
  independent_execution : Bool
  decideAndExecute : ActionIntent → Prog (WithHandler E) (Raises GatewayResult)

/-- The result of a failure: `INDETERMINATE` if execution is possible, else a
    `CONTROL_FAILURE`. -/
def failureResult (action : ActionIntent) (execution_possible : Bool) (reason : String)
    (hreason : nonBlank reason = true) : GovernedExecution where
  status := if execution_possible then .indeterminate else .controlFailure
  request_id := action.request_id
  tool_executed := if execution_possible then none else some false
  reason := reason
  decision_id := none
  output := .none
  retryable := false
  request_id_text := action.request_id_text
  reason_text := hreason
  tool_executed_fits := by cases execution_possible <;> rfl
  retryable_fits := by simp

/-- `_contract_failure`. -/
def contractFailure (action : ActionIntent) (handler_entries : Nat) (reason : String)
    (hreason : nonBlank reason = true) (independent_execution : Bool) : GovernedExecution :=
  failureResult action (decide (handler_entries > 0) || independent_execution) reason hreason

/-- How `execute` turns the gateway's outcome into a result, given the number
    of handler calls. -/
def classify (independent_execution : Bool) (action : ActionIntent)
    (outcome : Raises GatewayResult) (handler_entries : Nat) : GovernedExecution :=
  match outcome with
  | .error exc =>
    failureResult action (decide (handler_entries > 0) || independent_execution)
      ("privatevault_gateway_error:" ++ exc.name) (nonBlank_append_left exc.name (by decide))
  | .ok .other =>
    contractFailure action handler_entries "invalid_gateway_result" (by decide)
      independent_execution
  | .ok (.execution result) =>
    if result.request_id ≠ action.request_id then
      contractFailure action handler_entries "request_id_mismatch" (by decide)
        independent_execution
    else if result.status = .executed ∧
        handler_entries ≠ (if independent_execution then 0 else 1) then
      contractFailure action handler_entries "unproven_execution" (by decide)
        independent_execution
    else if result.status ≠ .executed ∧ handler_entries ≠ 0 then
      contractFailure action handler_entries "tool_called_without_executed_status" (by decide)
        independent_execution
    else result

/-- `GovernedRuntime.execute`. -/
def execute (gateway : PrivateVaultGateway E) (action : ActionIntent) :
    Prog (WithHandler E) GovernedExecution := do
  let (outcome, handler_entries) ← invokeOnce 0 (gateway.decideAndExecute action)
  return classify gateway.independent_execution action outcome handler_entries

/-! ## Section 3: What each outcome becomes -/

/-- The outcome is an exception or breaks the gateway contract: no governed
    result, another request's result, or a status that the number of handler
    calls does not bear out. -/
inductive Violation (independent_execution : Bool) (action : ActionIntent) :
    Raises GatewayResult → Nat → Prop where
  | raised (exc : Exn) (n : Nat) : Violation independent_execution action (.error exc) n
  | notAResult (n : Nat) : Violation independent_execution action (.ok .other) n
  | otherRequest {g : GovernedExecution} (n : Nat) (h : g.request_id ≠ action.request_id) :
      Violation independent_execution action (.ok (.execution g)) n
  | unproven {g : GovernedExecution} {n : Nat} (h : g.status = .executed)
      (hn : n ≠ if independent_execution then 0 else 1) :
      Violation independent_execution action (.ok (.execution g)) n
  | called {g : GovernedExecution} {n : Nat} (h : g.status ≠ .executed) (hn : n ≠ 0) :
      Violation independent_execution action (.ok (.execution g)) n

@[simp] theorem failureResult_request_id (action : ActionIntent) (b : Bool) (reason : String)
    (h : nonBlank reason = true) :
    (failureResult action b reason h).request_id = action.request_id := rfl

@[simp] theorem failureResult_status (action : ActionIntent) (b : Bool) (reason : String)
    (h : nonBlank reason = true) :
    (failureResult action b reason h).status =
      if b then ExecutionStatus.indeterminate else .controlFailure := rfl

/-- A violation becomes a failure result. -/
theorem classify_violation {ind : Bool} {action : ActionIntent} {outcome : Raises GatewayResult}
    {n : Nat} (h : Violation ind action outcome n) :
    ∃ reason hreason, classify ind action outcome n =
      failureResult action (decide (n > 0) || ind) reason hreason := by
  cases h with
  | raised exc n => exact ⟨_, _, rfl⟩
  | notAResult n => exact ⟨_, _, rfl⟩
  | otherRequest n h =>
    refine ⟨"request_id_mismatch", by decide, ?_⟩
    unfold classify
    simp only
    rw [if_pos h]
    rfl
  | @unproven g n h hn =>
    unfold classify
    simp only
    by_cases hid : g.request_id ≠ action.request_id
    · exact ⟨"request_id_mismatch", by decide, by rw [if_pos hid]; rfl⟩
    · exact ⟨"unproven_execution", by decide, by rw [if_neg hid, if_pos ⟨h, hn⟩]; rfl⟩
  | @called g n h hn =>
    unfold classify
    simp only
    by_cases hid : g.request_id ≠ action.request_id
    · exact ⟨"request_id_mismatch", by decide, by rw [if_pos hid]; rfl⟩
    · refine ⟨"tool_called_without_executed_status", by decide, ?_⟩
      rw [if_neg hid, if_neg (fun hc => h hc.1), if_pos ⟨h, hn⟩]
      rfl

/-- Any other outcome is returned as it is. -/
theorem classify_accepted {ind : Bool} {action : ActionIntent} {outcome : Raises GatewayResult}
    {n : Nat} (h : ¬ Violation ind action outcome n) :
    ∃ g, outcome = .ok (.execution g) ∧ classify ind action outcome n = g ∧
      g.request_id = action.request_id ∧
      (g.status = .executed → n = if ind then 0 else 1) ∧ (g.status ≠ .executed → n = 0) := by
  match outcome, h with
  | .error exc, h => exact absurd (Violation.raised exc n) h
  | .ok .other, h => exact absurd (Violation.notAResult n) h
  | .ok (.execution g), h =>
    have hid : g.request_id = action.request_id := by
      by_contra hne
      exact h (Violation.otherRequest n hne)
    have hexec : g.status = .executed → n = if ind then 0 else 1 := by
      intro hs
      by_contra hn
      exact h (Violation.unproven hs hn)
    have hother : g.status ≠ .executed → n = 0 := by
      intro hs
      by_contra hn
      exact h (Violation.called hs hn)
    refine ⟨g, rfl, ?_, hid, hexec, hother⟩
    unfold classify
    simp only
    rw [if_neg (not_not.mpr hid), if_neg (fun hc => hc.2 (hexec hc.1)),
      if_neg (fun hc => hc.2 (hother hc.1))]

theorem classify_request_id (ind : Bool) (action : ActionIntent) (outcome : Raises GatewayResult)
    (n : Nat) : (classify ind action outcome n).request_id = action.request_id := by
  by_cases h : Violation ind action outcome n
  · obtain ⟨reason, hreason, heq⟩ := classify_violation h
    rw [heq, failureResult_request_id]
  · obtain ⟨g, -, heq, hid, -, -⟩ := classify_accepted h
    rw [heq, hid]

/-- A status that says the tool was not executed is given only if the handler
    was never called. -/
theorem classify_notExecuted {ind : Bool} {action : ActionIntent} {outcome : Raises GatewayResult}
    {n : Nat} (h : (classify ind action outcome n).status.notExecuted = true) : n = 0 := by
  by_cases hv : Violation ind action outcome n
  · obtain ⟨reason, hreason, heq⟩ := classify_violation hv
    rw [heq, failureResult_status] at h
    by_cases hpos : n > 0
    · simp [hpos, ExecutionStatus.notExecuted] at h
    · omega
  · obtain ⟨g, -, heq, -, -, hother⟩ := classify_accepted hv
    rw [heq] at h
    exact hother (by rintro he; rw [he] at h; cases h)

/-- `EXECUTED` is given only for the number of calls that bears it out. -/
theorem classify_executed {ind : Bool} {action : ActionIntent} {outcome : Raises GatewayResult}
    {n : Nat} (h : (classify ind action outcome n).status = .executed) :
    n = if ind then 0 else 1 := by
  by_cases hv : Violation ind action outcome n
  · obtain ⟨reason, hreason, heq⟩ := classify_violation hv
    rw [heq, failureResult_status] at h
    split at h <;> cases h
  · obtain ⟨g, -, heq, -, hexec, -⟩ := classify_accepted hv
    rw [heq] at h
    exact hexec h

/-- A violation after a call, or by an independent gateway, is indeterminate. -/
theorem classify_indeterminate {ind : Bool} {action : ActionIntent}
    {outcome : Raises GatewayResult} {n : Nat} (h : Violation ind action outcome n)
    (hpossible : n > 0 ∨ ind = true) :
    (classify ind action outcome n).status = .indeterminate := by
  obtain ⟨reason, hreason, heq⟩ := classify_violation h
  rw [heq, failureResult_status, if_pos]
  rcases hpossible with hn | hi
  · simp [hn]
  · simp [hi]

/-! ## Section 4: Runs of `execute` -/

/-- A run of `execute` is a run of the wrapped gateway, classified. -/
theorem run_execute {gateway : PrivateVaultGateway E} {action : ActionIntent}
    {log : List (WithHandler E).Event} {result : GovernedExecution} :
    Prog.Run (execute gateway action) log result ↔
      ∃ outcome n, Prog.Run (invokeOnce 0 (gateway.decideAndExecute action)) log (outcome, n) ∧
        result = classify gateway.independent_execution action outcome n := by
  unfold execute
  rw [Prog.run_bind]
  constructor
  · rintro ⟨log₁, ⟨outcome, n⟩, log₂, h₁, h₂, rfl⟩
    cases h₂
    exact ⟨outcome, n, by simpa using h₁, rfl⟩
  · rintro ⟨outcome, n, h, rfl⟩
    exact ⟨log, (outcome, n), [], h, Prog.Run.ret _, by simp⟩

/-- **Soundness of the governed runtime**: for every gateway behaviour, the
    handler is entered at most once and the returned status tells the truth
    about it. -/
theorem execute_sound (gateway : PrivateVaultGateway E) (action : ActionIntent)
    {log : List (WithHandler E).Event} {result : GovernedExecution}
    (hrun : Prog.Run (execute gateway action) log result) :
    handlerEntries log ≤ 1 ∧
    result.request_id = action.request_id ∧
    (result.status.notExecuted = true → handlerEntries log = 0) ∧
    (result.status = .executed →
      handlerEntries log = if gateway.independent_execution then 0 else 1) ∧
    (∀ outcome n, Prog.Run (invokeOnce 0 (gateway.decideAndExecute action)) log (outcome, n) →
      Violation gateway.independent_execution action outcome n →
      (0 < handlerEntries log ∨ gateway.independent_execution = true) →
      result.status = .indeterminate) := by
  obtain ⟨outcome, n, hgw, rfl⟩ := run_execute.mp hrun
  have hentries : handlerEntries log = min n 1 := entries_invokeOnce hgw
  refine ⟨by omega, classify_request_id _ _ _ _, ?_, ?_, ?_⟩
  · intro h
    have hn := classify_notExecuted h
    omega
  · intro h
    have hn := classify_executed h
    rw [hentries, hn]
    split <;> rfl
  · intro outcome' n' hgw' hv hpossible
    -- The events of a run determine its result.
    have heq : (outcome', n') = (outcome, n) := Prog.Run.unique hgw' hgw
    obtain ⟨rfl, rfl⟩ := Prod.mk.inj heq
    apply classify_indeterminate hv
    rcases hpossible with h | h
    · exact Or.inl (by omega)
    · exact Or.inr h

theorem nonBlank_done : nonBlank "done" = true := by decide

/-- A gateway without ports that calls the handler twice, ignores what the
    calls answer and reports success. -/
def doubleCallGateway : PrivateVaultGateway ⟨Empty, Empty.elim⟩ where
  independent_execution := false
  decideAndExecute action :=
    .op (.handler action.arguments) fun _ =>
      .op (.handler action.arguments) fun _ =>
        .ret (.ok (.execution {
          status := .executed
          request_id := action.request_id
          tool_executed := some true
          reason := "done"
          decision_id := none
          output := .none
          retryable := false
          request_id_text := action.request_id_text
          reason_text := nonBlank_done
          tool_executed_fits := GovernedExecution.executed_fits
          retryable_fits := GovernedExecution.executed_final }))

/-- Its second call does not reach the handler, and its report is not
    believed. -/
theorem execute_sound_doubleCall :
    ∃ log result,
      Prog.Run (execute doubleCallGateway ActionIntent.contactRead) log result ∧
      handlerEntries log ≤ 1 ∧ result.status = .indeterminate := by
  have hgw : Prog.Run
      (invokeOnce 0 (doubleCallGateway.decideAndExecute ActionIntent.contactRead)) _ (_, 2) :=
    Prog.Run.op (Except.ok PyVal.none) (Prog.Run.ret _)
  have hrun := run_execute.mpr ⟨_, _, hgw, rfl⟩
  have h := execute_sound doubleCallGateway ActionIntent.contactRead hrun
  exact ⟨_, _, hrun, h.1, h.2.2.2.2 _ _ hgw (.unproven rfl (by decide)) (Or.inl (by decide))⟩

end CBrain

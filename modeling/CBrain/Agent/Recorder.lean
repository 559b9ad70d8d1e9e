import CBrain.Agent.LearningStores
import CBrain.Agent.Profile
import CBrain.Framework.Mutation

/-! # The learning recorder

    Models `LearningRecorder` of `cbrain/agent/insights.py`: the outcome of a
    run and the tool calls that were rejected in it are appended to a learning
    store, one signal each.  What goes wrong is swallowed; what was appended
    before stays. -/

namespace CBrain.Insights

open Mutation (raising exec)

/-! ## Section 1: Signals of a run -/

/-- `run_outcome_signal`. -/
def runOutcomeSignal (agent_id run_id : String) (status : RunStatus) (idempotency_key : String)
    (observed_at : JsonFloat) : Raises LearningSignal :=
  finalizeSignal (fun _ => false)
    { kind := .structuralRunOutcome, agent_id, idempotency_key, observed_at, reviewer_id := none,
      feedback_text := none, run_id := some run_id, run_status := some status, tool_name := none,
      execution_status := none }

/-- `tool_rejection_signal`. -/
def toolRejectionSignal (agent_id run_id tool_name : String) (execution_status : ExecutionStatus)
    (idempotency_key : String) (observed_at : JsonFloat) : Raises LearningSignal :=
  finalizeSignal (fun _ => false)
    { kind := .governedToolRejection, agent_id, idempotency_key, observed_at, reviewer_id := none,
      feedback_text := none, run_id := some run_id, run_status := none, tool_name := some tool_name,
      execution_status := some execution_status }

/-- The key of a run's outcome. -/
def outcomeKey (agent_id run_id : String) : String := s!"run-outcome:{agent_id}:{run_id}"

/-- The key of a rejection. -/
def rejectionKey (agent_id run_id : String) (rejection_index : Nat) (tool_name : String)
    (status : ExecutionStatus) : String :=
  s!"tool-rejection:{agent_id}:{run_id}:{rejection_index}:{tool_name}:{status.value}"

/-! ## Section 2: Recording -/

/-- `append_signal` of a store. -/
abbrev AppendSignal (S : Type) : Type := LearningSignal → Mutation Exn S LearningSignal

/-- `append_signal` of the dictionaries. -/
def InMemoryLearningStore.appendSignal : AppendSignal (TwoDicts String LearningSignal) :=
  fun signal => ExceptT.mk fun d => append signalRecords d signal

/-- `append_signal` of the tables. -/
def SQLiteLearningStore.appendSignal : AppendSignal (List SignalRow) :=
  fun signal => ExceptT.mk fun rows => append signalRecords rows signal

/-- A call of `record_run`, with what the clock says. -/
structure RunCall where
  agent_id : String
  result : RunResult
  observed_at : JsonFloat

/-- What the loop over the events keeps. -/
structure Observed where
  tools_by_request : Table String String
  rejection_index : Nat

section recorder

variable {S : Type} (append_signal : AppendSignal S)

/-- The tool that a rejected request asked for. -/
def Observed.toolOf (observed : Observed) : Json → Option String
  | .str request_id => observed.tools_by_request.get? request_id
  | _ => none

/-- A request, which the loop remembers. -/
def Observed.request (observed : Observed) : Json → Json → Observed
  | .str request_id, .str tool_name =>
    { observed with tools_by_request := observed.tools_by_request.set request_id tool_name }
  | _, _ => observed

/-- A rejection whose tool is known. -/
def recordRejection (call : RunCall) (rejection_index : Nat) (tool_name : String)
    (status_raw : Json) : Mutation Exn S Unit := do
  let parsed_status ← raising (parseExecutionStatus status_raw)
  let signal ← raising (toolRejectionSignal call.agent_id call.result.run_id tool_name parsed_status
    (rejectionKey call.agent_id call.result.run_id rejection_index tool_name parsed_status)
    call.observed_at)
  let _ ← append_signal signal
  return ()

/-- One round of the loop over the events. -/
def recordEvent (call : RunCall) (observed : Observed) (event : RunEvent) :
    Mutation Exn S Observed :=
  let request_id := event.detail.get "request_id"
  match event.kind with
  | .toolRequested => pure (observed.request request_id (event.detail.get "tool_name"))
  | .toolRejected =>
    match observed.toolOf request_id, event.detail.get "execution_status" with
    | none, _ | some _, .null => pure observed
    | some tool_name, status_raw => do
      recordRejection append_signal call observed.rejection_index tool_name status_raw
      return { observed with rejection_index := observed.rejection_index + 1 }
  | _ => pure observed

/-- `_record_run`. -/
def recordRunBody (call : RunCall) : Mutation Exn S Unit := do
  let signal ← raising (runOutcomeSignal call.agent_id call.result.run_id call.result.status
    (outcomeKey call.agent_id call.result.run_id) call.observed_at)
  let _ ← append_signal signal
  let _ ← call.result.events.foldlM (recordEvent append_signal call) ⟨Table.empty, 0⟩
  return ()

/-- `record_run`. -/
def recordRun (call : RunCall) (store : S) : Bool × S :=
  match exec (recordRunBody append_signal call) store with
  | (.ok _, store) => (true, store)
  | (.error _, store) => (false, store)

end recorder

end CBrain.Insights

import CBrain.Agent.Durable
import CBrain.Framework.Fallible

/-! # The foundation agent

    Models `cbrain/agent/foundation.py` and the part of
    `cbrain/agent/durable_loop.py` that talks to the run store: the ephemeral
    loop, the durable loop with its checkpoints, and the resume of a stored
    run.

    Everything the loop asks of the outside is an operation: the clocks, the
    cancellation flag, the knowledge runtime, the model router, the governed
    runtime and the run store.  The two loops are written out separately, as
    the source has them. -/

namespace CBrain

open Effect
open Json (Dict)

/-! ## Section 1: Operations -/

/-- The arguments of a knowledge retrieval (`top_k` is 4). -/
structure RetrievalRequest where
  tenant_id : String
  collection_id : String
  principal_id : String
  text : String
  created_at : Decimal

/-- The operations of an agent run. -/
inductive AgentOp where
  | clock
  | wallClock
  | cancelled
  /-- `run_id_factory()`. -/
  | newRunId
  /-- Retrieve knowledge; answers the quoted evidence. -/
  | retrieve (request : RetrievalRequest)
  /-- Build the completion request and route it to a model. -/
  | complete (route : String) (messages : List Message) (tools : List ToolDefinition)
      (max_output_tokens : Nat)
  /-- `GovernedRuntime.execute` with the handler of a tool. -/
  | execute (action : ActionIntent) (tool : String)
  | create (record : StoredRunRecord)
  | load (run_id : String)
  | save (record : StoredRunRecord) (expected_version : Nat)
  /-- `claim_tool_dispatch`. -/
  | claim (run_id : String) (expected_version : Nat)

/-- The answer to an operation. -/
abbrev AgentOp.Ans : AgentOp → Type
  | .clock | .wallClock => Decimal
  | .cancelled => Bool
  | .newRunId => String
  | .retrieve _ => Raises String
  | .complete _ _ _ _ => Raises ModelOutput
  | .execute _ _ => GovernedExecution
  | .create _ => Raises Unit
  | .load _ => Raises StoredRunRecord
  | .save _ _ => Raises StoredRunRecord
  | .claim _ _ => Raises (Option StoredRunRecord)

/-- The signature of an agent run. -/
abbrev AgentSig : Sig := ⟨AgentOp, AgentOp.Ans⟩

/-- A program of the agent. -/
abbrev AgentM (α : Type) : Type := Fallible AgentSig Exn α

/-- Perform an operation; what it raises is part of the answer. -/
def ask (o : AgentOp) : AgentM o.Ans := ExceptT.mk (.op o fun x => .ret (.ok x))

/-- `store.save(record, expected_version=...)`. -/
def saveRecord (record : StoredRunRecord) (expected_version : Nat) : AgentM StoredRunRecord := do
  let answer ← ask (.save record expected_version)
  Fallible.raising answer

/-- A configured agent.  Its handlers are exactly the permitted tools. -/
structure FoundationAgent where
  profile : AgentProfile
  tools : ToolRegistry
  request_id_factory : String → Nat → String
  /-- A knowledge runtime is configured. -/
  knowledge : Bool
  request_id_factory_text : ∀ run_id step, request_id_factory run_id step ≠ ""

/-- The default request id factory. -/
def defaultRequestId (run_id : String) (step : Nat) : String := s!"{run_id}-step-{step}"

/-- `self._handlers[name]`, the handler being known by its name. -/
def FoundationAgent.handler (a : FoundationAgent) (name : String) : Raises String :=
  if name ∈ a.profile.permitted_tools then .ok name
  else .error (Exn.parts .keyError [.repr (.str name)])

/-! ## Section 2: Parts shared by both loops -/

/-- `_metadata`. -/
def runMetadata (run_input : RunInput) (reason : Option String) : PyDict :=
  match reason with
  | some reason => run_input.metadataDict.setText "reason" reason
  | none => run_input.metadataDict

/-- The result of a run that did not complete. -/
def unfinished (run_id : String) (status : RunStatus) (events : List RunEvent) (metadata : PyDict)
    (tool_calls model_turns : Nat) : RunResult where
  run_id := run_id
  status := status
  final_text := none
  tool_calls := tool_calls
  model_turns := model_turns
  events := events ++ [RunEvent.of .runFailed events.length 0 [("status", status.value)]]
  metadata := metadata

/-- `_failed`; `_terminal` does the same. -/
abbrev failed := unfinished

/-- `_terminal`. -/
abbrev terminal := unfinished

/-- Text that is not blank, of a value that may be anything. -/
def PyVal.text? : PyVal → Option String
  | .json (.str s) => if nonBlank s then some s else Option.none
  | _ => Option.none

/-- `_knowledge_context`: the evidence message, and whether tools are
    blocked for lack of it. -/
def knowledgeContext (a : FoundationAgent) (run_input : RunInput) :
    AgentM (Option Message × Bool) :=
  let required := a.profile.knowledge_required_for_tools
  if a.knowledge = false then pure (none, required)
  else
    let metadata := run_input.metadataDict
    match (metadata.get "tenant_id").text?, (metadata.get "collection_id").text?,
        (metadata.get "principal_id").text? with
    | some tenant_id, some collection_id, some principal_id => do
      let created_at ← ask .wallClock
      let answer ← ask (.retrieve
        { tenant_id, collection_id, principal_id, text := run_input.task, created_at })
      match answer with
      | .error _ => pure (none, required)
      | .ok quoted_evidence => do
        let message ← Fallible.raising (Message.text .user quoted_evidence)
        pure (some message, false)
    | _, _, _ => pure (none, required)

/-- The first two messages of a run. -/
def openingMessages (a : FoundationAgent) (run_input : RunInput) : Raises (List Message) := do
  let system ← Message.text .system a.profile.instructions
  let user ← Message.text .user run_input.task
  return [system, user]

/-- The text of an executed tool's observation. -/
def observationText (request_id : String) (execution : GovernedExecution) : List Char :=
  Json.dumps .default (.obj (Json.dictOf
    [("status", .str execution.status.value), ("request_id", .str request_id),
      ("output", execution.output.image)]))

/-- The action a tool call proposes. -/
def captureAction (a : FoundationAgent) (tool : GovernedTool) (run_id : String) (call : ToolCall)
    (request_id : String) (timestamp : Decimal) : Raises ActionIntent :=
  ActionIntent.capture a.profile.agent_id "cbrain-foundation" call.name tool.capability
    call.arguments (object [("run_id", .str run_id), ("tool_call_id", .str call.call_id)])
    (object []) request_id request_id (.float timestamp)

/-- The event of a tool request. -/
def toolRequested (step : Nat) (now : Decimal) (call : ToolCall) (capability request_id : String) :
    RunEvent :=
  RunEvent.of .toolRequested step now
    [("tool_name", call.name), ("capability", capability), ("request_id", request_id)]

/-- The run status of an execution that was not completed. -/
def rejectionStatus : ExecutionStatus → RunStatus
  | .blocked | .reviewRequired => .rejected
  | _ => .toolFailure

/-- The reason of an execution that was not completed. -/
def rejectionReason (execution : GovernedExecution) : String :=
  match execution.status with
  | .executed => s!"unexpected execution status: {execution.status.value}"
  | _ => execution.reason

/-- The reason for a call that names a tool the agent may not use. -/
def notPermitted (name : String) : String := s!"tool {reprStr name} is not permitted for this agent"

/-- The reason for a call that names an unknown tool. -/
def notRegistered (name : String) : String := s!"tool {reprStr name} is not registered"

/-! ## Section 3: The ephemeral loop -/

/-- What does not change during an ephemeral run. -/
structure EphemeralRun where
  run_input : RunInput
  run_id : String
  deadline : Decimal
  tool_definitions : List ToolDefinition
  knowledge_tools_blocked : Bool

/-- The local variables of the ephemeral loop. -/
structure EphemeralState where
  events : List RunEvent
  messages : List Message
  tool_calls : Nat
  model_turns : Nat

/-- End an ephemeral run. -/
def EphemeralRun.finish (run : EphemeralRun) (s : EphemeralState) (status : RunStatus)
    (reason : Option String) : AgentM (RunResult ⊕ EphemeralState) :=
  pure (.inl (failed run.run_id status s.events (runMetadata run.run_input reason) s.tool_calls
    s.model_turns))

/-- After the governed runtime returned. -/
def ephemeralObserve (a : FoundationAgent) (run : EphemeralRun) (step : Nat) (call : ToolCall)
    (request_id : String) (s : EphemeralState) (execution : GovernedExecution) :
    AgentM (RunResult ⊕ EphemeralState) :=
  if execution.status = .executed then
    let observation_text := observationText request_id execution
    if observation_text.length > a.profile.limits.max_observation_chars then
      run.finish s .limitReached (some "tool observation exceeds max_observation_chars")
    else do
      let timestamp ← ask .clock
      let message ← Fallible.raising (Message.new .tool (String.ofList observation_text)
        (some call.call_id) (some call.name) none)
      pure (.inr { s with
        events := s.events ++ [RunEvent.of .toolCompleted step timestamp
          [("request_id", request_id), ("execution_status", execution.status.value)]]
        messages := s.messages ++ [message] })
  else do
    let timestamp ← ask .clock
    let s := { s with
      events := s.events ++ [RunEvent.of .toolRejected step timestamp
        [("request_id", request_id), ("execution_status", execution.status.value),
          ("reason", execution.reason)]] }
    run.finish s (rejectionStatus execution.status) (some (rejectionReason execution))

/-- A tool call of the model. -/
def ephemeralCall (a : FoundationAgent) (run : EphemeralRun) (step : Nat) (now : Decimal)
    (call : ToolCall) (s : EphemeralState) : AgentM (RunResult ⊕ EphemeralState) :=
  if call.name ∉ a.profile.permitted_tools then
    run.finish s .invalidModelResponse (some (notPermitted call.name))
  else if a.tools.contains call.name = false then
    run.finish s .invalidModelResponse (some (notRegistered call.name))
  else if s.tool_calls ≥ a.profile.max_tool_calls then
    run.finish s .limitReached none
  else do
    let tool ← Fallible.raising (a.tools.get call.name)
    let request_id := a.request_id_factory run.run_id step
    if run.knowledge_tools_blocked then
      run.finish s .toolFailure (some "KNOWLEDGE_UNAVAILABLE")
    else do
      let timestamp ← ask .wallClock
      match captureAction a tool run.run_id call request_id timestamp with
      | .error e => run.finish s .invalidModelResponse (some e.str)
      | .ok action =>
        let s := { s with
          events := s.events ++ [toolRequested step now call tool.capability request_id] }
        match validateHistory (s.messages ++ [call.asMessage]) true with
        | .error e => run.finish s .invalidModelResponse (some e.str)
        | .ok () => do
          let s := { s with messages := s.messages ++ [call.asMessage] }
          let handler ← Fallible.raising (a.handler call.name)
          let execution ← ask (.execute action handler)
          let s := { s with tool_calls := s.tool_calls + 1 }
          ephemeralObserve a run step call request_id s execution

/-- What the model returned, once the run is known to be neither cancelled nor
    expired. -/
def ephemeralOutput (a : FoundationAgent) (run : EphemeralRun) (step : Nat) (now : Decimal)
    (output : ModelOutput) (s : EphemeralState) : AgentM (RunResult ⊕ EphemeralState) :=
  match output with
  | .text output =>
    if output.text.toList.length > a.profile.limits.max_model_text_chars then
      run.finish s .invalidModelResponse (some "model text exceeds max_model_text_chars")
    else do
      let responded ← ask .clock
      let completed ← ask .clock
      pure (.inl {
        run_id := run.run_id
        status := .completed
        final_text := some output.text
        tool_calls := s.tool_calls
        model_turns := s.model_turns
        events := s.events ++ [RunEvent.of .modelResponse step responded [("kind", "text")],
          RunEvent.of .runCompleted step completed [("run_id", run.run_id)]]
        metadata := runMetadata run.run_input none })
  | .other =>
    run.finish s .invalidModelResponse (some "model returned an unsupported output type")
  | .call call => ephemeralCall a run step now call s

/-- One iteration of the loop. -/
def ephemeralStep (a : FoundationAgent) (run : EphemeralRun) (step : Nat) (s : EphemeralState) :
    AgentM (RunResult ⊕ EphemeralState) := do
  let cancelled ← ask .cancelled
  if cancelled then run.finish s .cancelled none
  else do
    let now ← ask .clock
    if now > run.deadline then run.finish s .timedOut none
    else if s.messages.length > a.profile.limits.max_context_messages then
      run.finish s .limitReached (some "context message limit reached")
    else do
      let s := { s with
        events := s.events ++ [RunEvent.of .modelTurn step now [("run_id", run.run_id)]] }
      let answer ← ask (.complete a.profile.model_route s.messages run.tool_definitions
        a.profile.limits.max_output_tokens)
      match answer with
      | .error e =>
        if e.kind.isModelError then run.finish s .modelFailure (some e.str)
        else throw e
      | .ok output => do
        let s := { s with model_turns := s.model_turns + 1 }
        let cancelled ← ask .cancelled
        if cancelled then run.finish s .cancelled none
        else do
          let later ← ask .clock
          if later ≥ run.deadline then run.finish s .timedOut none
          else ephemeralOutput a run step now output s

/-- The loop, with the number of steps left. -/
def ephemeralLoop (a : FoundationAgent) (run : EphemeralRun) :
    Nat → Nat → EphemeralState → AgentM RunResult
  | 0, _, s =>
    pure (terminal run.run_id .limitReached s.events (runMetadata run.run_input none) s.tool_calls
      s.model_turns)
  | n + 1, step, s => do
    let r ← ephemeralStep a run step s
    match r with
    | .inl result => pure result
    | .inr s => ephemeralLoop a run n (step + 1) s

/-- The run id of an input, or a fresh one. -/
def resolveRunId (run_input : RunInput) : AgentM String :=
  match run_input.run_id with
  | some run_id => pure run_id
  | none => ask .newRunId

/-- `_run_ephemeral`. -/
def runEphemeral (a : FoundationAgent) (run_input : RunInput) : AgentM RunResult :=
  if run_input.task.toList.length > a.profile.limits.max_task_chars then do
    let run_id ← resolveRunId run_input
    pure (failed run_id .invalidModelResponse []
      (runMetadata run_input (some "task exceeds max_task_chars")) 0 0)
  else do
    let run_id ← resolveRunId run_input
    let started_at ← ask .clock
    let opening ← Fallible.raising (openingMessages a run_input)
    let (knowledge_message, knowledge_tools_blocked) ← knowledgeContext a run_input
    let s : EphemeralState :=
      { events := [RunEvent.of .runStarted 0 started_at [("run_id", run_id)]]
        messages := opening ++ knowledge_message.toList
        tool_calls := 0
        model_turns := 0 }
    match a.tools.definitionsFor a.profile.permitted_tools with
    | .error e =>
      if e.kind = .toolRegistryError then
        pure (failed run_id .modelFailure s.events (runMetadata run_input (some e.str)) 0 0)
      else throw e
    | .ok tool_definitions =>
      let run : EphemeralRun :=
        { run_input, run_id, deadline := started_at + a.profile.timeout_seconds, tool_definitions
          knowledge_tools_blocked }
      ephemeralLoop a run a.profile.max_model_turns 1 s

/-! ## Section 4: Starting and resuming a durable run -/

/-- `DurableRunContext`. -/
structure DurableRunContext where
  run_input : RunInput
  run_id : String
  started_at_utc : Decimal
  deadline_monotonic : Decimal
  events : List RunEvent
  messages : List Message
  tool_calls : Nat
  model_turns : Nat
  next_step : Nat
  record : StoredRunRecord
  merge_completed_tool : Bool

/-- `compute_deadline_monotonic`. -/
def computeDeadlineMonotonic (expires_at_utc : Decimal) : AgentM Decimal := do
  let wall ← ask .wallClock
  let monotonic ← ask .clock
  pure (monotonic + Decimal.max 0 (expires_at_utc - wall))

/-- `str.strip()`. -/
def strip (s : String) : List Char :=
  (s.toList.dropWhile isSpace).reverse.dropWhile isSpace |>.reverse

/-- `resume_durable_run`. -/
def resumeDurableRun (a : FoundationAgent) (run_input : RunInput) (record : StoredRunRecord) :
    AgentM (RunResult ⊕ DurableRunContext) :=
  if profileFingerprint a.profile ≠ record.profile_fingerprint then
    throw (runStoreError "agent profile fingerprint mismatch")
  else if strip run_input.task ≠ strip record.task then
    throw (runStoreError "run task mismatch")
  else if record.durable_state.isTerminal then do
    let result ← Fallible.raising (recordToRunResult record)
    pure (.inl result)
  else if record.durable_state = .toolInFlight then do
    let result ← Fallible.raising (inFlightRunResult record inFlightReason)
    pure (.inl result)
  else do
    let deadline_monotonic ← computeDeadlineMonotonic record.expires_at_utc
    let events ← Fallible.raising (deserializeEvents record.events)
    let messages ← Fallible.raising (deserializeMessages record.messages)
    pure (.inr {
      run_input := run_input
      run_id := record.run_id
      started_at_utc := record.started_at_utc
      deadline_monotonic := deadline_monotonic
      events := events
      messages := messages
      tool_calls := record.tool_calls
      model_turns := record.model_turns
      next_step := record.next_step
      record := record
      merge_completed_tool := decide (record.durable_state = .toolCompleted) })

/-- The branch of `initialize_durable_run` that creates the run. -/
def createDurableRun (a : FoundationAgent) (run_input : RunInput) (run_id : String)
    (started_at_utc expires_at_utc : Decimal) (started_event : RunEvent) :
    AgentM (RunResult ⊕ DurableRunContext) := do
  let messages ← Fallible.raising (openingMessages a run_input)
  let record := newRunningRecord run_id a.profile run_input started_at_utc expires_at_utc messages
    [started_event]
  let created ← ask (.create record)
  Fallible.raising created
  let deadline_monotonic ← computeDeadlineMonotonic expires_at_utc
  pure (.inr {
    run_input := run_input
    run_id := run_id
    started_at_utc := started_at_utc
    deadline_monotonic := deadline_monotonic
    events := [started_event]
    messages := messages
    tool_calls := 0
    model_turns := 0
    next_step := 1
    record := record
    merge_completed_tool := false })

/-- `initialize_durable_run`, for an input that carries the run id. -/
def initializeDurableRun (a : FoundationAgent) (run_input : RunInput) (run_id : String)
    (started_at_utc expires_at_utc : Decimal) (started_event : RunEvent) :
    AgentM (RunResult ⊕ DurableRunContext) := do
  let loaded ← ask (.load run_id)
  match loaded with
  | .ok record => resumeDurableRun a run_input record
  | .error e =>
    if e.kind = .runStoreError then
      createDurableRun a run_input run_id started_at_utc expires_at_utc started_event
    else throw e

/-- `resolve_claim_conflict`. -/
def resolveClaimConflict (run_id : String) : AgentM RunResult := do
  let loaded ← ask (.load run_id)
  let current ← Fallible.raising loaded
  if current.durable_state.isTerminal then Fallible.raising (recordToRunResult current)
  else if current.durable_state = .toolInFlight then
    Fallible.raising (inFlightRunResult current "another worker claimed tool dispatch")
  else Fallible.raising (inFlightRunResult current "tool dispatch claim conflict")

/-! ## Section 5: The durable loop -/

/-- What does not change during one durable call. -/
structure DurableRun where
  run_input : RunInput
  run_id : String
  tool_definitions : List ToolDefinition
  knowledge_message : Option Message
  knowledge_tools_blocked : Bool

/-- `persist_record`, with the context that holds the saved record. -/
def persistRecord (ctx : DurableRunContext) (u : RecordUpdate) : AgentM DurableRunContext := do
  let saved ← saveRecord (ctx.record.update u) ctx.record.version
  pure { ctx with record := saved }

/-- The durable state of a terminal status. -/
def terminalState : RunStatus → DurableRunState
  | .completed => .completed
  | .cancelled => .cancelled
  | .recoveryRequired => .recoveryRequired
  | _ => .failed

/-- `_persist_terminal`. -/
def persistTerminal (ctx : DurableRunContext) (status : RunStatus) (final_text : Option String)
    (metadata : Option PyDict) : AgentM RunResult := do
  let terminal_metadata := PyDict.orElse metadata (runMetadata ctx.run_input none)
  let event ←
    if status ≠ .completed then
      pure (RunEvent.of .runFailed ctx.events.length 0 [("status", status.value)])
    else do
      let timestamp ← ask .clock
      pure (RunEvent.of .runCompleted ctx.events.length timestamp [("run_id", ctx.run_id)])
  let final := finalizeDurableRecord ctx.record (terminalState status) status final_text
    terminal_metadata (ctx.events ++ [event]) ctx.messages ctx.tool_calls ctx.model_turns
  let saved ← saveRecord final ctx.record.version
  Fallible.raising (recordToRunResult saved)

/-- End a durable run with a status and a reason. -/
def DurableRun.finish {α : Type} (run : DurableRun) (ctx : DurableRunContext) (status : RunStatus)
    (reason : Option String) : AgentM (RunResult ⊕ α) := do
  let metadata := reason.map fun reason => runMetadata run.run_input (some reason)
  let result ← persistTerminal ctx status none metadata
  pure (.inl result)

/-- How a call resumes a pending tool. -/
inductive ResumePhase where
  | prepared
  | completed
  deriving DecidableEq, Repr

/-- The tail of `_execute_durable_tool`: what an execution means for the run. -/
def durableObserve (a : FoundationAgent) (run : DurableRun) (step : Nat) (call : ToolCall)
    (request_id : String) (ctx : DurableRunContext) (execution : GovernedExecution) :
    AgentM (RunResult ⊕ DurableRunContext) :=
  if execution.status = .executed then
    let observation_text := observationText request_id execution
    if observation_text.length > a.profile.limits.max_observation_chars then
      run.finish ctx .limitReached (some "tool observation exceeds max_observation_chars")
    else do
      let timestamp ← ask .clock
      let message ← Fallible.raising (Message.new .tool (String.ofList observation_text)
        (some call.call_id) (some call.name) none)
      pure (.inr { ctx with
        events := ctx.events ++ [RunEvent.of .toolCompleted step timestamp
          [("request_id", request_id), ("execution_status", execution.status.value)]]
        messages := ctx.messages ++ [message] })
  else do
    let timestamp ← ask .clock
    let ctx := { ctx with
      events := ctx.events ++ [RunEvent.of .toolRejected step timestamp
        [("request_id", request_id), ("execution_status", execution.status.value),
          ("reason", execution.reason)]] }
    run.finish ctx (rejectionStatus execution.status) (some (rejectionReason execution))

/-- Claim the dispatch of a prepared action and execute it. -/
def durableDispatch (a : FoundationAgent) (ctx : DurableRunContext) (step : Nat) (call : ToolCall)
    (action : ActionIntent) : AgentM (RunResult ⊕ (DurableRunContext × GovernedExecution)) := do
  let answer ← ask (.claim ctx.run_id ctx.record.version)
  let claimed ← Fallible.raising answer
  match claimed with
  | none => do
    let result ← resolveClaimConflict ctx.run_id
    pure (.inl result)
  | some record => do
    let ctx := { ctx with record := record }
    let handler ← Fallible.raising (a.handler call.name)
    let execution ← ask (.execute action handler)
    let ctx := { ctx with tool_calls := ctx.tool_calls + 1 }
    let ctx ← persistRecord ctx {
      durable_state := some .toolCompleted
      events := some ctx.events
      messages := some ctx.messages
      tool_calls := some ctx.tool_calls
      model_turns := some ctx.model_turns
      next_step := some step
      pending_execution_status := some execution.status.value
      pending_execution_output := execution.output
      pending_execution_reason := some execution.reason }
    pure (.inr (ctx, execution))

/-- Save the prepared action of a fresh tool call. -/
def durablePrepare (a : FoundationAgent) (run : DurableRun) (step : Nat) (now : Decimal)
    (tool : GovernedTool) (call : ToolCall) (request_id : String) (ctx : DurableRunContext) :
    AgentM (RunResult ⊕ (DurableRunContext × ActionIntent)) :=
  match validateHistory (ctx.messages ++ [call.asMessage]) true with
  | .error e => run.finish ctx .invalidModelResponse (some e.str)
  | .ok () => do
    let timestamp ← ask .wallClock
    match captureAction a tool ctx.run_id call request_id timestamp with
    | .error e => run.finish ctx .invalidModelResponse (some e.str)
    | .ok action => do
      let ctx := { ctx with
        messages := ctx.messages ++ [call.asMessage]
        events := ctx.events ++ [toolRequested step now call tool.capability request_id] }
      let ctx ← persistRecord ctx {
        durable_state := some .toolPrepared
        events := some ctx.events
        messages := some ctx.messages
        model_turns := some ctx.model_turns
        next_step := some step
        pending_request_id := some request_id
        pending_idempotency_key := some request_id
        pending_action := some (pendingAction a.profile.agent_id call.name tool.capability
          call.arguments request_id action.timestamp
          (object [("run_id", .str ctx.run_id), ("tool_call_id", .str call.call_id)]))
        pending_tool_call_id := some call.call_id
        pending_tool_name := some call.name }
      pure (.inr (ctx, action))

/-- The request id of the pending tool, or a new one. -/
def pendingRequestId (a : FoundationAgent) (ctx : DurableRunContext) (step : Nat) : String :=
  match ctx.record.pending_request_id with
  | some request_id => if request_id = "" then a.request_id_factory ctx.run_id step else request_id
  | none => a.request_id_factory ctx.run_id step

/-- The action to dispatch: prepared now, or restored. -/
def durableAction (a : FoundationAgent) (run : DurableRun) (step : Nat) (now : Decimal)
    (tool : GovernedTool) (call : ToolCall) (request_id : String) (phase : Option ResumePhase)
    (ctx : DurableRunContext) : AgentM (RunResult ⊕ (DurableRunContext × ActionIntent)) :=
  if phase = none then durablePrepare a run step now tool call request_id ctx
  else do
    let action ← Fallible.raising (restoreAction ctx.record)
    pure (.inr (ctx, action))

/-- Dispatch an action and observe its execution. -/
def durableExecute (a : FoundationAgent) (run : DurableRun) (step : Nat) (call : ToolCall)
    (request_id : String) (ctx : DurableRunContext) (action : ActionIntent) :
    AgentM (RunResult ⊕ DurableRunContext) := do
  let dispatched ← durableDispatch a ctx step call action
  match dispatched with
  | .inl result => pure (.inl result)
  | .inr (ctx, execution) => durableObserve a run step call request_id ctx execution

/-- `_execute_durable_tool`. -/
def executeDurableTool (a : FoundationAgent) (run : DurableRun) (step : Nat) (now : Decimal)
    (call : ToolCall) (phase : Option ResumePhase) (ctx : DurableRunContext) :
    AgentM (RunResult ⊕ DurableRunContext) := do
  let tool ← Fallible.raising (a.tools.get call.name)
  let request_id := pendingRequestId a ctx step
  if phase = some .completed then do
    let execution ← Fallible.raising (restoreExecution ctx.record)
    durableObserve a run step call request_id ctx execution
  else if run.knowledge_tools_blocked then
    run.finish ctx .toolFailure (some "KNOWLEDGE_UNAVAILABLE")
  else do
    let cancelled ← ask .cancelled
    if cancelled then run.finish ctx .cancelled none
    else do
      let later ← ask .clock
      if later ≥ ctx.deadline_monotonic then run.finish ctx .timedOut none
      else do
        let prepared ← durableAction a run step now tool call request_id phase ctx
        match prepared with
        | .inl result => pure (.inl result)
        | .inr (ctx, action) => durableExecute a run step call request_id ctx action

/-- The end of an iteration: the evidence after a resumed tool, and the
    checkpoint for the next step. -/
def durableAdvance (run : DurableRun) (step : Nat) (phase : Option ResumePhase)
    (ctx : DurableRunContext) : AgentM DurableRunContext :=
  let ctx := { ctx with
    messages := ctx.messages ++ (if phase.isSome then run.knowledge_message.toList else []) }
  persistRecord ctx {
    durable_state := some .running
    events := some ctx.events
    messages := some ctx.messages
    tool_calls := some ctx.tool_calls
    model_turns := some ctx.model_turns
    next_step := some (step + 1)
    clear_pending := true }

/-- Execute a call, and advance unless the run ended. -/
def durableTool (a : FoundationAgent) (run : DurableRun) (step : Nat) (now : Decimal)
    (call : ToolCall) (phase : Option ResumePhase) (ctx : DurableRunContext) :
    AgentM (RunResult ⊕ DurableRunContext) := do
  let tool_result ← executeDurableTool a run step now call phase ctx
  match tool_result with
  | .inl result => pure (.inl result)
  | .inr ctx => do
    let ctx ← durableAdvance run step phase ctx
    pure (.inr ctx)

/-- What the model returned, once the turn is saved and the run is known to be
    neither cancelled nor expired. -/
def durableOutput (a : FoundationAgent) (run : DurableRun) (step : Nat) (now : Decimal)
    (output : ModelOutput) (ctx : DurableRunContext) : AgentM (RunResult ⊕ DurableRunContext) :=
  match output with
  | .text output =>
    if output.text.toList.length > a.profile.limits.max_model_text_chars then
      run.finish ctx .invalidModelResponse (some "model text exceeds max_model_text_chars")
    else do
      let timestamp ← ask .clock
      let ctx := { ctx with
        events := ctx.events ++ [RunEvent.of .modelResponse step timestamp [("kind", "text")]] }
      let result ← persistTerminal ctx .completed (some output.text) none
      pure (.inl result)
  | .other =>
    run.finish ctx .invalidModelResponse (some "model returned an unsupported output type")
  | .call call =>
    if call.name ∉ a.profile.permitted_tools then
      run.finish ctx .invalidModelResponse (some (notPermitted call.name))
    else if a.tools.contains call.name = false then
      run.finish ctx .invalidModelResponse (some (notRegistered call.name))
    else if ctx.tool_calls ≥ a.profile.max_tool_calls then
      run.finish ctx .limitReached none
    else durableTool a run step now call none ctx

/-- A model turn and what it leads to. -/
def durableTurn (a : FoundationAgent) (run : DurableRun) (step : Nat) (now : Decimal)
    (ctx : DurableRunContext) : AgentM (RunResult ⊕ DurableRunContext) := do
  let ctx := { ctx with
    events := ctx.events ++ [RunEvent.of .modelTurn step now [("run_id", run.run_id)]] }
  let answer ← ask (.complete a.profile.model_route ctx.messages run.tool_definitions
    a.profile.limits.max_output_tokens)
  match answer with
  | .error e =>
    if e.kind.isModelError then run.finish ctx .modelFailure (some e.str)
    else throw e
  | .ok output => do
    let ctx := { ctx with model_turns := ctx.model_turns + 1 }
    let ctx ← persistRecord ctx {
      durable_state := some .running
      events := some ctx.events
      messages := some ctx.messages
      model_turns := some ctx.model_turns
      next_step := some step }
    let cancelled ← ask .cancelled
    if cancelled then run.finish ctx .cancelled none
    else do
      let later ← ask .clock
      if later ≥ ctx.deadline_monotonic then run.finish ctx .timedOut none
      else durableOutput a run step now output ctx

/-- `RunStoreError` as the agent reports it. -/
def asAgentError (e : Exn) : Exn :=
  if e.kind = .runStoreError then Exn.of .foundationAgentError e.str else e

/-- One iteration of the durable loop. -/
def durableStep (a : FoundationAgent) (run : DurableRun) (step : Nat) (phase : Option ResumePhase)
    (ctx : DurableRunContext) : AgentM (RunResult ⊕ DurableRunContext) := do
  let cancelled ← ask .cancelled
  if cancelled then run.finish ctx .cancelled none
  else do
    let now ← ask .clock
    if now > ctx.deadline_monotonic then run.finish ctx .timedOut none
    else if ctx.messages.length > a.profile.limits.max_context_messages then
      run.finish ctx .limitReached (some "context message limit reached")
    else
      match phase with
      | none => durableTurn a run step now ctx
      | some phase => do
        let call ← Fallible.raising (Except.mapError asAgentError (restoreToolCall ctx.record))
        durableTool a run step now call (some phase) ctx

/-- The durable loop, with the number of steps left. -/
def durableLoop (a : FoundationAgent) (run : DurableRun) :
    Nat → Nat → Option ResumePhase → DurableRunContext → AgentM RunResult
  | 0, _, _, ctx => persistTerminal ctx .limitReached none none
  | n + 1, step, phase, ctx => do
    let r ← durableStep a run step phase ctx
    match r with
    | .inl result => pure result
    | .inr ctx => durableLoop a run n (step + 1) none ctx

/-- The pending tool a context resumes. -/
def DurableRunContext.phase (ctx : DurableRunContext) : Option ResumePhase :=
  if ctx.record.durable_state = .toolPrepared then some .prepared
  else if ctx.merge_completed_tool then some .completed
  else none

/-- `_run_durable` once the run is created or loaded. -/
def continueDurable (a : FoundationAgent) (run_input : RunInput) (run_id : String)
    (ctx : DurableRunContext) : AgentM RunResult := do
  let (knowledge_message, knowledge_tools_blocked) ← knowledgeContext a run_input
  let ctx := { ctx with
    messages := ctx.messages ++
      (if ctx.record.durable_state = .toolPrepared ∨ ctx.record.durable_state = .toolCompleted
        then [] else knowledge_message.toList) }
  match a.tools.definitionsFor a.profile.permitted_tools with
  | .error e =>
    if e.kind = .toolRegistryError then
      persistTerminal ctx .modelFailure none (some (runMetadata run_input (some e.str)))
    else throw e
  | .ok tool_definitions =>
    let run : DurableRun :=
      { run_input, run_id, tool_definitions, knowledge_message, knowledge_tools_blocked }
    durableLoop a run (a.profile.max_model_turns + 1 - ctx.next_step) ctx.next_step ctx.phase ctx

/-- `_run_durable`, for an agent with a run store. -/
def runDurable (a : FoundationAgent) (run_input : RunInput) : AgentM RunResult := do
  let run_id ← resolveRunId run_input
  let started_at_utc ← ask .wallClock
  let started_at_monotonic ← ask .clock
  if run_input.task.toList.length > a.profile.limits.max_task_chars then
    pure (failed run_id .invalidModelResponse []
      (runMetadata run_input (some "task exceeds max_task_chars")) 0 0)
  else do
    let started_event := RunEvent.of .runStarted 0 started_at_monotonic [("run_id", run_id)]
    let durable_input ← Fallible.raising (run_input.withRunId run_id)
    let initialized ← Fallible.mapError asAgentError
      (initializeDurableRun a durable_input run_id started_at_utc
        (started_at_utc + a.profile.timeout_seconds) started_event)
    match initialized with
    | .inl result => pure result
    | .inr ctx => continueDurable a run_input run_id ctx

end CBrain

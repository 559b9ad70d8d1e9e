import CBrain.Agent.Workers

/-! # How a durable call proceeds

    What a call does when nothing interferes: it creates its run or resumes a
    stored one, retrieves its evidence, takes a model turn and carries out the
    tool call the model asks for.  Clocks stand at zero and nobody cancels.

    These are lower bounds on the model: a call that may be cut off anywhere
    performs at least these operations in this order. -/

namespace CBrain

open Effect
open Json (Dict)

/-! ## Section 1: Rules -/

/-- An operation with its answer. -/
def event (o : AgentOp) (x : o.Ans) : AgentSig.Event := ⟨o, x⟩

section rules

variable {α β : Type}

theorem performs_ask {o : AgentOp} {x : o.Ans} {f : o.Ans → AgentM α} {log : List AgentSig.Event}
    (h : Fallible.Performs (f x) log) :
    Fallible.Performs (ask o >>= f) (event o x :: log) :=
  Prog.Performs.op (E := AgentSig) (o := o) (k := fun x => (f x).run) x h

theorem performs_raising {x : Raises β} {y : β} {f : β → AgentM α} {log : List AgentSig.Event}
    (hx : x = .ok y) (h : Fallible.Performs (f y) log) :
    Fallible.Performs (Fallible.raising x >>= f) log := Fallible.Performs.raising_bind hx h

theorem performs_persist {ctx : DurableRunContext} {u : RecordUpdate} {saved : StoredRunRecord}
    {f : DurableRunContext → AgentM α} {log : List AgentSig.Event}
    (h : Fallible.Performs (f { ctx with record := saved }) log) :
    Fallible.Performs (persistRecord ctx u >>= f)
      (event (.save (ctx.record.update u) ctx.record.version) (.ok saved) :: log) :=
  Prog.Performs.op _ h

theorem succeeds_ask {o : AgentOp} {x : o.Ans} {f : o.Ans → AgentM α} {log : List AgentSig.Event}
    {y : α} (h : Fallible.Succeeds (f x) log y) :
    Fallible.Succeeds (ask o >>= f) (event o x :: log) y :=
  Prog.Run.op (E := AgentSig) (o := o) (k := fun x => (f x).run) x h

theorem succeeds_raising {x : Raises β} {y : β} {f : β → AgentM α} {log : List AgentSig.Event}
    {z : α} (hx : x = .ok y) (h : Fallible.Succeeds (f y) log z) :
    Fallible.Succeeds (Fallible.raising x >>= f) log z := Fallible.Succeeds.raising_bind hx h

end rules

/-! ## Section 2: Creating and resuming a run -/

section calls

variable {a : FoundationAgent} {input : RunInput} {run_id : String} {opening : List Message}
  {tools : List ToolDefinition} {knowledge_message : Option Message} {blocked : Bool}
  {log retrieval : List AgentSig.Event}

/-- The first event of a run. -/
def startedEvent (run_id : String) : RunEvent :=
  RunEvent.of .runStarted 0 0 [("run_id", run_id)]

/-- The record a call creates at time zero. -/
def createdRecord (a : FoundationAgent) (input : RunInput) (run_id : String)
    (opening : List Message) : StoredRunRecord :=
  newRunningRecord run_id a.profile input 0 (0 + a.profile.timeout_seconds) opening
    [startedEvent run_id]

/-- The deadline of a call that starts at time zero. -/
def deadlineAtZero (expires_at_utc : Decimal) : Decimal := 0 + Decimal.max 0 (expires_at_utc - 0)

theorem deadlineAtZero_pos {a : FoundationAgent} :
    0 < deadlineAtZero (0 + a.profile.timeout_seconds) := by
  have hpos := a.profile.timeout_pos
  rw [Decimal.lt_def] at hpos ⊢
  simpa [deadlineAtZero] using hpos

/-- The context of a run that was created at time zero. -/
def createdContext (a : FoundationAgent) (input : RunInput) (run_id : String)
    (opening : List Message) : DurableRunContext where
  run_input := input
  run_id := run_id
  started_at_utc := 0
  deadline_monotonic := deadlineAtZero (0 + a.profile.timeout_seconds)
  events := [startedEvent run_id]
  messages := opening
  tool_calls := 0
  model_turns := 0
  next_step := 1
  record := createdRecord a input run_id opening
  merge_completed_tool := false

/-- The context of a run that was resumed at time zero. -/
def resumedContext (input : RunInput) (r : StoredRunRecord) (events : List RunEvent)
    (messages : List Message) : DurableRunContext where
  run_input := input
  run_id := r.run_id
  started_at_utc := r.started_at_utc
  deadline_monotonic := deadlineAtZero r.expires_at_utc
  events := events
  messages := messages
  tool_calls := r.tool_calls
  model_turns := r.model_turns
  next_step := r.next_step
  record := r
  merge_completed_tool := decide (r.durable_state = .toolCompleted)

theorem withRunId_self (h : input.run_id = some run_id) : input.withRunId run_id = .ok input := by
  unfold RunInput.withRunId
  rw [dif_pos (input.run_id_text run_id h)]
  cases input
  simp only at h
  subst h
  rfl

/-- A call whose run the store does not have creates it. -/
theorem succeeds_create (hopening : openingMessages a input = .ok opening) {e : Exn}
    (he : e.kind = .runStoreError) :
    Fallible.Succeeds (initializeDurableRun a input run_id 0 (0 + a.profile.timeout_seconds)
        (startedEvent run_id))
      [event (.load run_id) (.error e), event (.create (createdRecord a input run_id opening)) (.ok ()),
        event .wallClock 0, event .clock 0]
      (.inr (createdContext a input run_id opening)) := by
  unfold initializeDurableRun
  apply succeeds_ask
  show Fallible.Succeeds (if e.kind = .runStoreError then _ else throw e) _ _
  rw [if_pos he]
  unfold createDurableRun
  apply succeeds_raising hopening
  apply succeeds_ask
  apply succeeds_raising rfl
  apply succeeds_ask
  apply succeeds_ask
  exact Fallible.Succeeds.ofPure _

/-- A call whose run is stored and not over resumes it. -/
theorem succeeds_resume {r : StoredRunRecord} {events : List RunEvent} {messages : List Message}
    (hprofile : r.profile_fingerprint = profileFingerprint a.profile) (htask : r.task = input.task)
    (hterminal : r.durable_state.isTerminal = false) (hflight : r.durable_state ≠ .toolInFlight)
    (hevents : deserializeEvents r.events = .ok events)
    (hmessages : deserializeMessages r.messages = .ok messages)
    (started expires : Decimal) (started_event : RunEvent) :
    Fallible.Succeeds (initializeDurableRun a input run_id started expires started_event)
      [event (.load run_id) (.ok r), event .wallClock 0, event .clock 0]
      (.inr (resumedContext input r events messages)) := by
  unfold initializeDurableRun
  apply succeeds_ask
  show Fallible.Succeeds (resumeDurableRun a input r) _ _
  unfold resumeDurableRun
  rw [hprofile, htask, if_neg (not_not.mpr rfl), if_neg (not_not.mpr rfl), hterminal,
    if_neg Bool.false_ne_true, if_neg hflight]
  apply succeeds_ask
  apply succeeds_ask
  apply succeeds_raising hevents
  apply succeeds_raising hmessages
  exact Fallible.Succeeds.ofPure _

/-- What does not change during a call. -/
def loopRun (input : RunInput) (run_id : String) (tools : List ToolDefinition)
    (knowledge_message : Option Message) (blocked : Bool) : DurableRun where
  run_input := input
  run_id := run_id
  tool_definitions := tools
  knowledge_message := knowledge_message
  knowledge_tools_blocked := blocked

/-- The context with the evidence of a call that resumes no tool. -/
def DurableRunContext.withEvidence (ctx : DurableRunContext) (knowledge_message : Option Message) :
    DurableRunContext :=
  { ctx with messages := ctx.messages ++ knowledge_message.toList }

/-- From the start of a call to a loop that resumes no tool. -/
theorem performs_loop {ctx : DurableRunContext} {start : List AgentSig.Event}
    (hid : input.run_id = some run_id)
    (htask : input.task.toList.length ≤ a.profile.limits.max_task_chars)
    (hstart : Fallible.Succeeds (initializeDurableRun a input run_id 0
      (0 + a.profile.timeout_seconds) (startedEvent run_id)) start (.inr ctx))
    (hrunning : ctx.record.durable_state = .running) (hmerge : ctx.merge_completed_tool = false)
    (hknowledge : Fallible.Succeeds (knowledgeContext a input) retrieval (knowledge_message, blocked))
    (htools : a.tools.definitionsFor a.profile.permitted_tools = .ok tools)
    (hloop : Fallible.Performs (durableLoop a (loopRun input run_id tools knowledge_message blocked)
      (a.profile.max_model_turns + 1 - ctx.next_step) ctx.next_step none
      (ctx.withEvidence knowledge_message)) log) :
    Fallible.Performs (runDurable a input)
      (event .wallClock 0 :: event .clock 0 :: (start ++ (retrieval ++ log))) := by
  have hlong : ¬ input.task.toList.length > a.profile.limits.max_task_chars := by omega
  have hpending : ¬ (ctx.record.durable_state = .toolPrepared ∨
      ctx.record.durable_state = .toolCompleted) := by
    rw [hrunning]
    decide
  have hphase (ms : List Message) : DurableRunContext.phase { ctx with messages := ms } = none := by
    unfold DurableRunContext.phase
    simp [hrunning, hmerge]
  unfold runDurable resolveRunId
  rw [hid]
  apply performs_ask
  apply performs_ask
  rw [if_neg hlong]
  apply performs_raising (withRunId_self hid)
  apply Fallible.Performs.bind (Fallible.Succeeds.mapError hstart)
  show Fallible.Performs (continueDurable a input run_id ctx) _
  unfold continueDurable
  apply Fallible.Performs.bind hknowledge
  simp only [htools, if_neg hpending]
  rw [hphase]
  exact hloop

/-! ## Section 3: A step of the loop -/

/-- The record saved after a turn at time zero. -/
def turnSaved (run : DurableRun) (step : Nat) (ctx : DurableRunContext) : StoredRunRecord :=
  ctx.record.update {
    durable_state := some .running
    events := some (ctx.events ++ [RunEvent.of .modelTurn step 0 [("run_id", run.run_id)]])
    messages := some ctx.messages
    model_turns := some (ctx.model_turns + 1)
    next_step := some step }

/-- The context after a turn was saved. -/
def turnContext (run : DurableRun) (step : Nat) (ctx : DurableRunContext) : DurableRunContext :=
  { ctx with
    events := ctx.events ++ [RunEvent.of .modelTurn step 0 [("run_id", run.run_id)]]
    model_turns := ctx.model_turns + 1
    record := { turnSaved run step ctx with version := ctx.record.version + 1 } }

/-- The events of a turn: the answer of the model, its save, and the checks
    before the answer is looked at. -/
def turnEvents (a : FoundationAgent) (run : DurableRun) (step : Nat) (output : ModelOutput)
    (ctx : DurableRunContext) : List AgentSig.Event :=
  [event .cancelled false, event .clock 0,
    event (.complete a.profile.model_route ctx.messages run.tool_definitions
      a.profile.limits.max_output_tokens) (.ok output),
    event (.save (turnSaved run step ctx) ctx.record.version) (.ok (turnContext run step ctx).record),
    event .cancelled false, event .clock 0]

/-- Time zero is before a deadline. -/
theorem zero_before {deadline : Decimal} (h : 0 < deadline) :
    ¬ (0 : Decimal) > deadline ∧ ¬ (0 : Decimal) ≥ deadline := by
  rw [Decimal.lt_def] at h
  constructor
  · rw [gt_iff_lt, Decimal.lt_def]
    exact not_lt.mpr h.le
  · rw [ge_iff_le, Decimal.le_def]
    exact not_le.mpr h

/-- A call takes a model turn and goes on with the answer. -/
theorem performs_turn {run : DurableRun} {n step : Nat} {output : ModelOutput}
    {ctx : DurableRunContext} (hdeadline : 0 < ctx.deadline_monotonic)
    (hmessages : ctx.messages.length ≤ a.profile.limits.max_context_messages)
    (hrest : Fallible.Performs (durableOutput a run step 0 output (turnContext run step ctx)) log) :
    Fallible.Performs (durableLoop a run (n + 1) step none ctx)
      (turnEvents a run step output ctx ++ log) := by
  obtain ⟨hlate, hover⟩ := zero_before hdeadline
  have hlong : ¬ ctx.messages.length > a.profile.limits.max_context_messages := by omega
  apply Fallible.Performs.first
  unfold durableStep
  apply performs_ask
  rw [if_neg Bool.false_ne_true]
  apply performs_ask
  rw [if_neg hlate, if_neg hlong]
  apply performs_ask
  apply performs_persist
  apply performs_ask
  rw [if_neg Bool.false_ne_true]
  apply performs_ask
  rw [if_neg hover]
  exact hrest

/-! ## Section 4: A tool call -/

/-- The context with a prepared call. -/
def DurableRunContext.withCall (ctx : DurableRunContext) (step : Nat) (tool : GovernedTool)
    (call : ToolCall) (request_id : String) : DurableRunContext :=
  { ctx with
    messages := ctx.messages ++ [call.asMessage]
    events := ctx.events ++ [toolRequested step 0 call tool.capability request_id] }

/-- The record saved with a prepared call. -/
def preparedSaved (a : FoundationAgent) (step : Nat) (tool : GovernedTool) (call : ToolCall)
    (request_id : String) (action : ActionIntent) (ctx : DurableRunContext) : StoredRunRecord :=
  ctx.record.update {
    durable_state := some .toolPrepared
    events := some (ctx.withCall step tool call request_id).events
    messages := some (ctx.withCall step tool call request_id).messages
    model_turns := some ctx.model_turns
    next_step := some step
    pending_request_id := some request_id
    pending_idempotency_key := some request_id
    pending_action := some (pendingAction a.profile.agent_id call.name tool.capability
      call.arguments request_id action.timestamp
      (object [("run_id", .str ctx.run_id), ("tool_call_id", .str call.call_id)]))
    pending_tool_call_id := some call.call_id
    pending_tool_name := some call.name }

/-- The context after a call was prepared. -/
def preparedContext (a : FoundationAgent) (step : Nat) (tool : GovernedTool) (call : ToolCall)
    (request_id : String) (action : ActionIntent) (ctx : DurableRunContext) : DurableRunContext :=
  { ctx.withCall step tool call request_id with
    record := { preparedSaved a step tool call request_id action ctx with
      version := ctx.record.version + 1 } }

/-- The events that prepare a call. -/
def prepareEvents (a : FoundationAgent) (step : Nat) (tool : GovernedTool) (call : ToolCall)
    (request_id : String) (action : ActionIntent) (ctx : DurableRunContext) : List AgentSig.Event :=
  [event .cancelled false, event .clock 0, event .wallClock 0,
    event (.save (preparedSaved a step tool call request_id action ctx) ctx.record.version)
      (.ok (preparedContext a step tool call request_id action ctx).record)]

/-- The context after a dispatch was claimed and executed. -/
def executedContext (ctx : DurableRunContext) : DurableRunContext :=
  { ctx with
    record := ctx.record.inFlight (ctx.record.version + 1)
    tool_calls := ctx.tool_calls + 1 }

/-- The record saved after the execution. -/
def completedSaved (step : Nat) (execution : GovernedExecution) (ctx : DurableRunContext) :
    StoredRunRecord :=
  ctx.record.update {
    durable_state := some .toolCompleted
    events := some ctx.events
    messages := some ctx.messages
    tool_calls := some ctx.tool_calls
    model_turns := some ctx.model_turns
    next_step := some step
    pending_execution_status := some execution.status.value
    pending_execution_output := execution.output
    pending_execution_reason := some execution.reason }

/-- The context after the execution was saved. -/
def completedContext (step : Nat) (execution : GovernedExecution) (ctx : DurableRunContext) :
    DurableRunContext :=
  { ctx with
    record := { completedSaved step execution ctx with version := ctx.record.version + 1 } }

/-- The events that dispatch a prepared call. -/
def dispatchEvents (step : Nat) (tool_name : String) (action : ActionIntent)
    (execution : GovernedExecution) (ctx : DurableRunContext) : List AgentSig.Event :=
  [event (.claim ctx.run_id ctx.record.version) (.ok (some (executedContext ctx).record)),
    event (.execute action tool_name) execution,
    event (.save (completedSaved step execution (executedContext ctx)) (ctx.record.version + 1))
      (.ok (completedContext step execution (executedContext ctx)).record)]

/-- A call prepares the tool call of its turn. -/
theorem performs_prepare {run : DurableRun} {step : Nat} {tool : GovernedTool} {call : ToolCall}
    {action : ActionIntent} {ctx : DurableRunContext} (hdeadline : 0 < ctx.deadline_monotonic)
    (hblocked : run.knowledge_tools_blocked = false)
    (hpermitted : call.name ∈ a.profile.permitted_tools) (htool : a.tools.get call.name = .ok tool)
    (hbudget : ctx.tool_calls < a.profile.max_tool_calls)
    (hhistory : validateHistory (ctx.messages ++ [call.asMessage]) true = .ok ())
    (haction : captureAction a tool ctx.run_id call (pendingRequestId a ctx step) 0 = .ok action)
    (hrest : Fallible.Performs (durableExecute a run step call (pendingRequestId a ctx step)
      (preparedContext a step tool call (pendingRequestId a ctx step) action ctx) action) log) :
    Fallible.Performs (durableOutput a run step 0 (.call call) ctx)
      (prepareEvents a step tool call (pendingRequestId a ctx step) action ctx ++ log) := by
  obtain ⟨-, hover⟩ := zero_before hdeadline
  have hcontains : ¬ a.tools.contains call.name = false := by
    unfold ToolRegistry.contains
    unfold ToolRegistry.get at htool
    cases hfind : a.tools.find? call.name with
    | none =>
      rw [hfind] at htool
      cases htool
    | some t => simp
  have hroom : ¬ ctx.tool_calls ≥ a.profile.max_tool_calls := by omega
  have hphase : ¬ (none : Option ResumePhase) = some .completed := by decide
  unfold durableOutput
  show Fallible.Performs (if call.name ∉ a.profile.permitted_tools then _ else _) _
  rw [if_neg (not_not.mpr hpermitted), if_neg hcontains, if_neg hroom]
  apply Fallible.Performs.first
  unfold executeDurableTool
  apply performs_raising htool
  dsimp only
  rw [if_neg hphase, hblocked, if_neg Bool.false_ne_true]
  apply performs_ask
  rw [if_neg Bool.false_ne_true]
  apply performs_ask
  rw [if_neg hover]
  unfold durableAction
  rw [if_pos rfl]
  unfold durablePrepare
  rw [hhistory]
  apply @Fallible.Performs.bind _ _ _ _ _ _ [_, _]
  · apply succeeds_ask
    rw [haction]
    exact Prog.Run.op _ (Prog.Run.ret _)
  · exact hrest

/-- A call claims, executes and saves. -/
theorem performs_dispatch {run : DurableRun} {step : Nat} {call : ToolCall} {action : ActionIntent}
    {request_id : String} {execution : GovernedExecution} {ctx : DurableRunContext}
    (hpermitted : call.name ∈ a.profile.permitted_tools)
    (hrest : Fallible.Performs (durableObserve a run step call request_id
      (completedContext step execution (executedContext ctx)) execution) log) :
    Fallible.Performs (durableExecute a run step call request_id ctx action)
      (dispatchEvents step call.name action execution ctx ++ log) := by
  have hhandler : a.handler call.name = .ok call.name := by
    unfold FoundationAgent.handler
    rw [if_pos hpermitted]
  unfold durableExecute durableDispatch
  apply @Fallible.Performs.bind _ _ _ _ _ _ [_, _, _]
  · apply succeeds_ask
    apply succeeds_raising rfl
    apply succeeds_raising hhandler
    apply succeeds_ask
    exact Prog.Run.op _ (Prog.Run.ret _)
  · exact hrest

/-! ## Section 5: First turns -/

/-- The events of a call that creates its run, up to its first turn. -/
def firstTurnEvents (a : FoundationAgent) (input : RunInput) (run : DurableRun)
    (opening : List Message) (retrieval : List AgentSig.Event) (output : ModelOutput) :
    List AgentSig.Event :=
  event .wallClock 0 :: event .clock 0 ::
    ([event (.load run.run_id) (.error (unknownRun run.run_id)),
        event (.create (createdRecord a input run.run_id opening)) (.ok ()), event .wallClock 0,
        event .clock 0] ++
      (retrieval ++ turnEvents a run 1 output
        ((createdContext a input run.run_id opening).withEvidence run.knowledge_message)))

/-- The events of a call that resumes a running record, up to its first turn. -/
def resumedTurnEvents (a : FoundationAgent) (run : DurableRun) (ctx : DurableRunContext)
    (retrieval : List AgentSig.Event) (output : ModelOutput) : List AgentSig.Event :=
  event .wallClock 0 :: event .clock 0 ::
    ([event (.load run.run_id) (.ok ctx.record), event .wallClock 0, event .clock 0] ++
      (retrieval ++ turnEvents a run ctx.next_step output (ctx.withEvidence run.knowledge_message)))

/-- A call that creates its run takes the first turn. -/
theorem performs_firstTurn (output : ModelOutput) (hid : input.run_id = some run_id)
    (htask : input.task.toList.length ≤ a.profile.limits.max_task_chars)
    (hopening : openingMessages a input = .ok opening)
    (hknowledge : Fallible.Succeeds (knowledgeContext a input) retrieval (knowledge_message, blocked))
    (htools : a.tools.definitionsFor a.profile.permitted_tools = .ok tools)
    (hmessages : (opening ++ knowledge_message.toList).length ≤
      a.profile.limits.max_context_messages)
    (hrest : Fallible.Performs (durableOutput a (loopRun input run_id tools knowledge_message blocked)
      1 0 output (turnContext (loopRun input run_id tools knowledge_message blocked) 1
        ((createdContext a input run_id opening).withEvidence knowledge_message))) log) :
    Fallible.Performs (runDurable a input)
      (firstTurnEvents a input (loopRun input run_id tools knowledge_message blocked) opening retrieval
        output ++ log) := by
  have hpos := a.profile.max_model_turns_pos
  have hsteps : a.profile.max_model_turns + 1 - (createdContext a input run_id opening).next_step =
      (a.profile.max_model_turns - 1) + 1 := by
    show a.profile.max_model_turns + 1 - 1 = _
    omega
  have hdeadline : 0 < ((createdContext a input run_id opening).withEvidence
      knowledge_message).deadline_monotonic := deadlineAtZero_pos
  have hturn := performs_turn (n := a.profile.max_model_turns - 1) hdeadline hmessages hrest
  have hstart : Fallible.Succeeds (initializeDurableRun a input run_id 0
      (0 + a.profile.timeout_seconds) (startedEvent run_id)) _ _ :=
    succeeds_create hopening (e := unknownRun run_id) rfl
  have hrunning : (createdContext a input run_id opening).record.durable_state = .running := rfl
  have hmerge : (createdContext a input run_id opening).merge_completed_tool = false := rfl
  rw [← hsteps] at hturn
  have hall := performs_loop hid htask hstart hrunning hmerge hknowledge htools hturn
  simpa only [firstTurnEvents, loopRun, List.cons_append, List.append_assoc, List.nil_append]
    using hall

/-- A call that resumes a running record takes the turn of its step. -/
theorem performs_resumedTurn (output : ModelOutput) {r : StoredRunRecord} {events : List RunEvent}
    {messages : List Message} (hid : input.run_id = some run_id)
    (htask : input.task.toList.length ≤ a.profile.limits.max_task_chars)
    (hprofile : r.profile_fingerprint = profileFingerprint a.profile) (hsame : r.task = input.task)
    (hrunning : r.durable_state = .running) (hevents : deserializeEvents r.events = .ok events)
    (hdecoded : deserializeMessages r.messages = .ok messages)
    (hstep : r.next_step ≤ a.profile.max_model_turns)
    (hdeadline : 0 < deadlineAtZero r.expires_at_utc)
    (hknowledge : Fallible.Succeeds (knowledgeContext a input) retrieval (knowledge_message, blocked))
    (htools : a.tools.definitionsFor a.profile.permitted_tools = .ok tools)
    (hmessages : (messages ++ knowledge_message.toList).length ≤
      a.profile.limits.max_context_messages)
    (hrest : Fallible.Performs (durableOutput a (loopRun input run_id tools knowledge_message blocked)
      r.next_step 0 output (turnContext (loopRun input run_id tools knowledge_message blocked)
        r.next_step ((resumedContext input r events messages).withEvidence knowledge_message))) log) :
    Fallible.Performs (runDurable a input)
      (resumedTurnEvents a (loopRun input run_id tools knowledge_message blocked)
        (resumedContext input r events messages) retrieval output ++ log) := by
  have hsteps : a.profile.max_model_turns + 1 - (resumedContext input r events messages).next_step =
      (a.profile.max_model_turns - r.next_step) + 1 := by
    show a.profile.max_model_turns + 1 - r.next_step = _
    omega
  have hdeadline' : 0 < ((resumedContext input r events messages).withEvidence
      knowledge_message).deadline_monotonic := hdeadline
  have hturn := performs_turn (n := a.profile.max_model_turns - r.next_step) hdeadline' hmessages
    hrest
  have hterminal : r.durable_state.isTerminal = false := by
    rw [hrunning]
    rfl
  have hflight : r.durable_state ≠ .toolInFlight := by
    rw [hrunning]
    decide
  have hmerge : (resumedContext input r events messages).merge_completed_tool = false := by
    show decide (r.durable_state = .toolCompleted) = false
    rw [hrunning]
    rfl
  have hstart : Fallible.Succeeds (initializeDurableRun a input run_id 0
      (0 + a.profile.timeout_seconds) (startedEvent run_id)) _ _ :=
    succeeds_resume hprofile hsame hterminal hflight hevents hdecoded 0
      (0 + a.profile.timeout_seconds) (startedEvent run_id)
  rw [← hsteps] at hturn
  have hall := performs_loop hid htask hstart hrunning hmerge hknowledge htools hturn
  simpa only [resumedTurnEvents, loopRun, resumedContext, List.cons_append, List.append_assoc,
    List.nil_append] using hall

/-! ## Section 6: What the in-memory store answers -/

/-- The operation is one of the run store. -/
def AgentOp.usesStore : AgentOp → Bool
  | .create _ | .load _ | .save _ _ | .claim _ _ => true
  | _ => false

/-- Other operations leave the store as it is. -/
theorem answered_quiet {store : RunStore} {s : store.State} {log : List AgentSig.Event}
    (h : ∀ e ∈ log, e.1.usesStore = false) : Config.Answered store.answering s log s := by
  induction log with
  | nil => exact Config.Answered.nil s
  | cons e log ih =>
    have hrest := ih fun e' he' => h e' (List.mem_cons_of_mem _ he')
    have hquiet := h e List.mem_cons_self
    obtain ⟨o, x⟩ := e
    have hfirst : store.answering s o x s := by
      cases o with
      | clock | wallClock | cancelled | newRunId | retrieve _ | complete _ _ _ _ | execute _ _ =>
        exact rfl
      | create _ | load _ | save _ _ | claim _ _ => cases hquiet
    exact Config.Answered.cons hfirst hrest

variable {m : Records}

/-- A turn is stored over the record it was taken from. -/
theorem answered_turn {run : DurableRun} {step : Nat} {output : ModelOutput}
    {ctx : DurableRunContext} (hm : m ctx.record.run_id = some ctx.record) :
    Config.Answered inMemoryRunStore.answering m (turnEvents a run step output ctx)
      (Function.update m ctx.record.run_id (some (turnContext run step ctx).record)) := by
  have hbefore : Config.Answered inMemoryRunStore.answering m
      [event .cancelled false, event .clock 0,
        event (.complete a.profile.model_route ctx.messages run.tool_definitions
          a.profile.limits.max_output_tokens) (.ok output)] m :=
    answered_quiet (by simp [event, AgentOp.usesStore])
  have hafter (s : Records) : Config.Answered inMemoryRunStore.answering s
      [event .cancelled false, event .clock 0] s :=
    answered_quiet (by simp [event, AgentOp.usesStore])
  have hsave : inMemoryRunStore.answering m (.save (turnSaved run step ctx) ctx.record.version)
      (.ok (turnContext run step ctx).record)
      (Function.update m ctx.record.run_id (some (turnContext run step ctx).record)) :=
    InMemoryRunStore.answering_save (r := turnSaved run step ctx) hm rfl
  exact hbefore.append (Config.Answered.cons hsave (hafter _))

/-- A prepared call is stored over the turn. -/
theorem answered_prepare {step : Nat} {tool : GovernedTool} {call : ToolCall} {request_id : String}
    {action : ActionIntent} {ctx : DurableRunContext} (hm : m ctx.record.run_id = some ctx.record) :
    Config.Answered inMemoryRunStore.answering m
      (prepareEvents a step tool call request_id action ctx)
      (Function.update m ctx.record.run_id
        (some (preparedContext a step tool call request_id action ctx).record)) := by
  have hbefore : Config.Answered inMemoryRunStore.answering m
      [event .cancelled false, event .clock 0, event .wallClock 0] m :=
    answered_quiet (by simp [event, AgentOp.usesStore])
  have hsave : inMemoryRunStore.answering m
      (.save (preparedSaved a step tool call request_id action ctx) ctx.record.version)
      (.ok (preparedContext a step tool call request_id action ctx).record)
      (Function.update m ctx.record.run_id
        (some (preparedContext a step tool call request_id action ctx).record)) :=
    InMemoryRunStore.answering_save (r := preparedSaved a step tool call request_id action ctx) hm rfl
  exact hbefore.append (Config.Answered.cons hsave (Config.Answered.nil _))

/-- A prepared call is claimed, and its execution stored. -/
theorem answered_dispatch {step : Nat} {tool_name : String} {action : ActionIntent}
    {execution : GovernedExecution} {ctx : DurableRunContext} (hid : ctx.record.run_id = ctx.run_id)
    (hm : m ctx.run_id = some ctx.record) (hstate : ctx.record.durable_state = .toolPrepared) :
    Config.Answered inMemoryRunStore.answering m (dispatchEvents step tool_name action execution ctx)
      (Function.update (Function.update m ctx.run_id (some (executedContext ctx).record)) ctx.run_id
        (some (completedContext step execution (executedContext ctx)).record)) := by
  have hclaim : inMemoryRunStore.answering m (.claim ctx.run_id ctx.record.version)
      (.ok (some (executedContext ctx).record))
      (Function.update m ctx.run_id (some (executedContext ctx).record)) :=
    InMemoryRunStore.answering_claim hm rfl hstate
  have hexecute (s : Records) : inMemoryRunStore.answering s (.execute action tool_name) execution s :=
    rfl
  have hheld : Function.update m ctx.run_id (some (executedContext ctx).record)
      (completedSaved step execution (executedContext ctx)).run_id = some (executedContext ctx).record := by
    show Function.update m ctx.run_id _ ctx.record.run_id = _
    rw [hid, Function.update_self]
  have hsave : inMemoryRunStore.answering
      (Function.update m ctx.run_id (some (executedContext ctx).record))
      (.save (completedSaved step execution (executedContext ctx)) (ctx.record.version + 1))
      (.ok (completedContext step execution (executedContext ctx)).record)
      (Function.update (Function.update m ctx.run_id (some (executedContext ctx).record))
        ctx.record.run_id (some (completedContext step execution (executedContext ctx)).record)) :=
    InMemoryRunStore.answering_save hheld rfl
  rw [hid] at hsave
  exact Config.Answered.cons hclaim (Config.Answered.cons (hexecute _)
    (Config.Answered.cons hsave (Config.Answered.nil _)))

/-- A run that is not stored is created and its first turn stored. -/
theorem answered_firstTurn {run : DurableRun} {output : ModelOutput} (hm : m run.run_id = none)
    (hretrieval : ∀ e ∈ retrieval, e.1.usesStore = false) :
    Config.Answered inMemoryRunStore.answering m
      (firstTurnEvents a input run opening retrieval output)
      (Function.update (Function.update m run.run_id (some (createdRecord a input run.run_id opening)))
        run.run_id (some (turnContext run 1
          ((createdContext a input run.run_id opening).withEvidence run.knowledge_message)).record)) := by
  have hcreate : inMemoryRunStore.answering m (.create (createdRecord a input run.run_id opening))
      (.ok ()) (Function.update m run.run_id (some (createdRecord a input run.run_id opening))) :=
    InMemoryRunStore.answering_create (r := createdRecord a input run.run_id opening) hm
  have hclocks (s : Records) : Config.Answered inMemoryRunStore.answering s
      [event .wallClock 0, event .clock 0] s :=
    answered_quiet (by simp [event, AgentOp.usesStore])
  have hturn : Config.Answered inMemoryRunStore.answering
      (Function.update m run.run_id (some (createdRecord a input run.run_id opening)))
      (turnEvents a run 1 output
        ((createdContext a input run.run_id opening).withEvidence run.knowledge_message)) _ :=
    answered_turn (Function.update_self ..)
  have hquiet (s : Records) : Config.Answered inMemoryRunStore.answering s retrieval s :=
    answered_quiet hretrieval
  have hrest := (hquiet _).append hturn
  exact (hclocks m).append (Config.Answered.cons (InMemoryRunStore.answering_absent hm)
    (Config.Answered.cons hcreate ((hclocks _).append hrest)))

/-- A stored run is resumed and its turn stored. -/
theorem answered_resumedTurn {run : DurableRun} {ctx : DurableRunContext} {output : ModelOutput}
    (hm : m run.run_id = some ctx.record) (hid : ctx.record.run_id = run.run_id)
    (hretrieval : ∀ e ∈ retrieval, e.1.usesStore = false) :
    Config.Answered inMemoryRunStore.answering m (resumedTurnEvents a run ctx retrieval output)
      (Function.update m run.run_id (some
        (turnContext run ctx.next_step (ctx.withEvidence run.knowledge_message)).record)) := by
  have hclocks (s : Records) : Config.Answered inMemoryRunStore.answering s
      [event .wallClock 0, event .clock 0] s :=
    answered_quiet (by simp [event, AgentOp.usesStore])
  have hheld : m ctx.record.run_id = some ctx.record := by rw [hid, hm]
  have hturn : Config.Answered inMemoryRunStore.answering m
      (turnEvents a run ctx.next_step output (ctx.withEvidence run.knowledge_message)) _ :=
    answered_turn hheld
  have hquiet : Config.Answered inMemoryRunStore.answering m retrieval m :=
    answered_quiet hretrieval
  have hrest := hquiet.append hturn
  have hstate : (ctx.withEvidence run.knowledge_message).record.run_id = run.run_id := hid
  rw [hstate] at hrest
  exact (hclocks m).append (Config.Answered.cons (InMemoryRunStore.answering_load hm)
    ((hclocks m).append hrest))

end calls

/-! ## Section 7: A run with one model turn -/

/-- A tool that looks a record up. -/
def lookTool : GovernedTool where
  name := "look"
  capability := "records.read"
  description := "Look a record up."
  input_schema := object [("type", .str "object")]
  name_text := by decide
  capability_text := by decide
  description_text := by decide

def lookDefinition : ToolDefinition where
  name := "look"
  description := "Look a record up."
  input_schema := object [("type", .str "object")]
  valid := by rfl

/-- A profile with one model turn and that tool. -/
def soloProfile : AgentProfile where
  agent_id := "solo"
  instructions := "Answer."
  model_route := "default"
  permitted_tools := ["look"]
  max_model_turns := 1
  max_tool_calls := 1
  timeout_seconds := Decimal.ofInt 60 0
  limits := RunLimits.default
  knowledge_required_for_tools := false
  agent_id_text := by decide
  instructions_text := by decide
  model_route_text := by decide
  permitted_sorted := List.pairwise_singleton _ _
  permitted_text := by decide
  max_model_turns_pos := by decide
  timeout_pos := by
    rw [Decimal.lt_def, Decimal.toRat_zero, Decimal.toRat_ofInt]
    norm_num

/-- An agent with that profile. -/
def soloAgent (knowledge : Bool) : FoundationAgent where
  profile := soloProfile
  tools := ⟨[lookTool], List.nodup_singleton _⟩
  request_id_factory := fun _ _ => "request"
  knowledge := knowledge
  request_id_factory_text := by simp

/-- A run of that agent. -/
def soloInput (metadata : Option PyDict) : RunInput where
  task := "Greet."
  run_id := some "run"
  metadata := metadata
  task_text := by decide
  run_id_text := by
    intro id h
    obtain rfl := Option.some.inj h
    decide

/-- The messages the run opens with. -/
def soloOpening : List Message :=
  [⟨.system, "Answer.", none, none, none, by decide⟩, ⟨.user, "Greet.", none, none, none, by decide⟩]

theorem soloOpening_ok (knowledge : Bool) (metadata : Option PyDict) :
    openingMessages (soloAgent knowledge) (soloInput metadata) = .ok soloOpening := by
  have hsystem : Message.text .system "Answer." =
      .ok ⟨.system, "Answer.", none, none, none, by decide⟩ := rfl
  have huser : Message.text .user "Greet." = .ok ⟨.user, "Greet.", none, none, none, by decide⟩ := rfl
  show (do
    let system ← Message.text .system "Answer."
    let user ← Message.text .user "Greet."
    return [system, user]) = _
  rw [hsystem, huser]
  rfl

/-- What the model answers. -/
def soloOutput : ModelOutput := .text ⟨"Hello.", by decide⟩

/-- A run of that agent with what its knowledge runtime retrieves. -/
structure SoloRun where
  knowledge : Bool
  metadata : Option PyDict
  evidence : Option Message
  retrieval : List AgentSig.Event
  retrieves : Fallible.Succeeds (knowledgeContext (soloAgent knowledge) (soloInput metadata)) retrieval
    (evidence, false)
  quiet : ∀ e ∈ retrieval, e.1.usesStore = false

/-- A solo run without evidence. -/
def soloPlain : SoloRun where
  knowledge := false
  metadata := none
  evidence := none
  retrieval := []
  retrieves := Fallible.Succeeds.ofPure _
  quiet := by simp

namespace SoloRun

variable (s : SoloRun)

abbrev agent : FoundationAgent := soloAgent s.knowledge

abbrev input : RunInput := soloInput s.metadata

/-- Any number of calls of the run. -/
def workers : Workers Nat where
  profile := soloProfile
  agent := fun _ => s.agent
  input := fun _ => s.input
  same_profile := fun _ => rfl

/-- What does not change during a call. -/
abbrev run : DurableRun := loopRun s.input "run" [lookDefinition] s.evidence false

/-- What the first call holds after its turn. -/
def turn : DurableRunContext :=
  turnContext s.run 1 ((createdContext s.agent s.input "run" soloOpening).withEvidence s.evidence)

/-- What a second call resumes. -/
def resumed : DurableRunContext :=
  resumedContext s.input s.turn.record s.turn.events s.turn.messages

/-- What the second call holds after the same turn. -/
def again : DurableRunContext := turnContext s.run 1 (s.resumed.withEvidence s.evidence)

/-- The events of the first call, up to its turn. -/
def first : List AgentSig.Event :=
  firstTurnEvents s.agent s.input s.run soloOpening s.retrieval soloOutput

/-- The events of the second call, up to the same turn. -/
def second : List AgentSig.Event := resumedTurnEvents s.agent s.run s.resumed s.retrieval soloOutput

/-- The request of a call that starts from a context. -/
def request (ctx : DurableRunContext) : AgentSig.Event :=
  event (.complete s.agent.profile.model_route (ctx.withEvidence s.evidence).messages [lookDefinition]
    s.agent.profile.limits.max_output_tokens) (.ok soloOutput)

theorem request_mem_second : s.request s.resumed ∈ s.second := by
  unfold second resumedTurnEvents turnEvents
  refine List.mem_cons_of_mem _ (List.mem_cons_of_mem _ (List.mem_append_right _
    (List.mem_append_right _ ?_)))
  -- The request comes after the clocks of the turn.
  exact List.mem_cons_of_mem _ (List.mem_cons_of_mem _ List.mem_cons_self)

theorem length_evidence : s.evidence.toList.length ≤ 1 := by
  cases s.evidence <;> simp

theorem first_performs : Fallible.Performs (runDurable s.agent s.input) s.first := by
  have htask : s.input.task.toList.length ≤ s.agent.profile.limits.max_task_chars := by
    show "Greet.".toList.length ≤ RunLimits.default.max_task_chars
    decide
  have hopening : openingMessages s.agent s.input = .ok soloOpening := soloOpening_ok _ _
  have htools : s.agent.tools.definitionsFor s.agent.profile.permitted_tools =
      .ok [lookDefinition] := rfl
  have hroom : 3 ≤ s.agent.profile.limits.max_context_messages := by
    show 3 ≤ RunLimits.default.max_context_messages
    decide
  have hmessages : (soloOpening ++ s.evidence.toList).length ≤
      s.agent.profile.limits.max_context_messages := by
    have hone := s.length_evidence
    have htwo : soloOpening.length = 2 := rfl
    rw [List.length_append]
    omega
  have h := performs_firstTurn soloOutput rfl htask hopening s.retrieves htools hmessages
    (Fallible.Performs.nil _)
  rw [List.append_nil] at h
  exact h

theorem second_performs : Fallible.Performs (runDurable s.agent s.input) s.second := by
  have htask : s.input.task.toList.length ≤ s.agent.profile.limits.max_task_chars := by
    show "Greet.".toList.length ≤ RunLimits.default.max_task_chars
    decide
  have hprofile : s.turn.record.profile_fingerprint = profileFingerprint s.agent.profile := rfl
  have hsame : s.turn.record.task = s.input.task := rfl
  have hrunning : s.turn.record.durable_state = .running := rfl
  have hevents : deserializeEvents s.turn.record.events = .ok s.turn.events :=
    deserializeEvents_serialized _
  have hdecoded : deserializeMessages s.turn.record.messages = .ok s.turn.messages :=
    deserializeMessages_serialized _
  have hstep : s.turn.record.next_step ≤ s.agent.profile.max_model_turns := Nat.le_refl 1
  have htools : s.agent.tools.definitionsFor s.agent.profile.permitted_tools =
      .ok [lookDefinition] := rfl
  have hroom : 4 ≤ s.agent.profile.limits.max_context_messages := by
    show 4 ≤ RunLimits.default.max_context_messages
    decide
  have hmessages : (s.turn.messages ++ s.evidence.toList).length ≤
      s.agent.profile.limits.max_context_messages := by
    have hone := s.length_evidence
    have hturn : s.turn.messages = soloOpening ++ s.evidence.toList := rfl
    have htwo : soloOpening.length = 2 := rfl
    rw [hturn, List.length_append, List.length_append]
    omega
  have h := performs_resumedTurn soloOutput rfl htask hprofile hsame hrunning hevents hdecoded hstep
    deadlineAtZero_pos s.retrieves htools hmessages (Fallible.Performs.nil _)
  rw [List.append_nil] at h
  exact h

/-- The records after the first call's turn. -/
def stored : Records :=
  Function.update (Function.update (fun _ => none) "run"
    (some (createdRecord s.agent s.input "run" soloOpening))) "run" (some s.turn.record)

/-- The first call can be cut off right after its turn is saved. -/
theorem first_reachable : ∃ c : Config AgentSig Nat lawfulInMemory.State (Except Exn RunResult),
    s.workers.Reachable lawfulInMemory c ∧ c.shared = s.stored ∧
      c.log = s.first.map (fun e => (0, e)) ∧
      c.programs 1 = some (runDurable s.agent s.input).run := by
  have hanswered : Config.Answered inMemoryRunStore.answering (fun _ => none) s.first s.stored :=
    answered_firstTurn rfl s.quiet
  have hstart : s.workers.Reachable lawfulInMemory
      ⟨fun t => some (runDurable (s.workers.agent t) (s.workers.input t)).run,
        lawfulInMemory.empty, []⟩ := Config.Reachable.start
  obtain ⟨c, hc, hs, hlog, hothers⟩ :=
    Config.Reachable.performs (t := 0) hstart rfl s.first_performs hanswered
  exact ⟨c, hc, hs, by simpa using hlog, hothers 1 (by decide)⟩

/-- The second call then resumes the run and takes the same turn. -/
theorem resumed_reachable : ∃ c : Config AgentSig Nat lawfulInMemory.State (Except Exn RunResult),
    s.workers.Reachable lawfulInMemory c ∧
      c.shared = Function.update s.stored "run" (some s.again.record) ∧
      c.log = s.first.map (fun e => (0, e)) ++ s.second.map (fun e => (1, e)) := by
  obtain ⟨c, hc, hs, hlog, hp⟩ := s.first_reachable
  have hanswered : Config.Answered inMemoryRunStore.answering s.stored s.second
      (Function.update s.stored "run" (some s.again.record)) :=
    answered_resumedTurn (Function.update_self ..) rfl s.quiet
  rw [← hs] at hanswered
  obtain ⟨c', hc', hs', hlog', -⟩ := Config.Reachable.performs hc hp s.second_performs hanswered
  rw [hs] at hs'
  rw [hlog] at hlog'
  exact ⟨c', hc', hs', hlog'⟩

end SoloRun

/-! ## Section 8: A run with one tool call -/

/-- The call the model asks for. -/
def lookCall : ToolCall := ⟨"call-1", "look", object [], none, by rfl⟩

/-- The action it proposes. -/
def lookAction : ActionIntent where
  request_id := "request"
  idempotency_key := "request"
  agent_id := "solo"
  framework := "cbrain-foundation"
  tool_name := "look"
  capability := "records.read"
  timestamp := .float 0
  arguments_json := Snapshot.ofDict (object [])
  context_json := Snapshot.ofDict (object [("run_id", .str "run"), ("tool_call_id", .str "call-1")])
  evidence_json := Snapshot.ofDict (object [])
  request_id_text := by decide
  idempotency_key_text := by decide
  agent_id_text := by decide
  framework_text := by decide
  tool_name_text := by decide
  capability_text := by decide

theorem lookAction_captured :
    captureAction (soloAgent false) lookTool "run" lookCall "request" 0 = .ok lookAction := by
  have harguments : snapshotObject (object []) "arguments" = .ok (Snapshot.ofDict (object [])) :=
    snapshotObject_ok.mpr ⟨by decide, rfl⟩
  have hevidence : snapshotObject (object []) "evidence" = .ok (Snapshot.ofDict (object [])) :=
    snapshotObject_ok.mpr ⟨by decide, rfl⟩
  have hcontext : snapshotObject (object [("run_id", .str "run"), ("tool_call_id", .str "call-1")])
      "context" = .ok (Snapshot.ofDict
        (object [("run_id", .str "run"), ("tool_call_id", .str "call-1")])) :=
    snapshotObject_ok.mpr ⟨by decide, rfl⟩
  show ActionIntent.capture "solo" "cbrain-foundation" "look" "records.read" (object [])
    (object [("run_id", .str "run"), ("tool_call_id", .str "call-1")]) (object []) "request" "request"
    (.float 0) = _
  unfold ActionIntent.capture
  rw [harguments, hcontext, hevidence]
  rfl

/-- What the governed runtime returns, with the output of the handler. -/
def lookExecution (output : PyVal) : GovernedExecution where
  status := .executed
  request_id := "request"
  tool_executed := some true
  reason := "ALLOWED"
  decision_id := none
  output := output
  retryable := false
  request_id_text := by decide
  reason_text := by decide
  tool_executed_fits := rfl
  retryable_fits := by simp

namespace SoloRun

/-- What the call holds once its tool call is prepared. -/
def prepared : DurableRunContext :=
  preparedContext soloPlain.agent 1 lookTool lookCall "request" lookAction soloPlain.turn

/-- What the call holds once its tool call is executed. -/
def looked (output : PyVal) : DurableRunContext :=
  completedContext 1 (lookExecution output) (executedContext prepared)

/-- The events of a call whose first turn asks for the tool, up to the saved
    execution. -/
def look (output : PyVal) : List AgentSig.Event :=
  firstTurnEvents soloPlain.agent soloPlain.input soloPlain.run soloOpening [] (.call lookCall) ++
    (prepareEvents soloPlain.agent 1 lookTool lookCall "request" lookAction soloPlain.turn ++
      dispatchEvents 1 "look" lookAction (lookExecution output) prepared)

theorem look_performs (output : PyVal) :
    Fallible.Performs (runDurable soloPlain.agent soloPlain.input) (look output) := by
  have htask : soloPlain.input.task.toList.length ≤ soloPlain.agent.profile.limits.max_task_chars := by
    show "Greet.".toList.length ≤ RunLimits.default.max_task_chars
    decide
  have htools : soloPlain.agent.tools.definitionsFor soloPlain.agent.profile.permitted_tools =
      .ok [lookDefinition] := rfl
  have hmessages : (soloOpening ++ soloPlain.evidence.toList).length ≤
      soloPlain.agent.profile.limits.max_context_messages := by
    show 2 ≤ RunLimits.default.max_context_messages
    decide
  have hpermitted : lookCall.name ∈ soloPlain.agent.profile.permitted_tools := by
    show "look" ∈ ["look"]
    decide
  have hhistory : validateHistory (soloPlain.turn.messages ++ [lookCall.asMessage]) true = .ok () := rfl
  have hdispatch : Fallible.Performs
      (durableExecute soloPlain.agent soloPlain.run 1 lookCall "request" prepared lookAction)
      (dispatchEvents 1 "look" lookAction (lookExecution output) prepared ++ []) :=
    performs_dispatch hpermitted (Fallible.Performs.nil _)
  rw [List.append_nil] at hdispatch
  have hprepare : Fallible.Performs
      (durableOutput soloPlain.agent soloPlain.run 1 0 (.call lookCall) soloPlain.turn)
      (prepareEvents soloPlain.agent 1 lookTool lookCall "request" lookAction soloPlain.turn ++
        dispatchEvents 1 "look" lookAction (lookExecution output) prepared) :=
    performs_prepare deadlineAtZero_pos rfl hpermitted rfl (by decide) hhistory lookAction_captured
      hdispatch
  exact performs_firstTurn (.call lookCall) rfl htask (soloOpening_ok _ _) soloPlain.retrieves htools
    hmessages hprepare

/-- A call can be cut off right after its execution is saved. -/
theorem look_reachable (output : PyVal) :
    ∃ c : Config AgentSig Nat lawfulInMemory.State (Except Exn RunResult),
      soloPlain.workers.Reachable lawfulInMemory c ∧
        c.log = (look output).map (fun e => (0, e)) := by
  have hfirst : Config.Answered inMemoryRunStore.answering (fun _ => none)
      (firstTurnEvents soloPlain.agent soloPlain.input soloPlain.run soloOpening [] (.call lookCall))
      soloPlain.stored := answered_firstTurn rfl soloPlain.quiet
  have hprepare : Config.Answered inMemoryRunStore.answering soloPlain.stored
      (prepareEvents soloPlain.agent 1 lookTool lookCall "request" lookAction soloPlain.turn)
      (Function.update soloPlain.stored "run" (some prepared.record)) :=
    answered_prepare (Function.update_self ..)
  have hdispatch : Config.Answered inMemoryRunStore.answering
      (Function.update soloPlain.stored "run" (some prepared.record))
      (dispatchEvents 1 "look" lookAction (lookExecution output) prepared) _ :=
    answered_dispatch rfl (Function.update_self ..) rfl
  have hstart : soloPlain.workers.Reachable lawfulInMemory
      ⟨fun t => some (runDurable (soloPlain.workers.agent t) (soloPlain.workers.input t)).run,
        lawfulInMemory.empty, []⟩ := Config.Reachable.start
  obtain ⟨c, hc, -, hlog, -⟩ := Config.Reachable.performs (t := 0) hstart rfl (look_performs output)
    (hfirst.append (hprepare.append hdispatch))
  exact ⟨c, hc, by simpa using hlog⟩

end SoloRun

end CBrain

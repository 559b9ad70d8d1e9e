import CBrain.Agent.Foundation

/-! # What a durable call does to the store

    One durable call seen from the run store: which phase it is in, which
    record it holds, and which operation it may perform next.  A phase is the
    last thing the store told the call, so the whole of a call is a path
    through the phases

      start, absent, held, (asked, turned, prepared, claimed, executed, completed,
      advanced)*, over

    where a resumed call enters the cycle at the phase of its record.  The one
    theorem of this file is that `runDurable` keeps to these rules, whatever
    the clocks, the models, the tools and the other workers do.  What a single
    checkpoint does to a record is `Checkpoint`; every invariant of stored
    records is read off it. -/

namespace CBrain

open Effect
open Json (Dict)

/-! ## Section 1: Phases -/

/-- What the store last told a durable call. -/
inductive Phase where
  /-- Nothing yet. -/
  | start
  /-- There is no such run. -/
  | absent
  /-- The record the call created or loaded. -/
  | held (r : StoredRunRecord)
  /-- A model answered the request with messages `ms`. -/
  | asked (r : StoredRunRecord) (ms : List Message)
  /-- The turn is saved. -/
  | turned (r : StoredRunRecord)
  /-- The call's own prepared action is saved. -/
  | prepared (r : StoredRunRecord)
  /-- The dispatch is claimed; `resumed` if the call loaded the prepared
      action. -/
  | claimed (r : StoredRunRecord) (resumed : Bool)
  | executed (r : StoredRunRecord) (execution : GovernedExecution) (resumed : Bool)
  /-- The execution is saved. -/
  | completed (r : StoredRunRecord) (resumed : Bool)
  /-- The step is over and saved. -/
  | advanced (r : StoredRunRecord)
  /-- Another worker claimed the dispatch. -/
  | lost
  /-- The run ended. -/
  | over

/-- The record a phase holds. -/
def Phase.record? : Phase → Option StoredRunRecord
  | .held r | .asked r _ | .turned r | .prepared r | .claimed r _ | .executed r _ _ | .completed r _
  | .advanced r => some r
  | .start | .absent | .lost | .over => none

/-- The phase after a save. -/
def Phase.saved (p : Phase) (record : StoredRunRecord) : Phase :=
  if record.durable_state.isTerminal then .over
  else match p with
    | .asked _ _ => .turned record
    | .turned _ => .prepared record
    | .executed _ _ resumed => .completed record resumed
    | .completed _ _ | .held _ => .advanced record
    | p => p

/-- A durable call as the store sees it: its phase, and the answer of its
    knowledge retrieval. -/
structure WorkerView where
  phase : Phase
  retrieved : Option (Raises String)

/-- The evidence message of a retrieval's answer. -/
def evidenceOf : Raises String → Option Message
  | .ok quoted_evidence => (Message.text .user quoted_evidence).toOption
  | .error _ => none

/-- The evidence a call retrieved. -/
def WorkerView.evidence (v : WorkerView) : Option Message := v.retrieved.bind evidenceOf

/-- The call asks the knowledge runtime: there is one, and the metadata names
    the tenant, the collection and the principal. -/
def Consults (a : FoundationAgent) (input : RunInput) : Bool :=
  a.knowledge && (input.metadataDict.get "tenant_id").text?.isSome &&
    (input.metadataDict.get "collection_id").text?.isSome &&
    (input.metadataDict.get "principal_id").text?.isSome

/-! ## Section 2: Checkpoints -/

/-- The record saved after a model turn. -/
def turnRecord (r : StoredRunRecord) (es : List RunEvent) (ms : List Message) : StoredRunRecord :=
  r.update {
    durable_state := some .running
    events := some es
    messages := some ms
    model_turns := some (r.model_turns + 1)
    next_step := some r.next_step }

/-- The record saved with a prepared action. -/
def preparedRecord (a : FoundationAgent) (r : StoredRunRecord) (es : List RunEvent)
    (ms : List Message) (tool : GovernedTool) (call : ToolCall) (request_id : String)
    (timestamp : Timestamp) : StoredRunRecord :=
  r.update {
    durable_state := some .toolPrepared
    events := some es
    messages := some (ms ++ [call.asMessage])
    model_turns := some r.model_turns
    next_step := some r.next_step
    pending_request_id := some request_id
    pending_idempotency_key := some request_id
    pending_action := some (pendingAction a.profile.agent_id call.name tool.capability
      call.arguments request_id timestamp
      (object [("run_id", .str r.run_id), ("tool_call_id", .str call.call_id)]))
    pending_tool_call_id := some call.call_id
    pending_tool_name := some call.name }

/-- The record saved after an execution. -/
def completedRecord (r : StoredRunRecord) (es : List RunEvent) (ms : List Message)
    (execution : GovernedExecution) : StoredRunRecord :=
  r.update {
    durable_state := some .toolCompleted
    events := some es
    messages := some ms
    tool_calls := some (r.tool_calls + 1)
    model_turns := some r.model_turns
    next_step := some r.next_step
    pending_execution_status := some execution.status.value
    pending_execution_output := execution.output
    pending_execution_reason := some execution.reason }

/-- The record saved at the end of a step. -/
def advancedRecord (r : StoredRunRecord) (es : List RunEvent) (ms : List Message) :
    StoredRunRecord :=
  r.update {
    durable_state := some .running
    events := some es
    messages := some ms
    tool_calls := some r.tool_calls
    model_turns := some r.model_turns
    next_step := some (r.next_step + 1)
    clear_pending := true }

/-- The request id of the tool call a record leads to. -/
def requestIdFor (a : FoundationAgent) (r : StoredRunRecord) : String :=
  match r.pending_request_id with
  | some request_id =>
    if request_id = "" then a.request_id_factory r.run_id r.next_step else request_id
  | none => a.request_id_factory r.run_id r.next_step

/-- A tool result for a call. -/
def IsResultOf (message : Message) (call : ToolCall) : Prop :=
  message.role = .tool ∧ message.tool_call_id = some call.call_id ∧
    message.tool_name = some call.name

theorem isResultOf_new {content : String} {call : ToolCall} {message : Message}
    (h : Message.new .tool content (some call.call_id) (some call.name) none = .ok message) :
    IsResultOf message call := by
  unfold Message.new at h
  split at h
  · obtain rfl := Except.ok.inj h
    exact ⟨rfl, rfl, rfl⟩
  · cases h

/-- The record ends in an open tool call. -/
def EndsInCall (r : StoredRunRecord) (ms : List Message) (call : ToolCall) : Prop :=
  deserializeMessages r.messages = .ok ms ∧ ms.getLast?.bind Message.tool_call = some call ∧
    validateHistory ms true = .ok ()

/-- The evidence is appended when the step was resumed. -/
def appended (v : WorkerView) (resumed : Bool) : List Message :=
  if resumed then v.evidence.toList else []

/-- The phases in which a call may end its run. -/
def Phase.MayEnd (p : Phase) (r : StoredRunRecord) : Prop :=
  p = .held r ∨ p = .turned r ∨ (∃ resumed, p = .completed r resumed) ∨ p = .advanced r

/-- What one save may do to the record a call holds. -/
inductive Checkpoint (a : FoundationAgent) (input : RunInput) (v : WorkerView) :
    StoredRunRecord → StoredRunRecord → Prop where
  /-- A model turn. -/
  | turn {r : StoredRunRecord} {es : List RunEvent} {ms : List Message}
      (hphase : v.phase = .asked r ms) (hstate : r.durable_state = .running)
      (hstep : r.next_step ≤ a.profile.max_model_turns) :
      Checkpoint a input v r (turnRecord r es ms)
  /-- A prepared action. -/
  | prepare {r : StoredRunRecord} {es : List RunEvent} {ms : List Message} {tool : GovernedTool}
      {call : ToolCall} {timestamp : Decimal} {action : ActionIntent}
      (hphase : v.phase = .turned r) (hstate : r.durable_state = .running)
      (hmessages : deserializeMessages r.messages = .ok ms)
      (hbudget : r.tool_calls < a.profile.max_tool_calls)
      (hhistory : validateHistory (ms ++ [call.asMessage]) true = .ok ())
      (haction : captureAction a tool r.run_id call (requestIdFor a r) timestamp = .ok action) :
      Checkpoint a input v r
        (preparedRecord a r es ms tool call (requestIdFor a r) action.timestamp)
  /-- An execution. -/
  | complete {r : StoredRunRecord} {es : List RunEvent} {ms : List Message}
      {execution : GovernedExecution} {resumed : Bool}
      (hphase : v.phase = .executed r execution resumed) (hstate : r.durable_state = .toolInFlight)
      (hmessages : deserializeMessages r.messages = .ok ms) :
      Checkpoint a input v r (completedRecord r es ms execution)
  /-- The end of a step: the result of the open call is appended. -/
  | advance {r : StoredRunRecord} {es : List RunEvent} {ms : List Message} {message : Message}
      {call : ToolCall} {resumed : Bool}
      (hphase : v.phase = .completed r resumed ∨ v.phase = .held r ∧ resumed = true)
      (hstate : r.durable_state = .toolCompleted) (hcall : EndsInCall r ms call)
      (hresult : IsResultOf message call) :
      Checkpoint a input v r (advancedRecord r es (ms ++ [message] ++ appended v resumed))
  /-- The end of the run. -/
  | terminal {r : StoredRunRecord} {es : List RunEvent} {ms : List Message} {status : RunStatus}
      {final_text : Option String} {metadata : PyDict}
      (hphase : v.phase.MayEnd r)
      (hstate : r.durable_state.isTerminal = false ∧ r.durable_state ≠ .toolInFlight)
      (hfinal : ∀ s, final_text = some s → nonBlank s = true)
      (hmetadata : ∃ reason, metadata = runMetadata input reason) :
      Checkpoint a input v r
        (finalizeDurableRecord r (terminalState status) status final_text metadata es ms r.tool_calls
          r.model_turns)

/-! ## Section 3: The protocol of a durable call -/

/-- The messages a call may send to a model. -/
def MayAsk (a : FoundationAgent) (v : WorkerView) (ms : List Message) : Prop :=
  ∃ r, r.durable_state = .running ∧ r.next_step ≤ a.profile.max_model_turns ∧
    ((v.phase = .held r ∧ ∃ stored, deserializeMessages r.messages = .ok stored ∧
        ms = stored ++ v.evidence.toList) ∨
      (v.phase = .advanced r ∧ deserializeMessages r.messages = .ok ms))

/-- The record of a run that is created: the opening messages, no counts. -/
def Opening (a : FoundationAgent) (input : RunInput) (r : StoredRunRecord) : Prop :=
  ∃ run_id started expires opening event durable_input, nonBlank run_id = true ∧
    openingMessages a durable_input = .ok opening ∧ durable_input.task = input.task ∧
    durable_input.metadata = input.metadata ∧
    r = newRunningRecord run_id a.profile durable_input started expires opening [event]

/-- The operations a durable call may perform. -/
def Worker.Allows (a : FoundationAgent) (input : RunInput) (v : WorkerView) : AgentOp → Prop
  | .clock | .wallClock | .cancelled | .newRunId => True
  | .retrieve _ => ∃ r, v.phase = .held r
  | .complete _ ms _ _ => MayAsk a v ms ∧ (Consults a input = true → v.retrieved.isSome = true)
  | .execute action tool => ∃ r resumed, v.phase = .claimed r resumed ∧
      r.durable_state = .toolInFlight ∧ restoreAction r = .ok action ∧
      tool ∈ a.profile.permitted_tools
  | .create r => v.phase = .absent ∧ Opening a input r
  | .load _ => v.phase = .start ∨ v.phase = .lost
  | .save r' n => ∃ r, v.phase.record? = some r ∧ n = r.version ∧ Checkpoint a input v r r'
  | .claim run_id n => ∃ r, (v.phase = .prepared r ∨ v.phase = .held r) ∧
      r.durable_state = .toolPrepared ∧ run_id = r.run_id ∧ n = r.version

/-- What a save or a claim that succeeds returns. -/
def Worker.Answers (v : WorkerView) : (o : AgentOp) → o.Ans → Prop
  | .save r' n, .ok saved => saved = { r' with version := n + 1 }
  | .claim _ n, .ok (some claimed) => ∃ r, v.phase.record? = some r ∧
      claimed.SameText (r.inFlight (n + 1))
  | _, _ => True

/-- The view after an answer. -/
def Worker.next (v : WorkerView) : (o : AgentOp) → o.Ans → WorkerView
  | .retrieve _, answer => { v with retrieved := some answer }
  | .complete _ ms _ _, .ok _ =>
    match v.phase.record? with
    | some r => { v with phase := .asked r ms }
    | none => v
  | .execute _ _, execution =>
    match v.phase with
    | .claimed r resumed => { v with phase := .executed r execution resumed }
    | _ => v
  | .create r, .ok () => { v with phase := .held r }
  | .load _, .ok r =>
    match v.phase with
    | .start => { v with phase := .held r }
    | _ => v
  | .load _, .error _ =>
    match v.phase with
    | .start => { v with phase := .absent }
    | _ => v
  | .save _ _, .ok saved => { v with phase := v.phase.saved saved }
  | .claim _ _, .ok (some r) =>
    match v.phase with
    | .held _ => { v with phase := .claimed r true }
    | _ => { v with phase := .claimed r false }
  | .claim _ _, .ok none => { v with phase := .lost }
  | _, _ => v

/-- The protocol of a durable call. -/
def workerProtocol (a : FoundationAgent) (input : RunInput) : Protocol AgentSig WorkerView where
  allows := Worker.Allows a input
  answers := Worker.Answers
  next := Worker.next

/-! ## Section 4: Rules for the walk -/

/-- From view `v` on, the program keeps to the protocol of a durable call, and
    a value it returns satisfies `Q`. -/
def Walk (a : FoundationAgent) (input : RunInput) {α : Type} (Q : WorkerView → α → Prop)
    (v : WorkerView) (m : AgentM α) : Prop :=
  Fallible.Meets (workerProtocol a input) Q (fun _ _ => True) v m

/-- A postcondition on the contexts a step goes on with. -/
def GoesOn {α : Type} (Q : WorkerView → α → Prop) (v : WorkerView) : RunResult ⊕ α → Prop
  | .inl _ => True
  | .inr x => Q v x

section rules

variable {a : FoundationAgent} {input : RunInput} {v : WorkerView} {α β : Type}
  {Q : WorkerView → α → Prop}

theorem Walk.ofPure {x : α} (h : Q v x) : Walk a input Q v (pure x) := h

theorem Walk.ofThrow {e : Exn} : Walk a input Q v (throw e : AgentM α) := trivial

/-- **Sequencing rule**. -/
theorem Walk.bind {R : WorkerView → β → Prop} {m : AgentM β} {f : β → AgentM α}
    (hm : Walk a input R v m) (hf : ∀ v x, R v x → Walk a input Q v (f x)) :
    Walk a input Q v (m >>= f) :=
  Fallible.Meets.bind hm hf

/-- A pure step that may raise. -/
theorem Walk.raising {x : Raises β} {f : β → AgentM α}
    (hf : ∀ y, x = .ok y → Walk a input Q v (f y)) :
    Walk a input Q v (Fallible.raising x >>= f) := by
  cases hx : x with
  | error e => exact trivial
  | ok y => exact hf y hx

theorem Walk.raised {x : Raises α} (h : ∀ y, x = .ok y → Q v y) :
    Walk a input Q v (Fallible.raising x) := by
  cases hx : x with
  | error e => exact trivial
  | ok y => exact h y hx

/-- An operation. -/
theorem Walk.ask {o : AgentOp} {f : o.Ans → AgentM α} (ho : Worker.Allows a input v o)
    (hf : ∀ x, Worker.Answers v o x → Walk a input Q (Worker.next v o x) (f x)) :
    Walk a input Q v (ask o >>= f) :=
  ⟨ho, hf⟩

theorem Walk.clock {f : Decimal → AgentM α} (hf : ∀ t, Walk a input Q v (f t)) :
    Walk a input Q v (CBrain.ask .clock >>= f) :=
  ⟨trivial, fun t _ => hf t⟩

theorem Walk.wallClock {f : Decimal → AgentM α} (hf : ∀ t, Walk a input Q v (f t)) :
    Walk a input Q v (CBrain.ask .wallClock >>= f) :=
  ⟨trivial, fun t _ => hf t⟩

theorem Walk.cancelled {f : Bool → AgentM α} (hf : ∀ b, Walk a input Q v (f b)) :
    Walk a input Q v (CBrain.ask .cancelled >>= f) :=
  ⟨trivial, fun b _ => hf b⟩

/-- A save. -/
theorem Walk.save {r r' : StoredRunRecord} {f : StoredRunRecord → AgentM α}
    (hr : v.phase.record? = some r) (hc : Checkpoint a input v r r')
    (hf : ∀ saved, saved = { r' with version := r.version + 1 } →
      Walk a input Q { v with phase := v.phase.saved saved } (f saved)) :
    Walk a input Q v (saveRecord r' r.version >>= f) := by
  refine ⟨⟨r, hr, rfl, hc⟩, ?_⟩
  intro answer hanswer
  cases answer with
  | error e => exact trivial
  | ok saved => exact hf saved hanswer

/-- A checkpoint. -/
theorem Walk.persist {ctx : DurableRunContext} {u : RecordUpdate}
    {f : DurableRunContext → AgentM α} (hr : v.phase.record? = some ctx.record)
    (hc : Checkpoint a input v ctx.record (ctx.record.update u))
    (hf : ∀ saved, saved = { ctx.record.update u with version := ctx.record.version + 1 } →
      Walk a input Q { v with phase := v.phase.saved saved } (f { ctx with record := saved })) :
    Walk a input Q v (persistRecord ctx u >>= f) := by
  apply Walk.bind (R := fun v' ctx' => ∃ saved,
    saved = { ctx.record.update u with version := ctx.record.version + 1 } ∧
      v' = { v with phase := v.phase.saved saved } ∧ ctx' = { ctx with record := saved })
  · apply Walk.save hr hc
    intro saved hsaved
    exact Walk.ofPure ⟨saved, hsaved, rfl, rfl⟩
  · rintro v' ctx' ⟨saved, hsaved, rfl, rfl⟩
    exact hf saved hsaved

theorem Walk.ite {c : Prop} [Decidable c] {m₁ m₂ : AgentM α} (h₁ : c → Walk a input Q v m₁)
    (h₂ : ¬ c → Walk a input Q v m₂) : Walk a input Q v (if c then m₁ else m₂) := by
  by_cases h : c
  · rw [if_pos h]
    exact h₁ h
  · rw [if_neg h]
    exact h₂ h

end rules

/-! ## Section 5: The walk -/

section walk

variable {a : FoundationAgent} {input : RunInput} {v : WorkerView} {ctx : DurableRunContext}
  {α : Type}

/-- A context whose counts are those of the record it holds. -/
structure Carries (input : RunInput) (ctx : DurableRunContext) : Prop where
  run_id : ctx.run_id = ctx.record.run_id
  tool_calls : ctx.tool_calls = ctx.record.tool_calls
  model_turns : ctx.model_turns = ctx.record.model_turns
  metadata : ctx.run_input.metadata = input.metadata

/-- A call that may end its run. -/
structure AtEnd (input : RunInput) (v : WorkerView) (ctx : DurableRunContext) : Prop where
  carries : Carries input ctx
  phase : v.phase.MayEnd ctx.record
  state : ctx.record.durable_state.isTerminal = false ∧ ctx.record.durable_state ≠ .toolInFlight

theorem Phase.MayEnd.record? {p : Phase} {r : StoredRunRecord} (h : p.MayEnd r) :
    p.record? = some r := by
  rcases h with rfl | rfl | ⟨_, rfl⟩ | rfl <;> rfl

theorem runMetadata_congr {input input' : RunInput} (h : input.metadata = input'.metadata)
    (reason : Option String) : runMetadata input reason = runMetadata input' reason := by
  unfold runMetadata RunInput.metadataDict
  rw [h]

theorem walk_persistTerminal {Q : WorkerView → RunResult → Prop} {status : RunStatus}
    {final_text : Option String} {metadata : Option PyDict} (hend : AtEnd input v ctx)
    (hfinal : ∀ s, final_text = some s → nonBlank s = true)
    (hmetadata : ∀ m, metadata = some m → ∃ reason, m = runMetadata input reason)
    (hQ : ∀ v result, Q v result) :
    Walk a input Q v (persistTerminal ctx status final_text metadata) := by
  have hchosen : ∃ reason, PyDict.orElse metadata (runMetadata ctx.run_input none) =
      runMetadata input reason := by
    cases hm : metadata with
    | none => exact ⟨none, runMetadata_congr hend.carries.metadata none⟩
    | some m =>
      by_cases hempty : m.image.members = []
      · refine ⟨none, ?_⟩
        simp [PyDict.orElse, hempty, runMetadata_congr hend.carries.metadata none]
      · simpa [PyDict.orElse, hempty] using hmetadata m hm
  have hsave (event : RunEvent) : Walk a input Q v (do
      let saved ← saveRecord (finalizeDurableRecord ctx.record (terminalState status) status
        final_text (PyDict.orElse metadata (runMetadata ctx.run_input none))
        (ctx.events ++ [event]) ctx.messages ctx.tool_calls ctx.model_turns) ctx.record.version
      Fallible.raising (recordToRunResult saved)) := by
    rw [hend.carries.tool_calls, hend.carries.model_turns]
    apply Walk.save hend.phase.record?
    · exact Checkpoint.terminal hend.phase hend.state hfinal hchosen
    · intro saved _
      exact Walk.raised fun result _ => hQ _ result
  unfold persistTerminal
  by_cases hstatus : status ≠ .completed
  · simp only [if_pos hstatus]
    exact hsave _
  · simp only [if_neg hstatus]
    exact Walk.clock fun t => hsave _

theorem walk_finish {Q : WorkerView → α → Prop} {run : DurableRun} {status : RunStatus}
    {reason : Option String} (hend : AtEnd input v ctx)
    (hinput : run.run_input.metadata = input.metadata) :
    Walk a input (GoesOn Q) v (run.finish ctx status reason : AgentM (RunResult ⊕ α)) := by
  apply Walk.bind (R := fun _ _ => True)
  · apply walk_persistTerminal hend
    · intro s hs
      cases hs
    · intro m hm
      cases hreason : reason with
      | none =>
        rw [hreason] at hm
        cases hm
      | some text =>
        rw [hreason] at hm
        obtain rfl := Option.some.inj hm
        exact ⟨some text, runMetadata_congr hinput (some text)⟩
    · intro v result
      trivial
  · intro v result _
    exact trivial

/-- The constants of a call fit its view. -/
structure Fits (a : FoundationAgent) (input : RunInput) (v : WorkerView) (run : DurableRun) :
    Prop where
  metadata : run.run_input.metadata = input.metadata
  knowledge : run.knowledge_message = v.evidence
  consulted : Consults a input = true → v.retrieved.isSome = true

theorem Fits.congr {v' : WorkerView} {run : DurableRun} (h : Fits a input v run)
    (hretrieved : v'.retrieved = v.retrieved) : Fits a input v' run where
  metadata := h.metadata
  knowledge := by
    rw [h.knowledge, WorkerView.evidence, WorkerView.evidence, hretrieved]
  consulted := by
    rw [hretrieved]
    exact h.consulted

/-- The execution of `call` is saved. -/
structure AtCompleted (input : RunInput) (v : WorkerView) (step : Nat) (call : ToolCall)
    (resumed : Bool) (ctx : DurableRunContext) : Prop where
  carries : Carries input ctx
  phase : v.phase = .completed ctx.record resumed ∨ v.phase = .held ctx.record ∧ resumed = true
  state : ctx.record.durable_state = .toolCompleted
  step : ctx.record.next_step = step
  call : EndsInCall ctx.record ctx.messages call

/-- The result of `call` is in the context, and not saved yet. -/
structure Observed (input : RunInput) (v : WorkerView) (step : Nat) (call : ToolCall)
    (resumed : Bool) (ctx : DurableRunContext) : Prop where
  carries : Carries input ctx
  phase : v.phase = .completed ctx.record resumed ∨ v.phase = .held ctx.record ∧ resumed = true
  state : ctx.record.durable_state = .toolCompleted
  step : ctx.record.next_step = step
  result : ∃ ms message, EndsInCall ctx.record ms call ∧ IsResultOf message call ∧
    ctx.messages = ms ++ [message]

theorem AtCompleted.atEnd {step : Nat} {call : ToolCall} {resumed : Bool}
    (h : AtCompleted input v step call resumed ctx) : AtEnd input v ctx where
  carries := h.carries
  phase := by
    rcases h.phase with hp | ⟨hp, -⟩
    · exact Or.inr (Or.inr (Or.inl ⟨resumed, hp⟩))
    · exact Or.inl hp
  state := by
    rw [h.state]
    exact ⟨rfl, by decide⟩

theorem walk_durableObserve {run : DurableRun} {step : Nat} {call : ToolCall} {request_id : String}
    {resumed : Bool} {execution : GovernedExecution} (hfits : Fits a input v run)
    (h : AtCompleted input v step call resumed ctx) :
    Walk a input (GoesOn fun v' ctx' => v' = v ∧ Observed input v step call resumed ctx') v
      (durableObserve a run step call request_id ctx execution) := by
  unfold durableObserve
  apply Walk.ite
  · intro _
    apply Walk.ite
    · intro _
      exact walk_finish h.atEnd hfits.metadata
    · intro _
      apply Walk.clock
      intro timestamp
      generalize hnew : Message.new .tool (String.ofList (observationText request_id execution))
        (some call.call_id) (some call.name) none = result
      apply Walk.raising
      rintro message rfl
      have hresult : IsResultOf message call := isResultOf_new hnew
      apply Walk.ofPure
      refine ⟨rfl, ?_⟩
      exact ⟨⟨h.carries.run_id, h.carries.tool_calls, h.carries.model_turns, h.carries.metadata⟩,
        h.phase, h.state, h.step, ctx.messages, message, h.call, hresult, rfl⟩
  · intro _
    apply Walk.clock
    intro timestamp
    apply walk_finish _ hfits.metadata
    have hend := h.atEnd
    exact ⟨⟨hend.carries.run_id, hend.carries.tool_calls, hend.carries.model_turns,
      hend.carries.metadata⟩, hend.phase, hend.state⟩

/-- The prepared action of `call` may be claimed. -/
structure AtPrepared (input : RunInput) (v : WorkerView) (step : Nat) (call : ToolCall)
    (resumed : Bool) (action : ActionIntent) (ctx : DurableRunContext) : Prop where
  carries : Carries input ctx
  phase : v.phase = .prepared ctx.record ∧ resumed = false ∨
    v.phase = .held ctx.record ∧ resumed = true
  state : ctx.record.durable_state = .toolPrepared
  step : ctx.record.next_step = step
  call : EndsInCall ctx.record ctx.messages call
  action : restoreAction ctx.record = .ok action

/-- The view after a claim. -/
theorem next_claim {r : StoredRunRecord} {resumed : Bool}
    (hphase : v.phase = .prepared r ∧ resumed = false ∨ v.phase = .held r ∧ resumed = true)
    (run_id : String) (n : Nat) (claimed : StoredRunRecord) :
    Worker.next v (.claim run_id n) (.ok (some claimed)) =
      { v with phase := .claimed claimed resumed } := by
  rcases hphase with ⟨hp, rfl⟩ | ⟨hp, rfl⟩
  · simp [Worker.next, hp]
  · simp [Worker.next, hp]

theorem walk_resolveClaimConflict {Q : WorkerView → RunResult → Prop} {run_id : String}
    (hphase : v.phase = .lost) (hQ : ∀ v result, Q v result) :
    Walk a input Q v (resolveClaimConflict run_id) := by
  unfold resolveClaimConflict
  apply Walk.ask
  · exact Or.inr hphase
  · intro loaded _
    apply Walk.raising
    intro current _
    apply Walk.ite
    · intro _
      exact Walk.raised fun result _ => hQ _ result
    · intro _
      apply Walk.ite
      · intro _
        exact Walk.raised fun result _ => hQ _ result
      · intro _
        exact Walk.raised fun result _ => hQ _ result

theorem walk_durableDispatch {step : Nat} {call : ToolCall} {resumed : Bool}
    {action : ActionIntent} (h : AtPrepared input v step call resumed action ctx) :
    Walk a input (GoesOn fun v' (r : DurableRunContext × GovernedExecution) =>
        v'.retrieved = v.retrieved ∧ AtCompleted input v' step call resumed r.1) v
      (durableDispatch a ctx step call action) := by
  unfold durableDispatch
  rw [h.carries.run_id]
  apply Walk.ask
  · refine ⟨ctx.record, ?_, h.state, rfl, rfl⟩
    rcases h.phase with ⟨hp, -⟩ | ⟨hp, -⟩
    · exact Or.inl hp
    · exact Or.inr hp
  · intro answer hanswer
    apply Walk.raising
    intro claimed hclaimed
    subst hclaimed
    cases claimed with
    | none =>
      apply Walk.bind (R := fun _ _ => True)
      · exact walk_resolveClaimConflict rfl fun _ _ => trivial
      · intro v' result _
        exact trivial
    | some c =>
      rw [next_claim h.phase]
      have hrecord : v.phase.record? = some ctx.record := by
        rcases h.phase with ⟨hp, -⟩ | ⟨hp, -⟩ <;> rw [hp] <;> rfl
      obtain ⟨r, hr, hc⟩ := hanswer
      rw [hrecord] at hr
      obtain rfl := Option.some.inj hr
      apply Walk.raising
      intro handler hhandler
      have htool : handler ∈ a.profile.permitted_tools := by
        unfold FoundationAgent.handler at hhandler
        split at hhandler
        · next hmem =>
          obtain rfl := Except.ok.inj hhandler
          exact hmem
        · cases hhandler
      have hstate : c.durable_state = .toolInFlight :=
        hc.field StoredRunRecord.durable_state fun _ => rfl
      apply Walk.ask
      · refine ⟨c, resumed, rfl, hstate, ?_, htool⟩
        rw [← h.action]
        exact restoreAction_congr (hc.field StoredRunRecord.pending_action fun _ => rfl)
      · intro execution _
        have hstep : c.next_step = step :=
          (hc.field StoredRunRecord.next_step fun _ => rfl).trans h.step
        have hmessages : c.messages = ctx.record.messages :=
          hc.field StoredRunRecord.messages fun _ => rfl
        have hcall : EndsInCall c ctx.messages call := by
          unfold EndsInCall
          rw [hmessages]
          exact h.call
        have hcounts : ctx.tool_calls = c.tool_calls ∧ ctx.model_turns = c.model_turns ∧
            ctx.record.run_id = c.run_id :=
          ⟨h.carries.tool_calls.trans (hc.field StoredRunRecord.tool_calls fun _ => rfl).symm,
            h.carries.model_turns.trans (hc.field StoredRunRecord.model_turns fun _ => rfl).symm,
            (hc.field StoredRunRecord.run_id fun _ => rfl).symm⟩
        subst hstep
        rw [hcounts.1, hcounts.2.1]
        apply Walk.persist
        · rfl
        · exact Checkpoint.complete rfl hstate hcall.1
        · intro saved hsaved
          apply Walk.ofPure
          refine ⟨rfl, ?_⟩
          subst hsaved
          refine ⟨⟨hcounts.2.2, rfl, rfl, h.carries.metadata⟩, Or.inl rfl, rfl, rfl, ?_⟩
          exact ⟨deserializeMessages_serialized _, hcall.2⟩

/-- The turn is saved. -/
structure AtTurned (input : RunInput) (v : WorkerView) (step : Nat) (ctx : DurableRunContext) :
    Prop where
  carries : Carries input ctx
  phase : v.phase = .turned ctx.record
  state : ctx.record.durable_state = .running
  step : ctx.record.next_step = step
  messages : deserializeMessages ctx.record.messages = .ok ctx.messages

/-- The call loaded a record with an open tool call. -/
structure AtPending (input : RunInput) (v : WorkerView) (step : Nat) (call : ToolCall)
    (state : DurableRunState) (ctx : DurableRunContext) : Prop where
  carries : Carries input ctx
  phase : v.phase = .held ctx.record
  state : ctx.record.durable_state = state
  step : ctx.record.next_step = step
  call : EndsInCall ctx.record ctx.messages call

theorem AtTurned.atEnd {step : Nat} (h : AtTurned input v step ctx) : AtEnd input v ctx where
  carries := h.carries
  phase := Or.inr (Or.inl h.phase)
  state := by
    rw [h.state]
    exact ⟨rfl, by decide⟩

theorem AtPending.atEnd {step : Nat} {call : ToolCall} {state : DurableRunState}
    (h : AtPending input v step call state ctx) (hterminal : state.isTerminal = false)
    (hflight : state ≠ .toolInFlight) : AtEnd input v ctx where
  carries := h.carries
  phase := Or.inl h.phase
  state := by
    rw [h.state]
    exact ⟨hterminal, hflight⟩

theorem walk_durablePrepare {run : DurableRun} {step : Nat} {now : Decimal} {tool : GovernedTool}
    {call : ToolCall} (hfits : Fits a input v run) (h : AtTurned input v step ctx)
    (hbudget : ctx.tool_calls < a.profile.max_tool_calls) :
    Walk a input (GoesOn fun v' (r : DurableRunContext × ActionIntent) =>
        v'.retrieved = v.retrieved ∧ AtPrepared input v' step call false r.2 r.1) v
      (durablePrepare a run step now tool call (requestIdFor a ctx.record) ctx) := by
  unfold durablePrepare
  cases hhistory : validateHistory (ctx.messages ++ [call.asMessage]) true with
  | error e => exact walk_finish h.atEnd hfits.metadata
  | ok u =>
    apply Walk.wallClock
    intro timestamp
    rw [h.carries.run_id]
    cases haction : captureAction a tool ctx.record.run_id call (requestIdFor a ctx.record)
        timestamp with
    | error e => exact walk_finish h.atEnd hfits.metadata
    | ok action =>
      have hstep := h.step
      subst hstep
      have hcounts := h.carries.model_turns
      rw [h.carries.tool_calls] at hbudget
      simp only [hcounts]
      apply Walk.persist
      · rw [h.phase]
        rfl
      · exact Checkpoint.prepare h.phase h.state h.messages hbudget hhistory haction
      · intro saved hsaved
        apply Walk.ofPure
        have hrestore : restoreAction saved = .ok action := by
          have htime := (ActionIntent.capture_fields haction).2.2
          unfold captureAction at haction
          rw [← htime] at haction
          apply restoreAction_pending _ haction
          rw [hsaved]
          rfl
        have hphase : v.phase.saved saved = .prepared saved := by
          rw [h.phase, hsaved]
          rfl
        have hcall : EndsInCall saved (ctx.messages ++ [call.asMessage]) call := by
          rw [hsaved]
          refine ⟨deserializeMessages_serialized _, ?_, hhistory⟩
          simp [ToolCall.asMessage]
        refine ⟨rfl, ?_⟩
        refine ⟨⟨?_, ?_, ?_, h.carries.metadata⟩, Or.inl ⟨hphase, rfl⟩, ?_, ?_, hcall, hrestore⟩
        all_goals rw [hsaved]
        · exact rfl
        · exact h.carries.tool_calls
        · exact rfl
        · exact rfl
        · exact rfl

/-- A call is ready to execute a tool, afresh or resumed. -/
def Ready (a : FoundationAgent) (input : RunInput) (v : WorkerView) (step : Nat) (call : ToolCall)
    (phase : Option ResumePhase) (ctx : DurableRunContext) : Prop :=
  match phase with
  | none => AtTurned input v step ctx ∧ ctx.tool_calls < a.profile.max_tool_calls
  | some .prepared => AtPending input v step call .toolPrepared ctx
  | some .completed => AtPending input v step call .toolCompleted ctx

theorem pendingRequestId_eq (h : Carries input ctx) {step : Nat} (hstep : ctx.record.next_step = step) :
    pendingRequestId a ctx step = requestIdFor a ctx.record := by
  cases hpending : ctx.record.pending_request_id with
  | none => simp only [pendingRequestId, requestIdFor, hpending, h.run_id, hstep]
  | some request_id => simp only [pendingRequestId, requestIdFor, hpending, h.run_id, hstep]

theorem walk_durableAction {run : DurableRun} {step : Nat} {now : Decimal} {tool : GovernedTool}
    {call : ToolCall} {phase : Option ResumePhase} (hfits : Fits a input v run)
    (h : Ready a input v step call phase ctx) (hphase : phase ≠ some .completed) :
    Walk a input (GoesOn fun v' (r : DurableRunContext × ActionIntent) =>
        v'.retrieved = v.retrieved ∧ AtPrepared input v' step call phase.isSome r.2 r.1) v
      (durableAction a run step now tool call (requestIdFor a ctx.record) phase ctx) := by
  unfold durableAction
  cases phase with
  | none =>
    rw [if_pos rfl]
    exact walk_durablePrepare hfits h.1 h.2
  | some p =>
    cases p with
    | completed => exact absurd rfl hphase
    | prepared =>
      rw [if_neg (by decide)]
      have hpending : AtPending input v step call .toolPrepared ctx := h
      apply Walk.raising
      intro action haction
      apply Walk.ofPure
      exact ⟨rfl, hpending.carries, Or.inr ⟨hpending.phase, rfl⟩, hpending.state, hpending.step,
        hpending.call, haction⟩

theorem walk_observe_after {run : DurableRun} {step : Nat} {call : ToolCall} {request_id : String}
    {resumed : Bool} {execution : GovernedExecution} {v' : WorkerView} (hfits : Fits a input v run)
    (hretrieved : v'.retrieved = v.retrieved) (h : AtCompleted input v' step call resumed ctx) :
    Walk a input (GoesOn fun v'' ctx' =>
        v''.retrieved = v.retrieved ∧ Observed input v'' step call resumed ctx') v'
      (durableObserve a run step call request_id ctx execution) := by
  have hfits' : Fits a input v' run := hfits.congr hretrieved
  apply Fallible.Meets.mono (walk_durableObserve hfits' h)
  · intro v'' r hr
    cases r with
    | inl result => trivial
    | inr ctx' =>
      obtain ⟨rfl, hr⟩ := hr
      exact ⟨hretrieved, hr⟩
  · intro _ _ _
    trivial

theorem walk_durableExecute {run : DurableRun} {step : Nat} {call : ToolCall} {request_id : String}
    {resumed : Bool} {action : ActionIntent} {v' : WorkerView} (hfits : Fits a input v run)
    (hretrieved : v'.retrieved = v.retrieved)
    (h : AtPrepared input v' step call resumed action ctx) :
    Walk a input (GoesOn fun v'' ctx' =>
        v''.retrieved = v.retrieved ∧ Observed input v'' step call resumed ctx') v'
      (durableExecute a run step call request_id ctx action) := by
  unfold durableExecute
  apply Walk.bind (walk_durableDispatch h)
  intro v'' r hr
  cases r with
  | inl result => exact trivial
  | inr p => exact walk_observe_after hfits (hr.1.trans hretrieved) hr.2

theorem Ready.atEnd {step : Nat} {call : ToolCall} {phase : Option ResumePhase}
    (h : Ready a input v step call phase ctx) : AtEnd input v ctx := by
  cases phase with
  | none => exact AtTurned.atEnd h.1
  | some p =>
    cases p with
    | prepared => exact AtPending.atEnd h rfl (by decide)
    | completed => exact AtPending.atEnd h rfl (by decide)

theorem Ready.step {step : Nat} {call : ToolCall} {phase : Option ResumePhase}
    (h : Ready a input v step call phase ctx) : ctx.record.next_step = step := by
  cases phase with
  | none => exact h.1.step
  | some p =>
    cases p with
    | prepared => exact AtPending.step h
    | completed => exact AtPending.step h

theorem walk_executeDurableTool {run : DurableRun} {step : Nat} {now : Decimal} {call : ToolCall}
    {phase : Option ResumePhase} (hfits : Fits a input v run)
    (h : Ready a input v step call phase ctx) :
    Walk a input (GoesOn fun v' ctx' =>
        v'.retrieved = v.retrieved ∧ Observed input v' step call phase.isSome ctx') v
      (executeDurableTool a run step now call phase ctx) := by
  unfold executeDurableTool
  apply Walk.raising
  intro tool _
  rw [pendingRequestId_eq h.atEnd.carries h.step]
  apply Walk.ite
  · rintro rfl
    have hpending : AtPending input v step call .toolCompleted ctx := h
    apply Walk.raising
    intro execution _
    apply walk_observe_after hfits rfl
    exact ⟨hpending.carries, Or.inr ⟨hpending.phase, rfl⟩, hpending.state, hpending.step,
      hpending.call⟩
  · intro hphase
    apply Walk.ite
    · intro _
      exact walk_finish h.atEnd hfits.metadata
    · intro _
      apply Walk.cancelled
      intro cancelled
      apply Walk.ite
      · intro _
        exact walk_finish h.atEnd hfits.metadata
      · intro _
        apply Walk.clock
        intro later
        apply Walk.ite
        · intro _
          exact walk_finish h.atEnd hfits.metadata
        · intro _
          apply Walk.bind (walk_durableAction hfits h hphase)
          intro v' r hr
          cases r with
          | inl result => exact trivial
          | inr p => exact walk_durableExecute hfits hr.1 hr.2

/-- A call between two steps, or at its first. -/
structure AtHead (input : RunInput) (v : WorkerView) (step : Nat) (ctx : DurableRunContext) :
    Prop where
  carries : Carries input ctx
  state : ctx.record.durable_state = .running
  step : ctx.record.next_step = step
  context : (v.phase = .held ctx.record ∧ ∃ stored,
      deserializeMessages ctx.record.messages = .ok stored ∧
        ctx.messages = stored ++ v.evidence.toList) ∨
    (v.phase = .advanced ctx.record ∧ deserializeMessages ctx.record.messages = .ok ctx.messages)

theorem AtHead.atEnd {step : Nat} (h : AtHead input v step ctx) : AtEnd input v ctx where
  carries := h.carries
  phase := by
    rcases h.context with ⟨hp, -⟩ | ⟨hp, -⟩
    · exact Or.inl hp
    · exact Or.inr (Or.inr (Or.inr hp))
  state := by
    rw [h.state]
    exact ⟨rfl, by decide⟩

theorem walk_durableAdvance {run : DurableRun} {step : Nat} {call : ToolCall}
    {phase : Option ResumePhase} {f : DurableRunContext → AgentM α}
    {Q : WorkerView → α → Prop} (hfits : Fits a input v run)
    (h : Observed input v step call phase.isSome ctx)
    (hf : ∀ v' ctx', v'.retrieved = v.retrieved → AtHead input v' (step + 1) ctx' →
      Walk a input Q v' (f ctx')) :
    Walk a input Q v (durableAdvance run step phase ctx >>= f) := by
  obtain ⟨ms, message, hcall, hresult, hmessages⟩ := h.result
  unfold durableAdvance
  have happended : (if phase.isSome = true then run.knowledge_message.toList else []) =
      appended v phase.isSome := by
    rw [hfits.knowledge]
    rfl
  have hstep := h.step
  subst hstep
  have hcalls := h.carries.tool_calls
  have hturns := h.carries.model_turns
  simp only [happended, hmessages, hcalls, hturns]
  apply Walk.persist
  · rcases h.phase with hp | ⟨hp, -⟩ <;> rw [hp] <;> rfl
  · exact Checkpoint.advance h.phase h.state hcall hresult
  · intro saved hsaved
    have hphase : v.phase.saved saved = .advanced saved := by
      rcases h.phase with hp | ⟨hp, -⟩ <;> rw [hp, hsaved] <;> rfl
    apply hf
    · exact rfl
    refine ⟨⟨?_, ?_, ?_, h.carries.metadata⟩, ?_, ?_, Or.inr ⟨hphase, ?_⟩⟩
    all_goals rw [hsaved]
    · exact h.carries.run_id
    · exact rfl
    · exact rfl
    · exact rfl
    · exact rfl
    · exact deserializeMessages_serialized _

/-- What one iteration leaves for the next. -/
def Continues (input : RunInput) (v : WorkerView) (step : Nat) :
    WorkerView → RunResult ⊕ DurableRunContext → Prop :=
  GoesOn fun v' ctx' => v'.retrieved = v.retrieved ∧ AtHead input v' (step + 1) ctx'

theorem walk_durableTool {run : DurableRun} {step : Nat} {now : Decimal} {call : ToolCall}
    {phase : Option ResumePhase} (hfits : Fits a input v run)
    (h : Ready a input v step call phase ctx) :
    Walk a input (Continues input v step) v (durableTool a run step now call phase ctx) := by
  unfold durableTool
  apply Walk.bind (walk_executeDurableTool hfits h)
  intro v' r hr
  cases r with
  | inl result => exact trivial
  | inr ctx' =>
    obtain ⟨hretrieved, hobserved⟩ := hr
    have hfits' : Fits a input v' run := hfits.congr hretrieved
    apply walk_durableAdvance hfits' hobserved
    intro v'' ctx'' hretrieved' hhead
    exact ⟨hretrieved'.trans hretrieved, hhead⟩

theorem walk_durableOutput {run : DurableRun} {step : Nat} {now : Decimal} {output : ModelOutput}
    (hfits : Fits a input v run) (h : AtTurned input v step ctx) :
    Walk a input (Continues input v step) v (durableOutput a run step now output ctx) := by
  unfold durableOutput
  cases output with
  | text output =>
    apply Walk.ite
    · intro _
      exact walk_finish h.atEnd hfits.metadata
    · intro _
      apply Walk.clock
      intro timestamp
      apply Walk.bind (R := fun _ _ => True)
      · have hend := h.atEnd
        apply walk_persistTerminal
        · exact ⟨⟨hend.carries.run_id, hend.carries.tool_calls, hend.carries.model_turns,
            hend.carries.metadata⟩, hend.phase, hend.state⟩
        · intro s hs
          obtain rfl := Option.some.inj hs
          exact output.text_text
        · intro m hm
          cases hm
        · intro _ _
          trivial
      · intro v' result _
        exact trivial
  | other => exact walk_finish h.atEnd hfits.metadata
  | call call =>
    apply Walk.ite
    · intro _
      exact walk_finish h.atEnd hfits.metadata
    · intro _
      apply Walk.ite
      · intro _
        exact walk_finish h.atEnd hfits.metadata
      · intro _
        apply Walk.ite
        · intro _
          exact walk_finish h.atEnd hfits.metadata
        · intro hbudget
          have hready : Ready a input v step call none ctx := ⟨h, by omega⟩
          exact walk_durableTool hfits hready

theorem walk_durableTurn {run : DurableRun} {step : Nat} {now : Decimal} (hfits : Fits a input v run)
    (h : AtHead input v step ctx) (hstep : step ≤ a.profile.max_model_turns) :
    Walk a input (Continues input v step) v (durableTurn a run step now ctx) := by
  have hnext := h.step
  subst hnext
  have hrecord : v.phase.record? = some ctx.record := by
    rcases h.context with ⟨hp, -⟩ | ⟨hp, -⟩ <;> rw [hp] <;> rfl
  have hturns := h.carries.model_turns
  unfold durableTurn
  apply Walk.ask
  · exact ⟨⟨ctx.record, h.state, hstep, h.context⟩, hfits.consulted⟩
  · intro answer _
    cases answer with
    | error e =>
      apply Walk.ite
      · intro _
        have hend := h.atEnd
        apply walk_finish (v := v) _ hfits.metadata
        exact ⟨⟨hend.carries.run_id, hend.carries.tool_calls, hend.carries.model_turns,
          hend.carries.metadata⟩, hend.phase, hend.state⟩
      · intro _
        exact Walk.ofThrow
    | ok output =>
      have hasked : Worker.next v (.complete a.profile.model_route ctx.messages
          run.tool_definitions a.profile.limits.max_output_tokens) (.ok output) =
          { v with phase := .asked ctx.record ctx.messages } := by
        simp only [Worker.next, hrecord]
      rw [hasked]
      simp only [hturns]
      apply Walk.persist
      · rfl
      · exact Checkpoint.turn rfl h.state hstep
      · intro saved hsaved
        have hturned : AtTurned input { v with phase := .turned saved } ctx.record.next_step
            { ctx with
              events := ctx.events ++ [RunEvent.of .modelTurn ctx.record.next_step now
                [("run_id", run.run_id)]]
              model_turns := ctx.record.model_turns + 1
              record := saved } := by
          refine ⟨⟨?_, ?_, ?_, h.carries.metadata⟩, rfl, ?_, ?_, ?_⟩
          all_goals rw [hsaved]
          · exact h.carries.run_id
          · exact h.carries.tool_calls
          · exact rfl
          · exact rfl
          · exact rfl
          · exact deserializeMessages_serialized _
        have hphase : (Phase.asked ctx.record ctx.messages).saved saved = .turned saved := by
          rw [hsaved]
          rfl
        show Walk a input _ { v with phase := (Phase.asked ctx.record ctx.messages).saved saved } _
        rw [hphase]
        have hfits' : Fits a input { v with phase := .turned saved } run :=
          ⟨hfits.metadata, hfits.knowledge, hfits.consulted⟩
        apply Walk.cancelled
        intro cancelled
        apply Walk.ite
        · intro _
          exact walk_finish hturned.atEnd hfits.metadata
        · intro _
          apply Walk.clock
          intro later
          apply Walk.ite
          · intro _
            exact walk_finish hturned.atEnd hfits.metadata
          · intro _
            exact walk_durableOutput hfits' hturned

/-- A restored call is the open call of the record. -/
theorem restoreToolCall_ok {r : StoredRunRecord} {call : ToolCall}
    (h : restoreToolCall r = .ok call) : ∃ ms, EndsInCall r ms call := by
  unfold restoreToolCall at h
  split at h
  · split at h
    · cases h
    · obtain ⟨ms, hms, h⟩ := bind_ok.mp h
      obtain ⟨pending, hpending, h⟩ := bind_ok.mp h
      have hhistory : validateHistory ms true = .ok () := by
        cases hv : validateHistory ms true with
        | ok u => rfl
        | error e =>
          rw [hv] at hpending
          cases hpending
      split at h
      · cases h
      · next c hlast =>
        split at h
        · obtain rfl := Except.ok.inj h
          exact ⟨ms, hms, hlast, hhistory⟩
        · cases h
  · cases h

/-- The state a resumed phase starts from. -/
def ResumePhase.state : ResumePhase → DurableRunState
  | .prepared => .toolPrepared
  | .completed => .toolCompleted

/-- A call at the start of an iteration. -/
def AtStep (input : RunInput) (v : WorkerView) (step : Nat) (phase : Option ResumePhase)
    (ctx : DurableRunContext) : Prop :=
  match phase with
  | none => AtHead input v step ctx
  | some p => Carries input ctx ∧ v.phase = .held ctx.record ∧ ctx.record.durable_state = p.state ∧
      ctx.record.next_step = step ∧ deserializeMessages ctx.record.messages = .ok ctx.messages

theorem AtStep.atEnd {step : Nat} {phase : Option ResumePhase}
    (h : AtStep input v step phase ctx) : AtEnd input v ctx := by
  cases phase with
  | none => exact AtHead.atEnd h
  | some p =>
    obtain ⟨hcarries, hphase, hstate, -⟩ := h
    refine ⟨hcarries, Or.inl hphase, ?_⟩
    rw [hstate]
    cases p <;> exact ⟨rfl, by decide⟩

theorem walk_durableStep {run : DurableRun} {step : Nat} {phase : Option ResumePhase}
    (hfits : Fits a input v run) (h : AtStep input v step phase ctx)
    (hstep : step ≤ a.profile.max_model_turns) :
    Walk a input (Continues input v step) v (durableStep a run step phase ctx) := by
  unfold durableStep
  apply Walk.cancelled
  intro cancelled
  apply Walk.ite
  · intro _
    exact walk_finish h.atEnd hfits.metadata
  · intro _
    apply Walk.clock
    intro now
    apply Walk.ite
    · intro _
      exact walk_finish h.atEnd hfits.metadata
    · intro _
      apply Walk.ite
      · intro _
        exact walk_finish h.atEnd hfits.metadata
      · intro _
        cases phase with
        | none => exact walk_durableTurn hfits h hstep
        | some p =>
          obtain ⟨hcarries, hphase, hstate, hnext, hmessages⟩ := h
          apply Walk.raising
          intro call hcall
          have hrestored : restoreToolCall ctx.record = .ok call := by
            cases hr : restoreToolCall ctx.record with
            | ok c =>
              rw [hr] at hcall
              exact hcall
            | error e =>
              rw [hr] at hcall
              cases hcall
          obtain ⟨ms, hends⟩ := restoreToolCall_ok hrestored
          have hms : ms = ctx.messages := by
            have heq := hends.1
            rw [hmessages] at heq
            exact (Except.ok.inj heq).symm
          subst hms
          apply walk_durableTool hfits
          have hpending (state : DurableRunState) (hs : ctx.record.durable_state = state) :
              AtPending input v step call state ctx := ⟨hcarries, hphase, hs, hnext, hends⟩
          cases p with
          | prepared => exact hpending _ hstate
          | completed => exact hpending _ hstate

/-- The loop: by induction on the steps left, each iteration starting where
    the one before it ended. -/
theorem walk_durableLoop {run : DurableRun} {n step : Nat} {phase : Option ResumePhase}
    (hn : n = a.profile.max_model_turns + 1 - step) (hfits : Fits a input v run)
    (h : AtStep input v step phase ctx) :
    Walk a input (fun _ _ => True) v (durableLoop a run n step phase ctx) := by
  induction n generalizing v step phase ctx with
  | zero =>
    apply walk_persistTerminal h.atEnd
    · intro s hs
      cases hs
    · intro m hm
      cases hm
    · intro _ _
      trivial
  | succ n ih =>
    have hstep : step ≤ a.profile.max_model_turns := by omega
    apply Walk.bind (walk_durableStep hfits h hstep)
    intro v' r hr
    cases r with
    | inl result => exact trivial
    | inr ctx' =>
      obtain ⟨hretrieved, hhead⟩ := hr
      have hfits' : Fits a input v' run := hfits.congr hretrieved
      have hleft : n = a.profile.max_model_turns + 1 - (step + 1) := by omega
      exact ih hleft hfits' hhead

/-- A call that created or loaded a record it can go on with. -/
structure Initialized (input : RunInput) (v : WorkerView) (ctx : DurableRunContext) : Prop where
  carries : Carries input ctx
  phase : v.phase = .held ctx.record
  state : ctx.record.durable_state.isTerminal = false ∧ ctx.record.durable_state ≠ .toolInFlight
  step : ctx.next_step = ctx.record.next_step
  messages : deserializeMessages ctx.record.messages = .ok ctx.messages
  merge : ctx.merge_completed_tool = decide (ctx.record.durable_state = .toolCompleted)

/-- Retrieving knowledge changes the evidence only. -/
theorem walk_knowledgeContext {r : StoredRunRecord} (hphase : v.phase = .held r)
    (hretrieved : v.retrieved = none) :
    Walk a input (fun v' (k : Option Message × Bool) => v'.phase = v.phase ∧ k.1 = v'.evidence ∧
        (Consults a input = true → v'.retrieved.isSome = true)) v
      (knowledgeContext a input) := by
  have hnone : v.evidence = none := by
    rw [WorkerView.evidence, hretrieved]
    rfl
  unfold knowledgeContext
  apply Walk.ite
  · intro hknowledge
    refine Walk.ofPure ⟨rfl, hnone.symm, ?_⟩
    simp [Consults, hknowledge]
  · intro _
    dsimp only
    split
    · apply Walk.wallClock
      intro created_at
      apply Walk.ask
      · exact ⟨r, hphase⟩
      · intro answer _
        cases answer with
        | error e => exact Walk.ofPure ⟨rfl, rfl, fun _ => rfl⟩
        | ok quoted_evidence =>
          apply Walk.raising
          intro message hmessage
          apply Walk.ofPure
          refine ⟨rfl, ?_, fun _ => rfl⟩
          show some message = evidenceOf (.ok quoted_evidence)
          simp [evidenceOf, hmessage, Except.toOption]
    · next hids =>
      refine Walk.ofPure ⟨rfl, hnone.symm, ?_⟩
      -- One of the three texts is missing, so nothing is asked.
      intro hconsults
      simp only [Consults, Bool.and_eq_true, Option.isSome_iff_exists] at hconsults
      obtain ⟨⟨⟨_, tenant, ht⟩, collection, hc⟩, principal, hp⟩ := hconsults
      exact absurd hp (hids tenant collection principal ht hc)

/-- The phase a call starts the loop in is the one its record is in. -/
theorem atStep_of_initialized {knowledge_message : Option Message} {v' : WorkerView}
    (h : Initialized input v ctx) (hheld : v'.phase = .held ctx.record)
    (hknowledge : knowledge_message = v'.evidence) {ctx' : DurableRunContext}
    (hctx : ctx' = { ctx with
      messages := ctx.messages ++
        (if ctx.record.durable_state = .toolPrepared ∨ ctx.record.durable_state = .toolCompleted
          then [] else knowledge_message.toList) }) :
    AtStep input v' ctx'.next_step ctx'.phase ctx' := by
  have hrecord : ctx'.record = ctx.record := by rw [hctx]
  have hmerge : ctx'.merge_completed_tool = decide (ctx.record.durable_state = .toolCompleted) := by
    rw [hctx]
    exact h.merge
  have hstep : ctx'.record.next_step = ctx'.next_step := by
    rw [hctx]
    exact h.step.symm
  have hcarries : Carries input ctx' := by
    rw [hctx]
    exact ⟨h.carries.run_id, h.carries.tool_calls, h.carries.model_turns, h.carries.metadata⟩
  have hphase : v'.phase = .held ctx'.record := by rw [hheld, hrecord]
  have hpending (p : ResumePhase) (hstate : ctx.record.durable_state = p.state) :
      AtStep input v' ctx'.next_step (some p) ctx' := by
    refine ⟨hcarries, hphase, by rw [hrecord, hstate], hstep, ?_⟩
    have hmessages : ctx'.messages = ctx.messages := by
      rw [hctx]
      cases p <;> simp [hstate, ResumePhase.state]
    rw [hrecord, hmessages]
    exact h.messages
  by_cases hprepared : ctx.record.durable_state = .toolPrepared
  · have hp : ctx'.phase = some .prepared := by
      simp [DurableRunContext.phase, hrecord, hprepared]
    rw [hp]
    exact hpending .prepared hprepared
  · by_cases hcompleted : ctx.record.durable_state = .toolCompleted
    · have hp : ctx'.phase = some .completed := by
        simp [DurableRunContext.phase, hrecord, hmerge, hcompleted]
      rw [hp]
      exact hpending .completed hcompleted
    · have hp : ctx'.phase = none := by
        simp [DurableRunContext.phase, hrecord, hmerge, hprepared, hcompleted]
      have hrunning : ctx.record.durable_state = .running := by
        obtain ⟨hterminal, hflight⟩ := h.state
        cases hs : ctx.record.durable_state <;> simp_all [DurableRunState.isTerminal]
      have hmessages : ctx'.messages = ctx.messages ++ v'.evidence.toList := by
        rw [hctx, ← hknowledge]
        simp [hprepared, hcompleted]
      rw [hp]
      refine ⟨hcarries, by rw [hrecord, hrunning], hstep, Or.inl ⟨hphase, ctx.messages, ?_, hmessages⟩⟩
      rw [hrecord]
      exact h.messages

theorem walk_continueDurable {run_id : String} (h : Initialized input v ctx)
    (hretrieved : v.retrieved = none) :
    Walk a input (fun _ _ => True) v (continueDurable a input run_id ctx) := by
  unfold continueDurable
  apply Walk.bind (walk_knowledgeContext h.phase hretrieved)
  rintro v' ⟨knowledge_message, knowledge_tools_blocked⟩ ⟨hphase', hknowledge, hconsulted⟩
  have hheld : v'.phase = .held ctx.record := hphase'.trans h.phase
  simp only at hknowledge
  cases hdefinitions : a.tools.definitionsFor a.profile.permitted_tools with
  | error e =>
    apply Walk.ite
    · intro _
      apply walk_persistTerminal
      · exact ⟨⟨h.carries.run_id, h.carries.tool_calls, h.carries.model_turns, h.carries.metadata⟩,
          Or.inl hheld, h.state⟩
      · intro s hs
        cases hs
      · intro m hm
        obtain rfl := Option.some.inj hm
        exact ⟨_, rfl⟩
      · intro _ _
        trivial
    · intro _
      exact Walk.ofThrow
  | ok tool_definitions =>
    apply walk_durableLoop
    · exact rfl
    · exact ⟨rfl, hknowledge, hconsulted⟩
    · exact atStep_of_initialized h hheld hknowledge rfl

/-- What `initialize_durable_run` leaves. -/
def Initializes (input : RunInput) : WorkerView → RunResult ⊕ DurableRunContext → Prop :=
  GoesOn fun v ctx => v.retrieved = none ∧ Initialized input v ctx

theorem walk_computeDeadline {expires : Decimal} {Q : WorkerView → α → Prop}
    {f : Decimal → AgentM α} (hf : ∀ t, Walk a input Q v (f t)) :
    Walk a input Q v (computeDeadlineMonotonic expires >>= f) := by
  apply Walk.bind (R := fun v' _ => v' = v)
  · apply Walk.wallClock
    intro wall
    apply Walk.clock
    intro monotonic
    exact Walk.ofPure rfl
  · rintro v' t rfl
    exact hf t

theorem walk_resumeDurableRun {r : StoredRunRecord} {durable_input : RunInput}
    (hinput : durable_input.metadata = input.metadata) (hphase : v.phase = .held r)
    (hretrieved : v.retrieved = none) :
    Walk a input (Initializes input) v (resumeDurableRun a durable_input r) := by
  unfold resumeDurableRun
  apply Walk.ite
  · intro _
    exact Walk.ofThrow
  intro _
  apply Walk.ite
  · intro _
    exact Walk.ofThrow
  intro _
  apply Walk.ite
  · intro _
    apply Walk.raising
    intro result _
    exact Walk.ofPure trivial
  intro hterminal
  apply Walk.ite
  · intro _
    apply Walk.raising
    intro result _
    exact Walk.ofPure trivial
  intro hflight
  apply walk_computeDeadline
  intro deadline
  apply Walk.raising
  intro events _
  apply Walk.raising
  intro messages hmessages
  apply Walk.ofPure
  refine ⟨hretrieved, ⟨rfl, rfl, rfl, hinput⟩, hphase, ⟨?_, hflight⟩, rfl, hmessages, rfl⟩
  simpa using hterminal

theorem walk_createDurableRun {durable_input : RunInput} {run_id : String}
    {started expires : Decimal} {event : RunEvent} (hrun : nonBlank run_id = true)
    (htask : durable_input.task = input.task) (hinput : durable_input.metadata = input.metadata)
    (hphase : v.phase = .absent) (hretrieved : v.retrieved = none) :
    Walk a input (Initializes input) v
      (createDurableRun a durable_input run_id started expires event) := by
  unfold createDurableRun
  apply Walk.raising
  intro opening hopening
  apply Walk.ask
  · exact ⟨hphase, run_id, started, expires, opening, event, durable_input, hrun, hopening, htask,
      hinput, rfl⟩
  · intro answer _
    apply Walk.raising
    intro u hu
    subst hu
    apply walk_computeDeadline
    intro deadline
    apply Walk.ofPure
    have hflight : DurableRunState.running ≠ .toolInFlight := by decide
    refine ⟨hretrieved, ⟨rfl, rfl, rfl, hinput⟩, rfl, ⟨rfl, hflight⟩, rfl, ?_, rfl⟩
    exact deserializeMessages_serialized opening

theorem walk_initializeDurableRun {durable_input : RunInput} {run_id : String}
    {started expires : Decimal} {event : RunEvent} (hrun : nonBlank run_id = true)
    (htask : durable_input.task = input.task) (hinput : durable_input.metadata = input.metadata)
    (hphase : v.phase = .start) (hretrieved : v.retrieved = none) :
    Walk a input (Initializes input) v
      (initializeDurableRun a durable_input run_id started expires event) := by
  unfold initializeDurableRun
  apply Walk.ask
  · exact Or.inl hphase
  · intro loaded _
    cases loaded with
    | ok r =>
      have hheld : Worker.next v (.load run_id) (.ok r) = { v with phase := .held r } := by
        simp only [Worker.next, hphase]
      rw [hheld]
      exact walk_resumeDurableRun hinput rfl hretrieved
    | error e =>
      have habsent : Worker.next v (.load run_id) (.error e) = { v with phase := .absent } := by
        simp only [Worker.next, hphase]
      rw [habsent]
      apply Walk.ite
      · intro _
        exact walk_createDurableRun hrun htask hinput rfl hretrieved
      · intro _
        exact Walk.ofThrow

theorem withRunId_ok {run_id : String} {durable_input : RunInput}
    (h : input.withRunId run_id = .ok durable_input) :
    nonBlank run_id = true ∧ durable_input.task = input.task ∧
      durable_input.metadata = input.metadata := by
  unfold RunInput.withRunId at h
  split at h
  · next hrun =>
    obtain rfl := Except.ok.inj h
    exact ⟨hrun, rfl, rfl⟩
  · cases h

end walk

/-- **A durable call keeps to the protocol**, whatever it is answered. -/
theorem runDurable_walk (a : FoundationAgent) (input : RunInput) :
    Walk a input (fun _ _ => True) ⟨.start, none⟩ (runDurable a input) := by
  have hresolve : Walk a input (fun v _ => v = ⟨.start, none⟩) ⟨.start, none⟩
      (resolveRunId input) := by
    unfold resolveRunId
    cases input.run_id with
    | some run_id => exact Walk.ofPure rfl
    | none => exact ⟨trivial, fun _ _ => rfl⟩
  apply Walk.bind (R := fun v _ => v = ⟨.start, none⟩) hresolve
  rintro v run_id rfl
  apply Walk.wallClock
  intro started_at_utc
  apply Walk.clock
  intro started_at_monotonic
  apply Walk.ite
  · intro _
    exact Walk.ofPure trivial
  · intro _
    apply Walk.raising
    intro durable_input hdurable
    obtain ⟨hrun, htask, hinput⟩ := withRunId_ok hdurable
    apply Walk.bind (R := Initializes input)
    · apply Fallible.Meets.mapError
      exact walk_initializeDurableRun hrun htask hinput rfl rfl
    · intro v r hr
      cases r with
      | inl result => exact trivial
      | inr ctx => exact walk_continueDurable hr.2 hr.1

end CBrain

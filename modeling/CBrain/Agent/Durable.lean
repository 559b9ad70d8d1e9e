import CBrain.Agent.Record

/-! # Durable checkpoints

    Models the pure part of `cbrain/agent/durable_loop.py`: how a checkpoint
    and a terminal record are made from the record a worker holds, and how a
    pending action, call and execution are read back. -/

namespace CBrain

open Json (Dict)

/-! ## Section 1: Writing records -/

/-- The optional arguments of `persist_record`. -/
structure RecordUpdate where
  durable_state : Option DurableRunState := none
  events : Option (List RunEvent) := none
  messages : Option (List Message) := none
  tool_calls : Option Nat := none
  model_turns : Option Nat := none
  next_step : Option Nat := none
  pending_request_id : Option String := none
  pending_idempotency_key : Option String := none
  pending_action : Option Dict := none
  pending_tool_call_id : Option String := none
  pending_tool_name : Option String := none
  pending_execution_status : Option String := none
  pending_execution_output : PyVal := .none
  pending_execution_reason : Option String := none
  clear_pending : Bool := false
  terminal_status : Option RunStatus := none
  final_text : Option String := none
  terminal_metadata : Option PyDict := none

/-- `None if clear_pending else (new if new is not None else old)`. -/
def RecordUpdate.pending {α : Type} (u : RecordUpdate) (new old : Option α) : Option α :=
  if u.clear_pending then none else new.or old

/-- The record `persist_record` saves. -/
def StoredRunRecord.update (record : StoredRunRecord) (u : RecordUpdate) : StoredRunRecord where
  schema_version := record.schema_version
  version := record.version
  run_id := record.run_id
  durable_state := u.durable_state.getD record.durable_state
  profile_fingerprint := record.profile_fingerprint
  task := record.task
  run_metadata := record.run_metadata
  started_at_utc := record.started_at_utc
  expires_at_utc := record.expires_at_utc
  next_step := u.next_step.getD record.next_step
  tool_calls := u.tool_calls.getD record.tool_calls
  model_turns := u.model_turns.getD record.model_turns
  messages := (u.messages.map (·.map serializeMessage)).getD record.messages
  events := (u.events.map (·.map serializeEvent)).getD record.events
  pending_request_id := u.pending u.pending_request_id record.pending_request_id
  pending_idempotency_key := u.pending u.pending_idempotency_key record.pending_idempotency_key
  pending_action := u.pending u.pending_action record.pending_action
  pending_tool_call_id := u.pending u.pending_tool_call_id record.pending_tool_call_id
  pending_tool_name := u.pending u.pending_tool_name record.pending_tool_name
  pending_execution_status := u.pending u.pending_execution_status record.pending_execution_status
  pending_execution_output :=
    if u.clear_pending then .none
    else if u.pending_execution_output = .none then record.pending_execution_output
    else u.pending_execution_output
  pending_execution_reason := u.pending u.pending_execution_reason record.pending_execution_reason
  terminal_status := u.terminal_status.or record.terminal_status
  final_text := u.final_text.or record.final_text
  terminal_metadata := u.terminal_metadata.or record.terminal_metadata

/-- `finalize_durable_record`. -/
def finalizeDurableRecord (record : StoredRunRecord) (durable_state : DurableRunState)
    (terminal_status : RunStatus) (final_text : Option String) (terminal_metadata : PyDict)
    (events : List RunEvent) (messages : List Message) (tool_calls model_turns : Nat) :
    StoredRunRecord where
  schema_version := record.schema_version
  version := record.version
  run_id := record.run_id
  durable_state := durable_state
  profile_fingerprint := record.profile_fingerprint
  task := record.task
  run_metadata := record.run_metadata
  started_at_utc := record.started_at_utc
  expires_at_utc := record.expires_at_utc
  next_step := record.next_step
  tool_calls := tool_calls
  model_turns := model_turns
  messages := messages.map serializeMessage
  events := events.map serializeEvent
  pending_request_id := none
  pending_idempotency_key := none
  pending_action := none
  pending_tool_call_id := none
  pending_tool_name := none
  pending_execution_status := none
  pending_execution_output := .none
  pending_execution_reason := none
  terminal_status := some terminal_status
  final_text := final_text
  terminal_metadata := some (PyDict.orElse (some terminal_metadata) record.run_metadata)

/-! ## Section 2: Reading a pending tool back -/

/-- The members of a pending action. -/
def pendingAction (agent_id tool_name capability : String) (arguments : Dict) (request_id : String)
    (timestamp : Timestamp) (context : Dict) : Dict :=
  object
    [("agent_id", .str agent_id), ("framework", .str "cbrain-foundation"),
      ("tool_name", .str tool_name), ("capability", .str capability),
      ("arguments", .dict arguments), ("request_id", .str request_id),
      ("idempotency_key", .str request_id),
      ("timestamp", ⟨timestamp.json, by
        cases timestamp
        · exact Json.WF.int _
        · exact Json.WF.float _⟩),
      ("context", .dict context)]

/-- A finite timestamp. -/
def timestamp? : Json → Raises Timestamp
  | .int i => .ok (.int i)
  | .float (.finite d) => .ok (.float d)
  | _ => .error (Exn.of .contractError "timestamp must be finite")

/-- A member that must be text; blank text is refused by the constructor. -/
def actionText (path : String) : Json → Raises String
  | .str s => .ok s
  | _ => .error (Exn.of .contractError s!"{path} must be a non-empty string")

/-- A member that must be a mapping. -/
def actionObject (path : String) (value : Json) : Raises Dict :=
  match toDict? value with
  | some d => .ok d
  | none => .error (Exn.of .contractError s!"{path} must be a mapping")

/-- A `ContractError` of a stored action. -/
def asPendingError (e : Exn) : Exn :=
  if e.kind = .contractError then runStoreError "pending action is invalid" else e

/-- `restore_action`.  A pending action carries its request id and timestamp;
    the branches of `capture` that draw a fresh id or read the clock are not
    modelled, and an action without them is refused. -/
def restoreAction (record : StoredRunRecord) : Raises ActionIntent :=
  match record.pending_action with
  | none => .error (runStoreError "missing pending action")
  | some action => do
    require (action.keys.all (["agent_id", "framework", "tool_name", "capability", "arguments",
        "context", "evidence", "request_id", "idempotency_key", "timestamp"].contains ·) = true ∧
        ["agent_id", "framework", "tool_name", "capability", "arguments"].all
          (action.keys.contains ·) = true)
      (Exn.of .typeError "ActionIntent.capture() arguments")
    Except.mapError asPendingError do
      let arguments ← actionObject "arguments" (action.get "arguments")
      let context ← optionally (actionObject "context") (action.get "context")
      let evidence ← optionally (actionObject "evidence") (action.get "evidence")
      let agent_id ← actionText "agent_id" (action.get "agent_id")
      let framework ← actionText "framework" (action.get "framework")
      let tool_name ← actionText "tool_name" (action.get "tool_name")
      let capability ← actionText "capability" (action.get "capability")
      let request_id ← actionText "request_id" (action.get "request_id")
      let idempotency_key ← optionally (actionText "idempotency_key") (action.get "idempotency_key")
      let timestamp ← timestamp? (action.get "timestamp")
      ActionIntent.capture agent_id framework tool_name capability arguments
        (context.getD (object [])) (evidence.getD (object [])) request_id
        (idempotency_key.getD "") timestamp

/-- `restore_tool_call`. -/
def restoreToolCall (record : StoredRunRecord) : Raises ToolCall :=
  match record.pending_tool_call_id, record.pending_tool_name, record.pending_action with
  | some call_id, some name, some action =>
    match toDict? (action.get "arguments") with
    | none => .error (runStoreError "pending tool arguments are invalid")
    | some arguments => do
      let messages ← deserializeMessages record.messages
      let pending ← Except.mapError
        (fun e => if e.kind.isModelError then runStoreError "pending assistant history is invalid"
          else e) do
        validateHistory messages true
        ToolCall.capture call_id name arguments none
      match messages.getLast?.bind Message.tool_call with
      | none =>
        .error (runStoreError "pending tool has no saved assistant turn; migration required")
      | some call =>
        if call.call_id = pending.call_id ∧ call.name = pending.name ∧
            call.arguments = pending.arguments then .ok call
        else .error (runStoreError "pending action and assistant call do not match")
  | _, _, _ => .error (runStoreError "missing pending tool call")

/-- `restore_execution`. -/
def restoreExecution (record : StoredRunRecord) : Raises GovernedExecution :=
  match record.pending_execution_status, record.pending_request_id with
  | some value, some request_id =>
    match ExecutionStatus.ofValue? value with
    | none => .error (runStoreError "pending execution status is invalid")
    | some status =>
      GovernedExecution.new status request_id status.toolExecuted
        (record.pending_execution_reason.getD "") none record.pending_execution_output false
  | _, _ => .error (runStoreError "missing pending execution result")

/-! ## Section 3: What is read back -/

theorem actionText_str (path s : String) : actionText path (.str s) = .ok s := rfl

theorem actionObject_dict (path : String) (d : Dict) : actionObject path d.json = .ok d := by
  simp [actionObject]

theorem timestamp?_json (t : Timestamp) : timestamp? t.json = .ok t := by
  cases t <;> rfl

theorem restoreAction_congr {r s : StoredRunRecord} (h : r.pending_action = s.pending_action) :
    restoreAction r = restoreAction s := by
  unfold restoreAction
  rw [h]

/-- The keys a pending action has. -/
theorem pendingAction_keys (agent_id tool_name capability : String) (arguments : Dict)
    (request_id : String) (timestamp : Timestamp) (context : Dict) :
    (pendingAction agent_id tool_name capability arguments request_id timestamp context).keys =
      ["agent_id", "arguments", "capability", "context", "framework", "idempotency_key",
        "request_id", "timestamp", "tool_name"] := by
  unfold pendingAction object
  rw [Dict.keys_of]
  simp only [List.map_cons, List.map_nil]
  decide

/-- The fields of a captured action. -/
theorem ActionIntent.capture_fields {agent_id framework tool_name capability : String}
    {arguments context evidence : Dict} {request_id idempotency_key : String}
    {timestamp : Timestamp} {action : ActionIntent}
    (h : ActionIntent.capture agent_id framework tool_name capability arguments context evidence
      request_id idempotency_key timestamp = .ok action) :
    action.request_id = request_id ∧ action.tool_name = tool_name ∧
      action.timestamp = timestamp := by
  unfold ActionIntent.capture ActionIntent.new at h
  obtain ⟨arguments_json, -, h⟩ := bind_ok.mp h
  obtain ⟨context_json, -, h⟩ := bind_ok.mp h
  obtain ⟨evidence_json, -, h⟩ := bind_ok.mp h
  obtain ⟨_, h⟩ := ensure_bind_ok.mp h
  obtain ⟨_, h⟩ := ensure_bind_ok.mp h
  obtain ⟨_, h⟩ := ensure_bind_ok.mp h
  obtain ⟨_, h⟩ := ensure_bind_ok.mp h
  obtain ⟨_, h⟩ := ensure_bind_ok.mp h
  obtain ⟨_, h⟩ := ensure_bind_ok.mp h
  obtain rfl := pure_ok.mp h
  exact ⟨rfl, rfl, rfl⟩

/-- **The pending action restores the action** it was written for. -/
theorem restoreAction_pending {record : StoredRunRecord} {agent_id tool_name capability : String}
    {arguments : Dict} {request_id : String} {timestamp : Timestamp} {context : Dict}
    {action : ActionIntent}
    (hrecord : record.pending_action =
      some (pendingAction agent_id tool_name capability arguments request_id timestamp context))
    (haction : ActionIntent.capture agent_id "cbrain-foundation" tool_name capability arguments
      context (object []) request_id request_id timestamp = .ok action) :
    restoreAction record = .ok action := by
  have hkeys := pendingAction_keys agent_id tool_name capability arguments request_id timestamp
    context
  have hget (k : String) : (pendingAction agent_id tool_name capability arguments request_id
      timestamp context).get k = _ := object_get _ k
  have h₁ := hget "agent_id"
  have h₂ := hget "framework"
  have h₃ := hget "tool_name"
  have h₄ := hget "capability"
  have h₅ := hget "arguments"
  have h₆ := hget "request_id"
  have h₇ := hget "idempotency_key"
  have h₈ := hget "timestamp"
  have h₉ := hget "context"
  have h₁₀ := hget "evidence"
  generalize pendingAction agent_id tool_name capability arguments request_id timestamp context =
    pending at *
  replace h₁ : pending.get "agent_id" = .str agent_id := h₁
  replace h₂ : pending.get "framework" = .str "cbrain-foundation" := h₂
  replace h₃ : pending.get "tool_name" = .str tool_name := h₃
  replace h₄ : pending.get "capability" = .str capability := h₄
  replace h₅ : pending.get "arguments" = arguments.json := h₅
  replace h₆ : pending.get "request_id" = .str request_id := h₆
  replace h₇ : pending.get "idempotency_key" = .str request_id := h₇
  replace h₈ : pending.get "timestamp" = timestamp.json := h₈
  replace h₉ : pending.get "context" = context.json := h₉
  replace h₁₀ : pending.get "evidence" = .null := h₁₀
  unfold restoreAction
  rw [hrecord]
  simp only [hkeys]
  rw [require_bind_pos (by decide)]
  simp only [h₁, h₂, h₃, h₄, h₅, h₆, h₇, h₈, h₉, h₁₀, optionally_dict, optionally_null,
    actionObject_dict, actionText_str, timestamp?_json]
  show Except.mapError asPendingError (ActionIntent.capture agent_id "cbrain-foundation" tool_name
    capability arguments context (object []) request_id request_id timestamp) = .ok action
  rw [haction]
  rfl

end CBrain

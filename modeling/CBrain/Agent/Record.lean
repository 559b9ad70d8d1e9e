import CBrain.Agent.Profile
import CBrain.Framework.Sha256

/-! # Stored run records

    Models `cbrain/agent/durable.py`: the record of a durable run, its JSON
    text, and the messages and events inside it. -/

namespace CBrain

open Json (Dict)

/-! ## Section 1: JSON helpers -/

/-- The object a value is, if it is one. -/
def toDict? (j : Json) : Option Dict :=
  match h : Json.normalize j with
  | .obj ms => some ⟨ms, h ▸ Json.wf_normalize j⟩
  | _ => none

@[simp] theorem toDict?_json (d : Dict) : toDict? d.json = some d := by
  have hnormal : Json.normalize d.json = .obj d.members := Json.normalize_wf d.wf_json
  unfold toDict?
  split
  · next ms h =>
    rw [hnormal] at h
    have hms : d.members = ms := Json.obj.inj h
    subst hms
    rfl
  · next hobj =>
    exact absurd hnormal (hobj d.members)

/-- A JSON value whose objects are in key order. -/
abbrev Value : Type := { j : Json // Json.WF j }

namespace Value

/-- Text. -/
def str (s : String) : Value := ⟨.str s, Json.WF.str s⟩

@[simp] theorem finite_str (s : String) : Json.finite (str s).1 = true := rfl

/-- `None` or text. -/
def optText : Option String → Value
  | some s => str s
  | none => ⟨.null, Json.WF.null⟩

theorem wf_nat (n : Nat) : Json.WF (.int n) := Json.WF.int n

/-- A count. -/
def nat (n : Nat) : Value := ⟨.int n, wf_nat n⟩

/-- A finite float. -/
def decimal (d : Decimal) : Value := ⟨.float (.finite d), Json.WF.float _⟩

/-- An object. -/
def dict (d : Dict) : Value := ⟨d.json, d.wf_json⟩

/-- `None` or an object. -/
def optDict : Option Dict → Value
  | some d => dict d
  | none => ⟨.null, Json.WF.null⟩

/-- A list of objects. -/
def dicts (ds : List Dict) : Value :=
  ⟨.arr (ds.map Dict.json), Json.WF.arr (by
    intro x hx
    obtain ⟨d, -, rfl⟩ := List.mem_map.mp hx
    exact d.wf_json)⟩

end Value

/-- The object with the given members. -/
def object (ms : List (String × Value)) : Dict :=
  Dict.of (ms.map fun m => (m.1, m.2.1)) (by
    intro m hm
    obtain ⟨x, -, rfl⟩ := List.mem_map.mp hm
    exact x.2.2)

theorem object_get (ms : List (String × Value)) (k : String) :
    (object ms).get k = (Json.get? (ms.map fun m => (m.1, m.2.1)).reverse k).getD .null := by
  unfold object Dict.get
  rw [Dict.get?_of]

/-- An object of finite values is finite. -/
theorem finite_object {ms : List (String × Value)} (h : ∀ m ∈ ms, Json.finite m.2.1 = true) :
    Json.finite (object ms).json = true := by
  refine Json.Dict.finite_of ?_
  intro m hm
  obtain ⟨member, hmember, rfl⟩ := List.mem_map.mp hm
  exact h member hmember

/-- The JSON value a Python value is written as. -/
def PyVal.image : PyVal → Json
  | .json j | .coerced j | .foreign j => j

@[simp] theorem PyVal.image_json (j : Json) : (PyVal.json j).image = j := rfl

/-- The encoder refuses the value. -/
def PyVal.refused : PyVal → Bool
  | .foreign _ => true
  | _ => false

/-- A value that JSON text carries unchanged. -/
def PyVal.Plain (v : PyVal) : Prop := ∃ j, v = .json j ∧ Json.WF j

/-- `RunStoreError`. -/
def runStoreError (message : String) : Exn := Exn.of .runStoreError message

/-- `_required_text`. -/
def storedText (field_name : String) (value : Json) : Raises String :=
  requiredMember (runStoreError s!"{field_name} must be a non-empty string") value

/-- `_optional_str`. -/
def optionalStr : Json → Raises (Option String)
  | .null => .ok none
  | j => Except.map some (requiredMember (runStoreError "expected non-empty string field") j)

/-- `_non_negative_int`. -/
def nonNegativeInt (field_name : String) (minimum : Nat) : Json → Raises Nat
  | .int i =>
    if minimum ≤ i then .ok i.toNat
    else .error (runStoreError s!"{field_name} must be >= {minimum}")
  | _ => .error (runStoreError s!"{field_name} must be an integer")

/-- `_finite_number`. -/
def finiteNumber (field_name : String) : Json → Raises Decimal
  | .int i => .ok (Decimal.ofInt i 0)
  | .float (.finite d) => .ok d
  | .float _ => .error (runStoreError s!"{field_name} must be finite")
  | _ => .error (runStoreError s!"{field_name} must be a finite number")

@[simp] theorem storedText_str {field_name s : String} (h : nonBlank s = true) :
    storedText field_name (.str s) = .ok s :=
  requiredMember_ok.mpr ⟨rfl, h⟩

theorem optionalStr_optText {s : Option String} (h : ∀ t, s = some t → nonBlank t = true) :
    optionalStr (Value.optText s).1 = .ok s := by
  cases s with
  | none => rfl
  | some t =>
    show Except.map some (requiredMember _ (.str t)) = .ok (some t)
    rw [requiredMember_ok.mpr ⟨rfl, h t rfl⟩]
    rfl

theorem nonNegativeInt_natCast {field_name : String} {minimum n : Nat} (h : minimum ≤ n) :
    nonNegativeInt field_name minimum (.int n) = .ok n := by
  have hle : (minimum : Int) ≤ n := by omega
  simp [nonNegativeInt, hle]

/-! ## Section 2: Messages -/

/-- The `continuation` member of a serialized call. -/
def serializeTurn (turn : ProviderContinuation) : Dict :=
  object
    [("provider", .str turn.provider), ("model", .str turn.model),
      ("wire_format", .str turn.wire_format.value), ("message", .dict turn.message)]

/-- The `tool_call` member of a serialized message. -/
def serializeCall (call : ToolCall) : Dict :=
  object
    ([("call_id", .str call.call_id), ("name", .str call.name),
        ("arguments", .dict call.arguments)] ++
      call.continuation.toList.map fun turn => ("continuation", .dict (serializeTurn turn)))

/-- `serialize_message`. -/
def serializeMessage (message : Message) : Dict :=
  object
    ([("role", .str message.role.value), ("content", .str message.content),
        ("tool_call_id", .optText message.tool_call_id),
        ("tool_name", .optText message.tool_name)] ++
      message.tool_call.toList.map fun call => ("tool_call", .dict (serializeCall call)))

/-- `None` for an absent or null member, else what the reader makes of it. -/
def optionally {α : Type} (read : Json → Raises α) : Json → Raises (Option α)
  | .null => .ok none
  | j => Except.map some (read j)

@[simp] theorem optionally_null {α : Type} (read : Json → Raises α) :
    optionally read .null = .ok none := rfl

theorem optionally_dict {α : Type} (read : Json → Raises α) (d : Dict) :
    optionally read d.json = Except.map some (read d.json) := rfl

/-- A `ModelError` inside `deserialize_message`. -/
def asHistoryError (e : Exn) : Exn :=
  if e.kind.isModelError then runStoreError "stored assistant history is invalid" else e

/-- The continuation of a stored call. -/
def deserializeTurn (raw : Json) : Raises ProviderContinuation :=
  match toDict? raw with
  | none => .error (runStoreError "stored continuation is invalid")
  | some turn =>
    match toDict? (turn.get "message") with
    | none => .error (runStoreError "stored continuation is invalid")
    | some message => do
      let provider ← storedText "provider" (turn.get "provider")
      let model ← storedText "model" (turn.get "model")
      let wire_format ← storedText "wire_format" (turn.get "wire_format")
      ProviderContinuation.capture provider model wire_format message

/-- The tool call of a stored message. -/
def deserializeCall (raw : Json) : Raises ToolCall :=
  match toDict? raw with
  | none => .error (runStoreError "stored assistant call is invalid")
  | some call =>
    match toDict? (call.get "arguments") with
    | none => .error (runStoreError "stored assistant call is invalid")
    | some arguments => do
      let continuation ← optionally deserializeTurn (call.get "continuation")
      let call_id ← storedText "call_id" (call.get "call_id")
      let name ← storedText "name" (call.get "name")
      ToolCall.capture call_id name arguments continuation

/-- A member that `Message` accepts as `None` or text only. -/
def messageText (value : Json) : Raises (Option String) :=
  match value with
  | .null => .ok none
  | .str s => .ok (some s)
  | _ => .error (modelContract "tool_call_id must be non-empty text")

/-- `deserialize_message`. -/
def deserializeMessage (payload : Dict) : Raises Message :=
  match payload.get "role", payload.get "content" with
  | .str role, .str content =>
    match MessageRole.ofValue? role with
    | none => .error (runStoreError "stored message role is invalid")
    | some message_role => Except.mapError asHistoryError do
      let tool_call ← optionally deserializeCall (payload.get "tool_call")
      let tool_call_id ← messageText (payload.get "tool_call_id")
      let tool_name ← messageText (payload.get "tool_name")
      Message.new message_role content tool_call_id tool_name tool_call
  | _, _ => .error (runStoreError "stored message is invalid")

theorem ProviderContinuation.valid_texts (t : ProviderContinuation) :
    nonBlank t.provider = true ∧ nonBlank t.model = true ∧
      validateModelMembers "continuation" t.message.members = .ok () := by
  have h := t.valid
  unfold ProviderContinuation.check modelText at h
  simp only [require_bind_ok] at h
  exact ⟨h.1, h.2.1, h.2.2.2⟩

/-- A continuation's own fields are captured as the continuation. -/
theorem ProviderContinuation.capture_self (t : ProviderContinuation) :
    ProviderContinuation.capture t.provider t.model t.wire_format.value t.message = .ok t := by
  obtain ⟨hprovider, hmodel, hjson⟩ := t.valid_texts
  unfold ProviderContinuation.capture modelText
  rw [hjson]
  show (require _ _ >>= fun _ => require _ _ >>= fun _ => _) = _
  rw [require_bind_pos hprovider, require_bind_pos hmodel, WireFormat.ofValue?_value]
  dsimp only
  split
  · rfl
  · next e h =>
    rw [t.valid] at h
    cases h

theorem WireFormat.value_text (f : WireFormat) : nonBlank f.value = true := by
  cases f <;> decide

theorem deserializeTurn_serialized (t : ProviderContinuation) :
    deserializeTurn (serializeTurn t).json = .ok t := by
  obtain ⟨hprovider, hmodel, -⟩ := t.valid_texts
  have hmessage : (serializeTurn t).get "message" = t.message.json := by
    simp [serializeTurn, object_get, Json.get?_cons, Value.dict]
  have h₁ : (serializeTurn t).get "provider" = .str t.provider := by
    simp [serializeTurn, object_get, Json.get?_cons, Value.str]
  have h₂ : (serializeTurn t).get "model" = .str t.model := by
    simp [serializeTurn, object_get, Json.get?_cons, Value.str]
  have h₃ : (serializeTurn t).get "wire_format" = .str t.wire_format.value := by
    simp [serializeTurn, object_get, Json.get?_cons, Value.str]
  unfold deserializeTurn
  simp only [toDict?_json, hmessage, h₁, h₂, h₃, storedText_str hprovider, storedText_str hmodel,
    storedText_str t.wire_format.value_text]
  exact t.capture_self

theorem ToolCall.valid_texts (c : ToolCall) :
    nonBlank c.call_id = true ∧ nonBlank c.name = true ∧ isToolName c.name = true := by
  have h := c.valid
  unfold ToolCall.check toolName modelText at h
  simp only [unit_bind_ok, require_ok] at h
  exact ⟨h.2.1, h.2.2.1.1, h.2.2.1.2⟩

theorem deserializeCall_serialized (c : ToolCall) :
    deserializeCall (serializeCall c).json = .ok c := by
  obtain ⟨hid, hname, -⟩ := c.valid_texts
  have harguments : (serializeCall c).get "arguments" = c.arguments.json := by
    cases h : c.continuation <;>
      simp [serializeCall, object_get, Json.get?_cons, Value.dict, h]
  have h₁ : (serializeCall c).get "call_id" = .str c.call_id := by
    cases h : c.continuation <;> simp [serializeCall, object_get, Json.get?_cons, Value.str, h]
  have h₂ : (serializeCall c).get "name" = .str c.name := by
    cases h : c.continuation <;> simp [serializeCall, object_get, Json.get?_cons, Value.str, h]
  have hcapture := c.capture_self
  unfold deserializeCall
  simp only [toDict?_json, harguments, h₁, h₂, storedText_str hid, storedText_str hname]
  cases h : c.continuation with
  | none =>
    have h₃ : (serializeCall c).get "continuation" = .null := by
      simp [serializeCall, object_get, Json.get?_cons, h]
    rw [h] at hcapture
    simp only [h₃]
    exact hcapture
  | some t =>
    have h₃ : (serializeCall c).get "continuation" = (serializeTurn t).json := by
      simp [serializeCall, object_get, Json.get?_cons, Value.dict, h]
    rw [h] at hcapture
    simp only [h₃, optionally_dict, deserializeTurn_serialized]
    exact hcapture

@[simp] theorem messageText_optText (s : Option String) :
    messageText (Value.optText s).1 = .ok s := by
  cases s <;> rfl

/-- **Messages round-trip** through their stored form. -/
theorem deserializeMessage_serialized (m : Message) :
    deserializeMessage (serializeMessage m) = .ok m := by
  have hrole : (serializeMessage m).get "role" = .str m.role.value := by
    cases h : m.tool_call <;> simp [serializeMessage, object_get, Json.get?_cons, Value.str, h]
  have hcontent : (serializeMessage m).get "content" = .str m.content := by
    cases h : m.tool_call <;> simp [serializeMessage, object_get, Json.get?_cons, Value.str, h]
  have hid : (serializeMessage m).get "tool_call_id" = (Value.optText m.tool_call_id).1 := by
    cases h : m.tool_call <;> simp [serializeMessage, object_get, Json.get?_cons, h]
  have hname : (serializeMessage m).get "tool_name" = (Value.optText m.tool_name).1 := by
    cases h : m.tool_call <;> simp [serializeMessage, object_get, Json.get?_cons, h]
  have hnew := m.new_self
  unfold deserializeMessage
  simp only [hrole, hcontent, hid, hname, MessageRole.ofValue?_value, messageText_optText]
  cases h : m.tool_call with
  | none =>
    have hcall : (serializeMessage m).get "tool_call" = .null := by
      simp [serializeMessage, object_get, Json.get?_cons, h]
    rw [h] at hnew
    simp only [hcall]
    show Except.mapError asHistoryError (Message.new _ _ _ _ _) = _
    rw [hnew]
    rfl
  | some c =>
    have hcall : (serializeMessage m).get "tool_call" = (serializeCall c).json := by
      simp [serializeMessage, object_get, Json.get?_cons, Value.dict, h]
    rw [h] at hnew
    simp only [hcall, optionally_dict, deserializeCall_serialized]
    show Except.mapError asHistoryError (Message.new _ _ _ _ _) = _
    rw [hnew]
    rfl

/-- The messages of a stored list. -/
def deserializeMessages (items : List Dict) : Raises (List Message) := items.mapM deserializeMessage

@[simp] theorem deserializeMessages_serialized (ms : List Message) :
    deserializeMessages (ms.map serializeMessage) = .ok ms := by
  induction ms with
  | nil => rfl
  | cons m ms ih =>
    unfold deserializeMessages at ih ⊢
    rw [List.map_cons, List.mapM_cons, deserializeMessage_serialized, ih]
    rfl

/-! ## Section 3: Events -/

/-- `serialize_event`. -/
def serializeEvent (event : RunEvent) : Dict :=
  object
    [("kind", .str event.kind.value), ("step", .nat event.step),
      ("timestamp", .decimal event.timestamp), ("detail", .dict event.detail)]

/-- `deserialize_event`. -/
def deserializeEvent (payload : Dict) : Raises RunEvent := do
  let kind ← match payload.get "kind" with
    | .str kind => .ok kind
    | _ => .error (runStoreError "stored event kind is invalid")
  let step ← nonNegativeInt "event step" 0 (payload.get "step")
  let timestamp ← finiteNumber "event timestamp" (payload.get "timestamp")
  match toDict? (payload.get "detail") with
  | none => .error (runStoreError "stored event detail is invalid")
  | some detail =>
    match RunEventKind.ofValue? kind with
    | none => .error (runStoreError "stored event kind is invalid")
    | some kind => .ok ⟨kind, step, timestamp, detail⟩

/-- Events round-trip through their stored form. -/
theorem deserializeEvent_serialized (e : RunEvent) : deserializeEvent (serializeEvent e) = .ok e := by
  have hkind : (serializeEvent e).get "kind" = .str e.kind.value := by
    simp [serializeEvent, object_get, Json.get?_cons, Value.str]
  have hstep : (serializeEvent e).get "step" = .int e.step := by
    simp [serializeEvent, object_get, Json.get?_cons, Value.nat]
  have htime : (serializeEvent e).get "timestamp" = .float (.finite e.timestamp) := by
    simp [serializeEvent, object_get, Json.get?_cons, Value.decimal]
  have hdetail : (serializeEvent e).get "detail" = e.detail.json := by
    simp [serializeEvent, object_get, Json.get?_cons, Value.dict]
  unfold deserializeEvent
  simp only [hkind, hstep, htime, hdetail, nonNegativeInt_natCast (Nat.zero_le _),
    toDict?_json, finiteNumber]
  show (match RunEventKind.ofValue? e.kind.value with
    | none => _
    | some kind => _) = _
  rw [RunEventKind.ofValue?_value]

/-- The events of a stored list. -/
def deserializeEvents (items : List Dict) : Raises (List RunEvent) := items.mapM deserializeEvent

@[simp] theorem deserializeEvents_serialized (es : List RunEvent) :
    deserializeEvents (es.map serializeEvent) = .ok es := by
  induction es with
  | nil => rfl
  | cons e es ih =>
    unfold deserializeEvents at ih ⊢
    rw [List.map_cons, List.mapM_cons, deserializeEvent_serialized, ih]
    rfl

/-! ## Section 4: Records -/

/-- `DurableRunState`. -/
inductive DurableRunState where
  | running
  | toolPrepared
  | toolInFlight
  | toolCompleted
  | recoveryRequired
  | completed
  | failed
  | cancelled
  deriving DecidableEq, Repr

/-- `state.value`. -/
def DurableRunState.value : DurableRunState → String
  | .running => "RUNNING"
  | .toolPrepared => "TOOL_PREPARED"
  | .toolInFlight => "TOOL_IN_FLIGHT"
  | .toolCompleted => "TOOL_COMPLETED"
  | .recoveryRequired => "RECOVERY_REQUIRED"
  | .completed => "COMPLETED"
  | .failed => "FAILED"
  | .cancelled => "CANCELLED"

/-- `DurableRunState(value)`. -/
def DurableRunState.ofValue? (value : String) : Option DurableRunState :=
  [.running, .toolPrepared, .toolInFlight, .toolCompleted, .recoveryRequired, .completed, .failed,
    .cancelled].find? fun s => s.value == value

@[simp] theorem DurableRunState.ofValue?_value (s : DurableRunState) :
    DurableRunState.ofValue? s.value = some s := by
  cases s <;> decide

theorem DurableRunState.value_injective : Function.Injective DurableRunState.value := by
  intro s t h
  have hvalue := congrArg DurableRunState.ofValue? h
  rw [DurableRunState.ofValue?_value, DurableRunState.ofValue?_value] at hvalue
  exact Option.some.inj hvalue

/-- `_TERMINAL_DURABLE`. -/
def DurableRunState.isTerminal : DurableRunState → Bool
  | .completed | .failed | .cancelled | .recoveryRequired => true
  | _ => false

/-- `_PENDING_TOOL_STATES`. -/
def DurableRunState.isPendingTool : DurableRunState → Bool
  | .toolPrepared | .toolInFlight | .toolCompleted => true
  | _ => false

/-- `StoredRunRecord`. -/
structure StoredRunRecord where
  schema_version : Json
  version : Nat
  run_id : String
  durable_state : DurableRunState
  profile_fingerprint : String
  task : String
  run_metadata : PyDict
  started_at_utc : Decimal
  expires_at_utc : Decimal
  next_step : Nat
  tool_calls : Nat
  model_turns : Nat
  messages : List Dict
  events : List Dict
  pending_request_id : Option String
  pending_idempotency_key : Option String
  pending_action : Option Dict
  pending_tool_call_id : Option String
  pending_tool_name : Option String
  pending_execution_status : Option String
  pending_execution_output : PyVal
  pending_execution_reason : Option String
  terminal_status : Option RunStatus
  final_text : Option String
  terminal_metadata : Option PyDict

/-- `STORE_SCHEMA_VERSION`. -/
def storeSchemaVersion : Json := .int 2

/-- `profile_fingerprint`. -/
def profileFingerprint (profile : AgentProfile) : String :=
  let limits := profile.limits
  let payload := object
    [("agent_id", .str profile.agent_id), ("instructions", .str profile.instructions),
      ("model_route", .str profile.model_route),
      ("permitted_tools", ⟨textList profile.permitted_tools, Json.WF.arr (by
        intro x hx
        obtain ⟨s, -, rfl⟩ := List.mem_map.mp hx
        exact Json.WF.str s)⟩),
      ("max_model_turns", .nat profile.max_model_turns),
      ("max_tool_calls", .nat profile.max_tool_calls),
      ("timeout_seconds", .decimal profile.timeout_seconds),
      ("knowledge_required_for_tools", ⟨.bool profile.knowledge_required_for_tools, Json.WF.bool _⟩),
      ("limits", .dict (object
        [("max_context_messages", .nat limits.max_context_messages),
          ("max_model_text_chars", .nat limits.max_model_text_chars),
          ("max_observation_chars", .nat limits.max_observation_chars),
          ("max_output_tokens", .nat limits.max_output_tokens),
          ("max_task_chars", .nat limits.max_task_chars)]))]
  Sha256.hexdigest (Json.encode (Json.dumps .compact payload.json))

/-- `new_running_record`. -/
def newRunningRecord (run_id : String) (profile : AgentProfile) (run_input : RunInput)
    (started_at_utc expires_at_utc : Decimal) (messages : List Message) (events : List RunEvent) :
    StoredRunRecord where
  schema_version := storeSchemaVersion
  version := 0
  run_id := run_id
  durable_state := .running
  profile_fingerprint := profileFingerprint profile
  task := run_input.task
  run_metadata := run_input.metadataDict
  started_at_utc := started_at_utc
  expires_at_utc := expires_at_utc
  next_step := 1
  tool_calls := 0
  model_turns := 0
  messages := messages.map serializeMessage
  events := events.map serializeEvent
  pending_request_id := none
  pending_idempotency_key := none
  pending_action := none
  pending_tool_call_id := none
  pending_tool_name := none
  pending_execution_status := none
  pending_execution_output := .none
  pending_execution_reason := none
  terminal_status := none
  final_text := none
  terminal_metadata := none

/-- `m or n` for mappings: an empty mapping counts as absent. -/
def PyDict.orElse (m : Option PyDict) (n : PyDict) : PyDict :=
  match m with
  | some m => if m.image.members = [] then n else m
  | none => n

/-- `record_to_run_result`. -/
def recordToRunResult (record : StoredRunRecord) : Raises RunResult :=
  match record.terminal_status with
  | none => .error (runStoreError "stored run is not terminal")
  | some status => do
    let events ← deserializeEvents record.events
    return {
      run_id := record.run_id
      status := status
      final_text := record.final_text
      tool_calls := record.tool_calls
      model_turns := record.model_turns
      events := events
      metadata := PyDict.orElse record.terminal_metadata record.run_metadata }

/-- `in_flight_run_result`. -/
def inFlightRunResult (record : StoredRunRecord) (reason : String) : Raises RunResult := do
  let events ← deserializeEvents record.events
  return {
    run_id := record.run_id
    status := .executionInFlight
    final_text := none
    tool_calls := record.tool_calls
    model_turns := record.model_turns
    events := events
    metadata := record.run_metadata.setText "reason" reason }

/-- The default reason of `in_flight_run_result`. -/
def inFlightReason : String := "tool execution is in flight or its outcome is unknown"

/-! ## Section 5: The text of a record -/

/-- `None` or text, as a member of a record's text. -/
def optValue {α : Type} (value : α → Json) : Option α → Json
  | some a => value a
  | none => .null

namespace StoredRunRecord

/-- The members of the record's JSON object. -/
def fields (r : StoredRunRecord) : Json.Members :=
  [("schema_version", r.schema_version), ("version", .int r.version), ("run_id", .str r.run_id),
    ("durable_state", .str r.durable_state.value),
    ("profile_fingerprint", .str r.profile_fingerprint), ("task", .str r.task),
    ("run_metadata", r.run_metadata.image.json),
    ("started_at_utc", .float (.finite r.started_at_utc)),
    ("expires_at_utc", .float (.finite r.expires_at_utc)), ("next_step", .int r.next_step),
    ("tool_calls", .int r.tool_calls), ("model_turns", .int r.model_turns),
    ("messages", .arr (r.messages.map Dict.json)), ("events", .arr (r.events.map Dict.json)),
    ("pending_request_id", optValue .str r.pending_request_id),
    ("pending_idempotency_key", optValue .str r.pending_idempotency_key),
    ("pending_action", optValue Dict.json r.pending_action),
    ("pending_tool_call_id", optValue .str r.pending_tool_call_id),
    ("pending_tool_name", optValue .str r.pending_tool_name),
    ("pending_execution_status", optValue .str r.pending_execution_status),
    ("pending_execution_output", r.pending_execution_output.image),
    ("pending_execution_reason", optValue .str r.pending_execution_reason),
    ("terminal_status", optValue (fun s => .str s.value) r.terminal_status),
    ("final_text", optValue .str r.final_text),
    ("terminal_metadata", optValue (fun m => m.image.json) r.terminal_metadata)]

/-- Some part of the record is a value the encoder refuses. -/
def refused (r : StoredRunRecord) : Bool :=
  r.run_metadata.refused || r.pending_execution_output.refused ||
    r.terminal_metadata.any PyDict.refused

/-- The text of the record's object. -/
def text (r : StoredRunRecord) : List Char := Json.dumps .compact (.obj (Json.dictOf r.fields))

/-- `to_json`. -/
def toJson (r : StoredRunRecord) : Raises (List Char) :=
  if r.refused then .error (Exn.of .typeError "Object is not JSON serializable")
  else .ok r.text

end StoredRunRecord

/-- A member that must be an object. -/
def objectMember (message : String) (value : Json) : Raises Dict :=
  match toDict? value with
  | some d => .ok d
  | none => .error (runStoreError message)

/-- The elements of a list of objects, each error naming its index. -/
def objectList (what : String) (index : Nat) : List Json → Raises (List Dict)
  | [] => .ok []
  | x :: xs => do
    let d ← objectMember s!"{what} at index {index} is invalid" x
    let ds ← objectList what (index + 1) xs
    return d :: ds

/-- `_validate_state_fields`. -/
def validateStateFields (record : StoredRunRecord) : Raises Unit := do
  if record.durable_state.isTerminal then
    require (record.terminal_status.isSome = true)
      (runStoreError "terminal run missing terminal_status")
  else
    require (record.terminal_status = none)
      (runStoreError "non-terminal run must not include terminal_status")
    if record.durable_state.isPendingTool then
      let present (field_name : String) (isSome : Bool) : Raises Unit :=
        require (isSome = true)
          (runStoreError s!"{record.durable_state.value} requires {field_name}")
      present "pending_request_id" record.pending_request_id.isSome
      present "pending_idempotency_key" record.pending_idempotency_key.isSome
      present "pending_action" record.pending_action.isSome
      present "pending_tool_call_id" record.pending_tool_call_id.isSome
      present "pending_tool_name" record.pending_tool_name.isSome
    require (record.durable_state = .toolCompleted → record.pending_execution_status.isSome = true)
      (runStoreError "TOOL_COMPLETED requires pending_execution_status")

/-- The status a stored text names. -/
def storedStatus : Json → Raises RunStatus
  | .str s => match RunStatus.ofValue? s with
    | some status => .ok status
    | none => .error (runStoreError "terminal_status is invalid")
  | _ => .error (runStoreError "terminal_status must be a string")

/-- The state a stored text names. -/
def storedState : Json → Raises DurableRunState
  | .str s => match DurableRunState.ofValue? s with
    | some state => .ok state
    | none => .error (Exn.parts .runStoreError [.text "unknown durable state ", .repr (.str s)])
  | _ => .error (runStoreError "durable_state must be a string")

/-- The `messages` and `events` members. -/
def storedLists (messages events : Json) : Raises (List Dict × List Dict) :=
  match messages, events with
  | .arr messages, .arr events => do
    let messages ← objectList "message" 0 messages
    let events ← objectList "event" 0 events
    return (messages, events)
  | _, _ => .error (runStoreError "messages and events must be lists")

/-- `from_mapping`. -/
def fromMapping (payload : Dict) : Raises StoredRunRecord := do
  let schema_version := payload.get "schema_version"
  require (Json.pyEq schema_version storeSchemaVersion = true)
    (Exn.parts .runStoreError
      [.text "unsupported stored run schema version: ", .repr schema_version])
  let version ← nonNegativeInt "version" 0 (payload.get "version")
  let run_id ← storedText "run_id" (payload.get "run_id")
  let durable_state ← storedState (payload.get "durable_state")
  let profile_fingerprint ← storedText "profile_fingerprint" (payload.get "profile_fingerprint")
  let task ← storedText "task" (payload.get "task")
  let run_metadata ← objectMember "run_metadata must be a mapping" (payload.get "run_metadata")
  let started_at_utc ← finiteNumber "started_at_utc" (payload.get "started_at_utc")
  let expires_at_utc ← finiteNumber "expires_at_utc" (payload.get "expires_at_utc")
  let next_step ← nonNegativeInt "next_step" 1 (payload.get "next_step")
  let tool_calls ← nonNegativeInt "tool_calls" 0 (payload.get "tool_calls")
  let model_turns ← nonNegativeInt "model_turns" 0 (payload.get "model_turns")
  let (messages, events) ← storedLists (payload.get "messages") (payload.get "events")
  let terminal_status ← optionally storedStatus (payload.get "terminal_status")
  let terminal_metadata ← optionally (objectMember "terminal_metadata must be a mapping")
    (payload.get "terminal_metadata")
  let pending_action ← optionally (objectMember "pending_action must be a mapping")
    (payload.get "pending_action")
  let final_text ← optionalStr (payload.get "final_text")
  let pending_request_id ← optionalStr (payload.get "pending_request_id")
  let pending_idempotency_key ← optionalStr (payload.get "pending_idempotency_key")
  let pending_tool_call_id ← optionalStr (payload.get "pending_tool_call_id")
  let pending_tool_name ← optionalStr (payload.get "pending_tool_name")
  let pending_execution_status ← optionalStr (payload.get "pending_execution_status")
  let pending_execution_reason ← optionalStr (payload.get "pending_execution_reason")
  let record : StoredRunRecord := {
    schema_version, version, run_id, durable_state, profile_fingerprint, task
    run_metadata := PyDict.ofDict run_metadata
    started_at_utc, expires_at_utc, next_step, tool_calls, model_turns, messages, events
    pending_request_id, pending_idempotency_key, pending_action, pending_tool_call_id
    pending_tool_name, pending_execution_status
    pending_execution_output := .json (payload.get "pending_execution_output")
    pending_execution_reason, terminal_status, final_text
    terminal_metadata := terminal_metadata.map PyDict.ofDict }
  validateStateFields record
  return record

/-- `from_json`. -/
def StoredRunRecord.fromJson (raw : List Char) : Raises StoredRunRecord :=
  match Json.loads raw with
  | none => .error (runStoreError "stored run record is not valid JSON")
  | some j =>
    match toDict? j with
    | none => .error (runStoreError "stored run record must be a JSON object")
    | some payload => fromMapping payload

/-- The record as its text holds it: the values that may be anything are their
    JSON images. -/
def StoredRunRecord.reloaded (r : StoredRunRecord) : StoredRunRecord :=
  { r with
    schema_version := Json.normalize r.schema_version
    run_metadata := PyDict.ofDict r.run_metadata.image
    pending_execution_output := .json (Json.normalize r.pending_execution_output.image)
    terminal_metadata := r.terminal_metadata.map fun m => PyDict.ofDict m.image }

/-- The two records have the same text. -/
def StoredRunRecord.SameText (r s : StoredRunRecord) : Prop := r.reloaded = s.reloaded

/-- The record that a claim of its dispatch leaves. -/
def StoredRunRecord.inFlight (r : StoredRunRecord) (version : Nat) : StoredRunRecord :=
  { r with
    version := version
    durable_state := .toolInFlight }

/-- A record that its text restores: plain values where any value may stand,
    text that is not blank, and the fields its state requires. -/
structure StoredRunRecord.Restorable (r : StoredRunRecord) : Prop where
  schema : r.schema_version = storeSchemaVersion
  run_id : nonBlank r.run_id = true
  profile_fingerprint : nonBlank r.profile_fingerprint = true
  task : nonBlank r.task = true
  run_metadata : r.run_metadata.Plain
  next_step : 1 ≤ r.next_step
  pending_request_id : ∀ s, r.pending_request_id = some s → nonBlank s = true
  pending_idempotency_key : ∀ s, r.pending_idempotency_key = some s → nonBlank s = true
  pending_tool_call_id : ∀ s, r.pending_tool_call_id = some s → nonBlank s = true
  pending_tool_name : ∀ s, r.pending_tool_name = some s → nonBlank s = true
  pending_execution_status : ∀ s, r.pending_execution_status = some s → nonBlank s = true
  pending_execution_reason : ∀ s, r.pending_execution_reason = some s → nonBlank s = true
  final_text : ∀ s, r.final_text = some s → nonBlank s = true
  output : r.pending_execution_output.Plain
  terminal_metadata : ∀ m, r.terminal_metadata = some m → m.Plain
  state : validateStateFields r = .ok ()

namespace StoredRunRecord

theorem SameText.refl (r : StoredRunRecord) : r.SameText r := rfl

theorem SameText.symm {r s : StoredRunRecord} (h : r.SameText s) : s.SameText r := Eq.symm h

theorem SameText.trans {r s t : StoredRunRecord} (h₁ : r.SameText s) (h₂ : s.SameText t) :
    r.SameText t := Eq.trans h₁ h₂

/-- What the text determines is the same. -/
theorem SameText.field {α : Type} {r s : StoredRunRecord} (h : r.SameText s)
    (f : StoredRunRecord → α) (hf : ∀ t : StoredRunRecord, f t.reloaded = f t) : f r = f s := by
  rw [← hf r, ← hf s, h]

theorem SameText.inFlight {r s : StoredRunRecord} (h : r.SameText s) (version : Nat) :
    (r.inFlight version).SameText (s.inFlight version) :=
  congrArg (fun t : StoredRunRecord => t.inFlight version) h

theorem wf_optValue {α : Type} {value : α → Json} (h : ∀ a, Json.WF (value a)) (o : Option α) :
    Json.WF (optValue value o) := by
  cases o with
  | none => exact Json.WF.null
  | some a => exact h a

theorem wf_dicts (ds : List Dict) : Json.WF (.arr (ds.map Dict.json)) := (Value.dicts ds).2

theorem wf_fields {r : StoredRunRecord} (hschema : Json.WF r.schema_version)
    (houtput : Json.WF r.pending_execution_output.image) : ∀ m ∈ r.fields, Json.WF m.2 := by
  simp only [fields, List.forall_mem_cons, List.not_mem_nil, false_implies, implies_true, and_true]
  refine ⟨hschema, Json.WF.int _, Json.WF.str _, Json.WF.str _, Json.WF.str _, Json.WF.str _,
    Dict.wf_json _, Json.WF.float _, Json.WF.float _, Json.WF.int _, Json.WF.int _,
    Json.WF.int _, wf_dicts _, wf_dicts _, ?_, ?_, ?_, ?_, ?_, ?_, houtput, ?_, ?_, ?_, ?_⟩
  all_goals first
    | exact wf_optValue Json.WF.str _
    | exact wf_optValue Dict.wf_json _
    | exact wf_optValue (fun _ => Json.WF.str _) _
    | exact wf_optValue (fun _ => Dict.wf_json _) _

theorem objectList_dicts (what : String) (index : Nat) (ds : List Dict) :
    objectList what index (ds.map Dict.json) = .ok ds := by
  induction ds generalizing index with
  | nil => rfl
  | cons d ds ih =>
    rw [List.map_cons, objectList, ih]
    simp [objectMember, bind, Except.bind, pure, Except.pure]

theorem optionalStr_optValue {s : Option String} (h : ∀ t, s = some t → nonBlank t = true) :
    optionalStr (optValue .str s) = .ok s := by
  have heq : optValue Json.str s = (Value.optText s).1 := by cases s <;> rfl
  rw [heq]
  exact optionalStr_optText h

theorem optionally_optValue {α β : Type} {value : α → Json} {read : Json → Raises β} {f : α → β}
    (h : ∀ a, optionally read (value a) = .ok (some (f a))) (o : Option α) :
    optionally read (optValue value o) = .ok (o.map f) := by
  cases o with
  | none => rfl
  | some a => exact h a

theorem fromJson_of_loads {raw : List Char} {payload : Dict}
    (h : Json.loads raw = some payload.json) : fromJson raw = fromMapping payload := by
  unfold fromJson
  rw [h]
  simp only [toDict?_json]

theorem objectMember_dict (message : String) (d : Dict) :
    objectMember message d.json = .ok d := by
  simp [objectMember]

theorem storedLists_dicts (ms es : List Dict) :
    storedLists (.arr (ms.map Dict.json)) (.arr (es.map Dict.json)) = .ok (ms, es) := by
  unfold storedLists
  simp only [objectList_dicts]
  rfl

theorem get_fields {r : StoredRunRecord} (h : ∀ m ∈ r.fields, Json.WF m.2) (k : String) :
    (Dict.of r.fields h).get k = (Json.get? r.fields.reverse k).getD .null := by
  unfold Dict.get
  rw [Dict.get?_of]

theorem json_of (ms : Json.Members) (h : ∀ m ∈ ms, Json.WF m.2) :
    (Dict.of ms h).json = .obj (Json.dictOf ms) := rfl

theorem loads_text {r : StoredRunRecord} (h : ∀ m ∈ r.fields, Json.WF m.2) :
    Json.loads r.text = some (Dict.of r.fields h).json := by
  unfold text
  rw [json_of]
  exact Json.loads_dumps .compact (Json.wf_dictOf h)

/-- The payload holds the members of the record. -/
structure Holds (payload : Dict) (r : StoredRunRecord) : Prop where
  schema_version : payload.get "schema_version" = r.schema_version
  version : payload.get "version" = .int r.version
  run_id : payload.get "run_id" = .str r.run_id
  durable_state : payload.get "durable_state" = .str r.durable_state.value
  profile_fingerprint : payload.get "profile_fingerprint" = .str r.profile_fingerprint
  task : payload.get "task" = .str r.task
  run_metadata : payload.get "run_metadata" = r.run_metadata.image.json
  started_at_utc : payload.get "started_at_utc" = .float (.finite r.started_at_utc)
  expires_at_utc : payload.get "expires_at_utc" = .float (.finite r.expires_at_utc)
  next_step : payload.get "next_step" = .int r.next_step
  tool_calls : payload.get "tool_calls" = .int r.tool_calls
  model_turns : payload.get "model_turns" = .int r.model_turns
  messages : payload.get "messages" = .arr (r.messages.map Dict.json)
  events : payload.get "events" = .arr (r.events.map Dict.json)
  pending_request_id : payload.get "pending_request_id" = optValue .str r.pending_request_id
  pending_idempotency_key : payload.get "pending_idempotency_key" = optValue .str r.pending_idempotency_key
  pending_action : payload.get "pending_action" = optValue Dict.json r.pending_action
  pending_tool_call_id : payload.get "pending_tool_call_id" = optValue .str r.pending_tool_call_id
  pending_tool_name : payload.get "pending_tool_name" = optValue .str r.pending_tool_name
  pending_execution_status : payload.get "pending_execution_status" = optValue .str r.pending_execution_status
  pending_execution_output : payload.get "pending_execution_output" = r.pending_execution_output.image
  pending_execution_reason : payload.get "pending_execution_reason" = optValue .str r.pending_execution_reason
  terminal_status : payload.get "terminal_status" = optValue (fun s => .str s.value) r.terminal_status
  final_text : payload.get "final_text" = optValue .str r.final_text
  terminal_metadata : payload.get "terminal_metadata" = optValue (fun m => m.image.json) r.terminal_metadata

theorem holds_fields {r : StoredRunRecord} (h : ∀ m ∈ r.fields, Json.WF m.2) :
    Holds (Dict.of r.fields h) r := by
  have hget := get_fields h
  generalize Dict.of r.fields h = payload at hget
  constructor
  all_goals
    rw [hget]
    rfl

/-- The object of a restorable record restores it. -/
theorem fromMapping_holds {r : StoredRunRecord} (h : r.Restorable) {output : Json}
    (houtput : r.pending_execution_output = .json output) {payload : Dict}
    (hp : Holds payload r) : fromMapping payload = .ok r := by
  have hschema : Json.pyEq r.schema_version storeSchemaVersion = true := by
    rw [h.schema]
    decide
  have hstate : storedState (.str r.durable_state.value) = .ok r.durable_state := by
    simp [storedState]
  have hstatus : optionally storedStatus (optValue (fun s => .str s.value) r.terminal_status) =
      .ok (r.terminal_status.map id) :=
    optionally_optValue (fun s => by simp [optionally, storedStatus, Except.map]) _
  have haction (message : String) :
      optionally (objectMember message) (optValue Dict.json r.pending_action) =
        .ok (r.pending_action.map id) :=
    optionally_optValue (fun d => by rw [optionally_dict, objectMember_dict]; rfl) _
  have hterminal (message : String) :
      optionally (objectMember message) (optValue (fun m => m.image.json) r.terminal_metadata) =
        .ok (r.terminal_metadata.map PyDict.image) :=
    optionally_optValue (fun m => by rw [optionally_dict, objectMember_dict]; rfl) _
  have hmetadata : PyDict.ofDict r.run_metadata.image = r.run_metadata :=
    PyDict.ofDict_image h.run_metadata
  have hterminal_metadata :
      (r.terminal_metadata.map PyDict.image).map PyDict.ofDict = r.terminal_metadata := by
    cases hm : r.terminal_metadata with
    | none => rfl
    | some m => simp [PyDict.ofDict_image (h.terminal_metadata m hm)]
  unfold fromMapping
  simp only [hp.schema_version, hp.version, hp.run_id, hp.durable_state, hp.profile_fingerprint,
    hp.task, hp.run_metadata, hp.started_at_utc, hp.expires_at_utc, hp.next_step, hp.tool_calls,
    hp.model_turns, hp.messages, hp.events, hp.pending_request_id, hp.pending_idempotency_key,
    hp.pending_action, hp.pending_tool_call_id, hp.pending_tool_name, hp.pending_execution_status,
    hp.pending_execution_output, hp.pending_execution_reason, hp.terminal_status, hp.final_text,
    hp.terminal_metadata, nonNegativeInt_natCast (Nat.zero_le _),
    nonNegativeInt_natCast h.next_step, storedText_str h.run_id,
    storedText_str h.profile_fingerprint, storedText_str h.task, hstate, objectMember_dict,
    finiteNumber, storedLists_dicts, hstatus, haction, hterminal, optionalStr_optValue h.final_text,
    optionalStr_optValue h.pending_request_id, optionalStr_optValue h.pending_idempotency_key,
    optionalStr_optValue h.pending_tool_call_id, optionalStr_optValue h.pending_tool_name,
    optionalStr_optValue h.pending_execution_status,
    optionalStr_optValue h.pending_execution_reason, bind, Except.bind]
  have himage : PyVal.json r.pending_execution_output.image = r.pending_execution_output := by
    rw [houtput]
    rfl
  rw [(require_ok (u := ())).mpr hschema, himage, hmetadata, hterminal_metadata]
  simp only [Option.map_id_fun, id]
  rw [h.state]
  rfl

/-- **Records round-trip** through their text. -/
theorem fromJson_toJson {r : StoredRunRecord} (h : r.Restorable) :
    ∃ raw, r.toJson = .ok raw ∧ fromJson raw = .ok r := by
  obtain ⟨output, houtput, hwf⟩ := h.output
  have hrefused : r.refused = false := by
    have hterminal : r.terminal_metadata.any PyDict.refused = false := by
      cases hm : r.terminal_metadata with
      | none => rfl
      | some m => exact PyDict.refused_of_plain (h.terminal_metadata m hm)
    unfold refused
    rw [PyDict.refused_of_plain h.run_metadata, hterminal, houtput]
    rfl
  have hmembers : ∀ m ∈ r.fields, Json.WF m.2 := by
    apply wf_fields
    · rw [h.schema]
      exact Json.WF.int 2
    · rw [houtput]
      exact hwf
  have hload := loads_text hmembers
  have htext : r.toJson = .ok r.text := by
    unfold toJson
    rw [hrefused]
    rfl
  have hback : fromJson r.text = .ok r := by
    rw [fromJson_of_loads hload]
    exact fromMapping_holds h houtput (holds_fields hmembers)
  exact ⟨r.text, htext, hback⟩

end StoredRunRecord

/-! ## Section 6: What the text of any record restores -/

namespace StoredRunRecord

@[simp] theorem reloaded_reloaded (r : StoredRunRecord) : r.reloaded.reloaded = r.reloaded := by
  have hschema : Json.normalize (Json.normalize r.schema_version) = Json.normalize r.schema_version :=
    Json.normalize_wf (Json.wf_normalize _)
  have houtput : Json.normalize (Json.normalize r.pending_execution_output.image) =
      Json.normalize r.pending_execution_output.image := Json.normalize_wf (Json.wf_normalize _)
  have hterminal : (r.terminal_metadata.map fun m => PyDict.ofDict m.image).map
      (fun m => PyDict.ofDict m.image) = r.terminal_metadata.map fun m => PyDict.ofDict m.image := by
    cases r.terminal_metadata <;> rfl
  unfold reloaded
  simp only [PyVal.image_json, hschema, houtput, hterminal]
  rfl

theorem SameText.reloaded (r : StoredRunRecord) : r.reloaded.SameText r := r.reloaded_reloaded

/-- The text of a record holds the reloaded record. -/
theorem loads_text_reloaded (r : StoredRunRecord) :
    ∃ payload : Dict, Json.loads r.text = some payload.json ∧ Holds payload r.reloaded := by
  obtain ⟨payload, hloads, hget⟩ := Json.loads_dumps_dictOf .compact r.fields
  refine ⟨payload, hloads, ?_⟩
  have hdict (d : Dict) : Json.normalize d.json = d.json := Json.normalize_wf d.wf_json
  have hdicts (ds : List Dict) : Json.normalize (.arr (ds.map Dict.json)) = .arr (ds.map Dict.json) :=
    Json.normalize_wf (wf_dicts ds)
  have hvalue {α : Type} {value : α → Json} (h : ∀ a, Json.WF (value a)) (o : Option α) :
      Json.normalize (optValue value o) = optValue value o := Json.normalize_wf (wf_optValue h o)
  have htext (s : Option String) := hvalue Json.WF.str s
  have hmetadata (o : Option PyDict) : Json.normalize (optValue (fun m => m.image.json) o) =
      optValue (fun m => m.image.json) o := hvalue (fun m => m.image.wf_json) o
  have hterminal : optValue (fun m : PyDict => m.image.json) r.terminal_metadata =
      optValue (fun m => m.image.json) (r.terminal_metadata.map fun m => PyDict.ofDict m.image) := by
    cases r.terminal_metadata <;> rfl
  constructor
  case run_metadata => exact (hget _).trans (hdict _)
  case messages => exact (hget _).trans (hdicts _)
  case events => exact (hget _).trans (hdicts _)
  case pending_request_id => exact (hget _).trans (htext _)
  case pending_idempotency_key => exact (hget _).trans (htext _)
  case pending_action => exact (hget _).trans (hvalue Dict.wf_json _)
  case pending_tool_call_id => exact (hget _).trans (htext _)
  case pending_tool_name => exact (hget _).trans (htext _)
  case pending_execution_status => exact (hget _).trans (htext _)
  case pending_execution_reason => exact (hget _).trans (htext _)
  case terminal_status => exact (hget _).trans (hvalue (fun _ => Json.WF.str _) _)
  case final_text => exact (hget _).trans (htext _)
  case terminal_metadata =>
    have hmember : payload.get "terminal_metadata" =
        Json.normalize (optValue (fun m => m.image.json) r.terminal_metadata) := hget _
    rw [hmember, hmetadata]
    exact hterminal
  all_goals
    rw [hget]
    rfl

theorem storedText_ok {field_name s t : String} (h : storedText field_name (.str s) = .ok t) :
    t = s := by
  have heq := (requiredMember_ok.mp h).1
  exact (Json.str.inj heq).symm

theorem optionalStr_ok {s t : Option String} (h : optionalStr (optValue .str s) = .ok t) :
    t = s := by
  cases s with
  | none => exact (Except.ok.inj h).symm
  | some s =>
    have hmap : Except.map some (requiredMember (runStoreError "expected non-empty string field")
        (.str s)) = .ok t := h
    cases hr : requiredMember (runStoreError "expected non-empty string field") (.str s) with
    | error e =>
      rw [hr] at hmap
      cases hmap
    | ok u =>
      rw [hr] at hmap
      have heq := Json.str.inj (requiredMember_ok.mp hr).1
      rw [heq]
      exact (Except.ok.inj hmap).symm

theorem nonNegativeInt_ok {field_name : String} {minimum n k : Nat}
    (h : nonNegativeInt field_name minimum (.int n) = .ok k) : k = n := by
  simp only [nonNegativeInt] at h
  split at h
  · exact (Except.ok.inj h).symm
  · cases h

/-- A record read from the object of a reloaded record is that record. -/
theorem fromMapping_ok {r x : StoredRunRecord} {payload : Dict} (hp : Holds payload r.reloaded)
    (h : fromMapping payload = .ok x) : x = r.reloaded := by
  have hstate : storedState (.str r.reloaded.durable_state.value) = .ok r.reloaded.durable_state := by
    simp [storedState]
  have hstatus : optionally storedStatus
      (optValue (fun s => .str s.value) r.reloaded.terminal_status) =
      .ok (r.reloaded.terminal_status.map id) :=
    optionally_optValue (fun s => by simp [optionally, storedStatus, Except.map]) _
  have haction (message : String) :
      optionally (objectMember message) (optValue Dict.json r.reloaded.pending_action) =
        .ok (r.reloaded.pending_action.map id) :=
    optionally_optValue (fun d => by rw [optionally_dict, objectMember_dict]; rfl) _
  have hterminal (message : String) : optionally (objectMember message)
      (optValue (fun m => m.image.json) r.reloaded.terminal_metadata) =
        .ok (r.reloaded.terminal_metadata.map PyDict.image) :=
    optionally_optValue (fun m => by rw [optionally_dict, objectMember_dict]; rfl) _
  have hmetadata : (r.reloaded.terminal_metadata.map PyDict.image).map PyDict.ofDict =
      r.reloaded.terminal_metadata := by
    show ((r.terminal_metadata.map _).map _).map _ = r.terminal_metadata.map _
    cases r.terminal_metadata <;> rfl
  unfold fromMapping at h
  simp only [hp.schema_version, hp.version, hp.run_id, hp.durable_state, hp.profile_fingerprint,
    hp.task, hp.run_metadata, hp.started_at_utc, hp.expires_at_utc, hp.next_step, hp.tool_calls,
    hp.model_turns, hp.messages, hp.events, hp.pending_request_id, hp.pending_idempotency_key,
    hp.pending_action, hp.pending_tool_call_id, hp.pending_tool_name, hp.pending_execution_status,
    hp.pending_execution_output, hp.pending_execution_reason, hp.terminal_status, hp.final_text,
    hp.terminal_metadata] at h
  obtain ⟨_, -, h⟩ := bind_ok.mp h
  obtain ⟨version, hversion, h⟩ := bind_ok.mp h
  obtain ⟨run_id, hrun, h⟩ := bind_ok.mp h
  obtain ⟨state, hs, h⟩ := bind_ok.mp h
  obtain ⟨fingerprint, hfingerprint, h⟩ := bind_ok.mp h
  obtain ⟨task, htask, h⟩ := bind_ok.mp h
  obtain ⟨metadata, hm, h⟩ := bind_ok.mp h
  obtain ⟨started, hstarted, h⟩ := bind_ok.mp h
  obtain ⟨expires, hexpires, h⟩ := bind_ok.mp h
  obtain ⟨step, hstep, h⟩ := bind_ok.mp h
  obtain ⟨calls, hcalls, h⟩ := bind_ok.mp h
  obtain ⟨turns, hturns, h⟩ := bind_ok.mp h
  obtain ⟨⟨messages, events⟩, hlists, h⟩ := bind_ok.mp h
  obtain ⟨status, hst, h⟩ := bind_ok.mp h
  obtain ⟨terminal, hte, h⟩ := bind_ok.mp h
  obtain ⟨action, hac, h⟩ := bind_ok.mp h
  obtain ⟨final, hfinal, h⟩ := bind_ok.mp h
  obtain ⟨request, hrequest, h⟩ := bind_ok.mp h
  obtain ⟨key, hkey, h⟩ := bind_ok.mp h
  obtain ⟨call, hcall, h⟩ := bind_ok.mp h
  obtain ⟨name, hname, h⟩ := bind_ok.mp h
  obtain ⟨execution, hexecution, h⟩ := bind_ok.mp h
  obtain ⟨reason, hreason, h⟩ := bind_ok.mp h
  obtain ⟨_, -, h⟩ := bind_ok.mp h
  obtain rfl := pure_ok.mp h
  rw [hstate] at hs
  rw [objectMember_dict] at hm
  rw [storedLists_dicts] at hlists
  rw [hstatus] at hst
  rw [hterminal] at hte
  rw [haction] at hac
  obtain rfl := Except.ok.inj hs
  obtain rfl := Except.ok.inj hm
  obtain ⟨rfl, rfl⟩ := Prod.mk.inj (Except.ok.inj hlists)
  obtain rfl := Except.ok.inj hst
  obtain rfl := Except.ok.inj hte
  obtain rfl := Except.ok.inj hac
  obtain rfl := Except.ok.inj hstarted
  obtain rfl := Except.ok.inj hexpires
  obtain rfl := nonNegativeInt_ok hversion
  obtain rfl := nonNegativeInt_ok hstep
  obtain rfl := nonNegativeInt_ok hcalls
  obtain rfl := nonNegativeInt_ok hturns
  obtain rfl := storedText_ok hrun
  obtain rfl := storedText_ok hfingerprint
  obtain rfl := storedText_ok htask
  obtain rfl := optionalStr_ok hfinal
  obtain rfl := optionalStr_ok hrequest
  obtain rfl := optionalStr_ok hkey
  obtain rfl := optionalStr_ok hcall
  obtain rfl := optionalStr_ok hname
  obtain rfl := optionalStr_ok hexecution
  obtain rfl := optionalStr_ok hreason
  simp only [hmetadata, Option.map_id_fun, id]
  rfl

theorem fromJson_ok {r x : StoredRunRecord} (h : fromJson r.text = .ok x) : x = r.reloaded := by
  obtain ⟨payload, hloads, hp⟩ := r.loads_text_reloaded
  rw [fromJson_of_loads hloads] at h
  exact fromMapping_ok hp h

theorem toJson_cases (r : StoredRunRecord) : (∃ e, r.toJson = .error e) ∨ r.toJson = .ok r.text := by
  unfold toJson
  by_cases h : r.refused = true
  · rw [if_pos h]
    exact Or.inl ⟨_, rfl⟩
  · rw [if_neg h]
    exact Or.inr rfl

end StoredRunRecord

end CBrain

import CBrain.Dispatch

/-! # Decisions and the binding they seal

    Models `cbrain/adapters/privatevault.py`: the decision PrivateVault
    returned, the check that its sealed record can mint a permit, and
    `DecisionBinding`, the planned action and dispatch a decision request
    carries.
-/

namespace CBrain

open Json (Dict)

/-! ## Section 1: Sealed decisions -/

/-- `MINTABLE_DECISION_PROTOCOL`. -/
def MINTABLE_DECISION_PROTOCOL : String := "drp/0.2"

/-- `PrivateVaultVerdict`. -/
inductive PrivateVaultVerdict where
  | allow
  | requireApproval
  | block
  deriving DecidableEq, Repr

/-- `verdict.value`. -/
def PrivateVaultVerdict.value : PrivateVaultVerdict → String
  | .allow => "allow"
  | .requireApproval => "require_approval"
  | .block => "block"

/-- `PrivateVaultDecision`.  The record is kept as the bytes the client
    stored. -/
structure PrivateVaultDecision where
  verdict : PrivateVaultVerdict
  triggered_by : String
  reason : String
  request_id : String
  record_json : ByteArray

/-- `decision.record`. -/
def PrivateVaultDecision.record (decision : PrivateVaultDecision) : Raises Dict :=
  match h : Json.loadsBytes decision.record_json with
  | none => .error (Exn.of .jsonDecodeError "")
  | some (.obj ms) => .ok ⟨ms, Json.wf_loadsBytes h⟩
  | some _ =>
    .error (Exn.of .privateVaultProtocolError "stored PrivateVault record is not an object")

theorem PrivateVaultDecision.record_of_loads {decision : PrivateVaultDecision} {d : Dict}
    (hload : Json.loadsBytes decision.record_json = some d.json) : decision.record = .ok d := by
  unfold PrivateVaultDecision.record
  split
  · next h => rw [hload] at h; cases h
  · next ms h =>
    rw [hload] at h
    have hms : d.members = ms := by simpa [Dict.json] using h
    subst hms
    rfl
  · next hobj h =>
    rw [hload] at h
    exact absurd (Option.some.inj h).symm (hobj d.members)

/-- `value.removeprefix("sha256:").lower()`; a text whose lower case is
    hexadecimal has only ASCII letters. -/
def bareHash (value : String) : String :=
  let cs := value.toList
  String.ofList
    ((if cs.take 7 = "sha256:".toList then cs.drop 7 else cs).map Char.toLower)

/-- `require_mintable_record`: the record names everything `/v1/authorize`
    will ask for.  Returns the decision id and the bare record hash. -/
def requireMintableRecord (record : Dict) (agent_id capability : String) :
    Raises (String × String) := do
  let protocol := record.get "protocol_version"
  require (protocol = .str MINTABLE_DECISION_PROTOCOL)
    (Exn.parts .privateVaultProtocolError
      [.text "PrivateVault sealed an audit-only decision record; protocol_version=",
       .repr protocol, .text " cannot mint an execution permit"])
  requireEach (fun name => isDigest (record.get name))
    (fun name => Exn.parts .privateVaultProtocolError
      [.text "PrivateVault record field ", .repr (.str name),
       .text " is not a sealed sha256 digest"])
    ["action_digest", "dispatch_context_digest"]
  let decision_id ← requiredMember
    (Exn.of .privateVaultProtocolError
      "PrivateVault record field 'decision_id' must be non-empty text")
    (record.get "decision_id")
  let record_hash ← match record.get "record_hash" with
    | .str s => pure s
    | _ => throw (Exn.of .privateVaultProtocolError
        "PrivateVault record field 'record_hash' must be text")
  require (isSha256Hex (bareHash record_hash) = true)
    (Exn.of .privateVaultProtocolError
      "PrivateVault record field 'record_hash' is not a sha256 digest")
  require (record.get "agent_id" = .str agent_id)
    (Exn.of .privateVaultProtocolError "PrivateVault record is sealed for a different agent_id")
  require (record.get "capability" = .str capability)
    (Exn.of .privateVaultProtocolError "PrivateVault record is sealed for a different capability")
  return (decision_id, bareHash record_hash)

/-! ## Section 2: Binding a plan to a decision request -/

/-- `EXECUTION_ACTION_FIELDS`, sorted. -/
def executionActionFields : List String :=
  ["action", "parameters", "resource", "subject_key_id", "subject_principal"]

/-- `DISPATCH_CONTEXT_FIELDS`, sorted. -/
def dispatchContextFields : List String :=
  ["adapter", "destination", "operation", "serialization", "transport", "wire_content_type"]

/-- `KNOWN_WIRE_SERIALIZATIONS`. -/
def KNOWN_WIRE_SERIALIZATIONS : List String := [WIRE_SERIALIZATION_JSON_PARAMETERS_V01]

/-- The object a value is, if it is one. -/
def asObject (d : Dict) (k : String) : Option Dict :=
  match h : d.get? k with
  | some j => Json.dict? j (Dict.wf_get? h)
  | none => none

theorem asObject_eq {d e : Dict} {k : String} (h : d.get? k = some e.json) :
    asObject d k = some e := by
  unfold asObject
  split
  · next j hj =>
    obtain rfl : e.json = j := by rw [h] at hj; exact Option.some.inj hj
    exact Json.dict?_json e _
  · next hnone => rw [h] at hnone; cases hnone

theorem get?_of_asObject {d e : Dict} {k : String} (h : asObject d k = some e) :
    d.get? k = some e.json := by
  unfold asObject at h
  split at h
  · next j hj => rw [hj, Json.json_of_dict? h]
  · cases h

/-- `_validate_execution_action`; returns the `parameters` object. -/
def validateExecutionAction (execution_action : Dict) : Raises Dict := do
  require (execution_action.keys = executionActionFields)
    (fieldMismatch .privateVaultBindingError
      "execution_action fields do not match the pinned contract" executionActionFields
      execution_action.keys)
  requireEach (fun name => isNonEmptyText (execution_action.get name))
    (fun name => Exn.of .privateVaultBindingError
      s!"execution_action.{name} must be a non-empty string")
    ["subject_principal", "subject_key_id", "action", "resource"]
  match asObject execution_action "parameters" with
  | some parameters => return parameters
  | none => throw (Exn.of .privateVaultBindingError
      "execution_action.parameters must be a mapping")

/-- The value each field of the dispatch context is taken from. -/
def dispatchContextCandidate (dispatch : Dict) (name : String) : Json :=
  if name = "adapter" then
    -- The adapter defaults to the transport.
    if isNonEmptyText (dispatch.get "adapter") then dispatch.get "adapter"
    else dispatch.get "transport"
  else dispatch.get name

theorem wf_dispatchContextCandidate (dispatch : Dict) (name : String) :
    Json.WF (dispatchContextCandidate dispatch name) := by
  unfold dispatchContextCandidate
  split
  · split <;> exact dispatch.wf_get _
  · exact dispatch.wf_get _

/-- `_dispatch_context_from_dispatch`. -/
def dispatchContextFromDispatch (dispatch : Dict) : Raises Dict := do
  requireEach (fun name => isNonEmptyText (dispatchContextCandidate dispatch name))
    (fun name => Exn.of .privateVaultBindingError
      s!"dispatch_context.{name} must be a non-empty string")
    dispatchContextFields
  let serialization := dispatch.get "serialization"
  require (serialization ∈ KNOWN_WIRE_SERIALIZATIONS.map Json.str)
    (Exn.parts .privateVaultBindingError
      [.text "dispatch_context.serialization must be a known wire contract; got ",
       .repr serialization])
  return Dict.of (dispatchContextFields.map fun name =>
      (name, dispatchContextCandidate dispatch name))
    (by
      intro m hm
      obtain ⟨name, -, rfl⟩ := List.mem_map.mp hm
      exact wf_dispatchContextCandidate dispatch name)

/-- `DecisionBinding`: the planned action and dispatch a decision seals. -/
structure DecisionBinding where
  execution_action_json : Snapshot
  dispatch_context_json : Snapshot

namespace DecisionBinding

/-- `binding.execution_action`. -/
def executionAction (b : DecisionBinding) : Dict := b.execution_action_json.restore

/-- `binding.dispatch_context`. -/
def dispatchContext (b : DecisionBinding) : Dict := b.dispatch_context_json.restore

/-- `DecisionBinding.capture`. -/
def capture (action : ActionIntent) (execution_action dispatch : Dict) :
    Raises DecisionBinding := do
  let parameters ← validateExecutionAction execution_action
  require (execution_action.get "action" = .str action.capability)
    (Exn.of .privateVaultBindingError
      "execution_action.action must match the governed capability")
  require (execution_action.get "subject_key_id" = .str action.agent_id)
    (Exn.of .privateVaultBindingError
      "execution_action.subject_key_id must match the agent_id")
  require (parameters.pyEq action.arguments = true)
    (Exn.of .privateVaultBindingError
      "execution_action.parameters must match the governed arguments")
  let context ← dispatchContextFromDispatch dispatch
  let execution_action_json ← snapshotObject execution_action "execution_action"
  let dispatch_context_json ← snapshotObject context "dispatch_context"
  return ⟨execution_action_json, dispatch_context_json⟩

end DecisionBinding

theorem validateExecutionAction_ok {execution_action parameters : Dict} :
    validateExecutionAction execution_action = .ok parameters ↔
      execution_action.keys = executionActionFields ∧
      (∀ name ∈ ["subject_principal", "subject_key_id", "action", "resource"],
        isNonEmptyText (execution_action.get name) = true) ∧
      asObject execution_action "parameters" = some parameters := by
  unfold validateExecutionAction
  rw [require_bind_ok, unit_bind_ok, requireEach_ok]
  cases asObject execution_action "parameters" with
  | none => simp [throw, throwThe, MonadExceptOf.throw]
  | some p => simp [pure_ok]

/-- When a plan can be bound, and to what. -/
theorem DecisionBinding.capture_ok {action : ActionIntent} {execution_action dispatch : Dict}
    {b : DecisionBinding} :
    DecisionBinding.capture action execution_action dispatch = .ok b ↔
      ∃ parameters context,
        validateExecutionAction execution_action = .ok parameters ∧
        execution_action.get "action" = .str action.capability ∧
        execution_action.get "subject_key_id" = .str action.agent_id ∧
        parameters.pyEq action.arguments = true ∧
        dispatchContextFromDispatch dispatch = .ok context ∧
        Json.finite execution_action.json = true ∧
        Json.finite context.json = true ∧
        b = ⟨Snapshot.ofDict execution_action, Snapshot.ofDict context⟩ := by
  unfold DecisionBinding.capture
  simp only [bind_ok, require_ok, snapshotObject_ok, pure_ok]
  constructor
  · rintro ⟨parameters, hp, _, hact, _, hkey, _, hargs, context, hctx, s, ⟨hf, rfl⟩, t, ⟨hg, rfl⟩,
      rfl⟩
    exact ⟨parameters, context, hp, hact, hkey, hargs, hctx, hf, hg, rfl⟩
  · rintro ⟨parameters, context, hp, hact, hkey, hargs, hctx, hf, hg, rfl⟩
    exact ⟨parameters, hp, (), hact, (), hkey, (), hargs, context, hctx, _, ⟨hf, rfl⟩, _,
      ⟨hg, rfl⟩, rfl⟩

/-- `action.privatevault_decide_payload()`: the audit fields of a decision
    request. -/
def privatevaultDecidePayload (action : ActionIntent) : Dict :=
  let context := action.context.set "cbrain"
    (Dict.of
      [("framework", .str action.framework),
       ("tool_name", .str action.tool_name),
       ("idempotency_key", .str action.idempotency_key)] (by simp)).json (Dict.wf_json _)
  Dict.of
    [("agent_id", .str action.agent_id),
     ("capability", .str action.capability),
     ("timestamp", action.timestamp.json),
     ("arguments", action.arguments.json),
     ("context", context.json),
     ("evidence", action.evidence.json),
     ("request_id", .str action.request_id)]
    (by cases h : action.timestamp <;> simp [Timestamp.json])

/-- `binding.decide_payload(action)`: the audit fields and both bindings. -/
def DecisionBinding.decidePayload (b : DecisionBinding) (action : ActionIntent) : Dict :=
  ((privatevaultDecidePayload action).set "execution_action" b.executionAction.json
      (Dict.wf_json _)).set "dispatch_context" b.dispatchContext.json (Dict.wf_json _)

end CBrain

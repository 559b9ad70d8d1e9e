import CBrain.Contracts
import CBrain.Framework.Sha256

/-! # Prepared dispatches and the planners that make them

    Models `cbrain/dispatch.py`, `cbrain/execution/planner.py` and
    `cbrain/simulators/planner.py` (with `encode_simulator_request` of
    `cbrain/simulators/http.py`).  A planner turns an action into the action
    document and the exact bytes that a permit will commit to.
-/

namespace CBrain

open Json (Dict)

/-! ## Section 1: Prepared dispatches -/

/-- `_REQUIRED_DISPATCH_FIELDS`, sorted. -/
def requiredDispatchFields : List String :=
  ["credential_audience", "destination", "idempotency_key_digest", "operation",
    "retry_policy_digest", "serialization", "tool_artifact_digest", "tool_id",
    "tool_schema_digest", "transport", "wire_content_encoding", "wire_content_type"]

/-- `_TEXT_FIELDS`. -/
def dispatchTextFields : List String :=
  ["transport", "destination", "operation", "wire_content_type", "wire_content_encoding",
    "tool_id", "credential_audience", "serialization"]

/-- `_DIGEST_FIELDS`. -/
def dispatchDigestFields : List String :=
  ["tool_schema_digest", "tool_artifact_digest", "idempotency_key_digest", "retry_policy_digest"]

/-- Two sorted lists of field names against each other: what is missing, and
    what is unexpected. -/
def fieldMismatch (kind : ExnKind) (what : String) (expected actual : List String) : Exn :=
  Exn.parts kind [.text s!"{what}; missing=",
    .repr (textList (expected.filter fun f => !actual.contains f)), .text ", unexpected=",
    .repr (textList (actual.filter fun f => !expected.contains f))]

/-- `PreparedDispatch._validate_dispatch`.  The source goes through the two
    field sets in no particular order; here they are lists. -/
def validateDispatch (dispatch : Dict) : Raises Unit := do
  require (dispatch.keys = requiredDispatchFields)
    (fieldMismatch .contractError "dispatch fields do not match PrivateVault contract"
      requiredDispatchFields dispatch.keys)
  requireEach (fun f => isText (dispatch.get f))
    (fun f => Exn.of .contractError s!"dispatch.{f} must be non-empty text") dispatchTextFields
  requireEach (fun f => isDigest (dispatch.get f))
    (fun f => Exn.of .contractError s!"dispatch.{f} must be a sha256 digest") dispatchDigestFields

/-- A valid dispatch has exactly the required fields, each of its type. -/
theorem validateDispatch_ok {dispatch : Dict} :
    validateDispatch dispatch = .ok () ↔
      dispatch.keys = requiredDispatchFields ∧
      (∀ f ∈ dispatchTextFields, isText (dispatch.get f) = true) ∧
      (∀ f ∈ dispatchDigestFields, isDigest (dispatch.get f) = true) := by
  unfold validateDispatch
  rw [require_bind_ok, unit_bind_ok, requireEach_ok, requireEach_ok]

/-- `PreparedDispatch`: an immutable exact-byte dispatch. -/
structure PreparedDispatch where
  request_id : String
  dispatch_json : Snapshot
  wire_bytes : ByteArray
  peer_identity_bytes : ByteArray
  request_id_text : nonBlank request_id = true
  dispatch_valid : validateDispatch dispatch_json.restore = .ok ()
  wire_bytes_nonempty : wire_bytes.size ≠ 0
  peer_identity_bytes_nonempty : peer_identity_bytes.size ≠ 0

namespace PreparedDispatch

theorem fields_injective : Function.Injective fun p : PreparedDispatch =>
    (p.request_id, p.dispatch_json, p.wire_bytes, p.peer_identity_bytes) := by
  rintro ⟨_, _, _, _, _, _, _, _⟩ ⟨_, _, _, _, _, _, _, _⟩ h
  cases h
  rfl

instance : DecidableEq PreparedDispatch := fields_injective.decidableEq

/-- `prepared.dispatch`. -/
def dispatch (p : PreparedDispatch) : Dict := p.dispatch_json.restore

/-- `PreparedDispatch.capture`. -/
def capture (request_id : String) (dispatch : Dict) (wire_bytes peer_identity_bytes : ByteArray) :
    Raises PreparedDispatch := do
  let dispatch_json ← snapshotObject dispatch "dispatch"
  let ⟨h₁⟩ ← ensure (nonBlank request_id = true)
    (Exn.of .contractError "request_id must be a non-empty string")
  match h₂ : validateDispatch dispatch_json.restore with
  | .error e => throw e
  | .ok () =>
    let ⟨h₃⟩ ← ensure (wire_bytes.size ≠ 0)
      (Exn.of .contractError "wire_bytes must be non-empty immutable bytes")
    let ⟨h₄⟩ ← ensure (peer_identity_bytes.size ≠ 0)
      (Exn.of .contractError "peer_identity_bytes must be non-empty immutable bytes")
    return {
      request_id, dispatch_json, wire_bytes, peer_identity_bytes
      request_id_text := h₁
      dispatch_valid := h₂
      wire_bytes_nonempty := h₃
      peer_identity_bytes_nonempty := h₄ }

/-- What a captured dispatch holds. -/
theorem capture_ok {request_id : String} {dispatch : Dict} {wire peer : ByteArray}
    {p : PreparedDispatch} (h : capture request_id dispatch wire peer = .ok p) :
    p.request_id = request_id ∧ p.dispatch_json = Snapshot.ofDict dispatch ∧
      p.wire_bytes = wire ∧ p.peer_identity_bytes = peer := by
  unfold capture at h
  obtain ⟨s, hs, h⟩ := bind_ok.mp h
  obtain ⟨-, rfl⟩ := snapshotObject_ok.mp hs
  obtain ⟨h₁, h⟩ := ensure_bind_ok.mp h
  simp only at h
  split at h
  · cases h
  · obtain ⟨h₃, h⟩ := ensure_bind_ok.mp h
    obtain ⟨h₄, h⟩ := ensure_bind_ok.mp h
    obtain rfl := pure_ok.mp h
    exact ⟨rfl, rfl, rfl, rfl⟩

theorem dispatch_of_capture {request_id : String} {dispatch : Dict} {wire peer : ByteArray}
    {p : PreparedDispatch} (h : capture request_id dispatch wire peer = .ok p) :
    p.dispatch = dispatch := by
  rw [PreparedDispatch.dispatch, (capture_ok h).2.1, Snapshot.restore_ofDict]

/-- A prepared dispatch is what capturing its own fields gives. -/
theorem capture_self (p : PreparedDispatch) {d : Dict}
    (hd : p.dispatch_json = Snapshot.ofDict d) (hf : Json.finite d.json = true) :
    capture p.request_id d p.wire_bytes p.peer_identity_bytes = .ok p := by
  have hsnap : snapshotObject d "dispatch" = .ok p.dispatch_json :=
    snapshotObject_ok.mpr ⟨hf, hd⟩
  unfold capture
  rw [hsnap]
  show (ensure _ _ >>= _) = _
  rw [ensure_bind_pos p.request_id_text]
  show (match h₂ : validateDispatch p.dispatch_json.restore with
    | .error e => _
    | .ok () => _) = _
  split
  · next e he => rw [p.dispatch_valid] at he; cases he
  · show (ensure _ _ >>= _) = _
    rw [ensure_bind_pos p.wire_bytes_nonempty]
    show (ensure _ _ >>= _) = _
    rw [ensure_bind_pos p.peer_identity_bytes_nonempty]
    rfl

/-- The text fields hold text. -/
theorem text_field (p : PreparedDispatch) {f : String} (hf : f ∈ dispatchTextFields) :
    isText (p.dispatch.get f) = true :=
  (validateDispatch_ok.mp p.dispatch_valid).2.1 f hf

theorem keys_eq (p : PreparedDispatch) : p.dispatch.keys = requiredDispatchFields :=
  (validateDispatch_ok.mp p.dispatch_valid).1

end PreparedDispatch

/-- `PlannedDispatch`: everything the permit must commit to. -/
structure PlannedDispatch where
  action : Dict
  prepared : PreparedDispatch
  deriving DecidableEq

/-- `_digest`: a prefixed SHA-256 digest. -/
def sha256Digest (payload : ByteArray) : String := "sha256:" ++ Sha256.hexdigest payload

/-- The named wire serializer of the parameters alone. -/
def WIRE_SERIALIZATION_JSON_PARAMETERS_V01 : String := "pv-json-parameters/0.1"

/-! ## Section 2: The HTTP planner -/

/-- `ToolRoute`: static description of one callable tool. -/
structure ToolRoute where
  tool_id : String
  capability : String
  destination : String
  operation : String
  credential_audience : String
  peer_identity : String
  allowed_parameters : List String
  required_parameters : List String := []
  transport : String := "https"
  wire_content_type : String := "application/json"
  wire_content_encoding : String := "identity"
  tool_schema_digest : String := ""
  tool_artifact_digest : String := ""
  retry_policy_digest : String := ""
  named : ∀ s ∈ [tool_id, capability, destination, operation, credential_audience, peer_identity],
    s ≠ ""
  required_allowed : ∀ s ∈ required_parameters, s ∈ allowed_parameters

/-- `HttpDispatchPlanner`: plans from a static route table. -/
structure HttpDispatchPlanner where
  routes : String → Option ToolRoute
  subject_principal : String
  subject_key_id : String

/-- `given or default`, for texts. -/
def orDefault (given default : String) : String := if given = "" then default else given

namespace HttpDispatchPlanner

/-- `_filter_arguments`: only allow-listed arguments, all required ones. -/
def filterArguments (action : ActionIntent) (route : ToolRoute) : Raises Dict := do
  let filtered := action.arguments.filter fun key => route.allowed_parameters.contains key
  let missing := route.required_parameters.filter fun f => !filtered.keys.contains f
  require (missing = [])
    (Exn.parts .dispatchPlanningError
      [.text "missing required parameters: ", .repr (textList (sortedSet missing))])
  match filtered.members.find? fun m => !Json.finite m.2 with
  | some (key, _) =>
    throw (Exn.parts .dispatchPlanningError
      [.text "parameter ", .repr (.str key), .text " is not deterministically encodable"])
  | none => return filtered

/-- The dispatch document of a route. -/
def dispatchDocument (action : ActionIntent) (route : ToolRoute) : Dict :=
  Dict.of
    [("transport", .str route.transport),
     ("destination", .str route.destination),
     ("operation", .str route.operation),
     ("wire_content_type", .str route.wire_content_type),
     ("wire_content_encoding", .str route.wire_content_encoding),
     ("tool_id", .str route.tool_id),
     ("tool_schema_digest",
       .str (orDefault route.tool_schema_digest (sha256Digest route.tool_id.toUTF8))),
     ("tool_artifact_digest",
       .str (orDefault route.tool_artifact_digest (sha256Digest route.operation.toUTF8))),
     ("credential_audience", .str route.credential_audience),
     ("idempotency_key_digest", .str (sha256Digest action.idempotency_key.toUTF8)),
     ("retry_policy_digest",
       .str (orDefault route.retry_policy_digest (sha256Digest "no-retry".toUTF8))),
     ("serialization", .str WIRE_SERIALIZATION_JSON_PARAMETERS_V01)]
    (by simp)

/-- The action document the permit commits to. -/
def actionDocument (planner : HttpDispatchPlanner) (action : ActionIntent) (route : ToolRoute)
    (arguments : Dict) : Dict :=
  Dict.of
    [("subject_principal", .str planner.subject_principal),
     ("subject_key_id", .str planner.subject_key_id),
     ("action", .str action.capability),
     ("resource", .str route.destination),
     ("parameters", arguments.json)]
    (by simp)

/-- `HttpDispatchPlanner.plan`. -/
def plan (planner : HttpDispatchPlanner) (action : ActionIntent) : Raises PlannedDispatch :=
  match planner.routes action.tool_name with
  | none =>
    throw (Exn.parts .dispatchPlanningError
      [.text "no route configured for tool ", .repr (.str action.tool_name)])
  | some route => do
    require (route.capability = action.capability)
      (Exn.of .dispatchPlanningError "route capability does not match the governed capability")
    let arguments ← filterArguments action route
    let prepared ← PreparedDispatch.capture action.request_id (dispatchDocument action route)
      (Json.canonical arguments.json) route.peer_identity.toUTF8
    return ⟨actionDocument planner action route arguments, prepared⟩

theorem filterArguments_ok {action : ActionIntent} {route : ToolRoute} {arguments : Dict}
    (h : filterArguments action route = .ok arguments) :
    arguments = action.arguments.filter (fun key => route.allowed_parameters.contains key) ∧
      Json.finite arguments.json = true := by
  unfold filterArguments at h
  obtain ⟨-, h⟩ := require_bind_ok.mp h
  split at h
  · cases h
  · next hnone =>
    obtain rfl := pure_ok.mp h
    refine ⟨rfl, ?_⟩
    rw [Dict.json, Json.finite, Json.finiteMembers_iff]
    intro m hm
    have := List.find?_eq_none.mp hnone m hm
    simpa using this

/-- What a plan of the HTTP planner consists of. -/
theorem plan_ok {planner : HttpDispatchPlanner} {action : ActionIntent}
    {planned : PlannedDispatch} :
    planner.plan action = .ok planned ↔
      ∃ route arguments, planner.routes action.tool_name = some route ∧
        route.capability = action.capability ∧
        filterArguments action route = .ok arguments ∧
        planned.action = actionDocument planner action route arguments ∧
        PreparedDispatch.capture action.request_id (dispatchDocument action route)
          (Json.canonical arguments.json) route.peer_identity.toUTF8 = .ok planned.prepared := by
  unfold plan
  constructor
  · intro h
    split at h
    · cases h
    · next route hroute =>
      obtain ⟨hcap, h⟩ := require_bind_ok.mp h
      obtain ⟨arguments, harguments, h⟩ := bind_ok.mp h
      obtain ⟨prepared, hprepared, h⟩ := bind_ok.mp h
      obtain rfl := pure_ok.mp h
      exact ⟨route, arguments, hroute, hcap, harguments, rfl, hprepared⟩
  · rintro ⟨route, arguments, hroute, hcap, harguments, hact, hprepared⟩
    rw [hroute]
    rcases planned with ⟨doc, prepared⟩
    simp only at hact hprepared
    subst hact
    exact require_bind_ok.mpr ⟨hcap, bind_ok.mpr ⟨arguments, harguments,
      bind_ok.mpr ⟨prepared, hprepared, rfl⟩⟩⟩

/-- A digest for checked runs. -/
def zeroDigest : String :=
  "sha256:0000000000000000000000000000000000000000000000000000000000000000"

theorem zeroDigest_sha256 : isSha256Digest zeroDigest = true := by decide

/-- A route for `contactRead`. -/
def contactRoute : ToolRoute where
  tool_id := "crm.contact.read"
  capability := "crm.contact.read"
  destination := "crm"
  operation := "POST /v1/crm/contacts/read"
  credential_audience := "crm"
  peer_identity := "tls-spki-sha256:aa"
  allowed_parameters := ["contact_id"]
  tool_schema_digest := zeroDigest
  tool_artifact_digest := zeroDigest
  retry_policy_digest := zeroDigest
  named := by simp
  required_allowed := by simp

/-- A planner for `contactRead`, acting for the given principal. -/
def contactPlanner (subject_principal : String) : HttpDispatchPlanner where
  routes tool_name := if tool_name = "crm.contact.read" then some contactRoute else none
  subject_principal := subject_principal
  subject_key_id := "crm-agent"

/-- The arguments of `contactRead`. -/
def contactArguments : Dict := 
  Dict.of [("contact_id", .str "contact-1")] ActionIntent.contact_members

theorem contactRead_arguments : ActionIntent.contactRead.arguments = contactArguments :=
  Snapshot.restore_ofDict _

/-- The plan of `contactRead`. -/
def contactPlan (subject_principal : String) : PlannedDispatch where
  action := actionDocument (contactPlanner subject_principal) ActionIntent.contactRead contactRoute
    contactArguments
  prepared := {
    request_id := "request-1"
    dispatch_json := Snapshot.ofDict (dispatchDocument ActionIntent.contactRead contactRoute)
    wire_bytes := Json.canonical contactArguments.json
    peer_identity_bytes := contactRoute.peer_identity.toUTF8
    request_id_text := ActionIntent.contactRead.request_id_text
    dispatch_valid := by
      rw [Snapshot.restore_ofDict]
      decide +kernel
    wire_bytes_nonempty := by decide +kernel
    peer_identity_bytes_nonempty := by decide +kernel }

theorem contactPlanner_plan (subject_principal : String) :
    (contactPlanner subject_principal).plan ActionIntent.contactRead =
      .ok (contactPlan subject_principal) := by
  have hfilter : filterArguments ActionIntent.contactRead contactRoute = .ok contactArguments := by
    unfold filterArguments
    rw [contactRead_arguments]
    rfl
  have hcapture := (contactPlan subject_principal).prepared.capture_self
    (d := dispatchDocument ActionIntent.contactRead contactRoute) rfl (by decide +kernel)
  exact plan_ok.mpr ⟨contactRoute, contactArguments,
    by simp [contactPlanner, ActionIntent.contactRead], rfl, hfilter, rfl, hcapture⟩

end HttpDispatchPlanner

/-! ## Section 3: The simulator planner -/

/-- `CapabilityDescription`: one entry of a capability catalog. -/
structure CapabilityDescription where
  capability : String
  domain : String
  operation : String
  destination : String
  credential_audience : String

/-- `SimulatorTargetBinding`: deployment evidence for one target. -/
structure SimulatorTargetBinding where
  peer_identity_bytes : ByteArray
  tool_artifact_digest : String
  retry_policy_digest : String
  peer_identity_bytes_nonempty : peer_identity_bytes.size ≠ 0
  tool_artifact_digest_sha256 : isSha256Digest tool_artifact_digest = true
  retry_policy_digest_sha256 : isSha256Digest retry_policy_digest = true

/-- `SimulatorDispatchPlanner`, with the coverage its constructor checks. -/
structure SimulatorDispatchPlanner where
  capabilities : List (String × CapabilityDescription)
  targets : List (String × SimulatorTargetBinding)
  tool_schema_digests : List (String × String)
  targets_cover : ∀ c ∈ capabilities, c.2.destination ∈ targets.map Prod.fst
  schemas_cover : ∀ c, c ∈ capabilities.map Prod.fst ↔ c ∈ tool_schema_digests.map Prod.fst
  schemas_sha256 : ∀ s ∈ tool_schema_digests, isSha256Digest s.2 = true

/-- `SIMULATOR_REQUEST_SCHEMA`. -/
def SIMULATOR_REQUEST_SCHEMA : String := "cbrain-simulator-request/v1"

/-- The body simulator targets accept. -/
def simulatorRequest (request_id idempotency_key : String) (arguments : Dict) : Dict :=
  Dict.of
    [("schema", .str SIMULATOR_REQUEST_SCHEMA),
     ("request_id", .str request_id),
     ("idempotency_key", .str idempotency_key),
     ("arguments", arguments.json)]
    (by simp)

/-- `encode_simulator_request`. -/
def encodeSimulatorRequest (request_id idempotency_key : String) (arguments : Dict) :
    Raises ByteArray := do
  require (nonBlank request_id = true)
    (Exn.of .simulatorContractError "request_id must be non-empty text")
  require (nonBlank idempotency_key = true)
    (Exn.of .simulatorContractError "idempotency_key must be non-empty text")
  let request := simulatorRequest request_id idempotency_key arguments
  validateFinite (fun path => Exn.of .simulatorContractError s!"{path} contains a non-finite number")
    "simulator request" request.json
  return Json.canonical request.json

namespace SimulatorDispatchPlanner

/-- The dispatch document of a catalog entry and its target. -/
def dispatchDocument (action : ActionIntent) (spec : CapabilityDescription)
    (target : SimulatorTargetBinding) (schema_digest : String) : Dict :=
  Dict.of
    [("transport", .str "https"),
     ("destination", .str spec.destination),
     ("operation", .str spec.operation),
     ("wire_content_type", .str "application/json"),
     ("wire_content_encoding", .str "identity"),
     ("tool_id", .str s!"{spec.capability}.v1"),
     ("tool_schema_digest", .str schema_digest),
     ("tool_artifact_digest", .str target.tool_artifact_digest),
     ("credential_audience", .str spec.credential_audience),
     ("idempotency_key_digest", .str (sha256Digest action.idempotency_key.toUTF8)),
     ("retry_policy_digest", .str target.retry_policy_digest),
     ("serialization", .str WIRE_SERIALIZATION_JSON_PARAMETERS_V01)]
    (by simp)

/-- The action document: unlike the HTTP planner's, without a
    `subject_key_id`. -/
def actionDocument (action : ActionIntent) (spec : CapabilityDescription) : Dict :=
  Dict.of
    [("subject_principal", .str action.agent_id),
     ("action", .str action.capability),
     ("resource", .str s!"{spec.domain}:{spec.destination}"),
     ("parameters", action.arguments.json)]
    (by simp)

/-- `SimulatorDispatchPlanner.plan`. -/
def plan (planner : SimulatorDispatchPlanner) (action : ActionIntent) : Raises PlannedDispatch :=
  match planner.capabilities.lookup action.capability with
  | none => throw (Exn.of .simulatorPlanningError "capability is not in the domain catalog")
  | some spec => do
    require (action.tool_name = action.capability)
      (Exn.of .simulatorPlanningError "tool_name does not match capability")
    match planner.targets.lookup spec.destination with
    | none => throw (Exn.parts .keyError [.repr (.str spec.destination)])
    | some target =>
      let wire_bytes ← encodeSimulatorRequest action.request_id action.idempotency_key
        action.arguments
      match planner.tool_schema_digests.lookup spec.capability with
      | none => throw (Exn.parts .keyError [.repr (.str spec.capability)])
      | some schema_digest =>
        let prepared ← PreparedDispatch.capture action.request_id
          (dispatchDocument action spec target schema_digest) wire_bytes target.peer_identity_bytes
        return ⟨actionDocument action spec, prepared⟩

theorem encodeSimulatorRequest_ok {request_id idempotency_key : String} {arguments : Dict}
    {wire : ByteArray} :
    encodeSimulatorRequest request_id idempotency_key arguments = .ok wire ↔
      nonBlank request_id = true ∧ nonBlank idempotency_key = true ∧
      Json.finite (simulatorRequest request_id idempotency_key arguments).json = true ∧
      Json.canonical (simulatorRequest request_id idempotency_key arguments).json = wire := by
  unfold encodeSimulatorRequest
  rw [require_bind_ok, require_bind_ok, unit_bind_ok, validateFinite_ok, pure_ok]

/-- What a plan of the simulator planner consists of. -/
theorem plan_ok {planner : SimulatorDispatchPlanner} {action : ActionIntent}
    {planned : PlannedDispatch} :
    planner.plan action = .ok planned ↔
      ∃ spec target wire schema_digest,
        planner.capabilities.lookup action.capability = some spec ∧
        action.tool_name = action.capability ∧
        planner.targets.lookup spec.destination = some target ∧
        encodeSimulatorRequest action.request_id action.idempotency_key action.arguments =
          .ok wire ∧
        planner.tool_schema_digests.lookup spec.capability = some schema_digest ∧
        planned.action = actionDocument action spec ∧
        PreparedDispatch.capture action.request_id
          (dispatchDocument action spec target schema_digest) wire target.peer_identity_bytes =
            .ok planned.prepared := by
  unfold plan
  constructor
  · intro h
    split at h
    · cases h
    · next spec hspec =>
      obtain ⟨hname, h⟩ := require_bind_ok.mp h
      split at h
      · cases h
      · next target htarget =>
        obtain ⟨wire, hwire, h⟩ := bind_ok.mp h
        split at h
        · cases h
        · next schema_digest hschema =>
          obtain ⟨prepared, hprepared, h⟩ := bind_ok.mp h
          obtain rfl := pure_ok.mp h
          exact ⟨spec, target, wire, schema_digest, hspec, hname, htarget, hwire, hschema, rfl,
            hprepared⟩
  · rintro ⟨spec, target, wire, schema_digest, hspec, hname, htarget, hwire, hschema, hact,
      hprepared⟩
    rcases planned with ⟨doc, prepared⟩
    simp only at hact hprepared
    subst hact
    rw [hspec]
    refine require_bind_ok.mpr ⟨hname, ?_⟩
    rw [htarget]
    refine bind_ok.mpr ⟨wire, hwire, ?_⟩
    rw [hschema]
    exact bind_ok.mpr ⟨prepared, hprepared, rfl⟩

end SimulatorDispatchPlanner

end CBrain

import CBrain.Gateway
import CBrain.PlannerAgreement

/-! # From the arguments of an action to the bytes on the wire

    The arguments cross the planned body, the sealed execution action, the
    permit, the request to the sidecar and its JSON text.  At each hop this
    file has one lemma that says what is kept; together: what the sidecar
    sends is the canonical JSON of the arguments.
-/

namespace CBrain

open Effect
open Json (Dict)

/-! ## Section 1: The request document -/

/-- A `sha256:` digest is a text that is not blank. -/
theorem nonBlank_of_isSha256Digest {s : String} (h : isSha256Digest s = true) :
    nonBlank s = true := by
  have hextends : s.toList.take 7 = "sha256:".toList := by
    simp only [isSha256Digest, Bool.and_eq_true, beq_iff_eq] at h
    exact h.1.1
  have hs : 's' ∈ s.toList := by
    apply List.mem_of_mem_take (i := 7)
    rw [hextends]
    decide
  apply List.any_eq_true.mpr
  exact ⟨'s', hs, by decide⟩

theorem sidecarText_of_get {d : Dict} {key s : String} (hget : d.get key = .str s)
    (hs : nonBlank s = true) : sidecarText d key = .ok s :=
  sidecarText_ok.mpr ⟨hget, hs⟩

/-- Decoding the `prepared` part captures the dispatch again. -/
theorem decodePrepared_encodePrepared (p : PreparedDispatch) :
    decodePrepared (encodePrepared p) =
      PreparedDispatch.capture p.request_id p.dispatch p.wire_bytes p.peer_identity_bytes := by
  have hid : sidecarText (encodePrepared p) "request_id" = .ok p.request_id :=
    sidecarText_of_get (by simp [encodePrepared, Json.Dict.get, Json.get?_cons]) p.request_id_text
  have hdispatch : requiredMapping (asObject (encodePrepared p) "dispatch") "dispatch" =
      .ok p.dispatch :=
    requiredMapping_ok.mpr (asObject_eq (by simp [encodePrepared, Json.get?_cons]))
  have hwire : (encodePrepared p).get "wire_bytes" = .str (Base64.encode p.wire_bytes) := by
    simp [encodePrepared, Json.Dict.get, Json.get?_cons]
  have hpeer : (encodePrepared p).get "peer_identity_bytes" =
      .str (Base64.encode p.peer_identity_bytes) := by
    simp [encodePrepared, Json.Dict.get, Json.get?_cons]
  unfold decodePrepared
  rw [hid, hdispatch, hwire, hpeer, unb64_encode _ p.wire_bytes_nonempty,
    unb64_encode _ p.peer_identity_bytes_nonempty]
  rfl

/-- Decoding the `binding` part captures the binding again. -/
theorem decodeBinding_encodeBinding (b : ExecutionAuthorizationBinding) (action : Dict)
    (prepared : PreparedDispatch) :
    decodeBinding action prepared (encodeBinding b) =
      ExecutionAuthorizationBinding.capture prepared.request_id action prepared
        (.str b.decision_receipt_digest) (.str b.authority_receipt_digest)
        (optText b.approval_artifact_digest) (.str b.state_snapshot_digest)
        (.str b.policy_bundle_digest) (.str b.obligations_digest) (.str b.at_time) := by
  have hdigest : ∀ d ∈ [b.decision_receipt_digest, b.authority_receipt_digest,
      b.state_snapshot_digest, b.policy_bundle_digest, b.obligations_digest],
      nonBlank d = true := fun d hd => nonBlank_of_isSha256Digest (b.digests_sha256 d hd)
  have htext : ∀ key s, (encodeBinding b).get key = .str s → nonBlank s = true →
      sidecarText (encodeBinding b) key = .ok s := fun key s => sidecarText_of_get
  have hdecision := htext "decision_receipt_digest" b.decision_receipt_digest
    (by simp [encodeBinding, Json.Dict.get, Json.get?_cons]) (hdigest _ (by simp))
  have hauthority := htext "authority_receipt_digest" b.authority_receipt_digest
    (by simp [encodeBinding, Json.Dict.get, Json.get?_cons]) (hdigest _ (by simp))
  have hstate := htext "state_snapshot_digest" b.state_snapshot_digest
    (by simp [encodeBinding, Json.Dict.get, Json.get?_cons]) (hdigest _ (by simp))
  have hpolicy := htext "policy_bundle_digest" b.policy_bundle_digest
    (by simp [encodeBinding, Json.Dict.get, Json.get?_cons]) (hdigest _ (by simp))
  have hobligations := htext "obligations_digest" b.obligations_digest
    (by simp [encodeBinding, Json.Dict.get, Json.get?_cons]) (hdigest _ (by simp))
  have htime := htext "at_time" b.at_time
    (by simp [encodeBinding, Json.Dict.get, Json.get?_cons]) b.at_time_text
  have happroval : (encodeBinding b).get "approval_artifact_digest" =
      optText b.approval_artifact_digest := by
    simp [encodeBinding, Json.Dict.get, Json.get?_cons]
  unfold decodeBinding
  rw [happroval, hdecision, hauthority, hstate, hpolicy, hobligations, htime]
  rw [require_bind_pos]
  · rfl
  · cases b.approval_artifact_digest with
    | none => exact Or.inl rfl
    | some d => exact Or.inr rfl

theorem requireOptionalDigest_optText {o : Option String}
    (h : ∀ d, o = some d → isSha256Digest d = true) (path : String) :
    requireOptionalDigest (optText o) path = .ok ⟨o, h⟩ := by
  cases o with
  | none => rfl
  | some d =>
    have hd : requireDigest (.str d) path = .ok ⟨d, h d rfl⟩ := requireDigest_ok.mpr rfl
    show (requireDigest (.str d) path >>= _) = _
    rw [hd]
    rfl

/-- Capturing the fields of a captured binding gives the binding. -/
theorem ExecutionAuthorizationBinding.capture_self (b : ExecutionAuthorizationBinding)
    {action : Dict} (haction : b.action_json = Snapshot.ofDict action)
    (hfinite : Json.finite action.json = true) :
    capture b.request_id action b.prepared_dispatch (.str b.decision_receipt_digest)
      (.str b.authority_receipt_digest) (optText b.approval_artifact_digest)
      (.str b.state_snapshot_digest) (.str b.policy_bundle_digest) (.str b.obligations_digest)
      (.str b.at_time) = .ok b := by
  have hdigests := b.digests_sha256
  simp only [List.forall_mem_cons, List.not_mem_nil, false_implies, implies_true, and_true]
    at hdigests
  obtain ⟨h₁, h₂, h₃, h₄, h₅⟩ := hdigests
  have hsnapshot : snapshotObject action "execution_action" = .ok b.action_json :=
    snapshotObject_ok.mpr ⟨hfinite, haction⟩
  have hdigest : ∀ {s : String} (h : isSha256Digest s = true) (path : String),
      requireDigest (.str s) path = .ok ⟨s, h⟩ := fun h path => requireDigest_ok.mpr rfl
  have happroval := requireOptionalDigest_optText b.approval_artifact_sha256
    "approval_artifact_digest"
  unfold capture
  rw [hsnapshot, hdigest h₁, hdigest h₂, hdigest h₃, hdigest h₄, hdigest h₅, happroval]
  show (ensure _ _ >>= _) = _
  rw [ensure_bind_pos b.request_id_matches]
  show (ensure _ _ >>= _) = _
  rw [ensure_bind_pos b.at_time_text]
  rfl

/-- **Round trip of the request**: what the sidecar decodes is what the agent
    encoded. -/
theorem decodeRequest_encodeRequest {authorization trust_bundle dispatch action : Dict}
    {b : ExecutionAuthorizationBinding} {witness_id : String} {attempt : Int}
    (hdispatch : b.prepared_dispatch.dispatch_json = Snapshot.ofDict dispatch)
    (hdispatchFinite : Json.finite dispatch.json = true)
    (haction : b.action_json = Snapshot.ofDict action)
    (hactionFinite : Json.finite action.json = true) (hwitness : nonBlank witness_id = true)
    (hattempt : 1 ≤ attempt) :
    decodeRequest (encodeRequest authorization trust_bundle b witness_id attempt) =
      .ok ⟨authorization, trust_bundle, b, witness_id, attempt⟩ := by
  have hobject : ∀ (key path : String) (d : Dict),
      (encodeRequest authorization trust_bundle b witness_id attempt).get? key = some d.json →
      requiredMapping (asObject (encodeRequest authorization trust_bundle b witness_id attempt)
        key) path = .ok d := fun _ _ _ h => requiredMapping_ok.mpr (asObject_eq h)
  have hprepared : decodePrepared (encodePrepared b.prepared_dispatch) =
      .ok b.prepared_dispatch := by
    rw [decodePrepared_encodePrepared, PreparedDispatch.dispatch, hdispatch,
      Snapshot.restore_ofDict]
    exact b.prepared_dispatch.capture_self hdispatch hdispatchFinite
  have hbinding : decodeBinding b.action b.prepared_dispatch (encodeBinding b) = .ok b := by
    rw [decodeBinding_encodeBinding, ← b.request_id_matches, ExecutionAuthorizationBinding.action,
      haction, Snapshot.restore_ofDict]
    exact b.capture_self haction hactionFinite
  have hattemptGet : (encodeWitness witness_id attempt).get "attempt" = .int attempt := by
    simp [encodeWitness, Json.Dict.get, Json.get?_cons]
  have hwitnessGet : (encodeWitness witness_id attempt).get "witness_id" = .str witness_id := by
    simp [encodeWitness, Json.Dict.get, Json.get?_cons]
  have hschema : (encodeRequest authorization trust_bundle b witness_id attempt).get "schema" =
      .str SIDECAR_REQUEST_SCHEMA := by
    simp [encodeRequest, Json.Dict.get, Json.get?_cons]
  have hdecodeAttempt : decodeAttempt (.int attempt) = .ok attempt := by
    rw [decodeAttempt, if_neg (by omega)]
  unfold decodeRequest
  rw [require_bind_pos hschema,
    hobject "authorization" _ authorization (by simp [encodeRequest, Json.get?_cons]),
    hobject "trust_bundle" _ trust_bundle (by simp [encodeRequest, Json.get?_cons]),
    hobject "action" _ b.action (by simp [encodeRequest, Json.get?_cons]),
    hobject "prepared" _ (encodePrepared b.prepared_dispatch) (by simp [encodeRequest, Json.get?_cons]),
    hobject "binding" _ (encodeBinding b) (by simp [encodeRequest, Json.get?_cons]),
    hobject "witness" _ (encodeWitness witness_id attempt) (by simp [encodeRequest, Json.get?_cons])]
  show (decodePrepared (encodePrepared b.prepared_dispatch) >>= _) = _
  rw [hprepared]
  show (decodeBinding b.action b.prepared_dispatch (encodeBinding b) >>= _) = _
  rw [hbinding]
  show (decodeAttempt ((encodeWitness witness_id attempt).get "attempt") >>= _) = _
  rw [hattemptGet, hdecodeAttempt]
  show (sidecarText (encodeWitness witness_id attempt) "witness_id" >>= _) = _
  rw [sidecarText_of_get hwitnessGet hwitness]
  rfl

/-! ## Section 2: The hops -/

/-- A bound plan of the HTTP planner holds all arguments of the action, as
    they are. -/
theorem arguments_of_bound_plan {planner : HttpDispatchPlanner} {action : ActionIntent}
    {planned : PlannedDispatch} {b : DecisionBinding} (hplan : planner.plan action = .ok planned)
    (hcapture : DecisionBinding.capture action planned.action planned.prepared.dispatch = .ok b) :
    planned.action.get? "parameters" = some action.arguments.json ∧
      planned.prepared.wire_bytes = Json.canonical action.arguments.json ∧
      b.executionAction = planned.action := by
  obtain ⟨route, arguments, _, _, harguments, hdoc, hprepared⟩ :=
    HttpDispatchPlanner.plan_ok.mp hplan
  obtain ⟨parameters, context, hvalid, _, _, heq, _, _, _, hb⟩ :=
    DecisionBinding.capture_ok.mp hcapture
  have hget : planned.action.get? "parameters" = some arguments.json := by
    rw [hdoc]
    simp [HttpDispatchPlanner.actionDocument, Json.get?_cons]
  have hparameters : parameters = arguments := by
    have h := get?_of_asObject (validateExecutionAction_ok.mp hvalid).2.2
    rw [hget] at h
    exact (Json.Dict.json_inj.mp (Option.some.inj h)).symm
  -- The planner drops arguments, but then the binding would not have taken
  -- the plan.
  have hall : arguments = action.arguments := by
    have hfilter := (HttpDispatchPlanner.filterArguments_ok harguments).1
    rw [hparameters, hfilter] at heq
    rw [hfilter]
    exact Json.Dict.filter_eq_of_pyEq heq
  refine ⟨?_, ?_, ?_⟩
  · rw [hget, hall]
  · rw [(PreparedDispatch.capture_ok hprepared).2.2.1, hall]
  · rw [hb]
    exact Snapshot.restore_ofDict _

/-- The permit is for the plan's action, up to equality of numbers. -/
theorem action_of_issued {client : PrivateVaultAuthorizationClient} {action : ActionIntent}
    {decision : PrivateVaultDecision} {planned : PlannedDispatch} {issued : IssuedAuthorization}
    (h : client.issue action decision planned = .ok issued) :
    Json.pyEq (issued.authorization.get "action") planned.action.json = true := by
  obtain ⟨sent, granted, hsent, _, hverify, rfl⟩ :=
    PrivateVaultAuthorizationClient.issue_ok.mp h
  obtain ⟨reference, events, _, _, _, rfl⟩ :=
    PrivateVaultAuthorizationClient.request_ok.mp hsent
  exact (verifyBinding_ok.mp hverify).2.2.2.2

/-- The binding of a permit holds the plan. -/
theorem bindIssued_ok {action : ActionIntent} {planned : PlannedDispatch}
    {issued : IssuedAuthorization} {b : ExecutionAuthorizationBinding}
    (h : bindIssued action planned issued = .ok b) :
    b.prepared_dispatch = planned.prepared ∧ b.action_json = Snapshot.ofDict planned.action ∧
      Json.finite planned.action.json = true := by
  unfold bindIssued at h
  obtain ⟨_, _, h⟩ := bind_ok.mp h
  obtain ⟨_, _, h⟩ := bind_ok.mp h
  obtain ⟨_, _, h⟩ := bind_ok.mp h
  obtain ⟨_, _, h⟩ := bind_ok.mp h
  obtain ⟨_, _, h⟩ := bind_ok.mp h
  obtain ⟨_, _, h⟩ := bind_ok.mp h
  obtain ⟨_, hprepared, haction, hfinite⟩ := ExecutionAuthorizationBinding.capture_ok h
  exact ⟨hprepared, haction, hfinite⟩

/-- A JSON channel: the payload goes as canonical JSON and is decoded. -/
def JsonChannel (sent delivered : Dict) : Prop :=
  ∃ bytes, canonicalJson sent = .ok bytes ∧ Json.loadsBytes bytes = some delivered.json

/-- A JSON channel delivers what was sent. -/
theorem JsonChannel.eq {sent delivered : Dict} (h : JsonChannel sent delivered) :
    delivered = sent := by
  obtain ⟨bytes, hbytes, hloads⟩ := h
  unfold canonicalJson at hbytes
  split at hbytes
  · obtain rfl := Except.ok.inj hbytes
    rw [Json.loadsBytes_canonical] at hloads
    exact (Json.Dict.json_inj.mp (Option.some.inj hloads)).symm
  · cases hbytes

/-- The dispatch of a decoded request is the one that was encoded. -/
theorem prepared_of_decodeRequest {authorization trust_bundle : Dict}
    {b : ExecutionAuthorizationBinding} {witness_id : String} {attempt : Int}
    {envelope : SidecarEnvelope}
    (h : decodeRequest (encodeRequest authorization trust_bundle b witness_id attempt) =
      .ok envelope) :
    envelope.binding.prepared_dispatch.wire_bytes = b.prepared_dispatch.wire_bytes ∧
      envelope.binding.action = b.action ∧ envelope.authorization = authorization := by
  have hobject : ∀ {key path : String} {d e : Dict},
      (encodeRequest authorization trust_bundle b witness_id attempt).get? key = some d.json →
      requiredMapping (asObject (encodeRequest authorization trust_bundle b witness_id attempt)
        key) path = .ok e → e = d := by
    intro key path d e hget he
    rw [asObject_eq hget] at he
    exact (Except.ok.inj he).symm
  unfold decodeRequest at h
  obtain ⟨_, h⟩ := require_bind_ok.mp h
  obtain ⟨auth, hauth, h⟩ := bind_ok.mp h
  obtain ⟨_, _, h⟩ := bind_ok.mp h
  obtain ⟨action, haction, h⟩ := bind_ok.mp h
  obtain ⟨preparedValue, hpreparedValue, h⟩ := bind_ok.mp h
  obtain ⟨bindingValue, hbindingValue, h⟩ := bind_ok.mp h
  obtain ⟨_, _, h⟩ := bind_ok.mp h
  obtain ⟨prepared, hprepared, h⟩ := bind_ok.mp h
  obtain ⟨binding, hbinding, h⟩ := bind_ok.mp h
  obtain ⟨_, _, h⟩ := bind_ok.mp h
  obtain ⟨_, _, h⟩ := bind_ok.mp h
  obtain rfl := pure_ok.mp h
  obtain rfl := hobject (d := authorization) (by simp [encodeRequest, Json.get?_cons]) hauth
  obtain rfl := hobject (d := b.action) (by simp [encodeRequest, Json.get?_cons]) haction
  obtain rfl := hobject (d := encodePrepared b.prepared_dispatch)
    (by simp [encodeRequest, Json.get?_cons]) hpreparedValue
  obtain rfl := hobject (d := encodeBinding b)
    (by simp [encodeRequest, Json.get?_cons]) hbindingValue
  rw [decodePrepared_encodePrepared] at hprepared
  rw [decodeBinding_encodeBinding] at hbinding
  obtain ⟨_, hsame, hjson, _⟩ := ExecutionAuthorizationBinding.capture_ok hbinding
  refine ⟨?_, ?_, rfl⟩
  · show binding.prepared_dispatch.wire_bytes = _
    rw [hsame, (PreparedDispatch.capture_ok hprepared).2.2.1]
  · show binding.action = _
    rw [ExecutionAuthorizationBinding.action, hjson, Snapshot.restore_ofDict]

/-! ## Section 3: What is sent -/

/-- Everything `handle` sends is the wire of the decoded request. -/
theorem wire_of_send {service : SidecarDispatchService} {payload : Dict}
    {envelope : SidecarEnvelope} {log before after : List PortEvent} {response : SidecarResponse}
    {wire_bytes : ByteArray} {content_type content_encoding : String}
    {credential : CredentialHeader} {x : Raises TargetResponse}
    (hdecode : decodeRequest payload = .ok envelope)
    (hrun : Prog.Run (service.handle payload) log response)
    (hlog : log =
      before ++ ⟨.sendExact wire_bytes content_type content_encoding credential, x⟩ :: after) :
    wire_bytes = envelope.binding.prepared_dispatch.wire_bytes := by
  have hobeys : Prog.Obeys (guarded PortOp.isSend (service.sendGuard payload))
      (SidecarDispatchService.Truthful []) [] (service.handle payload) :=
    SidecarDispatchService.handle_obeys rfl fun _ _ _ h => h
  have hallowed := hobeys.allowed hrun (Protocol.kept_history _ _ _) hlog
  have hview : (guarded PortOp.isSend (service.sendGuard payload)).after [] before = before :=
    Protocol.after_history _ _ _
  rw [hview] at hallowed
  obtain ⟨envelope', hdecode', hguard⟩ := hallowed rfl
  rw [hdecode] at hdecode'
  obtain rfl := Except.ok.inj hdecode'
  exact hguard.wire

/-- **The wire is the arguments**: once planning, binding, issue and the
    sidecar's decoding succeed, everything sent is the canonical JSON of the
    action's arguments, decodes to exactly these, and they are the parameters
    of the execution action sealed by the decision, of the permit, and of the
    action the witness observes. -/
theorem wire_is_arguments (planner : HttpDispatchPlanner) (action : ActionIntent)
    (client : PrivateVaultAuthorizationClient) (decision : PrivateVaultDecision)
    (service : SidecarDispatchService) {planned : PlannedDispatch} {b : DecisionBinding}
    {issued : IssuedAuthorization} {binding : ExecutionAuthorizationBinding}
    {witness_id : String} {attempt : Int} {delivered : Dict} {envelope : SidecarEnvelope}
    {log : List PortEvent} {response : SidecarResponse}
    (hplan : planner.plan action = .ok planned)
    (hcapture : DecisionBinding.capture action planned.action planned.prepared.dispatch = .ok b)
    (hissue : client.issue action decision planned = .ok issued)
    (hbind : bindIssued action planned issued = .ok binding)
    (hchannel : JsonChannel
      (encodeRequest issued.authorization issued.trust_bundle binding witness_id attempt)
      delivered)
    (hdecode : decodeRequest delivered = .ok envelope)
    (hrun : Prog.Run (service.handle delivered) log response) :
    (∀ before wire_bytes content_type content_encoding credential x after,
      log =
        before ++ ⟨.sendExact wire_bytes content_type content_encoding credential, x⟩ :: after →
      wire_bytes = Json.canonical action.arguments.json ∧
        Json.loadsBytes wire_bytes = some action.arguments.json) ∧
    (asObject (b.decidePayload action) "execution_action").bind (asObject · "parameters") =
      some action.arguments ∧
    (∃ permitted, issued.authorization.get? "action" = some permitted ∧
      Json.pyEq permitted planned.action.json = true) ∧
    asObject envelope.binding.action "parameters" = some action.arguments := by
  obtain ⟨hparameters, hwire, hsealed⟩ := arguments_of_bound_plan hplan hcapture
  obtain ⟨hprepared, haction, _⟩ := bindIssued_ok hbind
  obtain rfl := hchannel.eq
  obtain ⟨hsent, hobserved, _⟩ := prepared_of_decodeRequest hdecode
  refine ⟨?_, ?_, ?_, ?_⟩
  · intro before wire_bytes content_type content_encoding credential x after hlog
    have hbytes : wire_bytes = Json.canonical action.arguments.json := by
      rw [wire_of_send hdecode hrun hlog, hsent, hprepared, hwire]
    exact ⟨hbytes, hbytes ▸ Json.loadsBytes_canonical action.arguments⟩
  · have hpayload : (b.decidePayload action).get? "execution_action" =
        some b.executionAction.json := by
      simp [DecisionBinding.decidePayload, Json.Dict.get?_set]
    rw [asObject_eq hpayload, Option.bind_some, hsealed]
    exact asObject_eq hparameters
  · have h := action_of_issued hissue
    unfold Json.Dict.get at h
    cases hget : issued.authorization.get? "action" with
    | none =>
      rw [hget] at h
      simp [Json.Dict.json, Json.pyEq, Json.num?] at h
    | some permitted =>
      rw [hget] at h
      exact ⟨permitted, rfl, h⟩
  · rw [hobserved, ExecutionAuthorizationBinding.action, haction, Snapshot.restore_ofDict]
    exact asObject_eq hparameters

/-! ### `contactRead` on the wire -/

/-- The client whose server grants one use. -/
abbrev contactClient : PrivateVaultAuthorizationClient :=
  echoClient "acme" nonBlank_acme (.int 1) (.int 1)

/-- The permit of `contactRead`. -/
def contactIssued : IssuedAuthorization where
  authorization := (echoGranted (contactRequest contactClient) (.int 1) (.int 1)).authorization
  trust_bundle := (echoGranted (contactRequest contactClient) (.int 1) (.int 1)).trust_bundle
  binding_digests := bindingDigests (contactRequest contactClient) "2026-01-01T00:00:00Z"

theorem contactClient_issue :
    contactClient.issue ActionIntent.contactRead (allowDecision contactRecord)
      (HttpDispatchPlanner.contactPlan "acme") = .ok contactIssued :=
  PrivateVaultAuthorizationClient.issue_ok.mpr
    ⟨_, _, contactRequest_sent _ _ _, echoTransport_grants "/v1/authorize" _ _ _,
      contactRequest_verifies (.int 1) (.int 1) (by simp [Json.pyEq, Json.num?, Json.Num.eq]), rfl⟩

/-- The binding of that permit. -/
def contactBinding : ExecutionAuthorizationBinding where
  request_id := "request-1"
  prepared_dispatch := (HttpDispatchPlanner.contactPlan "acme").prepared
  action_json := Snapshot.ofDict (HttpDispatchPlanner.contactPlan "acme").action
  decision_receipt_digest := HttpDispatchPlanner.zeroDigest
  authority_receipt_digest := HttpDispatchPlanner.zeroDigest
  approval_artifact_digest := none
  state_snapshot_digest := HttpDispatchPlanner.zeroDigest
  policy_bundle_digest := HttpDispatchPlanner.zeroDigest
  obligations_digest := HttpDispatchPlanner.zeroDigest
  at_time := "2026-01-01T00:00:00Z"
  request_id_matches := rfl
  digests_sha256 := by
    intro d hd
    simp only [List.mem_cons, List.not_mem_nil, or_false, or_self] at hd
    subst hd
    exact HttpDispatchPlanner.zeroDigest_sha256
  approval_artifact_sha256 := sha256Digest_none
  at_time_text := by decide

theorem contactPlan_action_finite :
    Json.finite (HttpDispatchPlanner.contactPlan "acme").action.json = true := by
  decide +kernel

theorem contactIssued_binds :
    bindIssued ActionIntent.contactRead (HttpDispatchPlanner.contactPlan "acme") contactIssued =
      .ok contactBinding := by
  have hdigest : ∀ key value, contactIssued.binding_digests.get? key = some value →
      digestOf contactIssued.binding_digests key = .ok value := by
    intro key value h
    rw [digestOf, h]
  have hzero : ∀ key ∈ ["decision_receipt_digest", "authority_receipt_digest",
      "state_snapshot_digest", "policy_bundle_digest", "obligations_digest"],
      contactIssued.binding_digests.get? key = some (.str HttpDispatchPlanner.zeroDigest) := by
    decide +kernel
  have happroval : contactIssued.binding_digests.get "approval_artifact_digest" = .null := rfl
  unfold bindIssued
  simp only
  rw [hdigest _ _ (hzero "decision_receipt_digest" (by simp)),
    hdigest _ _ (hzero "authority_receipt_digest" (by simp)),
    hdigest _ _ (hzero "state_snapshot_digest" (by simp)),
    hdigest _ _ (hzero "policy_bundle_digest" (by simp)),
    hdigest _ _ (hzero "obligations_digest" (by simp)),
    hdigest "at_time" (.str "2026-01-01T00:00:00Z") rfl, happroval]
  exact contactBinding.capture_self rfl contactPlan_action_finite

/-- The request to the sidecar. -/
def contactPayload : Dict :=
  encodeRequest contactIssued.authorization contactIssued.trust_bundle contactBinding "witness-1" 1

/-- What the sidecar reads of it. -/
def contactEnvelope : SidecarEnvelope where
  authorization := contactIssued.authorization
  trust_bundle := contactIssued.trust_bundle
  binding := contactBinding
  witness_id := "witness-1"
  attempt := 1

theorem contactPayload_decodes : decodeRequest contactPayload = .ok contactEnvelope :=
  decodeRequest_encodeRequest
    (show contactBinding.prepared_dispatch.dispatch_json = Snapshot.ofDict
      (HttpDispatchPlanner.dispatchDocument ActionIntent.contactRead
        HttpDispatchPlanner.contactRoute) from rfl)
    (by decide +kernel) rfl contactPlan_action_finite (by decide) (by decide)

/-- A sidecar that pins the trust bundle of the permit. -/
def contactSidecar : SidecarDispatchService where
  identity := ⟨"sidecar-1", "sidecar-key", true⟩
  pinned_trust_bundle := contactIssued.trust_bundle
  identity_independent := rfl
  pinned_trust_bundle_nonempty := by decide +kernel
  pinned_trust_bundle_finite := by decide +kernel

/-- A target, a signer, a store and a clock that answer as they should. -/
def contactCooperation : SidecarDispatchService.Cooperation where
  wire_content_type := "application/json"
  wire_content_encoding := "identity"
  audience := "crm"
  idempotency_key_digest := sha256Digest "request-1".toUTF8
  credential := ⟨"Authorization", "Bearer token"⟩
  use := {
    organisation_id := "acme"
    execution_authorization_id := "authorization-1"
    authorization_digest := HttpDispatchPlanner.zeroDigest
    request_id := "request-1"
    claimed_at := "2026-01-01T00:00:05Z"
    texts := by
      intro s hs
      simp only [List.mem_cons, List.not_mem_nil, or_false] at hs
      rcases hs with rfl | rfl | rfl | rfl <;> decide
    authorization_sha256 := HttpDispatchPlanner.zeroDigest_sha256 }
  report := ⟨true, "VERIFIED", "CONFORMANT", none, [], none⟩
  response := ⟨"ACKNOWLEDGED", "200", some "ok".toUTF8, "CONFIRMED", .json (.str "ok")⟩
  response_bytes := "ok".toUTF8
  witness := Dict.of [("dispatch_witness_id", .str "witness-1")] (by simp)
  closure := Dict.of [("closure_id", .str "closure-1")] (by simp)

theorem contactAuthorization_get {key : String} (hmax : key ≠ "max_uses")
    (hid : key ≠ "execution_authorization_id") :
    contactIssued.authorization.get key = (contactRequest contactClient).body.get key := by
  simp [contactIssued, echoGranted, echoAuthorization, Json.Dict.get, Json.Dict.get?_set, hmax,
    hid]

theorem contactAuthorization_id :
    contactIssued.authorization.get "execution_authorization_id" = .str "authorization-1" := by
  simp [contactIssued, echoGranted, echoAuthorization, Json.Dict.get, Json.Dict.get?_set]

theorem contactAuthorization_organisation :
    contactIssued.authorization.get "organisation_id" = .str "acme" := by
  rw [contactAuthorization_get (by decide) (by decide)]
  rfl

theorem contactAuthorization_request :
    contactIssued.authorization.get "request_id" = .str "request-1" := by
  rw [contactAuthorization_get (by decide) (by decide)]
  rfl

theorem contactAuthorization_finite : Json.finite contactIssued.authorization.json = true := by
  have hbody : Json.finite (contactRequest contactClient).body.json = true :=
    PrivateVaultAuthorizationClient.buildRequest_finite contactPlan_action_finite
  exact Json.Dict.finite_set (Json.WF.str _) (Json.Dict.finite_set (.int 1) hbody rfl) rfl

theorem contactCooperation_named :
    contactCooperation.use.NamedBy contactIssued.authorization contactBinding where
  organisation_id := contactAuthorization_organisation
  execution_authorization_id := contactAuthorization_id
  request_id := contactAuthorization_request
  binding_request_id := rfl

theorem contactTrust_pinned :
    trustBundleDigest contactIssued.trust_bundle = .ok contactSidecar.pinnedTrustDigest := by
  have hfinite : Json.finite contactIssued.trust_bundle.json = true :=
    contactSidecar.pinned_trust_bundle_finite
  rw [trustBundleDigest, canonicalJson, if_pos hfinite]
  rfl

theorem contactCooperation_fits : contactCooperation.Fits contactSidecar contactEnvelope := by
  have hdispatch : contactEnvelope.binding.prepared_dispatch.dispatch =
      HttpDispatchPlanner.dispatchDocument ActionIntent.contactRead
        HttpDispatchPlanner.contactRoute := contactPlan_dispatch "acme"
  refine ⟨contactTrust_pinned, ?_, ?_, ?_, ?_, contactAuthorization_finite,
    contactCooperation_named, by decide, rfl⟩
  · rw [hdispatch]
    refine bind_ok.mpr ⟨"application/json", sidecarText_ok.mpr ⟨?_, by decide⟩, by decide⟩
    rfl
  · rw [hdispatch]
    refine bind_ok.mpr ⟨"identity", sidecarText_ok.mpr ⟨?_, by decide⟩, by decide⟩
    rfl
  · rw [hdispatch]
    exact sidecarText_ok.mpr ⟨rfl, by decide⟩
  · rw [hdispatch]
    exact sidecarText_ok.mpr ⟨rfl, nonBlank_append_left _ (by decide)⟩

theorem contactPayload_finite : Json.finite contactPayload.json = true := by
  have hauthorization := contactAuthorization_finite
  have haction : Json.finite contactBinding.action.json = true := by
    rw [ExecutionAuthorizationBinding.action, contactBinding, Snapshot.restore_ofDict]
    exact contactPlan_action_finite
  have hprepared : Json.finite (encodePrepared contactBinding.prepared_dispatch).json = true := by
    apply Json.Dict.finite_of
    simp only [List.forall_mem_cons, PreparedDispatch.dispatch_finite]
    simp [Json.finite]
  have hrest : Json.finite contactIssued.trust_bundle.json = true ∧
      Json.finite (encodeBinding contactBinding).json = true ∧
      Json.finite (encodeWitness "witness-1" 1).json = true := by
    decide +kernel
  unfold contactPayload encodeRequest
  apply Json.Dict.finite_of
  simp only [List.forall_mem_cons, hauthorization, hrest.1, haction, hprepared, hrest.2.1,
    hrest.2.2]
  simp [Json.finite]

/-- For `contactRead` the argument goes over the wire, as it is. -/
theorem wire_is_arguments_contactRead :
    ∃ log response, Prog.Run (contactSidecar.handle contactPayload) log response ∧
      ∃ before wire_bytes content_type content_encoding credential x after,
        log =
          before ++ ⟨.sendExact wire_bytes content_type content_encoding credential, x⟩ :: after ∧
        wire_bytes = Json.canonical ActionIntent.contactRead.arguments.json := by
  obtain ⟨b, hbinds⟩ := ((http_mintable_iff
    (HttpDispatchPlanner.contactPlanner_covers "acme")
    (HttpDispatchPlanner.contactPlanner_plan "acme")).mpr (by decide)).binds
  have hchannel : JsonChannel contactPayload contactPayload :=
    ⟨_, if_pos contactPayload_finite, Json.loadsBytes_canonical contactPayload⟩
  have hrun := SidecarDispatchService.Cooperation.handle_run contactPayload_decodes
    contactCooperation_fits
  have hwire := (wire_is_arguments (HttpDispatchPlanner.contactPlanner "acme")
    ActionIntent.contactRead contactClient (allowDecision contactRecord) contactSidecar
    (HttpDispatchPlanner.contactPlanner_plan "acme") hbinds contactClient_issue
    contactIssued_binds hchannel contactPayload_decodes hrun).1
  refine ⟨_, _, hrun, ?_⟩
  obtain ⟨before, after, hlog⟩ := List.append_of_mem
    (SidecarDispatchService.Cooperation.send_mem_events contactCooperation contactSidecar
      contactEnvelope)
  exact ⟨before, _, _, _, _, _, after, hlog, (hwire _ _ _ _ _ _ _ hlog).1⟩

end CBrain

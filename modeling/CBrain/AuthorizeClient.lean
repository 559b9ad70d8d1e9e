import CBrain.Decision

/-! # The authorization client

    Models `cbrain/execution/authorize_client.py`: from an ALLOW decision and
    its plan to the request for a permit, and the checks on the response
    before the permit is handed on.

    The transport is a parameter: any function from a path and a body to a
    response or an exception.  The provider of security events is one too.
-/

namespace CBrain

open Json (Dict)

/-! ## Section 1: Requests and responses -/

/-- `HttpJsonResponse`. -/
structure HttpJsonResponse where
  status_code : Nat
  body : Dict
  status_code_range : 100 ≤ status_code ∧ status_code ≤ 599

/-- `JsonTransport.post_json`. -/
abbrev JsonTransport : Type := String → Dict → Raises HttpJsonResponse

/-- `EvidenceDigests`: the evidence references a deployment supplies. -/
structure EvidenceDigests where
  authority_receipt_digest : String
  state_snapshot_digest : String
  policy_bundle_digest : String
  obligations_digest : String
  approval_artifact_digest : Option String
  authority_receipt_sha256 : isSha256Digest authority_receipt_digest = true
  state_snapshot_sha256 : isSha256Digest state_snapshot_digest = true
  policy_bundle_sha256 : isSha256Digest policy_bundle_digest = true
  obligations_sha256 : isSha256Digest obligations_digest = true
  approval_artifact_sha256 : ∀ d, approval_artifact_digest = some d → isSha256Digest d = true

/-- What a provider of security events returns: the events, or something that
    is not a sequence. -/
inductive SecurityEvents where
  | events (es : List Dict)
  | notASequence

/-- `SecurityEventEvidenceProvider.events_for_authorize`. -/
abbrev SecurityEventProvider (P : Type) : Type :=
  ActionIntent → PrivateVaultDecision → P → Raises SecurityEvents

/-- `PrivateVaultAuthorizationClient`. -/
structure PrivateVaultAuthorizationClient where
  transport : JsonTransport
  organisation_id : String
  evidence_digests : EvidenceDigests
  path : String := "/v1/authorize"
  security_event_provider : Option (SecurityEventProvider PlannedDispatch) := none
  require_security_events : Bool := false
  organisation_id_text : nonBlank organisation_id = true

/-- The body of an authorization request. -/
structure AuthorizeRequest where
  request_id : String
  agent_id : String
  organisation_id : String
  decision_id : String
  record_hash : String
  action : Dict
  dispatch : Dict
  expected_wire_bytes_digest : String
  expected_wire_bytes_length : Nat
  expected_peer_identity_digest : String
  decision_receipt_digest : String
  authority_receipt_digest : String
  approval_artifact_digest : Option String
  state_snapshot_digest : String
  policy_bundle_digest : String
  obligations_digest : String
  security_events : Option (List Dict)

/-- A text or `None`. -/
def optText : Option String → Json
  | some s => .str s
  | none => .null

@[simp] theorem wf_optText (o : Option String) : Json.WF (optText o) := by
  cases o with
  | none => exact Json.WF.null
  | some s => exact Json.WF.str s

theorem wf_dictList (ds : List Dict) : Json.WF (.arr (ds.map Dict.json)) := by
  apply Json.WF.arr
  intro x hx
  obtain ⟨d, -, rfl⟩ := List.mem_map.mp hx
  exact d.wf_json

/-- The body as it is posted. -/
def AuthorizeRequest.body (r : AuthorizeRequest) : Dict :=
  let body := Dict.of
    [("request_id", .str r.request_id),
     ("agent_id", .str r.agent_id),
     ("organisation_id", .str r.organisation_id),
     ("decision_id", .str r.decision_id),
     ("record_hash", .str r.record_hash),
     ("action", r.action.json),
     ("dispatch", r.dispatch.json),
     ("expected_wire_bytes_digest", .str r.expected_wire_bytes_digest),
     ("expected_wire_bytes_length", .int r.expected_wire_bytes_length),
     ("expected_peer_identity_digest", .str r.expected_peer_identity_digest),
     ("decision_receipt_digest", .str r.decision_receipt_digest),
     ("authority_receipt_digest", .str r.authority_receipt_digest),
     ("approval_artifact_digest", optText r.approval_artifact_digest),
     ("state_snapshot_digest", .str r.state_snapshot_digest),
     ("policy_bundle_digest", .str r.policy_bundle_digest),
     ("obligations_digest", .str r.obligations_digest)]
    (by simp)
  match r.security_events with
  | none => body
  | some events => body.set "security_events" (.arr (events.map Dict.json)) (wf_dictList events)

/-- `IssuedAuthorization`. -/
structure IssuedAuthorization where
  authorization : Dict
  trust_bundle : Dict
  binding_digests : Dict

/-! ## Section 2: Before the request -/

/-- `_sealed_allow_reference`: the sealed record the permit must be bound to. -/
def sealedAllowReference (decision : PrivateVaultDecision) (action : ActionIntent) :
    Raises (String × String) := do
  require (decision.verdict = .allow)
    (Exn.of .authorizationRefused
      s!"only an ALLOW decision can mint; verdict was {decision.verdict.value}")
  require (decision.request_id = action.request_id)
    (Exn.of .authorizationRefused "decision answers a different request")
  let mintable : Raises (Dict × String × String) := do
    let record ← decision.record
    let reference ← requireMintableRecord record action.agent_id action.capability
    return (record, reference)
  match mintable with
  | .error exc =>
    -- Only a protocol error is translated.
    if exc.kind = .privateVaultProtocolError then
      throw (Exn.parts .authorizationRefused (.text "decision is not mintable: " :: exc.message))
    else throw exc
  | .ok (record, reference) =>
    require (record.get "decision" = .str PrivateVaultVerdict.allow.value)
      (Exn.of .authorizationRefused "sealed record does not carry an ALLOW decision")
    require (record.get "request_id" = .null ∨ record.get "request_id" = .str action.request_id)
      (Exn.of .authorizationRefused "sealed record answers a different request")
    return reference

theorem sealedAllowReference_ok {decision : PrivateVaultDecision} {action : ActionIntent}
    {reference : String × String} :
    sealedAllowReference decision action = .ok reference ↔
      decision.verdict = .allow ∧ decision.request_id = action.request_id ∧
      ∃ record, decision.record = .ok record ∧
        requireMintableRecord record action.agent_id action.capability = .ok reference ∧
        record.get "decision" = .str PrivateVaultVerdict.allow.value ∧
        (record.get "request_id" = .null ∨ record.get "request_id" = .str action.request_id) := by
  unfold sealedAllowReference
  rw [require_bind_ok, require_bind_ok]
  cases hrecord : decision.record with
  | error exc =>
    by_cases hkind : exc.kind = .privateVaultProtocolError <;>
      simp [bind, Except.bind, hkind, throw, throwThe, MonadExceptOf.throw]
  | ok record =>
    cases hmint : requireMintableRecord record action.agent_id action.capability with
    | error exc =>
      by_cases hkind : exc.kind = .privateVaultProtocolError <;>
        simp [bind, Except.bind, hmint, hkind, throw, throwThe, MonadExceptOf.throw]
    | ok r =>
      have hmintable : ((.ok record : Raises Dict) >>= fun record => do
          let reference ← requireMintableRecord record action.agent_id action.capability
          return (record, reference)) = .ok (record, r) :=
        bind_ok.mpr ⟨record, rfl, bind_ok.mpr ⟨r, hmint, rfl⟩⟩
      simp only [hmintable, require_bind_ok, pure_ok, Except.ok.injEq, exists_eq_left']
      constructor
      · rintro ⟨hverdict, hid, hdecision, hrequest, rfl⟩
        exact ⟨hverdict, hid, hmint, hdecision, hrequest⟩
      · rintro ⟨hverdict, hid, hr, hdecision, hrequest⟩
        rw [hmint] at hr
        exact ⟨hverdict, hid, hdecision, hrequest, Except.ok.inj hr⟩

/-- `_require_wire_matches_action`: the wire bytes are the named
    serialization of the planned parameters. -/
def requireWireMatchesAction (planned : PlannedDispatch) : Raises Unit := do
  require (planned.prepared.dispatch.get "serialization" ∈ KNOWN_WIRE_SERIALIZATIONS.map Json.str)
    (Exn.of .authorizationRefused "prepared dispatch serialization is missing or unknown")
  match asObject planned.action "parameters" with
  | none => throw (Exn.of .authorizationRefused "planned action parameters must be a mapping")
  | some parameters =>
    require (Json.finite parameters.json = true)
      (Exn.of .authorizationRefused
        s!"planned action parameters are not encodable under {WIRE_SERIALIZATION_JSON_PARAMETERS_V01}")
    require (Json.canonical parameters.json = planned.prepared.wire_bytes)
      (Exn.of .authorizationRefused
        "prepared wire_bytes do not match the named serialization of action.parameters")

theorem requireWireMatchesAction_ok {planned : PlannedDispatch} {u : Unit} :
    requireWireMatchesAction planned = .ok u ↔
      planned.prepared.dispatch.get "serialization" ∈ KNOWN_WIRE_SERIALIZATIONS.map Json.str ∧
      ∃ parameters, asObject planned.action "parameters" = some parameters ∧
        Json.finite parameters.json = true ∧
        Json.canonical parameters.json = planned.prepared.wire_bytes := by
  unfold requireWireMatchesAction
  rw [require_bind_ok]
  cases asObject planned.action "parameters" with
  | none => simp [throw, throwThe, MonadExceptOf.throw]
  | some p => simp [require_bind_ok, require_ok]

/-- `_security_events`: `none` when no provider is configured. -/
def PrivateVaultAuthorizationClient.securityEvents (client : PrivateVaultAuthorizationClient)
    (action : ActionIntent) (decision : PrivateVaultDecision) (planned : PlannedDispatch) :
    Raises (Option (List Dict)) :=
  match client.security_event_provider with
  | none =>
    if client.require_security_events then
      .error (Exn.of .authorizationRefused
        "security_events are required but no trusted evidence provider is configured")
    else .ok none
  | some provider =>
    match provider action decision planned with
    | .error exc =>
      if exc.kind = .securityEventEvidenceError then
        .error (Exn.parts .authorizationRefused
          (.text "trusted security-event evidence refused: " :: exc.message))
      else .error exc
    | .ok .notASequence =>
      .error (Exn.of .authorizationRefused
        "trusted security-event evidence must be a sequence of events")
    | .ok (.events []) =>
      .error (Exn.of .authorizationRefused
        "trusted security-event evidence must include at least one event")
    | .ok (.events (e :: es)) => .ok (some (e :: es))

/-- The request for a sealed record `(decision_id, record_hash)`. -/
def PrivateVaultAuthorizationClient.buildRequest (client : PrivateVaultAuthorizationClient)
    (action : ActionIntent) (planned : PlannedDispatch) (reference : String × String)
    (security_events : Option (List Dict)) : AuthorizeRequest where
  request_id := action.request_id
  agent_id := action.agent_id
  organisation_id := client.organisation_id
  decision_id := reference.1
  record_hash := reference.2
  action := planned.action
  dispatch := planned.prepared.dispatch
  expected_wire_bytes_digest := sha256Digest planned.prepared.wire_bytes
  expected_wire_bytes_length := planned.prepared.wire_bytes.size
  expected_peer_identity_digest := sha256Digest planned.prepared.peer_identity_bytes
  decision_receipt_digest := "sha256:" ++ reference.2
  authority_receipt_digest := client.evidence_digests.authority_receipt_digest
  approval_artifact_digest := client.evidence_digests.approval_artifact_digest
  state_snapshot_digest := client.evidence_digests.state_snapshot_digest
  policy_bundle_digest := client.evidence_digests.policy_bundle_digest
  obligations_digest := client.evidence_digests.obligations_digest
  security_events := security_events

/-- The checks before the request, and the request. -/
def PrivateVaultAuthorizationClient.request (client : PrivateVaultAuthorizationClient)
    (action : ActionIntent) (decision : PrivateVaultDecision) (planned : PlannedDispatch) :
    Raises AuthorizeRequest := do
  let reference ← sealedAllowReference decision action
  requireWireMatchesAction planned
  let security_events ← client.securityEvents action decision planned
  return client.buildRequest action planned reference security_events

/-- The request carries the plan. -/
theorem PrivateVaultAuthorizationClient.request_ok {client : PrivateVaultAuthorizationClient}
    {action : ActionIntent} {decision : PrivateVaultDecision} {planned : PlannedDispatch}
    {sent : AuthorizeRequest} :
    client.request action decision planned = .ok sent ↔
      ∃ reference events, sealedAllowReference decision action = .ok reference ∧
        requireWireMatchesAction planned = .ok () ∧
        client.securityEvents action decision planned = .ok events ∧
        sent = client.buildRequest action planned reference events := by
  unfold PrivateVaultAuthorizationClient.request
  rw [bind_ok]
  constructor
  · rintro ⟨reference, hreference, h⟩
    obtain ⟨hwire, h⟩ := unit_bind_ok.mp h
    obtain ⟨events, hevents, h⟩ := bind_ok.mp h
    exact ⟨reference, events, hreference, hwire, hevents, (pure_ok.mp h).symm⟩
  · rintro ⟨reference, events, hreference, hwire, hevents, rfl⟩
    exact ⟨reference, hreference,
      unit_bind_ok.mpr ⟨hwire, bind_ok.mpr ⟨events, hevents, pure_ok.mpr rfl⟩⟩⟩

/-! ## Section 3: Checks on the response -/

/-- Every character is ASCII. -/
def isAscii (s : String) : Bool := s.toList.all fun c => c.toNat < 128

/-- `hmac.compare_digest` on texts: it refuses non-ASCII text. -/
def compareDigest (a b : String) : Raises Bool :=
  if isAscii a && isAscii b then .ok (a == b)
  else .error (Exn.of .typeError "comparing strings with non-ASCII characters is not supported")

/-- One text comparison of `_verify_binding`. -/
inductive EchoCheck where
  /-- The issued value must be the expected text. -/
  | text (issued : Json) (expected : String) (refusal : String)
  /-- The value was not requested and must be absent. -/
  | absent (issued : Json) (refusal : String)

/-- Perform one comparison. -/
def EchoCheck.run : EchoCheck → Raises Unit
  | .absent issued refusal => require (issued = .null) (Exn.of .authorizationRefused refusal)
  | .text issued expected refusal =>
    match issued with
    | .str s => do
      let same ← compareDigest s expected
      require (same = true) (Exn.of .authorizationRefused refusal)
    | _ => .error (Exn.of .authorizationRefused refusal)

/-- The comparison of an echoed digest that may not have been requested. -/
def digestCheck (authorization : Dict) (field : String) (expected : Option String) : EchoCheck :=
  match expected with
  | none => .absent (authorization.get field) s!"authorization {field} was not requested"
  | some digest =>
    .text (authorization.get field) digest s!"authorization {field} does not match the request"

/-- The text comparisons of `_verify_binding`, in order. -/
def echoChecks (sent : AuthorizeRequest) (authorization : Dict) : List EchoCheck :=
  let text (field expected : String) : EchoCheck :=
    .text (authorization.get field) expected s!"authorization {field} does not match the request"
  [.text (authorization.get "request_id") sent.request_id
      "authorization answers a different request",
   text "expected_wire_bytes_digest" sent.expected_wire_bytes_digest,
   text "expected_peer_identity_digest" sent.expected_peer_identity_digest,
   text "organisation_id" sent.organisation_id,
   digestCheck authorization "decision_receipt_digest" (some sent.decision_receipt_digest),
   digestCheck authorization "authority_receipt_digest" (some sent.authority_receipt_digest),
   digestCheck authorization "approval_artifact_digest" sent.approval_artifact_digest,
   digestCheck authorization "state_snapshot_digest" (some sent.state_snapshot_digest),
   digestCheck authorization "policy_bundle_digest" (some sent.policy_bundle_digest),
   digestCheck authorization "obligations_digest" (some sent.obligations_digest)]

/-- Perform comparisons in order, up to the first that raises. -/
def runChecks : List EchoCheck → Raises Unit
  | [] => .ok ()
  | c :: cs => do c.run; runChecks cs

/-- `_verify_binding`: refuse a permit that does not answer this request. -/
def verifyBinding (sent : AuthorizeRequest) (authorization : Dict) : Raises Unit := do
  runChecks (echoChecks sent authorization)
  require (Json.pyEq (authorization.get "expected_wire_bytes_length")
      (.int sent.expected_wire_bytes_length) = true)
    (Exn.of .authorizationRefused "authorization wire byte length does not match")
  require (Json.pyEq (authorization.get "max_uses") (.int 1) = true)
    (Exn.of .authorizationRefused "authorization is not single-use")
  require (Json.pyEq (authorization.get "dispatch") sent.dispatch.json = true)
    (Exn.of .authorizationRefused
      "authorization dispatch does not match the prepared dispatch")
  require (Json.pyEq (authorization.get "action") sent.action.json = true)
    (Exn.of .authorizationRefused
      "authorization action does not match the requested action")

/-- `_required_mapping`. -/
def requiredObject (body : Dict) (key : String) : Raises Dict :=
  match asObject body key with
  | some d => .ok d
  | none =>
    .error (Exn.of .privateVaultProtocolError s!"authorization response missing {key}")

/-- `_refusal_reason`. -/
def refusalReason (body : Dict) : String :=
  match asObject body "detail" with
  | some detail =>
    match detail.get "reason_code" with
    | .str reason => if reason = "" then "unspecified" else reason
    | _ => "unspecified"
  | none => "unspecified"

/-- `_snapshot`: a deep copy by way of JSON text. -/
def deepCopy (value : Dict) : Raises Dict :=
  restoreObject (Json.encode (Json.dumps .default value.json))

theorem deepCopy_eq (value : Dict) : deepCopy value = .ok value := by
  have hload : Json.loadsBytes (Json.encode (Json.dumps .default value.json)) = some value.json :=
    Json.loadsBytes_dumps .default value.wf
  exact restoreObject_of_loads hload

/-- The parts of a successful response that `issue` reads: status 200, two
    objects and a text. -/
structure Granted where
  authorization : Dict
  trust_bundle : Dict
  at_time : String

/-- Read a response. -/
def readResponse (response : Raises HttpJsonResponse) : Raises Granted := do
  match response with
  | .error exc =>
    throw (Exn.of .authorizationRefused s!"authorization transport failed:{exc.name}")
  | .ok r =>
    require (r.status_code = 200)
      (Exn.of .authorizationRefused
        s!"authorization rejected with status {r.status_code}:{refusalReason r.body}")
    let authorization ← requiredObject r.body "authorization"
    let trust_bundle ← requiredObject r.body "trust_bundle"
    let at_time ← requiredMember
      (Exn.of .privateVaultProtocolError "authorization response missing at_time")
      (r.body.get "at_time")
    return ⟨authorization, trust_bundle, at_time⟩

/-- The digests handed on with the permit. -/
def bindingDigests (sent : AuthorizeRequest) (at_time : String) : Dict :=
  Dict.of
    [("decision_receipt_digest", .str sent.decision_receipt_digest),
     ("authority_receipt_digest", .str sent.authority_receipt_digest),
     ("approval_artifact_digest", optText sent.approval_artifact_digest),
     ("state_snapshot_digest", .str sent.state_snapshot_digest),
     ("policy_bundle_digest", .str sent.policy_bundle_digest),
     ("obligations_digest", .str sent.obligations_digest),
     ("at_time", .str at_time)]
    (by simp)

/-- `PrivateVaultAuthorizationClient.issue`. -/
def PrivateVaultAuthorizationClient.issue (client : PrivateVaultAuthorizationClient)
    (action : ActionIntent) (decision : PrivateVaultDecision) (planned : PlannedDispatch) :
    Raises IssuedAuthorization := do
  let sent ← client.request action decision planned
  let granted ← readResponse (client.transport client.path sent.body)
  verifyBinding sent granted.authorization
  let authorization ← deepCopy granted.authorization
  let trust_bundle ← deepCopy granted.trust_bundle
  return ⟨authorization, trust_bundle, bindingDigests sent granted.at_time⟩

/-! ## Section 4: What `issue` accepts -/

/-- The response grants a permit: status 200, two objects and a text. -/
def Grants (response : Raises HttpJsonResponse) (granted : Granted) : Prop :=
  ∃ r, response = .ok r ∧ r.status_code = 200 ∧
    r.body.get? "authorization" = some granted.authorization.json ∧
    r.body.get? "trust_bundle" = some granted.trust_bundle.json ∧
    r.body.get "at_time" = .str granted.at_time ∧ nonBlank granted.at_time = true

theorem requiredObject_ok {body d : Dict} {key : String} :
    requiredObject body key = .ok d ↔ body.get? key = some d.json := by
  unfold requiredObject
  constructor
  · intro h
    split at h
    · next e he =>
      obtain rfl := Except.ok.inj h
      exact get?_of_asObject he
    · cases h
  · intro h
    rw [asObject_eq h]

theorem readResponse_ok {response : Raises HttpJsonResponse} {granted : Granted} :
    readResponse response = .ok granted ↔ Grants response granted := by
  unfold readResponse Grants
  cases response with
  | error exc => simp [throw, throwThe, MonadExceptOf.throw]
  | ok r =>
    simp only [bind_ok, require_ok, requiredObject_ok, requiredMember_ok, pure_ok, exists_const,
      Except.ok.injEq, exists_eq_left']
    constructor
    · rintro ⟨hstatus, auth, hauth, trust, htrust, at_time, ⟨htime, hblank⟩, rfl⟩
      exact ⟨hstatus, hauth, htrust, htime, hblank⟩
    · rintro ⟨hstatus, hauth, htrust, htime, hblank⟩
      exact ⟨hstatus, _, hauth, _, htrust, _, ⟨htime, hblank⟩, rfl⟩

/-- What `_verify_binding` requires. -/
theorem verifyBinding_ok {sent : AuthorizeRequest} {authorization : Dict} {u : Unit} :
    verifyBinding sent authorization = .ok u ↔
      runChecks (echoChecks sent authorization) = .ok () ∧
      Json.pyEq (authorization.get "expected_wire_bytes_length")
        (.int sent.expected_wire_bytes_length) = true ∧
      Json.pyEq (authorization.get "max_uses") (.int 1) = true ∧
      Json.pyEq (authorization.get "dispatch") sent.dispatch.json = true ∧
      Json.pyEq (authorization.get "action") sent.action.json = true := by
  unfold verifyBinding
  rw [unit_bind_ok, require_bind_ok, require_bind_ok, require_bind_ok, require_ok]

/-- What `issue` returns, and when. -/
theorem PrivateVaultAuthorizationClient.issue_ok {client : PrivateVaultAuthorizationClient}
    {action : ActionIntent} {decision : PrivateVaultDecision} {planned : PlannedDispatch}
    {issued : IssuedAuthorization} :
    client.issue action decision planned = .ok issued ↔
      ∃ sent granted, client.request action decision planned = .ok sent ∧
        Grants (client.transport client.path sent.body) granted ∧
        verifyBinding sent granted.authorization = .ok () ∧
        issued = ⟨granted.authorization, granted.trust_bundle,
          bindingDigests sent granted.at_time⟩ := by
  unfold PrivateVaultAuthorizationClient.issue
  rw [bind_ok]
  constructor
  · rintro ⟨sent, hsent, h⟩
    obtain ⟨granted, hgranted, h⟩ := bind_ok.mp h
    obtain ⟨hverify, h⟩ := unit_bind_ok.mp h
    rw [deepCopy_eq, deepCopy_eq] at h
    exact ⟨sent, granted, hsent, readResponse_ok.mp hgranted, hverify, (pure_ok.mp h).symm⟩
  · rintro ⟨sent, granted, hsent, hgranted, hverify, rfl⟩
    refine ⟨sent, hsent, bind_ok.mpr ⟨granted, readResponse_ok.mpr hgranted, ?_⟩⟩
    rw [unit_bind_ok, deepCopy_eq, deepCopy_eq]
    exact ⟨hverify, rfl⟩

/-! ## Section 5: The permit against the request

    The comparisons of numbers are by value, so a permit can pass them with
    values of another JSON type. -/

/-- The canonical JSON of the permit's action, dispatch, usage count and
    length is that of the values sent. -/
structure IdenticalToSent (sent : AuthorizeRequest) (authorization : Dict) : Prop where
  action : Json.canonical (authorization.get "action") = Json.canonical sent.action.json
  dispatch : Json.canonical (authorization.get "dispatch") = Json.canonical sent.dispatch.json
  max_uses : Json.canonical (authorization.get "max_uses") = Json.canonical (.int 1)
  length : Json.canonical (authorization.get "expected_wire_bytes_length") =
    Json.canonical (.int sent.expected_wire_bytes_length)

/-- Booleans and numbers of the permit have the JSON type (and floats the
    sign) of the values sent. -/
structure SameKindsAsSent (sent : AuthorizeRequest) (authorization : Dict) : Prop where
  action : Json.sameKinds (authorization.get "action") sent.action.json = true
  max_uses : Json.sameKinds (authorization.get "max_uses") (.int 1) = true
  length : Json.sameKinds (authorization.get "expected_wire_bytes_length")
    (.int sent.expected_wire_bytes_length) = true

theorem canonical_eq_iff_sameKinds {a b : Json} (h : Json.pyEq a b = true) :
    Json.canonical a = Json.canonical b ↔ Json.sameKinds a b = true := by
  rw [← Json.eq_iff_sameKinds h]
  exact ⟨Json.canonical_injective, congrArg _⟩

/-- Members that are all text can only be matched by text. -/
theorem sameKindsMembers_text {xs ys : Json.Members} (h : ∀ m ∈ ys, ∃ s, m.2 = .str s) :
    Json.sameKindsMembers xs ys = true := by
  induction xs generalizing ys with
  | nil => simp [Json.sameKindsMembers]
  | cons x xs ih =>
    rcases ys with _ | ⟨⟨k, v⟩, ys⟩
    · simp [Json.sameKindsMembers]
    · obtain ⟨s, hs⟩ := h (k, v) (by simp)
      simp only at hs
      subst hs
      have hx : Json.sameKinds x.2 (.str s) = true := by
        cases x.2 <;> simp [Json.sameKinds, Json.isNum, Json.num?]
      rw [Json.sameKindsMembers, hx, ih fun m hm => h m (by simp [hm])]
      rfl

/-- Every value of a prepared dispatch is text. -/
theorem PreparedDispatch.all_text (p : PreparedDispatch) :
    ∀ m ∈ p.dispatch.members, ∃ s, m.2 = .str s := by
  intro m hm
  have hkeys := p.keys_eq
  have hkey : m.1 ∈ requiredDispatchFields := by
    rw [← hkeys]
    exact List.mem_map_of_mem hm
  have hval : p.dispatch.get m.1 = m.2 := by
    unfold Json.Dict.get Json.Dict.get?
    rw [Json.get?_of_mem p.dispatch.wf hm]
    rfl
  obtain ⟨-, htext, hdigest⟩ := validateDispatch_ok.mp p.dispatch_valid
  have hfields : ∀ f ∈ requiredDispatchFields,
      f ∈ dispatchTextFields ∨ f ∈ dispatchDigestFields := by decide
  rcases hfields m.1 hkey with hf | hf
  · have ht := htext m.1 hf
    rw [show p.dispatch_json.restore = p.dispatch from rfl, hval] at ht
    cases hm2 : m.2 with
    | str s => exact ⟨s, rfl⟩
    | _ => rw [hm2] at ht; simp [isText] at ht
  · have ht := hdigest m.1 hf
    rw [show p.dispatch_json.restore = p.dispatch from rfl, hval] at ht
    cases hm2 : m.2 with
    | str s => exact ⟨s, rfl⟩
    | _ => rw [hm2] at ht; simp [isDigest] at ht

/-- An equal dispatch is the dispatch sent. -/
theorem dispatch_identical {p : PreparedDispatch} {j : Json}
    (h : Json.pyEq j p.dispatch.json = true) : j = p.dispatch.json := by
  apply Json.eq_of_pyEq h
  cases j with
  | obj ms =>
    show Json.sameKinds (.obj ms) (.obj p.dispatch.members) = true
    rw [Json.sameKinds]
    exact sameKindsMembers_text p.all_text
  | _ => simp [Json.Dict.json, Json.sameKinds, Json.isNum, Json.num?]

/-- Past the client's own comparisons, a permit is identical to what was sent
    exactly when its numbers are of the same kinds. -/
theorem identical_iff_sameKinds {client : PrivateVaultAuthorizationClient} {action : ActionIntent}
    {decision : PrivateVaultDecision} {planned : PlannedDispatch} {sent : AuthorizeRequest}
    {authorization : Dict} (hsent : client.request action decision planned = .ok sent)
    (hverify : verifyBinding sent authorization = .ok ()) :
    IdenticalToSent sent authorization ↔ SameKindsAsSent sent authorization := by
  obtain ⟨reference, events, -, -, -, rfl⟩ := PrivateVaultAuthorizationClient.request_ok.mp hsent
  obtain ⟨-, hlength, hmax, hdispatch, haction⟩ := verifyBinding_ok.mp hverify
  constructor
  · intro h
    exact ⟨(canonical_eq_iff_sameKinds haction).mp h.action,
      (canonical_eq_iff_sameKinds hmax).mp h.max_uses,
      (canonical_eq_iff_sameKinds hlength).mp h.length⟩
  · intro h
    exact ⟨(canonical_eq_iff_sameKinds haction).mpr h.action,
      congrArg Json.canonical (dispatch_identical hdispatch),
      (canonical_eq_iff_sameKinds hmax).mpr h.max_uses,
      (canonical_eq_iff_sameKinds hlength).mpr h.length⟩

/-- The permit echoes the texts sent. -/
structure EchoesTexts (sent : AuthorizeRequest) (authorization : Dict) : Prop where
  request_id : authorization.get "request_id" = .str sent.request_id
  wire_digest : authorization.get "expected_wire_bytes_digest" =
    .str sent.expected_wire_bytes_digest
  peer_digest : authorization.get "expected_peer_identity_digest" =
    .str sent.expected_peer_identity_digest
  organisation_id : authorization.get "organisation_id" = .str sent.organisation_id
  decision_receipt : authorization.get "decision_receipt_digest" =
    .str sent.decision_receipt_digest
  authority_receipt : authorization.get "authority_receipt_digest" =
    .str sent.authority_receipt_digest
  approval_artifact : authorization.get "approval_artifact_digest" =
    optText sent.approval_artifact_digest
  state_snapshot : authorization.get "state_snapshot_digest" = .str sent.state_snapshot_digest
  policy_bundle : authorization.get "policy_bundle_digest" = .str sent.policy_bundle_digest
  obligations : authorization.get "obligations_digest" = .str sent.obligations_digest

/-- The permit echoes everything sent, for a single use. -/
structure Echoes (sent : AuthorizeRequest) (authorization : Dict) : Prop
    extends EchoesTexts sent authorization where
  length : authorization.get "expected_wire_bytes_length" = .int sent.expected_wire_bytes_length
  max_uses : authorization.get "max_uses" = .int 1
  dispatch : authorization.get "dispatch" = sent.dispatch.json
  action : authorization.get "action" = sent.action.json

/-- As long as the earlier texts agree, the texts compared are ASCII. -/
def ComparesAscii : List EchoCheck → Prop
  | [] => True
  | .absent issued _ :: cs => issued = .null → ComparesAscii cs
  | .text issued expected _ :: cs =>
    ∀ s, issued = .str s →
      isAscii s = true ∧ isAscii expected = true ∧ (s = expected → ComparesAscii cs)

/-- The comparison finds what it expects. -/
def EchoCheck.Agrees : EchoCheck → Prop
  | .absent issued _ => issued = .null
  | .text issued expected _ => issued = .str expected

theorem compareDigest_ascii {a b : String} (ha : isAscii a = true) (hb : isAscii b = true) :
    compareDigest a b = .ok (a == b) := by
  unfold compareDigest
  rw [ha, hb]
  rfl

/-- On ASCII texts a comparison passes exactly when it agrees, else it is a
    refusal. -/
theorem runChecks_ascii {cs : List EchoCheck} (h : ComparesAscii cs) :
    (runChecks cs = .ok () ∧ ∀ c ∈ cs, c.Agrees) ∨
      (∃ exc, runChecks cs = .error exc ∧ exc.kind = .authorizationRefused) ∧
        ¬ ∀ c ∈ cs, c.Agrees := by
  induction cs with
  | nil => exact Or.inl ⟨rfl, by simp⟩
  | cons c cs ih =>
    -- A check that does not agree stops the run with a refusal.
    have hstop : ∀ exc, c.run = .error exc → exc.kind = .authorizationRefused → ¬ c.Agrees →
        (∃ exc, runChecks (c :: cs) = .error exc ∧ exc.kind = .authorizationRefused) ∧
          ¬ ∀ c' ∈ c :: cs, c'.Agrees := by
      intro exc hrun hkind hno
      refine ⟨⟨exc, ?_, hkind⟩, fun hall => hno (hall c (by simp))⟩
      rw [runChecks, hrun]
      rfl
    -- One that does leaves the rest to decide.
    have hgo : c.run = .ok () → c.Agrees → ComparesAscii cs →
        (runChecks (c :: cs) = .ok () ∧ ∀ c' ∈ c :: cs, c'.Agrees) ∨
          (∃ exc, runChecks (c :: cs) = .error exc ∧ exc.kind = .authorizationRefused) ∧
            ¬ ∀ c' ∈ c :: cs, c'.Agrees := by
      intro hrun hyes hcs
      have hstep : runChecks (c :: cs) = runChecks cs := by
        rw [runChecks, hrun]
        rfl
      rw [hstep]
      rcases ih hcs with ⟨hok, hall⟩ | ⟨herr, hno⟩
      · left
        refine ⟨hok, fun c' hc' => ?_⟩
        rcases List.mem_cons.mp hc' with rfl | hc'
        · exact hyes
        · exact hall c' hc'
      · exact Or.inr ⟨herr, fun hall => hno fun c' hc' => hall c' (by simp [hc'])⟩
    cases c with
    | absent issued refusal =>
      by_cases hnull : issued = .null
      · exact hgo (require_ok.mpr hnull) hnull (h hnull)
      · refine Or.inr (hstop (Exn.of .authorizationRefused refusal) ?_ rfl hnull)
        show require _ _ = _
        unfold require
        rw [if_neg hnull]
    | text issued expected refusal =>
      cases issued with
      | str s =>
        obtain ⟨hs, hexp, hrest⟩ := h s rfl
        have hrun : (EchoCheck.text (.str s) expected refusal).run =
            require ((s == expected) = true) (Exn.of .authorizationRefused refusal) := by
          show (compareDigest s expected >>= _) = _
          rw [compareDigest_ascii hs hexp]
          rfl
        by_cases heq : s = expected
        · refine hgo ?_ (by rw [heq]; rfl) (hrest heq)
          rw [hrun]
          exact require_ok.mpr (by simp [heq])
        · refine Or.inr (hstop (Exn.of .authorizationRefused refusal) ?_ rfl ?_)
          · rw [hrun]
            unfold require
            rw [if_neg (by simpa using heq)]
          · intro hagree
            exact heq (Json.str.inj hagree)
      | _ => exact Or.inr (hstop (Exn.of .authorizationRefused refusal) rfl rfl (by
          intro hagree
          cases hagree))

/-- A comparison that meets non-ASCII text raises a `TypeError`. -/
theorem runChecks_not_ascii {cs : List EchoCheck} (h : ¬ ComparesAscii cs) :
    ∃ exc, runChecks cs = .error exc ∧ exc.kind = .typeError := by
  induction cs with
  | nil => exact absurd trivial h
  | cons c cs ih =>
    cases c with
    | absent issued refusal =>
      obtain ⟨hnull, hcs⟩ : issued = .null ∧ ¬ ComparesAscii cs := by
        simpa [ComparesAscii, Classical.not_imp] using h
      obtain ⟨exc, hrun, hkind⟩ := ih hcs
      refine ⟨exc, ?_, hkind⟩
      rw [runChecks, show (EchoCheck.absent issued refusal).run = .ok () from
        require_ok.mpr hnull]
      exact hrun
    | text issued expected refusal =>
      cases issued with
      | str s =>
        by_cases hascii : isAscii s = true ∧ isAscii expected = true
        · -- The texts are ASCII, so they agree and a later comparison raises.
          obtain ⟨hs, hexp⟩ := hascii
          have hrest : s = expected ∧ ¬ ComparesAscii cs := by
            by_contra hno
            apply h
            intro t ht
            obtain rfl := Json.str.inj ht
            refine ⟨hs, hexp, fun heq => ?_⟩
            by_contra hcs
            exact hno ⟨heq, hcs⟩
          obtain ⟨exc, hrun, hkind⟩ := ih hrest.2
          refine ⟨exc, ?_, hkind⟩
          have hself : (EchoCheck.text (.str s) expected refusal).run = .ok () := by
            show (compareDigest s expected >>= _) = _
            rw [compareDigest_ascii hs hexp]
            exact require_ok.mpr (by simp [hrest.1])
          rw [runChecks, hself]
          exact hrun
        · refine ⟨Exn.of .typeError "comparing strings with non-ASCII characters is not supported",
            ?_, rfl⟩
          have hcmp : compareDigest s expected =
              .error (Exn.of .typeError
                "comparing strings with non-ASCII characters is not supported") := by
            unfold compareDigest
            rw [if_neg (by simpa using hascii)]
          rw [runChecks]
          show ((compareDigest s expected >>= _) >>= _) = _
          rw [hcmp]
          rfl
      | _ =>
        exfalso
        apply h
        intro s hs
        cases hs

/-- An echoing permit agrees with every comparison. -/
theorem agrees_of_echoes {sent : AuthorizeRequest} {authorization : Dict}
    (h : EchoesTexts sent authorization) : ∀ c ∈ echoChecks sent authorization, c.Agrees := by
  have hdigest : ∀ field expected, authorization.get field = optText expected →
      (digestCheck authorization field expected).Agrees := by
    intro field expected heq
    cases expected with
    | none => exact heq
    | some d => exact heq
  intro c hc
  simp only [echoChecks, List.mem_cons, List.not_mem_nil, or_false] at hc
  rcases hc with rfl | rfl | rfl | rfl | rfl | rfl | rfl | rfl | rfl | rfl
  · exact h.request_id
  · exact h.wire_digest
  · exact h.peer_digest
  · exact h.organisation_id
  · exact hdigest _ _ h.decision_receipt
  · exact hdigest _ _ h.authority_receipt
  · exact hdigest _ _ h.approval_artifact
  · exact hdigest _ _ h.state_snapshot
  · exact hdigest _ _ h.policy_bundle
  · exact hdigest _ _ h.obligations

theorem PreparedDispatch.dispatch_finite (p : PreparedDispatch) :
    Json.finite p.dispatch.json = true := by
  rw [Json.Dict.json, Json.finite, Json.finiteMembers_iff]
  intro m hm
  obtain ⟨s, hs⟩ := p.all_text m hm
  rw [hs]
  rfl

/-- A request without security events is finite JSON if its action is. -/
theorem PrivateVaultAuthorizationClient.buildRequest_finite
    {client : PrivateVaultAuthorizationClient} {action : ActionIntent} {planned : PlannedDispatch}
    {reference : String × String} (haction : Json.finite planned.action.json = true) :
    Json.finite (client.buildRequest action planned reference none).body.json = true := by
  have happroval :
      Json.finite (optText client.evidence_digests.approval_artifact_digest) = true := by
    cases client.evidence_digests.approval_artifact_digest <;> rfl
  have hdispatch := planned.prepared.dispatch_finite
  simp only [AuthorizeRequest.body, buildRequest]
  apply Json.Dict.finite_of
  simp only [List.forall_mem_cons, haction, happroval, hdispatch]
  simp [Json.finite]

/-- On ASCII texts an echoing permit is accepted exactly when the action sent
    equals itself, which fails only for a NaN. -/
theorem verifyBinding_echoes {client : PrivateVaultAuthorizationClient} {action : ActionIntent}
    {planned : PlannedDispatch} {reference : String × String} {events : Option (List Dict)}
    {authorization : Dict}
    (hascii : ComparesAscii
      (echoChecks (client.buildRequest action planned reference events) authorization))
    (h : Echoes (client.buildRequest action planned reference events) authorization) :
    verifyBinding (client.buildRequest action planned reference events) authorization = .ok () ↔
      planned.action.pyEq planned.action = true := by
  have hrun : runChecks
      (echoChecks (client.buildRequest action planned reference events) authorization) =
        .ok () := by
    rcases runChecks_ascii hascii with ⟨hok, -⟩ | ⟨-, hno⟩
    · exact hok
    · exact absurd (agrees_of_echoes h.toEchoesTexts) hno
  rw [verifyBinding_ok, h.length, h.max_uses, h.dispatch, h.action]
  constructor
  · exact fun hall => hall.2.2.2.2
  · intro hact
    exact ⟨hrun, Json.pyEq_refl (by simp [Json.finite]), Json.pyEq_refl (by simp [Json.finite]),
      Json.pyEq_refl planned.prepared.dispatch_finite, hact⟩

/-- On ASCII texts every failure of the comparisons is a refusal. -/
theorem verifyBinding_error {sent : AuthorizeRequest} {authorization : Dict} {exc : Exn}
    (hascii : ComparesAscii (echoChecks sent authorization))
    (h : verifyBinding sent authorization = .error exc) : exc.kind = .authorizationRefused := by
  unfold verifyBinding at h
  simp only [bind_error, require_error] at h
  rcases h with herr | ⟨_, -, ⟨-, rfl⟩ | ⟨_, -, ⟨-, rfl⟩ | ⟨_, -, ⟨-, rfl⟩ | ⟨_, -, -, rfl⟩⟩⟩⟩
  · rcases runChecks_ascii hascii with ⟨hok, -⟩ | ⟨⟨exc', herr', hkind⟩, -⟩
    · rw [hok] at herr
      cases herr
    · rw [herr'] at herr
      rw [← Except.error.inj herr]
      exact hkind
  all_goals rfl

/-- Every failure to read a response is of one of two classes. -/
theorem readResponse_error {response : Raises HttpJsonResponse} {exc : Exn}
    (h : readResponse response = .error exc) :
    exc.kind = .authorizationRefused ∨ exc.kind = .privateVaultProtocolError := by
  have hobject : ∀ {body : Dict} {key : String} {exc : Exn},
      requiredObject body key = .error exc → exc.kind = .privateVaultProtocolError := by
    intro body key exc h
    unfold requiredObject at h
    split at h
    · cases h
    · rw [← Except.error.inj h]
      rfl
  unfold readResponse at h
  cases response with
  | error e =>
    left
    rw [← Except.error.inj h]
    rfl
  | ok r =>
    simp only [bind_error, require_error] at h
    rcases h with ⟨-, rfl⟩ | ⟨_, -, herr | ⟨_, -, herr | ⟨_, -, herr | ⟨_, -, hpure⟩⟩⟩⟩
    · exact Or.inl rfl
    · exact Or.inr (hobject herr)
    · exact Or.inr (hobject herr)
    · right
      rw [requiredMember_error herr]
      rfl
    · exact absurd hpure pure_ne_error

/-- How `issue` fails after the request was built. -/
theorem PrivateVaultAuthorizationClient.issue_error {client : PrivateVaultAuthorizationClient}
    {action : ActionIntent} {decision : PrivateVaultDecision} {planned : PlannedDispatch}
    {sent : AuthorizeRequest} {exc : Exn}
    (hsent : client.request action decision planned = .ok sent) :
    client.issue action decision planned = .error exc ↔
      readResponse (client.transport client.path sent.body) = .error exc ∨
      ∃ granted, Grants (client.transport client.path sent.body) granted ∧
        verifyBinding sent granted.authorization = .error exc := by
  unfold PrivateVaultAuthorizationClient.issue
  rw [hsent, bind_error]
  constructor
  · rintro (h | ⟨sent', hs, h⟩)
    · cases h
    · obtain rfl := Except.ok.inj hs
      rcases bind_error.mp h with h | ⟨granted, hgranted, h⟩
      · exact Or.inl h
      · rw [deepCopy_eq, deepCopy_eq] at h
        rcases bind_error.mp h with h | ⟨_, -, h⟩
        · exact Or.inr ⟨granted, readResponse_ok.mp hgranted, h⟩
        · exact absurd h pure_ne_error
  · rintro (h | ⟨granted, hgranted, h⟩)
    · exact Or.inr ⟨sent, rfl, bind_error.mpr (Or.inl h)⟩
    · exact Or.inr ⟨sent, rfl, bind_error.mpr
        (Or.inr ⟨granted, readResponse_ok.mpr hgranted, bind_error.mpr (Or.inl h)⟩)⟩

/-- **`issue` is complete and its failures classified** if and only if no
    comparison it reaches meets non-ASCII text (and, where the permit echoes
    the request, the action sent holds no NaN). -/
theorem issue_complete_iff (client : PrivateVaultAuthorizationClient) (action : ActionIntent)
    (decision : PrivateVaultDecision) (planned : PlannedDispatch) {reference : String × String}
    {events : Option (List Dict)}
    (hdecision : sealedAllowReference decision action = .ok reference)
    (hplan : requireWireMatchesAction planned = .ok ())
    (hevents : client.securityEvents action decision planned = .ok events) :
    ((∀ granted,
        Grants (client.transport client.path
          (client.buildRequest action planned reference events).body) granted →
        Echoes (client.buildRequest action planned reference events) granted.authorization →
        ∃ issued, client.issue action decision planned = .ok issued) ∧
      (∀ exc, client.issue action decision planned = .error exc →
        exc.kind = .authorizationRefused ∨ exc.kind = .privateVaultProtocolError)) ↔
    (∀ granted,
        Grants (client.transport client.path
          (client.buildRequest action planned reference events).body) granted →
        ComparesAscii
          (echoChecks (client.buildRequest action planned reference events)
            granted.authorization) ∧
        (Echoes (client.buildRequest action planned reference events) granted.authorization →
          planned.action.pyEq planned.action = true)) := by
  have hsent : client.request action decision planned =
      .ok (client.buildRequest action planned reference events) :=
    PrivateVaultAuthorizationClient.request_ok.mpr
      ⟨reference, events, hdecision, hplan, hevents, rfl⟩
  constructor
  · rintro ⟨hcomplete, hclassified⟩ granted hgranted
    have hascii : ComparesAscii
        (echoChecks (client.buildRequest action planned reference events)
          granted.authorization) := by
      by_contra hno
      obtain ⟨exc, hrun, hkind⟩ := runChecks_not_ascii hno
      have hverify : verifyBinding (client.buildRequest action planned reference events)
          granted.authorization = .error exc := bind_error.mpr (Or.inl hrun)
      have hissue := (PrivateVaultAuthorizationClient.issue_error hsent).mpr
        (Or.inr ⟨granted, hgranted, hverify⟩)
      rcases hclassified exc hissue with h | h
      · rw [hkind] at h; cases h
      · rw [hkind] at h; cases h
    refine ⟨hascii, fun hecho => ?_⟩
    obtain ⟨issued, hissued⟩ := hcomplete granted hgranted hecho
    obtain ⟨sent', granted', hsent', hgranted', hverify, -⟩ :=
      PrivateVaultAuthorizationClient.issue_ok.mp hissued
    obtain rfl := Except.ok.inj (hsent.symm.trans hsent')
    obtain rfl := Except.ok.inj
      ((readResponse_ok.mpr hgranted).symm.trans (readResponse_ok.mpr hgranted'))
    exact (verifyBinding_echoes hascii hecho).mp hverify
  · intro h
    constructor
    · intro granted hgranted hecho
      obtain ⟨hascii, hself⟩ := h granted hgranted
      have hverify := (verifyBinding_echoes hascii hecho).mpr (hself hecho)
      exact ⟨_, PrivateVaultAuthorizationClient.issue_ok.mpr
        ⟨_, granted, hsent, hgranted, hverify, rfl⟩⟩
    · intro exc hexc
      rcases (PrivateVaultAuthorizationClient.issue_error hsent).mp hexc with
        hread | ⟨granted, hgranted, hverify⟩
      · exact readResponse_error hread
      · exact Or.inl (verifyBinding_error (h granted hgranted).1 hverify)

/-! ## Section 7: A server that echoes -/

/-- A mintable ALLOW record for `contactRead`. -/
def contactRecord : Dict :=
  Dict.of
    [("protocol_version", .str "drp/0.2"),
     ("action_digest", .str HttpDispatchPlanner.zeroDigest),
     ("dispatch_context_digest", .str HttpDispatchPlanner.zeroDigest),
     ("decision_id", .str "decision-1"),
     ("record_hash", .str HttpDispatchPlanner.zeroDigest),
     ("agent_id", .str "crm-agent"),
     ("capability", .str "crm.contact.read"),
     ("decision", .str "allow"),
     ("request_id", .str "request-1")]
    (by simp)

/-- An ALLOW decision with a record. -/
def allowDecision (record : Dict) : PrivateVaultDecision where
  verdict := .allow
  triggered_by := "policy"
  reason := "allowed"
  request_id := "request-1"
  record_json := Json.canonical record.json

theorem allowDecision_record (record : Dict) : (allowDecision record).record = .ok record :=
  PrivateVaultDecision.record_of_loads (Json.loadsBytes_canonical record)

/-- The permit that echoes a request, with the given usage count. -/
def echoAuthorization (body : Dict) (max_uses : Json) (h : Json.WF max_uses) : Dict :=
  (body.set "max_uses" max_uses h).set "execution_authorization_id" (.str "authorization-1")
    (Json.WF.str _)

/-- A server that grants what it is asked for, with the given usage count. -/
def echoTransport (max_uses : Json) (h : Json.WF max_uses) : JsonTransport := fun _ body =>
  .ok {
    status_code := 200
    body := Dict.of
      [("authorization", (echoAuthorization body max_uses h).json),
       ("trust_bundle", (Dict.of [("issuer", .str "authority")] (by simp)).json),
       ("at_time", .str "2026-01-01T00:00:00Z")]
      (by simp)
    status_code_range := by decide }

/-- A client of that server. -/
def echoClient (organisation_id : String) (h : nonBlank organisation_id = true)
    (max_uses : Json) (hwf : Json.WF max_uses) : PrivateVaultAuthorizationClient where
  transport := echoTransport max_uses hwf
  organisation_id := organisation_id
  evidence_digests := {
    authority_receipt_digest := HttpDispatchPlanner.zeroDigest
    state_snapshot_digest := HttpDispatchPlanner.zeroDigest
    policy_bundle_digest := HttpDispatchPlanner.zeroDigest
    obligations_digest := HttpDispatchPlanner.zeroDigest
    approval_artifact_digest := none
    authority_receipt_sha256 := HttpDispatchPlanner.zeroDigest_sha256
    state_snapshot_sha256 := HttpDispatchPlanner.zeroDigest_sha256
    policy_bundle_sha256 := HttpDispatchPlanner.zeroDigest_sha256
    obligations_sha256 := HttpDispatchPlanner.zeroDigest_sha256
    approval_artifact_sha256 := sha256Digest_none }
  organisation_id_text := h

/-- The reference of the sealed record. -/
def contactReference : String × String :=
  ("decision-1", "0000000000000000000000000000000000000000000000000000000000000000")

theorem contactDecision_sealed :
    sealedAllowReference (allowDecision contactRecord) ActionIntent.contactRead =
      .ok contactReference :=
  sealedAllowReference_ok.mpr ⟨rfl, rfl, contactRecord, allowDecision_record contactRecord,
    by decide +kernel, by decide +kernel, Or.inr (by decide +kernel)⟩

theorem contactPlan_dispatch (principal : String) :
    (HttpDispatchPlanner.contactPlan principal).prepared.dispatch =
      HttpDispatchPlanner.dispatchDocument ActionIntent.contactRead
        HttpDispatchPlanner.contactRoute :=
  Snapshot.restore_ofDict _

theorem contactPlan_wire (principal : String) :
    requireWireMatchesAction (HttpDispatchPlanner.contactPlan principal) = .ok () := by
  refine requireWireMatchesAction_ok.mpr
    ⟨?_, HttpDispatchPlanner.contactArguments, asObject_eq ?_, by decide +kernel, rfl⟩
  · rw [contactPlan_dispatch]
    simp [Json.Dict.get, HttpDispatchPlanner.dispatchDocument, Json.get?_cons,
      KNOWN_WIRE_SERIALIZATIONS]
  · simp [HttpDispatchPlanner.contactPlan, HttpDispatchPlanner.actionDocument, Json.get?_cons]

/-- The permit of the echoing server. -/
def echoGranted (sent : AuthorizeRequest) (max_uses : Json) (h : Json.WF max_uses) : Granted where
  authorization := echoAuthorization sent.body max_uses h
  trust_bundle := Dict.of [("issuer", .str "authority")] (by simp)
  at_time := "2026-01-01T00:00:00Z"

theorem echoTransport_grants (path : String) (sent : AuthorizeRequest) (max_uses : Json)
    (h : Json.WF max_uses) :
    Grants (echoTransport max_uses h path sent.body) (echoGranted sent max_uses h) := by
  refine ⟨_, rfl, rfl, ?_, ?_, ?_, ?_⟩
  · simp [Json.get?_cons, echoGranted]
  · simp [Json.get?_cons, echoGranted]
  · simp [Json.Dict.get, Json.get?_cons, echoGranted]
  · show nonBlank "2026-01-01T00:00:00Z" = true
    decide

theorem echoGranted_texts {sent : AuthorizeRequest} (hevents : sent.security_events = none)
    (max_uses : Json) (h : Json.WF max_uses) :
    EchoesTexts sent (echoGranted sent max_uses h).authorization := by
  constructor <;>
    simp [echoGranted, echoAuthorization, AuthorizeRequest.body, hevents, Json.Dict.get, Json.Dict.get?_set,
      Json.get?_cons]

theorem echoGranted_echoes (sent : AuthorizeRequest) (hevents : sent.security_events = none) :
    Echoes sent (echoGranted sent (.int 1) (by simp)).authorization where
  toEchoesTexts := echoGranted_texts hevents _ _
  length := by
    simp [echoGranted, echoAuthorization, AuthorizeRequest.body, hevents, Json.Dict.get, Json.Dict.get?_set,
      Json.get?_cons]
  max_uses := by
    simp [echoGranted, echoAuthorization, Json.Dict.get, Json.Dict.get?_set]
  dispatch := by
    simp [echoGranted, echoAuthorization, AuthorizeRequest.body, hevents, Json.Dict.get, Json.Dict.get?_set,
      Json.get?_cons]
  action := by
    simp [echoGranted, echoAuthorization, AuthorizeRequest.body, hevents, Json.Dict.get, Json.Dict.get?_set,
      Json.get?_cons]

/-- A digest is ASCII. -/
theorem isAscii_sha256Digest (b : ByteArray) : isAscii (sha256Digest b) = true := by
  have hdigit : ∀ d < 16, (Nat.digitChar d).toNat < 128 := by decide
  have hhex : ∀ w, (Sha256.hex8 w).all (fun c => c.toNat < 128) = true := by
    intro w
    simp only [Sha256.hex8, List.all_map, List.all_eq_true, Function.comp, decide_eq_true_eq]
    intro i _
    exact hdigit _ (Nat.mod_lt _ (by omega))
  have hextends : ("sha256:".toList).all (fun c => c.toNat < 128) = true := by decide
  simp only [isAscii, sha256Digest, Sha256.hexdigest, String.toList_append, String.toList_ofList,
    List.all_append, hhex, hextends, Bool.and_self]

/-- The texts expected of an echo are ASCII. -/
def EchoCheck.ExpectsAscii : EchoCheck → Prop
  | .absent _ _ => True
  | .text _ expected _ => isAscii expected = true

theorem comparesAscii_of_agrees {cs : List EchoCheck} (h : ∀ c ∈ cs, c.Agrees)
    (hascii : ∀ c ∈ cs, c.ExpectsAscii) : ComparesAscii cs := by
  induction cs with
  | nil => trivial
  | cons c cs ih =>
    have hcs := ih (fun c' hc' => h c' (by simp [hc'])) fun c' hc' => hascii c' (by simp [hc'])
    have hc := hascii c (by simp)
    have hagree := h c (by simp)
    cases c with
    | absent issued refusal => exact fun _ => hcs
    | text issued expected refusal =>
      intro s hs
      obtain rfl : s = expected := Json.str.inj (hs.symm.trans hagree)
      exact ⟨hc, hc, fun _ => hcs⟩

/-- The request of `contactRead` to a server that echoes it. -/
def contactRequest (client : PrivateVaultAuthorizationClient) : AuthorizeRequest :=
  client.buildRequest ActionIntent.contactRead (HttpDispatchPlanner.contactPlan "acme")
    contactReference none

theorem contactRequest_sent {organisation_id : String} (h : nonBlank organisation_id = true)
    (max_uses : Json) (hwf : Json.WF max_uses) :
    (echoClient organisation_id h max_uses hwf).request ActionIntent.contactRead
      (allowDecision contactRecord) (HttpDispatchPlanner.contactPlan "acme") =
        .ok (contactRequest (echoClient organisation_id h max_uses hwf)) :=
  PrivateVaultAuthorizationClient.request_ok.mpr
    ⟨contactReference, none, contactDecision_sealed, contactPlan_wire "acme", rfl, rfl⟩

/-- The comparisons with an echo, for an organisation with an ASCII name. -/
theorem contactRequest_ascii (max_uses : Json) (hwf : Json.WF max_uses)
    (m : Json) (hm : Json.WF m) :
    ComparesAscii (echoChecks (contactRequest (echoClient "acme" (by decide) max_uses hwf))
      (echoGranted (contactRequest (echoClient "acme" (by decide) max_uses hwf)) m
        hm).authorization) := by
  apply comparesAscii_of_agrees (agrees_of_echoes (echoGranted_texts rfl m hm))
  intro c hc
  simp only [echoChecks, List.mem_cons, List.not_mem_nil, or_false] at hc
  have hzero : isAscii HttpDispatchPlanner.zeroDigest = true := by decide +kernel
  have hhash : isAscii ("sha256:" ++ contactReference.2) = true := by decide +kernel
  have hrequest : isAscii "request-1" = true := by decide
  have hacme : isAscii "acme" = true := by decide
  rcases hc with rfl | rfl | rfl | rfl | rfl | rfl | rfl | rfl | rfl | rfl
  · exact hrequest
  · exact isAscii_sha256Digest _
  · exact isAscii_sha256Digest _
  · exact hacme
  · exact hhash
  · exact hzero
  · trivial
  · exact hzero
  · exact hzero
  · exact hzero

/-- The echo passes the comparisons if its usage count equals one. -/
theorem contactRequest_verifies (m : Json) (hm : Json.WF m) (hone : Json.pyEq m (.int 1) = true) :
    verifyBinding (contactRequest (echoClient "acme" (by decide) m hm))
      (echoGranted (contactRequest (echoClient "acme" (by decide) m hm)) m hm).authorization =
        .ok () := by
  have hget : ∀ k, k ≠ "max_uses" → k ≠ "execution_authorization_id" →
      (echoGranted (contactRequest (echoClient "acme" (by decide) m hm)) m
        hm).authorization.get k =
        (contactRequest (echoClient "acme" (by decide) m hm)).body.get k := by
    intro k hk hk'
    simp [echoGranted, echoAuthorization, Json.Dict.get, Json.Dict.get?_set, hk, hk']
  have hmax : (echoGranted (contactRequest (echoClient "acme" (by decide) m hm)) m
      hm).authorization.get "max_uses" = m := by
    simp [echoGranted, echoAuthorization, Json.Dict.get, Json.Dict.get?_set]
  have haction : Json.finite (HttpDispatchPlanner.contactPlan "acme").action.json = true := by
    decide +kernel
  have hchecks := contactRequest_ascii m hm m hm
  refine verifyBinding_ok.mpr ⟨?_, ?_, ?_, ?_, ?_⟩
  · rcases runChecks_ascii hchecks with ⟨hok, -⟩ | ⟨-, hno⟩
    · exact hok
    · exact absurd (agrees_of_echoes (echoGranted_texts rfl m hm)) hno
  · rw [hget _ (by decide) (by decide)]
    simp [AuthorizeRequest.body, contactRequest, PrivateVaultAuthorizationClient.buildRequest,
      Json.Dict.get, Json.get?_cons]
    exact Json.pyEq_refl (by simp [Json.finite])
  · rw [hmax]
    exact hone
  · rw [hget _ (by decide) (by decide)]
    simp [AuthorizeRequest.body, contactRequest, PrivateVaultAuthorizationClient.buildRequest,
      Json.Dict.get, Json.get?_cons, Json.pyEq_refl, PreparedDispatch.dispatch_finite]
  · rw [hget _ (by decide) (by decide)]
    simp [AuthorizeRequest.body, contactRequest, PrivateVaultAuthorizationClient.buildRequest,
      Json.Dict.get, Json.get?_cons, Json.pyEq_refl, haction]

/-- An exact echo for an organisation with a non-ASCII name is not accepted. -/
theorem issue_rejects_non_ascii_echo :
    ¬ ∀ granted,
      Grants ((echoClient "société" (by decide) (.int 1) (.int 1)).transport "/v1/authorize"
        (contactRequest (echoClient "société" (by decide) (.int 1) (.int 1))).body) granted →
      Echoes (contactRequest (echoClient "société" (by decide) (.int 1) (.int 1)))
        granted.authorization →
      ∃ issued, (echoClient "société" (by decide) (.int 1) (.int 1)).issue
        ActionIntent.contactRead (allowDecision contactRecord)
        (HttpDispatchPlanner.contactPlan "acme") = .ok issued := by
  intro h
  have hgrants := echoTransport_grants "/v1/authorize"
    (contactRequest (echoClient "société" (by decide) (.int 1) (.int 1))) (.int 1) (.int 1)
  have hechoes := echoGranted_echoes
    (contactRequest (echoClient "société" (by decide) (.int 1) (.int 1))) rfl
  obtain ⟨issued, hissued⟩ := h _ hgrants hechoes
  obtain ⟨sent, granted, hsent, hgranted, hverify, -⟩ :=
    PrivateVaultAuthorizationClient.issue_ok.mp hissued
  obtain rfl := Except.ok.inj ((contactRequest_sent _ _ _).symm.trans hsent)
  obtain rfl := Except.ok.inj
    ((readResponse_ok.mpr hgrants).symm.trans (readResponse_ok.mpr hgranted))
  -- The three comparisons before the organisation agree.
  have hascii : ¬ ComparesAscii (echoChecks
      (contactRequest (echoClient "société" (by decide) (.int 1) (.int 1)))
      (echoGranted (contactRequest (echoClient "société" (by decide) (.int 1) (.int 1))) (.int 1)
        (.int 1)).authorization) := by
    intro hall
    have h2 := (hall _ hechoes.request_id).2.2 rfl
    have h3 := (h2 _ hechoes.wire_digest).2.2 rfl
    have h4 := (h3 _ hechoes.peer_digest).2.2 rfl
    have h5 := (h4 _ hechoes.organisation_id).1
    revert h5
    show isAscii "société" = true → False
    decide
  obtain ⟨exc, hrun, -⟩ := runChecks_not_ascii hascii
  have hok := (verifyBinding_ok.mp hverify).1
  rw [hrun] at hok
  cases hok

/-- For an ASCII name the echo is accepted. -/
theorem issue_complete_iff_acme :
    ∃ issued, (echoClient "acme" (by decide) (.int 1) (.int 1)).issue ActionIntent.contactRead
      (allowDecision contactRecord) (HttpDispatchPlanner.contactPlan "acme") = .ok issued := by
  have hgrants := echoTransport_grants "/v1/authorize"
    (contactRequest (echoClient "acme" (by decide) (.int 1) (.int 1))) (.int 1) (.int 1)
  have hechoes := echoGranted_echoes
    (contactRequest (echoClient "acme" (by decide) (.int 1) (.int 1))) rfl
  have haction : Json.finite (HttpDispatchPlanner.contactPlan "acme").action.json = true := by
    decide +kernel
  refine ((issue_complete_iff (echoClient "acme" (by decide) (.int 1) (.int 1))
    ActionIntent.contactRead (allowDecision contactRecord)
    (HttpDispatchPlanner.contactPlan "acme") contactDecision_sealed (contactPlan_wire "acme")
    rfl).mpr ?_).1 _ hgrants hechoes
  intro granted hgranted
  obtain rfl := Except.ok.inj
    ((readResponse_ok.mpr hgrants).symm.trans (readResponse_ok.mpr hgranted))
  exact ⟨contactRequest_ascii (.int 1) (.int 1) (.int 1) (.int 1),
    fun _ => Json.pyEq_refl haction⟩

end CBrain

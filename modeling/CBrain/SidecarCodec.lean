import CBrain.WirePath

/-! # The codecs of the sidecar

    What the agent encodes, the sidecar decodes from its JSON, and what the
    sidecar encodes, the transport decodes from its JSON
    (`cbrain/execution/sidecar.py`).  A request is read back whatever is in
    it.  A response is read back exactly if the decoder's checks hold of it:
    the encoder makes none of them. -/

namespace CBrain

open Effect
open Effect.Fallible (Succeeds)
open Json (Dict)

/-! ## Section 1: Requests -/

/-- The dispatch, captured from its own fields. -/
def PreparedDispatch.recaptured (p : PreparedDispatch) : PreparedDispatch :=
  { p with
    dispatch_json := Snapshot.ofDict p.dispatch
    dispatch_valid := by
      rw [Snapshot.restore_ofDict]
      exact p.dispatch_valid }

namespace ExecutionAuthorizationBinding

/-- The binding, captured from its own fields. -/
def recaptured (b : ExecutionAuthorizationBinding) : ExecutionAuthorizationBinding :=
  { b with
    prepared_dispatch := b.prepared_dispatch.recaptured
    action_json := Snapshot.ofDict b.action
    request_id_matches := b.request_id_matches }

/-- `capture` made the binding, and its dispatch. -/
def Captured (b : ExecutionAuthorizationBinding) : Prop :=
  (∃ request_id dispatch wire_bytes peer_identity_bytes,
    PreparedDispatch.capture request_id dispatch wire_bytes peer_identity_bytes =
      .ok b.prepared_dispatch) ∧
  ∃ request_id action prepared decision authority approval state policy obligations at_time,
    capture request_id action prepared decision authority approval state policy obligations
      at_time = .ok b

/-- The two bindings hold the same; their snapshots may be written otherwise. -/
structure Same (b b' : ExecutionAuthorizationBinding) : Prop where
  request_id : b.request_id = b'.request_id
  action : b.action = b'.action
  dispatch_request_id : b.prepared_dispatch.request_id = b'.prepared_dispatch.request_id
  dispatch : b.prepared_dispatch.dispatch = b'.prepared_dispatch.dispatch
  wire_bytes : b.prepared_dispatch.wire_bytes = b'.prepared_dispatch.wire_bytes
  peer_identity_bytes :
    b.prepared_dispatch.peer_identity_bytes = b'.prepared_dispatch.peer_identity_bytes
  decision_receipt_digest : b.decision_receipt_digest = b'.decision_receipt_digest
  authority_receipt_digest : b.authority_receipt_digest = b'.authority_receipt_digest
  approval_artifact_digest : b.approval_artifact_digest = b'.approval_artifact_digest
  state_snapshot_digest : b.state_snapshot_digest = b'.state_snapshot_digest
  policy_bundle_digest : b.policy_bundle_digest = b'.policy_bundle_digest
  obligations_digest : b.obligations_digest = b'.obligations_digest
  at_time : b.at_time = b'.at_time

theorem recaptured_same (b : ExecutionAuthorizationBinding) : b.recaptured.Same b where
  request_id := rfl
  action := Snapshot.restore_ofDict b.action
  dispatch_request_id := rfl
  dispatch := Snapshot.restore_ofDict b.prepared_dispatch.dispatch
  wire_bytes := rfl
  peer_identity_bytes := rfl
  decision_receipt_digest := rfl
  authority_receipt_digest := rfl
  approval_artifact_digest := rfl
  state_snapshot_digest := rfl
  policy_bundle_digest := rfl
  obligations_digest := rfl
  at_time := rfl

/-- Capturing again changes nothing. -/
theorem Captured.recaptured_eq {b : ExecutionAuthorizationBinding} (h : b.Captured) :
    b.recaptured = b := by
  obtain ⟨⟨_, dispatch, _, _, hdispatch⟩, _, action, _, _, _, _, _, _, _, _, haction⟩ := h
  -- The snapshots are canonical already, and nothing else is changed.
  have hrewritten : ∀ (p : PreparedDispatch) (s : Snapshot) (hid), p = b.prepared_dispatch →
      s = b.action_json →
      ({ b with prepared_dispatch := p, action_json := s, request_id_matches := hid } :
        ExecutionAuthorizationBinding) = b := by
    rintro _ _ _ rfl rfl
    rfl
  have hdispatched : ∀ (p : PreparedDispatch) (s : Snapshot) (hvalid), s = p.dispatch_json →
      ({ p with dispatch_json := s, dispatch_valid := hvalid } : PreparedDispatch) = p := by
    rintro p _ _ rfl
    rfl
  apply hrewritten
  · apply hdispatched
    rw [PreparedDispatch.dispatch, (PreparedDispatch.capture_ok hdispatch).2.1,
      Snapshot.restore_ofDict]
  · rw [ExecutionAuthorizationBinding.action, (capture_ok haction).2.2.1, Snapshot.restore_ofDict]

end ExecutionAuthorizationBinding

section requests
variable {authorization trust_bundle : Dict} {b : ExecutionAuthorizationBinding}
  {witness_id : String} {attempt : Int}

/-- A request holds what its binding holds, however it is written. -/
theorem encodeRequest_recaptured :
    encodeRequest authorization trust_bundle b.recaptured witness_id attempt =
      encodeRequest authorization trust_bundle b witness_id attempt := by
  have haction : b.recaptured.action = b.action := Snapshot.restore_ofDict b.action
  have hprepared : encodePrepared b.recaptured.prepared_dispatch =
      encodePrepared b.prepared_dispatch := by
    have hdispatch : b.recaptured.prepared_dispatch.dispatch = b.prepared_dispatch.dispatch :=
      Snapshot.restore_ofDict b.prepared_dispatch.dispatch
    unfold encodePrepared
    simp only [hdispatch]
    rfl
  unfold encodeRequest
  simp only [haction, hprepared]
  rfl

theorem finite_member {d : Dict} {key : String} {v : Json} (h : Json.finite d.json = true)
    (hget : d.get? key = some v) : Json.finite v = true := by
  rw [Dict.json, Json.finite, Json.finiteMembers_iff] at h
  exact h (key, v) (Json.mem_of_get? hget)

/-- A request has a JSON text exactly if what it was given is finite. -/
theorem finite_encodeRequest :
    Json.finite (encodeRequest authorization trust_bundle b witness_id attempt).json = true ↔
      Json.finite authorization.json = true ∧ Json.finite trust_bundle.json = true ∧
        Json.finite b.action.json = true := by
  constructor
  · intro h
    refine ⟨@finite_member _ "authorization" _ h ?_, @finite_member _ "trust_bundle" _ h ?_,
      @finite_member _ "action" _ h ?_⟩
    · simp [encodeRequest, Json.get?_cons]
    · simp [encodeRequest, Json.get?_cons]
    · simp [encodeRequest, Json.get?_cons]
  · rintro ⟨hauthorization, htrust, haction⟩
    have hprepared : Json.finite (encodePrepared b.prepared_dispatch).json = true := by
      apply Dict.finite_of
      simp [Json.finite, b.prepared_dispatch.dispatch_finite]
    have hbinding : Json.finite (encodeBinding b).json = true := by
      apply Dict.finite_of
      cases b.approval_artifact_digest <;> simp [Json.finite, optText]
    have hwitness : Json.finite (encodeWitness witness_id attempt).json = true := by
      apply Dict.finite_of
      simp [Json.finite]
    apply Dict.finite_of
    simp [Json.finite, hauthorization, htrust, haction, hprepared, hbinding, hwitness]

end requests

theorem canonicalJson_ok {d : Dict} {bytes : ByteArray} :
    canonicalJson d = .ok bytes ↔ Json.finite d.json = true ∧ bytes = Json.canonical d.json := by
  unfold canonicalJson
  by_cases h : Json.finite d.json = true
  · rw [if_pos h, Except.ok.injEq, @eq_comm _ bytes]
    exact (and_iff_right h).symm
  · rw [if_neg h]
    simp [h]

/-- **Round trip of the request**, over its JSON: there is one if what goes in
    is finite, and the same comes out. -/
theorem request_round_trip (authorization trust_bundle : Dict) (b : ExecutionAuthorizationBinding)
    {witness_id : String} {attempt : Int} (hwitness : nonBlank witness_id = true)
    (hattempt : 1 ≤ attempt) :
    ((∃ bytes, canonicalJson (encodeRequest authorization trust_bundle b witness_id attempt) =
        .ok bytes) ↔
      Json.finite authorization.json = true ∧ Json.finite trust_bundle.json = true ∧
        Json.finite b.action.json = true) ∧
    ∀ bytes, canonicalJson (encodeRequest authorization trust_bundle b witness_id attempt) =
        .ok bytes →
      ∃ payload envelope, Json.loadsBytes bytes = some payload.json ∧
        decodeRequest payload = .ok envelope ∧
        envelope.authorization = authorization ∧ envelope.trust_bundle = trust_bundle ∧
        envelope.binding.Same b ∧ (b.Captured → envelope.binding = b) ∧
        envelope.witness_id = witness_id ∧ envelope.attempt = attempt := by
  constructor
  · rw [← @finite_encodeRequest authorization trust_bundle b witness_id attempt]
    constructor
    · rintro ⟨bytes, hbytes⟩
      exact (canonicalJson_ok.mp hbytes).1
    · intro hfinite
      exact ⟨_, canonicalJson_ok.mpr ⟨hfinite, rfl⟩⟩
  · intro bytes hbytes
    obtain ⟨hfinite, rfl⟩ := canonicalJson_ok.mp hbytes
    obtain ⟨-, -, haction⟩ := finite_encodeRequest.mp hfinite
    refine ⟨_, ⟨authorization, trust_bundle, b.recaptured, witness_id, attempt⟩,
      Json.loadsBytes_canonical _, ?_, rfl, rfl, b.recaptured_same,
      fun hcaptured => hcaptured.recaptured_eq, rfl, rfl⟩
    rw [← encodeRequest_recaptured]
    exact decodeRequest_encodeRequest rfl b.prepared_dispatch.dispatch_finite rfl haction hwitness
      hattempt

/-- What the permit of `contactRead` is sent with is read back. -/
theorem request_round_trip_contactRead :
    ∃ payload envelope,
      Json.loadsBytes (Json.canonical contactPayload.json) = some payload.json ∧
        decodeRequest payload = .ok envelope ∧ envelope.binding = contactBinding := by
  have hcaptured : contactBinding.Captured :=
    ⟨⟨_, _, _, _, contactBinding.prepared_dispatch.capture_self
        (show contactBinding.prepared_dispatch.dispatch_json = Snapshot.ofDict
          (HttpDispatchPlanner.dispatchDocument ActionIntent.contactRead
            HttpDispatchPlanner.contactRoute) from rfl) (by decide +kernel)⟩,
      _, _, _, _, _, _, _, _, _, _, contactBinding.capture_self rfl contactPlan_action_finite⟩
  obtain ⟨payload, envelope, hloads, hdecode, -, -, -, hsame, -⟩ :=
    (request_round_trip contactIssued.authorization contactIssued.trust_bundle contactBinding
      (show nonBlank "witness-1" = true by decide) (show (1 : Int) ≤ 1 by decide)).2 _
      (canonicalJson_ok.mpr ⟨contactPayload_finite, rfl⟩)
  exact ⟨payload, envelope, hloads, hdecode, hsame hcaptured⟩

/-! ## Section 2: Responses -/

/-- `_canonical_json` of a response.  The keys of a dictionary are sorted in
    the text, so that its normal form is what is written. -/
def responseBytes (response : SidecarResponse) : Raises ByteArray :=
  match response.output with
  | .json j | .coerced j =>
    canonicalJson (response.fields.set "output" (Json.normalize j) (Json.wf_normalize j))
  | .foreign _ => .error (Exn.of .sidecarProtocolError "sidecar payload is not finite JSON")

/-- The transport receives the response as JSON, and decodes it. -/
def Receives (response : SidecarResponse) (expected_request_id : String)
    (received : DispatchResult) : Prop :=
  ∃ bytes payload, responseBytes response = .ok bytes ∧
    Json.loadsBytes bytes = some payload.json ∧
    decodeResponse ⟨payload, .json (payload.get "output")⟩ expected_request_id = .ok received

/-- What a result has to be for its response to be read back. -/
structure DispatchResult.Readable (result : DispatchResult) : Prop where
  response_bytes : result.response_bytes.size ≠ 0
  dispatch_outcome : nonBlank result.dispatch_outcome = true
  response_status : nonBlank result.response_status = true
  effect_state : nonBlank result.effect_state = true
  witness : ∀ witness, result.witness = some witness → Json.finite witness.json = true
  closure : ∀ closure, result.closure = some closure → Json.finite closure.json = true
  output : result.output.encodable = true

section responses
variable {result received : DispatchResult} {witness closure : Dict} {request_id : String}

/-- The members of the response to a result, but for the output. -/
def successFields (request_id : String) (result : DispatchResult) (witness closure : Dict) : Dict :=
  Dict.of
    [("schema", .str SIDECAR_RESPONSE_SCHEMA),
     ("status", .str "EXECUTED"),
     ("phase", .str "CLOSED"),
     ("request_id", .str request_id),
     ("witness", witness.json),
     ("closure", closure.json),
     ("dispatch_outcome", .str result.dispatch_outcome),
     ("response_status", .str result.response_status),
     ("response_bytes", .str (Base64.encode result.response_bytes)),
     ("effect_state", .str result.effect_state)]
    (by simp)

theorem encodeSuccess_eq (hwitness : result.witness = some witness)
    (hclosure : result.closure = some closure) :
    encodeSuccess request_id result =
      .ok ⟨successFields request_id result witness closure, result.output⟩ := by
  unfold encodeSuccess
  rw [hwitness, hclosure]
  rfl

theorem finite_successFields :
    Json.finite (successFields request_id result witness closure).json = true ↔
      Json.finite witness.json = true ∧ Json.finite closure.json = true := by
  constructor
  · intro h
    refine ⟨@finite_member _ "witness" _ h ?_, @finite_member _ "closure" _ h ?_⟩
    · simp [successFields, Json.get?_cons]
    · simp [successFields, Json.get?_cons]
  · rintro ⟨hwitness, hclosure⟩
    apply Dict.finite_of
    simp [Json.finite, hwitness, hclosure]

/-- What arrives of an encodable response. -/
theorem responseBytes_ok {response : SidecarResponse} (h : response.encodable = true) :
    ∃ bytes output, ∃ hwf : Json.WF output, responseBytes response = .ok bytes ∧
      Json.loadsBytes bytes = some (response.fields.set "output" output hwf).json := by
  obtain ⟨fields, output⟩ := response
  simp only [SidecarResponse.encodable, Bool.and_eq_true] at h
  obtain ⟨hfields, houtput⟩ := h
  have hwritten : ∀ j, Json.finite j = true →
      canonicalJson (fields.set "output" (Json.normalize j) (Json.wf_normalize j)) =
        .ok (Json.canonical (fields.set "output" (Json.normalize j) (Json.wf_normalize j)).json) := by
    intro j hj
    exact canonicalJson_ok.mpr
      ⟨Json.Dict.finite_set _ hfields (Json.finite_normalize j hj), rfl⟩
  cases output with
  | json j =>
    exact ⟨_, _, Json.wf_normalize j, hwritten j houtput, Json.loadsBytes_canonical _⟩
  | coerced j =>
    exact ⟨_, _, Json.wf_normalize j, hwritten j houtput, Json.loadsBytes_canonical _⟩
  | foreign j => cases houtput

/-- `_unb64` takes what `_b64` writes, unless it is empty. -/
theorem unb64_encode_ok {b decoded : ByteArray} {path : String} :
    unb64 (.str (Base64.encode b)) path = .ok decoded ↔ b.size ≠ 0 ∧ decoded = b := by
  by_cases h : b.size = 0
  · have hempty : Base64.encode b = "" := by
      obtain rfl : b = ByteArray.empty := ByteArray.ext (Array.eq_empty_of_size_eq_zero h)
      rfl
    unfold unb64
    simp [hempty, h]
  · rw [unb64_encode path h, Except.ok.injEq, @eq_comm _ b]
    exact (and_iff_right h).symm

/-- What the transport makes of the response to a result. -/
theorem decodeResponse_success {d : Dict} {output : PyVal}
    (hd : ∀ key, key ≠ "output" →
      d.get? key = (successFields request_id result witness closure).get? key)
    (hid : nonBlank request_id = true) :
    decodeResponse ⟨d, output⟩ request_id = .ok received ↔
      result.response_bytes.size ≠ 0 ∧ nonBlank result.dispatch_outcome = true ∧
        nonBlank result.response_status = true ∧ nonBlank result.effect_state = true ∧
        received =
          { result with witness := some witness, closure := some closure, output := output } := by
  have htext : ∀ key s, key ≠ "output" →
      (successFields request_id result witness closure).get? key = some (.str s) →
      ∀ t, sidecarText d key = .ok t ↔ nonBlank s = true ∧ t = s := by
    intro key s hkey hget t
    have hdget : d.get key = .str s := by
      unfold Dict.get
      rw [hd key hkey, hget]
      rfl
    rw [sidecarText_ok, hdget]
    constructor
    · rintro ⟨hs, ht⟩
      obtain rfl := Json.str.inj hs
      exact ⟨ht, rfl⟩
    · rintro ⟨hs, rfl⟩
      exact ⟨rfl, hs⟩
  have hobject : ∀ key (e : Dict), key ≠ "output" →
      (successFields request_id result witness closure).get? key = some e.json →
      asObject d key = some e := by
    intro key e hkey hget
    exact asObject_eq ((hd key hkey).trans hget)
  have hschema : d.get "schema" = .str SIDECAR_RESPONSE_SCHEMA := by
    unfold Dict.get
    rw [hd "schema" (by decide)]
    simp [successFields, Json.get?_cons]
  have hbytes : d.get "response_bytes" = .str (Base64.encode result.response_bytes) := by
    unfold Dict.get
    rw [hd "response_bytes" (by decide)]
    simp [successFields, Json.get?_cons]
  unfold decodeResponse decodeExecuted
  simp only [bind_ok, require_ok, requiredMapping_ok, hschema, hbytes, unb64_encode_ok,
    htext "request_id" request_id (by decide) (by simp [successFields, Json.get?_cons]),
    htext "status" "EXECUTED" (by decide) (by simp [successFields, Json.get?_cons]),
    htext "phase" "CLOSED" (by decide) (by simp [successFields, Json.get?_cons]),
    htext "dispatch_outcome" result.dispatch_outcome (by decide)
      (by simp [successFields, Json.get?_cons]),
    htext "response_status" result.response_status (by decide)
      (by simp [successFields, Json.get?_cons]),
    htext "effect_state" result.effect_state (by decide)
      (by simp [successFields, Json.get?_cons]),
    hobject "witness" witness (by decide) (by simp [successFields, Json.get?_cons]),
    hobject "closure" closure (by decide) (by simp [successFields, Json.get?_cons])]
  constructor
  · rintro ⟨_, -, _, ⟨-, rfl⟩, _, -, _, ⟨-, rfl⟩, _, ⟨-, rfl⟩, _, -, _, -, _, hw, _, hc, _,
      ⟨houtcome, rfl⟩, _, ⟨hstatus, rfl⟩, _, ⟨hsize, rfl⟩, _, ⟨heffect, rfl⟩, hreceived⟩
    obtain rfl := Option.some.inj hw
    obtain rfl := Option.some.inj hc
    exact ⟨hsize, houtcome, hstatus, heffect, (pure_ok.mp hreceived).symm⟩
  · rintro ⟨hsize, houtcome, hstatus, heffect, rfl⟩
    exact ⟨(), trivial, _, ⟨hid, rfl⟩, (), rfl, _, ⟨by decide, rfl⟩, _, ⟨by decide, rfl⟩, (),
      by decide, (), ⟨rfl, rfl⟩, _, rfl, _, rfl, _, ⟨houtcome, rfl⟩, _, ⟨hstatus, rfl⟩, _,
      ⟨hsize, rfl⟩, _, ⟨heffect, rfl⟩, rfl⟩

/-- What is received of an encodable response. -/
theorem receives_iff {response : SidecarResponse} (h : response.encodable = true) :
    ∃ payload : Dict, (∀ key, key ≠ "output" → payload.get? key = response.fields.get? key) ∧
      ∀ received, Receives response request_id received ↔
        decodeResponse ⟨payload, .json (payload.get "output")⟩ request_id = .ok received := by
  obtain ⟨bytes, output, hwf, hbytes, hloads⟩ := responseBytes_ok h
  refine ⟨response.fields.set "output" output hwf, ?_, ?_⟩
  · intro key hkey
    rw [Json.Dict.get?_set, if_neg hkey]
  · intro received
    constructor
    · rintro ⟨bytes', payload', hbytes', hloads', hdecode⟩
      obtain rfl := Except.ok.inj (hbytes.symm.trans hbytes')
      have hsame := Json.Dict.json_inj.mp (Option.some.inj (hloads.symm.trans hloads'))
      rw [hsame]
      exact hdecode
    · intro hdecode
      exact ⟨bytes, _, hbytes, hloads, hdecode⟩

/-- Of a failure, no result is received. -/
theorem not_receives_failure {status phase reason : String} {id : String}
    (hstatus : status ≠ "EXECUTED") :
    ¬ Receives (failureResponse status phase id reason) request_id received := by
  have hencodable : (failureResponse status phase id reason).encodable = true := by
    have hfinite : Json.finite (failureResponse status phase id reason).fields.json = true := by
      refine Dict.finite_of (h := by simp) ?_
      simp [Json.finite]
    unfold SidecarResponse.encodable
    rw [hfinite]
    rfl
  obtain ⟨payload, hpayload, hreceives⟩ := @receives_iff request_id _ hencodable
  rw [hreceives]
  intro hdecode
  have hexecuted : payload.get "status" = .str "EXECUTED" := decodeResponse_ok hdecode
  have hgiven : payload.get "status" = .str status := by
    unfold Dict.get
    rw [hpayload "status" (by decide)]
    exact SidecarDispatchService.failureResponse_status status phase id reason
  rw [hgiven] at hexecuted
  exact hstatus (Json.str.inj hexecuted)

end responses

/-- What `_dispatch` returns after the send has a witness and a closure. -/
theorem SidecarDispatchService.transmit_result {service : SidecarDispatchService}
    {envelope : SidecarEnvelope} {route : OpenRoute} {observed_at : String}
    {log : List PortEvent} {result : DispatchResult}
    (h : Succeeds (service.transmit envelope route observed_at) log result) :
    ∃ witness closure, result.witness = some witness ∧ result.closure = some closure := by
  unfold transmit at h
  obtain ⟨_, response, _, -, h, -⟩ := h.of_bind
  unfold witnessAndClose at h
  simp only at h
  split at h
  · cases h
  · obtain ⟨_, signed, _, -, h, -⟩ := h.of_bind
    obtain ⟨_, witness, _, -, h, -⟩ := h.of_bind
    obtain ⟨_, digest, _, -, h, -⟩ := h.of_bind
    obtain ⟨_, sealed, _, -, h, -⟩ := h.of_bind
    obtain ⟨_, closure, _, -, h, -⟩ := h.of_bind
    cases h
    exact ⟨witness, closure, rfl, rfl⟩

/-- What is received of the response to a result that was dispatched. -/
theorem receives_respond {service : SidecarDispatchService} {envelope : SidecarEnvelope}
    {route : SidecarDispatchService.OpenRoute} {observed_at : String} {log : List PortEvent}
    {result : DispatchResult}
    (hproduced : Succeeds (service.transmit envelope route observed_at) log result)
    (payload : Dict) :
    ∃ output, ∀ received,
      Receives (SidecarDispatchService.respond payload envelope (.ok result))
          envelope.binding.request_id received ↔
        result.Readable ∧ received = { result with output := output } := by
  obtain ⟨witness, closure, hwitness, hclosure⟩ :=
    SidecarDispatchService.transmit_result hproduced
  have hid : nonBlank envelope.binding.request_id = true := by
    rw [envelope.binding.request_id_matches]
    exact envelope.binding.prepared_dispatch.request_id_text
  generalize hresponse : (⟨successFields envelope.binding.request_id result witness closure,
    result.output⟩ : SidecarResponse) = response
  have hrespond : SidecarDispatchService.respond payload envelope (.ok result) =
      if response.encodable then response
      else failureResponse "INDETERMINATE" "POST_DISPATCH" (possibleRequestId payload)
        "response_unavailable:SidecarProtocolError" := by
    unfold SidecarDispatchService.respond
    simp only [encodeSuccess_eq hwitness hclosure, hresponse]
  have hencodable : response.encodable = true ↔
      (Json.finite witness.json = true ∧ Json.finite closure.json = true) ∧
        result.output.encodable = true := by
    rw [← hresponse]
    unfold SidecarResponse.encodable
    rw [Bool.and_eq_true, finite_successFields]
  rw [hrespond]
  by_cases henc : response.encodable = true
  · rw [if_pos henc]
    obtain ⟨delivered, hdelivered, hreceives⟩ :=
      @receives_iff envelope.binding.request_id _ henc
    have hfields : ∀ key, key ≠ "output" → delivered.get? key =
        (successFields envelope.binding.request_id result witness closure).get? key := by
      intro key hkey
      rw [hdelivered key hkey, ← hresponse]
    obtain ⟨⟨hw, hc⟩, houtput⟩ := hencodable.mp henc
    refine ⟨.json (delivered.get "output"), ?_⟩
    intro received
    have hsame : ({ result with
          witness := some witness
          closure := some closure
          output := .json (delivered.get "output") } : DispatchResult) =
        { result with output := .json (delivered.get "output") } := by
      rw [← hwitness, ← hclosure]
    rw [hreceives, decodeResponse_success hfields hid, hsame]
    constructor
    · rintro ⟨hsize, houtcome, hstatus, heffect, rfl⟩
      refine ⟨⟨hsize, houtcome, hstatus, heffect, ?_, ?_, houtput⟩, rfl⟩
      · intro other hother
        obtain rfl := Option.some.inj (hwitness.symm.trans hother)
        exact hw
      · intro other hother
        obtain rfl := Option.some.inj (hclosure.symm.trans hother)
        exact hc
    · rintro ⟨h, rfl⟩
      exact ⟨h.response_bytes, h.dispatch_outcome, h.response_status, h.effect_state, rfl⟩
  · -- The sidecar says itself that the response is unavailable.
    rw [if_neg henc]
    refine ⟨result.output, fun received => iff_of_false (not_receives_failure (by decide)) ?_⟩
    rintro ⟨h, -⟩
    exact henc (hencodable.mpr ⟨⟨h.witness _ hwitness, h.closure _ hclosure⟩, h.output⟩)

/-- **Round trip of the response**, over its JSON: what the sidecar dispatched
    is read back exactly if it is readable. -/
theorem response_round_trip_iff {service : SidecarDispatchService} {envelope : SidecarEnvelope}
    {route : SidecarDispatchService.OpenRoute} {observed_at : String} {log : List PortEvent}
    {result : DispatchResult}
    (hproduced : Succeeds (service.transmit envelope route observed_at) log result)
    (payload : Dict) :
    (∃ received,
      Receives (SidecarDispatchService.respond payload envelope (.ok result))
          envelope.binding.request_id received ∧
        received.response_status = result.response_status ∧
        received.response_bytes = result.response_bytes ∧
        received.witness = result.witness ∧ received.closure = result.closure) ↔
      result.Readable := by
  obtain ⟨output, hreceives⟩ := receives_respond hproduced payload
  constructor
  · rintro ⟨received, hreceived, -⟩
    exact ((hreceives received).mp hreceived).1
  · intro hreadable
    exact ⟨_, (hreceives _).mpr ⟨hreadable, rfl⟩, rfl, rfl, rfl, rfl⟩

/-- The run of `contactRead`, but for a target that answers these bytes. -/
def contactAnswered (response_bytes : ByteArray) : SidecarDispatchService.Cooperation :=
  { contactCooperation with
    response := { contactCooperation.response with response_bytes := some response_bytes }
    response_bytes := response_bytes }

theorem contactAnswered_produced (response_bytes : ByteArray) :
    Succeeds
      (contactSidecar.transmit contactEnvelope
        ((contactAnswered response_bytes).route contactEnvelope)
        (contactAnswered response_bytes).use.claimed_at)
      ((contactAnswered response_bytes).sendEvents contactSidecar contactEnvelope)
      (contactAnswered response_bytes).result :=
  SidecarDispatchService.Cooperation.transmit_succeeds
    { contactCooperation_fits with response_bytes := rfl }

/-- A response that is not empty is read back. -/
theorem response_round_trip_contactRead :
    ∃ received,
      Receives (SidecarDispatchService.respond contactPayload contactEnvelope
          (.ok (contactAnswered "{}".toUTF8).result)) contactBinding.request_id received ∧
        received.response_bytes = "{}".toUTF8 := by
  have hreadable : (contactAnswered "{}".toUTF8).result.Readable :=
    { response_bytes := by decide
      dispatch_outcome := by decide
      response_status := by decide
      effect_state := by decide
      witness := by
        rintro _ hsome
        obtain rfl := Option.some.inj hsome
        decide +kernel
      closure := by
        rintro _ hsome
        obtain rfl := Option.some.inj hsome
        decide +kernel
      output := by decide +kernel }
  obtain ⟨received, hreceived, -, hbytes, -⟩ :=
    (response_round_trip_iff (contactAnswered_produced "{}".toUTF8) contactPayload).mpr hreadable
  exact ⟨received, hreceived, hbytes⟩

/-- An empty response, as of `204 No Content`, is not read back. -/
theorem empty_response_lost :
    ¬ ∀ (service : SidecarDispatchService) (envelope : SidecarEnvelope)
        (route : SidecarDispatchService.OpenRoute) (observed_at : String) (log : List PortEvent)
        (result : DispatchResult) (payload : Dict),
      Succeeds (service.transmit envelope route observed_at) log result →
        ∃ received,
          Receives (SidecarDispatchService.respond payload envelope (.ok result))
            envelope.binding.request_id received := by
  intro h
  have hproduced := contactAnswered_produced ByteArray.empty
  obtain ⟨received, hreceived⟩ := h _ _ _ _ _ _ contactPayload hproduced
  obtain ⟨output, hreceives⟩ := receives_respond hproduced contactPayload
  have hreadable := ((hreceives received).mp hreceived).1
  exact hreadable.response_bytes rfl

end CBrain

import CBrain.Claim
import CBrain.Framework.Base64

/-! # The dispatcher sidecar

    Models the core of `cbrain/execution/sidecar.py`: the request and response
    documents and `SidecarDispatchService.handle`.  The HTTPS adapters around
    it (TLS, HTTP framing, `serve_sidecar`) are not modelled; what they hand
    to `handle` is a JSON object.

    `_SidecarDispatchFailure` is private to the module and no port can raise
    it, so it is a type of its own here and not an `Exn`.
-/

namespace CBrain

open Effect
open Effect.Fallible (call raising Succeeds)
open Json (Dict)

/-! ## Section 1: Documents -/

def SIDECAR_REQUEST_SCHEMA : String := "cbrain-dispatch-sidecar/request-v1"

def SIDECAR_RESPONSE_SCHEMA : String := "cbrain-dispatch-sidecar/response-v1"

/-- `_required_mapping`. -/
def requiredMapping (value : Option Dict) (path : String) : Raises Dict :=
  match value with
  | some d => .ok d
  | none => .error (Exn.of .sidecarProtocolError s!"{path} must be a JSON object")

theorem requiredMapping_ok {value : Option Dict} {path : String} {d : Dict} :
    requiredMapping value path = .ok d ↔ value = some d := by
  cases value with
  | none => simp [requiredMapping]
  | some e => simp [requiredMapping]

/-- `_required_text` of the sidecar. -/
def sidecarText (value : Dict) (key : String) : Raises String :=
  requiredMember (Exn.of .sidecarProtocolError s!"{key} must be non-empty text") (value.get key)

theorem sidecarText_ok {value : Dict} {key s : String} :
    sidecarText value key = .ok s ↔ value.get key = .str s ∧ nonBlank s = true :=
  requiredMember_ok

/-- `_unb64`. -/
def unb64 (value : Json) (path : String) : Raises ByteArray :=
  match value with
  | .str s =>
    if s = "" then
      .error (Exn.of .sidecarProtocolError s!"{path} must be non-empty base64 text")
    else
      match Base64.decode s with
      | none => .error (Exn.of .sidecarProtocolError s!"{path} is invalid base64")
      | some decoded =>
        if decoded.size = 0 then
          .error (Exn.of .sidecarProtocolError s!"{path} must decode to non-empty bytes")
        else .ok decoded
  | _ => .error (Exn.of .sidecarProtocolError s!"{path} must be non-empty base64 text")

/-- Encoded bytes decode to themselves. -/
theorem unb64_encode {b : ByteArray} (path : String) (h : b.size ≠ 0) :
    unb64 (.str (Base64.encode b)) path = .ok b := by
  unfold unb64
  simp only
  rw [if_neg (Base64.encode_ne_empty h), Base64.decode_encode]
  simp only
  rw [if_neg h]

/-- `_canonical_json`. -/
def canonicalJson (value : Dict) : Raises ByteArray :=
  if Json.finite value.json = true then .ok (Json.canonical value.json)
  else .error (Exn.of .sidecarProtocolError "sidecar payload is not finite JSON")

/-- `_trust_bundle_digest`. -/
def trustBundleDigest (bundle : Dict) : Raises String := do
  let bytes ← canonicalJson bundle
  return sha256Digest bytes

/-- `_safe_header_value`. -/
def safeHeaderValue (value path : String) : Raises String :=
  if value.toList.contains '\r' || value.toList.contains '\n' then
    .error (Exn.of .sidecarProtocolError s!"{path} contains forbidden control characters")
  else .ok value

/-- The `prepared` part of a request. -/
def encodePrepared (prepared : PreparedDispatch) : Dict :=
  Dict.of
    [("request_id", .str prepared.request_id),
     ("dispatch", prepared.dispatch.json),
     ("wire_bytes", .str (Base64.encode prepared.wire_bytes)),
     ("peer_identity_bytes", .str (Base64.encode prepared.peer_identity_bytes))]
    (by simp)

/-- The `binding` part of a request. -/
def encodeBinding (binding : ExecutionAuthorizationBinding) : Dict :=
  Dict.of
    [("decision_receipt_digest", .str binding.decision_receipt_digest),
     ("authority_receipt_digest", .str binding.authority_receipt_digest),
     ("approval_artifact_digest", optText binding.approval_artifact_digest),
     ("state_snapshot_digest", .str binding.state_snapshot_digest),
     ("policy_bundle_digest", .str binding.policy_bundle_digest),
     ("obligations_digest", .str binding.obligations_digest),
     ("at_time", .str binding.at_time)]
    (by simp)

/-- The `witness` part of a request. -/
def encodeWitness (witness_id : String) (attempt : Int) : Dict :=
  Dict.of [("witness_id", .str witness_id), ("attempt", .int attempt)] (by simp)

/-- `_encode_request`. -/
def encodeRequest (authorization trust_bundle : Dict) (binding : ExecutionAuthorizationBinding)
    (witness_id : String) (attempt : Int) : Dict :=
  Dict.of
    [("schema", .str SIDECAR_REQUEST_SCHEMA),
     ("authorization", authorization.json),
     ("trust_bundle", trust_bundle.json),
     ("action", binding.action.json),
     ("prepared", (encodePrepared binding.prepared_dispatch).json),
     ("binding", (encodeBinding binding).json),
     ("witness", (encodeWitness witness_id attempt).json)]
    (by simp)

/-- `_SidecarEnvelope`. -/
structure SidecarEnvelope where
  authorization : Dict
  trust_bundle : Dict
  binding : ExecutionAuthorizationBinding
  witness_id : String
  attempt : Int

/-- The `prepared` part of a request. -/
def decodePrepared (preparedValue : Dict) : Raises PreparedDispatch := do
  let request_id ← sidecarText preparedValue "request_id"
  let dispatch ← requiredMapping (asObject preparedValue "dispatch") "dispatch"
  let wire_bytes ← unb64 (preparedValue.get "wire_bytes") "wire_bytes"
  let peer_identity_bytes ← unb64 (preparedValue.get "peer_identity_bytes") "peer_identity_bytes"
  PreparedDispatch.capture request_id dispatch wire_bytes peer_identity_bytes

/-- The `binding` part of a request, for a decoded dispatch. -/
def decodeBinding (action : Dict) (prepared : PreparedDispatch) (bindingValue : Dict) :
    Raises ExecutionAuthorizationBinding := do
  let approval := bindingValue.get "approval_artifact_digest"
  require (approval = .null ∨ (Json.str? approval).isSome = true)
    (Exn.of .sidecarProtocolError "approval_artifact_digest is invalid")
  let decision ← sidecarText bindingValue "decision_receipt_digest"
  let authority ← sidecarText bindingValue "authority_receipt_digest"
  let state ← sidecarText bindingValue "state_snapshot_digest"
  let policy ← sidecarText bindingValue "policy_bundle_digest"
  let obligations ← sidecarText bindingValue "obligations_digest"
  let at_time ← sidecarText bindingValue "at_time"
  ExecutionAuthorizationBinding.capture prepared.request_id action prepared (.str decision)
    (.str authority) approval (.str state) (.str policy) (.str obligations) (.str at_time)

/-- The attempt of a request: an integer, not a boolean, at least one. -/
def decodeAttempt (attempt : Json) : Raises Int :=
  match attempt with
  | .int n =>
    if n < 1 then .error (Exn.of .sidecarProtocolError "witness attempt is invalid") else .ok n
  | _ => .error (Exn.of .sidecarProtocolError "witness attempt is invalid")

/-- `_decode_request`. -/
def decodeRequest (payload : Dict) : Raises SidecarEnvelope := do
  require (payload.get "schema" = .str SIDECAR_REQUEST_SCHEMA)
    (Exn.of .sidecarProtocolError "sidecar request schema is invalid")
  let authorization ← requiredMapping (asObject payload "authorization") "authorization"
  let trust_bundle ← requiredMapping (asObject payload "trust_bundle") "trust_bundle"
  let action ← requiredMapping (asObject payload "action") "action"
  let preparedValue ← requiredMapping (asObject payload "prepared") "prepared"
  let bindingValue ← requiredMapping (asObject payload "binding") "binding"
  let witness ← requiredMapping (asObject payload "witness") "witness"
  let prepared ← decodePrepared preparedValue
  let binding ← decodeBinding action prepared bindingValue
  let attempt ← decodeAttempt (witness.get "attempt")
  let witness_id ← sidecarText witness "witness_id"
  return ⟨authorization, trust_bundle, binding, witness_id, attempt⟩

/-- `_possible_request_id`. -/
def possibleRequestId (payload : Dict) : String :=
  match asObject payload "prepared" with
  | some prepared => (Json.str? (prepared.get "request_id")).getD "unknown"
  | none => "unknown"

/-- A response that reports a failure. -/
def failureResponse (status phase request_id reason : String) : SidecarResponse where
  fields := Dict.of
    [("schema", .str SIDECAR_RESPONSE_SCHEMA),
     ("status", .str status),
     ("phase", .str phase),
     ("request_id", .str request_id),
     ("reason", .str reason)]
    (by simp)
  output := .none

/-- `_encode_success`. -/
def encodeSuccess (request_id : String) (result : DispatchResult) : Raises SidecarResponse :=
  match result.closure, result.witness with
  | none, _ => .error (Exn.of .sidecarProtocolError "independent dispatch produced no closure")
  | some _, none => .error (Exn.of .typeError "'NoneType' object is not iterable")
  | some closure, some witness =>
    .ok {
      fields := Dict.of
        [("schema", .str SIDECAR_RESPONSE_SCHEMA),
         ("status", .str "EXECUTED"),
         ("phase", .str "CLOSED"),
         ("request_id", .str request_id),
         ("witness", witness.json),
         ("closure", closure.json),
         ("dispatch_outcome", .str result.dispatch_outcome),
         ("response_status", .str result.response_status),
         ("response_bytes", .str (Base64.encode result.response_bytes)),
         ("effect_state", .str result.effect_state)]
        (by simp)
      output := result.output }

/-- `json.dumps(value, allow_nan=False)` accepts the value. -/
def PyVal.encodable : PyVal → Bool
  | .json j => Json.finite j
  | .coerced j => Json.finite j
  | .foreign _ => false

/-- `_canonical_json(response)` accepts the response. -/
def SidecarResponse.encodable (response : SidecarResponse) : Bool :=
  Json.finite response.fields.json && response.output.encodable

/-! ## Section 2: The service -/

/-- `_SidecarDispatchFailure`. -/
structure SidecarDispatchFailure where
  reason : String
  execution_possible : Bool

/-- `SidecarDispatchService`, with the checks of its constructor. -/
structure SidecarDispatchService where
  identity : WitnessIdentity
  pinned_trust_bundle : Dict
  identity_independent : identity.independent = true
  pinned_trust_bundle_nonempty : pinned_trust_bundle.members ≠ []
  pinned_trust_bundle_finite : Json.finite pinned_trust_bundle.json = true

namespace SidecarDispatchService

/-- `self._pinned_trust_digest`. -/
def pinnedTrustDigest (service : SidecarDispatchService) : String :=
  sha256Digest (Json.canonical service.pinned_trust_bundle.json)

/-- What is settled before the peer is checked. -/
structure OpenRoute where
  wire_content_type : String
  wire_content_encoding : String
  credential : CredentialHeader
  peer_identity_bytes : ByteArray

/-- `_dispatch` up to the open connection: the trust root, the headers, the
    credential, the route. -/
def openRoute (service : SidecarDispatchService) (envelope : SidecarEnvelope) :
    PortM OpenRoute := do
  let dispatch := envelope.binding.prepared_dispatch.dispatch
  let digest ← raising (trustBundleDigest envelope.trust_bundle)
  raising (require (digest = service.pinnedTrustDigest)
    (Exn.of .sidecarError "request trust_bundle does not match the deployment pin"))
  let wire_content_type ← raising do
    let value ← sidecarText dispatch "wire_content_type"
    safeHeaderValue value "wire_content_type"
  let wire_content_encoding ← raising do
    let value ← sidecarText dispatch "wire_content_encoding"
    safeHeaderValue value "wire_content_encoding"
  let audience ← raising (sidecarText dispatch "credential_audience")
  let credential ← call (.resolve audience) rfl
  let peer_identity_bytes ← call (.open dispatch) rfl
  return ⟨wire_content_type, wire_content_encoding, credential, peer_identity_bytes⟩

/-- `_dispatch` from the open connection to the claim: the peer, the clock,
    verification and claim.  Returns the observed time. -/
def claimRoute (service : SidecarDispatchService) (envelope : SidecarEnvelope) (route : OpenRoute) :
    PortM String := do
  raising (require (route.peer_identity_bytes =
      envelope.binding.prepared_dispatch.peer_identity_bytes)
    (Exn.of .sidecarError "observed TLS peer does not match permit"))
  -- The time is sampled after connecting, right before verification.
  let sidecar_observed_at ← call (.clock .sidecar) rfl
  let _ ← verifyAndClaim envelope.authorization (some service.pinned_trust_bundle)
    envelope.binding (some sidecar_observed_at)
  return sidecar_observed_at

/-- The metadata of a witness. -/
def witnessMetadata (identity : WitnessIdentity) (witness_id observed_at : String) (attempt : Int)
    (dispatch : Dict) : Dict :=
  Dict.of
    [("dispatch_witness_id", .str witness_id),
     ("observed_at", .str observed_at),
     ("attempt", .int attempt),
     ("witness_component_id", .str identity.witness_component_id),
     ("wire_content_type", dispatch.get "wire_content_type"),
     ("wire_content_encoding", dispatch.get "wire_content_encoding"),
     ("signer_key_id", .str identity.signer_key_id)]
    (by simp [Dict.wf_get])

/-- `_dispatch` after the response of the target: witness and closure. -/
def witnessAndClose (service : SidecarDispatchService) (envelope : SidecarEnvelope)
    (route : OpenRoute) (observed_at : String) (response : TargetResponse) :
    PortM DispatchResult := do
  let prepared := envelope.binding.prepared_dispatch
  let dispatch := prepared.dispatch
  match response.response_bytes with
  | none => throw (Exn.of .sidecarProtocolError "target response bytes are invalid")
  | some response_bytes =>
    let signed ← call (.signWitness .sidecar
      (witnessMetadata service.identity envelope.witness_id observed_at envelope.attempt dispatch)
      envelope.authorization envelope.trust_bundle envelope.binding.action dispatch
      prepared.wire_bytes route.peer_identity_bytes) rfl
    let witness ← raising (requiredMapping signed "dispatch witness")
    let idempotency_key_digest ← raising (sidecarText dispatch "idempotency_key_digest")
    let sealed ← call (.seal envelope.authorization witness envelope.trust_bundle
      response.dispatch_outcome response.response_status response_bytes response.effect_state
      idempotency_key_digest) rfl
    let closure ← raising (requiredMapping sealed "closure")
    return {
      witness := some witness
      dispatch_outcome := response.dispatch_outcome
      response_status := response.response_status
      response_bytes
      effect_state := response.effect_state
      output := response.output
      closure := some closure }

/-- `_dispatch` from the moment `send_started` is set. -/
def transmit (service : SidecarDispatchService) (envelope : SidecarEnvelope) (route : OpenRoute)
    (observed_at : String) : PortM DispatchResult := do
  let response ← call (.sendExact envelope.binding.prepared_dispatch.wire_bytes
    route.wire_content_type route.wire_content_encoding route.credential) rfl
  service.witnessAndClose envelope route observed_at response

/-- A failure before the send. -/
def preDispatchRefused (exc : Exn) : SidecarDispatchFailure :=
  ⟨s!"pre_dispatch_refused:{exc.name}", false⟩

/-- A failure after the send was started. -/
def postDispatchUnproven (exc : Exn) : SidecarDispatchFailure :=
  ⟨s!"post_dispatch_unproven:{exc.name}", true⟩

/-- `_dispatch` on an open connection. -/
def dispatchOpen (service : SidecarDispatchService) (envelope : SidecarEnvelope)
    (route : OpenRoute) : Prog PortSig (Except SidecarDispatchFailure DispatchResult) :=
  (service.claimRoute envelope route).run >>= fun
    | .error exc => return .error (preDispatchRefused exc)
    | .ok observed_at =>
      (service.transmit envelope route observed_at).run >>= fun
        | .error exc => return .error (postDispatchUnproven exc)
        | .ok result => return .ok result

/-- `_dispatch`.  An open channel is closed whatever happens, and what
    closing raises is suppressed. -/
def dispatch (service : SidecarDispatchService) (envelope : SidecarEnvelope) :
    Prog PortSig (Except SidecarDispatchFailure DispatchResult) :=
  (service.openRoute envelope).run >>= fun
    | .error exc => return .error (preDispatchRefused exc)
    | .ok route => do
      let outcome ← service.dispatchOpen envelope route
      let _ ← Prog.perform (E := PortSig) .close
      return outcome

/-- The response to a dispatched request. -/
def respond (payload : Dict) (envelope : SidecarEnvelope) :
    Except SidecarDispatchFailure DispatchResult → SidecarResponse
  | .error failure =>
    failureResponse (if failure.execution_possible then "INDETERMINATE" else "REFUSED")
      (if failure.execution_possible then "POST_DISPATCH" else "PRE_DISPATCH")
      (possibleRequestId payload) failure.reason
  | .ok result =>
    match encodeSuccess envelope.binding.request_id result with
    | .ok response =>
      if response.encodable then response
      else failureResponse "INDETERMINATE" "POST_DISPATCH" (possibleRequestId payload)
        "response_unavailable:SidecarProtocolError"
    | .error exc =>
      failureResponse "INDETERMINATE" "POST_DISPATCH" (possibleRequestId payload)
        s!"response_unavailable:{exc.name}"

/-- `SidecarDispatchService.handle`. -/
def handle (service : SidecarDispatchService) (payload : Dict) : Prog PortSig SidecarResponse :=
  match decodeRequest payload with
  | .error exc =>
    return failureResponse "REFUSED" "PRE_DISPATCH" (possibleRequestId payload)
      s!"malformed_request:{exc.name}"
  | .ok envelope => do
    let outcome ← service.dispatch envelope
    return respond payload envelope outcome

/-! ## Section 3: What precedes a send -/

/-- What holds when a call sends: the request named the pinned trust root, the
    observed peer is the bound one, this call won the claim of the request's
    authorization at the time its clock gave, and nothing was sent before. -/
structure SendGuard (service : SidecarDispatchService) (envelope : SidecarEnvelope)
    (past : List PortEvent) (wire_bytes : ByteArray) : Prop where
  trust : trustBundleDigest envelope.trust_bundle = .ok service.pinnedTrustDigest
  peer : (⟨.open envelope.binding.prepared_dispatch.dispatch,
    .ok envelope.binding.prepared_dispatch.peer_identity_bytes⟩ : PortEvent) ∈ past
  claim : ∃ observed_at, (⟨.clock .sidecar, .ok observed_at⟩ : PortEvent) ∈ past ∧
    ClaimWon (authorizationKey envelope.authorization) observed_at past
  wire : wire_bytes = envelope.binding.prepared_dispatch.wire_bytes
  first : sends past = 0

/-- The guard of `handle(payload)`. -/
def sendGuard (service : SidecarDispatchService) (payload : Dict) (past : List PortEvent) :
    PortOp → Prop
  | .sendExact wire_bytes _ _ _ =>
    ∃ envelope, decodeRequest payload = .ok envelope ∧
      service.SendGuard envelope past wire_bytes
  | _ => True

section
variable {service : SidecarDispatchService} {envelope : SidecarEnvelope}
variable {guard : List PortEvent → PortOp → Prop} {now : List PortEvent}

theorem openRoute_quiet :
    QuietMeets PortOp.isSend guard
      (fun later route =>
        trustBundleDigest envelope.trust_bundle = .ok service.pinnedTrustDigest ∧
        (⟨.open envelope.binding.prepared_dispatch.dispatch,
          .ok route.peer_identity_bytes⟩ : PortEvent) ∈ later) now
      (service.openRoute envelope) := by
  refine (QuietMeets.ofRaising
    (Q := fun _ digest => trustBundleDigest envelope.trust_bundle = .ok digest)
    fun _ h => h).bind ?_
  intro now digest _ hdigest
  refine (QuietMeets.ofRaising (Q := fun _ _ => digest = service.pinnedTrustDigest)
    fun _ h => require_ok.mp h).bind ?_
  intro now _ _ hpinned
  subst hpinned
  refine (QuietMeets.ofRaising (Q := fun _ _ => True) fun _ _ => trivial).bind ?_
  intro now content_type _ _
  refine (QuietMeets.ofRaising (Q := fun _ _ => True) fun _ _ => trivial).bind ?_
  intro now content_encoding _ _
  refine (QuietMeets.ofRaising (Q := fun _ _ => True) fun _ _ => trivial).bind ?_
  intro now audience _ _
  refine (QuietMeets.ofCall rfl).bind ?_
  intro now credential _ _
  refine (QuietMeets.ofCall rfl).bind ?_
  intro later peer _ hopen
  exact QuietMeets.ofPure ⟨hdigest, hopen⟩

theorem claimRoute_quiet {route : OpenRoute} :
    QuietMeets PortOp.isSend guard
      (fun later observed_at =>
        route.peer_identity_bytes = envelope.binding.prepared_dispatch.peer_identity_bytes ∧
        (⟨.clock .sidecar, .ok observed_at⟩ : PortEvent) ∈ later ∧
        ClaimWon (authorizationKey envelope.authorization) observed_at later) now
      (service.claimRoute envelope route) := by
  refine (QuietMeets.ofRaising
    (Q := fun _ _ => route.peer_identity_bytes =
      envelope.binding.prepared_dispatch.peer_identity_bytes)
    fun _ h => require_ok.mp h).bind ?_
  intro now _ _ hpeer
  refine (QuietMeets.ofCall rfl).bind ?_
  intro now observed_at _ hclock
  refine verifyAndClaim_quiet.bind ?_
  intro later _ hq hclaim
  exact QuietMeets.ofPure ⟨hpeer, hq.mem hclock, hclaim⟩

theorem witnessAndClose_quiet {route : OpenRoute} {observed_at : String}
    {response : TargetResponse} :
    QuietMeets PortOp.isSend guard (fun _ _ => True) now
      (service.witnessAndClose envelope route observed_at response) := by
  unfold witnessAndClose
  cases response.response_bytes with
  | none => exact QuietMeets.ofThrow
  | some response_bytes =>
    refine (QuietMeets.ofCall rfl).bind ?_
    intro now signed _ _
    refine (QuietMeets.ofRaising (Q := fun _ _ => True) fun _ _ => trivial).bind ?_
    intro now witness _ _
    refine (QuietMeets.ofRaising (Q := fun _ _ => True) fun _ _ => trivial).bind ?_
    intro now idempotency_key_digest _ _
    refine (QuietMeets.ofCall rfl).bind ?_
    intro now sealed _ _
    refine (QuietMeets.ofRaising (Q := fun _ _ => True) fun _ _ => trivial).bind ?_
    intro later closure _ _
    exact QuietMeets.ofPure trivial

/-- From the claim on there is exactly one send, whatever comes of it. -/
theorem transmit_meets {route : OpenRoute} {observed_at : String}
    (hguard : guard now (.sendExact envelope.binding.prepared_dispatch.wire_bytes
      route.wire_content_type route.wire_content_encoding route.credential))
    (hnone : sends now = 0) :
    Fallible.Meets (guarded PortOp.isSend guard) (fun later _ => now <+: later ∧ sends later = 1)
      (fun later _ => now <+: later ∧ sends later = 1) now
      (service.transmit envelope route observed_at) := by
  have hsent : ∀ x, sends (now ++ [⟨.sendExact envelope.binding.prepared_dispatch.wire_bytes
      route.wire_content_type route.wire_content_encoding route.credential, x⟩]) = 1 := by
    intro x
    rw [sends_snoc, hnone]
    rfl
  refine Fallible.Meets.bind (R := fun later _ => now <+: later ∧ sends later = 1) ?_ ?_
  · refine Fallible.meets_call.mpr ⟨fun _ => hguard, fun x _ => ?_⟩
    show Fallible.Outcome _ _ (now ++ [⟨_, x⟩]) x
    cases x with
    | ok response => exact ⟨List.prefix_append _ _, hsent _⟩
    | error exc => exact ⟨List.prefix_append _ _, hsent _⟩
  · rintro later response ⟨hextends, hone⟩
    apply Fallible.Meets.mono witnessAndClose_quiet
    · rintro last _ ⟨hq, _⟩
      exact ⟨hextends.trans hq.extends_past, hq.marked_eq.trans hone⟩
    · intro last _ hq
      exact ⟨hextends.trans hq.extends_past, hq.marked_eq.trans hone⟩

/-- What the outcome of `_dispatch` says about sends: a result comes after one
    send, a failure that excludes execution after none. -/
def Faithful (past later : List PortEvent) :
    Except SidecarDispatchFailure DispatchResult → Prop
  | .ok _ => past <+: later ∧ sends later = 1
  | .error failure =>
    past <+: later ∧ sends later ≤ 1 ∧ (failure.execution_possible = false → sends later = 0)

theorem Faithful.snoc {past later : List PortEvent}
    {outcome : Except SidecarDispatchFailure DispatchResult} (h : Faithful past later outcome)
    {o : PortOp} (ho : o.isSend = false) (x : o.Ans) :
    Faithful past (later ++ [⟨o, x⟩]) outcome := by
  have hsends : sends (later ++ [⟨o, x⟩]) = sends later := by
    rw [sends_snoc, ho]
    rfl
  have hextends : later <+: later ++ [(⟨o, x⟩ : PortEvent)] := List.prefix_append _ _
  cases outcome with
  | ok result => exact ⟨h.1.trans hextends, hsends.trans h.2⟩
  | error failure =>
    exact ⟨h.1.trans hextends, hsends ▸ h.2.1, fun hp => hsends.trans (h.2.2 hp)⟩

/-- `_dispatch` sends only under the guard, and its outcome is faithful. -/
theorem dispatch_obeys {past : List PortEvent} (hnone : sends past = 0)
    (hguard : ∀ later wire_bytes content_type content_encoding credential, past <+: later →
      service.SendGuard envelope later wire_bytes →
      guard later (.sendExact wire_bytes content_type content_encoding credential)) :
    Prog.Obeys (guarded PortOp.isSend guard) (Faithful past) past
      (service.dispatch envelope) := by
  unfold dispatch
  refine Fallible.Meets.run_bind openRoute_quiet ?_ ?_
  · rintro now route ⟨hq, htrust, hopen⟩
    refine Prog.Obeys.bind (R := Faithful past) ?_ ?_
    · refine Fallible.Meets.run_bind claimRoute_quiet ?_ ?_
      · rintro later observed_at ⟨hq', hpeer, hclock, hclaim⟩
        have hall := hq.trans hq'
        have hzero : sends later = 0 := hall.marked_eq.trans hnone
        have hsend : service.SendGuard envelope later
            envelope.binding.prepared_dispatch.wire_bytes :=
          { trust := htrust
            peer := hpeer ▸ hq'.mem hopen
            claim := ⟨observed_at, hclock, hclaim⟩
            wire := rfl
            first := hzero }
        refine Fallible.Meets.run_bind
          (transmit_meets (hguard _ _ _ _ _ hall.extends_past hsend) hzero) ?_ ?_
        · rintro last result ⟨hextends, hone⟩
          exact ⟨hall.extends_past.trans hextends, hone⟩
        · rintro last exc ⟨hextends, hone⟩
          exact ⟨hall.extends_past.trans hextends, hone.le, fun hno => by cases hno⟩
      · intro later exc hq'
        have hall := hq.trans hq'
        have hzero : sends later = 0 := hall.marked_eq.trans hnone
        exact ⟨hall.extends_past, by omega, fun _ => hzero⟩
    · intro later outcome hfaithful
      -- Closing the channel sends nothing.
      refine ⟨fun hmark => (by cases hmark), fun x _ => ?_⟩
      exact hfaithful.snoc (o := .close) rfl x
  · intro later exc hq
    have hzero : sends later = 0 := hq.marked_eq.trans hnone
    exact ⟨hq.extends_past, by omega, fun _ => hzero⟩

/-- What a response says about sends. -/
structure Truthful (past later : List PortEvent) (response : SidecarResponse) : Prop where
  extends_past : past <+: later
  atMostOne : sends later ≤ 1
  refused : response.fields.get "status" = .str "REFUSED" → sends later = 0
  executed : response.fields.get "status" = .str "EXECUTED" → sends later = 1

theorem failureResponse_status (status phase request_id reason : String) :
    (failureResponse status phase request_id reason).fields.get "status" = .str status := by
  simp [failureResponse, Json.Dict.get, Json.get?_cons]

theorem truthful_respond {past later : List PortEvent} {payload : Dict}
    {outcome : Except SidecarDispatchFailure DispatchResult} (h : Faithful past later outcome) :
    Truthful past later (respond payload envelope outcome) := by
  cases outcome with
  | error failure =>
    obtain ⟨hextends, hone, hzero⟩ := h
    refine ⟨hextends, hone, ?_, ?_⟩
    · intro hstatus
      rw [respond, failureResponse_status] at hstatus
      cases hpossible : failure.execution_possible with
      | false => exact hzero hpossible
      | true => simp [hpossible] at hstatus
    · intro hstatus
      rw [respond, failureResponse_status] at hstatus
      cases hpossible : failure.execution_possible <;> simp [hpossible] at hstatus
  | ok result =>
    obtain ⟨hextends, hone⟩ := h
    refine ⟨hextends, hone.le, ?_, fun _ => hone⟩
    intro hstatus
    -- No response to a result is a refusal.
    exfalso
    revert hstatus
    simp only [respond, encodeSuccess]
    rcases result.closure with _ | closure
    · simp [failureResponse_status]
    · rcases result.witness with _ | witness
      · simp [failureResponse_status]
      · simp only
        split
        · simp [Json.Dict.get, Json.get?_cons]
        · simp [failureResponse_status]

/-- **`handle`** sends only under its guard, at most once, and its response
    tells the truth about it. -/
theorem handle_obeys {payload : Dict} {past : List PortEvent} (hnone : sends past = 0)
    (hguard : ∀ later o, past <+: later → service.sendGuard payload later o → guard later o) :
    Prog.Obeys (guarded PortOp.isSend guard) (Truthful past) past (service.handle payload) := by
  unfold handle
  cases hdecode : decodeRequest payload with
  | error exc =>
    refine ⟨List.prefix_refl _, by omega, fun _ => hnone, ?_⟩
    intro hstatus
    rw [failureResponse_status] at hstatus
    simp at hstatus
  | ok envelope =>
    refine Prog.Obeys.bind (R := Faithful past) ?_ ?_
    · apply dispatch_obeys hnone
      intro later wire_bytes _ _ _ hextends hsend
      exact hguard later _ hextends ⟨envelope, hdecode, hsend⟩
    · intro later outcome hfaithful
      exact truthful_respond hfaithful

end

/-! ## Section 4: Ports that answer as they should -/

/-- The answers of a sidecar's ports when nothing goes wrong, and the headers
    of the dispatch. -/
structure Cooperation where
  wire_content_type : String
  wire_content_encoding : String
  audience : String
  idempotency_key_digest : String
  credential : CredentialHeader
  use : AuthorizationUse
  report : VerificationReport
  response : TargetResponse
  response_bytes : ByteArray
  witness : Dict
  closure : Dict

/-- What the answers have to be for the request. -/
structure Cooperation.Fits (c : Cooperation) (service : SidecarDispatchService)
    (envelope : SidecarEnvelope) : Prop where
  trust : trustBundleDigest envelope.trust_bundle = .ok service.pinnedTrustDigest
  content_type : (do
    let value ← sidecarText envelope.binding.prepared_dispatch.dispatch "wire_content_type"
    safeHeaderValue value "wire_content_type") = .ok c.wire_content_type
  content_encoding : (do
    let value ← sidecarText envelope.binding.prepared_dispatch.dispatch "wire_content_encoding"
    safeHeaderValue value "wire_content_encoding") = .ok c.wire_content_encoding
  audience : sidecarText envelope.binding.prepared_dispatch.dispatch "credential_audience" =
    .ok c.audience
  idempotency_key_digest :
    sidecarText envelope.binding.prepared_dispatch.dispatch "idempotency_key_digest" =
      .ok c.idempotency_key_digest
  authorization : Json.finite envelope.authorization.json = true
  named : c.use.NamedBy envelope.authorization envelope.binding
  accepted : c.report.accepted = true
  response_bytes : c.response.response_bytes = some c.response_bytes

namespace Cooperation

variable (c : Cooperation) (service : SidecarDispatchService) (envelope : SidecarEnvelope)

/-- The route that is open then. -/
def route : OpenRoute where
  wire_content_type := c.wire_content_type
  wire_content_encoding := c.wire_content_encoding
  credential := c.credential
  peer_identity_bytes := envelope.binding.prepared_dispatch.peer_identity_bytes

/-- What the dispatch returns then. -/
def result : DispatchResult where
  witness := some c.witness
  dispatch_outcome := c.response.dispatch_outcome
  response_status := c.response.response_status
  response_bytes := c.response_bytes
  effect_state := c.response.effect_state
  output := c.response.output
  closure := some c.closure

/-- The events up to the open connection. -/
def openEvents : List PortEvent :=
  [⟨.resolve c.audience, .ok c.credential⟩,
   ⟨.open envelope.binding.prepared_dispatch.dispatch,
     .ok envelope.binding.prepared_dispatch.peer_identity_bytes⟩]

/-- The events up to the claim. -/
def routeEvents : List PortEvent :=
  ⟨.clock .sidecar, .ok c.use.claimed_at⟩ ::
    (claimEvents envelope.authorization service.pinned_trust_bundle
      (envelope.binding.withTime c.use.claimed_at (c.use.texts _ (by simp))) c.use c.report ++ [])

/-- The events from the send on. -/
def sendEvents : List PortEvent :=
  [⟨.sendExact envelope.binding.prepared_dispatch.wire_bytes c.wire_content_type
      c.wire_content_encoding c.credential, .ok c.response⟩,
   ⟨.signWitness .sidecar
      (witnessMetadata service.identity envelope.witness_id c.use.claimed_at envelope.attempt
        envelope.binding.prepared_dispatch.dispatch)
      envelope.authorization envelope.trust_bundle envelope.binding.action
      envelope.binding.prepared_dispatch.dispatch envelope.binding.prepared_dispatch.wire_bytes
      envelope.binding.prepared_dispatch.peer_identity_bytes, .ok (some c.witness)⟩,
   ⟨.seal envelope.authorization c.witness envelope.trust_bundle c.response.dispatch_outcome
      c.response.response_status c.response_bytes c.response.effect_state
      c.idempotency_key_digest, .ok (some c.closure)⟩]

/-- All events of a dispatch. -/
def events : List PortEvent :=
  c.openEvents envelope ++
    ((c.routeEvents service envelope ++ (c.sendEvents service envelope ++ [])) ++
      [⟨.close, .ok ()⟩])

theorem send_mem_events :
    (⟨.sendExact envelope.binding.prepared_dispatch.wire_bytes c.wire_content_type
      c.wire_content_encoding c.credential, .ok c.response⟩ : PortEvent) ∈
        c.events service envelope := by
  simp [events, sendEvents]

variable {c service envelope}

theorem openRoute_succeeds (h : c.Fits service envelope) :
    Succeeds (service.openRoute envelope) (c.openEvents envelope) (c.route envelope) := by
  unfold openRoute openEvents
  refine Succeeds.raising_bind h.trust ?_
  refine succeeds_require_bind rfl ?_
  refine Succeeds.raising_bind h.content_type ?_
  refine Succeeds.raising_bind h.content_encoding ?_
  refine Succeeds.raising_bind h.audience ?_
  refine Succeeds.call_bind c.credential ?_
  refine Succeeds.call_bind envelope.binding.prepared_dispatch.peer_identity_bytes ?_
  exact Succeeds.ofPure _

theorem claimRoute_succeeds (h : c.Fits service envelope) :
    Succeeds (service.claimRoute envelope (c.route envelope)) (c.routeEvents service envelope)
      c.use.claimed_at := by
  unfold claimRoute routeEvents
  refine succeeds_require_bind rfl ?_
  refine Succeeds.call_bind c.use.claimed_at ?_
  refine (verifyAndClaim_succeeds h.authorization service.pinned_trust_bundle_finite h.accepted
    h.named).bind ?_
  exact Succeeds.ofPure _

theorem transmit_succeeds (h : c.Fits service envelope) :
    Succeeds (service.transmit envelope (c.route envelope) c.use.claimed_at)
      (c.sendEvents service envelope) c.result := by
  unfold transmit sendEvents
  refine Succeeds.call_bind c.response ?_
  unfold witnessAndClose
  simp only [h.response_bytes]
  refine Succeeds.call_bind (some c.witness) ?_
  refine Succeeds.raising_bind (requiredMapping_ok.mpr rfl) ?_
  refine Succeeds.raising_bind h.idempotency_key_digest ?_
  refine Succeeds.call_bind (some c.closure) ?_
  refine Succeeds.raising_bind (requiredMapping_ok.mpr rfl) ?_
  exact Succeeds.ofPure _

/-- **A request whose ports all answer as they should is dispatched.** -/
theorem handle_run {payload : Dict} (hdecode : decodeRequest payload = .ok envelope)
    (h : c.Fits service envelope) :
    Prog.Run (service.handle payload) (c.events service envelope)
      (respond payload envelope (.ok c.result)) := by
  have hopen : Prog.Run (service.dispatchOpen envelope (c.route envelope))
      (c.routeEvents service envelope ++ (c.sendEvents service envelope ++ []))
      (.ok c.result) := by
    refine Prog.run_bind.mpr ⟨_, _, _, claimRoute_succeeds h, ?_, rfl⟩
    exact Prog.run_bind.mpr ⟨_, _, _, transmit_succeeds h, Prog.Run.ret _, rfl⟩
  have hdispatch : Prog.Run (service.dispatch envelope) (c.events service envelope)
      (.ok c.result) := by
    refine Prog.run_bind.mpr ⟨_, _, _, openRoute_succeeds h, ?_, rfl⟩
    refine Prog.run_bind.mpr ⟨_, _, _, hopen, ?_, rfl⟩
    exact Prog.Run.op _ (Prog.Run.ret _)
  unfold handle
  rw [hdecode]
  refine Prog.run_bind.mpr ⟨_, _, [], hdispatch, Prog.Run.ret _, ?_⟩
  simp

end Cooperation

end SidecarDispatchService

end CBrain

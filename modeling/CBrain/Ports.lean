import CBrain.AuthorizeClient
import CBrain.Framework.Fallible

/-! # The ports of governed execution

    The data that gateway, claim coordinator and sidecar pass around
    (`cbrain/adapters/privatevault_execution.py`, `cbrain/consumption.py`,
    `cbrain/execution/transport.py`), and the operations of everything they
    are given from outside: planner, decision client, authorization issuer,
    Agent DNA verifiers, consumption store, clocks, credential provider,
    target connector, witness signer, closure writer and RPC channel.

    A port answers a value or an exception.  What it answers is not
    constrained here.
-/

namespace CBrain

open Effect
open Json (Dict)

/-! ## Section 1: The binding of a permit -/

/-- `_require_digest`. -/
def requireDigest (value : Json) (path : String) : Raises { s : String // isSha256Digest s = true } :=
  match value with
  | .str s =>
    if h : isSha256Digest s = true then .ok ⟨s, h⟩
    else .error (Exn.of .contractError s!"{path} must be a sha256 digest")
  | _ => .error (Exn.of .contractError s!"{path} must be a sha256 digest")

theorem requireDigest_ok {value : Json} {path : String}
    {d : { s : String // isSha256Digest s = true }} :
    requireDigest value path = .ok d ↔ value = .str d.1 := by
  unfold requireDigest
  split
  · next s =>
    by_cases h : isSha256Digest s = true
    · rw [dif_pos h]
      simp [Subtype.ext_iff]
    · rw [dif_neg h]
      constructor
      · intro hno
        cases hno
      · intro heq
        rw [Json.str.inj heq] at h
        exact absurd d.2 h
  · next hno =>
    constructor
    · intro h
      cases h
    · intro h
      exact absurd h (hno d.1)

/-- A digest that may be `None`. -/
def requireOptionalDigest (value : Json) (path : String) :
    Raises { o : Option String // ∀ d, o = some d → isSha256Digest d = true } :=
  match value with
  | .null => .ok ⟨none, sha256Digest_none⟩
  | given => do
    let digest ← requireDigest given path
    return ⟨some digest.1, by simpa using digest.2⟩

/-- `ExecutionAuthorizationBinding`: immutable expectations for one
    authorized dispatch. -/
structure ExecutionAuthorizationBinding where
  request_id : String
  prepared_dispatch : PreparedDispatch
  action_json : Snapshot
  decision_receipt_digest : String
  authority_receipt_digest : String
  approval_artifact_digest : Option String
  state_snapshot_digest : String
  policy_bundle_digest : String
  obligations_digest : String
  at_time : String
  request_id_matches : request_id = prepared_dispatch.request_id
  digests_sha256 :
    ∀ d ∈ [decision_receipt_digest, authority_receipt_digest, state_snapshot_digest,
      policy_bundle_digest, obligations_digest], isSha256Digest d = true
  approval_artifact_sha256 : ∀ d, approval_artifact_digest = some d → isSha256Digest d = true
  at_time_text : nonBlank at_time = true

namespace ExecutionAuthorizationBinding

/-- `binding.action`. -/
def action (b : ExecutionAuthorizationBinding) : Dict := b.action_json.restore

/-- `ExecutionAuthorizationBinding.capture`.  The digests and the time come
    out of JSON documents, so they are checked to be text here. -/
def capture (request_id : String) (action : Dict) (prepared_dispatch : PreparedDispatch)
    (decision_receipt_digest authority_receipt_digest approval_artifact_digest
      state_snapshot_digest policy_bundle_digest obligations_digest at_time : Json) :
    Raises ExecutionAuthorizationBinding := do
  let action_json ← snapshotObject action "execution_action"
  let ⟨hid⟩ ← ensure (request_id = prepared_dispatch.request_id)
    (Exn.of .contractError "authorization and dispatch request_id mismatch")
  let ⟨decision, hdecision⟩ ← requireDigest decision_receipt_digest "decision_receipt_digest"
  let ⟨authority, hauthority⟩ ← requireDigest authority_receipt_digest "authority_receipt_digest"
  let ⟨state, hstate⟩ ← requireDigest state_snapshot_digest "state_snapshot_digest"
  let ⟨policy, hpolicy⟩ ← requireDigest policy_bundle_digest "policy_bundle_digest"
  let ⟨obligations, hobligations⟩ ← requireDigest obligations_digest "obligations_digest"
  let ⟨approval, happroval⟩ ←
    requireOptionalDigest approval_artifact_digest "approval_artifact_digest"
  match at_time with
  | .str time =>
    let ⟨htime⟩ ← ensure (nonBlank time = true)
      (Exn.of .contractError "at_time must be non-empty RFC3339 text")
    return {
      request_id, prepared_dispatch, action_json
      decision_receipt_digest := decision
      authority_receipt_digest := authority
      approval_artifact_digest := approval
      state_snapshot_digest := state
      policy_bundle_digest := policy
      obligations_digest := obligations
      at_time := time
      request_id_matches := hid
      digests_sha256 := by
        intro d hd
        simp only [List.mem_cons, List.not_mem_nil, or_false] at hd
        rcases hd with rfl | rfl | rfl | rfl | rfl <;> assumption
      approval_artifact_sha256 := happroval
      at_time_text := htime }
  | _ => throw (Exn.of .contractError "at_time must be non-empty RFC3339 text")

/-- What a captured binding holds of the plan. -/
theorem capture_ok {request_id : String} {action : Dict} {prepared : PreparedDispatch}
    {decision authority approval state policy obligations at_time : Json}
    {b : ExecutionAuthorizationBinding}
    (h : capture request_id action prepared decision authority approval state policy obligations
      at_time = .ok b) :
    b.request_id = request_id ∧ b.prepared_dispatch = prepared ∧
      b.action_json = Snapshot.ofDict action ∧ Json.finite action.json = true := by
  unfold capture at h
  obtain ⟨s, hs, h⟩ := bind_ok.mp h
  obtain ⟨hfinite, rfl⟩ := snapshotObject_ok.mp hs
  obtain ⟨hid, h⟩ := ensure_bind_ok.mp h
  obtain ⟨d₁, -, h⟩ := bind_ok.mp h
  obtain ⟨d₂, -, h⟩ := bind_ok.mp h
  obtain ⟨d₃, -, h⟩ := bind_ok.mp h
  obtain ⟨d₄, -, h⟩ := bind_ok.mp h
  obtain ⟨d₅, -, h⟩ := bind_ok.mp h
  obtain ⟨⟨approval, happroval⟩, -, h⟩ := bind_ok.mp h
  simp only at h
  split at h
  · obtain ⟨htime, h⟩ := ensure_bind_ok.mp h
    obtain rfl := pure_ok.mp h
    exact ⟨rfl, rfl, rfl, hfinite⟩
  · cases h

/-- `replace(binding, at_time=...)`. -/
def withTime (b : ExecutionAuthorizationBinding) (at_time : String)
    (h : nonBlank at_time = true) : ExecutionAuthorizationBinding :=
  { b with at_time := at_time, at_time_text := h }

end ExecutionAuthorizationBinding

/-! ## Section 2: Verified evidence -/

/-- What the code reads of a verification report.  `evidence_state` and
    `decision_conformance` are the labels `_enum_label` makes of them. -/
structure VerificationReport where
  /-- `report.ok is True`. -/
  ok : Bool
  evidence_state : String
  decision_conformance : String
  /-- The reason code, if it is a text. -/
  reason_code : Option String
  /-- The failures, printed. -/
  failures : List String
  /-- The accountable principal, if it is a text. -/
  accountable_principal : Option String

/-- `VerifiedEvidence`. -/
structure VerifiedEvidence where
  stage : String
  accountable_principal : Option String
  reason_code : String

/-- A report of success: all three of its verdicts. -/
def VerificationReport.accepted (report : VerificationReport) : Bool :=
  report.ok && report.evidence_state == "VERIFIED" && report.decision_conformance == "CONFORMANT"

/-- `_report_text(report, "reason_code", fallback)`. -/
def VerificationReport.reasonText (report : VerificationReport) (fallback : String) : String :=
  match report.reason_code with
  | some reason => if reason = "" then fallback else reason
  | none => fallback

/-- `_with_failures`. -/
def VerificationReport.withFailures (report : VerificationReport) (reason : String) : String :=
  if report.failures = [] then reason
  else reason ++ ":" ++ String.intercalate "; " (report.failures.take 3)

/-- `PrivateVaultEvidenceRejected`. -/
def evidenceRejected (stage evidence_state decision_conformance reason_code : String) : Exn :=
  Exn.of .privateVaultEvidenceRejected
    s!"{stage}_rejected:{evidence_state}:{decision_conformance}:{reason_code}"

/-- `_require_accepted`. -/
def requireAccepted (stage : String) (report : VerificationReport) : Raises VerifiedEvidence :=
  if report.accepted then
    .ok {
      stage
      accountable_principal := report.accountable_principal.filter (· ≠ "")
      reason_code := report.reasonText "ACCEPTED" }
  else
    .error (evidenceRejected stage report.evidence_state report.decision_conformance
      (report.withFailures (report.reasonText "MALFORMED_VERIFICATION_REPORT")))

theorem requireAccepted_ok {stage : String} {report : VerificationReport} {e : VerifiedEvidence}
    (h : requireAccepted stage report = .ok e) : report.accepted = true := by
  unfold requireAccepted at h
  by_cases haccepted : report.accepted = true
  · exact haccepted
  · rw [if_neg haccepted] at h
    cases h

/-- `VerifiedAuthorization`. -/
structure VerifiedAuthorization where
  binding : ExecutionAuthorizationBinding
  evidence : VerifiedEvidence
  authorization_json : Snapshot
  trust_bundle_json : Snapshot

/-- `verified.authorization`. -/
def VerifiedAuthorization.authorization (v : VerifiedAuthorization) : Dict :=
  v.authorization_json.restore

/-- `verified.trust_bundle`. -/
def VerifiedAuthorization.trustBundle (v : VerifiedAuthorization) : Dict :=
  v.trust_bundle_json.restore

/-- `VerifiedDispatch`. -/
structure VerifiedDispatch where
  authorization : VerifiedAuthorization
  evidence : VerifiedEvidence
  witness_json : Snapshot

/-- `verified.witness`. -/
def VerifiedDispatch.witness (v : VerifiedDispatch) : Dict := v.witness_json.restore

/-- `VerifiedClosure`. -/
structure VerifiedClosure where
  dispatch : VerifiedDispatch
  evidence : VerifiedEvidence
  closure_json : Snapshot

/-- `AuthorizationUse`: one claim of an execution authorization. -/
structure AuthorizationUse where
  organisation_id : String
  execution_authorization_id : String
  authorization_digest : String
  request_id : String
  claimed_at : String
  texts : ∀ s ∈ [organisation_id, execution_authorization_id, request_id, claimed_at],
    nonBlank s = true
  authorization_sha256 : isSha256Digest authorization_digest = true
  deriving DecidableEq

/-- The constructor with the checks of `__post_init__`, in their order. -/
def AuthorizationUse.new (organisation_id execution_authorization_id authorization_digest request_id
    claimed_at : String) : Raises AuthorizationUse := do
  let blank (name : String) := Exn.of .valueError s!"{name} must be non-empty text"
  let ⟨h₁⟩ ← ensure (nonBlank organisation_id = true) (blank "organisation_id")
  let ⟨h₂⟩ ← ensure (nonBlank execution_authorization_id = true)
    (blank "execution_authorization_id")
  let ⟨h₃⟩ ← ensure (nonBlank request_id = true) (blank "request_id")
  let ⟨h₄⟩ ← ensure (nonBlank claimed_at = true) (blank "claimed_at")
  let ⟨h₅⟩ ← ensure (isSha256Digest authorization_digest = true)
    (Exn.of .valueError "authorization_digest must be a sha256 digest")
  return {
    organisation_id, execution_authorization_id, authorization_digest, request_id, claimed_at
    texts := by
      intro s hs
      simp only [List.mem_cons, List.not_mem_nil, or_false] at hs
      rcases hs with rfl | rfl | rfl | rfl <;> assumption
    authorization_sha256 := h₅ }

theorem AuthorizationUse.new_ok {org id digest request time : String} {u : AuthorizationUse}
    (h : AuthorizationUse.new org id digest request time = .ok u) :
    u.organisation_id = org ∧ u.execution_authorization_id = id ∧
      u.authorization_digest = digest ∧ u.request_id = request ∧ u.claimed_at = time := by
  unfold AuthorizationUse.new at h
  obtain ⟨h₁, h⟩ := ensure_bind_ok.mp h
  obtain ⟨h₂, h⟩ := ensure_bind_ok.mp h
  obtain ⟨h₃, h⟩ := ensure_bind_ok.mp h
  obtain ⟨h₄, h⟩ := ensure_bind_ok.mp h
  obtain ⟨h₅, h⟩ := ensure_bind_ok.mp h
  obtain rfl := pure_ok.mp h
  exact ⟨rfl, rfl, rfl, rfl, rfl⟩

/-! ## Section 3: Dispatch -/

/-- `WitnessIdentity`. -/
structure WitnessIdentity where
  witness_component_id : String
  signer_key_id : String
  independent : Bool

/-- `CredentialHeader`: a credential resolved inside the sidecar. -/
structure CredentialHeader where
  name : String
  value : String

/-- `TargetResponse`.  The response bytes are `none` if they are no bytes. -/
structure TargetResponse where
  dispatch_outcome : String
  response_status : String
  response_bytes : Option ByteArray
  effect_state : String
  output : PyVal

/-- `DispatchResult`: what the dispatch boundary observed and signed.  The
    witness is `none` if the signer returned no mapping. -/
structure DispatchResult where
  witness : Option Dict
  dispatch_outcome : String
  response_status : String
  response_bytes : ByteArray
  effect_state : String
  output : PyVal
  closure : Option Dict

/-- A response of the sidecar: its members, with the output kept apart since
    it need not be a JSON value. -/
structure SidecarResponse where
  fields : Dict
  output : PyVal

/-! ## Section 4: The signature -/

/-- The agent process or the sidecar process. -/
inductive Side where
  | agent
  | sidecar
  deriving DecidableEq

/-- The operations of the ports. -/
inductive PortOp where
  /-- `planner.plan(action)`. -/
  | plan (action : ActionIntent)
  /-- `decision_client.decide(action, binding=binding)`. -/
  | decide (action : ActionIntent) (binding : DecisionBinding)
  /-- `issuer.issue(...)`. -/
  | issue (action : ActionIntent) (decision : PrivateVaultDecision) (planned : PlannedDispatch)
  /-- `witness_id_factory(action)`. -/
  | witnessId (action : ActionIntent)
  /-- `clock()`. -/
  | clock (side : Side)
  /-- Agent DNA's `verify_execution_authorization`.  The values it is told to
      expect are those of the binding. -/
  | verifyExecutionAuthorization (authorization : Dict) (trust_bundle : Option Dict)
      (binding : ExecutionAuthorizationBinding) (already_consumed : Bool)
  /-- Agent DNA's `verify_dispatch_witness`. -/
  | verifyDispatchWitness (witness : Option Dict) (authorization trust_bundle : Dict)
      (binding : ExecutionAuthorizationBinding)
  /-- Agent DNA's `verify_closure_chain`. -/
  | verifyClosureChain (authorization witness : Dict) (closure : Option Dict) (trust_bundle : Dict)
  /-- Agent DNA's `execution_authorization_digest`. -/
  | digest (authorization : Dict)
  /-- `consumption_store.is_consumed(use)`. -/
  | isConsumed (use : AuthorizationUse)
  /-- `consumption_store.claim_once(use)`. -/
  | claimOnce (use : AuthorizationUse)
  /-- The RPC channel on the way to the sidecar. -/
  | deliver (payload : Dict)
  /-- The RPC channel on the way back. -/
  | respond (response : SidecarResponse)
  /-- `credential_provider.resolve(audience)`. -/
  | resolve (audience : String)
  /-- `connector.open(dispatch)`. -/
  | open (dispatch : Dict)
  /-- `channel.send_exact(...)`. -/
  | sendExact (wire_bytes : ByteArray) (wire_content_type wire_content_encoding : String)
      (credential : CredentialHeader)
  /-- `channel.close()`. -/
  | close
  /-- `witness_signer(metadata, ...)`. -/
  | signWitness (side : Side) (metadata authorization trust_bundle action dispatch : Dict)
      (wire_bytes peer_identity_bytes : ByteArray)
  /-- `closure_writer.seal(...)`. -/
  | seal (authorization witness trust_bundle : Dict) (dispatch_outcome response_status : String)
      (response_bytes : ByteArray) (effect_state idempotency_key_digest : String)
  /-- `response_encoder(output)` of the in-process transport. -/
  | encodeResponse (output : PyVal)

/-- The answers of the ports.  A signer or writer may answer something that
    is no JSON object (`none`); `open` answers the observed peer identity. -/
abbrev PortOp.Ans : PortOp → Type
  | .plan _ => Raises PlannedDispatch
  | .decide _ _ => Raises PrivateVaultDecision
  | .issue _ _ _ => Raises IssuedAuthorization
  | .witnessId _ => Raises String
  | .clock _ => Raises String
  | .verifyExecutionAuthorization _ _ _ _ => Raises VerificationReport
  | .verifyDispatchWitness _ _ _ _ => Raises VerificationReport
  | .verifyClosureChain _ _ _ _ => Raises VerificationReport
  | .digest _ => Raises Json
  | .isConsumed _ => Raises Bool
  | .claimOnce _ => Raises Bool
  | .deliver _ => Raises Dict
  | .respond _ => Raises Unit
  | .resolve _ => Raises CredentialHeader
  | .open _ => Raises ByteArray
  | .sendExact _ _ _ _ => Raises TargetResponse
  | .close => Raises Unit
  | .signWitness _ _ _ _ _ _ _ _ => Raises (Option Dict)
  | .seal _ _ _ _ _ _ _ _ => Raises (Option Dict)
  | .encodeResponse _ => Raises ByteArray

/-- The signature of the ports. -/
abbrev PortSig : Sig := ⟨PortOp, PortOp.Ans⟩

/-- A program over the ports that may raise. -/
abbrev PortM (α : Type) : Type := Fallible PortSig Exn α

/-- An event of the ports. -/
abbrev PortEvent : Type := PortSig.Event

end CBrain

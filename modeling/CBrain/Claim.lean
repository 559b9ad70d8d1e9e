import CBrain.Ports

/-! # Verification and claim of an authorization

    Models `PrivateVaultAgentDNAVerifier`
    (`cbrain/adapters/privatevault_execution.py`),
    `PrivateVaultAuthorizationUseFactory`
    (`cbrain/adapters/privatevault_consumption.py`) and
    `PrivateVaultAuthorizationClaimCoordinator`
    (`cbrain/adapters/privatevault_claim.py`).
-/

namespace CBrain

open Effect
open Effect.Fallible (call raising mapError Succeeds)
open Json (Dict)

/-! ## Section 1: Verification -/

/-- `_invoke`: every exception of a verifier becomes one of this package. -/
def invoke (stage : String) (verifier : PortM VerificationReport) : PortM VerificationReport :=
  mapError (fun exc => Exn.of .privateVaultExecutionError
    s!"{stage}_verification_failed:{exc.name}") verifier

/-- A snapshot of an object that may be `None`. -/
def snapshotOptional (value : Option Dict) (path : String) : Raises (Option Snapshot) :=
  match value with
  | none => .ok none
  | some d => do
    let s ← snapshotObject d path
    return some s

/-- `verifier.verify_authorization`. -/
def verifyAuthorization (authorization : Dict) (trust_bundle : Option Dict)
    (binding : ExecutionAuthorizationBinding) (already_consumed : Bool) :
    PortM VerifiedAuthorization := do
  let authorization_json ← raising (snapshotObject authorization "execution_authorization")
  let trust_bundle_json ← raising (snapshotOptional trust_bundle "trust_bundle")
  let report ← invoke "authorization" (call (.verifyExecutionAuthorization
    authorization_json.restore (trust_bundle_json.map Snapshot.restore) binding
    already_consumed) rfl)
  let evidence ← raising (requireAccepted "authorization" report)
  match trust_bundle_json with
  | none =>
    throw (evidenceRejected "authorization" "UNVERIFIABLE" "NOT_ASSESSABLE"
      "TRUST_BUNDLE_UNAVAILABLE")
  | some trust_bundle_json =>
    return ⟨binding, evidence, authorization_json, trust_bundle_json⟩

/-- `verifier.verify_dispatch`. -/
def verifyDispatch (verified_authorization : VerifiedAuthorization) (witness : Option Dict) :
    PortM VerifiedDispatch := do
  let witness_json ← raising (snapshotOptional witness "dispatch_witness")
  let report ← invoke "dispatch" (call (.verifyDispatchWitness
    (witness_json.map Snapshot.restore) verified_authorization.authorization
    verified_authorization.trustBundle verified_authorization.binding) rfl)
  let evidence ← raising (requireAccepted "dispatch" report)
  match witness_json with
  | none =>
    throw (evidenceRejected "dispatch" "ABSENT" "NOT_ASSESSABLE" "DISPATCH_WITNESS_ABSENT")
  | some witness_json => return ⟨verified_authorization, evidence, witness_json⟩

/-- `verifier.verify_closure`. -/
def verifyClosure (verified_dispatch : VerifiedDispatch) (closure : Option Dict) :
    PortM VerifiedClosure := do
  let closure_json ← raising (snapshotOptional closure "closure_record")
  let report ← invoke "closure" (call (.verifyClosureChain
    verified_dispatch.authorization.authorization verified_dispatch.witness
    (closure_json.map Snapshot.restore) verified_dispatch.authorization.trustBundle) rfl)
  let evidence ← raising (requireAccepted "closure" report)
  match closure_json with
  | none =>
    throw (evidenceRejected "closure" "ABSENT" "NOT_ASSESSABLE" "CLOSURE_RECORD_ABSENT")
  | some closure_json => return ⟨verified_dispatch, evidence, closure_json⟩

/-! ## Section 2: The claim -/

/-- `_required_text` of the use factory. -/
def requiredAuthorizationText (authorization : Dict) (key : String) : Raises String :=
  requiredMember
    (Exn.parts .privateVaultExecutionError
      [.text "authorization field ", .repr (.str key), .text " is invalid"])
    (authorization.get key)

/-- `use_factory.create_candidate`. -/
def createCandidate (authorization : Dict) (binding : ExecutionAuthorizationBinding)
    (claimed_at : String) : PortM AuthorizationUse := do
  let organisation_id ← raising (requiredAuthorizationText authorization "organisation_id")
  let authorization_id ← raising
    (requiredAuthorizationText authorization "execution_authorization_id")
  let signed_request_id ← raising (requiredAuthorizationText authorization "request_id")
  raising (require (signed_request_id = binding.request_id)
    (Exn.of .privateVaultExecutionError "authorization request_id mismatch"))
  let digest ← mapError (fun exc => Exn.of .privateVaultExecutionError
      s!"execution authorization digest failed:{exc.name}")
    (call (.digest authorization) rfl)
  match digest with
  | .str digest =>
    mapError (fun exc =>
        if exc.kind.isValueError then
          Exn.of .privateVaultExecutionError "execution authorization claim is invalid"
        else exc)
      (raising (AuthorizationUse.new organisation_id authorization_id digest binding.request_id
        claimed_at))
  | _ =>
    throw (Exn.of .privateVaultExecutionError "execution authorization digest is invalid")

/-- `_consumed_error`. -/
def consumedError : Exn :=
  evidenceRejected "authorization" "VERIFIED" "NON_CONFORMANT" "EXECUTION_AUTHORIZATION_CONSUMED"

/-- `coordinator.verify_and_claim`. -/
def verifyAndClaim (authorization : Dict) (trust_bundle : Option Dict)
    (binding : ExecutionAuthorizationBinding) (claimed_at : Option String) :
    PortM VerifiedAuthorization := do
  let claim_time := claimed_at.getD binding.at_time
  let ⟨htime⟩ ← raising (ensure (nonBlank claim_time = true)
    (Exn.of .privateVaultExecutionError "authorization claim time is invalid"))
  let binding := binding.withTime claim_time htime
  let authorization_json ← raising (snapshotObject authorization "execution_authorization")
  let candidate ← createCandidate authorization_json.restore binding claim_time
  let already_consumed ← call (.isConsumed candidate) rfl
  let verified ← verifyAuthorization authorization_json.restore trust_bundle binding
    already_consumed
  raising (require (already_consumed = false) consumedError)
  -- The use is built again, from what was verified.
  let verified_use ← createCandidate verified.authorization verified.binding claim_time
  raising (require (verified_use = candidate)
    (Exn.of .privateVaultExecutionError "authorization changed during verification"))
  let claimed ← call (.claimOnce verified_use) rfl
  raising (require (claimed = true) consumedError)
  return verified

/-! ## Section 3: What a claim shows -/

/-- Sending the authorized bytes to the target. -/
def PortOp.isSend : PortOp → Bool
  | .sendExact _ _ _ _ => true
  | _ => false

/-- The number of `send_exact` calls among events. -/
abbrev sends (log : List PortEvent) : Nat := marked (E := PortSig) PortOp.isSend log

theorem sends_snoc (log : List PortEvent) (o : PortOp) (x : o.Ans) :
    sends (log ++ [⟨o, x⟩]) = sends log + if o.isSend then 1 else 0 :=
  marked_snoc _ log o x

section
variable {guard : List PortEvent → PortOp → Prop} {now : List PortEvent}

/-- Agent DNA was asked about an authorization for the binding, and accepted
    it. -/
def AuthorizationAccepted (binding : ExecutionAuthorizationBinding) (log : List PortEvent) : Prop :=
  ∃ authorization trust_bundle already_consumed report,
    (⟨.verifyExecutionAuthorization authorization trust_bundle binding already_consumed,
      .ok report⟩ : PortEvent) ∈ log ∧ report.accepted = true

/-- Agent DNA was asked about the witness for a binding, and accepted it. -/
def WitnessAccepted (binding : ExecutionAuthorizationBinding) (witness : Dict)
    (log : List PortEvent) : Prop :=
  ∃ authorization trust_bundle report,
    (⟨.verifyDispatchWitness (some witness) authorization trust_bundle binding,
      .ok report⟩ : PortEvent) ∈ log ∧ report.accepted = true

/-- Agent DNA was asked about the closure of the witness, and accepted it. -/
def ClosureAccepted (witness closure : Dict) (log : List PortEvent) : Prop :=
  ∃ authorization trust_bundle report,
    (⟨.verifyClosureChain authorization witness (some closure) trust_bundle,
      .ok report⟩ : PortEvent) ∈ log ∧ report.accepted = true

theorem AuthorizationAccepted.mono {binding : ExecutionAuthorizationBinding}
    {before after : List PortEvent} (h : AuthorizationAccepted binding before)
    (hsub : before ⊆ after) : AuthorizationAccepted binding after := by
  obtain ⟨a, t, c, report, hmem, haccepted⟩ := h
  exact ⟨a, t, c, report, hsub hmem, haccepted⟩

theorem WitnessAccepted.mono {binding : ExecutionAuthorizationBinding} {witness : Dict}
    {before after : List PortEvent} (h : WitnessAccepted binding witness before)
    (hsub : before ⊆ after) : WitnessAccepted binding witness after := by
  obtain ⟨a, t, report, hmem, haccepted⟩ := h
  exact ⟨a, t, report, hsub hmem, haccepted⟩

/-- A verifier call whose report was accepted. -/
theorem invoke_quiet {stage : String} {o : PortOp} {h : PortOp.Ans o = Raises VerificationReport}
    (ho : o.isSend = false) :
    QuietMeets PortOp.isSend guard
      (fun later report => (⟨o, cast h.symm (.ok report)⟩ : PortEvent) ∈ later) now
      (invoke stage (call (E := PortSig) o h)) :=
  (QuietMeets.ofCall ho).mapError

theorem snapshotOptional_some {d : Dict} {path : String} {s : Option Snapshot}
    (h : snapshotOptional (some d) path = .ok s) : s = some (Snapshot.ofDict d) := by
  obtain ⟨t, ht, h⟩ := bind_ok.mp h
  rw [← pure_ok.mp h, (snapshotObject_ok.mp ht).2]

/-- `verify_authorization` returns what the verifier accepted. -/
theorem verifyAuthorization_quiet {authorization : Dict} {trust_bundle : Option Dict}
    {binding : ExecutionAuthorizationBinding} {already_consumed : Bool} :
    QuietMeets PortOp.isSend guard
      (fun later verified => verified.binding = binding ∧
        verified.authorization = authorization ∧ AuthorizationAccepted binding later) now
      (verifyAuthorization authorization trust_bundle binding already_consumed) := by
  refine (QuietMeets.ofRaising (Q := fun _ s => s = Snapshot.ofDict authorization)
    fun s hs => (snapshotObject_ok.mp hs).2).bind ?_
  intro now s _ hs
  refine (QuietMeets.ofRaising (Q := fun _ _ => True) fun _ _ => trivial).bind ?_
  intro now trust_bundle_json _ _
  refine (invoke_quiet rfl).bind ?_
  intro now report _ hreport
  refine (QuietMeets.ofRaising (Q := fun _ _ => report.accepted = true)
    fun e he => requireAccepted_ok he).bind ?_
  intro later evidence hq haccepted
  cases trust_bundle_json with
  | none => exact QuietMeets.ofThrow
  | some t =>
    refine QuietMeets.ofPure ⟨rfl, ?_, _, _, _, report, hq.mem hreport, haccepted⟩
    rw [VerifiedAuthorization.authorization, hs, Snapshot.restore_ofDict]

/-- `verify_dispatch` returns the witness the verifier accepted. -/
theorem verifyDispatch_quiet {verified : VerifiedAuthorization} {witness : Dict} :
    QuietMeets PortOp.isSend guard
      (fun later dispatch => dispatch.authorization = verified ∧ dispatch.witness = witness ∧
        WitnessAccepted verified.binding witness later) now
      (verifyDispatch verified (some witness)) := by
  refine (QuietMeets.ofRaising (Q := fun _ s => s = some (Snapshot.ofDict witness))
    fun s hs => snapshotOptional_some hs).bind ?_
  intro now s _ hs
  subst hs
  rw [Option.map_some, Snapshot.restore_ofDict]
  refine (invoke_quiet rfl).bind ?_
  intro now report _ hreport
  refine (QuietMeets.ofRaising (Q := fun _ _ => report.accepted = true)
    fun e he => requireAccepted_ok he).bind ?_
  intro later evidence hq haccepted
  exact QuietMeets.ofPure
    ⟨rfl, Snapshot.restore_ofDict witness, _, _, report, hq.mem hreport, haccepted⟩

/-- Without a witness `verify_dispatch` raises. -/
theorem verifyDispatch_none {verified : VerifiedAuthorization}
    {Q : List PortEvent → VerifiedDispatch → Prop} :
    QuietMeets PortOp.isSend guard Q now (verifyDispatch verified none) := by
  refine (QuietMeets.ofRaising (Q := fun _ s => s = none) fun s hs => ?_).bind ?_
  · exact (Except.ok.inj hs).symm
  intro now s _ hs
  subst hs
  refine (invoke_quiet rfl).bind ?_
  intro now report _ _
  refine (QuietMeets.ofRaising (Q := fun _ _ => True) fun _ _ => trivial).bind ?_
  intro later evidence _ _
  exact QuietMeets.ofThrow

/-- `verify_closure` returns if the verifier accepted the closure. -/
theorem verifyClosure_quiet {dispatch : VerifiedDispatch} {closure : Dict} :
    QuietMeets PortOp.isSend guard
      (fun later _ => ClosureAccepted dispatch.witness closure later) now
      (verifyClosure dispatch (some closure)) := by
  refine (QuietMeets.ofRaising (Q := fun _ s => s = some (Snapshot.ofDict closure))
    fun s hs => snapshotOptional_some hs).bind ?_
  intro now s _ hs
  subst hs
  rw [Option.map_some, Snapshot.restore_ofDict]
  refine (invoke_quiet rfl).bind ?_
  intro now report _ hreport
  refine (QuietMeets.ofRaising (Q := fun _ _ => report.accepted = true)
    fun e he => requireAccepted_ok he).bind ?_
  intro later evidence hq haccepted
  exact QuietMeets.ofPure ⟨_, _, report, hq.mem hreport, haccepted⟩

/-- The key a use is unique for: organisation and authorization id. -/
def AuthorizationUse.key (u : AuthorizationUse) : String × String :=
  (u.organisation_id, u.execution_authorization_id)

/-- The key an authorization document names, if it names one. -/
def authorizationKey (authorization : Dict) : Option (String × String) :=
  match authorization.get "organisation_id", authorization.get "execution_authorization_id" with
  | .str organisation, .str id => some (organisation, id)
  | _, _ => none

/-- A candidate is for the authorization's key and the given time. -/
theorem createCandidate_quiet {authorization : Dict} {binding : ExecutionAuthorizationBinding}
    {claimed_at : String} :
    QuietMeets PortOp.isSend guard
      (fun _ u => authorizationKey authorization = some u.key ∧ u.claimed_at = claimed_at) now
      (createCandidate authorization binding claimed_at) := by
  refine (QuietMeets.ofRaising
    (Q := fun _ s => authorization.get "organisation_id" = .str s)
    fun s hs => (requiredMember_ok.mp hs).1).bind ?_
  intro now organisation _ horganisation
  refine (QuietMeets.ofRaising
    (Q := fun _ s => authorization.get "execution_authorization_id" = .str s)
    fun s hs => (requiredMember_ok.mp hs).1).bind ?_
  intro now id _ hid
  refine (QuietMeets.ofRaising (Q := fun _ _ => True) fun _ _ => trivial).bind ?_
  intro now signed _ _
  refine (QuietMeets.ofRaising (Q := fun _ _ => True) fun _ _ => trivial).bind ?_
  intro now _ _ _
  refine ((QuietMeets.ofCall rfl).mapError).bind ?_
  intro now digest _ _
  cases digest with
  | str digest =>
    refine (QuietMeets.ofRaising fun u hu => ?_).mapError
    obtain ⟨h₁, h₂, -, -, h₅⟩ := AuthorizationUse.new_ok hu
    refine ⟨?_, h₅⟩
    rw [authorizationKey, horganisation, hid, AuthorizationUse.key, h₁, h₂]
  | _ => exact QuietMeets.ofThrow

/-- A won claim for the key at the time is among the events. -/
def ClaimWon (key : Option (String × String)) (claimed_at : String) (log : List PortEvent) :
    Prop :=
  ∃ u : AuthorizationUse, key = some u.key ∧ u.claimed_at = claimed_at ∧
    (⟨.claimOnce u, .ok true⟩ : PortEvent) ∈ log

/-- `verify_and_claim` returns only after a claim it won, for this
    authorization at this time. -/
theorem verifyAndClaim_quiet {authorization : Dict} {trust_bundle : Option Dict}
    {binding : ExecutionAuthorizationBinding} {claimed_at : String} :
    QuietMeets PortOp.isSend guard
      (fun later _ => ClaimWon (authorizationKey authorization) claimed_at later) now
      (verifyAndClaim authorization trust_bundle binding (some claimed_at)) := by
  refine (QuietMeets.ofRaising (Q := fun _ _ => True) fun _ _ => trivial).bind ?_
  rintro now ⟨htime⟩ _ _
  refine (QuietMeets.ofRaising (Q := fun _ s => s = Snapshot.ofDict authorization)
    fun s hs => (snapshotObject_ok.mp hs).2).bind ?_
  intro now s _ hs
  subst hs
  rw [Snapshot.restore_ofDict]
  refine createCandidate_quiet.bind ?_
  rintro now candidate _ ⟨hkey, hclaimed⟩
  refine (QuietMeets.ofCall rfl).bind ?_
  intro now already_consumed _ _
  refine verifyAuthorization_quiet.bind ?_
  intro now verified _ _
  refine (QuietMeets.ofRaising (Q := fun _ _ => True) fun _ _ => trivial).bind ?_
  intro now _ _ _
  refine createCandidate_quiet.bind ?_
  intro now verified_use _ _
  refine (QuietMeets.ofRaising (Q := fun _ _ => verified_use = candidate)
    fun _ h => require_ok.mp h).bind ?_
  intro now _ _ hsame
  subst hsame
  refine (QuietMeets.ofCall rfl).bind ?_
  intro now claimed _ hclaim
  refine (QuietMeets.ofRaising (Q := fun _ _ => claimed = true)
    fun _ h => require_ok.mp h).bind ?_
  intro later _ hq hwon
  subst hwon
  exact QuietMeets.ofPure ⟨verified_use, hkey, hclaimed, hq.mem hclaim⟩

end

/-! ## Section 4: Claims that succeed -/

/-- The evidence of an accepted report. -/
def VerificationReport.evidence (report : VerificationReport) (stage : String) :
    VerifiedEvidence where
  stage := stage
  accountable_principal := report.accountable_principal.filter (· ≠ "")
  reason_code := report.reasonText "ACCEPTED"

theorem requireAccepted_of_accepted {stage : String} {report : VerificationReport}
    (h : report.accepted = true) : requireAccepted stage report = .ok (report.evidence stage) := by
  rw [requireAccepted, if_pos h]
  rfl

/-- A condition that holds is passed. -/
theorem succeeds_require_bind {p : Prop} [Decidable p] {e : Exn} {α : Type} {f : Unit → PortM α}
    {log : List PortEvent} {a : α} (hp : p) (h : Succeeds (f ()) log a) :
    Succeeds (raising (require p e) >>= f) log a :=
  Succeeds.raising_bind (require_ok.mpr hp) h

theorem snapshotOptional_finite {d : Dict} {path : String} (h : Json.finite d.json = true) :
    snapshotOptional (some d) path = .ok (some (Snapshot.ofDict d)) :=
  bind_ok.mpr ⟨_, snapshotObject_ok.mpr ⟨h, rfl⟩, rfl⟩

theorem verifyAuthorization_succeeds {authorization trust_bundle : Dict}
    {binding : ExecutionAuthorizationBinding} {already_consumed : Bool}
    {report : VerificationReport} (hauthorization : Json.finite authorization.json = true)
    (htrust : Json.finite trust_bundle.json = true) (hreport : report.accepted = true) :
    Succeeds (verifyAuthorization authorization (some trust_bundle) binding already_consumed)
      [⟨.verifyExecutionAuthorization authorization (some trust_bundle) binding already_consumed,
        .ok report⟩]
      ⟨binding, report.evidence "authorization", Snapshot.ofDict authorization,
        Snapshot.ofDict trust_bundle⟩ := by
  unfold verifyAuthorization
  refine Succeeds.raising_bind (snapshotObject_ok.mpr ⟨hauthorization, rfl⟩) ?_
  refine Succeeds.raising_bind (snapshotOptional_finite htrust) ?_
  rw [Option.map_some, Snapshot.restore_ofDict, Snapshot.restore_ofDict]
  refine (Succeeds.ofCall report).mapError.bind ?_
  refine Succeeds.raising_bind (requireAccepted_of_accepted hreport) ?_
  exact Succeeds.ofPure _

theorem verifyDispatch_succeeds {verified : VerifiedAuthorization} {witness : Dict}
    {report : VerificationReport} (hwitness : Json.finite witness.json = true)
    (hreport : report.accepted = true) :
    Succeeds (verifyDispatch verified (some witness))
      [⟨.verifyDispatchWitness (some witness) verified.authorization verified.trustBundle
        verified.binding, .ok report⟩]
      ⟨verified, report.evidence "dispatch", Snapshot.ofDict witness⟩ := by
  unfold verifyDispatch
  refine Succeeds.raising_bind (snapshotOptional_finite hwitness) ?_
  rw [Option.map_some, Snapshot.restore_ofDict]
  refine (Succeeds.ofCall report).mapError.bind ?_
  refine Succeeds.raising_bind (requireAccepted_of_accepted hreport) ?_
  exact Succeeds.ofPure _

theorem verifyClosure_succeeds {dispatch : VerifiedDispatch} {closure : Dict}
    {report : VerificationReport} (hclosure : Json.finite closure.json = true)
    (hreport : report.accepted = true) :
    Succeeds (verifyClosure dispatch (some closure))
      [⟨.verifyClosureChain dispatch.authorization.authorization dispatch.witness (some closure)
        dispatch.authorization.trustBundle, .ok report⟩]
      ⟨dispatch, report.evidence "closure", Snapshot.ofDict closure⟩ := by
  unfold verifyClosure
  refine Succeeds.raising_bind (snapshotOptional_finite hclosure) ?_
  rw [Option.map_some, Snapshot.restore_ofDict]
  refine (Succeeds.ofCall report).mapError.bind ?_
  refine Succeeds.raising_bind (requireAccepted_of_accepted hreport) ?_
  exact Succeeds.ofPure _

/-- A use's own fields pass the constructor. -/
theorem AuthorizationUse.new_self (u : AuthorizationUse) :
    AuthorizationUse.new u.organisation_id u.execution_authorization_id u.authorization_digest
      u.request_id u.claimed_at = .ok u := by
  have htexts := u.texts
  simp only [List.forall_mem_cons, List.not_mem_nil, false_implies, implies_true, and_true]
    at htexts
  obtain ⟨h₁, h₂, h₃, h₄⟩ := htexts
  simp only [AuthorizationUse.new, ensure_bind_pos h₁, ensure_bind_pos h₂, ensure_bind_pos h₃,
    ensure_bind_pos h₄, ensure_bind_pos u.authorization_sha256]
  rfl

/-- The authorization names the use. -/
structure AuthorizationUse.NamedBy (u : AuthorizationUse) (authorization : Dict)
    (binding : ExecutionAuthorizationBinding) : Prop where
  organisation_id : authorization.get "organisation_id" = .str u.organisation_id
  execution_authorization_id :
    authorization.get "execution_authorization_id" = .str u.execution_authorization_id
  request_id : authorization.get "request_id" = .str u.request_id
  binding_request_id : binding.request_id = u.request_id

theorem createCandidate_succeeds {authorization : Dict} {binding : ExecutionAuthorizationBinding}
    {u : AuthorizationUse} (h : u.NamedBy authorization binding) :
    Succeeds (createCandidate authorization binding u.claimed_at)
      [⟨.digest authorization, .ok (.str u.authorization_digest)⟩] u := by
  have htext : ∀ key s, authorization.get key = .str s → nonBlank s = true →
      requiredAuthorizationText authorization key = .ok s :=
    fun key s hget hs => requiredMember_ok.mpr ⟨hget, hs⟩
  unfold createCandidate
  refine Succeeds.raising_bind (htext _ _ h.organisation_id (u.texts _ (by simp))) ?_
  refine Succeeds.raising_bind (htext _ _ h.execution_authorization_id (u.texts _ (by simp))) ?_
  refine Succeeds.raising_bind (htext _ _ h.request_id (u.texts _ (by simp))) ?_
  refine succeeds_require_bind h.binding_request_id.symm ?_
  refine (Succeeds.ofCall (Json.str u.authorization_digest)).mapError.bind ?_
  simp only
  rw [h.binding_request_id]
  exact (Succeeds.ofRaising u.new_self).mapError

/-- The events of a claim that is verified and won. -/
def claimEvents (authorization trust_bundle : Dict) (binding : ExecutionAuthorizationBinding)
    (u : AuthorizationUse) (report : VerificationReport) : List PortEvent :=
  [⟨.digest authorization, .ok (.str u.authorization_digest)⟩] ++
    ⟨.isConsumed u, .ok false⟩ ::
      ([⟨.verifyExecutionAuthorization authorization (some trust_bundle) binding false,
          .ok report⟩] ++
        ([⟨.digest authorization, .ok (.str u.authorization_digest)⟩] ++
          [⟨.claimOnce u, .ok true⟩]))

theorem verifyAndClaim_succeeds {authorization trust_bundle : Dict}
    {binding : ExecutionAuthorizationBinding} {u : AuthorizationUse} {report : VerificationReport}
    (hauthorization : Json.finite authorization.json = true)
    (htrust : Json.finite trust_bundle.json = true) (hreport : report.accepted = true)
    (hu : u.NamedBy authorization binding) :
    Succeeds
      (verifyAndClaim authorization (some trust_bundle) binding (some u.claimed_at))
      (claimEvents authorization trust_bundle
        (binding.withTime u.claimed_at (u.texts _ (by simp))) u report)
      ⟨binding.withTime u.claimed_at (u.texts _ (by simp)), report.evidence "authorization",
        Snapshot.ofDict authorization, Snapshot.ofDict trust_bundle⟩ := by
  have htime : nonBlank u.claimed_at = true := u.texts _ (by simp)
  have hnamed : u.NamedBy authorization (binding.withTime u.claimed_at htime) :=
    ⟨hu.organisation_id, hu.execution_authorization_id, hu.request_id, hu.binding_request_id⟩
  have hensure : ensure (nonBlank ((some u.claimed_at).getD binding.at_time) = true)
      (Exn.of .privateVaultExecutionError "authorization claim time is invalid") =
        .ok ⟨htime⟩ := dif_pos htime
  unfold verifyAndClaim claimEvents
  refine Succeeds.raising_bind hensure ?_
  refine Succeeds.raising_bind (snapshotObject_ok.mpr ⟨hauthorization, rfl⟩) ?_
  rw [Snapshot.restore_ofDict]
  refine (createCandidate_succeeds hnamed).bind ?_
  refine Succeeds.call_bind false ?_
  refine (verifyAuthorization_succeeds hauthorization htrust hreport).bind ?_
  refine succeeds_require_bind rfl ?_
  rw [VerifiedAuthorization.authorization, Snapshot.restore_ofDict]
  refine (createCandidate_succeeds hnamed).bind ?_
  refine succeeds_require_bind rfl ?_
  refine Succeeds.call_bind true ?_
  refine succeeds_require_bind rfl ?_
  exact Succeeds.ofPure _

end CBrain

import CBrain.Agent.InsightsEngine
import CBrain.Agent.LearningHistory
import CBrain.Agent.RecorderHistory

/-! # Standing personalization

    Models `PersonalizationManager` of `cbrain/agent/insights.py`: a reviewer
    approves what people said repeatedly, and the approvals of a profile are
    compiled into its instructions.

    * A set of skill ids is given by its sorted list.
    * The verifier of reviewers is a parameter, as are `str.casefold` and the
      start of a window.
    * The clock is read once in a call, and the reading is an argument. -/

namespace CBrain.Insights

open AppendLog
open Json (Dict)
open Knowledge (isRequiredText sha256HexOf)

/-! ## Section 1: Profiles and reviewers -/

/-- `AgentProfile(...)` with other instructions. -/
def withInstructions (profile : AgentProfile) (instructions : String) : Raises AgentProfile :=
  if h : nonBlank instructions = true then
    .ok { profile with instructions := instructions, instructions_text := h }
  else .error (Exn.of .valueError "instructions must be non-empty")

/-- The texts of a reviewer principal. -/
structure Presentable (credentialShaped : String → Bool) (reviewer_id attestation : String) :
    Prop where
  id_text : isRequiredText reviewer_id = true
  attestation_text : isRequiredText attestation = true
  attestation_plain : credentialShaped attestation = false

/-- `ReviewerPrincipal`. -/
structure ReviewerPrincipal (credentialShaped : String → Bool) where
  reviewer_id : String
  attestation : String
  presentable : Presentable credentialShaped reviewer_id attestation

section manager

variable {credentialShaped : String → Bool}

theorem ReviewerPrincipal.ext {p q : ReviewerPrincipal credentialShaped}
    (hid : p.reviewer_id = q.reviewer_id) (hattestation : p.attestation = q.attestation) : p = q := by
  obtain ⟨id, attestation, h⟩ := p
  obtain ⟨id', attestation', h'⟩ := q
  obtain rfl : id = id' := hid
  obtain rfl : attestation = attestation' := hattestation
  rfl

/-- `ReviewerPrincipal(reviewer_id=..., attestation=...)`. -/
def ReviewerPrincipal.new (credentialShaped : String → Bool) (reviewer_id attestation : String) :
    Raises (ReviewerPrincipal credentialShaped) := do
  let reviewer_id ← requireText "reviewer_id" (.str reviewer_id)
  let attestation ← requireText "attestation" (.str attestation)
  rejectCredentialShaped credentialShaped attestation
  found (insightsError "reviewer principal is not presentable")
    (presentable? reviewer_id attestation)
where
  /-- The checks have passed: the texts make a principal. -/
  presentable? (reviewer_id attestation : String) : Option (ReviewerPrincipal credentialShaped) :=
    if hid : isRequiredText reviewer_id = true then
      if hattestation : isRequiredText attestation = true then
        if hplain : credentialShaped attestation = false then
          some ⟨reviewer_id, attestation, ⟨hid, hattestation, hplain⟩⟩
        else none
      else none
    else none

/-- `ReviewerVerifier.verify`; `none` is anything but a principal. -/
abbrev ReviewerVerifier (credentialShaped : String → Bool) : Type :=
  ReviewerPrincipal credentialShaped → Raises (Option (ReviewerPrincipal credentialShaped))

/-- The reads of a `LearningStore`. -/
structure LearningReads where
  list_signals : InsightsEngine.ListSignals
  load_signals : List String → Raises (List LearningSignal)
  list_approvals : Option String → Raises (List ApprovalRecord)
  load_approvals : List String → Raises (List ApprovalRecord)

/-- The reads of the store in dictionaries. -/
def InMemoryLearningStore.reads (credentialShaped : String → Bool) (store : InMemoryLearningStore) :
    LearningReads where
  list_signals agent_id since until_ := .ok (listSignals store.signals agent_id since until_)
  load_signals := load signalRecords store.signals
  list_approvals agent_id := .ok (listApprovals store.approvals agent_id)
  load_approvals := load (approvalRecords credentialShaped) store.approvals

/-! ## Section 2: The manager -/

/-- `except Kind as exc: raise PersonalizationError(message) from exc`. -/
def asPersonalizationError (kind : ExnKind) (message : String) (e : Exn) : Exn :=
  if e.kind = kind then personalizationError message else e

/-- What a failed verification raises. -/
def verificationFailed : Exn := personalizationError "reviewer verification failed"

/-- `_finalize_approval`. -/
def finalizeApproval (candidate : GuidanceCandidate)
    (reviewer : ReviewerPrincipal credentialShaped) (profile_fingerprint : String)
    (approved_at : Decimal) : Raises ApprovalRecord := do
  let draft : ApprovalRecord :=
    { schema_version := approvalSchemaVersion
      approval_id := "pending"
      candidate_hash := candidate.candidate_hash
      candidate_kind := candidate.candidate_kind
      agent_id := candidate.agent_id
      reviewer_id := reviewer.reviewer_id
      reviewer_attestation := reviewer.attestation
      profile_fingerprint
      instruction_text := candidate.body
      skill_id := candidate.skill_id
      evidence_ids := candidate.evidence_ids
      approved_at := .finite approved_at
      content_hash := "pending"
      idempotency_digest := "pending"
      idempotency_key :=
        s!"{reviewer.reviewer_id}:{candidate.candidate_hash}:{profile_fingerprint}" }
  let hashed := { draft with idempotency_digest := draft.idempotencyDigest }
  let record := { hashed with approval_id := hashed.recordHash, content_hash := hashed.recordHash }
  record.validate credentialShaped
  return record

/-- `max(latest)`, where there is one. -/
def latestOf : List JsonFloat → Option JsonFloat
  | [] => none
  | t :: ts => some (ts.foldl (fun m x => if floatLt m x then x else m) t)

/-- The sections of the instructions. -/
def sections (profile : AgentProfile) (rules skills : List ApprovalRecord) : List String :=
  String.ofList (rstripChars profile.instructions.toList) ::
    ((if rules = [] then [] else
        "## Approved personalization rules" ::
          rules.map fun approval => s!"- {approval.instruction_text}") ++
      if skills = [] then [] else
        "## Activated skills" ::
          skills.flatMap fun approval =>
            -- every skill has its id
            ["### " ++ approval.skill_id.getD "None", approval.instruction_text])

/-- `metadata["personalization"] = {...}`. -/
def personalizedMetadata (metadata : Option Dict) (fingerprint : String)
    (rules skills : List ApprovalRecord) : Dict :=
  (metadata.getD (object [])).set "personalization" (object
    [("base_profile_fingerprint", .str fingerprint),
      ("approved_rule_hashes", .texts (rules.map ApprovalRecord.candidate_hash)),
      ("active_skill_ids", .texts (skills.filterMap ApprovalRecord.skill_id))]).json (Dict.wf_json _)

/-- What `compile_profile` returns: a profile and its metadata. -/
structure CompiledProfile where
  profile : AgentProfile
  metadata : Dict

/-- `PersonalizationManager`: its verifier and its engine. -/
structure PersonalizationManager (credentialShaped : String → Bool) where
  verify : ReviewerVerifier credentialShaped
  engine : InsightsEngine

namespace PersonalizationManager

variable (casefold : String → String) (windowStart : Decimal → Nat → Raises JsonFloat)
  (manager : PersonalizationManager credentialShaped)

/-- `_verify_reviewer`. -/
def verifyReviewer (principal : ReviewerPrincipal credentialShaped) :
    Raises (ReviewerPrincipal credentialShaped) := do
  let answer ← (manager.verify principal).mapError fun e =>
    if e.kind = .personalizationError then e else verificationFailed
  let verified ← found verificationFailed answer
  require (verified.reviewer_id = principal.reviewer_id ∧
    verified.attestation = principal.attestation) verificationFailed
  return verified

/-- `_revalidate_approval`. -/
def revalidateApproval (load_signals : List String → Raises (List LearningSignal))
    (profile : AgentProfile) (approval : ApprovalRecord) : Raises GuidanceCandidate := do
  let principal ← ReviewerPrincipal.new credentialShaped approval.reviewer_id
    approval.reviewer_attestation
  let _ ← manager.verifyReviewer principal
  require (approval.agent_id = profile.agent_id)
    (personalizationError "approval agent_id does not match profile")
  let evidence ← (load_signals approval.evidence_ids).mapError
    (asPersonalizationError .learningStoreError "approval evidence is missing")
  let reconstructed ← (candidateFromHumanGroup casefold evidence).mapError
    (asPersonalizationError .insightsError "approval evidence is not a valid human group")
  require (reconstructed.candidate_hash = approval.candidate_hash ∧
      reconstructed.body = approval.instruction_text ∧
      reconstructed.evidence_ids = approval.evidence_ids ∧
      reconstructed.candidate_kind = approval.candidate_kind ∧
      reconstructed.skill_id = approval.skill_id ∧ reconstructed.agent_id = approval.agent_id)
    (personalizationError "approval does not match stored evidence")
  return reconstructed

/-- `_trusted_now`, for a reading of the clock. -/
def trustedNow (reads : LearningReads) (clock : Json) : Raises Decimal := do
  let now ← finiteTimestamp "approved_at" clock
  let signals ← reads.list_signals none none none
  let approvals ← reads.list_approvals none
  let latest := latestOf (signals.map LearningSignal.observed_at ++
    approvals.map ApprovalRecord.approved_at)
  require ((latest.all fun t => !floatLt (.finite now) t) = true)
    (personalizationError "trusted clock regression")
  return now

/-- `verify_snapshot`. -/
def verifySnapshot (reads : LearningReads) (snapshot : InsightsSnapshot) :
    Raises InsightsSnapshot := do
  let trusted ← manager.engine.analyze casefold windowStart reads.list_signals snapshot.agent_id
    (.float (.finite snapshot.generated_at))
  require (trusted.snapshot_hash = snapshot.snapshot_hash)
    (personalizationError "snapshot is fabricated or stale")
  require (trusted.candidates = snapshot.candidates ∧ trusted.findings = snapshot.findings)
    (personalizationError "snapshot is fabricated or stale")
  return trusted

/-- `approve` up to the append. -/
def approvalFor (reads : LearningReads) (candidate : GuidanceCandidate)
    (reviewer : ReviewerPrincipal credentialShaped) (profile : AgentProfile)
    (snapshot : Option InsightsSnapshot) (clock : Json) : Raises ApprovalRecord := do
  let verified ← manager.verifyReviewer reviewer
  let now ← trustedNow reads clock
  let trusted ← manager.engine.analyze casefold windowStart reads.list_signals
    (some candidate.agent_id) (.float (.finite now))
  let _ ← snapshot.mapM (manager.verifySnapshot casefold windowStart reads)
  let stale := personalizationError "candidate is fabricated, changed, or stale"
  let match_ ← found stale
    (trusted.candidates.find? fun item => item.candidate_hash == candidate.candidate_hash)
  require (match_.body = candidate.body ∧ match_.evidence_ids = candidate.evidence_ids ∧
    match_.candidate_kind = candidate.candidate_kind ∧ match_.agent_id = candidate.agent_id ∧
    match_.skill_id = candidate.skill_id) stale
  let evidence ← reads.load_signals match_.evidence_ids
  let reconstructed ← (candidateFromHumanGroup casefold evidence).mapError
    (asPersonalizationError .insightsError "candidate evidence is not a valid human group")
  require (reconstructed = match_) stale
  require (profile.agent_id = match_.agent_id)
    (personalizationError "candidate agent_id does not match profile")
  finalizeApproval match_ verified (profileFingerprint profile) now

/-- `approve` on the store in dictionaries. -/
def approve (store : InMemoryLearningStore) (candidate : GuidanceCandidate)
    (reviewer : ReviewerPrincipal credentialShaped) (profile : AgentProfile)
    (snapshot : Option InsightsSnapshot) (clock : Json) :
    Raises ApprovalRecord × InMemoryLearningStore :=
  match manager.approvalFor casefold windowStart (store.reads credentialShaped) candidate reviewer
      profile snapshot clock with
  | .error e => (.error e, store)
  | .ok record =>
    let result := InMemoryLearningStore.append (approvalRecords credentialShaped) store.approvals
      record
    (result.1, { store with approvals := result.2 })

/-- The approvals of a profile that are rules. -/
def rulesOf (approvals : List ApprovalRecord) : List ApprovalRecord :=
  (approvals.filter fun approval => approval.candidate_kind = .rule).sortBy
    ApprovalRecord.candidate_hash

/-- The approvals of a profile that are active skills. -/
def skillsOf (approvals : List ApprovalRecord) (active_skills : List String) :
    List ApprovalRecord :=
  (approvals.filter fun approval => approval.candidate_kind = .skill ∧
    ∃ skill_id ∈ approval.skill_id, skill_id ∈ active_skills).sortBy ApprovalRecord.candidate_hash

/-- `approved_skills`. -/
def approvedSkills (approvals : List ApprovalRecord) : List String :=
  (approvals.filter fun approval => approval.candidate_kind = .skill).filterMap fun approval =>
    approval.skill_id.filter fun skill_id => skill_id != ""

/-- `compile_profile`, once the approvals of the profile are known. -/
def compileFrom (profile : AgentProfile) (metadata : Option Dict) (active_skills : List String)
    (approvals : List ApprovalRecord) : Raises CompiledProfile := do
  let unknown := active_skills.filter fun skill_id => skill_id ∉ approvedSkills approvals
  require (unknown = [])
    (Exn.parts .personalizationError
      [.text "unknown or unapproved skills: ", .repr (textList unknown)])
  let rules := rulesOf approvals
  let skills := skillsOf approvals active_skills
  let compiled ← withInstructions profile ("\n\n".intercalate (sections profile rules skills))
  return ⟨compiled, personalizedMetadata metadata (profileFingerprint profile) rules skills⟩

/-- `compile_profile`. -/
def compileProfile (reads : LearningReads) (profile : AgentProfile) (metadata : Option Dict)
    (active_skills : List String) : Raises CompiledProfile := do
  require (∀ skill_id ∈ active_skills, nonBlank skill_id = true)
    (personalizationError "active skill ids must be non-empty strings")
  let listed ← reads.list_approvals (some profile.agent_id)
  let loaded ← reads.load_approvals (listed.map ApprovalRecord.approval_id)
  require (loaded = listed) (personalizationError "stored approvals could not be reconstructed")
  let _ ← loaded.mapM (manager.revalidateApproval casefold reads.load_signals profile)
  compileFrom profile metadata active_skills
    (loaded.filter fun approval => approval.profile_fingerprint = profileFingerprint profile)

end PersonalizationManager

end manager

end CBrain.Insights

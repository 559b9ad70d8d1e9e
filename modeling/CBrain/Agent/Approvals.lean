import CBrain.Agent.Insights

/-! # Approval records

    Models the approvals of `cbrain/agent/insights.py`: what a reviewer
    approved for one profile, the JSON text of the record, and the checks that
    it passes before it is stored.

    As for signals, `Sealed` says which records are their own stored form. -/

namespace CBrain.Insights

open Json (Dict)
open Knowledge (stripChars isRequiredText sha256HexOf)

/-! ## Section 1: Records -/

/-- `CandidateKind`. -/
inductive CandidateKind where
  | rule
  | skill
  deriving DecidableEq, Repr

/-- `kind.value`. -/
def CandidateKind.value : CandidateKind → String
  | .rule => "rule"
  | .skill => "skill"

/-- `CandidateKind(value)`. -/
def CandidateKind.ofValue? (value : String) : Option CandidateKind :=
  [.rule, .skill].find? fun kind => kind.value == value

@[simp] theorem CandidateKind.ofValue?_value (kind : CandidateKind) :
    CandidateKind.ofValue? kind.value = some kind := by
  cases kind <;> decide

/-- `ApprovalRecord`. -/
structure ApprovalRecord where
  schema_version : Value
  approval_id : String
  candidate_hash : String
  candidate_kind : CandidateKind
  agent_id : String
  reviewer_id : String
  reviewer_attestation : String
  profile_fingerprint : String
  instruction_text : String
  skill_id : Option String
  evidence_ids : List String
  approved_at : JsonFloat
  content_hash : String
  idempotency_digest : String
  idempotency_key : String
  deriving DecidableEq

/-- `APPROVAL_SCHEMA_VERSION`. -/
def approvalSchemaVersion : Value := .nat 2

/-- `APPROVAL_RECORD_KEYS`. -/
def approvalRecordKeys : List String :=
  ["schema_version", "approval_id", "candidate_hash", "candidate_kind", "agent_id", "reviewer_id",
    "reviewer_attestation", "profile_fingerprint", "instruction_text", "skill_id", "evidence_ids",
    "approved_at", "content_hash", "idempotency_digest", "idempotency_key"]

theorem allowable_approvalRecordKeys : Allowable approvalRecordKeys := by decide +kernel

namespace ApprovalRecord

/-- The members of `to_mapping`. -/
def members (r : ApprovalRecord) : List (String × Value) :=
  [("schema_version", r.schema_version), ("approval_id", .str r.approval_id),
    ("candidate_hash", .str r.candidate_hash), ("candidate_kind", .str r.candidate_kind.value),
    ("agent_id", .str r.agent_id), ("reviewer_id", .str r.reviewer_id),
    ("reviewer_attestation", .str r.reviewer_attestation),
    ("profile_fingerprint", .str r.profile_fingerprint),
    ("instruction_text", .str r.instruction_text), ("skill_id", .optText r.skill_id),
    ("evidence_ids", .texts r.evidence_ids), ("approved_at", .float r.approved_at),
    ("content_hash", .str r.content_hash), ("idempotency_digest", .str r.idempotency_digest),
    ("idempotency_key", .str r.idempotency_key)]

/-- `to_mapping`. -/
def toMapping (r : ApprovalRecord) : Raises Dict := do
  requireExactKeys (object r.members) approvalRecordKeys
  return object r.members

/-- `to_json`. -/
def toJson (r : ApprovalRecord) : Raises (List Char) := do
  let payload ← r.toMapping
  return canonicalJson payload

/-- The members of `_approval_semantic_payload`. -/
def semanticMembers (r : ApprovalRecord) : List (String × Value) :=
  [("schema_version", r.schema_version), ("candidate_hash", .str r.candidate_hash),
    ("candidate_kind", .str r.candidate_kind.value), ("agent_id", .str r.agent_id),
    ("reviewer_id", .str r.reviewer_id), ("reviewer_attestation", .str r.reviewer_attestation),
    ("profile_fingerprint", .str r.profile_fingerprint),
    ("instruction_text", .str r.instruction_text), ("skill_id", .optText r.skill_id),
    ("evidence_ids", .texts r.evidence_ids), ("idempotency_key", .str r.idempotency_key)]

/-- `_approval_idempotency_digest`. -/
def idempotencyDigest (r : ApprovalRecord) : String := sha256HexOf (object r.semanticMembers)

/-- `_approval_record_hash`. -/
def recordHash (r : ApprovalRecord) : String :=
  sha256HexOf (object (r.semanticMembers ++
    [("approved_at", .float r.approved_at), ("idempotency_digest", .str r.idempotency_digest)]))

/-- `require_text(value, field_name)` for its check alone. -/
def checkText (field_name value : String) : Raises Unit := do
  let _ ← requireText field_name (.str value)

/-- `_validate_approval`. -/
def validate (credentialShaped : String → Bool) (r : ApprovalRecord) : Raises Unit := do
  require (Json.pyEq r.schema_version.1 approvalSchemaVersion.1 = true)
    (insightsError "unsupported approval schema")
  checkText "approval_id" r.approval_id
  checkText "candidate_hash" r.candidate_hash
  checkText "agent_id" r.agent_id
  checkText "reviewer_id" r.reviewer_id
  checkText "reviewer_attestation" r.reviewer_attestation
  rejectCredentialShaped credentialShaped r.reviewer_attestation
  checkText "profile_fingerprint" r.profile_fingerprint
  checkText "instruction_text" r.instruction_text
  checkText "content_hash" r.content_hash
  checkText "idempotency_digest" r.idempotency_digest
  checkText "idempotency_key" r.idempotency_key
  let _ ← finiteTimestamp "approved_at" (.float r.approved_at)
  match r.candidate_kind, r.skill_id with
  | .skill, none => .error (insightsError "skill approvals require skill_id")
  | .skill, some skill_id => checkText "skill_id" skill_id
  | .rule, some _ => .error (insightsError "rule approvals must not include skill_id")
  | .rule, none => .ok ()
  require (r.evidence_ids ≠ []) (insightsError "approval evidence_ids must be non-empty")

end ApprovalRecord

/-- A list of texts that are not blank. -/
def evidenceTexts : Json → Option (List String)
  | .arr xs => xs.mapM fun
    | .str s => if nonBlank s then some s else none
    | _ => none
  | _ => none

namespace ApprovalRecord

/-- `ApprovalRecord.from_mapping`. -/
def fromMapping (credentialShaped : String → Bool) (payload : Dict) : Raises ApprovalRecord := do
  requireExactKeys payload approvalRecordKeys
  let candidate_kind ← found (insightsError "approval candidate_kind is invalid")
    ((Json.str? (payload.get "candidate_kind")).bind CandidateKind.ofValue?)
  let evidence_ids ← found (insightsError "approval evidence_ids are invalid")
    (evidenceTexts (payload.get "evidence_ids"))
  require (Json.pyEq (payload.get "schema_version") approvalSchemaVersion.1 = true)
    (insightsError "unsupported approval schema")
  let approval_id ← requireText "approval_id" (payload.get "approval_id")
  let candidate_hash ← requireText "candidate_hash" (payload.get "candidate_hash")
  let agent_id ← requireText "agent_id" (payload.get "agent_id")
  let reviewer_id ← requireText "reviewer_id" (payload.get "reviewer_id")
  let reviewer_attestation ← requireText "reviewer_attestation"
    (payload.get "reviewer_attestation")
  let profile_fingerprint ← requireText "profile_fingerprint" (payload.get "profile_fingerprint")
  let instruction_text ← requireText "instruction_text" (payload.get "instruction_text")
  let skill_id ← optionalText "skill_id" (payload.get "skill_id")
  let approved_at ← finiteTimestamp "approved_at" (payload.get "approved_at")
  let content_hash ← requireText "content_hash" (payload.get "content_hash")
  let idempotency_digest ← requireText "idempotency_digest" (payload.get "idempotency_digest")
  let idempotency_key ← requireText "idempotency_key" (payload.get "idempotency_key")
  let record : ApprovalRecord :=
    { schema_version := member payload "schema_version", approval_id, candidate_hash,
      candidate_kind, agent_id, reviewer_id, reviewer_attestation, profile_fingerprint,
      instruction_text, skill_id, evidence_ids, approved_at := .finite approved_at, content_hash,
      idempotency_digest, idempotency_key }
  require (record.idempotency_digest = record.idempotencyDigest ∧
      record.content_hash = record.recordHash ∧ record.approval_id = record.recordHash)
    (insightsError "approval content hash mismatch")
  record.validate credentialShaped
  return record

/-- `ApprovalRecord.from_json`. -/
def fromJson (credentialShaped : String → Bool) (raw : List Char) : Raises ApprovalRecord := do
  let payload ← parseRecordJson raw
  let record ← fromMapping credentialShaped payload
  let text ← record.toJson
  require (raw = text) (insightsError "approval record JSON is not canonical")
  return record

/-- An approval that is its own stored form. -/
structure Sealed (credentialShaped : String → Bool) (r : ApprovalRecord) : Prop where
  candidate_hash : isRequiredText r.candidate_hash = true
  agent_id : isRequiredText r.agent_id = true
  reviewer_id : isRequiredText r.reviewer_id = true
  reviewer_attestation : isRequiredText r.reviewer_attestation = true
  profile_fingerprint : isRequiredText r.profile_fingerprint = true
  instruction_text : isRequiredText r.instruction_text = true
  idempotency_key : isRequiredText r.idempotency_key = true
  skill_id : ∀ t, r.skill_id = some t → isRequiredText t = true
  evidence_ids : ∀ t ∈ r.evidence_ids, nonBlank t = true
  time : ∃ d, r.approved_at = .finite d
  digest : r.idempotency_digest = r.idempotencyDigest
  content : r.content_hash = r.recordHash
  id : r.approval_id = r.recordHash
  valid : r.validate credentialShaped = .ok ()

end ApprovalRecord

/-- `validate_appended_approval`. -/
def validateAppendedApproval (credentialShaped : String → Bool) (approval : ApprovalRecord) :
    Raises ApprovalRecord := do
  let parsed ← Except.mapError (asStoreError "approval failed append validation") do
    let raw ← approval.toJson
    ApprovalRecord.fromJson credentialShaped raw
  require (parsed = approval) (learningStoreError "approval failed append validation")
  return parsed

/-! ## Section 2: Sealed records -/

namespace ApprovalRecord

/-- The text of an approval. -/
def text (r : ApprovalRecord) : List Char := canonicalJson (object r.members)

theorem toJson_eq (r : ApprovalRecord) : r.toJson = .ok r.text := by
  rw [toJson, toMapping, requireExactKeys_object allowable_approvalRecordKeys rfl, ok_bind]
  rfl

/-- What an approval is read from. -/
structure ReadFrom (payload : Dict) (r : ApprovalRecord) : Prop where
  schema_version : payload.get "schema_version" = r.schema_version.1
  approval_id : payload.get "approval_id" = .str r.approval_id
  candidate_hash : payload.get "candidate_hash" = .str r.candidate_hash
  candidate_kind : payload.get "candidate_kind" = .str r.candidate_kind.value
  agent_id : payload.get "agent_id" = .str r.agent_id
  reviewer_id : payload.get "reviewer_id" = .str r.reviewer_id
  reviewer_attestation : payload.get "reviewer_attestation" = .str r.reviewer_attestation
  profile_fingerprint : payload.get "profile_fingerprint" = .str r.profile_fingerprint
  instruction_text : payload.get "instruction_text" = .str r.instruction_text
  skill_id : payload.get "skill_id" = (Value.optText r.skill_id).1
  evidence_ids : payload.get "evidence_ids" = textList r.evidence_ids
  approved_at : payload.get "approved_at" = .float r.approved_at
  content_hash : payload.get "content_hash" = .str r.content_hash
  idempotency_digest : payload.get "idempotency_digest" = .str r.idempotency_digest
  idempotency_key : payload.get "idempotency_key" = .str r.idempotency_key

theorem readFrom_members (r : ApprovalRecord) : ReadFrom (object r.members) r := by
  constructor
  all_goals
    rw [object_get]
    rfl

end ApprovalRecord

theorem evidenceTexts_textList {ids : List String} (h : ∀ t ∈ ids, nonBlank t = true) :
    evidenceTexts (textList ids) = some ids := by
  show (ids.map Json.str).mapM _ = some ids
  induction ids with
  | nil => rfl
  | cons t ids ih =>
    rw [List.map_cons, List.mapM_cons, ih fun s hs => h s (List.mem_cons_of_mem t hs)]
    simp only [h t List.mem_cons_self, if_true]
    rfl

theorem nonBlank_of_evidenceTexts {j : Json} {ids : List String} (h : evidenceTexts j = some ids) :
    ∀ t ∈ ids, nonBlank t = true := by
  cases j with
  | arr xs =>
    change xs.mapM _ = some ids at h
    induction xs generalizing ids with
    | nil =>
      obtain rfl : [] = ids := Option.some.inj h
      simp
    | cons x xs ih =>
      rw [List.mapM_cons] at h
      obtain ⟨t, ht, h⟩ := Option.bind_eq_some_iff.mp h
      obtain ⟨ts, hts, h⟩ := Option.bind_eq_some_iff.mp h
      obtain rfl : t :: ts = ids := Option.some.inj h
      intro s hs
      rcases List.mem_cons.mp hs with rfl | hs
      · split at ht
        · split at ht
          · next hblank => exact Option.some.inj ht ▸ hblank
          · cases ht
        · cases ht
      · exact ih hts s hs
  | _ => cases h

/-- A sealed approval is read back from its members. -/
theorem ApprovalRecord.Sealed.fromMapping {credentialShaped : String → Bool} {r : ApprovalRecord}
    (h : r.Sealed credentialShaped) :
    ApprovalRecord.fromMapping credentialShaped (object r.members) = .ok r := by
  obtain ⟨d, hd⟩ := h.time
  have hp := ApprovalRecord.readFrom_members r
  have hschema : Json.pyEq r.schema_version.1 approvalSchemaVersion.1 = true :=
    (require_bind_ok.mp h.valid).1
  have hmember := member_eq hp.schema_version
  have hid : isRequiredText r.approval_id = true := h.id ▸ required_sha256HexOf _
  have hcontent : isRequiredText r.content_hash = true := h.content ▸ required_sha256HexOf _
  have hdigest : isRequiredText r.idempotency_digest = true := h.digest ▸ required_sha256HexOf _
  unfold ApprovalRecord.fromMapping
  rw [requireExactKeys_object allowable_approvalRecordKeys rfl]
  simp only [hmember, hp.schema_version, hp.approval_id, hp.candidate_hash, hp.candidate_kind,
    hp.agent_id, hp.reviewer_id, hp.reviewer_attestation, hp.profile_fingerprint,
    hp.instruction_text, hp.skill_id, hp.evidence_ids, hp.approved_at, hp.content_hash,
    hp.idempotency_digest, hp.idempotency_key, hd, Json.str?_str, Option.bind_some,
    CandidateKind.ofValue?_value, evidenceTexts_textList h.evidence_ids, found,
    requireText_of_required hid, requireText_of_required h.candidate_hash,
    requireText_of_required h.agent_id, requireText_of_required h.reviewer_id,
    requireText_of_required h.reviewer_attestation, requireText_of_required h.profile_fingerprint,
    requireText_of_required h.instruction_text, requireText_of_required h.idempotency_key,
    requireText_of_required hcontent, requireText_of_required hdigest,
    optionalText_of_required h.skill_id, finiteTimestamp, bind, Except.bind]
  rw [(require_ok (u := ())).mpr hschema, ← hd]
  simp only [(require_ok (u := ())).mpr (And.intro h.digest (And.intro h.content h.id)), h.valid]
  rfl

/-- Whatever is read is sealed. -/
theorem ApprovalRecord.sealed_of_fromMapping {credentialShaped : String → Bool} {payload : Dict}
    {r : ApprovalRecord} (h : ApprovalRecord.fromMapping credentialShaped payload = .ok r) :
    r.Sealed credentialShaped := by
  unfold ApprovalRecord.fromMapping at h
  rw [unit_bind_ok] at h
  obtain ⟨-, h⟩ := h
  obtain ⟨candidate_kind, -, h⟩ := bind_ok.mp h
  obtain ⟨evidence_ids, hevidence, h⟩ := bind_ok.mp h
  obtain ⟨-, h⟩ := require_bind_ok.mp h
  obtain ⟨approval_id, -, h⟩ := bind_ok.mp h
  obtain ⟨candidate_hash, hcandidate_hash, h⟩ := bind_ok.mp h
  obtain ⟨agent_id, hagent_id, h⟩ := bind_ok.mp h
  obtain ⟨reviewer_id, hreviewer_id, h⟩ := bind_ok.mp h
  obtain ⟨reviewer_attestation, hattestation, h⟩ := bind_ok.mp h
  obtain ⟨profile_fingerprint, hfingerprint, h⟩ := bind_ok.mp h
  obtain ⟨instruction_text, hinstruction, h⟩ := bind_ok.mp h
  obtain ⟨skill_id, hskill_id, h⟩ := bind_ok.mp h
  obtain ⟨approved_at, -, h⟩ := bind_ok.mp h
  obtain ⟨content_hash, -, h⟩ := bind_ok.mp h
  obtain ⟨idempotency_digest, -, h⟩ := bind_ok.mp h
  obtain ⟨idempotency_key, hkey, h⟩ := bind_ok.mp h
  obtain ⟨⟨hdigest, hcontent, hid⟩, h⟩ := require_bind_ok.mp h
  obtain ⟨hvalid, h⟩ := unit_bind_ok.mp h
  obtain rfl := pure_ok.mp h
  exact
    { candidate_hash := required_of_requireText hcandidate_hash
      agent_id := required_of_requireText hagent_id
      reviewer_id := required_of_requireText hreviewer_id
      reviewer_attestation := required_of_requireText hattestation
      profile_fingerprint := required_of_requireText hfingerprint
      instruction_text := required_of_requireText hinstruction
      idempotency_key := required_of_requireText hkey
      skill_id := fun t ht => required_of_optionalText (hskill_id.trans (congrArg _ ht))
      evidence_ids := nonBlank_of_evidenceTexts (found_ok.mp hevidence)
      time := ⟨approved_at, rfl⟩
      digest := hdigest
      content := hcontent
      id := hid
      valid := hvalid }

/-- **Sealed approvals round-trip** through their text. -/
theorem ApprovalRecord.Sealed.fromJson {credentialShaped : String → Bool} {r : ApprovalRecord}
    (h : r.Sealed credentialShaped) : ApprovalRecord.fromJson credentialShaped r.text = .ok r := by
  have hparse : parseRecordJson r.text = .ok (object r.members) :=
    parseRecordJson_canonicalJson (object r.members)
  rw [ApprovalRecord.fromJson, hparse, ok_bind, h.fromMapping, ok_bind, ApprovalRecord.toJson_eq,
    ok_bind, require_bind_pos rfl]
  rfl

theorem ApprovalRecord.sealed_of_fromJson {credentialShaped : String → Bool} {raw : List Char}
    {r : ApprovalRecord} (h : ApprovalRecord.fromJson credentialShaped raw = .ok r) :
    r.Sealed credentialShaped := by
  rw [ApprovalRecord.fromJson] at h
  obtain ⟨payload, -, h⟩ := bind_ok.mp h
  obtain ⟨record, hread, h⟩ := bind_ok.mp h
  obtain ⟨text, -, h⟩ := bind_ok.mp h
  obtain ⟨-, h⟩ := require_bind_ok.mp h
  obtain rfl := pure_ok.mp h
  exact sealed_of_fromMapping hread

/-- **What may be appended**: the sealed approvals, each as it is. -/
theorem validateAppendedApproval_ok {credentialShaped : String → Bool}
    {approval parsed : ApprovalRecord} :
    validateAppendedApproval credentialShaped approval = .ok parsed ↔
      parsed = approval ∧ approval.Sealed credentialShaped := by
  rw [validateAppendedApproval, ApprovalRecord.toJson_eq, ok_bind, bind_ok]
  constructor
  · rintro ⟨read, hread, h⟩
    obtain ⟨hsame, h⟩ := require_bind_ok.mp h
    obtain rfl := pure_ok.mp h
    have hjson : ApprovalRecord.fromJson credentialShaped approval.text = .ok read :=
      mapError_ok.mp hread
    exact ⟨hsame, hsame ▸ ApprovalRecord.sealed_of_fromJson hjson⟩
  · rintro ⟨hsame, hsealed⟩
    subst hsame
    refine ⟨parsed, mapError_ok.mpr hsealed.fromJson, ?_⟩
    rw [require_bind_pos rfl]
    rfl

end CBrain.Insights

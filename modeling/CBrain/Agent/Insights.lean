import CBrain.Knowledge.Contracts

/-! # Learning signals and approvals

    Models the records of `cbrain/agent/insights.py`: learning signals and
    approvals, the JSON text of each, and the checks that a record passes
    before it is stored.

    A record is any value of its class; nothing in `__post_init__` restricts
    it.  `Sealed` says which records are their own stored form.  Times are
    floating-point values, so that a record may carry one that is not finite.
    The search for credentials in a text is a parameter. -/

namespace CBrain

/-- A floating-point value. -/
def Value.float (x : JsonFloat) : Value := ⟨.float x, Json.WF.float x⟩

/-- A list of texts. -/
def Value.texts (xs : List String) : Value := ⟨textList xs, wf_textList xs⟩

namespace Insights

open Json (Dict)
open Knowledge (stripChars isRequiredText sha256HexOf)

/-! ## Section 1: Text and time -/

/-- `InsightsError`. -/
def insightsError (message : String) : Exn := Exn.of .insightsError message

/-- `LearningStoreError`. -/
def learningStoreError (message : String) : Exn := Exn.of .learningStoreError message

/-- `PersonalizationError`. -/
def personalizationError (message : String) : Exn := Exn.of .personalizationError message

/-- `require_text`. -/
def requireText (field_name : String) : Json → Raises String
  | .str s => do
    require (nonBlank s = true) (insightsError s!"{field_name} must be a non-empty string")
    require (s.toList.contains '\x00' = false)
      (insightsError s!"{field_name} must not contain null bytes")
    return String.ofList (stripChars s.toList)
  | _ => .error (insightsError s!"{field_name} must be a non-empty string")

/-- `_optional_text`. -/
def optionalText (field_name : String) : Json → Raises (Option String)
  | .null => .ok none
  | j => Except.map some (requireText field_name j)

/-- `finite_timestamp`. -/
def finiteTimestamp (field_name : String) : Json → Raises Decimal
  | .int i => .ok (Decimal.ofInt i 0)
  | .float (.finite d) => .ok d
  | _ => .error (insightsError s!"{field_name} must be a finite number")

/-- `canonical_json`. -/
def canonicalJson (payload : Dict) : List Char := Json.dumps .compact payload.json

/-- The value a lookup found. -/
def found {α : Type} (e : Exn) : Option α → Raises α
  | some a => .ok a
  | none => .error e

@[simp] theorem found_ok {α : Type} {e : Exn} {o : Option α} {a : α} :
    found e o = .ok a ↔ o = some a := by
  cases o <;> simp [found]

/-- What `require_text` returns, it returns again. -/
theorem requireText_of_required {field_name s : String} (h : isRequiredText s = true) :
    requireText field_name (.str s) = .ok s := by
  unfold isRequiredText at h
  simp only [Bool.and_eq_true, Bool.not_eq_true', beq_iff_eq] at h
  obtain ⟨⟨hblank, hstrip⟩, hnull⟩ := h
  rw [requireText, require_bind_pos hblank, require_bind_pos hnull, hstrip, String.ofList_toList]
  rfl

theorem required_of_requireText {field_name t : String} {j : Json}
    (h : requireText field_name j = .ok t) : isRequiredText t = true := by
  cases j with
  | str s =>
    rw [requireText, require_bind_ok, require_bind_ok, pure_ok] at h
    obtain ⟨hblank, hnull, rfl⟩ := h
    exact Knowledge.isRequiredText_strip hblank hnull
  | _ => cases h

theorem optionalText_of_required {field_name : String} {o : Option String}
    (h : ∀ t, o = some t → isRequiredText t = true) :
    optionalText field_name (Value.optText o).1 = .ok o := by
  cases o with
  | none => rfl
  | some t =>
    show Except.map some (requireText field_name (.str t)) = .ok (some t)
    rw [requireText_of_required (h t rfl)]
    rfl

theorem required_of_optionalText {field_name t : String} {j : Json}
    (h : optionalText field_name j = .ok (some t)) : isRequiredText t = true := by
  unfold optionalText at h
  split at h
  · cases h
  · obtain ⟨s, hs, hst⟩ := map_ok.mp h
    exact Option.some.inj hst ▸ required_of_requireText hs

/-- Text without white space is its own stripped form. -/
theorem stripChars_eq_self {cs : List Char} (h : ∀ c ∈ cs, isSpace c = false) :
    stripChars cs = cs := by
  have hleft : cs.dropWhile isSpace = cs :=
    Knowledge.dropWhile_isSpace_eq fun c hc => h c (List.mem_of_mem_head? hc)
  have hright : cs.reverse.dropWhile isSpace = cs.reverse :=
    Knowledge.dropWhile_isSpace_eq fun c hc => h c (List.mem_reverse.mp (List.mem_of_mem_head? hc))
  rw [stripChars, hleft, hright, List.reverse_reverse]

theorem hexDigit_plain : ∀ n < 16, isSpace n.digitChar = false ∧ n.digitChar ≠ '\x00' := by
  decide

theorem mem_hex8 {w : Sha256.Word} {c : Char} (h : c ∈ Sha256.hex8 w) :
    isSpace c = false ∧ c ≠ '\x00' := by
  obtain ⟨i, -, rfl⟩ := List.mem_map.mp h
  exact hexDigit_plain _ (Nat.mod_lt _ (by decide))

theorem mem_hexdigest {b : ByteArray} {c : Char} (h : c ∈ (Sha256.hexdigest b).toList) :
    isSpace c = false ∧ c ≠ '\x00' := by
  unfold Sha256.hexdigest at h
  simp only [String.toList_ofList, List.mem_append] at h
  rcases h with ((((((h | h) | h) | h) | h) | h) | h) | h <;> exact mem_hex8 h

/-- A digest is text that `require_text` returns. -/
theorem required_hexdigest (b : ByteArray) : isRequiredText (Sha256.hexdigest b) = true := by
  have hstrip : stripChars (Sha256.hexdigest b).toList = (Sha256.hexdigest b).toList :=
    stripChars_eq_self fun c hc => (mem_hexdigest hc).1
  have hnull : (Sha256.hexdigest b).toList.contains '\x00' = false := by
    apply Bool.eq_false_iff.mpr
    intro h
    exact (mem_hexdigest (List.contains_iff_mem.mp h)).2 rfl
  have hne : ∃ c, c ∈ (Sha256.hexdigest b).toList := by
    unfold Sha256.hexdigest
    simp only [String.toList_ofList, List.mem_append]
    exact ⟨_, Or.inl (Or.inl (Or.inl (Or.inl (Or.inl (Or.inl (Or.inl (List.mem_map.mpr
      ⟨0, by decide, rfl⟩)))))))⟩
  have hblank : nonBlank (Sha256.hexdigest b) = true := by
    obtain ⟨c, hc⟩ := hne
    exact List.any_eq_true.mpr ⟨c, hc, by rw [(mem_hexdigest hc).1]; rfl⟩
  rw [isRequiredText, hblank, hstrip, hnull]
  simp

theorem required_sha256HexOf (payload : Dict) : isRequiredText (sha256HexOf payload) = true :=
  required_hexdigest _

/-! ## Section 2: The text of a record -/

/-- `FORBIDDEN_SIGNAL_KEYS`. -/
def forbiddenSignalKeys : List String :=
  ["api_key", "args", "arguments", "authorization_reason", "content", "credential", "credentials",
    "output", "outputs", "password", "passwords", "private_key", "prompt", "prompts", "reason",
    "secret", "secrets", "task", "token", "tokens"]

/-- `str.casefold` of ASCII text. -/
def asciiFold (s : String) : String := String.ofList (s.toList.map Char.toLower)

/-- `_reject_forbidden_keys`. -/
def rejectForbiddenKeys (keys : List String) : Raises Unit :=
  keys.forM fun key =>
    require (forbiddenSignalKeys.contains key = false ∧
        forbiddenSignalKeys.contains (asciiFold key) = false)
      (Exn.parts .insightsError [.text "forbidden signal field ", .repr (.str key)])

/-- `require_exact_keys`.  Past the first check the keys are the allowed ones,
    which are ASCII. -/
def requireExactKeys (payload : Dict) (allowed : List String) : Raises Unit := do
  let invalid := insightsError "learning record keys are invalid"
  require ((∀ key ∈ payload.keys, key ∈ allowed) ∧ ∀ key ∈ allowed, key ∈ payload.keys) invalid
  require (payload.keys.map asciiFold).Nodup invalid
  require (∀ key ∈ payload.keys.map asciiFold, key ∈ allowed.map asciiFold) invalid
  rejectForbiddenKeys payload.keys

mutual

/-- Some object inside the value names a key twice. -/
def repeatsKey : Json → Bool
  | .arr xs => repeatsKeyElems xs
  | .obj ms => decide (¬ (Json.keys ms).Nodup) || repeatsKeyMembers ms
  | _ => false

def repeatsKeyElems : List Json → Bool
  | [] => false
  | x :: xs => repeatsKey x || repeatsKeyElems xs

def repeatsKeyMembers : Json.Members → Bool
  | [] => false
  | (_, x) :: xs => repeatsKey x || repeatsKeyMembers xs

end

/-- `parse_record_json`.  The text is read from its first character on, so
    white space before or after the value is an error. -/
def parseRecordJson (raw : List Char) : Raises Dict := do
  let (value, rest) ← found (insightsError "learning record is not valid JSON")
    (Json.parseValue (raw.length + 1) raw)
  require (repeatsKey value = false) (insightsError "duplicate JSON key")
  require (rest = []) (insightsError "learning record JSON has trailing content")
  found (insightsError "learning record must be a JSON object") (toDict? value)

theorem keys_nodup {ms : Json.Members} (h : ms.Pairwise (fun a b => a.1 < b.1)) :
    (Json.keys ms).Nodup := by
  unfold Json.keys
  refine List.Pairwise.map _ ?_ h
  intro a b hlt heq
  rw [heq] at hlt
  exact String.lt_irrefl _ hlt

theorem repeatsKeyElems_false {xs : List Json} (h : ∀ x ∈ xs, repeatsKey x = false) :
    repeatsKeyElems xs = false := by
  induction xs with
  | nil => rfl
  | cons x xs ih =>
    rw [repeatsKeyElems, h x List.mem_cons_self, Bool.false_or]
    exact ih fun y hy => h y (List.mem_cons_of_mem x hy)

theorem repeatsKeyMembers_false {ms : Json.Members} (h : ∀ m ∈ ms, repeatsKey m.2 = false) :
    repeatsKeyMembers ms = false := by
  induction ms with
  | nil => rfl
  | cons m ms ih =>
    obtain ⟨k, x⟩ := m
    rw [repeatsKeyMembers, h (k, x) List.mem_cons_self, Bool.false_or]
    exact ih fun y hy => h y (List.mem_cons_of_mem (k, x) hy)

/-- A value made of dictionaries names no key twice. -/
theorem repeatsKey_wf {v : Json} (h : Json.WF v) : repeatsKey v = false := by
  induction h with
  | arr _ ih => rw [repeatsKey, repeatsKeyElems_false ih]
  | obj hs _ ih =>
    have hkeys : ¬ ¬ (Json.keys _).Nodup := not_not.mpr (keys_nodup hs)
    rw [repeatsKey, decide_eq_false hkeys, Bool.false_or, repeatsKeyMembers_false ih]
  | _ => rfl

/-- **A record's text is read back**. -/
theorem parseRecordJson_canonicalJson (payload : Dict) :
    parseRecordJson (canonicalJson payload) = .ok payload := by
  have hsize : Json.size payload.json ≤ (canonicalJson payload).length + 1 := by
    have := Json.size_le_length .compact payload.json
    unfold canonicalJson
    omega
  have hread : Json.parseValue ((canonicalJson payload).length + 1) (canonicalJson payload) =
      some (payload.json, []) := by
    have h := Json.reads_all .compact payload.json _ [] hsize Json.numEnd_nil
    rwa [List.append_nil] at h
  rw [parseRecordJson, hread]
  show (require _ _ >>= fun _ => _) = _
  rw [require_bind_pos (repeatsKey_wf payload.wf_json), require_bind_pos rfl, toDict?_json]
  rfl

theorem get?_eq_none {ms : Json.Members} {k : String} (h : k ∉ ms.map Prod.fst) :
    Json.get? ms k = none := by
  cases hget : Json.get? ms k with
  | none => rfl
  | some v => exact absurd (List.mem_map_of_mem (Json.mem_of_get? hget)) h

theorem mem_keys_object {ms : List (String × Value)} {k : String} :
    k ∈ (object ms).keys ↔ k ∈ ms.map Prod.fst := by
  have hfst : ((ms.map fun m => (m.1, m.2.1)).reverse).map Prod.fst = (ms.map Prod.fst).reverse := by
    rw [List.map_reverse, List.map_map]
    rfl
  have hget : Json.get? (object ms).members k =
      Json.get? (ms.map fun m => (m.1, m.2.1)).reverse k := Json.get?_dictOf _ k
  constructor
  · intro h
    obtain ⟨m, hm, rfl⟩ := List.mem_map.mp h
    by_contra hnot
    rw [Json.get?_of_mem (object ms).wf hm, get?_eq_none (by
      rw [hfst]
      exact fun hmem => hnot (List.mem_reverse.mp hmem))] at hget
    cases hget
  · intro h
    by_contra hnot
    rw [get?_eq_none hnot] at hget
    have hlookup := List.lookup_eq_none_iff.mp hget.symm
    rw [← List.mem_reverse, ← hfst] at h
    obtain ⟨m, hm, rfl⟩ := List.mem_map.mp h
    have hne := hlookup m hm
    simp at hne

/-- The keys of a record are ASCII text in lower case, none of them forbidden. -/
def Allowable (allowed : List String) : Prop :=
  ∀ key ∈ allowed, asciiFold key = key ∧ forbiddenSignalKeys.contains key = false

instance (allowed : List String) : Decidable (Allowable allowed) :=
  inferInstanceAs (Decidable (∀ key ∈ allowed, _))

theorem Allowable.fold {keys : List String} (h : Allowable keys) : keys.map asciiFold = keys := by
  have hown : keys.map asciiFold = keys.map id := List.map_congr_left fun key hk => (h key hk).1
  rw [hown, List.map_id]

theorem rejectForbiddenKeys_ok {keys : List String} (h : Allowable keys) :
    rejectForbiddenKeys keys = .ok () := by
  unfold rejectForbiddenKeys
  induction keys with
  | nil => rfl
  | cons key keys ih =>
    obtain ⟨hfold, hfree⟩ := h key List.mem_cons_self
    show (require _ _ >>= fun _ => keys.forM _) = _
    rw [require_bind_pos ⟨hfree, hfold.symm ▸ hfree⟩]
    exact ih fun k hk => h k (List.mem_cons_of_mem key hk)

theorem requireExactKeys_ok {payload : Dict} {allowed : List String} (h : Allowable allowed)
    {u : Unit} : requireExactKeys payload allowed = .ok u ↔
      ∀ key, key ∈ payload.keys ↔ key ∈ allowed := by
  rw [requireExactKeys, require_bind_ok]
  constructor
  · rintro ⟨⟨hsub, hsup⟩, _⟩ key
    exact ⟨hsub key, hsup key⟩
  · intro hkeys
    refine ⟨⟨fun key => (hkeys key).mp, fun key => (hkeys key).mpr⟩, ?_⟩
    have hown : Allowable payload.keys := fun key hk => h key ((hkeys key).mp hk)
    have hnodup : payload.keys.Nodup := keys_nodup payload.wf.sorted
    rw [hown.fold, h.fold, require_bind_pos hnodup, require_bind_pos fun key => (hkeys key).mp]
    exact rejectForbiddenKeys_ok hown

theorem requireExactKeys_object {ms : List (String × Value)} {allowed : List String}
    (h : Allowable allowed) (hfst : ms.map Prod.fst = allowed) :
    requireExactKeys (object ms) allowed = .ok () := by
  rw [requireExactKeys_ok h]
  intro key
  rw [mem_keys_object, hfst]

/-- `payload[key]`, or `null`. -/
def member (payload : Dict) (key : String) : Value :=
  ⟨payload.get key, payload.wf_get key⟩

theorem member_eq {payload : Dict} {key : String} {v : Value} (h : payload.get key = v.1) :
    member payload key = v :=
  Subtype.ext h

/-! ## Section 3: Learning signals -/

/-- `SignalKind`. -/
inductive SignalKind where
  | humanCorrection
  | humanPreference
  | humanWorkflow
  | structuralRunOutcome
  | governedToolRejection
  deriving DecidableEq, Repr

/-- `kind.value`. -/
def SignalKind.value : SignalKind → String
  | .humanCorrection => "human_correction"
  | .humanPreference => "human_preference"
  | .humanWorkflow => "human_workflow"
  | .structuralRunOutcome => "structural_run_outcome"
  | .governedToolRejection => "governed_tool_rejection"

/-- `SignalKind(value)`. -/
def SignalKind.ofValue? (value : String) : Option SignalKind :=
  [.humanCorrection, .humanPreference, .humanWorkflow, .structuralRunOutcome,
    .governedToolRejection].find? fun kind => kind.value == value

@[simp] theorem SignalKind.ofValue?_value (kind : SignalKind) :
    SignalKind.ofValue? kind.value = some kind := by
  cases kind <;> decide

/-- `kind in _HUMAN_SIGNAL_KINDS`. -/
def SignalKind.isHuman : SignalKind → Bool
  | .humanCorrection | .humanPreference | .humanWorkflow => true
  | .structuralRunOutcome | .governedToolRejection => false

/-- `parse_run_status`. -/
def parseRunStatus : Json → Raises RunStatus
  | .str s => found (insightsError "run status must be a defined CBrain RunStatus")
      (RunStatus.ofValue? s)
  | _ => .error (insightsError "run status must be a defined CBrain RunStatus")

/-- `parse_execution_status`. -/
def parseExecutionStatus : Json → Raises ExecutionStatus
  | .str s => found (insightsError "execution status must be a defined CBrain ExecutionStatus")
      (ExecutionStatus.ofValue? s)
  | _ => .error (insightsError "execution status must be a defined CBrain ExecutionStatus")

/-- `LearningSignal`. -/
structure LearningSignal where
  schema_version : Value
  signal_id : String
  kind : SignalKind
  agent_id : String
  idempotency_key : String
  observed_at : JsonFloat
  content_hash : String
  idempotency_digest : String
  reviewer_id : Option String
  feedback_text : Option String
  run_id : Option String
  run_status : Option RunStatus
  tool_name : Option String
  execution_status : Option ExecutionStatus
  deriving DecidableEq

/-- `SIGNAL_SCHEMA_VERSION`. -/
def signalSchemaVersion : Value := .nat 2

/-- `SIGNAL_RECORD_KEYS`. -/
def signalRecordKeys : List String :=
  ["schema_version", "signal_id", "kind", "agent_id", "idempotency_key", "observed_at",
    "content_hash", "idempotency_digest", "reviewer_id", "feedback_text", "run_id", "run_status",
    "tool_name", "execution_status"]

theorem allowable_signalRecordKeys : Allowable signalRecordKeys := by decide +kernel

namespace LearningSignal

/-- The members of `to_mapping`. -/
def members (s : LearningSignal) : List (String × Value) :=
  [("schema_version", s.schema_version), ("signal_id", .str s.signal_id), ("kind", .str s.kind.value),
    ("agent_id", .str s.agent_id), ("idempotency_key", .str s.idempotency_key),
    ("observed_at", .float s.observed_at), ("content_hash", .str s.content_hash),
    ("idempotency_digest", .str s.idempotency_digest), ("reviewer_id", .optText s.reviewer_id),
    ("feedback_text", .optText s.feedback_text), ("run_id", .optText s.run_id),
    ("run_status", .optText (s.run_status.map RunStatus.value)), ("tool_name", .optText s.tool_name),
    ("execution_status", .optText (s.execution_status.map ExecutionStatus.value))]

/-- `to_mapping`. -/
def toMapping (s : LearningSignal) : Raises Dict := do
  requireExactKeys (object s.members) signalRecordKeys
  return object s.members

/-- `to_json`. -/
def toJson (s : LearningSignal) : Raises (List Char) := do
  let payload ← s.toMapping
  return canonicalJson payload

/-- The members of `_signal_semantic_payload`. -/
def semanticMembers (s : LearningSignal) : List (String × Value) :=
  [("schema_version", s.schema_version), ("kind", .str s.kind.value), ("agent_id", .str s.agent_id),
    ("idempotency_key", .str s.idempotency_key), ("reviewer_id", .optText s.reviewer_id),
    ("feedback_text", .optText s.feedback_text), ("run_id", .optText s.run_id),
    ("run_status", .optText (s.run_status.map RunStatus.value)), ("tool_name", .optText s.tool_name),
    ("execution_status", .optText (s.execution_status.map ExecutionStatus.value))]

/-- `_signal_idempotency_digest`. -/
def idempotencyDigest (s : LearningSignal) : String := sha256HexOf (object s.semanticMembers)

/-- `_signal_record_hash`. -/
def recordHash (s : LearningSignal) : String :=
  sha256HexOf (object (s.semanticMembers ++
    [("observed_at", .float s.observed_at), ("idempotency_digest", .str s.idempotency_digest)]))

/-- `_validate_signal_shape`. -/
def validateShape (s : LearningSignal) : Raises Unit := do
  require (Json.pyEq s.schema_version.1 signalSchemaVersion.1 = true)
    (insightsError "unsupported learning signal schema")
  if s.kind.isHuman then
    require (s.reviewer_id ≠ none ∧ s.feedback_text ≠ none)
      (insightsError "human signals require reviewer_id and feedback_text")
    require (s.run_status = none ∧ s.tool_name = none)
      (insightsError "human signals must not carry runtime fields")
    require (s.execution_status = none)
      (insightsError "human signals must not carry execution status")
  else if s.kind = .structuralRunOutcome then
    require (s.run_id ≠ none ∧ s.run_status ≠ none)
      (insightsError "run outcomes require run_id and run_status")
    require (s.reviewer_id = none ∧ s.feedback_text = none ∧ s.tool_name = none ∧
        s.execution_status = none)
      (insightsError "run outcomes must be structural only")
  else
    require (s.run_id ≠ none ∧ s.tool_name ≠ none ∧ s.execution_status ≠ none)
      (insightsError "tool rejections require run_id, tool_name, and status")
    require (s.execution_status ≠ some .executed)
      (insightsError "tool rejection status must be a governed rejection")
    require (s.reviewer_id = none ∧ s.feedback_text = none ∧ s.run_status = none)
      (insightsError "tool rejections must be structural only")

end LearningSignal

/-- A member that is absent, `null` or text of any form. -/
def optionalString (e : Exn) : Json → Raises (Option String)
  | .null => .ok none
  | .str s => .ok (some s)
  | _ => .error e

/-- `SignalKind(payload["kind"])`. -/
def signalKind (e : Exn) (value : Json) : Raises SignalKind :=
  found e ((Json.str? value).bind SignalKind.ofValue?)

namespace LearningSignal

/-- `LearningSignal.from_mapping`. -/
def fromMapping (payload : Dict) : Raises LearningSignal := do
  requireExactKeys payload signalRecordKeys
  let kind ← signalKind (insightsError "learning signal kind is invalid") (payload.get "kind")
  require (Json.pyEq (payload.get "schema_version") signalSchemaVersion.1 = true)
    (insightsError "unsupported learning signal schema")
  let feedback_text ← optionalString (insightsError "feedback_text must be a string")
    (payload.get "feedback_text")
  let signal_id ← requireText "signal_id" (payload.get "signal_id")
  let agent_id ← requireText "agent_id" (payload.get "agent_id")
  let idempotency_key ← requireText "idempotency_key" (payload.get "idempotency_key")
  let observed_at ← finiteTimestamp "observed_at" (payload.get "observed_at")
  let content_hash ← requireText "content_hash" (payload.get "content_hash")
  let idempotency_digest ← requireText "idempotency_digest" (payload.get "idempotency_digest")
  let reviewer_id ← optionalText "reviewer_id" (payload.get "reviewer_id")
  let run_id ← optionalText "run_id" (payload.get "run_id")
  let run_status ← optionally parseRunStatus (payload.get "run_status")
  let tool_name ← optionalText "tool_name" (payload.get "tool_name")
  let execution_status ← optionally parseExecutionStatus (payload.get "execution_status")
  let signal : LearningSignal :=
    { schema_version := member payload "schema_version", signal_id, kind, agent_id,
      idempotency_key, observed_at := .finite observed_at, content_hash, idempotency_digest,
      reviewer_id, feedback_text, run_id, run_status, tool_name, execution_status }
  require (signal.idempotency_digest = signal.idempotencyDigest ∧
      signal.content_hash = signal.recordHash ∧ signal.signal_id = signal.recordHash)
    (insightsError "learning signal content hash mismatch")
  signal.validateShape
  return signal

/-- `LearningSignal.from_json`. -/
def fromJson (raw : List Char) : Raises LearningSignal := do
  let payload ← parseRecordJson raw
  let signal ← fromMapping payload
  let text ← signal.toJson
  require (raw = text) (insightsError "learning signal JSON is not canonical")
  return signal

/-- A signal that is its own stored form. -/
structure Sealed (s : LearningSignal) : Prop where
  agent_id : isRequiredText s.agent_id = true
  idempotency_key : isRequiredText s.idempotency_key = true
  reviewer_id : ∀ t, s.reviewer_id = some t → isRequiredText t = true
  run_id : ∀ t, s.run_id = some t → isRequiredText t = true
  tool_name : ∀ t, s.tool_name = some t → isRequiredText t = true
  time : ∃ d, s.observed_at = .finite d
  digest : s.idempotency_digest = s.idempotencyDigest
  content : s.content_hash = s.recordHash
  id : s.signal_id = s.recordHash
  shape : s.validateShape = .ok ()

end LearningSignal

/-- `except InsightsError as exc: raise LearningStoreError(message) from exc`. -/
def asStoreError (message : String) (e : Exn) : Exn :=
  if e.kind = .insightsError then learningStoreError message else e

/-- `validate_appended_signal`. -/
def validateAppendedSignal (signal : LearningSignal) : Raises LearningSignal := do
  let parsed ← Except.mapError (asStoreError "learning signal failed append validation") do
    let raw ← signal.toJson
    LearningSignal.fromJson raw
  require (parsed = signal) (learningStoreError "learning signal failed append validation")
  return parsed

namespace LearningSignal

variable {s : LearningSignal}

/-- The text of a signal. -/
def text (s : LearningSignal) : List Char := canonicalJson (object s.members)

theorem toMapping_eq (s : LearningSignal) : s.toMapping = .ok (object s.members) := by
  rw [toMapping, requireExactKeys_object allowable_signalRecordKeys rfl, ok_bind]
  rfl

theorem toJson_eq (s : LearningSignal) : s.toJson = .ok s.text := by
  rw [toJson, toMapping_eq, ok_bind]
  rfl

/-- What a signal is read from. -/
structure ReadFrom (payload : Dict) (s : LearningSignal) : Prop where
  schema_version : payload.get "schema_version" = s.schema_version.1
  signal_id : payload.get "signal_id" = .str s.signal_id
  kind : payload.get "kind" = .str s.kind.value
  agent_id : payload.get "agent_id" = .str s.agent_id
  idempotency_key : payload.get "idempotency_key" = .str s.idempotency_key
  observed_at : payload.get "observed_at" = .float s.observed_at
  content_hash : payload.get "content_hash" = .str s.content_hash
  idempotency_digest : payload.get "idempotency_digest" = .str s.idempotency_digest
  reviewer_id : payload.get "reviewer_id" = (Value.optText s.reviewer_id).1
  feedback_text : payload.get "feedback_text" = (Value.optText s.feedback_text).1
  run_id : payload.get "run_id" = (Value.optText s.run_id).1
  run_status : payload.get "run_status" = (Value.optText (s.run_status.map RunStatus.value)).1
  tool_name : payload.get "tool_name" = (Value.optText s.tool_name).1
  execution_status : payload.get "execution_status" =
    (Value.optText (s.execution_status.map ExecutionStatus.value)).1

theorem readFrom_members (s : LearningSignal) : ReadFrom (object s.members) s := by
  constructor
  all_goals
    rw [object_get]
    rfl

end LearningSignal

theorem optionalString_optText (e : Exn) (o : Option String) :
    optionalString e (Value.optText o).1 = .ok o := by
  cases o <;> rfl

theorem optionally_runStatus (o : Option RunStatus) :
    optionally parseRunStatus (Value.optText (o.map RunStatus.value)).1 = .ok o := by
  cases o with
  | none => rfl
  | some status =>
    show Except.map some (found _ (RunStatus.ofValue? status.value)) = _
    rw [RunStatus.ofValue?_value]
    rfl

theorem optionally_executionStatus (o : Option ExecutionStatus) :
    optionally parseExecutionStatus (Value.optText (o.map ExecutionStatus.value)).1 = .ok o := by
  cases o with
  | none => rfl
  | some status =>
    show Except.map some (found _ (ExecutionStatus.ofValue? status.value)) = _
    rw [ExecutionStatus.ofValue?_value]
    rfl

theorem signalKind_value (e : Exn) (kind : SignalKind) : signalKind e (.str kind.value) = .ok kind := by
  show found e (SignalKind.ofValue? kind.value) = .ok kind
  rw [SignalKind.ofValue?_value]
  rfl

/-- A shape that passes has the schema version checked. -/
theorem LearningSignal.schema_of_shape {s : LearningSignal} (h : s.validateShape = .ok ()) :
    Json.pyEq s.schema_version.1 signalSchemaVersion.1 = true := by
  rw [LearningSignal.validateShape, require_bind_ok] at h
  exact h.1

/-- A sealed signal is read back from its members. -/
theorem LearningSignal.Sealed.fromMapping {s : LearningSignal} (h : s.Sealed) :
    LearningSignal.fromMapping (object s.members) = .ok s := by
  obtain ⟨d, hd⟩ := h.time
  have hp := LearningSignal.readFrom_members s
  have hschema := LearningSignal.schema_of_shape h.shape
  have hmember := member_eq hp.schema_version
  have hid : isRequiredText s.signal_id = true := h.id ▸ required_sha256HexOf _
  have hcontent : isRequiredText s.content_hash = true := h.content ▸ required_sha256HexOf _
  have hdigest : isRequiredText s.idempotency_digest = true := h.digest ▸ required_sha256HexOf _
  unfold LearningSignal.fromMapping
  rw [requireExactKeys_object allowable_signalRecordKeys rfl]
  simp only [hmember, hp.schema_version, hp.signal_id, hp.kind, hp.agent_id, hp.idempotency_key,
    hp.observed_at, hp.content_hash, hp.idempotency_digest, hp.reviewer_id, hp.feedback_text,
    hp.run_id, hp.run_status, hp.tool_name, hp.execution_status, hd, signalKind_value,
    requireText_of_required hid, requireText_of_required h.agent_id,
    requireText_of_required h.idempotency_key, requireText_of_required hcontent,
    requireText_of_required hdigest, optionalText_of_required h.reviewer_id,
    optionalText_of_required h.run_id, optionalText_of_required h.tool_name,
    optionalString_optText, optionally_runStatus, optionally_executionStatus, finiteTimestamp,
    bind, Except.bind]
  rw [(require_ok (u := ())).mpr hschema, ← hd]
  simp only [(require_ok (u := ())).mpr (And.intro h.digest (And.intro h.content h.id)), h.shape]
  rfl

/-- Whatever is read is sealed. -/
theorem LearningSignal.sealed_of_fromMapping {payload : Dict} {s : LearningSignal}
    (h : LearningSignal.fromMapping payload = .ok s) : s.Sealed := by
  unfold LearningSignal.fromMapping at h
  rw [unit_bind_ok] at h
  obtain ⟨-, h⟩ := h
  obtain ⟨kind, -, h⟩ := bind_ok.mp h
  obtain ⟨-, h⟩ := require_bind_ok.mp h
  obtain ⟨feedback_text, -, h⟩ := bind_ok.mp h
  obtain ⟨signal_id, -, h⟩ := bind_ok.mp h
  obtain ⟨agent_id, hagent_id, h⟩ := bind_ok.mp h
  obtain ⟨idempotency_key, hkey, h⟩ := bind_ok.mp h
  obtain ⟨observed_at, -, h⟩ := bind_ok.mp h
  obtain ⟨content_hash, -, h⟩ := bind_ok.mp h
  obtain ⟨idempotency_digest, -, h⟩ := bind_ok.mp h
  obtain ⟨reviewer_id, hreviewer_id, h⟩ := bind_ok.mp h
  obtain ⟨run_id, hrun_id, h⟩ := bind_ok.mp h
  obtain ⟨run_status, -, h⟩ := bind_ok.mp h
  obtain ⟨tool_name, htool_name, h⟩ := bind_ok.mp h
  obtain ⟨execution_status, -, h⟩ := bind_ok.mp h
  obtain ⟨⟨hdigest, hcontent, hid⟩, h⟩ := require_bind_ok.mp h
  obtain ⟨hshape, h⟩ := unit_bind_ok.mp h
  obtain rfl := pure_ok.mp h
  exact
    { agent_id := required_of_requireText hagent_id
      idempotency_key := required_of_requireText hkey
      reviewer_id := fun t ht => required_of_optionalText (hreviewer_id.trans (congrArg _ ht))
      run_id := fun t ht => required_of_optionalText (hrun_id.trans (congrArg _ ht))
      tool_name := fun t ht => required_of_optionalText (htool_name.trans (congrArg _ ht))
      time := ⟨observed_at, rfl⟩
      digest := hdigest
      content := hcontent
      id := hid
      shape := hshape }

/-- **Sealed signals round-trip** through their text. -/
theorem LearningSignal.Sealed.fromJson {s : LearningSignal} (h : s.Sealed) :
    LearningSignal.fromJson s.text = .ok s := by
  have hparse : parseRecordJson s.text = .ok (object s.members) :=
    parseRecordJson_canonicalJson (object s.members)
  rw [LearningSignal.fromJson, hparse, ok_bind, h.fromMapping, ok_bind, LearningSignal.toJson_eq,
    ok_bind, require_bind_pos rfl]
  rfl

theorem LearningSignal.sealed_of_fromJson {raw : List Char} {s : LearningSignal}
    (h : LearningSignal.fromJson raw = .ok s) : s.Sealed := by
  rw [LearningSignal.fromJson] at h
  obtain ⟨payload, -, h⟩ := bind_ok.mp h
  obtain ⟨signal, hread, h⟩ := bind_ok.mp h
  obtain ⟨text, -, h⟩ := bind_ok.mp h
  obtain ⟨-, h⟩ := require_bind_ok.mp h
  obtain rfl := pure_ok.mp h
  exact sealed_of_fromMapping hread

theorem mapError_ok {α : Type} {f : Exn → Exn} {x : Raises α} {a : α} :
    x.mapError f = .ok a ↔ x = .ok a := by
  cases x <;> simp [Except.mapError]

/-- **What may be appended**: the sealed signals, each as it is. -/
theorem validateAppendedSignal_ok {signal parsed : LearningSignal} :
    validateAppendedSignal signal = .ok parsed ↔ parsed = signal ∧ signal.Sealed := by
  rw [validateAppendedSignal, LearningSignal.toJson_eq, ok_bind, bind_ok]
  constructor
  · rintro ⟨read, hread, h⟩
    obtain ⟨hsame, h⟩ := require_bind_ok.mp h
    obtain rfl := pure_ok.mp h
    have hjson : LearningSignal.fromJson signal.text = .ok read := mapError_ok.mp hread
    exact ⟨hsame, hsame ▸ LearningSignal.sealed_of_fromJson hjson⟩
  · rintro ⟨hsame, hsealed⟩
    subst hsame
    refine ⟨parsed, mapError_ok.mpr hsealed.fromJson, ?_⟩
    rw [require_bind_pos rfl]
    rfl

/-! ## Section 4: New signals -/

/-- The arguments of `finalize_signal`, and what `verify_v1_signal_payload`
    returns. -/
structure SignalFields where
  kind : SignalKind
  agent_id : String
  idempotency_key : String
  observed_at : JsonFloat
  reviewer_id : Option String
  feedback_text : Option String
  run_id : Option String
  run_status : Option RunStatus
  tool_name : Option String
  execution_status : Option ExecutionStatus

/-- The signal with the given fields and no hashes yet. -/
def SignalFields.draft (fields : SignalFields) : LearningSignal where
  schema_version := signalSchemaVersion
  signal_id := "pending"
  kind := fields.kind
  agent_id := fields.agent_id
  idempotency_key := fields.idempotency_key
  observed_at := fields.observed_at
  content_hash := "pending"
  idempotency_digest := "pending"
  reviewer_id := fields.reviewer_id
  feedback_text := fields.feedback_text
  run_id := fields.run_id
  run_status := fields.run_status
  tool_name := fields.tool_name
  execution_status := fields.execution_status

/-- The draft with its digest. -/
def SignalFields.digested (fields : SignalFields) : LearningSignal :=
  { fields.draft with idempotency_digest := fields.draft.idempotencyDigest }

/-- The draft with its hashes. -/
def SignalFields.hashed (fields : SignalFields) : LearningSignal :=
  { fields.digested with
    signal_id := fields.digested.recordHash
    content_hash := fields.digested.recordHash }

/-- `reject_credential_shaped`. -/
def rejectCredentialShaped (credentialShaped : String → Bool) (text : String) : Raises Unit :=
  require (credentialShaped text = false) (insightsError "feedback looks credential-shaped")

/-- `MAX_FEEDBACK_CHARS`. -/
def maxFeedbackChars : Nat := 4000

/-- The checks of a feedback text. -/
def checkedFeedback (credentialShaped : String → Bool) (text : String) : Raises String := do
  let text ← requireText "feedback_text" (.str text)
  require (text.length ≤ maxFeedbackChars) (insightsError "feedback_text exceeds max length")
  rejectCredentialShaped credentialShaped text
  return text

/-- `finalize_signal`. -/
def finalizeSignal (credentialShaped : String → Bool) (fields : SignalFields) :
    Raises LearningSignal := do
  let agent_id ← requireText "agent_id" (.str fields.agent_id)
  let idempotency_key ← requireText "idempotency_key" (.str fields.idempotency_key)
  let observed_at ← finiteTimestamp "observed_at" (.float fields.observed_at)
  let reviewer_id ← optionalText "reviewer_id" (Value.optText fields.reviewer_id).1
  let run_id ← optionalText "run_id" (Value.optText fields.run_id).1
  let tool_name ← optionalText "tool_name" (Value.optText fields.tool_name).1
  let feedback_text ← fields.feedback_text.mapM (checkedFeedback credentialShaped)
  let checked : SignalFields :=
    { kind := fields.kind, agent_id, idempotency_key, observed_at := .finite observed_at,
      reviewer_id, feedback_text, run_id, run_status := fields.run_status, tool_name,
      execution_status := fields.execution_status }
  checked.draft.validateShape
  return checked.hashed

/-- Fields that the checks leave as they are. -/
structure SignalFields.Checked (credentialShaped : String → Bool) (fields : SignalFields) : Prop where
  agent_id : isRequiredText fields.agent_id = true
  idempotency_key : isRequiredText fields.idempotency_key = true
  time : ∃ d, fields.observed_at = .finite d
  reviewer_id : ∀ t, fields.reviewer_id = some t → isRequiredText t = true
  run_id : ∀ t, fields.run_id = some t → isRequiredText t = true
  tool_name : ∀ t, fields.tool_name = some t → isRequiredText t = true
  feedback_text : ∀ t, fields.feedback_text = some t →
    isRequiredText t = true ∧ t.length ≤ maxFeedbackChars ∧ credentialShaped t = false
  shape : fields.draft.validateShape = .ok ()

theorem checkedFeedback_ok {credentialShaped : String → Bool} {text checked : String}
    (h : checkedFeedback credentialShaped text = .ok checked) :
    isRequiredText checked = true ∧ checked.length ≤ maxFeedbackChars ∧
      credentialShaped checked = false := by
  obtain ⟨read, hread, h⟩ := bind_ok.mp h
  obtain ⟨hlength, h⟩ := require_bind_ok.mp h
  obtain ⟨hshape, h⟩ := unit_bind_ok.mp h
  obtain rfl := pure_ok.mp h
  exact ⟨required_of_requireText hread, hlength, require_ok.mp hshape⟩

/-- Neither the shape nor a hash depends on the hashes that are filled in last. -/
theorem SignalFields.shape_hashed (fields : SignalFields) :
    fields.hashed.validateShape = fields.draft.validateShape := rfl

theorem SignalFields.digest_hashed (fields : SignalFields) :
    fields.hashed.idempotency_digest = fields.hashed.idempotencyDigest := by
  unfold SignalFields.hashed SignalFields.digested
  exact congrArg (fun ms => sha256HexOf (object ms)) rfl

theorem SignalFields.content_hashed (fields : SignalFields) :
    fields.hashed.content_hash = fields.hashed.recordHash := by
  unfold SignalFields.hashed
  exact congrArg (fun ms => sha256HexOf (object ms)) rfl

theorem SignalFields.id_hashed (fields : SignalFields) :
    fields.hashed.signal_id = fields.hashed.recordHash := content_hashed fields

/-- A signal made from checked fields is sealed. -/
theorem SignalFields.Checked.sealed {credentialShaped : String → Bool} {fields : SignalFields}
    (h : fields.Checked credentialShaped) : fields.hashed.Sealed where
  agent_id := h.agent_id
  idempotency_key := h.idempotency_key
  reviewer_id := h.reviewer_id
  run_id := h.run_id
  tool_name := h.tool_name
  time := h.time
  digest := digest_hashed fields
  content := content_hashed fields
  id := id_hashed fields
  shape := (shape_hashed fields).trans h.shape

/-- What `finalize_signal` returns is made from checked fields. -/
theorem finalizeSignal_ok {credentialShaped : String → Bool} {fields : SignalFields}
    {signal : LearningSignal} (h : finalizeSignal credentialShaped fields = .ok signal) :
    ∃ checked : SignalFields, checked.Checked credentialShaped ∧ signal = checked.hashed := by
  rw [finalizeSignal] at h
  obtain ⟨agent_id, hagent_id, h⟩ := bind_ok.mp h
  obtain ⟨idempotency_key, hkey, h⟩ := bind_ok.mp h
  obtain ⟨observed_at, -, h⟩ := bind_ok.mp h
  obtain ⟨reviewer_id, hreviewer_id, h⟩ := bind_ok.mp h
  obtain ⟨run_id, hrun_id, h⟩ := bind_ok.mp h
  obtain ⟨tool_name, htool_name, h⟩ := bind_ok.mp h
  obtain ⟨feedback_text, hfeedback, h⟩ := bind_ok.mp h
  obtain ⟨hshape, h⟩ := unit_bind_ok.mp h
  refine ⟨_, ?_, (pure_ok.mp h).symm⟩
  exact
    { agent_id := required_of_requireText hagent_id
      idempotency_key := required_of_requireText hkey
      time := ⟨observed_at, rfl⟩
      reviewer_id := fun t ht => required_of_optionalText (hreviewer_id.trans (congrArg _ ht))
      run_id := fun t ht => required_of_optionalText (hrun_id.trans (congrArg _ ht))
      tool_name := fun t ht => required_of_optionalText (htool_name.trans (congrArg _ ht))
      feedback_text := by
        intro t ht
        obtain rfl : feedback_text = some t := ht
        cases hraw : fields.feedback_text with
        | none =>
          rw [hraw] at hfeedback
          cases hfeedback
        | some raw =>
          rw [hraw] at hfeedback
          have hmap : (checkedFeedback credentialShaped raw).map some = .ok (some t) := hfeedback
          obtain ⟨read, hread, hsome⟩ := map_ok.mp hmap
          exact Option.some.inj hsome ▸ checkedFeedback_ok hread
      shape := hshape }

end Insights

end CBrain

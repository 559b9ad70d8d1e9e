import CBrain.Agent.Approvals
import CBrain.Framework.AppendLog
import CBrain.Framework.Ranking
import Mathlib.Data.Prod.Lex
import Mathlib.Data.String.Basic

/-! # Learning stores

    Models `cbrain/agent/insights_store.py`: a store of signals and approvals
    in dictionaries, and a store in the rows of two SQLite tables.

    What the two do with a signal and what they do with an approval differs in
    the columns and the messages only, so each operation is written once, over
    a `RecordKind`.

    * An `INTEGER` column keeps a whole floating-point value as an integer.
    * A NaN that is bound to a statement is `NULL` there, and a comparison with
      `NULL` selects nothing.
    * A statement has room for so many variables and no more.

    The store is the one that may be written to, and its rows are the ones it
    has written itself. -/

namespace CBrain.Insights

open Json (Dict)

/-! ## Section 1: Rows -/

/-- What an `INTEGER` column keeps of a number. -/
def integerColumn : Json → Json
  | .bool b => .int (if b then 1 else 0)
  | .float (.finite d) => if d.toRat.den = 1 then .int d.toRat.num else .float (.finite d)
  | j => j

/-- `isinstance(value, int) and not isinstance(value, bool)`. -/
def isInteger : Json → Bool
  | .int _ => true
  | _ => false

/-- A row of `learning_signals`. -/
structure SignalRow where
  signal_id : String
  schema_version : Json
  kind : String
  agent_id : String
  content_hash : String
  observed_at : JsonFloat
  idempotency_key : String
  idempotency_digest : String
  record_json : List Char

/-- A row of `learning_approvals`. -/
structure ApprovalRow where
  approval_id : String
  schema_version : Json
  candidate_hash : String
  profile_fingerprint : String
  reviewer_id : String
  content_hash : String
  approved_at : JsonFloat
  idempotency_key : String
  idempotency_digest : String
  record_json : List Char

/-- The values that are inserted for a signal. -/
def SignalRow.of (s : LearningSignal) (record_json : List Char) : SignalRow where
  signal_id := s.signal_id
  schema_version := integerColumn s.schema_version.1
  kind := s.kind.value
  agent_id := s.agent_id
  content_hash := s.content_hash
  observed_at := s.observed_at
  idempotency_key := s.idempotency_key
  idempotency_digest := s.idempotency_digest
  record_json := record_json

/-- The values that are inserted for an approval. -/
def ApprovalRow.of (r : ApprovalRecord) (record_json : List Char) : ApprovalRow where
  approval_id := r.approval_id
  schema_version := integerColumn r.schema_version.1
  candidate_hash := r.candidate_hash
  profile_fingerprint := r.profile_fingerprint
  reviewer_id := r.reviewer_id
  content_hash := r.content_hash
  approved_at := r.approved_at
  idempotency_key := r.idempotency_key
  idempotency_digest := r.idempotency_digest
  record_json := record_json

@[simp] theorem SignalRow.of_record_json (s : LearningSignal) (raw : List Char) :
    (SignalRow.of s raw).record_json = raw := rfl

@[simp] theorem SignalRow.of_schema_version (s : LearningSignal) (raw : List Char) :
    (SignalRow.of s raw).schema_version = integerColumn s.schema_version.1 := rfl

@[simp] theorem ApprovalRow.of_record_json (r : ApprovalRecord) (raw : List Char) :
    (ApprovalRow.of r raw).record_json = raw := rfl

@[simp] theorem ApprovalRow.of_schema_version (r : ApprovalRecord) (raw : List Char) :
    (ApprovalRow.of r raw).schema_version = integerColumn r.schema_version.1 := rfl

/-- `_load_signal_payload`. -/
def loadSignalPayload (raw : List Char) : Raises LearningSignal :=
  Except.mapError (asStoreError "stored learning signal is corrupted") do
    let _ ← parseRecordJson raw
    LearningSignal.fromJson raw

/-- `_load_approval_payload`. -/
def loadApprovalPayload (credentialShaped : String → Bool) (raw : List Char) :
    Raises ApprovalRecord :=
  Except.mapError (asStoreError "stored approval record is corrupted") do
    let _ ← parseRecordJson raw
    ApprovalRecord.fromJson credentialShaped raw

/-- `a == b` of floating-point values. -/
def sameFloat (a b : JsonFloat) : Bool := Json.pyEq (.float a) (.float b)

/-- `validate_signal_columns`. -/
def validateSignalColumns (s : LearningSignal) (row : SignalRow) : Raises Unit := do
  require (Json.pyEq s.schema_version.1 row.schema_version = true)
    (learningStoreError "schema_version column mismatch")
  require (s.kind.value = row.kind) (learningStoreError "kind column mismatch")
  require (s.agent_id = row.agent_id) (learningStoreError "agent_id column mismatch")
  require (s.content_hash = row.content_hash ∧ s.signal_id = row.content_hash)
    (learningStoreError "content_hash column mismatch")
  require (sameFloat s.observed_at row.observed_at = true)
    (learningStoreError "observed_at column mismatch")
  require (s.idempotency_key = row.idempotency_key)
    (learningStoreError "idempotency_key column mismatch")
  require (s.idempotency_digest = row.idempotency_digest)
    (learningStoreError "idempotency_digest column mismatch")
  require (s.idempotency_digest = s.idempotencyDigest)
    (learningStoreError "idempotency_digest mismatch")
  require (s.content_hash = s.recordHash) (learningStoreError "content_hash column mismatch")

/-- `validate_approval_columns`. -/
def validateApprovalColumns (r : ApprovalRecord) (row : ApprovalRow) : Raises Unit := do
  require (Json.pyEq r.schema_version.1 row.schema_version = true)
    (learningStoreError "schema_version column mismatch")
  require (r.candidate_hash = row.candidate_hash)
    (learningStoreError "candidate_hash column mismatch")
  require (r.profile_fingerprint = row.profile_fingerprint)
    (learningStoreError "profile_fingerprint column mismatch")
  require (r.reviewer_id = row.reviewer_id) (learningStoreError "reviewer_id column mismatch")
  require (r.content_hash = row.content_hash ∧ r.approval_id = row.content_hash)
    (learningStoreError "content_hash column mismatch")
  require (sameFloat r.approved_at row.approved_at = true)
    (learningStoreError "approved_at column mismatch")
  require (r.idempotency_key = row.idempotency_key)
    (learningStoreError "idempotency_key column mismatch")
  require (r.idempotency_digest = row.idempotency_digest)
    (learningStoreError "idempotency_digest column mismatch")
  require (r.idempotency_digest = r.idempotencyDigest)
    (learningStoreError "idempotency_digest mismatch")
  require (r.content_hash = r.recordHash) (learningStoreError "content_hash column mismatch")

/-- `_signal_from_row`. -/
def signalFromRow (row : SignalRow) : Raises LearningSignal := do
  let signal ← loadSignalPayload row.record_json
  require (isInteger row.schema_version = true)
    (learningStoreError "stored learning signal is corrupted")
  validateSignalColumns signal row
  return signal

/-- `_approval_from_row`. -/
def approvalFromRow (credentialShaped : String → Bool) (row : ApprovalRow) :
    Raises ApprovalRecord := do
  let approval ← loadApprovalPayload credentialShaped row.record_json
  require (isInteger row.schema_version = true)
    (learningStoreError "stored approval record is corrupted")
  validateApprovalColumns approval row
  return approval

/-- A number that equals an integer is kept as one. -/
theorem isInteger_column {v : Json} {n : Int} (h : Json.pyEq v (.int n) = true) :
    isInteger (integerColumn v) = true := by
  cases v with
  | int i => rfl
  | bool b => rfl
  | float x =>
    cases x with
    | finite d =>
      have hq : d.toRat = (n : ℚ) := by simpa [Json.pyEq, Json.num?, Json.Num.eq] using h
      have hden : d.toRat.den = 1 := by
        rw [hq]
        exact Rat.den_intCast n
      rw [integerColumn, if_pos hden]
      rfl
    | _ => simp [Json.pyEq, Json.num?, Json.Num.eq] at h
  | _ => simp [Json.pyEq, Json.num?] at h

theorem integerColumn_pyEq {v : Json} {n : Int} (h : Json.pyEq v (.int n) = true) :
    Json.pyEq v (integerColumn v) = true := by
  cases v with
  | int i => exact Json.pyEq_refl rfl
  | bool b => cases b <;> simp [integerColumn, Json.pyEq, Json.num?, Json.Num.eq]
  | float x =>
    cases x with
    | finite d =>
      by_cases hden : d.toRat.den = 1
      · rw [integerColumn, if_pos hden]
        have hq : d.toRat = (d.toRat.num : ℚ) := (Rat.den_eq_one_iff d.toRat).mp hden |>.symm
        simpa [Json.pyEq, Json.num?, Json.Num.eq] using hq
      · rw [integerColumn, if_neg hden]
        exact Json.pyEq_refl rfl
    | _ => simp [Json.pyEq, Json.num?, Json.Num.eq] at h
  | _ => simp [Json.pyEq, Json.num?] at h

theorem sameFloat_of_finite {x : JsonFloat} (h : ∃ d, x = .finite d) : sameFloat x x = true := by
  obtain ⟨d, rfl⟩ := h
  exact Json.pyEq_refl rfl

/-- **A stored signal is read back** from its row. -/
theorem LearningSignal.Sealed.fromRow {s : LearningSignal} (h : s.Sealed) :
    signalFromRow (SignalRow.of s s.text) = .ok s := by
  have hschema : Json.pyEq s.schema_version.1 (.int 2) = true := LearningSignal.schema_of_shape h.shape
  have hparse : parseRecordJson s.text = .ok (object s.members) :=
    parseRecordJson_canonicalJson (object s.members)
  have hload : loadSignalPayload s.text = .ok s := by
    rw [loadSignalPayload, hparse, ok_bind, h.fromJson]
    rfl
  have hcolumns : validateSignalColumns s (SignalRow.of s s.text) = .ok () := by
    unfold validateSignalColumns
    simp only [require_bind_ok, require_ok]
    exact ⟨integerColumn_pyEq hschema, rfl, rfl, ⟨rfl, h.id.trans h.content.symm⟩,
      sameFloat_of_finite h.time, rfl, rfl, h.digest, h.content⟩
  rw [signalFromRow, SignalRow.of_record_json, hload, ok_bind, SignalRow.of_schema_version,
    require_bind_pos (isInteger_column hschema), hcolumns, ok_bind]
  rfl

/-- **A stored approval is read back** from its row. -/
theorem ApprovalRecord.Sealed.fromRow {credentialShaped : String → Bool} {r : ApprovalRecord}
    (h : r.Sealed credentialShaped) :
    approvalFromRow credentialShaped (ApprovalRow.of r r.text) = .ok r := by
  have hschema : Json.pyEq r.schema_version.1 (.int 2) = true := (require_bind_ok.mp h.valid).1
  have hparse : parseRecordJson r.text = .ok (object r.members) :=
    parseRecordJson_canonicalJson (object r.members)
  have hload : loadApprovalPayload credentialShaped r.text = .ok r := by
    rw [loadApprovalPayload, hparse, ok_bind, h.fromJson]
    rfl
  have hcolumns : validateApprovalColumns r (ApprovalRow.of r r.text) = .ok () := by
    unfold validateApprovalColumns
    simp only [require_bind_ok, require_ok]
    exact ⟨integerColumn_pyEq hschema, rfl, rfl, rfl, ⟨rfl, h.id.trans h.content.symm⟩,
      sameFloat_of_finite h.time, rfl, rfl, h.digest, h.content⟩
  rw [approvalFromRow, ApprovalRow.of_record_json, hload, ok_bind, ApprovalRow.of_schema_version,
    require_bind_pos (isInteger_column hschema), hcolumns, ok_bind]
  rfl

/-! ## Section 2: What the stores are told -/

/-- The records of one kind: what differs between signals and approvals. -/
structure RecordKind (R Row : Type) where
  ids : Identified R String
  validate : R → Raises R
  toJson : R → Raises (List Char)
  row : R → List Char → Row
  columns : UniqueColumns Row String
  fromRow : Row → Raises R
  already_exists : String
  missing : String
  field_name : String

/-- Learning signals. -/
def signalRecords : RecordKind LearningSignal SignalRow where
  ids := ⟨LearningSignal.signal_id, LearningSignal.idempotency_key, LearningSignal.idempotency_digest⟩
  validate := validateAppendedSignal
  toJson := LearningSignal.toJson
  row := SignalRow.of
  columns := ⟨SignalRow.signal_id, SignalRow.idempotency_key⟩
  fromRow := signalFromRow
  already_exists := "learning signal already exists"
  missing := "missing learning evidence"
  field_name := "signal ids"

/-- Approvals. -/
def approvalRecords (credentialShaped : String → Bool) : RecordKind ApprovalRecord ApprovalRow where
  ids := ⟨ApprovalRecord.approval_id, ApprovalRecord.idempotency_key,
    ApprovalRecord.idempotency_digest⟩
  validate := validateAppendedApproval credentialShaped
  toJson := ApprovalRecord.toJson
  row := ApprovalRow.of
  columns := ⟨ApprovalRow.approval_id, ApprovalRow.idempotency_key⟩
  fromRow := approvalFromRow credentialShaped
  already_exists := "approval already exists"
  missing := "missing approval evidence"
  field_name := "approval ids"

/-- `a < b` of floating-point values. -/
def floatLt : JsonFloat → JsonFloat → Bool
  | .finite a, .finite b => decide (a < b)
  | .finite _, .infinity neg => !neg
  | .infinity neg, .finite _ => neg
  | .infinity a, .infinity b => a && !b
  | _, _ => false

/-- `a <= b` of floating-point values. -/
def floatLe (a b : JsonFloat) : Bool := floatLt a b || sameFloat a b

/-- `_signal_in_bounds`. -/
def signalInBounds (agent_id : Option String) (since until_ : Option JsonFloat)
    (signal : LearningSignal) : Bool :=
  agent_id.all (fun agent_id => signal.agent_id == agent_id) &&
    since.all (fun since => !floatLt signal.observed_at since) &&
    until_.all (fun until_ => floatLe signal.observed_at until_)

/-- One round of the loop of `_unique_ids`. -/
def uniqueId (field_name : String) (unique : List String) (item : String) :
    Raises (List String) := do
  require (nonBlank item = true) (learningStoreError s!"{field_name} must be non-empty strings")
  return if item ∈ unique then unique else unique ++ [item]

/-- `_unique_ids`. -/
def uniqueIds (field_name : String) (values : List String) : Raises (List String) :=
  values.foldlM (uniqueId field_name) []

/-- A time to sort by.  Stored times are finite. -/
def timeOf : JsonFloat → ℚ
  | .finite d => d.toRat
  | _ => 0

/-- `idempotent retry payload mismatch`. -/
def retryMismatch : Exn := learningStoreError "idempotent retry payload mismatch"

/-! ## Section 3: Dictionaries -/

/-- `InMemoryLearningStore`. -/
structure InMemoryLearningStore where
  signals : TwoDicts String LearningSignal
  approvals : TwoDicts String ApprovalRecord

namespace InMemoryLearningStore

section records
variable {R Row : Type} (k : RecordKind R Row)

/-- `append_signal` and `append_approval`. -/
def append (d : TwoDicts String R) (record : R) : Raises R × TwoDicts String R :=
  match k.validate record with
  | .error e => (.error e, d)
  | .ok record =>
    match d.by_key.get? (k.ids.key record) with
    | some existing =>
      if k.ids.digest existing ≠ k.ids.digest record then (.error retryMismatch, d)
      else (.ok existing, d)
    | none =>
      if (d.by_id.get? (k.ids.id record)).isSome then
        (.error (learningStoreError k.already_exists), d)
      else (.ok record, d.put k.ids record)

/-- `load_signals` and `load_approvals`. -/
def load (d : TwoDicts String R) (values : List String) : Raises (List R) := do
  let unique ← uniqueIds k.field_name values
  unique.mapM fun item => found (learningStoreError k.missing) (d.by_id.get? item)

end records

/-- `list_signals`. -/
def listSignals (d : TwoDicts String LearningSignal) (agent_id : Option String)
    (since until_ : Option JsonFloat) : List LearningSignal :=
  (d.by_id.values.filter (signalInBounds agent_id since until_)).sortBy fun item =>
    toLex (timeOf item.observed_at, item.signal_id)

/-- `list_approvals`. -/
def listApprovals (d : TwoDicts String ApprovalRecord) (agent_id : Option String) :
    List ApprovalRecord :=
  (d.by_id.values.filter fun approval =>
    agent_id.all fun agent_id => approval.agent_id == agent_id).sortBy ApprovalRecord.approval_id

end InMemoryLearningStore

/-! ## Section 4: Tables -/

/-- How many variables a statement has room for: at least those of the longest
    `INSERT`. -/
structure VariableLimit where
  value : Nat
  inserts : 10 ≤ value

/-- What the driver raises for a statement with too many variables. -/
def tooManyVariables : Exn := ⟨.other, "OperationalError", [.text "too many SQL variables"]⟩

/-- The tables. -/
structure SQLiteLearningStore where
  learning_signals : List SignalRow
  learning_approvals : List ApprovalRow

namespace SQLiteLearningStore

section records
variable {R Row : Type} (k : RecordKind R Row)

/-- The statements between `BEGIN IMMEDIATE` and `COMMIT`. -/
def insert (rows : List Row) (record : R) : Raises (R × List Row) := do
  let raw ← k.toJson record
  match k.columns.insert? rows (k.row record raw) with
  | some rows => return (record, rows)
  | none => do
    let row ← found (learningStoreError k.already_exists)
      (rows.find? fun row => k.columns.key row = k.ids.key record)
    let existing ← k.fromRow row
    require (k.ids.digest existing = k.ids.digest record) retryMismatch
    return (existing, rows)

/-- `append_signal` and `append_approval`. -/
def append (rows : List Row) (record : R) : Raises R × List Row :=
  match k.validate record >>= insert k rows with
  | .ok (answer, rows) => (.ok answer, rows)
  -- `ROLLBACK`
  | .error e => (.error e, rows)

/-- `load_signals` and `load_approvals`. -/
def load (limit : VariableLimit) (rows : List Row) (values : List String) : Raises (List R) := do
  let unique ← uniqueIds k.field_name values
  if unique = [] then return []
  require (unique.length ≤ limit.value) tooManyVariables
  let by_id ← (rows.filter fun row => k.columns.id row ∈ unique).mapM fun row => do
    let record ← k.fromRow row
    return (k.columns.id row, record)
  require (∀ item ∈ unique, item ∈ by_id.map Prod.fst) (learningStoreError k.missing)
  return unique.filterMap fun item => by_id.lookup item

end records

/-- `observed_at >= ?` for the value that is bound. -/
def atLeast (row : SignalRow) : JsonFloat → Bool
  | .nan => false
  | since => floatLe since row.observed_at

/-- `observed_at <= ?` for the value that is bound. -/
def atMost (row : SignalRow) : JsonFloat → Bool
  | .nan => false
  | until_ => floatLe row.observed_at until_

/-- The clause `WHERE` of `list_signals`. -/
def selected (agent_id : Option String) (since until_ : Option JsonFloat) (row : SignalRow) : Bool :=
  agent_id.all (fun agent_id => row.agent_id == agent_id) && since.all (atLeast row) &&
    until_.all (atMost row)

/-- `list_signals`. -/
def listSignals (rows : List SignalRow) (agent_id : Option String)
    (since until_ : Option JsonFloat) : Raises (List LearningSignal) :=
  ((rows.filter (selected agent_id since until_)).sortBy fun row =>
    toLex (timeOf row.observed_at, row.signal_id)).mapM signalFromRow

/-- `list_approvals`. -/
def listApprovals (credentialShaped : String → Bool) (rows : List ApprovalRow)
    (agent_id : Option String) : Raises (List ApprovalRecord) := do
  let approvals ← (rows.sortBy ApprovalRow.approval_id).mapM (approvalFromRow credentialShaped)
  return approvals.filter fun item => agent_id.all fun agent_id => item.agent_id == agent_id

end SQLiteLearningStore

/-! ## Section 5: Calls -/

/-- A call of a learning store. -/
inductive LearningOp where
  | appendSignal (signal : LearningSignal)
  | listSignals (agent_id : Option String) (since until_ : Option JsonFloat)
  | loadSignals (signal_ids : List String)
  | appendApproval (approval : ApprovalRecord)
  | listApprovals (agent_id : Option String)
  | loadApprovals (approval_ids : List String)

/-- What a call returns. -/
inductive LearningAnswer where
  | signal (signal : LearningSignal)
  | signals (signals : List LearningSignal)
  | approval (approval : ApprovalRecord)
  | approvals (approvals : List ApprovalRecord)
  deriving DecidableEq

namespace InMemoryLearningStore

/-- `InMemoryLearningStore()`. -/
def empty : InMemoryLearningStore := ⟨TwoDicts.empty, TwoDicts.empty⟩

/-- One call. -/
def step (credentialShaped : String → Bool) (store : InMemoryLearningStore) :
    LearningOp → Raises LearningAnswer × InMemoryLearningStore
  | .appendSignal signal =>
    let result := append signalRecords store.signals signal
    (result.1.map .signal, { store with signals := result.2 })
  | .listSignals agent_id since until_ =>
    (.ok (.signals (listSignals store.signals agent_id since until_)), store)
  | .loadSignals signal_ids => ((load signalRecords store.signals signal_ids).map .signals, store)
  | .appendApproval approval =>
    let result := append (approvalRecords credentialShaped) store.approvals approval
    (result.1.map .approval, { store with approvals := result.2 })
  | .listApprovals agent_id => (.ok (.approvals (listApprovals store.approvals agent_id)), store)
  | .loadApprovals approval_ids =>
    ((load (approvalRecords credentialShaped) store.approvals approval_ids).map .approvals, store)

end InMemoryLearningStore

namespace SQLiteLearningStore

/-- A new file. -/
def empty : SQLiteLearningStore := ⟨[], []⟩

/-- One call. -/
def step (credentialShaped : String → Bool) (limit : VariableLimit) (store : SQLiteLearningStore) :
    LearningOp → Raises LearningAnswer × SQLiteLearningStore
  | .appendSignal signal =>
    let result := append signalRecords store.learning_signals signal
    (result.1.map .signal, { store with learning_signals := result.2 })
  | .listSignals agent_id since until_ =>
    ((listSignals store.learning_signals agent_id since until_).map .signals, store)
  | .loadSignals signal_ids =>
    ((load signalRecords limit store.learning_signals signal_ids).map .signals, store)
  | .appendApproval approval =>
    let result := append (approvalRecords credentialShaped) store.learning_approvals approval
    (result.1.map .approval, { store with learning_approvals := result.2 })
  | .listApprovals agent_id =>
    ((listApprovals credentialShaped store.learning_approvals agent_id).map .approvals, store)
  | .loadApprovals approval_ids =>
    ((load (approvalRecords credentialShaped) limit store.learning_approvals approval_ids).map
      .approvals, store)

end SQLiteLearningStore

end CBrain.Insights

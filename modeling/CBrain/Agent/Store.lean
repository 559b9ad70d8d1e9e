import CBrain.Agent.Worker
import CBrain.Framework.Pool

/-! # Run stores

    Models `cbrain/agent/{store_memory,store_sqlite}.py`.  The in-memory store
    keeps records, the SQLite store keeps rows of text with the version and
    the state in columns of their own.

    Over both stands one law: a store that represents a map of records answers
    as that map does, up to the values that text does not carry.  What holds
    of workers over every lawful store holds over either. -/

namespace CBrain

open Effect
open Json (Dict)

/-! ## Section 1: The interface -/

/-- `RunStore`. -/
structure RunStore where
  State : Type
  empty : State
  create : State → StoredRunRecord → Raises Unit × State
  load : State → String → Raises StoredRunRecord
  save : State → StoredRunRecord → Nat → Raises StoredRunRecord × State
  claimToolDispatch : State → String → Nat → Raises (Option StoredRunRecord) × State

/-- What a store answers.  Everything else an agent asks is answered by others,
    in any way. -/
def RunStore.answering (store : RunStore) : Answering AgentSig store.State
  | s, .create record, x, s' => (x, s') = store.create s record
  | s, .load run_id, x, s' => x = store.load s run_id ∧ s' = s
  | s, .save record n, x, s' => (x, s') = store.save s record n
  | s, .claim run_id n, x, s' => (x, s') = store.claimToolDispatch s run_id n
  | s, .clock, _, s' | s, .wallClock, _, s' | s, .cancelled, _, s' | s, .newRunId, _, s'
  | s, .retrieve _, _, s' | s, .complete _ _ _ _, _, s' | s, .execute _ _, _, s' => s' = s

/-- `f"unknown run {run_id!r}"`. -/
def unknownRun (run_id : String) : Exn :=
  Exn.parts .runStoreError [.text "unknown run ", .repr (.str run_id)]

/-- `f"run {record.run_id!r} already exists"`. -/
def runExists (run_id : String) : Exn :=
  Exn.parts .runStoreError [.text "run ", .repr (.str run_id), .text " already exists"]

/-- The error of a save on another version. -/
def versionConflict : Exn := runStoreError "optimistic version conflict"

/-! ## Section 2: The in-memory store -/

/-- `_records`. -/
abbrev Records : Type := String → Option StoredRunRecord

namespace InMemoryRunStore

/-- `create`. -/
def create (records : Records) (record : StoredRunRecord) : Raises Unit × Records :=
  match records record.run_id with
  | some _ => (.error (runExists record.run_id), records)
  | none => (.ok (), Function.update records record.run_id (some record))

/-- `load`. -/
def load (records : Records) (run_id : String) : Raises StoredRunRecord :=
  match records run_id with
  | some record => .ok record
  | none => .error (unknownRun run_id)

/-- `save`. -/
def save (records : Records) (record : StoredRunRecord) (expected_version : Nat) :
    Raises StoredRunRecord × Records :=
  match records record.run_id with
  | none => (.error (unknownRun record.run_id), records)
  | some current =>
    if current.version ≠ expected_version then (.error versionConflict, records)
    else
      let updated := { record with version := expected_version + 1 }
      (.ok updated, Function.update records record.run_id (some updated))

/-- `claim_tool_dispatch`. -/
def claimToolDispatch (records : Records) (run_id : String) (expected_version : Nat) :
    Raises (Option StoredRunRecord) × Records :=
  match records run_id with
  | none => (.error (unknownRun run_id), records)
  | some current =>
    if current.version ≠ expected_version ∨ current.durable_state ≠ .toolPrepared then
      (.ok none, records)
    else
      let updated := current.inFlight (expected_version + 1)
      (.ok (some updated), Function.update records run_id (some updated))

end InMemoryRunStore

/-- `InMemoryRunStore`. -/
def inMemoryRunStore : RunStore where
  State := Records
  empty := fun _ => none
  create := InMemoryRunStore.create
  load := InMemoryRunStore.load
  save := InMemoryRunStore.save
  claimToolDispatch := InMemoryRunStore.claimToolDispatch

/-! ## Section 3: The SQLite store -/

/-- A row of `durable_runs`; the run id is its primary key. -/
structure RunRow where
  schema_version : Json
  version : Nat
  durable_state : String
  record_json : List Char

/-- The row written for a record. -/
def RunRow.of (record : StoredRunRecord) (record_json : List Char) : RunRow where
  schema_version := record.schema_version
  version := record.version
  durable_state := record.durable_state.value
  record_json := record_json

@[simp] theorem RunRow.of_version (record : StoredRunRecord) (raw : List Char) :
    (RunRow.of record raw).version = record.version := rfl

@[simp] theorem RunRow.of_durable_state (record : StoredRunRecord) (raw : List Char) :
    (RunRow.of record raw).durable_state = record.durable_state.value := rfl

@[simp] theorem RunRow.of_record_json (record : StoredRunRecord) (raw : List Char) :
    (RunRow.of record raw).record_json = raw := rfl

/-- `validate_record_columns`. -/
def validateRecordColumns (record : StoredRunRecord) (row : RunRow) : Raises Unit := do
  require (Json.pyEq record.schema_version row.schema_version = true)
    (runStoreError "schema_version column mismatch")
  require (record.version = row.version) (runStoreError "version column mismatch")
  require (record.durable_state.value = row.durable_state)
    (runStoreError "durable_state column mismatch")

/-- The record of a row that was read. -/
def RunRow.read (row : RunRow) : Raises StoredRunRecord := do
  let record ← StoredRunRecord.fromJson row.record_json
  validateRecordColumns record row
  return record

/-- The table, by primary key. -/
abbrev Rows : Type := String → Option RunRow

namespace SQLiteRunStore

/-- `create`.  The text is made before the statement runs. -/
def create (rows : Rows) (record : StoredRunRecord) : Raises Unit × Rows :=
  match record.toJson with
  | .error e => (.error e, rows)
  | .ok record_json =>
    match rows record.run_id with
    | some _ => (.error (runExists record.run_id), rows)
    | none => (.ok (), Function.update rows record.run_id (some (RunRow.of record record_json)))

/-- `load`. -/
def load (rows : Rows) (run_id : String) : Raises StoredRunRecord :=
  match rows run_id with
  | none => .error (unknownRun run_id)
  | some row => row.read

/-- `save`: an `UPDATE` of the row with that id and that version, if any. -/
def save (rows : Rows) (record : StoredRunRecord) (expected_version : Nat) :
    Raises StoredRunRecord × Rows :=
  let updated := { record with version := expected_version + 1 }
  match updated.toJson with
  | .error e => (.error e, rows)
  | .ok record_json =>
    match rows record.run_id with
    | none => (.error versionConflict, rows)
    | some row =>
      if row.version ≠ expected_version then (.error versionConflict, rows)
      else (.ok updated, Function.update rows record.run_id (some (RunRow.of updated record_json)))

/-- `claim_tool_dispatch`; an exception rolls the transaction back. -/
def claimToolDispatch (rows : Rows) (run_id : String) (expected_version : Nat) :
    Raises (Option StoredRunRecord) × Rows :=
  match rows run_id with
  | none => (.error (unknownRun run_id), rows)
  | some row =>
    if row.version ≠ expected_version ∨
        row.durable_state ≠ DurableRunState.toolPrepared.value then (.ok none, rows)
    else
      match row.read with
      | .error e => (.error e, rows)
      | .ok record =>
        let updated := record.inFlight (expected_version + 1)
        match updated.toJson with
        | .error e => (.error e, rows)
        | .ok record_json =>
          (.ok (some updated), Function.update rows run_id (some (RunRow.of updated record_json)))

end SQLiteRunStore

/-- `SQLiteRunStore`. -/
def sqliteRunStore : RunStore where
  State := Rows
  empty := fun _ => none
  create := SQLiteRunStore.create
  load := SQLiteRunStore.load
  save := SQLiteRunStore.save
  claimToolDispatch := SQLiteRunStore.claimToolDispatch

/-! ## Section 4: The law of a run store -/

/-- The record is what a store reads back where `cur` was stored: the record
    itself, or what its text holds. -/
def StoredRunRecord.ReadFrom (r cur : StoredRunRecord) : Prop := r = cur ∨ r = cur.reloaded

theorem StoredRunRecord.ReadFrom.sameText {r cur : StoredRunRecord} (h : r.ReadFrom cur) :
    r.SameText cur := by
  rcases h with rfl | rfl
  · exact StoredRunRecord.SameText.refl r
  · exact StoredRunRecord.SameText.reloaded cur

/-- How a map of records answers: `m'` is the map after the answer.  An error
    changes nothing. -/
def Records.Answers (m : Records) : (o : AgentOp) → o.Ans → Records → Prop
  | .create r, .ok (), m' => m r.run_id = none ∧ m' = Function.update m r.run_id (some r)
  | .load run_id, .ok r, m' => (∃ cur, m run_id = some cur ∧ r.ReadFrom cur) ∧ m' = m
  | .save r n, .ok saved, m' => saved = { r with version := n + 1 } ∧
      (∃ cur, m r.run_id = some cur ∧ cur.version = n) ∧
      m' = Function.update m r.run_id (some saved)
  | .claim run_id n, .ok (some claimed), m' =>
      (∃ cur read : StoredRunRecord, m run_id = some cur ∧ read.ReadFrom cur ∧ cur.version = n ∧
        cur.durable_state = .toolPrepared ∧ claimed = read.inFlight (n + 1)) ∧
      m' = Function.update m run_id (some claimed)
  | _, _, m' => m' = m

/-- Every record stands under its own run id. -/
def Records.Keyed (m : Records) : Prop := ∀ run_id r, m run_id = some r → r.run_id = run_id

/-- A run store that answers as a map of records does. -/
structure LawfulRunStore extends RunStore where
  Represents : Records → State → Prop
  represents_empty : Represents (fun _ => none) empty
  keyed : ∀ {m s}, Represents m s → m.Keyed
  answers : ∀ {m s} {o : AgentOp} {x : o.Ans} {s'}, Represents m s →
    toRunStore.answering s o x s' → ∃ m', m.Answers o x m' ∧ Represents m' s'

theorem Records.Keyed.update {m : Records} (h : m.Keyed) {run_id : String} {r : StoredRunRecord}
    (hr : r.run_id = run_id) : Records.Keyed (Function.update m run_id (some r)) := by
  intro id r' hr'
  by_cases hid : id = run_id
  · subst hid
    rw [Function.update_self] at hr'
    rw [← Option.some.inj hr', hr]
  · rw [Function.update_of_ne hid] at hr'
    exact h id r' hr'

/-- An answered map is keyed again. -/
theorem Records.Answers.keyed {m m' : Records} {o : AgentOp} {x : o.Ans} (hm : m.Keyed)
    (h : m.Answers o x m') : m'.Keyed := by
  cases o with
  | create r =>
    cases x with
    | ok u =>
      obtain ⟨-, rfl⟩ := h
      exact hm.update rfl
    | error e =>
      obtain rfl : m' = m := h
      exact hm
  | save r n =>
    cases x with
    | ok saved =>
      obtain ⟨hsaved, -, rfl⟩ := h
      apply hm.update
      rw [hsaved]
    | error e =>
      obtain rfl : m' = m := h
      exact hm
  | claim run_id n =>
    match x, h with
    | .ok (some claimed), ⟨⟨cur, read, hcur, hread, _, _, hclaimed⟩, hm'⟩ =>
      subst hm'
      apply hm.update
      have hid : read.run_id = cur.run_id := hread.sameText.field StoredRunRecord.run_id fun _ => rfl
      rw [hclaimed]
      exact hid.trans (hm run_id cur hcur)
    | .ok none, h =>
      obtain rfl : m' = m := h
      exact hm
    | .error e, h =>
      obtain rfl : m' = m := h
      exact hm
  | load run_id =>
    cases x with
    | ok r =>
      obtain ⟨-, rfl⟩ := h
      exact hm
    | error e =>
      obtain rfl : m' = m := h
      exact hm
  | clock | wallClock | cancelled | newRunId | retrieve _ | complete _ _ _ _ | execute _ _ =>
    obtain rfl : m' = m := h
    exact hm

/-- The answer settles the map after it. -/
theorem Records.Answers.unique {m m₁ m₂ : Records} {o : AgentOp} {x : o.Ans} (h₁ : m.Answers o x m₁)
    (h₂ : m.Answers o x m₂) : m₁ = m₂ := by
  cases o with
  | create r =>
    cases x with
    | ok u => exact h₁.2.trans h₂.2.symm
    | error e => exact Eq.trans h₁ (Eq.symm h₂)
  | load run_id =>
    cases x with
    | ok r => exact h₁.2.trans h₂.2.symm
    | error e => exact Eq.trans h₁ (Eq.symm h₂)
  | save r n =>
    cases x with
    | ok saved => exact h₁.2.2.trans h₂.2.2.symm
    | error e => exact Eq.trans h₁ (Eq.symm h₂)
  | claim run_id n =>
    match x, h₁, h₂ with
    | .ok (some claimed), h₁, h₂ => exact h₁.2.trans h₂.2.symm
    | .ok none, h₁, h₂ => exact Eq.trans h₁ (Eq.symm h₂)
    | .error e, h₁, h₂ => exact Eq.trans h₁ (Eq.symm h₂)
  | clock | wallClock | cancelled | newRunId | retrieve _ | complete _ _ _ _ | execute _ _ =>
    exact Eq.trans h₁ (Eq.symm h₂)

/-! ## Section 5: The in-memory store is lawful -/

theorem InMemoryRunStore.answers {m : Records} {o : AgentOp} {x : o.Ans} {s' : Records}
    (h : inMemoryRunStore.answering m o x s') : m.Answers o x s' := by
  cases o with
  | create r =>
    have hstep : (x, s') = InMemoryRunStore.create m r := h
    unfold InMemoryRunStore.create at hstep
    split at hstep
    · obtain ⟨rfl, rfl⟩ := Prod.mk.inj hstep
      exact rfl
    · next hnone =>
      obtain ⟨rfl, rfl⟩ := Prod.mk.inj hstep
      exact ⟨hnone, rfl⟩
  | load run_id =>
    obtain ⟨hx, rfl⟩ : x = InMemoryRunStore.load m run_id ∧ s' = m := h
    unfold InMemoryRunStore.load at hx
    split at hx
    · next cur hcur =>
      subst hx
      exact ⟨⟨cur, hcur, Or.inl rfl⟩, rfl⟩
    · subst hx
      exact rfl
  | save r n =>
    have hstep : (x, s') = InMemoryRunStore.save m r n := h
    unfold InMemoryRunStore.save at hstep
    split at hstep
    · obtain ⟨rfl, rfl⟩ := Prod.mk.inj hstep
      exact rfl
    · next cur hcur =>
      by_cases hversion : cur.version = n
      · rw [if_neg (not_not.mpr hversion)] at hstep
        obtain ⟨rfl, rfl⟩ := Prod.mk.inj hstep
        exact ⟨rfl, ⟨cur, hcur, hversion⟩, rfl⟩
      · rw [if_pos hversion] at hstep
        obtain ⟨rfl, rfl⟩ := Prod.mk.inj hstep
        exact rfl
  | claim run_id n =>
    have hstep : (x, s') = InMemoryRunStore.claimToolDispatch m run_id n := h
    unfold InMemoryRunStore.claimToolDispatch at hstep
    split at hstep
    · obtain ⟨rfl, rfl⟩ := Prod.mk.inj hstep
      exact rfl
    · next cur hcur =>
      by_cases hstale : cur.version ≠ n ∨ cur.durable_state ≠ .toolPrepared
      · rw [if_pos hstale] at hstep
        obtain ⟨rfl, rfl⟩ := Prod.mk.inj hstep
        exact rfl
      · rw [if_neg hstale] at hstep
        obtain ⟨rfl, rfl⟩ := Prod.mk.inj hstep
        obtain ⟨hversion, hstate⟩ := not_or.mp hstale
        exact ⟨⟨cur, cur, hcur, Or.inl rfl, not_not.mp hversion, not_not.mp hstate, rfl⟩, rfl⟩
  | clock | wallClock | cancelled | newRunId | retrieve _ | complete _ _ _ _ | execute _ _ =>
    exact h

section answers

variable {m : Records} {r cur : StoredRunRecord} {run_id : String} {n : Nat}

theorem InMemoryRunStore.answering_create (h : m r.run_id = none) :
    inMemoryRunStore.answering m (.create r) (.ok ()) (Function.update m r.run_id (some r)) := by
  show _ = InMemoryRunStore.create m r
  unfold InMemoryRunStore.create
  rw [h]
  rfl

theorem InMemoryRunStore.answering_load (h : m run_id = some r) :
    inMemoryRunStore.answering m (.load run_id) (.ok r) m := by
  refine ⟨?_, rfl⟩
  show _ = InMemoryRunStore.load m run_id
  unfold InMemoryRunStore.load
  rw [h]

theorem InMemoryRunStore.answering_absent (h : m run_id = none) :
    inMemoryRunStore.answering m (.load run_id) (.error (unknownRun run_id)) m := by
  refine ⟨?_, rfl⟩
  show _ = InMemoryRunStore.load m run_id
  unfold InMemoryRunStore.load
  rw [h]

theorem InMemoryRunStore.answering_save (h : m r.run_id = some cur) (hversion : cur.version = n) :
    inMemoryRunStore.answering m (.save r n) (.ok { r with version := n + 1 })
      (Function.update m r.run_id (some { r with version := n + 1 })) := by
  show _ = InMemoryRunStore.save m r n
  unfold InMemoryRunStore.save
  rw [h]
  show _ = if cur.version ≠ n then _ else _
  rw [if_neg (not_not.mpr hversion)]
  rfl

theorem InMemoryRunStore.answering_claim (h : m run_id = some cur) (hversion : cur.version = n)
    (hstate : cur.durable_state = .toolPrepared) :
    inMemoryRunStore.answering m (.claim run_id n) (.ok (some (cur.inFlight (n + 1))))
      (Function.update m run_id (some (cur.inFlight (n + 1)))) := by
  have hready : ¬ (cur.version ≠ n ∨ cur.durable_state ≠ .toolPrepared) :=
    not_or.mpr ⟨not_not.mpr hversion, not_not.mpr hstate⟩
  show _ = InMemoryRunStore.claimToolDispatch m run_id n
  unfold InMemoryRunStore.claimToolDispatch
  rw [h]
  show _ = if cur.version ≠ n ∨ cur.durable_state ≠ .toolPrepared then _ else _
  rw [if_neg hready]
  rfl

end answers

/-- The in-memory store is lawful. -/
def lawfulInMemory : LawfulRunStore where
  toRunStore := inMemoryRunStore
  Represents := fun (m s : Records) => s = m ∧ m.Keyed
  represents_empty := ⟨rfl, fun _ _ h => nomatch h⟩
  keyed := fun h => h.2
  answers := by
    rintro m s o x s' ⟨rfl, hkeyed⟩ h
    have hanswers := InMemoryRunStore.answers h
    exact ⟨s', hanswers, rfl, hanswers.keyed hkeyed⟩

/-! ## Section 6: The SQLite store is lawful -/

namespace SQLiteRunStore

/-- The table of a map of records. -/
structure Represents (m : Records) (rows : Rows) : Prop where
  keyed : m.Keyed
  rows : ∀ run_id, rows run_id = (m run_id).map fun r => RunRow.of r r.text

/-- A row that is read gives the record as its text holds it. -/
theorem read_of {r x : StoredRunRecord} (h : (RunRow.of r r.text).read = .ok x) :
    x = r.reloaded := by
  unfold RunRow.read at h
  obtain ⟨y, hy, h⟩ := bind_ok.mp h
  obtain ⟨_, -, h⟩ := bind_ok.mp h
  rw [← pure_ok.mp h]
  rw [RunRow.of_record_json] at hy
  exact StoredRunRecord.fromJson_ok hy

variable {m : Records} {rows : Rows}

theorem Represents.row (h : Represents m rows) {run_id : String} {row : RunRow}
    (hrow : rows run_id = some row) : ∃ cur, m run_id = some cur ∧ row = RunRow.of cur cur.text := by
  rw [h.rows] at hrow
  obtain ⟨cur, hcur, heq⟩ := Option.map_eq_some_iff.mp hrow
  exact ⟨cur, hcur, heq.symm⟩

theorem Represents.none (h : Represents m rows) {run_id : String} (hrow : rows run_id = none) :
    m run_id = none := by
  rw [h.rows] at hrow
  exact Option.map_eq_none_iff.mp hrow

theorem Represents.update (h : Represents m rows) {run_id : String} {r : StoredRunRecord}
    (hr : r.run_id = run_id) : Represents (Function.update m run_id (some r))
      (Function.update rows run_id (some (RunRow.of r r.text))) where
  keyed := h.keyed.update hr
  rows := by
    intro id
    by_cases hid : id = run_id
    · subst hid
      simp
    · rw [Function.update_of_ne hid, Function.update_of_ne hid]
      exact h.rows id

theorem answers_create (h : Represents m rows) {r : StoredRunRecord} {x : Raises Unit} {rows' : Rows}
    (hstep : (x, rows') = create rows r) :
    ∃ m', m.Answers (.create r) x m' ∧ Represents m' rows' := by
  unfold create at hstep
  rcases r.toJson_cases with ⟨e, hjson⟩ | hjson
  · rw [hjson] at hstep
    obtain ⟨rfl, rfl⟩ := Prod.mk.inj hstep
    exact ⟨m, rfl, h⟩
  · rw [hjson] at hstep
    cases hrow : rows r.run_id with
    | some row =>
      simp only [hrow] at hstep
      obtain ⟨rfl, rfl⟩ := Prod.mk.inj hstep
      exact ⟨m, rfl, h⟩
    | none =>
      simp only [hrow] at hstep
      obtain ⟨rfl, rfl⟩ := Prod.mk.inj hstep
      exact ⟨_, ⟨h.none hrow, rfl⟩, h.update rfl⟩

theorem answers_load (h : Represents m rows) {run_id : String} {x : Raises StoredRunRecord}
    (hx : x = load rows run_id) : m.Answers (.load run_id) x m := by
  cases x with
  | error e => exact rfl
  | ok r =>
    unfold load at hx
    cases hrow : rows run_id with
    | none =>
      simp only [hrow] at hx
      cases hx
    | some row =>
      simp only [hrow] at hx
      obtain ⟨cur, hcur, rfl⟩ := h.row hrow
      exact ⟨⟨cur, hcur, Or.inr (read_of hx.symm)⟩, rfl⟩

theorem answers_save (h : Represents m rows) {r : StoredRunRecord} {n : Nat}
    {x : Raises StoredRunRecord} {rows' : Rows} (hstep : (x, rows') = save rows r n) :
    ∃ m', m.Answers (.save r n) x m' ∧ Represents m' rows' := by
  unfold save at hstep
  rcases StoredRunRecord.toJson_cases { r with version := n + 1 } with ⟨e, hjson⟩ | hjson
  · simp only [hjson] at hstep
    obtain ⟨rfl, rfl⟩ := Prod.mk.inj hstep
    exact ⟨m, rfl, h⟩
  · simp only [hjson] at hstep
    cases hrow : rows r.run_id with
    | none =>
      simp only [hrow] at hstep
      obtain ⟨rfl, rfl⟩ := Prod.mk.inj hstep
      exact ⟨m, rfl, h⟩
    | some row =>
      obtain ⟨cur, hcur, heq⟩ := h.row hrow
      simp only [hrow] at hstep
      by_cases hversion : row.version ≠ n
      · rw [if_pos hversion] at hstep
        obtain ⟨rfl, rfl⟩ := Prod.mk.inj hstep
        exact ⟨m, rfl, h⟩
      · rw [if_neg hversion] at hstep
        obtain ⟨rfl, rfl⟩ := Prod.mk.inj hstep
        rw [heq, RunRow.of_version, not_not] at hversion
        exact ⟨_, ⟨rfl, ⟨cur, hcur, hversion⟩, rfl⟩, h.update rfl⟩

theorem answers_claim (h : Represents m rows) {run_id : String} {n : Nat}
    {x : Raises (Option StoredRunRecord)} {rows' : Rows}
    (hstep : (x, rows') = claimToolDispatch rows run_id n) :
    ∃ m', m.Answers (.claim run_id n) x m' ∧ Represents m' rows' := by
  unfold claimToolDispatch at hstep
  cases hrow : rows run_id with
  | none =>
    simp only [hrow] at hstep
    obtain ⟨rfl, rfl⟩ := Prod.mk.inj hstep
    exact ⟨m, rfl, h⟩
  | some row =>
    obtain ⟨cur, hcur, heq⟩ := h.row hrow
    simp only [hrow] at hstep
    by_cases hstale : row.version ≠ n ∨ row.durable_state ≠ DurableRunState.toolPrepared.value
    · rw [if_pos hstale] at hstep
      obtain ⟨rfl, rfl⟩ := Prod.mk.inj hstep
      exact ⟨m, rfl, h⟩
    · rw [if_neg hstale] at hstep
      rw [heq, RunRow.of_version, RunRow.of_durable_state, not_or, not_not, not_not] at hstale
      obtain ⟨hversion, hstate⟩ := hstale
      have hprepared := DurableRunState.value_injective hstate
      rw [heq] at hstep
      cases hread : (RunRow.of cur cur.text).read with
      | error e =>
        simp only [hread] at hstep
        obtain ⟨rfl, rfl⟩ := Prod.mk.inj hstep
        exact ⟨m, rfl, h⟩
      | ok record =>
        have hrecord := read_of hread
        subst hrecord
        simp only [hread] at hstep
        rcases (cur.reloaded.inFlight (n + 1)).toJson_cases with ⟨e, hjson⟩ | hjson
        · simp only [hjson] at hstep
          obtain ⟨rfl, rfl⟩ := Prod.mk.inj hstep
          exact ⟨m, rfl, h⟩
        · simp only [hjson] at hstep
          obtain ⟨rfl, rfl⟩ := Prod.mk.inj hstep
          exact ⟨_, ⟨⟨cur, cur.reloaded, hcur, Or.inr rfl, hversion, hprepared, rfl⟩, rfl⟩,
            h.update (h.keyed run_id cur hcur)⟩

end SQLiteRunStore

/-- The SQLite store is lawful. -/
def lawfulSQLite : LawfulRunStore where
  toRunStore := sqliteRunStore
  Represents := SQLiteRunStore.Represents
  represents_empty := ⟨fun _ _ h => (nomatch h), fun _ => rfl⟩
  keyed := fun h => h.keyed
  answers := by
    intro m s o x s' hm h
    cases o with
    | create r => exact SQLiteRunStore.answers_create hm h
    | save r n => exact SQLiteRunStore.answers_save hm h
    | claim run_id n => exact SQLiteRunStore.answers_claim hm h
    | load run_id =>
      obtain ⟨hx, rfl⟩ := h
      exact ⟨m, SQLiteRunStore.answers_load hm hx, hm⟩
    | clock | wallClock | cancelled | newRunId | retrieve _ | complete _ _ _ _ | execute _ _ =>
      obtain rfl : s' = s := h
      exact ⟨m, rfl, hm⟩

end CBrain

import CBrain.Framework.Table

/-! # Append-only logs with retry keys

    A record has an identifier, a retry key and a digest.  A record whose key
    is taken is a retry: the record under that key answers it where the two
    digests agree, and it is refused where they do not.  Any other record goes
    to the end of the log, unless its identifier is taken.

    Section 1 is the log.  Sections 2 and 3 are two ways of keeping one: in a
    pair of dictionaries, and in the rows of a table with two unique columns.
    What an implementation does is then said of the log it keeps.
-/

/-- How the records of a kind are told apart. -/
structure Identified (R K : Type) where
  id : R → K
  key : R → K
  digest : R → K

section append_log

variable {R K : Type} [DecidableEq K]

/-! ## Section 1: The log -/

/-- What becomes of an appended record. -/
inductive Verdict (R : Type) where
  /-- It is new. -/
  | fresh
  /-- It repeats a record that is there. -/
  | retried (existing : R)
  /-- Its key belongs to a record with another digest. -/
  | mismatched
  /-- Its identifier is taken, its key is not. -/
  | taken

/-- Records without a common identifier or a common key, in the order of their
    appends. -/
structure AppendLog (w : Identified R K) where
  records : List R
  ids : (records.map w.id).Nodup
  keys : (records.map w.key).Nodup

namespace AppendLog

variable {w : Identified R K}

/-- The log without records. -/
def empty : AppendLog w := ⟨[], List.nodup_nil, List.nodup_nil⟩

/-- The record under a key. -/
def ofKey (l : AppendLog w) (k : K) : Option R := l.records.find? fun r => w.key r = k

/-- The record with an identifier. -/
def ofId (l : AppendLog w) (k : K) : Option R := l.records.find? fun r => w.id r = k

/-- What becomes of a record. -/
def verdict (l : AppendLog w) (r : R) : Verdict R :=
  match l.ofKey (w.key r) with
  | some existing => if w.digest existing = w.digest r then .retried existing else .mismatched
  | none => if (l.ofId (w.id r)).isSome then .taken else .fresh

theorem find?_isNone {f : R → K} {records : List R} {k : K} :
    (records.find? fun r => f r = k) = none ↔ k ∉ records.map f := by
  rw [List.find?_eq_none, List.mem_map]
  constructor
  · intro h hmem
    obtain ⟨r, hr, hk⟩ := hmem
    exact h r hr (decide_eq_true hk)
  · intro h r hr hk
    exact h ⟨r, hr, of_decide_eq_true hk⟩

omit [DecidableEq K] in
theorem nodup_snoc {f : R → K} {records : List R} {r : R} (h : (records.map f).Nodup)
    (hr : f r ∉ records.map f) : ((records ++ [r]).map f).Nodup := by
  rw [List.map_append]
  refine List.nodup_append.mpr ⟨h, List.nodup_singleton _, ?_⟩
  intro a ha b hb hab
  obtain rfl : b = f r := List.mem_singleton.mp hb
  exact hr (hab ▸ ha)

/-- The log after a record whose key and identifier are free. -/
def snoc (l : AppendLog w) (r : R) (hkey : l.ofKey (w.key r) = none)
    (hid : l.ofId (w.id r) = none) : AppendLog w where
  records := l.records ++ [r]
  ids := nodup_snoc l.ids (find?_isNone.mp hid)
  keys := nodup_snoc l.keys (find?_isNone.mp hkey)

/-- The log after an append. -/
def append (l : AppendLog w) (r : R) : AppendLog w :=
  if h : l.ofKey (w.key r) = none ∧ l.ofId (w.id r) = none then l.snoc r h.1 h.2 else l

/-- The log after many appends. -/
def appendAll (l : AppendLog w) (rs : List R) : AppendLog w := rs.foldl append l

theorem records_append_of_free {l : AppendLog w} {r : R} (hkey : l.ofKey (w.key r) = none)
    (hid : l.ofId (w.id r) = none) : (l.append r).records = l.records ++ [r] := by
  rw [append, dif_pos ⟨hkey, hid⟩]
  rfl

theorem append_of_key {l : AppendLog w} {r existing : R} (h : l.ofKey (w.key r) = some existing) :
    l.append r = l := by
  rw [append, dif_neg]
  rw [h]
  simp

theorem append_of_id {l : AppendLog w} {r existing : R} (h : l.ofId (w.id r) = some existing) :
    l.append r = l := by
  rw [append, dif_neg]
  rw [h]
  simp

/-- An append adds the record or nothing. -/
theorem records_append (l : AppendLog w) (r : R) :
    (l.append r).records = l.records ∨ (l.append r).records = l.records ++ [r] := by
  by_cases h : l.ofKey (w.key r) = none ∧ l.ofId (w.id r) = none
  · exact Or.inr (records_append_of_free h.1 h.2)
  · left
    rw [append, dif_neg h]

theorem ofKey_eq_some {l : AppendLog w} {k : K} {r : R} (h : l.ofKey k = some r) :
    r ∈ l.records ∧ w.key r = k := by
  have hkey := List.find?_some h
  exact ⟨List.mem_of_find?_eq_some h, of_decide_eq_true hkey⟩

/-- A record that the log holds is the one under its key. -/
theorem ofKey_of_mem {l : AppendLog w} {r : R} (h : r ∈ l.records) :
    l.ofKey (w.key r) = some r := by
  cases hfind : l.ofKey (w.key r) with
  | none => exact absurd (List.mem_map_of_mem h) (find?_isNone.mp hfind)
  | some x =>
    obtain ⟨hx, hkey⟩ := ofKey_eq_some hfind
    exact congrArg some (List.inj_on_of_nodup_map l.keys hx h hkey)

/-- Every record is an appended one. -/
theorem mem_append {l : AppendLog w} {r x : R} (h : x ∈ (l.append r).records) :
    x ∈ l.records ∨ x = r := by
  rcases records_append l r with heq | heq
  · rw [heq] at h
    exact Or.inl h
  · rw [heq, List.mem_append, List.mem_singleton] at h
    exact h

end AppendLog

/-! ## Section 2: Two dictionaries -/

/-- The records under their identifiers, and again under their keys. -/
structure TwoDicts (K R : Type) where
  by_id : Table K R
  by_key : Table K R

namespace TwoDicts

variable {w : Identified R K}

/-- Two empty dictionaries. -/
def empty : TwoDicts K R := ⟨Table.empty, Table.empty⟩

/-- Enter a record in both. -/
def put (w : Identified R K) (d : TwoDicts K R) (r : R) : TwoDicts K R where
  by_id := d.by_id.set (w.id r) r
  by_key := d.by_key.set (w.key r) r

/-- The dictionaries hold the records of the log, in its order. -/
structure Keeps (d : TwoDicts K R) (l : AppendLog w) : Prop where
  by_id : d.by_id.rows = l.records.map fun r => (w.id r, r)
  by_key : d.by_key.rows = l.records.map fun r => (w.key r, r)

omit [DecidableEq K] in
theorem keeps_empty : (empty : TwoDicts K R).Keeps (AppendLog.empty : AppendLog w) := ⟨rfl, rfl⟩

theorem lookup_records (f : R → K) (records : List R) (k : K) :
    (records.map fun r => (f r, r)).lookup k = records.find? fun r => f r = k := by
  induction records with
  | nil => rfl
  | cons r records ih =>
    rw [List.map_cons, Table.lookup_row, List.find?_cons]
    by_cases h : f r = k
    · rw [if_pos h.symm, decide_eq_true h]
    · rw [if_neg (Ne.symm h), decide_eq_false h]
      exact ih

variable {d : TwoDicts K R} {l : AppendLog w}

theorem Keeps.get_id (h : d.Keeps l) (k : K) : d.by_id.get? k = l.ofId k := by
  rw [Table.get?, h.by_id]
  exact lookup_records w.id l.records k

theorem Keeps.get_key (h : d.Keeps l) (k : K) : d.by_key.get? k = l.ofKey k := by
  rw [Table.get?, h.by_key]
  exact lookup_records w.key l.records k

omit [DecidableEq K] in
theorem Keeps.values (h : d.Keeps l) : d.by_id.values = l.records := by
  rw [Table.values, h.by_id, List.map_map]
  exact List.map_id l.records

theorem rows_set {t : Table K R} {f : R → K} {records : List R} {r : R}
    (h : t.rows = records.map fun r => (f r, r)) (hnone : t.get? (f r) = none) :
    (t.set (f r) r).rows = (records ++ [r]).map fun r => (f r, r) := by
  have hnot : f r ∉ t.rows.map Prod.fst := by
    intro hmem
    obtain ⟨⟨k, x⟩, hrow, hk⟩ := List.mem_map.mp hmem
    obtain rfl : k = f r := hk
    rw [Table.mem_rows.mp hrow] at hnone
    cases hnone
  show Table.setRow (f r) r t.rows = _
  rw [Table.setRow_of_not_mem r hnot, h, List.map_append]
  rfl

/-- **Step lemma**: entering a new record. -/
theorem Keeps.put (h : d.Keeps l) {r : R} (hkey : l.ofKey (w.key r) = none)
    (hid : l.ofId (w.id r) = none) : (d.put w r).Keeps (l.append r) := by
  constructor
  · rw [AppendLog.records_append_of_free hkey hid]
    exact rows_set h.by_id ((h.get_id _).trans hid)
  · rw [AppendLog.records_append_of_free hkey hid]
    exact rows_set h.by_key ((h.get_key _).trans hkey)

end TwoDicts

/-! ## Section 3: Rows with two unique columns -/

/-- The primary key of a row, and its other unique column. -/
structure UniqueColumns (Row K : Type) where
  id : Row → K
  key : Row → K

namespace UniqueColumns

variable {Row : Type} (u : UniqueColumns Row K)

/-- `INSERT`: nothing where one of the two values is there already. -/
def insert? (rows : List Row) (row : Row) : Option (List Row) :=
  if u.id row ∈ rows.map u.id ∨ u.key row ∈ rows.map u.key then none else some (rows ++ [row])

/-- The rows that records are written as have the records' identifiers and
    keys. -/
structure Mirrors (w : Identified R K) (row : R → Row) : Prop where
  id : ∀ r, u.id (row r) = w.id r
  key : ∀ r, u.key (row r) = w.key r

variable {u} {w : Identified R K} {row : R → Row}

/-- A selection by one column, on the rows of records. -/
theorem find?_rows {column : Row → K} {f : R → K} (h : ∀ r, column (row r) = f r)
    (records : List R) (k : K) :
    ((records.map row).find? fun x => column x = k) =
      (records.find? fun r => f r = k).map row := by
  rw [List.find?_map]
  congr 2
  funext r
  simp only [Function.comp_apply, h r]

omit [DecidableEq K] in
theorem Mirrors.ids (h : u.Mirrors w row) (records : List R) :
    (records.map row).map u.id = records.map w.id := by
  rw [List.map_map]
  exact List.map_congr_left fun r _ => h.id r

omit [DecidableEq K] in
theorem Mirrors.keys (h : u.Mirrors w row) (records : List R) :
    (records.map row).map u.key = records.map w.key := by
  rw [List.map_map]
  exact List.map_congr_left fun r _ => h.key r

/-- **Step lemma**: a new record is inserted. -/
theorem Mirrors.insert_free (h : u.Mirrors w row) {l : AppendLog w} {r : R}
    (hkey : l.ofKey (w.key r) = none) (hid : l.ofId (w.id r) = none) :
    u.insert? (l.records.map row) (row r) = some ((l.append r).records.map row) := by
  have hnot : ¬ (u.id (row r) ∈ (l.records.map row).map u.id ∨
      u.key (row r) ∈ (l.records.map row).map u.key) := by
    rw [h.ids, h.keys, h.id, h.key, not_or]
    exact ⟨AppendLog.find?_isNone.mp hid, AppendLog.find?_isNone.mp hkey⟩
  rw [insert?, if_neg hnot, AppendLog.records_append_of_free hkey hid, List.map_append]
  rfl

/-- A record with a taken key or identifier is not inserted. -/
theorem Mirrors.insert_taken (h : u.Mirrors w row) {l : AppendLog w} {r : R}
    (htaken : l.ofKey (w.key r) ≠ none ∨ l.ofId (w.id r) ≠ none) :
    u.insert? (l.records.map row) (row r) = none := by
  have hmem : u.id (row r) ∈ (l.records.map row).map u.id ∨
      u.key (row r) ∈ (l.records.map row).map u.key := by
    rw [h.ids, h.keys, h.id, h.key]
    rcases htaken with hkey | hid
    · exact Or.inr (not_not.mp fun hn => hkey (AppendLog.find?_isNone.mpr hn))
    · exact Or.inl (not_not.mp fun hn => hid (AppendLog.find?_isNone.mpr hn))
  rw [insert?, if_pos hmem]

/-- A row found by its identifier is found among the rows selected by a list
    of identifiers that has it. -/
theorem find?_selected {f : R → K} (records : List R) {ks : List K} {k : K} (h : k ∈ ks) :
    ((records.filter fun r => f r ∈ ks).find? fun r => f r = k) =
      records.find? fun r => f r = k := by
  rw [List.find?_filter]
  congr 1
  funext r
  by_cases hr : f r = k
  · simp [hr, h]
  · simp [hr]

end UniqueColumns

end append_log

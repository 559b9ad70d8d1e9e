import Mathlib.Data.List.Nodup

/-! # Tables with unique keys

    Rows under unique keys, in the order in which they were first inserted:
    a dictionary that remembers insertion order, or a database table with a
    primary key.  Setting a key that is present keeps its place.

    The lemmas say what each operation does to `get?`; the rest of a
    development reasons by them and never looks at the rows.
-/

/-- Rows under unique keys. -/
structure Table (K V : Type) where
  rows : List (K × V)
  unique : (rows.map Prod.fst).Nodup
  deriving DecidableEq

namespace Table

variable {K V A : Type} [DecidableEq K]

/-- The table without rows. -/
def empty : Table K V := ⟨[], List.nodup_nil⟩

/-- The row of a key. -/
def get? (t : Table K V) (k : K) : Option V := t.rows.lookup k

/-- The values, in order. -/
def values (t : Table K V) : List V := t.rows.map Prod.snd

theorem lookup_row (k j : K) (w : V) (rows : List (K × V)) :
    ((j, w) :: rows).lookup k = if k = j then some w else rows.lookup k := by
  rw [List.lookup_cons]
  by_cases h : k = j
  · simp [h]
  · have hbeq : (k == j) = false := beq_eq_false_iff_ne.mpr h
    rw [hbeq, if_neg h]

/-- Set a key in a list of rows: in its place, or at the end. -/
def setRow (k : K) (v : V) : List (K × V) → List (K × V)
  | [] => [(k, v)]
  | (k', v') :: rows => if k' = k then (k, v) :: rows else (k', v') :: setRow k v rows

theorem keys_setRow (k : K) (v : V) (rows : List (K × V)) :
    (setRow k v rows).map Prod.fst =
      if k ∈ rows.map Prod.fst then rows.map Prod.fst else rows.map Prod.fst ++ [k] := by
  induction rows with
  | nil => simp [setRow]
  | cons row rows ih =>
    obtain ⟨k', v'⟩ := row
    by_cases h : k' = k
    · simp [setRow, h]
    · have h' : ¬ k = k' := fun he => h he.symm
      by_cases hmem : k ∈ rows.map Prod.fst
      · rw [if_pos hmem] at ih
        simp only [setRow, h, if_false, List.map_cons, ih]
        rw [if_pos (List.mem_cons_of_mem k' hmem)]
      · rw [if_neg hmem] at ih
        have hnot : k ∉ k' :: rows.map Prod.fst := by
          intro hk
          rcases List.mem_cons.mp hk with he | he
          · exact h' he
          · exact hmem he
        simp only [setRow, h, if_false, List.map_cons, ih]
        rw [if_neg hnot]
        rfl

theorem nodup_setRow {rows : List (K × V)} (k : K) (v : V) (h : (rows.map Prod.fst).Nodup) :
    ((setRow k v rows).map Prod.fst).Nodup := by
  rw [keys_setRow]
  by_cases hmem : k ∈ rows.map Prod.fst
  · rw [if_pos hmem]
    exact h
  · rw [if_neg hmem]
    refine List.nodup_append.mpr ⟨h, List.nodup_singleton k, ?_⟩
    intro a ha b hb hab
    obtain rfl : b = k := List.mem_singleton.mp hb
    exact hmem (hab ▸ ha)

/-- A new key goes to the end. -/
theorem setRow_of_not_mem {k : K} (v : V) {rows : List (K × V)} (h : k ∉ rows.map Prod.fst) :
    setRow k v rows = rows ++ [(k, v)] := by
  induction rows with
  | nil => rfl
  | cons row rows ih =>
    obtain ⟨j, w⟩ := row
    simp only [List.map_cons, List.mem_cons, not_or] at h
    rw [setRow, if_neg (Ne.symm h.1), ih h.2, List.cons_append]

theorem lookup_setRow (k k' : K) (v : V) (rows : List (K × V)) :
    (setRow k v rows).lookup k' = if k' = k then some v else rows.lookup k' := by
  induction rows with
  | nil => exact lookup_row k' k v []
  | cons row rows ih =>
    obtain ⟨j, w⟩ := row
    by_cases hj : j = k
    · subst hj
      simp only [setRow, if_true, lookup_row]
      by_cases h : k' = j
      · simp [h]
      · simp [h]
    · simp only [setRow, hj, if_false, lookup_row, ih]
      by_cases h : k' = j
      · subst h
        simp [hj]
      · simp [h]

/-- A key that is set twice holds what is set last. -/
theorem setRow_setRow (k : K) (v w : V) (rows : List (K × V)) :
    setRow k w (setRow k v rows) = setRow k w rows := by
  induction rows with
  | nil => simp [setRow]
  | cons row rows ih =>
    by_cases h : row.1 = k
    · simp [setRow, h]
    · simp [setRow, h, ih]

/-- `d[k] = v`. -/
def set (t : Table K V) (k : K) (v : V) : Table K V :=
  ⟨setRow k v t.rows, nodup_setRow k v t.unique⟩

/-- `INSERT`: nothing where the key is taken. -/
def insert? (t : Table K V) (k : K) (v : V) : Option (Table K V) :=
  if (t.get? k).isSome then none else some (t.set k v)

/-- `d.pop(k, None)`. -/
def erase (t : Table K V) (k : K) : Table K V where
  rows := t.rows.filter fun row => row.1 ≠ k
  unique := t.unique.sublist (List.filter_sublist.map Prod.fst)

/-- Set one key for each element of a list, in order. -/
def setAll (t : Table K V) (key : A → K) (value : A → V) (xs : List A) : Table K V :=
  xs.foldl (fun t x => t.set (key x) (value x)) t

/-- Erase every key of a list. -/
def eraseAll (t : Table K V) (ks : List K) : Table K V := ks.foldl erase t

/-! ## What the operations do to `get?` -/

@[simp] theorem get?_empty (k : K) : (empty : Table K V).get? k = none := rfl

@[simp] theorem get?_set_self (t : Table K V) (k : K) (v : V) : (t.set k v).get? k = some v := by
  simp [get?, set, lookup_setRow]

@[simp] theorem get?_set_ne (t : Table K V) {k k' : K} (v : V) (h : k' ≠ k) :
    (t.set k v).get? k' = t.get? k' := by
  simp [get?, set, lookup_setRow, h]

@[simp] theorem set_set (t : Table K V) (k : K) (v w : V) :
    (t.set k v).set k w = t.set k w := by
  simp [set, setRow_setRow]

theorem get?_set (t : Table K V) (k k' : K) (v : V) :
    (t.set k v).get? k' = if k' = k then some v else t.get? k' := lookup_setRow k k' v t.rows

theorem insert?_eq_some {t t' : Table K V} {k : K} {v : V} :
    t.insert? k v = some t' ↔ t.get? k = none ∧ t' = t.set k v := by
  unfold insert?
  by_cases h : (t.get? k).isSome
  · rw [if_pos h]
    constructor
    · intro hnone
      cases hnone
    · rintro ⟨hnone, _⟩
      rw [hnone] at h
      cases h
  · rw [if_neg h]
    have hnone : t.get? k = none := by simpa using h
    constructor
    · intro hsome
      exact ⟨hnone, (Option.some.inj hsome).symm⟩
    · rintro ⟨_, heq⟩
      rw [heq]

/-- A key and its value make a row, and only these do. -/
theorem mem_rows {t : Table K V} {k : K} {v : V} : (k, v) ∈ t.rows ↔ t.get? k = some v := by
  obtain ⟨rows, unique⟩ := t
  show (k, v) ∈ rows ↔ rows.lookup k = some v
  induction rows with
  | nil => simp
  | cons row rows ih =>
    obtain ⟨j, w⟩ := row
    have hunique : j ∉ rows.map Prod.fst ∧ (rows.map Prod.fst).Nodup := List.nodup_cons.mp unique
    rw [lookup_row]
    by_cases h : k = j
    · subst h
      have hnot : (k, v) ∉ rows := fun hmem => hunique.1 (List.mem_map_of_mem hmem)
      simp [hnot, eq_comm]
    · have hne : (k, v) ≠ (j, w) := fun he => h (Prod.mk.inj he).1
      simp [h, ih hunique.2]

theorem mem_values {t : Table K V} {v : V} : v ∈ t.values ↔ ∃ k, t.get? k = some v := by
  unfold values
  rw [List.mem_map]
  constructor
  · rintro ⟨⟨k, w⟩, hmem, hw⟩
    obtain rfl : w = v := hw
    exact ⟨k, mem_rows.mp hmem⟩
  · rintro ⟨k, hk⟩
    exact ⟨(k, v), mem_rows.mpr hk, rfl⟩

/-- A new key's value goes to the end. -/
theorem values_set_of_none {t : Table K V} {k : K} (v : V) (h : t.get? k = none) :
    (t.set k v).values = t.values ++ [v] := by
  have hnot : k ∉ t.rows.map Prod.fst := by
    intro hmem
    obtain ⟨⟨j, w⟩, hrow, rfl⟩ := List.mem_map.mp hmem
    rw [mem_rows.mp hrow] at h
    cases h
  show (setRow k v t.rows).map Prod.snd = t.rows.map Prod.snd ++ [v]
  rw [setRow_of_not_mem v hnot, List.map_append]
  rfl

theorem get?_erase (t : Table K V) (k k' : K) :
    (t.erase k).get? k' = if k' = k then none else t.get? k' := by
  apply Option.ext
  intro v
  rw [← mem_rows]
  have hmem : (k', v) ∈ (t.erase k).rows ↔ (k', v) ∈ t.rows ∧ k' ≠ k := by
    simp [erase]
  rw [hmem, mem_rows]
  by_cases h : k' = k
  · simp [h]
  · simp [h]

theorem get?_eraseAll (t : Table K V) (ks : List K) (k : K) :
    (t.eraseAll ks).get? k = if k ∈ ks then none else t.get? k := by
  unfold eraseAll
  induction ks generalizing t with
  | nil => simp
  | cons k' ks ih =>
    rw [List.foldl_cons, ih, get?_erase]
    by_cases hk : k ∈ ks
    · simp [hk]
    · by_cases he : k = k'
      · simp [he]
      · simp [hk, he]

/-- Every value through a function. -/
def mapValues {W : Type} (t : Table K V) (f : V → W) : Table K W where
  rows := t.rows.map fun row => (row.1, f row.2)
  unique := by
    rw [List.map_map]
    exact t.unique

theorem lookup_map {W : Type} (f : V → W) (k : K) (rows : List (K × V)) :
    (rows.map fun row => (row.1, f row.2)).lookup k = (rows.lookup k).map f := by
  induction rows with
  | nil => rfl
  | cons row rows ih =>
    rw [List.map_cons, lookup_row, lookup_row]
    by_cases h : k = row.1
    · rw [if_pos h, if_pos h]
      rfl
    · rw [if_neg h, if_neg h]
      exact ih

@[simp] theorem get?_mapValues {W : Type} (t : Table K V) (f : V → W) (k : K) :
    (t.mapValues f).get? k = (t.get? k).map f :=
  lookup_map f k t.rows

@[simp] theorem setAll_nil (t : Table K V) (key : A → K) (value : A → V) :
    t.setAll key value [] = t := rfl

theorem setAll_cons (t : Table K V) (key : A → K) (value : A → V) (x : A) (xs : List A) :
    t.setAll key value (x :: xs) = (t.set (key x) (value x)).setAll key value xs := rfl

/-- A key that no element sets keeps its row. -/
theorem get?_setAll_of_not_mem {key : A → K} {value : A → V} {k : K} {xs : List A}
    (t : Table K V) (h : ∀ x ∈ xs, key x ≠ k) : (t.setAll key value xs).get? k = t.get? k := by
  induction xs generalizing t with
  | nil => rfl
  | cons x xs ih =>
    have hx : k ≠ key x := fun he => h x List.mem_cons_self he.symm
    rw [setAll_cons, ih _ (fun y hy => h y (List.mem_cons_of_mem x hy)), get?_set_ne _ _ hx]

/-- A key that some element sets holds the value of one that does. -/
theorem get?_setAll_of_mem {key : A → K} (value : A → V) {k : K} {xs : List A}
    (t : Table K V) (h : ∃ x ∈ xs, key x = k) :
    ∃ x ∈ xs, key x = k ∧ (t.setAll key value xs).get? k = some (value x) := by
  induction xs generalizing t with
  | nil =>
    obtain ⟨x, hx, _⟩ := h
    cases hx
  | cons x xs ih =>
    rw [setAll_cons]
    by_cases hrest : ∃ y ∈ xs, key y = k
    · obtain ⟨y, hy, hkey, hget⟩ := ih (t.set (key x) (value x)) hrest
      exact ⟨y, List.mem_cons_of_mem x hy, hkey, hget⟩
    · -- Nothing after `x` sets the key.
      have hnone : ∀ y ∈ xs, key y ≠ k := fun y hy he => hrest ⟨y, hy, he⟩
      obtain ⟨y, hy, hkey⟩ := h
      rcases List.mem_cons.mp hy with rfl | hmem
      · refine ⟨y, List.mem_cons_self, hkey, ?_⟩
        rw [get?_setAll_of_not_mem _ hnone, hkey, get?_set_self]
      · exact absurd hkey (hnone y hmem)

/-- Where a row of the result comes from. -/
theorem get?_setAll_cases {key : A → K} {value : A → V} {k : K} {v : V} {xs : List A}
    {t : Table K V} (h : (t.setAll key value xs).get? k = some v) :
    (∃ x ∈ xs, key x = k ∧ value x = v) ∨ ((∀ x ∈ xs, key x ≠ k) ∧ t.get? k = some v) := by
  by_cases hmem : ∃ x ∈ xs, key x = k
  · obtain ⟨x, hx, hkey, hget⟩ := get?_setAll_of_mem value t hmem
    rw [hget] at h
    exact Or.inl ⟨x, hx, hkey, Option.some.inj h⟩
  · have hnone : ∀ x ∈ xs, key x ≠ k := fun x hx he => hmem ⟨x, hx, he⟩
    rw [get?_setAll_of_not_mem t hnone] at h
    exact Or.inr ⟨hnone, h⟩

end Table

/-! ## Registries

    A table whose rows carry their own key. -/

/-- Values under the key that each of them carries. -/
structure Registry (K V : Type) (key : V → K) extends Table K V where
  keyed : ∀ row ∈ rows, key row.2 = row.1
  deriving DecidableEq

namespace Registry

variable {K V : Type} [DecidableEq K] {key : V → K}

/-- The registry without values. -/
def empty : Registry K V key := ⟨Table.empty, fun _ h => nomatch h⟩

theorem key_of_get? {r : Registry K V key} {k : K} {v : V} (h : r.get? k = some v) :
    key v = k :=
  r.keyed (k, v) (Table.mem_rows.mpr h)

/-- A value is in the registry exactly when it is found under its key. -/
theorem mem_values {r : Registry K V key} {v : V} :
    v ∈ r.values ↔ r.get? (key v) = some v := by
  rw [Table.mem_values]
  constructor
  · rintro ⟨k, hk⟩
    rw [key_of_get? hk]
    exact hk
  · intro h
    exact ⟨key v, h⟩

/-- No two values of a registry have the same key. -/
theorem eq_of_key {r : Registry K V key} {v w : V} (hv : v ∈ r.values) (hw : w ∈ r.values)
    (h : key v = key w) : v = w := by
  rw [mem_values] at hv hw
  rw [h, hw] at hv
  exact (Option.some.inj hv).symm

omit [DecidableEq K] in
theorem nodup_values (r : Registry K V key) : r.values.Nodup := by
  have hkeys : r.values.map key = r.rows.map Prod.fst := by
    unfold Table.values
    rw [List.map_map]
    exact List.map_congr_left r.keyed
  exact List.Nodup.of_map key (hkeys ▸ r.unique)

/-- A table that holds only values under their own keys. -/
def ofTable (t : Table K V) (h : ∀ k v, t.get? k = some v → key v = k) : Registry K V key :=
  ⟨t, fun row hrow => h row.1 row.2 (Table.mem_rows.mp hrow)⟩

/-- `d[v.key] = v`. -/
def put (r : Registry K V key) (v : V) : Registry K V key :=
  ofTable (r.set (key v) v) (by
    intro k w hget
    rw [Table.get?_set] at hget
    by_cases hk : k = key v
    · rw [if_pos hk] at hget
      rw [hk, Option.some.inj hget]
    · rw [if_neg hk] at hget
      exact key_of_get? hget)

theorem get?_put (r : Registry K V key) (v : V) (k : K) :
    (r.put v).get? k = if k = key v then some v else r.get? k :=
  Table.get?_set r.toTable (key v) k v

/-- Put every value of a list, in order. -/
def putAll (r : Registry K V key) (vs : List V) : Registry K V key :=
  ofTable (r.setAll key id vs) (by
    intro k w hget
    rcases Table.get?_setAll_cases hget with ⟨v, -, hkey, hv⟩ | ⟨-, hold⟩
    · exact hv ▸ hkey
    · exact key_of_get? hold)

@[simp] theorem putAll_nil (r : Registry K V key) : r.putAll [] = r := rfl

theorem putAll_append (r : Registry K V key) (vs ws : List V) :
    r.putAll (vs ++ ws) = (r.putAll vs).putAll ws := by
  have htable : r.setAll key id (vs ++ ws) = (r.setAll key id vs).setAll key id ws :=
    List.foldl_append
  unfold putAll ofTable
  simp only [htable]

/-- Remove the values of some keys. -/
def removeAll (r : Registry K V key) (ks : List K) : Registry K V key :=
  ofTable (r.eraseAll ks) (by
    intro k w hget
    rw [Table.get?_eraseAll] at hget
    by_cases hk : k ∈ ks
    · rw [if_pos hk] at hget
      cases hget
    · rw [if_neg hk] at hget
      exact key_of_get? hget)

@[simp] theorem get?_removeAll (r : Registry K V key) (ks : List K) (k : K) :
    (r.removeAll ks).get? k = if k ∈ ks then none else r.get? k :=
  Table.get?_eraseAll r.toTable ks k

theorem get?_putAll_of_not_mem {r : Registry K V key} {vs : List V} {k : K}
    (h : ∀ v ∈ vs, key v ≠ k) : (r.putAll vs).get? k = r.get? k :=
  Table.get?_setAll_of_not_mem r.toTable h

/-- Where a value of the result comes from. -/
theorem get?_putAll_cases {r : Registry K V key} {vs : List V} {k : K} {v : V}
    (h : (r.putAll vs).get? k = some v) :
    (v ∈ vs ∧ key v = k) ∨ ((∀ w ∈ vs, key w ≠ k) ∧ r.get? k = some v) := by
  rcases Table.get?_setAll_cases h with ⟨w, hw, hkey, rfl⟩ | hold
  · exact Or.inl ⟨hw, hkey⟩
  · exact Or.inr hold

/-- The key of a value that was put holds one that was put. -/
theorem get?_putAll_of_mem (r : Registry K V key) {vs : List V} {v : V} (h : v ∈ vs) :
    ∃ w ∈ vs, key w = key v ∧ (r.putAll vs).get? (key v) = some w :=
  Table.get?_setAll_of_mem id r.toTable ⟨v, h, rfl⟩

/-- What is kept of some of the values, in order. -/
def project {B : Type} (r : Registry K V key) (keep : V → Bool) (f : V → B) : Table K B where
  rows := (r.values.filter keep).map fun v => (key v, f v)
  unique := by
    have hkeys : ((r.values.filter keep).map fun v => (key v, f v)).map Prod.fst =
        (r.values.filter keep).map key := by
      rw [List.map_map]
      rfl
    rw [hkeys]
    refine List.Nodup.map_on ?_ ((nodup_values r).filter keep)
    intro v hv w hw h
    exact eq_of_key (List.mem_filter.mp hv).1 (List.mem_filter.mp hw).1 h

theorem get?_project {B : Type} (r : Registry K V key) (keep : V → Bool) (f : V → B) (k : K) :
    (r.project keep f).get? k = ((r.get? k).filter keep).map f := by
  apply Option.ext
  intro b
  rw [← Table.mem_rows, Option.map_eq_some_iff]
  show (k, b) ∈ (r.values.filter keep).map (fun v => (key v, f v)) ↔ _
  rw [List.mem_map]
  constructor
  · rintro ⟨v, hv, heq⟩
    obtain ⟨rfl, rfl⟩ := Prod.mk.inj heq
    obtain ⟨hmem, hkeep⟩ := List.mem_filter.mp hv
    exact ⟨v, Option.filter_eq_some_iff.mpr ⟨mem_values.mp hmem, hkeep⟩, rfl⟩
  · rintro ⟨v, hv, hb⟩
    obtain ⟨hget, hkeep⟩ := Option.filter_eq_some_iff.mp hv
    obtain rfl := key_of_get? hget
    exact ⟨v, List.mem_filter.mpr ⟨mem_values.mpr hget, hkeep⟩, by rw [hb]⟩

end Registry

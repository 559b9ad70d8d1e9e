import CBrain.Agent.LearningStores

/-! # The two learning stores keep one log

    Over any calls both stores hold the records of one append-only log, the one
    in its dictionaries and the other in its rows, and an append answers what
    the log says of the record.  What a list or a load returns is then compared
    through the log.

    Two calls are answered differently: a list with NaN for its lower bound,
    where a record lies within the other bounds, and a load of more records
    than a statement has room for. -/

namespace CBrain.Insights

open AppendLog

/-! ## Section 1: What is relied on -/

section records

variable {R Row : Type}

/-- The records that may be appended are sealed, and a sealed record is read
    back from its row. -/
structure RecordKind.Lawful (k : RecordKind R Row) (text : R → List Char) (Sealed : R → Prop) :
    Prop where
  validate : ∀ r p, k.validate r = .ok p ↔ p = r ∧ Sealed r
  toJson : ∀ r, k.toJson r = .ok (text r)
  mirrors : k.columns.Mirrors k.ids fun r => k.row r (text r)
  fromRow : ∀ r, Sealed r → k.fromRow (k.row r (text r)) = .ok r

theorem lawful_signals : signalRecords.Lawful LearningSignal.text LearningSignal.Sealed where
  validate _ _ := validateAppendedSignal_ok
  toJson := LearningSignal.toJson_eq
  mirrors := ⟨fun _ => rfl, fun _ => rfl⟩
  fromRow _ h := h.fromRow

theorem lawful_approvals (credentialShaped : String → Bool) :
    (approvalRecords credentialShaped).Lawful ApprovalRecord.text
      (ApprovalRecord.Sealed credentialShaped) where
  validate _ _ := validateAppendedApproval_ok
  toJson := ApprovalRecord.toJson_eq
  mirrors := ⟨fun _ => rfl, fun _ => rfl⟩
  fromRow _ h := h.fromRow

/-- The log after an append. -/
def RecordKind.log (k : RecordKind R Row) (l : AppendLog k.ids) (record : R) : AppendLog k.ids :=
  match k.validate record with
  | .ok record => l.append record
  | .error _ => l

/-- What the log makes of a record that may be appended. -/
def RecordKind.answer (k : RecordKind R Row) (record : R) : Verdict R → Raises R
  | .fresh => .ok record
  | .retried existing => .ok existing
  | .mismatched => .error retryMismatch
  | .taken => .error (learningStoreError k.already_exists)

variable {k : RecordKind R Row} {text : R → List Char} {Sealed : R → Prop} {l : AppendLog k.ids}
  {d : TwoDicts String R} {rows : List Row}

/-- The dictionaries and the rows hold the records of the log. -/
structure Holds (text : R → List Char) (Sealed : R → Prop) (d : TwoDicts String R)
    (rows : List Row) (l : AppendLog k.ids) : Prop where
  dicts : d.Keeps l
  rows : rows = l.records.map fun r => k.row r (text r)
  all_sealed : ∀ r ∈ l.records, Sealed r

/-! ## Section 2: Appends -/

/-- What becomes of a record, by its key and its identifier. -/
theorem verdict_cases (l : AppendLog k.ids) (r : R) :
    (∃ x, l.ofKey (k.ids.key r) = some x ∧
        ((k.ids.digest x = k.ids.digest r ∧ l.verdict r = .retried x) ∨
          (k.ids.digest x ≠ k.ids.digest r ∧ l.verdict r = .mismatched))) ∨
      (l.ofKey (k.ids.key r) = none ∧
        ((∃ x, l.ofId (k.ids.id r) = some x ∧ l.verdict r = .taken) ∨
          (l.ofId (k.ids.id r) = none ∧ l.verdict r = .fresh))) := by
  unfold verdict
  cases hkey : l.ofKey (k.ids.key r) with
  | some x =>
    left
    refine ⟨x, rfl, ?_⟩
    by_cases hdigest : k.ids.digest x = k.ids.digest r
    · exact Or.inl ⟨hdigest, if_pos hdigest⟩
    · exact Or.inr ⟨hdigest, if_neg hdigest⟩
  | none =>
    right
    refine ⟨rfl, ?_⟩
    cases hid : l.ofId (k.ids.id r) with
    | some x => exact Or.inl ⟨x, rfl, rfl⟩
    | none => exact Or.inr ⟨rfl, rfl⟩

/-- The dictionaries answer as the log does. -/
theorem InMemoryLearningStore.append_keeps (hd : d.Keeps l) {r : R}
    (hvalid : k.validate r = .ok r) :
    (append k d r).1 = k.answer r (l.verdict r) ∧ (append k d r).2.Keeps (l.append r) ∧
      ∀ e, (append k d r).1 = .error e → (append k d r).2 = d := by
  unfold append
  rw [hvalid]
  dsimp only
  rw [hd.get_key, hd.get_id]
  rcases verdict_cases l r with ⟨x, hkey, hdigest⟩ | ⟨hkey, hid⟩
  · rw [hkey, append_of_key hkey]
    rcases hdigest with ⟨hsame, hverdict⟩ | ⟨hother, hverdict⟩
    · rw [hverdict]
      dsimp only
      rw [if_neg (not_not.mpr hsame)]
      exact ⟨rfl, hd, fun e he => nomatch he⟩
    · rw [hverdict]
      dsimp only
      rw [if_pos hother]
      exact ⟨rfl, hd, fun _ _ => rfl⟩
  · rw [hkey]
    rcases hid with ⟨x, hid, hverdict⟩ | ⟨hid, hverdict⟩
    · rw [hverdict, hid, append_of_id hid]
      exact ⟨rfl, hd, fun _ _ => rfl⟩
    · rw [hverdict, hid]
      exact ⟨rfl, hd.put hkey hid, fun e he => nomatch he⟩

/-- The tables answer as the log does. -/
theorem SQLiteLearningStore.append_mirrors (hk : k.Lawful text Sealed)
    (hrows : rows = l.records.map fun r => k.row r (text r)) (hsealed : ∀ r ∈ l.records, Sealed r)
    {r : R} (hvalid : k.validate r = .ok r) :
    append k rows r = (k.answer r (l.verdict r),
      (l.append r).records.map fun r => k.row r (text r)) := by
  have hfind := UniqueColumns.find?_rows hk.mirrors.key l.records (k.ids.key r)
  have htaken := hk.mirrors.insert_taken (l := l) (r := r)
  unfold append insert
  rw [hvalid, ok_bind, hk.toJson, ok_bind]
  subst hrows
  rcases verdict_cases l r with ⟨x, hkey, hdigest⟩ | ⟨hkey, hid⟩
  · have hx : Sealed x := hsealed x (ofKey_eq_some hkey).1
    have hnone := htaken (Or.inl (by rw [hkey]; exact Option.some_ne_none x))
    rw [append_of_key hkey, hnone]
    dsimp only
    rw [hfind]
    have hrow : (l.records.find? fun s => k.ids.key s = k.ids.key r) = some x := hkey
    rw [hrow, Option.map_some]
    have hfound : found (learningStoreError k.already_exists) (some (k.row x (text x))) =
        .ok (k.row x (text x)) := rfl
    rw [hfound, ok_bind, hk.fromRow x hx, ok_bind]
    rcases hdigest with ⟨hsame, hverdict⟩ | ⟨hother, hverdict⟩
    · rw [hverdict, require_bind_pos hsame]
      rfl
    · rw [hverdict, require_bind_neg hother]
      rfl
  · rcases hid with ⟨x, hid, hverdict⟩ | ⟨hid, hverdict⟩
    · have hnone := htaken (Or.inr (by rw [hid]; exact Option.some_ne_none x))
      rw [append_of_id hid, hnone, hverdict]
      dsimp only
      rw [hfind]
      have hrow : (l.records.find? fun s => k.ids.key s = k.ids.key r) = none := hkey
      rw [hrow]
      rfl
    · rw [hk.mirrors.insert_free hkey hid, hverdict]
      rfl

/-- **An append is answered alike**, and one that fails changes nothing. -/
theorem append_agrees (hk : k.Lawful text Sealed) (h : Holds text Sealed d rows l) (r : R) :
    (InMemoryLearningStore.append k d r).1 = (SQLiteLearningStore.append k rows r).1 ∧
      Holds text Sealed (InMemoryLearningStore.append k d r).2
        (SQLiteLearningStore.append k rows r).2 (k.log l r) ∧
      ∀ e, (InMemoryLearningStore.append k d r).1 = .error e →
        (InMemoryLearningStore.append k d r).2 = d ∧
          (SQLiteLearningStore.append k rows r).2 = rows := by
  cases hvalid : k.validate r with
  | error e =>
    have hmemory : InMemoryLearningStore.append k d r = (.error e, d) := by
      unfold InMemoryLearningStore.append
      rw [hvalid]
    have htable : SQLiteLearningStore.append k rows r = (.error e, rows) := by
      unfold SQLiteLearningStore.append
      rw [hvalid]
      rfl
    have hlog : k.log l r = l := by
      unfold RecordKind.log
      rw [hvalid]
    rw [hmemory, htable, hlog]
    exact ⟨rfl, h, fun _ _ => ⟨rfl, rfl⟩⟩
  | ok p =>
    obtain ⟨rfl, hsealed⟩ := (hk.validate r p).mp hvalid
    have hlog : k.log l p = l.append p := by
      unfold RecordKind.log
      rw [hvalid]
    obtain ⟨hanswer, hkeeps, hatomic⟩ := InMemoryLearningStore.append_keeps h.dicts hvalid
    have htable := SQLiteLearningStore.append_mirrors hk h.rows h.all_sealed hvalid
    rw [htable, hlog, hanswer]
    refine ⟨rfl, ⟨hkeeps, rfl, ?_⟩, ?_⟩
    · intro s hs
      rcases mem_append hs with hold | rfl
      · exact h.all_sealed s hold
      · exact hsealed
    · intro e he
      refine ⟨hatomic e (hanswer.trans he), ?_⟩
      have hsame : l.append p = l := by
        rcases verdict_cases l p with ⟨x, hkey, -⟩ | ⟨-, ⟨x, hid, -⟩ | ⟨-, hfresh⟩⟩
        · exact append_of_key hkey
        · exact append_of_id hid
        · rw [hfresh] at he
          cases he
      rw [hsame]
      exact h.rows.symm

/-! ## Section 3: Loads -/

theorem uniqueIds_of_blank (field_name : String) {values : List String}
    (h : ¬ ∀ item ∈ values, nonBlank item = true) :
    ∃ e, uniqueIds field_name values = .error e := by
  suffices hfrom : ∀ seen unique : List String,
      values.foldlM (uniqueId field_name) seen = .ok unique → ∀ item ∈ values, nonBlank item = true by
    cases hunique : uniqueIds field_name values with
    | error e => exact ⟨e, rfl⟩
    | ok unique => exact absurd (hfrom [] unique hunique) h
  clear h
  induction values with
  | nil => simp
  | cons item values ih =>
    intro seen unique hunique x hx
    rw [List.foldlM_cons, bind_ok] at hunique
    obtain ⟨next, hnext, hrest⟩ := hunique
    rcases List.mem_cons.mp hx with rfl | hx
    · exact (require_bind_ok.mp hnext).1
    · exact ih next unique hrest x hx

/-- One new value. -/
theorem toFinset_seen (seen values : List String) (item : String) :
    (if item ∈ seen then seen else seen ++ [item]).toFinset ∪ values.toFinset =
      seen.toFinset ∪ (item :: values).toFinset := by
  ext x
  by_cases hmem : item ∈ seen
  · rw [if_pos hmem]
    simp only [Finset.mem_union, List.mem_toFinset, List.mem_cons]
    constructor
    · intro h
      exact h.imp_right Or.inr
    · intro h
      rcases h with h | rfl | h
      · exact Or.inl h
      · exact Or.inl hmem
      · exact Or.inr h
  · rw [if_neg hmem]
    simp only [Finset.mem_union, List.mem_toFinset, List.mem_cons, List.mem_append,
      List.not_mem_nil, or_false]
    rw [or_assoc]

/-- What the ids come to, each of them once. -/
theorem uniqueIds_of_nonBlank (field_name : String) {values : List String}
    (h : ∀ item ∈ values, nonBlank item = true) :
    ∃ unique, uniqueIds field_name values = .ok unique ∧
      unique.length = values.toFinset.card := by
  suffices hfrom : ∀ seen : List String, seen.Nodup →
      ∃ unique, values.foldlM (uniqueId field_name) seen = .ok unique ∧
        unique.Nodup ∧ unique.toFinset = seen.toFinset ∪ values.toFinset by
    obtain ⟨unique, hunique, hnodup, hmem⟩ := hfrom [] List.nodup_nil
    refine ⟨unique, hunique, ?_⟩
    rw [← List.toFinset_card_of_nodup hnodup, hmem, List.toFinset_nil, Finset.empty_union]
  induction values with
  | nil =>
    intro seen hseen
    exact ⟨seen, rfl, hseen, by simp⟩
  | cons item values ih =>
    intro seen hseen
    have hstep : uniqueId field_name seen item =
        .ok (if item ∈ seen then seen else seen ++ [item]) := by
      rw [uniqueId, require_bind_pos (h item List.mem_cons_self)]
      rfl
    have hnext : (if item ∈ seen then seen else seen ++ [item]).Nodup := by
      by_cases hmem : item ∈ seen
      · rw [if_pos hmem]
        exact hseen
      · rw [if_neg hmem]
        refine List.nodup_append.mpr ⟨hseen, List.nodup_singleton item, ?_⟩
        intro a ha b hb hab
        obtain rfl := List.mem_singleton.mp hb
        exact hmem (hab ▸ ha)
    obtain ⟨unique, hunique, hnodup, hsame⟩ :=
      ih (fun x hx => h x (List.mem_cons_of_mem item hx)) _ hnext
    refine ⟨unique, ?_, hnodup, hsame.trans (toFinset_seen seen values item)⟩
    rw [List.foldlM_cons, hstep, ok_bind]
    exact hunique

/-- Looking up one after the other. -/
theorem mapM_found {A B : Type} {e : Exn} {f : A → Option B} (xs : List A) :
    xs.mapM (fun x => found e (f x)) =
      if ∀ x ∈ xs, (f x).isSome = true then .ok (xs.filterMap f) else .error e := by
  induction xs with
  | nil => rfl
  | cons x xs ih =>
    rw [List.mapM_cons, ih]
    cases hx : f x with
    | none =>
      have hnot : ¬ ∀ y ∈ x :: xs, (f y).isSome = true := by
        intro h
        have hsome := h x List.mem_cons_self
        rw [hx] at hsome
        cases hsome
      rw [if_neg hnot]
      rfl
    | some b =>
      rw [found, ok_bind, List.filterMap_cons_some hx]
      by_cases hall : ∀ x ∈ xs, (f x).isSome = true
      · rw [if_pos hall, if_pos]
        · rfl
        · intro y hy
          rcases List.mem_cons.mp hy with rfl | hy
          · rw [hx]
            rfl
          · exact hall y hy
      · rw [if_neg hall, if_neg]
        · rfl
        · intro h
          exact hall fun y hy => h y (List.mem_cons_of_mem x hy)

/-- Reading rows that can all be read. -/
theorem mapM_eq_map {A B : Type} {f : A → Raises B} {g : A → B} {xs : List A}
    (h : ∀ x ∈ xs, f x = .ok (g x)) : xs.mapM f = .ok (xs.map g) := by
  rw [mapM_ok, List.forall₂_map_right_iff, List.forall₂_same]
  exact h

/-- The records of the log with the given identifiers. -/
def loaded (k : RecordKind R Row) (l : AppendLog k.ids) (unique : List String) : Raises (List R) :=
  if ∀ item ∈ unique, (l.ofId item).isSome = true then .ok (unique.filterMap l.ofId)
  else .error (learningStoreError k.missing)

theorem InMemoryLearningStore.load_keeps (hd : d.Keeps l) {values unique : List String}
    (hunique : uniqueIds k.field_name values = .ok unique) :
    load k d values = loaded k l unique := by
  have hget : (fun item => found (learningStoreError k.missing) (d.by_id.get? item)) =
      fun item => found (learningStoreError k.missing) (l.ofId item) := by
    funext item
    rw [hd.get_id]
  rw [load, hunique, ok_bind, hget, mapM_found]
  rfl

theorem SQLiteLearningStore.load_mirrors (hk : k.Lawful text Sealed)
    (hrows : rows = l.records.map fun r => k.row r (text r)) (hsealed : ∀ r ∈ l.records, Sealed r)
    {limit : VariableLimit} {values unique : List String}
    (hunique : uniqueIds k.field_name values = .ok unique)
    (hroom : unique.length ≤ limit.value) : load k limit rows values = loaded k l unique := by
  unfold load
  rw [hunique, ok_bind]
  by_cases hnil : unique = []
  · rw [if_pos hnil, hnil]
    rfl
  · rw [if_neg hnil, require_bind_pos hroom]
    have hselected : (rows.filter fun row => decide (k.columns.id row ∈ unique)) =
        (l.records.filter fun r => decide (k.ids.id r ∈ unique)).map fun r => k.row r (text r) := by
      rw [hrows, List.filter_map]
      congr 2
      funext r
      show decide (k.columns.id (k.row r (text r)) ∈ unique) = _
      rw [hk.mirrors.id]
    have hread : ((l.records.filter fun r => decide (k.ids.id r ∈ unique)).map fun r =>
          k.row r (text r)).mapM (fun row => do
            let record ← k.fromRow row
            return (k.columns.id row, record)) =
        .ok ((l.records.filter fun r => decide (k.ids.id r ∈ unique)).map fun r =>
          (k.ids.id r, r)) := by
      rw [List.mapM_map]
      apply mapM_eq_map
      intro r hr
      rw [Function.comp_apply, hk.fromRow r (hsealed r (List.mem_filter.mp hr).1), ok_bind,
        hk.mirrors.id]
      rfl
    have hlookup : ∀ item ∈ unique,
        ((l.records.filter fun r => decide (k.ids.id r ∈ unique)).map fun r =>
          (k.ids.id r, r)).lookup item = l.ofId item := by
      intro item hitem
      rw [TwoDicts.lookup_records]
      exact UniqueColumns.find?_selected l.records hitem
    have hfilter : unique.filterMap (fun item =>
        ((l.records.filter fun r => decide (k.ids.id r ∈ unique)).map fun r =>
          (k.ids.id r, r)).lookup item) = unique.filterMap l.ofId :=
      List.filterMap_congr hlookup
    have hmissing : (∀ item ∈ unique, item ∈
          ((l.records.filter fun r => decide (k.ids.id r ∈ unique)).map fun r =>
            (k.ids.id r, r)).map Prod.fst) ↔
        ∀ item ∈ unique, (l.ofId item).isSome = true := by
      apply forall_congr'
      intro item
      apply forall_congr'
      intro hitem
      rw [← hlookup item hitem, List.map_map, ← not_iff_not, Bool.not_eq_true, Option.isSome_eq_false_iff,
        Option.isNone_iff_eq_none, TwoDicts.lookup_records]
      exact find?_isNone.symm
    rw [hselected, hread, ok_bind]
    unfold loaded
    by_cases hall : ∀ item ∈ unique, (l.ofId item).isSome = true
    · rw [require_bind_pos (hmissing.mpr hall), if_pos hall, hfilter]
      rfl
    · rw [require_bind_neg (mt hmissing.mp hall), if_neg hall]

/-- Whether a load has room for its ids. -/
def HasRoom (limit : VariableLimit) (values : List String) : Prop :=
  (∀ item ∈ values, nonBlank item = true) → values.toFinset.card ≤ limit.value

/-- **A load is answered alike** just where there is room for its ids. -/
theorem load_agrees_iff (hk : k.Lawful text Sealed) (h : Holds text Sealed d rows l)
    {limit : VariableLimit} {values : List String} :
    InMemoryLearningStore.load k d values = SQLiteLearningStore.load k limit rows values ↔
      HasRoom limit values := by
  unfold HasRoom
  by_cases hblank : ∀ item ∈ values, nonBlank item = true
  · obtain ⟨unique, hunique, hcard⟩ := uniqueIds_of_nonBlank k.field_name hblank
    rw [← hcard]
    by_cases hroom : unique.length ≤ limit.value
    · rw [InMemoryLearningStore.load_keeps h.dicts hunique,
        SQLiteLearningStore.load_mirrors hk h.rows h.all_sealed hunique hroom]
      exact ⟨fun _ _ => hroom, fun _ => rfl⟩
    · have hnil : unique ≠ [] := by
        rintro rfl
        exact hroom (Nat.zero_le _)
      have hfails : SQLiteLearningStore.load k limit rows values = .error tooManyVariables := by
        unfold SQLiteLearningStore.load
        rw [hunique, ok_bind, if_neg hnil, require_bind_neg hroom]
      have hother : InMemoryLearningStore.load k d values ≠ .error tooManyVariables := by
        rw [InMemoryLearningStore.load_keeps h.dicts hunique]
        unfold loaded
        intro heq
        split at heq
        · cases heq
        · have hkind := congrArg Exn.kind (Except.error.inj heq)
          cases hkind
      rw [hfails]
      exact ⟨fun heq => absurd heq hother, fun hall => absurd (hall hblank) hroom⟩
  · obtain ⟨e, he⟩ := uniqueIds_of_blank k.field_name hblank
    unfold InMemoryLearningStore.load SQLiteLearningStore.load
    rw [he]
    exact ⟨fun _ hall => absurd hall hblank, fun _ => rfl⟩

end records

/-! ## Section 4: Lists -/

theorem floatLe_swap {d : Decimal} {since : JsonFloat} (h : since ≠ .nan) :
    floatLe since (.finite d) = !floatLt (.finite d) since := by
  cases since with
  | finite e =>
    simp only [floatLe, floatLt, sameFloat, Json.pyEq, Json.num?, Json.Num.eq]
    rw [Bool.eq_iff_iff]
    simp only [Bool.or_eq_true, decide_eq_true_eq, beq_iff_eq, Bool.not_eq_true', decide_eq_false_iff_not,
      Decimal.lt_def]
    rw [not_lt, le_iff_lt_or_eq]
  | infinity neg => cases neg <;> rfl
  | nan => exact absurd rfl h

theorem floatLe_nan (x : JsonFloat) : floatLe x .nan = false := by
  cases x <;> rfl

/-- The row of a signal is selected if the signal is in the bounds, NaN for the
    lower one apart. -/
theorem selected_row {s : LearningSignal} (hs : s.Sealed) (agent_id : Option String)
    (since until_ : Option JsonFloat) :
    SQLiteLearningStore.selected agent_id since until_ (SignalRow.of s s.text) =
      (decide (since ≠ some .nan) && signalInBounds agent_id since until_ s) := by
  obtain ⟨d, hd⟩ := hs.time
  have hupper : until_.all (SQLiteLearningStore.atMost (SignalRow.of s s.text)) =
      until_.all (fun until_ => floatLe s.observed_at until_) := by
    cases until_ with
    | none => rfl
    | some bound =>
      cases bound with
      | nan => exact (floatLe_nan _).symm
      | finite _ => rfl
      | infinity _ => rfl
  have hlower : since.all (SQLiteLearningStore.atLeast (SignalRow.of s s.text)) =
      (decide (since ≠ some .nan) && since.all (fun since => !floatLt s.observed_at since)) := by
    cases since with
    | none => rfl
    | some bound =>
      by_cases hnan : bound = .nan
      · subst hnan
        rfl
      · have hne : decide (some bound ≠ some JsonFloat.nan) = true :=
          decide_eq_true fun heq => hnan (Option.some.inj heq)
        have hbound : SQLiteLearningStore.atLeast (SignalRow.of s s.text) bound =
            floatLe bound s.observed_at := by
          cases bound with
          | nan => exact absurd rfl hnan
          | finite _ => rfl
          | infinity _ => rfl
        rw [hne, Bool.true_and]
        show SQLiteLearningStore.atLeast (SignalRow.of s s.text) bound = _
        rw [hbound, hd]
        exact floatLe_swap hnan
  unfold SQLiteLearningStore.selected signalInBounds
  rw [hupper, hlower]
  show ((agent_id.all fun agent_id => s.agent_id == agent_id) && _ && _) = _
  cases decide (since ≠ some JsonFloat.nan) <;> simp

section lists

variable {d : TwoDicts String LearningSignal} {rows : List SignalRow}
  {l : AppendLog signalRecords.ids}

theorem InMemoryLearningStore.listSignals_keeps (hd : d.Keeps l) (agent_id : Option String)
    (since until_ : Option JsonFloat) :
    listSignals d agent_id since until_ =
      (l.records.filter (signalInBounds agent_id since until_)).sortBy fun item =>
        toLex (timeOf item.observed_at, item.signal_id) := by
  rw [listSignals, hd.values]

theorem SQLiteLearningStore.listSignals_mirrors
    (hrows : rows = l.records.map fun s => SignalRow.of s s.text)
    (hsealed : ∀ s ∈ l.records, s.Sealed) (agent_id : Option String)
    (since until_ : Option JsonFloat) :
    listSignals rows agent_id since until_ =
      .ok ((l.records.filter fun s =>
          decide (since ≠ some .nan) && signalInBounds agent_id since until_ s).sortBy fun item =>
        toLex (timeOf item.observed_at, item.signal_id)) := by
  have hfilter : rows.filter (selected agent_id since until_) =
      (l.records.filter fun s =>
        decide (since ≠ some .nan) && signalInBounds agent_id since until_ s).map fun s =>
          SignalRow.of s s.text := by
    rw [hrows, List.filter_map]
    congr 1
    apply List.filter_congr
    intro s hs
    exact selected_row (hsealed s hs) agent_id since until_
  rw [listSignals, hfilter, List.sortBy_map, List.mapM_map]
  refine (mapM_eq_map (g := id) ?_).trans (by rw [List.map_id]; rfl)
  intro s hs
  exact (hsealed s (List.mem_filter.mp (List.mem_sortBy.mp hs)).1).fromRow

/-- **A list of signals is answered alike**, except with NaN for the lower
    bound where a signal lies within the other bounds. -/
theorem listSignals_agree_iff
    (h : Holds LearningSignal.text LearningSignal.Sealed d rows l) {agent_id : Option String}
    {since until_ : Option JsonFloat} :
    (.ok (InMemoryLearningStore.listSignals d agent_id since until_) : Raises _) =
        SQLiteLearningStore.listSignals rows agent_id since until_ ↔
      (since = some .nan → ∀ s ∈ l.records, signalInBounds agent_id none until_ s = false) := by
  rw [InMemoryLearningStore.listSignals_keeps h.dicts,
    SQLiteLearningStore.listSignals_mirrors h.rows h.all_sealed]
  by_cases hnan : since = some .nan
  · have hkeep : signalInBounds agent_id since until_ = signalInBounds agent_id none until_ := by
      subst hnan
      funext s
      unfold signalInBounds
      have hlower : (!floatLt s.observed_at .nan) = true := by
        cases s.observed_at <;> rfl
      show ((agent_id.all fun agent_id => s.agent_id == agent_id) && (!floatLt s.observed_at .nan) &&
        _) = _
      rw [hlower]
      rfl
    have hnone : decide (since ≠ some .nan) = false := decide_eq_false (not_not.mpr hnan)
    simp only [hnone, hkeep, Bool.false_and, List.filter_false, List.sortBy_nil, Except.ok.injEq]
    constructor
    · intro hempty _ s hs
      by_contra hin
      have hmem := List.mem_filter.mpr ⟨hs, Bool.not_eq_false _ ▸ hin⟩
      have hsorted : s ∈ ([] : List LearningSignal) := hempty ▸ List.mem_sortBy.mpr hmem
      exact nomatch hsorted
    · intro hall
      have hfilter : l.records.filter (signalInBounds agent_id none until_) = [] := by
        rw [List.filter_eq_nil_iff]
        intro s hs
        rw [hall hnan s hs]
        exact Bool.false_ne_true
      rw [hfilter, List.sortBy_nil]
  · have hother : decide (since ≠ some .nan) = true := decide_eq_true hnan
    simp only [hother, Bool.true_and, hnan, false_implies]

end lists

/-- **A list of approvals is answered alike**. -/
theorem listApprovals_agree {credentialShaped : String → Bool} {d : TwoDicts String ApprovalRecord}
    {rows : List ApprovalRow} {l : AppendLog (approvalRecords credentialShaped).ids}
    (h : Holds ApprovalRecord.text (ApprovalRecord.Sealed credentialShaped) d rows l)
    (agent_id : Option String) :
    (.ok (InMemoryLearningStore.listApprovals d agent_id) : Raises _) =
      SQLiteLearningStore.listApprovals credentialShaped rows agent_id := by
  have hinj : ∀ a ∈ l.records, ∀ b ∈ l.records, a.approval_id = b.approval_id → a = b :=
    fun a ha b hb => List.inj_on_of_nodup_map l.ids ha hb
  have hread : (rows.sortBy ApprovalRow.approval_id).mapM (approvalFromRow credentialShaped) =
      .ok (l.records.sortBy ApprovalRecord.approval_id) := by
    rw [h.rows, List.sortBy_map, List.mapM_map]
    refine (mapM_eq_map (g := id) ?_).trans (by rw [List.map_id]; rfl)
    intro r hr
    exact (h.all_sealed r (List.mem_sortBy.mp hr)).fromRow
  rw [InMemoryLearningStore.listApprovals, h.dicts.values, List.sortBy_filter _ hinj,
    SQLiteLearningStore.listApprovals, hread]
  rfl

/-! ## Section 5: Runs -/

/-- The two logs. -/
structure LearningLog (credentialShaped : String → Bool) where
  signals : AppendLog signalRecords.ids
  approvals : AppendLog (approvalRecords credentialShaped).ids

namespace LearningLog

variable {credentialShaped : String → Bool}

/-- The logs without records. -/
def empty : LearningLog credentialShaped := ⟨AppendLog.empty, AppendLog.empty⟩

/-- The logs after a call. -/
def step (log : LearningLog credentialShaped) : LearningOp → LearningLog credentialShaped
  | .appendSignal signal => { log with signals := signalRecords.log log.signals signal }
  | .appendApproval approval =>
    { log with approvals := (approvalRecords credentialShaped).log log.approvals approval }
  | _ => log

/-- The calls that both stores answer alike, in a given state of the logs. -/
def Regular (limit : VariableLimit) (log : LearningLog credentialShaped) : LearningOp → Prop
  | .listSignals agent_id since until_ =>
    since = some .nan → ∀ s ∈ log.signals.records, signalInBounds agent_id none until_ s = false
  | .loadSignals signal_ids => HasRoom limit signal_ids
  | .loadApprovals approval_ids => HasRoom limit approval_ids
  | _ => True

/-- Every call of the run is regular where it is made. -/
def RegularRun (limit : VariableLimit) (log : LearningLog credentialShaped) :
    List LearningOp → Prop
  | [] => True
  | op :: ops => log.Regular limit op ∧ (log.step op).RegularRun limit ops

/-- The two stores hold the records of the logs. -/
structure HeldBy (log : LearningLog credentialShaped) (memory : InMemoryLearningStore)
    (tables : SQLiteLearningStore) : Prop where
  signals : Holds LearningSignal.text LearningSignal.Sealed memory.signals
    tables.learning_signals log.signals
  approvals : Holds ApprovalRecord.text (ApprovalRecord.Sealed credentialShaped) memory.approvals
    tables.learning_approvals log.approvals

theorem heldBy_empty : (empty : LearningLog credentialShaped).HeldBy InMemoryLearningStore.empty
    SQLiteLearningStore.empty where
  signals := ⟨TwoDicts.keeps_empty, rfl, fun _ h => nomatch h⟩
  approvals := ⟨TwoDicts.keeps_empty, rfl, fun _ h => nomatch h⟩

end LearningLog

/-- The call is answered alike, and where it fails neither store changes. -/
structure SameCall (credentialShaped : String → Bool) (limit : VariableLimit)
    (memory : InMemoryLearningStore) (tables : SQLiteLearningStore) (op : LearningOp) : Prop where
  answer : (memory.step credentialShaped op).1 = (tables.step credentialShaped limit op).1
  memory_atomic : ∀ e, (memory.step credentialShaped op).1 = .error e →
    (memory.step credentialShaped op).2 = memory
  tables_atomic : ∀ e, (tables.step credentialShaped limit op).1 = .error e →
    (tables.step credentialShaped limit op).2 = tables

/-- Every call of the run is. -/
def SameRun (credentialShaped : String → Bool) (limit : VariableLimit)
    (memory : InMemoryLearningStore) (tables : SQLiteLearningStore) : List LearningOp → Prop
  | [] => True
  | op :: ops => SameCall credentialShaped limit memory tables op ∧
      SameRun credentialShaped limit (memory.step credentialShaped op).2
        (tables.step credentialShaped limit op).2 ops

theorem map_inj {A B : Type} {f : A → B} (hf : ∀ a b, f a = f b → a = b) {x y : Raises A} :
    x.map f = y.map f ↔ x = y := by
  constructor
  · intro h
    cases x with
    | error e =>
      cases y with
      | error e' => exact congrArg Except.error (Except.error.inj h)
      | ok b => cases h
    | ok a =>
      cases y with
      | error e' => cases h
      | ok b => exact congrArg Except.ok (hf a b (Except.ok.inj h))
  · rintro rfl
    rfl

theorem map_error {A B : Type} {f : A → B} {x : Raises A} {e : Exn} :
    x.map f = .error e ↔ x = .error e := by
  cases x <;> simp [Except.map]

section runs

variable {credentialShaped : String → Bool} {limit : VariableLimit}
  {memory : InMemoryLearningStore} {tables : SQLiteLearningStore}
  {log : LearningLog credentialShaped}

theorem InMemoryLearningStore.step_appendSignal (signal : LearningSignal) :
    memory.step credentialShaped (.appendSignal signal) =
      ((InMemoryLearningStore.append signalRecords memory.signals signal).1.map .signal,
        { memory with
          signals := (InMemoryLearningStore.append signalRecords memory.signals signal).2 }) := rfl

theorem SQLiteLearningStore.step_appendSignal (signal : LearningSignal) :
    tables.step credentialShaped limit (.appendSignal signal) =
      ((SQLiteLearningStore.append signalRecords tables.learning_signals signal).1.map .signal,
        { tables with
          learning_signals :=
            (SQLiteLearningStore.append signalRecords tables.learning_signals signal).2 }) := rfl

theorem InMemoryLearningStore.step_appendApproval (approval : ApprovalRecord) :
    memory.step credentialShaped (.appendApproval approval) =
      ((InMemoryLearningStore.append (approvalRecords credentialShaped) memory.approvals
          approval).1.map .approval,
        { memory with
          approvals := (InMemoryLearningStore.append (approvalRecords credentialShaped)
            memory.approvals approval).2 }) := rfl

theorem SQLiteLearningStore.step_appendApproval (approval : ApprovalRecord) :
    tables.step credentialShaped limit (.appendApproval approval) =
      ((SQLiteLearningStore.append (approvalRecords credentialShaped) tables.learning_approvals
          approval).1.map .approval,
        { tables with
          learning_approvals := (SQLiteLearningStore.append (approvalRecords credentialShaped)
            tables.learning_approvals approval).2 }) := rfl

theorem LearningLog.step_appendSignal (signal : LearningSignal) :
    log.step (.appendSignal signal) =
      { log with signals := signalRecords.log log.signals signal } := rfl

theorem LearningLog.step_appendApproval (approval : ApprovalRecord) :
    log.step (.appendApproval approval) =
      { log with approvals := (approvalRecords credentialShaped).log log.approvals approval } := rfl

/-- **Step lemma**: the stores go on holding the records of the logs. -/
theorem LearningLog.HeldBy.step (h : log.HeldBy memory tables) (op : LearningOp) :
    (log.step op).HeldBy (memory.step credentialShaped op).2
      (tables.step credentialShaped limit op).2 := by
  cases op with
  | appendSignal signal =>
    have hsignals := (append_agrees lawful_signals h.signals signal).2.1
    rw [InMemoryLearningStore.step_appendSignal, SQLiteLearningStore.step_appendSignal,
      LearningLog.step_appendSignal]
    generalize InMemoryLearningStore.append signalRecords memory.signals signal = kept at hsignals ⊢
    generalize SQLiteLearningStore.append signalRecords tables.learning_signals signal = rows
      at hsignals ⊢
    generalize signalRecords.log log.signals signal = signals at hsignals ⊢
    exact ⟨hsignals, h.approvals⟩
  | appendApproval approval =>
    have happrovals := (append_agrees (lawful_approvals credentialShaped) h.approvals approval).2.1
    rw [InMemoryLearningStore.step_appendApproval, SQLiteLearningStore.step_appendApproval,
      LearningLog.step_appendApproval]
    generalize InMemoryLearningStore.append (approvalRecords credentialShaped) memory.approvals
      approval = kept at happrovals ⊢
    generalize SQLiteLearningStore.append (approvalRecords credentialShaped)
      tables.learning_approvals approval = rows at happrovals ⊢
    generalize (approvalRecords credentialShaped).log log.approvals approval = approvals
      at happrovals ⊢
    exact ⟨h.signals, happrovals⟩
  | _ => exact h

/-- A call, by what it comes to in each of the stores. -/
theorem SameCall.of_steps {op : LearningOp} {kept read : Raises LearningAnswer}
    {memory' : InMemoryLearningStore} {tables' : SQLiteLearningStore}
    (hmemory : memory.step credentialShaped op = (kept, memory'))
    (htables : tables.step credentialShaped limit op = (read, tables')) (hanswer : kept = read)
    (hkeep : ∀ e, kept = .error e → memory' = memory ∧ tables' = tables) :
    SameCall credentialShaped limit memory tables op where
  answer := by rw [hmemory, htables, hanswer]
  memory_atomic e he := by
    rw [hmemory] at he ⊢
    exact (hkeep e he).1
  tables_atomic e he := by
    rw [htables] at he ⊢
    exact (hkeep e (hanswer.trans he)).2

/-- **Step lemma**: the regular calls are the ones that are answered alike. -/
theorem sameCall_iff (h : log.HeldBy memory tables) (op : LearningOp) :
    SameCall credentialShaped limit memory tables op ↔ log.Regular limit op := by
  cases op with
  | appendSignal signal =>
    refine ⟨fun _ => trivial, fun _ => ?_⟩
    obtain ⟨hanswer, -, hatomic⟩ := append_agrees lawful_signals h.signals signal
    refine SameCall.of_steps (InMemoryLearningStore.step_appendSignal signal)
      (SQLiteLearningStore.step_appendSignal signal) (congrArg _ hanswer) ?_
    intro e he
    obtain ⟨hmemory, htables⟩ := hatomic e (map_error.mp he)
    rw [hmemory, htables]
    exact ⟨rfl, rfl⟩
  | appendApproval approval =>
    refine ⟨fun _ => trivial, fun _ => ?_⟩
    obtain ⟨hanswer, -, hatomic⟩ :=
      append_agrees (lawful_approvals credentialShaped) h.approvals approval
    refine SameCall.of_steps (InMemoryLearningStore.step_appendApproval approval)
      (SQLiteLearningStore.step_appendApproval approval) (congrArg _ hanswer) ?_
    intro e he
    obtain ⟨hmemory, htables⟩ := hatomic e (map_error.mp he)
    rw [hmemory, htables]
    exact ⟨rfl, rfl⟩
  | listSignals agent_id since until_ =>
    have hmap := map_inj (f := LearningAnswer.signals) (fun _ _ => LearningAnswer.signals.inj)
      (x := .ok (InMemoryLearningStore.listSignals memory.signals agent_id since until_))
      (y := SQLiteLearningStore.listSignals tables.learning_signals agent_id since until_)
    have hiff := hmap.trans (listSignals_agree_iff h.signals)
    exact ⟨fun hsame => hiff.mp hsame.answer,
      fun hregular => ⟨hiff.mpr hregular, fun _ _ => rfl, fun _ _ => rfl⟩⟩
  | loadSignals signal_ids =>
    have hmap := map_inj (f := LearningAnswer.signals) (fun _ _ => LearningAnswer.signals.inj)
      (x := InMemoryLearningStore.load signalRecords memory.signals signal_ids)
      (y := SQLiteLearningStore.load signalRecords limit tables.learning_signals signal_ids)
    have hiff := hmap.trans (load_agrees_iff lawful_signals h.signals)
    exact ⟨fun hsame => hiff.mp hsame.answer,
      fun hregular => ⟨hiff.mpr hregular, fun _ _ => rfl, fun _ _ => rfl⟩⟩
  | listApprovals agent_id =>
    have hsame := congrArg (Except.map LearningAnswer.approvals)
      (listApprovals_agree h.approvals agent_id)
    exact ⟨fun _ => trivial, fun _ => ⟨hsame, fun _ _ => rfl, fun _ _ => rfl⟩⟩
  | loadApprovals approval_ids =>
    have hmap := map_inj (f := LearningAnswer.approvals) (fun _ _ => LearningAnswer.approvals.inj)
      (x := InMemoryLearningStore.load (approvalRecords credentialShaped) memory.approvals
        approval_ids)
      (y := SQLiteLearningStore.load (approvalRecords credentialShaped) limit
        tables.learning_approvals approval_ids)
    have hiff := hmap.trans (load_agrees_iff (lawful_approvals credentialShaped) h.approvals)
    exact ⟨fun hsame => hiff.mp hsame.answer,
      fun hregular => ⟨hiff.mpr hregular, fun _ _ => rfl, fun _ _ => rfl⟩⟩

/-- **Run lemma**: a run is answered alike just where all its calls are regular. -/
theorem sameRun_iff (h : log.HeldBy memory tables) (ops : List LearningOp) :
    SameRun credentialShaped limit memory tables ops ↔ log.RegularRun limit ops := by
  induction ops generalizing memory tables log with
  | nil => exact Iff.rfl
  | cons op ops ih =>
    unfold SameRun LearningLog.RegularRun
    rw [sameCall_iff h op, ih (h.step op)]

end runs

/-- **The two learning stores agree** in a run if and only if no call of it
    lists signals from NaN on while a signal lies within the other bounds, and
    none loads more records than a statement has room for. -/
theorem learning_stores_agree_iff (credentialShaped : String → Bool) (limit : VariableLimit)
    (ops : List LearningOp) :
    SameRun credentialShaped limit InMemoryLearningStore.empty SQLiteLearningStore.empty ops ↔
      (LearningLog.empty : LearningLog credentialShaped).RegularRun limit ops :=
  sameRun_iff LearningLog.heldBy_empty ops

/-- A preference of one reviewer. -/
def preferenceFields : SignalFields where
  kind := .humanPreference
  agent_id := "agent-1"
  idempotency_key := "key-1"
  observed_at := .finite (Decimal.ofInt 5 0)
  reviewer_id := some "reviewer-1"
  feedback_text := some "Prefer short answers."
  run_id := none
  run_status := none
  tool_name := none
  execution_status := none

theorem preferenceFields_checked : preferenceFields.Checked fun _ => false where
  agent_id := by decide
  idempotency_key := by decide
  time := ⟨Decimal.ofInt 5 0, rfl⟩
  reviewer_id t ht := by
    obtain rfl := Option.some.inj ht
    decide
  run_id t ht := nomatch ht
  tool_name t ht := nomatch ht
  feedback_text t ht := by
    obtain rfl := Option.some.inj ht
    decide
  shape := by decide

/-- Some signal may be appended. -/
theorem exists_sealed : ∃ s : LearningSignal, s.Sealed :=
  ⟨preferenceFields.hashed, preferenceFields_checked.sealed⟩

/-- A signal, and a list of the signals from NaN on: the dictionaries return
    it, the table does not. -/
theorem nan_bound_differs : ¬ ∀ (credentialShaped : String → Bool) (limit : VariableLimit)
    (ops : List LearningOp),
      SameRun credentialShaped limit InMemoryLearningStore.empty SQLiteLearningStore.empty ops := by
  intro h
  obtain ⟨s, hs⟩ := exists_sealed
  have hrun := h (fun _ => false) ⟨10, Nat.le_refl 10⟩
    [.appendSignal s, .listSignals none (some .nan) none]
  rw [sameRun_iff LearningLog.heldBy_empty] at hrun
  obtain ⟨-, hlist, -⟩ := hrun
  have hvalid : signalRecords.validate s = .ok s := validateAppendedSignal_ok.mpr ⟨rfl, hs⟩
  have hlog : (signalRecords.log AppendLog.empty s).records = [s] := by
    unfold RecordKind.log
    rw [hvalid]
    exact AppendLog.records_append_of_free rfl rfl
  have hmem : s ∈ (signalRecords.log AppendLog.empty s).records := by
    rw [hlog]
    exact List.mem_cons_self
  have hout : signalInBounds none none none s = false := hlist rfl s hmem
  cases hout

end CBrain.Insights

import CBrain.Agent.InsightsEngine
import CBrain.Agent.LearningHistory

/-! # The order of the appends does not show

    A store lists its signals by time and id, so that what the engine makes of
    a set of signals does not depend on the order in which they were appended.

    * `records_logEach` : the log after the appends holds the signals that may
      be appended, in their order.
    * `listed_of_perm`  : the lists of two orders are the same. -/

namespace CBrain.Insights

open AppendLog

/-! ## Section 1: Appends one after the other -/

/-- `append_signal` for each of the signals. -/
def InMemoryLearningStore.appendEach (d : TwoDicts String LearningSignal)
    (signals : List LearningSignal) : TwoDicts String LearningSignal :=
  signals.foldl (fun d signal => (append signalRecords d signal).2) d

/-- `append_signal` for each of the signals. -/
def SQLiteLearningStore.appendEach (rows : List SignalRow) (signals : List LearningSignal) :
    List SignalRow :=
  signals.foldl (fun rows signal => (append signalRecords rows signal).2) rows

/-- The log after the appends. -/
def logEach (l : AppendLog signalRecords.ids) (signals : List LearningSignal) :
    AppendLog signalRecords.ids :=
  signals.foldl signalRecords.log l

theorem InMemoryLearningStore.appendEach_cons (d : TwoDicts String LearningSignal)
    (signal : LearningSignal) (signals : List LearningSignal) :
    appendEach d (signal :: signals) = appendEach (append signalRecords d signal).2 signals :=
  List.foldl_cons ..

theorem SQLiteLearningStore.appendEach_cons (rows : List SignalRow) (signal : LearningSignal)
    (signals : List LearningSignal) :
    appendEach rows (signal :: signals) = appendEach (append signalRecords rows signal).2 signals :=
  List.foldl_cons ..

theorem logEach_cons (l : AppendLog signalRecords.ids) (signal : LearningSignal)
    (signals : List LearningSignal) :
    logEach l (signal :: signals) = logEach (signalRecords.log l signal) signals :=
  List.foldl_cons ..

variable {d : TwoDicts String LearningSignal} {rows : List SignalRow}
  {l : AppendLog signalRecords.ids} {signals signals' : List LearningSignal}

theorem holds_empty : Holds LearningSignal.text LearningSignal.Sealed
    InMemoryLearningStore.empty.signals SQLiteLearningStore.empty.learning_signals
    (AppendLog.empty : AppendLog signalRecords.ids) :=
  ⟨TwoDicts.keeps_empty, rfl, fun _ h => nomatch h⟩

/-- **Run lemma**: both stores hold the records of the log. -/
theorem holds_appendEach (h : Holds LearningSignal.text LearningSignal.Sealed d rows l) :
    Holds LearningSignal.text LearningSignal.Sealed
      (InMemoryLearningStore.appendEach d signals) (SQLiteLearningStore.appendEach rows signals)
      (logEach l signals) := by
  induction signals generalizing d rows l with
  | nil => exact h
  | cons signal signals ih =>
    rw [InMemoryLearningStore.appendEach_cons, SQLiteLearningStore.appendEach_cons, logEach_cons]
    exact ih (append_agrees lawful_signals h signal).2.1

/-- The signal may be appended. -/
def Appendable (signal : LearningSignal) : Bool := (signalRecords.validate signal).isOk

/-- The signals have different ids and different idempotency keys: a store
    files each of them under both. -/
structure DistinctKeys (signals : List LearningSignal) : Prop where
  ids : (signals.map LearningSignal.signal_id).Nodup
  keys : (signals.map LearningSignal.idempotency_key).Nodup

theorem DistinctKeys.perm (h : DistinctKeys signals) (hperm : signals.Perm signals') :
    DistinctKeys signals' where
  ids := (hperm.map _).nodup_iff.mp h.ids
  keys := (hperm.map _).nodup_iff.mp h.keys

theorem not_mem_of_nodup_append {f : LearningSignal → String} {before after : List LearningSignal}
    {signal : LearningSignal} (h : ((before ++ signal :: after).map f).Nodup) :
    f signal ∉ before.map f := by
  intro hmem
  rw [List.map_append, List.map_cons] at h
  exact (List.nodup_append.mp h).2.2 _ hmem _ List.mem_cons_self rfl

/-- **Step lemma**: a signal whose keys are free is added if it may be
    appended. -/
theorem records_log_of_free {signal : LearningSignal}
    (hid : signal.signal_id ∉ l.records.map LearningSignal.signal_id)
    (hkey : signal.idempotency_key ∉ l.records.map LearningSignal.idempotency_key) :
    (signalRecords.log l signal).records =
      l.records ++ if Appendable signal then [signal] else [] := by
  unfold RecordKind.log Appendable
  cases hvalid : signalRecords.validate signal with
  | error e =>
    show l.records = l.records ++ []
    rw [List.append_nil]
  | ok parsed =>
    obtain ⟨rfl, -⟩ := validateAppendedSignal_ok.mp hvalid
    exact records_append_of_free (find?_isNone.mpr hkey) (find?_isNone.mpr hid)

/-- **Run lemma**: the log ends with the signals that may be appended, in their
    order. -/
theorem records_logEach (h : DistinctKeys (l.records ++ signals)) :
    (logEach l signals).records = l.records ++ signals.filter Appendable := by
  induction signals generalizing l with
  | nil => rw [List.filter_nil, List.append_nil]; rfl
  | cons signal signals ih =>
    have hstep := records_log_of_free (not_mem_of_nodup_append h.ids) (not_mem_of_nodup_append h.keys)
    have hsub : ((signalRecords.log l signal).records ++ signals).Sublist
        (l.records ++ signal :: signals) := by
      rw [hstep, List.append_assoc]
      refine List.Sublist.append_left ?_ _
      by_cases happend : Appendable signal = true
      · rw [if_pos happend]
        exact List.Sublist.refl _
      · rw [if_neg happend]
        exact List.sublist_cons_self _ _
    have hrest : DistinctKeys ((signalRecords.log l signal).records ++ signals) :=
      ⟨h.ids.sublist (hsub.map _), h.keys.sublist (hsub.map _)⟩
    rw [logEach_cons, ih hrest, hstep, List.append_assoc, List.filter_cons]
    by_cases happend : Appendable signal = true
    · rw [if_pos happend, if_pos happend]
      rfl
    · rw [if_neg happend, if_neg happend]
      rfl

/-! ## Section 2: Lists -/

/-- `list_signals` of a dictionary store that the signals were appended to. -/
def listedInMemory (signals : List LearningSignal) : InsightsEngine.ListSignals :=
  fun agent_id since until_ => .ok (InMemoryLearningStore.listSignals
    (InMemoryLearningStore.appendEach InMemoryLearningStore.empty.signals signals)
    agent_id since until_)

/-- `list_signals` of a table store that the signals were appended to. -/
def listedInTables (signals : List LearningSignal) : InsightsEngine.ListSignals :=
  SQLiteLearningStore.listSignals
    (SQLiteLearningStore.appendEach SQLiteLearningStore.empty.learning_signals signals)

/-- Signals with different ids are listed in one order only. -/
theorem sorted_of_perm (hids : (signals.map LearningSignal.signal_id).Nodup)
    (hperm : signals.Perm signals') (keep : LearningSignal → Bool) :
    ((signals.filter keep).sortBy fun item => toLex (timeOf item.observed_at, item.signal_id)) =
      (signals'.filter keep).sortBy fun item => toLex (timeOf item.observed_at, item.signal_id) := by
  refine List.sortBy_congr (hperm.filter keep) ?_
  intro a ha b hb hab
  have hid : a.signal_id = b.signal_id := congrArg (fun key => (ofLex key).2) hab
  exact List.inj_on_of_nodup_map hids (List.mem_filter.mp ha).1 (List.mem_filter.mp hb).1 hid

/-- **The lists of two orders are the same**, in either store. -/
theorem listed_of_perm (hkeys : DistinctKeys signals) (hperm : signals.Perm signals') :
    listedInMemory signals = listedInMemory signals' ∧
      listedInTables signals = listedInTables signals' := by
  have hheld (xs : List LearningSignal) : Holds LearningSignal.text LearningSignal.Sealed
      (InMemoryLearningStore.appendEach InMemoryLearningStore.empty.signals xs)
      (SQLiteLearningStore.appendEach SQLiteLearningStore.empty.learning_signals xs)
      (logEach AppendLog.empty xs) := holds_appendEach holds_empty
  have hrecords : ∀ xs, DistinctKeys xs →
      (logEach AppendLog.empty xs).records = xs.filter Appendable :=
    fun xs hxs => records_logEach (l := AppendLog.empty) hxs
  have hlog : (logEach AppendLog.empty signals).records.Perm
      (logEach AppendLog.empty signals').records := by
    rw [hrecords _ hkeys, hrecords _ (hkeys.perm hperm)]
    exact hperm.filter _
  have hids := (logEach AppendLog.empty signals).ids
  constructor
  · funext agent_id since until_
    show Except.ok _ = Except.ok _
    rw [InMemoryLearningStore.listSignals_keeps (hheld signals).dicts,
      InMemoryLearningStore.listSignals_keeps (hheld signals').dicts]
    exact congrArg _ (sorted_of_perm hids hlog _)
  · funext agent_id since until_
    show SQLiteLearningStore.listSignals _ _ _ _ = SQLiteLearningStore.listSignals _ _ _ _
    rw [SQLiteLearningStore.listSignals_mirrors (hheld signals).rows (hheld signals).all_sealed,
      SQLiteLearningStore.listSignals_mirrors (hheld signals').rows (hheld signals').all_sealed]
    exact congrArg _ (sorted_of_perm hids hlog _)

/-- **The snapshot does not depend on the order of the appends**: signals with
    different keys, appended in two orders, give one snapshot in either store. -/
theorem snapshot_of_any_order (casefold : String → String)
    (windowStart : Decimal → Nat → Raises JsonFloat) (engine : InsightsEngine)
    (signals signals' : List LearningSignal) (hkeys : DistinctKeys signals)
    (hperm : signals.Perm signals') (agent_id : Option String) (now : Json) :
    engine.analyze casefold windowStart (listedInMemory signals) agent_id now =
        engine.analyze casefold windowStart (listedInMemory signals') agent_id now ∧
      engine.analyze casefold windowStart (listedInTables signals) agent_id now =
        engine.analyze casefold windowStart (listedInTables signals') agent_id now := by
  obtain ⟨hmemory, htables⟩ := listed_of_perm hkeys hperm
  rw [hmemory, htables]
  exact ⟨rfl, rfl⟩

/-- A preference without its hashes. -/
def unsealedPreference : LearningSignal :=
  { preferenceFields.draft with signal_id := "not sealed", idempotency_key := "key-2" }

theorem distinct_preferences : DistinctKeys [preferenceFields.hashed, unsealedPreference] where
  ids := by
    have hne : preferenceFields.hashed.signal_id ≠ unsealedPreference.signal_id := by
      intro heq
      -- a digest holds no space
      have hspace : ' ' ∈ unsealedPreference.signal_id.toList := by decide
      rw [← heq] at hspace
      exact absurd (mem_hexdigest hspace).1 (by decide)
    exact List.nodup_cons.mpr ⟨by simpa using hne, List.nodup_singleton _⟩
  keys := by decide +kernel

/-- A preference that is stored and one that is refused, in both orders. -/
theorem snapshot_of_two_orders :
    let engine : InsightsEngine := ⟨30, 2, by decide, by decide⟩
    let windowStart : Decimal → Nat → Raises JsonFloat := fun _ _ => .ok (.finite (Decimal.ofInt 0 0))
    let first := [preferenceFields.hashed, unsealedPreference]
    let second := [unsealedPreference, preferenceFields.hashed]
    engine.analyze id windowStart (listedInMemory first) none (.int 10) =
        engine.analyze id windowStart (listedInMemory second) none (.int 10) ∧
      engine.analyze id windowStart (listedInTables first) none (.int 10) =
        engine.analyze id windowStart (listedInTables second) none (.int 10) :=
  snapshot_of_any_order id _ _ _ _ distinct_preferences (List.Perm.swap _ _ _) none (.int 10)

end CBrain.Insights

import CBrain.Agent.InsightsHistory
import CBrain.Agent.Recorder
import CBrain.Framework.AppendRuns

/-! # What the recorder leaves in a store

    A recording appends the outcome of a run and its rejections.  A store is
    any that keeps the log of what was appended to it.

    * `recordRun_eq_true_iff` : a recording goes through exactly when the call
      is in order and the log takes its signals.
    * `recordRun_again`       : a recording that went through, repeated at any
      time, changes nothing. -/

namespace CBrain.Insights

open AppendLog
open Json (Dict)
open Knowledge (stripChars)
open Mutation (raising write exec)

/-! ## Section 1: Text -/

/-- `s.strip()`. -/
def strip (s : String) : String := String.ofList (stripChars s.toList)

/-- `s.rstrip()`. -/
def rstripChars (cs : List Char) : List Char := (cs.reverse.dropWhile isSpace).reverse

/-- Text that `require_text` takes. -/
structure Admissible (s : String) : Prop where
  text : nonBlank s = true
  plain : '\x00' ∉ s.toList

theorem requireText_ok_iff {field_name s t : String} :
    requireText field_name (.str s) = .ok t ↔ Admissible s ∧ t = strip s := by
  show (do
    require (nonBlank s = true) (insightsError s!"{field_name} must be a non-empty string")
    require (s.toList.contains '\x00' = false)
      (insightsError s!"{field_name} must not contain null bytes")
    return String.ofList (stripChars s.toList) : Raises String) = .ok t ↔ _
  rw [require_bind_ok, require_bind_ok, pure_ok]
  constructor
  · rintro ⟨htext, hplain, heq⟩
    exact ⟨⟨htext, by simpa using hplain⟩, heq.symm⟩
  · rintro ⟨hs, heq⟩
    exact ⟨hs.text, by simpa using hs.plain, heq.symm⟩

theorem optionalText_ok_iff {field_name : String} {o o' : Option String} :
    optionalText field_name (Value.optText o).1 = .ok o' ↔
      (∀ t, o = some t → Admissible t) ∧ o' = o.map strip := by
  cases o with
  | none =>
    show Except.ok none = Except.ok o' ↔ _
    rw [Except.ok.injEq]
    exact ⟨fun h => ⟨fun t ht => (nomatch ht), h.symm⟩, fun h => h.2.symm⟩
  | some t =>
    show Except.map some (requireText field_name (.str t)) = .ok o' ↔ _
    rw [map_ok]
    constructor
    · rintro ⟨u, hu, ho⟩
      obtain ⟨ht, rfl⟩ := requireText_ok_iff.mp hu
      exact ⟨fun s hs => Option.some.inj hs ▸ ht, ho.symm⟩
    · rintro ⟨ht, ho⟩
      exact ⟨strip t, requireText_ok_iff.mpr ⟨ht t rfl, rfl⟩, ho.symm⟩

/-- A text that starts and ends with a letter keeps both when white space
    behind it is taken off. -/
theorem stripChars_append {front cs : List Char} {c d : Char}
    (hfirst : front.head? = some c) (hc : isSpace c = false)
    (hlast : front.getLast? = some d) (hd : isSpace d = false) :
    stripChars (front ++ cs) = front ++ rstripChars cs := by
  have hhead : (front ++ cs).head? = some c := by
    rw [List.head?_append, hfirst]
    rfl
  have hleft : (front ++ cs).dropWhile isSpace = front ++ cs :=
    Knowledge.dropWhile_isSpace_eq fun x hx => by rw [hhead] at hx; exact Option.some.inj hx ▸ hc
  have hfront : front.reverse.dropWhile isSpace = front.reverse := by
    refine Knowledge.dropWhile_isSpace_eq fun x hx => ?_
    rw [List.head?_reverse, hlast] at hx
    exact Option.some.inj hx ▸ hd
  unfold stripChars rstripChars
  rw [hleft, List.reverse_append, List.dropWhile_append, hfront]
  by_cases hempty : (cs.reverse.dropWhile isSpace).isEmpty = true
  · rw [if_pos hempty, List.reverse_reverse, List.isEmpty_iff.mp hempty]
    simp
  · rw [if_neg hempty, List.reverse_append, List.reverse_reverse]

/-! ## Section 2: Signals -/

/-- The fields after `finalize_signal` has stripped them. -/
def SignalFields.stripped (fields : SignalFields) : SignalFields :=
  { fields with
    agent_id := strip fields.agent_id
    idempotency_key := strip fields.idempotency_key
    reviewer_id := fields.reviewer_id.map strip
    run_id := fields.run_id.map strip
    tool_name := fields.tool_name.map strip }

/-- Fields without feedback that `finalize_signal` takes. -/
structure SignalFields.Takable (fields : SignalFields) : Prop where
  agent_id : Admissible fields.agent_id
  idempotency_key : Admissible fields.idempotency_key
  time : ∃ d, fields.observed_at = .finite d
  reviewer_id : ∀ t, fields.reviewer_id = some t → Admissible t
  run_id : ∀ t, fields.run_id = some t → Admissible t
  tool_name : ∀ t, fields.tool_name = some t → Admissible t
  shape : fields.stripped.draft.validateShape = .ok ()

theorem finalizeSignal_ok_iff {credentialShaped : String → Bool} {fields : SignalFields}
    {signal : LearningSignal} (hfeedback : fields.feedback_text = none) :
    finalizeSignal credentialShaped fields = .ok signal ↔
      fields.Takable ∧ signal = fields.stripped.hashed := by
  have hchecked : fields.feedback_text.mapM (checkedFeedback credentialShaped) = .ok none := by
    rw [hfeedback]
    rfl
  unfold finalizeSignal
  rw [hchecked]
  constructor
  · intro h
    obtain ⟨agent_id, hagent, h⟩ := bind_ok.mp h
    obtain ⟨key, hkey, h⟩ := bind_ok.mp h
    obtain ⟨d, hd, h⟩ := bind_ok.mp h
    obtain ⟨reviewer_id, hreviewer, h⟩ := bind_ok.mp h
    obtain ⟨run_id, hrun, h⟩ := bind_ok.mp h
    obtain ⟨tool_name, htool, h⟩ := bind_ok.mp h
    rw [ok_bind] at h
    obtain ⟨hshape, h⟩ := unit_bind_ok.mp h
    obtain ⟨hagent_id, rfl⟩ := requireText_ok_iff.mp hagent
    obtain ⟨hkey_text, rfl⟩ := requireText_ok_iff.mp hkey
    obtain ⟨hreviewer_id, rfl⟩ := optionalText_ok_iff.mp hreviewer
    obtain ⟨hrun_id, rfl⟩ := optionalText_ok_iff.mp hrun
    obtain ⟨htool_name, rfl⟩ := optionalText_ok_iff.mp htool
    have htime : fields.observed_at = .finite d := by
      cases hat : fields.observed_at with
      | finite x =>
        rw [hat] at hd
        exact congrArg _ (Except.ok.inj hd)
      | nan => rw [hat] at hd; cases hd
      | infinity _ => rw [hat] at hd; cases hd
    have hsame : fields.stripped =
        { fields with
          agent_id := strip fields.agent_id, idempotency_key := strip fields.idempotency_key,
          observed_at := .finite d, reviewer_id := fields.reviewer_id.map strip,
          feedback_text := none, run_id := fields.run_id.map strip,
          tool_name := fields.tool_name.map strip } := by
      rw [← htime, ← hfeedback]
      rfl
    exact ⟨⟨hagent_id, hkey_text, ⟨d, htime⟩, hreviewer_id, hrun_id, htool_name, hsame ▸ hshape⟩,
      hsame ▸ (pure_ok.mp h).symm⟩
  · rintro ⟨htakable, heq⟩
    obtain ⟨d, hd⟩ := htakable.time
    have hsame : fields.stripped =
        { fields with
          agent_id := strip fields.agent_id, idempotency_key := strip fields.idempotency_key,
          observed_at := .finite d, reviewer_id := fields.reviewer_id.map strip,
          feedback_text := none, run_id := fields.run_id.map strip,
          tool_name := fields.tool_name.map strip } := by
      rw [← hd, ← hfeedback]
      rfl
    have hshape := htakable.shape
    rw [hsame] at hshape heq
    rw [requireText_ok_iff.mpr ⟨htakable.agent_id, rfl⟩, ok_bind,
      requireText_ok_iff.mpr ⟨htakable.idempotency_key, rfl⟩, ok_bind, hd, finiteTimestamp, ok_bind,
      optionalText_ok_iff.mpr ⟨htakable.reviewer_id, rfl⟩, ok_bind,
      optionalText_ok_iff.mpr ⟨htakable.run_id, rfl⟩, ok_bind,
      optionalText_ok_iff.mpr ⟨htakable.tool_name, rfl⟩, ok_bind, ok_bind, heq]
    exact unit_bind_ok.mpr ⟨hshape, rfl⟩

/-- The signal of a run's outcome. -/
def RunCall.outcome (call : RunCall) : LearningSignal :=
  SignalFields.hashed
    { kind := .structuralRunOutcome, agent_id := strip call.agent_id,
      idempotency_key := strip (outcomeKey call.agent_id call.result.run_id),
      observed_at := call.observed_at, reviewer_id := none, feedback_text := none,
      run_id := some (strip call.result.run_id), run_status := some call.result.status,
      tool_name := none, execution_status := none }

/-- The signal of a rejection. -/
def RunCall.rejection (call : RunCall) (rejection_index : Nat) (tool_name : String)
    (status : ExecutionStatus) : LearningSignal :=
  SignalFields.hashed
    { kind := .governedToolRejection, agent_id := strip call.agent_id,
      idempotency_key :=
        strip (rejectionKey call.agent_id call.result.run_id rejection_index tool_name status),
      observed_at := call.observed_at, reviewer_id := none, feedback_text := none,
      run_id := some (strip call.result.run_id), run_status := none,
      tool_name := some (strip tool_name), execution_status := some status }

/-- A call that names an agent and a run, at a time. -/
structure RunCall.Named (call : RunCall) : Prop where
  agent_id : Admissible call.agent_id
  run_id : Admissible call.result.run_id
  time : ∃ d, call.observed_at = .finite d

theorem admissible_outcomeKey {agent_id run_id : String} (ha : Admissible agent_id)
    (hr : Admissible run_id) : Admissible (outcomeKey agent_id run_id) where
  text := by
    have heq : outcomeKey agent_id run_id = "run-outcome:" ++ (agent_id ++ ":" ++ run_id) := by
      rw [← String.toList_inj]
      simp [outcomeKey, toString]
    rw [heq]
    exact nonBlank_append_left _ (by decide)
  plain := by
    have hagent := ha.plain
    have hrun := hr.plain
    simp [outcomeKey, toString, hagent, hrun]

theorem runOutcomeSignal_ok_iff {call : RunCall} {signal : LearningSignal} :
    runOutcomeSignal call.agent_id call.result.run_id call.result.status
        (outcomeKey call.agent_id call.result.run_id) call.observed_at = .ok signal ↔
      call.Named ∧ signal = call.outcome := by
  unfold runOutcomeSignal
  rw [finalizeSignal_ok_iff rfl]
  refine and_congr_left fun _ => ?_
  constructor
  · exact fun h => ⟨h.agent_id, h.run_id _ rfl, h.time⟩
  · intro h
    exact {
      agent_id := h.agent_id
      idempotency_key := admissible_outcomeKey h.agent_id h.run_id
      time := h.time
      reviewer_id := fun t ht => nomatch ht
      run_id := fun t ht => Option.some.inj ht ▸ h.run_id
      tool_name := fun t ht => nomatch ht
      shape := rfl }

/-- The status ends a key with a letter. -/
theorem status_last (status : ExecutionStatus) :
    ∃ c, status.value.toList.getLast? = some c ∧ isSpace c = false := by
  cases status with
  | executed | blocked | reviewRequired => exact ⟨'D', by decide +kernel, by decide⟩
  | controlFailure | indeterminate => exact ⟨'E', by decide +kernel, by decide⟩

/-- A rejection's key as a list of characters. -/
theorem rejectionKey_toList (agent_id run_id : String) (i : Nat) (tool_name : String)
    (status : ExecutionStatus) :
    (rejectionKey agent_id run_id i tool_name status).toList =
      "tool-rejection:".toList ++ ((agent_id ++ ":" ++ run_id ++ ":").toList ++
        (Nat.toDigits 10 i ++ ':' :: (tool_name.toList ++ ':' :: status.value.toList))) := by
  have htext (s : String) : toString s = s := rfl
  have hnumber (n : Nat) : (toString n).toList = Nat.toDigits 10 n := Nat.toList_repr
  have hcolon : ":".toList = [':'] := rfl
  unfold rejectionKey
  generalize "tool-rejection:" = front
  simp only [htext, String.toList_append, hnumber, hcolon, List.append_assoc, List.cons_append,
    List.nil_append]

theorem admissible_rejectionKey {agent_id run_id tool_name : String} (ha : Admissible agent_id)
    (hr : Admissible run_id) (ht : Admissible tool_name) (i : Nat) (status : ExecutionStatus) :
    Admissible (rejectionKey agent_id run_id i tool_name status) where
  text := by
    have heq : rejectionKey agent_id run_id i tool_name status = "tool-rejection:" ++
        (agent_id ++ ":" ++ run_id ++ ":" ++ toString i ++ ":" ++ tool_name ++ ":" ++
          status.value) := by
      rw [← String.toList_inj, rejectionKey_toList]
      simp
    rw [heq]
    exact nonBlank_append_left _ (by decide)
  plain := by
    have hagent := ha.plain
    have hrun := hr.plain
    have htool := ht.plain
    have hdigits : '\x00' ∉ Nat.toDigits 10 i := by
      intro hmem
      have hdigit := Nat.isDigit_of_mem_toDigits (b := 10) (by decide) (by decide) hmem
      exact absurd hdigit (by decide)
    have hstatus : '\x00' ∉ status.value.toList := by cases status <;> decide
    rw [rejectionKey_toList]
    simp only [List.mem_append, List.mem_cons, String.toList_append]
    simp [hagent, hrun, htool, hdigits, hstatus]

/-- A rejection's key has no white space to take off. -/
theorem strip_rejectionKey (agent_id run_id : String) (i : Nat) (tool_name : String)
    (status : ExecutionStatus) :
    strip (rejectionKey agent_id run_id i tool_name status) =
      rejectionKey agent_id run_id i tool_name status := by
  obtain ⟨c, hlast, hc⟩ := status_last status
  have hfirst : (rejectionKey agent_id run_id i tool_name status).toList.head? = some 't' := by
    rw [rejectionKey_toList]
    rfl
  have hend : (rejectionKey agent_id run_id i tool_name status).toList.getLast? = some c := by
    have hsplit : (rejectionKey agent_id run_id i tool_name status).toList =
        ("tool-rejection:".toList ++ ((agent_id ++ ":" ++ run_id ++ ":").toList ++
          (Nat.toDigits 10 i ++ ':' :: (tool_name.toList ++ [':'])))) ++ status.value.toList := by
      rw [rejectionKey_toList]
      simp
    rw [hsplit, List.getLast?_append, hlast]
    rfl
  have hchars : stripChars ((rejectionKey agent_id run_id i tool_name status).toList ++ []) = _ :=
    stripChars_append hfirst (by decide) hend hc
  rw [List.append_nil] at hchars
  rw [strip, hchars]
  simp [rstripChars]

theorem toolRejectionSignal_ok_iff {call : RunCall} (hnamed : call.Named) {i : Nat}
    {tool_name : String} {status : ExecutionStatus} {signal : LearningSignal} :
    toolRejectionSignal call.agent_id call.result.run_id tool_name status
        (rejectionKey call.agent_id call.result.run_id i tool_name status) call.observed_at =
          .ok signal ↔
      (Admissible tool_name ∧ status ≠ .executed) ∧ signal = call.rejection i tool_name status := by
  unfold toolRejectionSignal
  rw [finalizeSignal_ok_iff rfl]
  refine and_congr_left fun _ => ?_
  constructor
  · intro h
    refine ⟨h.tool_name _ rfl, ?_⟩
    rintro rfl
    cases h.shape
  · rintro ⟨htool, hstatus⟩
    exact {
      agent_id := hnamed.agent_id
      idempotency_key := admissible_rejectionKey hnamed.agent_id hnamed.run_id htool i status
      time := hnamed.time
      reviewer_id := fun t ht => nomatch ht
      run_id := fun t ht => Option.some.inj ht ▸ hnamed.run_id
      tool_name := fun t ht => Option.some.inj ht ▸ htool
      shape := by
        cases status with
        | executed => exact absurd rfl hstatus
        | _ => rfl }

/-! ## Section 3: The rejections of a run -/

/-- The rejections that the loop records: the tool, and the status as it is
    written. -/
def rejections (observed : Observed) : List RunEvent → List (String × Json)
  | [] => []
  | event :: events =>
    let request_id := event.detail.get "request_id"
    match event.kind with
    | .toolRequested =>
      rejections (observed.request request_id (event.detail.get "tool_name")) events
    | .toolRejected =>
      match observed.toolOf request_id, event.detail.get "execution_status" with
      | none, _ | some _, .null => rejections observed events
      | some tool_name, status_raw => (tool_name, status_raw) ::
          rejections { observed with rejection_index := observed.rejection_index + 1 } events
    | _ => rejections observed events

/-- What one event adds. -/
theorem rejections_cons (observed : Observed) (event : RunEvent) (events : List RunEvent) :
    rejections observed (event :: events) =
      match event.kind with
      | .toolRequested =>
        rejections (observed.request (event.detail.get "request_id") (event.detail.get "tool_name"))
          events
      | .toolRejected =>
        match observed.toolOf (event.detail.get "request_id"), event.detail.get "execution_status" with
        | none, _ | some _, .null => rejections observed events
        | some tool_name, status_raw => (tool_name, status_raw) ::
            rejections { observed with rejection_index := observed.rejection_index + 1 } events
      | _ => rejections observed events := rfl

section recorder

variable {S : Type} (append_signal : AppendSignal S) (call : RunCall)

theorem recordEvent_eq (observed : Observed) (event : RunEvent) :
    recordEvent append_signal call observed event =
      match event.kind with
      | .toolRequested => pure (observed.request (event.detail.get "request_id")
          (event.detail.get "tool_name"))
      | .toolRejected =>
        match observed.toolOf (event.detail.get "request_id"), event.detail.get "execution_status" with
        | none, _ | some _, .null => pure observed
        | some tool_name, status_raw => do
          recordRejection append_signal call observed.rejection_index tool_name status_raw
          return { observed with rejection_index := observed.rejection_index + 1 }
      | _ => pure observed := rfl

/-- The rejections of a list, recorded one after the other. -/
def recordRejections : Nat → List (String × Json) → Mutation Exn S Unit
  | _, [] => pure ()
  | i, (tool_name, status_raw) :: rest =>
    recordRejection append_signal call i tool_name status_raw >>= fun _ =>
      recordRejections (i + 1) rest

/-- The loop over the events records the rejections among them. -/
theorem foldlM_recordEvent (events : List RunEvent) (observed : Observed) :
    (events.foldlM (recordEvent append_signal call) observed >>= fun _ => pure ()) =
      recordRejections append_signal call observed.rejection_index (rejections observed events) := by
  induction events generalizing observed with
  | nil => rfl
  | cons event events ih =>
    rw [List.foldlM_cons, bind_assoc]
    simp only [ih]
    rw [rejections_cons, recordEvent_eq]
    cases event.kind with
    | toolRequested =>
      dsimp only
      rw [pure_bind]
      congr 1
      unfold Observed.request
      split <;> rfl
    | toolRejected =>
      dsimp only
      cases observed.toolOf (event.detail.get "request_id") with
      | none => exact pure_bind _ _
      | some tool_name =>
        cases event.detail.get "execution_status" with
        | null => exact pure_bind _ _
        | _ =>
          dsimp only
          rw [bind_assoc]
          rfl
    | _ => exact pure_bind _ _

/-- `_record_run` by its rejections. -/
theorem recordRunBody_eq : recordRunBody append_signal call = (do
    let signal ← raising (runOutcomeSignal call.agent_id call.result.run_id call.result.status
      (outcomeKey call.agent_id call.result.run_id) call.observed_at)
    let _ ← append_signal signal
    recordRejections append_signal call 0 (rejections ⟨Table.empty, 0⟩ call.result.events)) := by
  unfold recordRunBody
  congr 1
  funext signal
  congr 1
  funext _
  exact foldlM_recordEvent append_signal call call.result.events ⟨Table.empty, 0⟩

end recorder

/-! ## Section 4: Recordings -/

/-- A rejection in order: it names a tool, and its status is a rejection's. -/
structure RejectionInOrder (rejection : String × Json) : Prop where
  tool_name : Admissible rejection.1
  status : ∃ status, parseExecutionStatus rejection.2 = .ok status ∧ status ≠ .executed

/-- The rejections of the call. -/
def RunCall.rejected (call : RunCall) : List (String × Json) :=
  rejections ⟨Table.empty, 0⟩ call.result.events

/-- A call in order. -/
structure RunCall.InOrder (call : RunCall) : Prop extends call.Named where
  rejections : ∀ rejection ∈ call.rejected, RejectionInOrder rejection

/-- The signals of rejections from an index on. -/
def RunCall.rejectionSignals (call : RunCall) : Nat → List (String × Json) → List LearningSignal
  | _, [] => []
  | i, (tool_name, status_raw) :: rest =>
    match parseExecutionStatus status_raw with
    | .ok status => call.rejection i tool_name status :: call.rejectionSignals (i + 1) rest
    | .error _ => call.rejectionSignals (i + 1) rest

/-- The signals of the call: the outcome of the run, and its rejections. -/
def RunCall.signals (call : RunCall) : List LearningSignal :=
  call.outcome :: call.rejectionSignals 0 call.rejected

/-- A store that keeps the log takes what the log takes, and holds its records
    in one way only. -/
structure KeepsLog {S : Type} (append_signal : AppendSignal S)
    (Keeps : S → AppendLog signalRecords.ids → Prop) : Prop where
  takes : ∀ {store l} {signal : LearningSignal}, Keeps store l → signal.Sealed →
    ((∃ a, (exec (append_signal signal) store).1 = .ok a) ↔ l.Takes signal)
  step : ∀ {store l} {signal : LearningSignal}, Keeps store l → signal.Sealed →
    Keeps (exec (append_signal signal) store).2 (l.append signal)
  unique : ∀ {store store' l}, Keeps store l → Keeps store' l → store = store'

theorem answer_ok_iff {l : AppendLog signalRecords.ids} {signal : LearningSignal} :
    (∃ a, signalRecords.answer signal (l.verdict signal) = .ok a) ↔ l.Takes signal := by
  unfold AppendLog.Takes
  cases l.verdict signal with
  | fresh => exact ⟨fun _ => trivial, fun _ => ⟨_, rfl⟩⟩
  | retried x => exact ⟨fun _ => trivial, fun _ => ⟨_, rfl⟩⟩
  | mismatched => exact ⟨fun ⟨a, h⟩ => (nomatch h), fun h => h.elim⟩
  | taken => exact ⟨fun ⟨a, h⟩ => (nomatch h), fun h => h.elim⟩

theorem valid_of_sealed {signal : LearningSignal} (h : signal.Sealed) :
    signalRecords.validate signal = .ok signal := validateAppendedSignal_ok.mpr ⟨rfl, h⟩

/-- A program given by what it does to a state. -/
theorem exec_mk {S α : Type} (f : S → Raises α × S) (s : S) :
    exec (ExceptT.mk f : Mutation Exn S α) s = f s := rfl

theorem InMemoryLearningStore.exec_appendSignal (signal : LearningSignal)
    (d : TwoDicts String LearningSignal) :
    exec (appendSignal signal) d = append signalRecords d signal := by
  unfold appendSignal
  exact exec_mk (fun d => append signalRecords d signal) d

theorem SQLiteLearningStore.exec_appendSignal (signal : LearningSignal) (rows : List SignalRow) :
    exec (appendSignal signal) rows = append signalRecords rows signal := by
  unfold appendSignal
  exact exec_mk (fun rows => append signalRecords rows signal) rows

/-- The dictionaries hold the records of the log. -/
def InLog (d : TwoDicts String LearningSignal) (l : AppendLog signalRecords.ids) : Prop := d.Keeps l

theorem InLog.unique {d d' : TwoDicts String LearningSignal} {l : AppendLog signalRecords.ids}
    (h : InLog d l) (h' : InLog d' l) : d = d' := by
  have hrows {t t' : Table String LearningSignal} (heq : t.rows = t'.rows) : t = t' := by
    cases t
    cases t'
    cases heq
    rfl
  cases d
  cases d'
  exact congrArg₂ TwoDicts.mk (hrows (h.by_id.trans h'.by_id.symm))
    (hrows (h.by_key.trans h'.by_key.symm))

/-- The dictionaries keep the log. -/
theorem InMemoryLearningStore.keepsLog : KeepsLog appendSignal InLog where
  takes {d l signal} h hsealed := by
    obtain ⟨hanswer, -, -⟩ := append_keeps (k := signalRecords) h (valid_of_sealed hsealed)
    rw [exec_appendSignal, hanswer]
    exact answer_ok_iff
  step {d l signal} h hsealed := by
    obtain ⟨-, hkeeps, -⟩ := append_keeps (k := signalRecords) h (valid_of_sealed hsealed)
    rw [exec_appendSignal]
    exact hkeeps
  unique h h' := h.unique h'

/-- The rows of the records of a log. -/
structure MirrorsLog (rows : List SignalRow) (l : AppendLog signalRecords.ids) : Prop where
  rows : rows = l.records.map fun s => SignalRow.of s s.text
  all_sealed : ∀ s ∈ l.records, s.Sealed

/-- The tables keep the log. -/
theorem SQLiteLearningStore.keepsLog : KeepsLog appendSignal MirrorsLog where
  takes {rows l signal} h hsealed := by
    have happend := append_mirrors lawful_signals h.rows h.all_sealed (valid_of_sealed hsealed)
    rw [exec_appendSignal, happend]
    exact answer_ok_iff
  step {rows l signal} h hsealed := by
    have happend := append_mirrors lawful_signals h.rows h.all_sealed (valid_of_sealed hsealed)
    rw [exec_appendSignal, happend]
    refine ⟨rfl, fun s hs => ?_⟩
    rcases AppendLog.mem_append hs with hold | rfl
    · exact h.all_sealed s hold
    · exact hsealed
  unique h h' := h.rows.trans h'.rows.symm

/-- Where a program goes through. -/
theorem exec_bind_ok_iff {S α β : Type} {m : Mutation Exn S α} {f : α → Mutation Exn S β}
    {s s' : S} {b : β} :
    exec (m >>= f) s = (.ok b, s') ↔
      ∃ a, (exec m s).1 = .ok a ∧ exec (f a) (exec m s).2 = (.ok b, s') := by
  rw [Mutation.exec_bind]
  rcases exec m s with ⟨r, t⟩
  cases r with
  | error e => exact ⟨fun h => (nomatch h), fun ⟨a, h, _⟩ => (nomatch h)⟩
  | ok a =>
    constructor
    · exact fun h => ⟨a, rfl, h⟩
    · rintro ⟨a', ha, h⟩
      exact Except.ok.inj ha ▸ h

theorem sealed_of_finalize {credentialShaped : String → Bool} {fields : SignalFields}
    {signal : LearningSignal} (h : finalizeSignal credentialShaped fields = .ok signal) :
    signal.Sealed := by
  obtain ⟨checked, hchecked, rfl⟩ := finalizeSignal_ok h
  exact hchecked.sealed

section recorder

variable {S : Type} {append_signal : AppendSignal S}
  {Keeps : S → AppendLog signalRecords.ids → Prop} {store store' : S}
  {l : AppendLog signalRecords.ids} {call : RunCall}

/-- An append that goes through ends in the store that keeps the longer log. -/
theorem KeepsLog.append_iff (hk : KeepsLog append_signal Keeps) (h : Keeps store l)
    {signal : LearningSignal} (hsealed : signal.Sealed) {m : Mutation Exn S Unit} :
    exec (append_signal signal >>= fun _ => m) store = (.ok (), store') ↔
      l.Takes signal ∧ exec m (exec (append_signal signal) store).2 = (.ok (), store') := by
  rw [exec_bind_ok_iff, ← hk.takes h hsealed]
  constructor
  · exact fun ⟨a, ha, hrest⟩ => ⟨⟨a, ha⟩, hrest⟩
  · exact fun ⟨⟨a, ha⟩, hrest⟩ => ⟨a, ha, hrest⟩

/-- **Run lemma**: rejections go through exactly when each is in order and the
    log takes their signals. -/
theorem recordRejections_iff (hk : KeepsLog append_signal Keeps) (hnamed : call.Named)
    (h : Keeps store l) (i : Nat) (rest : List (String × Json)) :
    exec (recordRejections append_signal call i rest) store = (.ok (), store') ↔
      (∀ rejection ∈ rest, RejectionInOrder rejection) ∧
        l.TakesAll (call.rejectionSignals i rest) ∧
          Keeps store' (l.appendAll (call.rejectionSignals i rest)) := by
  induction rest generalizing i store l with
  | nil =>
    constructor
    · intro hexec
      obtain rfl := congrArg Prod.snd hexec
      exact ⟨fun _ hr => (nomatch hr), trivial, h⟩
    · rintro ⟨_, _, hkeeps⟩
      rw [hk.unique hkeeps h]
      rfl
  | cons rejection rest ih =>
    obtain ⟨tool_name, status_raw⟩ := rejection
    unfold recordRejections recordRejection RunCall.rejectionSignals
    rw [bind_assoc, exec_bind_ok_iff]
    cases hparse : parseExecutionStatus status_raw with
    | error e =>
      constructor
      · rintro ⟨_, hstatus, _⟩
        cases hstatus
      · rintro ⟨hall, _, _⟩
        obtain ⟨status, hstatus, -⟩ := (hall _ List.mem_cons_self).status
        rw [hparse] at hstatus
        cases hstatus
    | ok status =>
      have hsignal (signal : LearningSignal) :
          toolRejectionSignal call.agent_id call.result.run_id tool_name status
              (rejectionKey call.agent_id call.result.run_id i tool_name status) call.observed_at =
                .ok signal ↔
            (Admissible tool_name ∧ status ≠ .executed) ∧
              signal = call.rejection i tool_name status := toolRejectionSignal_ok_iff hnamed
      have hfirst : RejectionInOrder (tool_name, status_raw) ↔
          Admissible tool_name ∧ status ≠ .executed := by
        constructor
        · intro hr
          obtain ⟨other, hother, hne⟩ := hr.status
          rw [hparse] at hother
          exact ⟨hr.tool_name, Except.ok.inj hother ▸ hne⟩
        · exact fun ⟨htool, hne⟩ => ⟨htool, status, hparse, hne⟩
      have hstep (hinorder : Admissible tool_name ∧ status ≠ .executed) :
          exec (append_signal (call.rejection i tool_name status) >>= fun _ =>
              recordRejections append_signal call (i + 1) rest) store = (.ok (), store') ↔
            (∀ rejection ∈ rest, RejectionInOrder rejection) ∧
              l.TakesAll (call.rejection i tool_name status ::
                call.rejectionSignals (i + 1) rest) ∧
                Keeps store' (l.appendAll (call.rejection i tool_name status ::
                  call.rejectionSignals (i + 1) rest)) := by
        have hsealed := sealed_of_finalize ((hsignal _).mpr ⟨hinorder, rfl⟩)
        rw [hk.append_iff h hsealed, ih (hk.step h hsealed)]
        exact ⟨fun ⟨ht, hr, ha, hs⟩ => ⟨hr, ⟨ht, ha⟩, hs⟩, fun ⟨hr, ⟨ht, ha⟩, hs⟩ => ⟨ht, hr, ha, hs⟩⟩
      constructor
      · rintro ⟨status', hstatus', hexec⟩
        obtain rfl : status = status' := Except.ok.inj hstatus'
        rw [bind_assoc] at hexec
        obtain ⟨signal, hok, hexec⟩ := exec_bind_ok_iff.mp hexec
        obtain ⟨hinorder, rfl⟩ := (hsignal signal).mp hok
        rw [bind_assoc] at hexec
        obtain ⟨hrest, htakes, hkeeps⟩ := (hstep hinorder).mp hexec
        refine ⟨fun rejection hmem => ?_, htakes, hkeeps⟩
        rcases List.mem_cons.mp hmem with rfl | hmem
        · exact hfirst.mpr hinorder
        · exact hrest rejection hmem
      · rintro ⟨hall, htakes, hkeeps⟩
        have hinorder := hfirst.mp (hall _ List.mem_cons_self)
        refine ⟨status, rfl, ?_⟩
        rw [bind_assoc]
        refine exec_bind_ok_iff.mpr ⟨_, (hsignal _).mpr ⟨hinorder, rfl⟩, ?_⟩
        rw [bind_assoc]
        exact (hstep hinorder).mpr ⟨fun r hr => hall r (List.mem_cons_of_mem _ hr), htakes, hkeeps⟩

/-- A recording goes through in the store that keeps the longer log. -/
theorem recordRun_eq_true_iff (hk : KeepsLog append_signal Keeps) (h : Keeps store l) :
    recordRun append_signal call store = (true, store') ↔
      call.InOrder ∧ l.TakesAll call.signals ∧ Keeps store' (l.appendAll call.signals) := by
  have hbody : recordRun append_signal call store = (true, store') ↔
      exec (recordRunBody append_signal call) store = (.ok (), store') := by
    unfold recordRun
    rcases exec (recordRunBody append_signal call) store with ⟨r, t⟩
    cases r <;> simp
  rw [hbody, recordRunBody_eq, exec_bind_ok_iff]
  constructor
  · rintro ⟨signal, hok, hexec⟩
    obtain ⟨hnamed, rfl⟩ := runOutcomeSignal_ok_iff.mp hok
    have hsealed := sealed_of_finalize hok
    obtain ⟨htake, hexec⟩ := (hk.append_iff h hsealed).mp hexec
    obtain ⟨hall, htakes, hkeeps⟩ :=
      (recordRejections_iff hk hnamed (hk.step h hsealed) 0 _).mp hexec
    exact ⟨⟨hnamed, hall⟩, ⟨htake, htakes⟩, hkeeps⟩
  · rintro ⟨hinorder, ⟨htake, htakes⟩, hkeeps⟩
    have hok := runOutcomeSignal_ok_iff.mpr ⟨hinorder.toNamed, rfl⟩
    have hsealed := sealed_of_finalize hok
    refine ⟨_, hok, (hk.append_iff h hsealed).mpr ⟨htake, ?_⟩⟩
    exact (recordRejections_iff hk hinorder.toNamed (hk.step h hsealed) 0 _).mpr
      ⟨hinorder.rejections, htakes, hkeeps⟩

/-- The signals of a call in order are sealed. -/
theorem RunCall.InOrder.sealed (h : call.InOrder) : ∀ signal ∈ call.signals, signal.Sealed := by
  have hrejections : ∀ i rest, (∀ rejection ∈ rest, RejectionInOrder rejection) →
      ∀ signal ∈ call.rejectionSignals i rest, signal.Sealed := by
    intro i rest hall
    induction rest generalizing i with
    | nil => exact fun signal hsignal => nomatch hsignal
    | cons rejection rest ih =>
      obtain ⟨tool_name, status_raw⟩ := rejection
      have hrest := ih (i + 1) fun r hr => hall r (List.mem_cons_of_mem _ hr)
      have hfirst := hall _ List.mem_cons_self
      obtain ⟨status, hstatus, hne⟩ := hfirst.status
      unfold RunCall.rejectionSignals
      rw [hstatus]
      intro signal hsignal
      rcases List.mem_cons.mp hsignal with rfl | hsignal
      · exact sealed_of_finalize
          ((toolRejectionSignal_ok_iff h.toNamed).mpr ⟨⟨hfirst.tool_name, hne⟩, rfl⟩)
      · exact hrest signal hsignal
  intro signal hsignal
  rcases List.mem_cons.mp hsignal with rfl | hsignal
  · exact sealed_of_finalize (runOutcomeSignal_ok_iff.mpr ⟨h.toNamed, rfl⟩)
  · exact hrejections 0 _ h.rejections signal hsignal

/-- Some store keeps the log that the recording leads to. -/
theorem exists_recorded (hk : KeepsLog append_signal Keeps) (h : Keeps store l)
    (hinorder : call.InOrder) (htakes : l.TakesAll call.signals) :
    ∃ final, recordRun append_signal call store = (true, final) := by
  have hkeeps : ∀ signals : List LearningSignal, (∀ signal ∈ signals, signal.Sealed) →
      ∃ final, Keeps final (l.appendAll signals) := by
    intro signals
    clear htakes
    induction signals generalizing store l with
    | nil => exact fun _ => ⟨store, h⟩
    | cons signal signals ih =>
      intro hall
      exact ih (hk.step h (hall signal List.mem_cons_self))
        fun s hs => hall s (List.mem_cons_of_mem _ hs)
  obtain ⟨final, hfinal⟩ := hkeeps call.signals hinorder.sealed
  exact ⟨final, (recordRun_eq_true_iff hk h).mpr ⟨hinorder, htakes, hfinal⟩⟩

/-! ## Section 5: Recording again -/

/-- The call at another time. -/
def RunCall.at (call : RunCall) (observed_at : JsonFloat) : RunCall := { call with observed_at }

/-- A digest does not depend on the time. -/
theorem SignalFields.digest_at (fields : SignalFields) (observed_at : JsonFloat) :
    ({ fields with observed_at } : SignalFields).hashed.idempotency_digest =
      fields.hashed.idempotency_digest := by
  unfold SignalFields.hashed SignalFields.digested
  exact congrArg (fun ms => Knowledge.sha256HexOf (object ms)) rfl

/-- The signals of the call at another time say the same. -/
theorem mem_signals_at {observed_at : JsonFloat} {signal : LearningSignal}
    (h : signal ∈ (call.at observed_at).signals) :
    ∃ s ∈ call.signals, s.idempotency_key = signal.idempotency_key ∧
      s.idempotency_digest = signal.idempotency_digest := by
  have hrejections : ∀ i rest, signal ∈ (call.at observed_at).rejectionSignals i rest →
      ∃ s ∈ call.rejectionSignals i rest, s.idempotency_key = signal.idempotency_key ∧
        s.idempotency_digest = signal.idempotency_digest := by
    intro i rest
    induction rest generalizing i with
    | nil => exact fun hmem => nomatch hmem
    | cons rejection rest ih =>
      obtain ⟨tool_name, status_raw⟩ := rejection
      unfold RunCall.rejectionSignals
      cases parseExecutionStatus status_raw with
      | error e => exact ih (i + 1)
      | ok status =>
        intro hmem
        rcases List.mem_cons.mp hmem with rfl | hmem
        · exact ⟨_, List.mem_cons_self, rfl, (SignalFields.digest_at _ _).symm⟩
        · obtain ⟨s, hs, hsame⟩ := ih (i + 1) hmem
          exact ⟨s, List.mem_cons_of_mem _ hs, hsame⟩
  rcases List.mem_cons.mp h with rfl | h
  · exact ⟨_, List.mem_cons_self, rfl, (SignalFields.digest_at _ _).symm⟩
  · obtain ⟨s, hs, hsame⟩ := hrejections 0 _ h
    exact ⟨s, List.mem_cons_of_mem _ hs, hsame⟩

/-- A call that names nobody, or comes at no time, appends nothing. -/
theorem recordRun_unnamed (hunnamed : ¬ call.Named) :
    recordRun append_signal call store = (false, store) := by
  have herror : ∃ e, runOutcomeSignal call.agent_id call.result.run_id call.result.status
      (outcomeKey call.agent_id call.result.run_id) call.observed_at = .error e := by
    cases hsignal : runOutcomeSignal call.agent_id call.result.run_id call.result.status
        (outcomeKey call.agent_id call.result.run_id) call.observed_at with
    | error e => exact ⟨e, rfl⟩
    | ok signal => exact absurd (runOutcomeSignal_ok_iff.mp hsignal).1 hunnamed
  obtain ⟨e, he⟩ := herror
  unfold recordRun recordRunBody
  rw [he, Mutation.exec_bind_error (Mutation.exec_raising (.error e) store)]

/-- **A recording that went through, repeated, changes nothing**, whatever the
    clock says. -/
theorem recordRun_again (hk : KeepsLog append_signal Keeps) (h : Keeps store l)
    (hinorder : call.InOrder) (hfile : l.OnFile call.signals) (observed_at : JsonFloat) :
    (recordRun append_signal (call.at observed_at) store).2 = store := by
  by_cases htime : ∃ d, observed_at = .finite d
  · have hat : (call.at observed_at).InOrder :=
      ⟨⟨hinorder.agent_id, hinorder.run_id, htime⟩, hinorder.rejections⟩
    have hagain : l.OnFile (call.at observed_at).signals := by
      intro signal hsignal
      obtain ⟨s, hs, hkey, hdigest⟩ := mem_signals_at hsignal
      obtain ⟨x, hx, hsame⟩ := hfile s hs
      refine ⟨x, ?_, hsame.trans hdigest⟩
      show l.ofKey signal.idempotency_key = some x
      rw [← hkey]
      exact hx
    obtain ⟨htakes, hall⟩ := AppendLog.again_of_onFile hagain
    rw [(recordRun_eq_true_iff hk h).mpr ⟨hat, htakes, hall.symm ▸ h⟩]
  · rw [recordRun_unnamed fun hnamed => htime hnamed.time]

end recorder

end CBrain.Insights

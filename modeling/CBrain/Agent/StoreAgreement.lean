import CBrain.Agent.Traces

/-! # The two run stores agree

    The in-memory store keeps records, the SQLite store keeps their text.  As
    long as every record that is saved is one its text restores, the two give
    the same answers, conflicts and missing runs included.

    A durable call saves such records unless something it was given is not a
    JSON value: the metadata of its run, or the output of a handler. -/

namespace CBrain

open Effect
open Json (Dict)

/-! ## Section 1: Restorable records -/

theorem hexdigest_text (b : ByteArray) : nonBlank (Sha256.hexdigest b) = true := by
  have hdigit : ∀ k < 16, isSpace (Nat.digitChar k) = false := by decide
  have hhex (w : Sha256.Word) : (Sha256.hex8 w).any (fun c => !isSpace c) = true := by
    have hfirst := hdigit (w.toNat / 16 ^ (7 - 0) % 16) (Nat.mod_lt _ (by decide))
    have hsplit : Sha256.hex8 w = (w.toNat / 16 ^ (7 - 0) % 16).digitChar ::
        ((List.range' 1 7).map fun i => (w.toNat / 16 ^ (7 - i) % 16).digitChar) := rfl
    rw [hsplit, List.any_cons, hfirst]
    rfl
  unfold nonBlank Sha256.hexdigest
  simp only [String.toList_ofList, List.any_append, hhex, Bool.true_or]

/-- The fields a pending tool needs. -/
def StoredRunRecord.HasPending (r : StoredRunRecord) : Prop :=
  r.pending_request_id.isSome = true ∧ r.pending_idempotency_key.isSome = true ∧
    r.pending_action.isSome = true ∧ r.pending_tool_call_id.isSome = true ∧
    r.pending_tool_name.isSome = true

/-- What the check of a record's state asks for. -/
theorem validateStateFields_iff {r : StoredRunRecord} :
    validateStateFields r = .ok () ↔
      (r.durable_state.isTerminal = true → r.terminal_status.isSome = true) ∧
        (r.durable_state.isTerminal = false → r.terminal_status = none ∧
          (r.durable_state.isPendingTool = true → r.HasPending) ∧
          (r.durable_state = .toolCompleted → r.pending_execution_status.isSome = true)) := by
  unfold validateStateFields
  by_cases hterminal : r.durable_state.isTerminal = true
  · rw [if_pos hterminal, require_ok]
    simp [hterminal]
  · rw [if_neg hterminal, require_bind_ok]
    by_cases hpending : r.durable_state.isPendingTool = true
    · rw [if_pos hpending]
      simp only [require_bind_ok, require_ok]
      simp [hterminal, hpending, StoredRunRecord.HasPending, and_assoc]
    · rw [if_neg hpending]
      show _ ∧ require _ _ = .ok () ↔ _
      rw [require_ok]
      simp [hterminal, hpending]

namespace StoredRunRecord

/-- A restorable record is the one its text holds. -/
theorem Restorable.reloaded {r : StoredRunRecord} (h : r.Restorable) : r.reloaded = r := by
  obtain ⟨output, houtput, hwf⟩ := h.output
  have hschema : Json.normalize r.schema_version = r.schema_version := by
    rw [h.schema]
    exact Json.normalize_wf (Json.WF.int 2)
  have hmetadata : PyDict.ofDict r.run_metadata.image = r.run_metadata :=
    PyDict.ofDict_image h.run_metadata
  have hvalue : PyVal.json (Json.normalize r.pending_execution_output.image) =
      r.pending_execution_output := by
    rw [houtput, PyVal.image_json, Json.normalize_wf hwf]
  have hterminal : (r.terminal_metadata.map fun m => PyDict.ofDict m.image) = r.terminal_metadata := by
    cases hm : r.terminal_metadata with
    | none => rfl
    | some m =>
      rw [Option.map_some, PyDict.ofDict_image (h.terminal_metadata m hm)]
  unfold StoredRunRecord.reloaded
  rw [hschema, hmetadata, hvalue, hterminal]

theorem Restorable.toJson {r : StoredRunRecord} (h : r.Restorable) : r.toJson = .ok r.text := by
  obtain ⟨raw, hraw, -⟩ := fromJson_toJson h
  rcases r.toJson_cases with ⟨e, he⟩ | htext
  · rw [hraw] at he
    cases he
  · exact htext

theorem Restorable.fromJson {r : StoredRunRecord} (h : r.Restorable) :
    StoredRunRecord.fromJson r.text = .ok r := by
  obtain ⟨raw, hraw, hback⟩ := fromJson_toJson h
  rw [h.toJson] at hraw
  rw [Except.ok.inj hraw]
  exact hback

/-- A row of a restorable record is read as that record. -/
theorem Restorable.read {r : StoredRunRecord} (h : r.Restorable) :
    (RunRow.of r r.text).read = .ok r := by
  have hcolumns : validateRecordColumns r (RunRow.of r r.text) = .ok () := by
    unfold validateRecordColumns
    have hschema : Json.pyEq r.schema_version (RunRow.of r r.text).schema_version = true := by
      show Json.pyEq r.schema_version r.schema_version = true
      rw [h.schema]
      decide
    have hversion : r.version = (RunRow.of r r.text).version := rfl
    rw [require_bind_pos hschema, require_bind_pos hversion]
    exact require_ok.mpr rfl
  unfold RunRow.read
  rw [RunRow.of_record_json, h.fromJson]
  show (validateRecordColumns r (RunRow.of r r.text) >>= fun _ => .ok r) = .ok r
  rw [hcolumns]
  rfl

/-- A claim leaves a restorable record. -/
theorem Restorable.inFlight {r : StoredRunRecord} (h : r.Restorable)
    (hstate : r.durable_state = .toolPrepared) (version : Nat) : (r.inFlight version).Restorable where
  schema := h.schema
  run_id := h.run_id
  profile_fingerprint := h.profile_fingerprint
  task := h.task
  run_metadata := h.run_metadata
  next_step := h.next_step
  pending_request_id := h.pending_request_id
  pending_idempotency_key := h.pending_idempotency_key
  pending_tool_call_id := h.pending_tool_call_id
  pending_tool_name := h.pending_tool_name
  pending_execution_status := h.pending_execution_status
  pending_execution_reason := h.pending_execution_reason
  final_text := h.final_text
  output := h.output
  terminal_metadata := h.terminal_metadata
  state := by
    have hvalid := validateStateFields_iff.mp h.state
    rw [hstate] at hvalid
    obtain ⟨-, hopen⟩ := hvalid
    obtain ⟨hterminal, hpending, -⟩ := hopen rfl
    apply validateStateFields_iff.mpr
    constructor
    · intro hover
      cases hover
    · intro _
      refine ⟨hterminal, fun _ => hpending rfl, ?_⟩
      intro hcompleted
      cases hcompleted

end StoredRunRecord

/-! ## Section 2: One operation -/

/-- Every stored record is one its text restores. -/
def Records.Restorable (m : Records) : Prop := ∀ run_id r, m run_id = some r → r.Restorable

/-- What makes an operation one that both stores answer alike. -/
def Records.Ready (m : Records) : AgentOp → Prop
  | .create r => r.Restorable
  | .save r n => ({ r with version := n + 1 } : StoredRunRecord).Restorable ∧
      ∃ cur, m r.run_id = some cur
  | _ => True

section stores

variable {m : Records} {rows : Rows}

/-- Two stores whose steps have one answer and related states. -/
theorem same_answers {S T A : Type} {R : S → T → Prop} {step₁ : A × S} {step₂ : A × T}
    (hanswer : step₁.1 = step₂.1) (hstate : R step₁.2 step₂.2) :
    (∀ x s, (x, s) = step₁ → ∃ t, (x, t) = step₂ ∧ R s t) ∧
      ∀ x t, (x, t) = step₂ → ∃ s, (x, s) = step₁ ∧ R s t := by
  constructor
  · rintro x s rfl
    exact ⟨step₂.2, Prod.ext hanswer rfl, hstate⟩
  · rintro x t rfl
    exact ⟨step₁.2, Prod.ext hanswer.symm rfl, hstate⟩

theorem create_agrees (h : SQLiteRunStore.Represents m rows) {r : StoredRunRecord}
    (hr : r.Restorable) :
    (InMemoryRunStore.create m r).1 = (SQLiteRunStore.create rows r).1 ∧
      SQLiteRunStore.Represents (InMemoryRunStore.create m r).2 (SQLiteRunStore.create rows r).2 := by
  unfold InMemoryRunStore.create SQLiteRunStore.create
  rw [hr.toJson, h.rows]
  cases m r.run_id with
  | some cur => exact ⟨rfl, h⟩
  | none => exact ⟨rfl, h.update rfl⟩

theorem load_agrees (h : SQLiteRunStore.Represents m rows) (hm : m.Restorable) (run_id : String) :
    InMemoryRunStore.load m run_id = SQLiteRunStore.load rows run_id := by
  unfold InMemoryRunStore.load SQLiteRunStore.load
  rw [h.rows]
  cases hcur : m run_id with
  | none => rfl
  | some cur => exact (hm run_id cur hcur).read.symm

theorem save_agrees (h : SQLiteRunStore.Represents m rows) {r cur : StoredRunRecord} {n : Nat}
    (hr : ({ r with version := n + 1 } : StoredRunRecord).Restorable)
    (hcur : m r.run_id = some cur) :
    (InMemoryRunStore.save m r n).1 = (SQLiteRunStore.save rows r n).1 ∧
      SQLiteRunStore.Represents (InMemoryRunStore.save m r n).2 (SQLiteRunStore.save rows r n).2 := by
  have hrow : rows r.run_id = some (RunRow.of cur cur.text) := by
    rw [h.rows, hcur]
    rfl
  unfold InMemoryRunStore.save SQLiteRunStore.save
  simp only [hr.toJson, hcur, hrow]
  by_cases hversion : cur.version ≠ n
  · have hcolumn : (RunRow.of cur cur.text).version ≠ n := hversion
    rw [if_pos hversion, if_pos hcolumn]
    exact ⟨rfl, h⟩
  · have hcolumn : ¬ (RunRow.of cur cur.text).version ≠ n := hversion
    rw [if_neg hversion, if_neg hcolumn]
    exact ⟨rfl, h.update rfl⟩

theorem claim_agrees (h : SQLiteRunStore.Represents m rows) (hm : m.Restorable) (run_id : String)
    (n : Nat) :
    (InMemoryRunStore.claimToolDispatch m run_id n).1 =
        (SQLiteRunStore.claimToolDispatch rows run_id n).1 ∧
      SQLiteRunStore.Represents (InMemoryRunStore.claimToolDispatch m run_id n).2
        (SQLiteRunStore.claimToolDispatch rows run_id n).2 := by
  unfold InMemoryRunStore.claimToolDispatch SQLiteRunStore.claimToolDispatch
  rw [h.rows]
  cases hcur : m run_id with
  | none => exact ⟨rfl, h⟩
  | some cur =>
    have hrestorable := hm run_id cur hcur
    have hcolumns : ((RunRow.of cur cur.text).version ≠ n ∨
        (RunRow.of cur cur.text).durable_state ≠ DurableRunState.toolPrepared.value) ↔
        (cur.version ≠ n ∨ cur.durable_state ≠ .toolPrepared) :=
      or_congr Iff.rfl DurableRunState.value_injective.ne_iff
    simp only [Option.map_some]
    by_cases hstale : cur.version ≠ n ∨ cur.durable_state ≠ .toolPrepared
    · rw [if_pos hstale, if_pos (hcolumns.mpr hstale)]
      exact ⟨rfl, h⟩
    · rw [if_neg hstale, if_neg (mt hcolumns.mp hstale)]
      have hstate : cur.durable_state = .toolPrepared := not_not.mp (not_or.mp hstale).2
      have hclaimed := hrestorable.inFlight hstate (n + 1)
      simp only [hrestorable.read, hclaimed.toJson]
      exact ⟨trivial, h.update (h.keyed run_id cur hcur)⟩

/-- **Step lemma**: an operation is answered alike. -/
theorem answering_agrees (h : SQLiteRunStore.Represents m rows) (hm : m.Restorable) {o : AgentOp}
    (hready : m.Ready o) (x : o.Ans) :
    (∀ m' : Records, inMemoryRunStore.answering m o x m' →
        ∃ rows', sqliteRunStore.answering rows o x rows' ∧ SQLiteRunStore.Represents m' rows') ∧
      ∀ rows' : Rows, sqliteRunStore.answering rows o x rows' →
        ∃ m', inMemoryRunStore.answering m o x m' ∧ SQLiteRunStore.Represents m' rows' := by
  cases o with
  | create r =>
    obtain ⟨hanswer, hstate⟩ := create_agrees h hready
    obtain ⟨h₁, h₂⟩ := same_answers hanswer hstate
    exact ⟨h₁ x, h₂ x⟩
  | save r n =>
    obtain ⟨hr, cur, hcur⟩ := hready
    obtain ⟨hanswer, hstate⟩ := save_agrees h hr hcur
    obtain ⟨h₁, h₂⟩ := same_answers hanswer hstate
    exact ⟨h₁ x, h₂ x⟩
  | claim run_id n =>
    obtain ⟨hanswer, hstate⟩ := claim_agrees h hm run_id n
    obtain ⟨h₁, h₂⟩ := same_answers hanswer hstate
    exact ⟨h₁ x, h₂ x⟩
  | load run_id =>
    have hload := load_agrees h hm run_id
    constructor
    · rintro m' ⟨hx, rfl⟩
      exact ⟨rows, ⟨hx.trans hload, rfl⟩, h⟩
    · rintro rows' ⟨hx, rfl⟩
      exact ⟨m, ⟨hx.trans hload.symm, rfl⟩, h⟩
  | clock | wallClock | cancelled | newRunId | retrieve _ | complete _ _ _ _ | execute _ _ =>
    constructor
    · rintro m' hm'
      obtain rfl : m' = m := hm'
      exact ⟨rows, rfl, h⟩
    · rintro rows' hrows
      obtain rfl : rows' = rows := hrows
      exact ⟨m, rfl, h⟩

end stores

/-! ## Section 3: What a call saves -/

/-- Every execution of the call returned a JSON value. -/
def PlainOutputs (past : List AgentSig.Event) : Prop :=
  ∀ action tool execution, (⟨.execute action tool, execution⟩ : AgentSig.Event) ∈ past →
    execution.output.Plain

/-- Metadata of JSON values only. -/
def RunInput.PlainMetadata (input : RunInput) : Prop := input.metadataDict.Plain

theorem plain_orElse {m : Option PyDict} {n : PyDict} (hm : ∀ d, m = some d → d.Plain)
    (hn : n.Plain) : (PyDict.orElse m n).Plain := by
  cases m with
  | none => exact hn
  | some d =>
    show (if d.image.members = [] then n else d).Plain
    by_cases hempty : d.image.members = []
    · rw [if_pos hempty]
      exact hn
    · rw [if_neg hempty]
      exact hm d rfl

theorem plain_runMetadata {input : RunInput} (h : input.PlainMetadata) (reason : Option String) :
    (runMetadata input reason).Plain := by
  cases reason with
  | none => exact h
  | some reason => exact PyDict.plain_setText h "reason" reason

theorem captureAction_text {a : FoundationAgent} {tool : GovernedTool} {run_id request_id : String}
    {call : ToolCall} {timestamp : Decimal} {action : ActionIntent}
    (h : captureAction a tool run_id call request_id timestamp = .ok action) :
    nonBlank request_id = true := by
  rw [← (ActionIntent.capture_fields h).1]
  exact action.request_id_text

theorem restorable_opening {a : FoundationAgent} {input : RunInput} {r : StoredRunRecord}
    (hinput : input.PlainMetadata) (h : Opening a input r) : r.Restorable := by
  obtain ⟨run_id, started, expires, opening, event, durable_input, hrun, -, -, hmetadata, rfl⟩ := h
  have hnone {P : String → Prop} : ∀ s, (none : Option String) = some s → P s := by
    intro s hs
    cases hs
  refine ⟨rfl, hrun, hexdigest_text _, durable_input.task_text, ?_, Nat.le_refl 1, hnone, hnone, hnone,
    hnone, hnone, hnone, hnone, ⟨.null, rfl, Json.WF.null⟩, ?_, ?_⟩
  · show (durable_input.metadataDict).Plain
    unfold RunInput.metadataDict
    rw [hmetadata]
    exact hinput
  · intro m hm
    cases hm
  · apply validateStateFields_iff.mpr
    constructor
    · intro hterminal
      cases hterminal
    · intro _
      refine ⟨rfl, ?_, ?_⟩
      · intro hpending
        cases hpending
      · intro hcompleted
        cases hcompleted

theorem restorable_turn {r : StoredRunRecord} (h : r.Restorable) (hstate : r.durable_state = .running)
    {es : List RunEvent} {ms : List Message} {version : Nat} :
    ({ turnRecord r es ms with version := version } : StoredRunRecord).Restorable where
  schema := h.schema
  run_id := h.run_id
  profile_fingerprint := h.profile_fingerprint
  task := h.task
  run_metadata := h.run_metadata
  next_step := h.next_step
  pending_request_id := h.pending_request_id
  pending_idempotency_key := h.pending_idempotency_key
  pending_tool_call_id := h.pending_tool_call_id
  pending_tool_name := h.pending_tool_name
  pending_execution_status := h.pending_execution_status
  pending_execution_reason := h.pending_execution_reason
  final_text := h.final_text
  output := h.output
  terminal_metadata := h.terminal_metadata
  state := by
    have hvalid := validateStateFields_iff.mp h.state
    rw [hstate] at hvalid
    apply validateStateFields_iff.mpr
    refine ⟨fun hterminal => ?_, fun _ => ⟨(hvalid.2 rfl).1, fun hpending => ?_, fun hcompleted => ?_⟩⟩
    · cases hterminal
    · cases hpending
    · cases hcompleted

theorem restorable_prepared {a : FoundationAgent} {r : StoredRunRecord} (h : r.Restorable)
    (hstate : r.durable_state = .running) {es : List RunEvent} {ms : List Message}
    {tool : GovernedTool} {call : ToolCall} {request_id : String} (hrequest : nonBlank request_id = true)
    {timestamp : Timestamp} {version : Nat} :
    ({ preparedRecord a r es ms tool call request_id timestamp with
        version := version } : StoredRunRecord).Restorable where
  schema := h.schema
  run_id := h.run_id
  profile_fingerprint := h.profile_fingerprint
  task := h.task
  run_metadata := h.run_metadata
  next_step := h.next_step
  pending_request_id := by
    intro s hs
    rwa [← Option.some.inj hs]
  pending_idempotency_key := by
    intro s hs
    rwa [← Option.some.inj hs]
  pending_tool_call_id := by
    intro s hs
    rw [← Option.some.inj hs]
    exact call.valid_texts.1
  pending_tool_name := by
    intro s hs
    rw [← Option.some.inj hs]
    exact call.valid_texts.2.1
  pending_execution_status := h.pending_execution_status
  pending_execution_reason := h.pending_execution_reason
  final_text := h.final_text
  output := h.output
  terminal_metadata := h.terminal_metadata
  state := by
    have hvalid := validateStateFields_iff.mp h.state
    rw [hstate] at hvalid
    apply validateStateFields_iff.mpr
    refine ⟨fun hterminal => ?_, fun _ => ⟨(hvalid.2 rfl).1, fun _ => ?_, fun hcompleted => ?_⟩⟩
    · cases hterminal
    · exact ⟨rfl, rfl, rfl, rfl, rfl⟩
    · cases hcompleted

theorem restorable_completed {r : StoredRunRecord} (h : r.Restorable)
    (hstate : r.durable_state = .toolInFlight) {es : List RunEvent} {ms : List Message}
    {execution : GovernedExecution} (houtput : execution.output.Plain) {version : Nat} :
    ({ completedRecord r es ms execution with version := version } : StoredRunRecord).Restorable where
  schema := h.schema
  run_id := h.run_id
  profile_fingerprint := h.profile_fingerprint
  task := h.task
  run_metadata := h.run_metadata
  next_step := h.next_step
  pending_request_id := h.pending_request_id
  pending_idempotency_key := h.pending_idempotency_key
  pending_tool_call_id := h.pending_tool_call_id
  pending_tool_name := h.pending_tool_name
  pending_execution_status := by
    intro s hs
    rw [← Option.some.inj hs]
    cases execution.status <;> decide
  pending_execution_reason := by
    intro s hs
    rw [← Option.some.inj hs]
    exact execution.reason_text
  final_text := h.final_text
  output := by
    show (if execution.output = .none then r.pending_execution_output else execution.output).Plain
    by_cases hnone : execution.output = .none
    · rw [if_pos hnone]
      exact h.output
    · rw [if_neg hnone]
      exact houtput
  terminal_metadata := h.terminal_metadata
  state := by
    have hvalid := validateStateFields_iff.mp h.state
    rw [hstate] at hvalid
    obtain ⟨hterminal, hpending, -⟩ := hvalid.2 rfl
    apply validateStateFields_iff.mpr
    refine ⟨fun hover => ?_, fun _ => ⟨hterminal, fun _ => hpending rfl, fun _ => rfl⟩⟩
    cases hover

theorem restorable_advanced {r : StoredRunRecord} (h : r.Restorable)
    (hstate : r.durable_state = .toolCompleted) {es : List RunEvent} {ms : List Message}
    {version : Nat} :
    ({ advancedRecord r es ms with version := version } : StoredRunRecord).Restorable where
  schema := h.schema
  run_id := h.run_id
  profile_fingerprint := h.profile_fingerprint
  task := h.task
  run_metadata := h.run_metadata
  next_step := Nat.le_add_left 1 r.next_step
  pending_request_id := fun _ hs => nomatch hs
  pending_idempotency_key := fun _ hs => nomatch hs
  pending_tool_call_id := fun _ hs => nomatch hs
  pending_tool_name := fun _ hs => nomatch hs
  pending_execution_status := fun _ hs => nomatch hs
  pending_execution_reason := fun _ hs => nomatch hs
  final_text := h.final_text
  output := ⟨.null, rfl, Json.WF.null⟩
  terminal_metadata := h.terminal_metadata
  state := by
    have hvalid := validateStateFields_iff.mp h.state
    rw [hstate] at hvalid
    apply validateStateFields_iff.mpr
    refine ⟨fun hterminal => ?_, fun _ => ⟨(hvalid.2 rfl).1, fun hpending => ?_, fun hcompleted => ?_⟩⟩
    · cases hterminal
    · cases hpending
    · cases hcompleted

theorem restorable_finalized {r : StoredRunRecord} (h : r.Restorable) {state : DurableRunState}
    (hstate : state.isTerminal = true) {status : RunStatus} {final_text : Option String}
    (hfinal : ∀ s, final_text = some s → nonBlank s = true) {metadata : PyDict}
    (hmetadata : metadata.Plain) {es : List RunEvent} {ms : List Message}
    {tool_calls model_turns version : Nat} :
    ({ finalizeDurableRecord r state status final_text metadata es ms tool_calls model_turns with
        version := version } : StoredRunRecord).Restorable where
  schema := h.schema
  run_id := h.run_id
  profile_fingerprint := h.profile_fingerprint
  task := h.task
  run_metadata := h.run_metadata
  next_step := h.next_step
  pending_request_id := fun _ hs => nomatch hs
  pending_idempotency_key := fun _ hs => nomatch hs
  pending_tool_call_id := fun _ hs => nomatch hs
  pending_tool_name := fun _ hs => nomatch hs
  pending_execution_status := fun _ hs => nomatch hs
  pending_execution_reason := fun _ hs => nomatch hs
  final_text := hfinal
  output := ⟨.null, rfl, Json.WF.null⟩
  terminal_metadata := by
    intro m hm
    rw [← Option.some.inj hm]
    apply plain_orElse _ h.run_metadata
    intro d hd
    rwa [← Option.some.inj hd]
  state := by
    apply validateStateFields_iff.mpr
    refine ⟨fun _ => rfl, fun hopen => ?_⟩
    have hopen' : state.isTerminal = false := hopen
    rw [hstate] at hopen'
    cases hopen'

/-- **Checkpoint lemma**: a save leaves a restorable record. -/
theorem restorable_checkpoint {a : FoundationAgent} {input : RunInput} {v : WorkerView}
    {r r' : StoredRunRecord} (hinput : input.PlainMetadata) (h : r.Restorable)
    (houtput : ∀ execution resumed, v.phase = .executed r execution resumed →
      execution.output.Plain) (hcheckpoint : Checkpoint a input v r r') :
    ({ r' with version := r.version + 1 } : StoredRunRecord).Restorable := by
  cases hcheckpoint with
  | turn hphase hstate hstep => exact restorable_turn h hstate
  | prepare hphase hstate hmessages hbudget hhistory haction =>
    exact restorable_prepared h hstate (captureAction_text haction)
  | complete hphase hstate hmessages =>
    exact restorable_completed h hstate (houtput _ _ hphase)
  | advance hphase hstate hcall hresult => exact restorable_advanced h hstate
  | terminal hphase hstate hfinal hmetadata =>
    obtain ⟨reason, rfl⟩ := hmetadata
    exact restorable_finalized h (terminalState_isTerminal _) hfinal
      (plain_runMetadata hinput reason)

/-! ## Section 4: Runs -/

variable {T : Type}

/-- What a call is about to save is a JSON value. -/
def SavesPlain (past : List AgentSig.Event) : Prop :=
  ∀ r execution resumed, (callView past).phase = .executed r execution resumed →
    execution.output.Plain

/-- A call that has done nothing saves nothing. -/
theorem savesPlain_start (_ : T) : SavesPlain [] := by
  intro r execution resumed hphase
  cases hphase

theorem plainOutputs_earlier (_ : T) (past : List AgentSig.Event) (e : AgentSig.Event)
    (h : PlainOutputs (past ++ [e])) : PlainOutputs past := by
  intro action tool execution hmem
  exact h action tool execution (List.mem_append_left _ hmem)

/-- The condition on records and calls. -/
def plainCondition : Condition T where
  J := StoredRunRecord.Restorable
  K := fun _ past => SavesPlain past
  G := fun _ past => PlainOutputs past
  reloaded := by
    intro r h
    rw [h.reloaded]
    exact h
  claimed := fun r hstate h => h.inFlight hstate (r.version + 1)
  start := savesPlain_start
  earlier := plainOutputs_earlier

/-- Only an execution leads to an executed call. -/
theorem executed_next {v : WorkerView} {o : AgentOp} {x : o.Ans} {r : StoredRunRecord}
    {execution : GovernedExecution} {resumed : Bool}
    (h : (Worker.next v o x).phase = .executed r execution resumed) :
    v.phase = .executed r execution resumed ∨
      ∃ action tool, (⟨o, x⟩ : AgentSig.Event) = ⟨.execute action tool, execution⟩ := by
  cases o with
  | clock | wallClock | cancelled | newRunId | retrieve _ => exact Or.inl h
  | complete route ms tools n =>
    cases x with
    | error e => exact Or.inl h
    | ok output =>
      cases hr : v.phase.record? <;> simp only [Worker.next, hr] at h
      · exact Or.inl h
      · cases h
  | execute action tool =>
    cases hp : v.phase <;> simp only [Worker.next, hp] at h ⊢
    all_goals first
      | exact Or.inl h
      | (obtain ⟨-, rfl, -⟩ := Phase.executed.inj h
         exact Or.inr ⟨action, tool, rfl⟩)
  | create r' =>
    cases x with
    | error e => exact Or.inl h
    | ok u => cases h
  | load run_id =>
    cases x <;> cases hp : v.phase <;> simp only [Worker.next, hp] at h ⊢
    all_goals first
      | exact Or.inl h
      | cases h
  | save r' n =>
    cases x with
    | error e => exact Or.inl h
    | ok saved =>
      have hsaved : v.phase.saved saved = .executed r execution resumed := h
      unfold Phase.saved at hsaved
      by_cases hterminal : saved.durable_state.isTerminal = true
      · rw [if_pos hterminal] at hsaved
        cases hsaved
      · rw [if_neg hterminal] at hsaved
        cases hp : v.phase <;> rw [hp] at hsaved <;> cases hsaved
  | claim run_id n =>
    cases x with
    | error e => exact Or.inl h
    | ok answer =>
      cases answer with
      | none => cases h
      | some claimed =>
        cases hp : v.phase <;> simp only [Worker.next, hp] at h <;> cases h

theorem SavesPlain.snoc {past : List AgentSig.Event} {o : AgentOp} {x : o.Ans} (h : SavesPlain past)
    (houtput : ∀ action tool execution,
      (⟨o, x⟩ : AgentSig.Event) = ⟨.execute action tool, execution⟩ → execution.output.Plain) :
    SavesPlain (past ++ [⟨o, x⟩]) := by
  intro r execution resumed hphase
  rw [callView_snoc] at hphase
  rcases executed_next hphase with hbefore | ⟨action, tool, heq⟩
  · exact h r execution resumed hbefore
  · exact houtput action tool execution heq

theorem plainCondition_kept {w : Workers T} (hinputs : ∀ t, (w.input t).PlainMetadata) :
    (plainCondition (T := T)).KeptBy w := by
  apply Condition.KeptBy.of
  · intro t past r hK hphase hopening _
    refine ⟨restorable_opening (hinputs t) hopening, hK.snoc ?_⟩
    intro _ _ _ heq
    cases heq
  · intro t past r r' hK hrecord hJ hcheckpoint
    have houtput : ∀ execution resumed, (callView past).phase = .executed r execution resumed →
        execution.output.Plain := fun execution resumed hp => hK r execution resumed hp
    refine ⟨restorable_checkpoint (hinputs t) hJ houtput hcheckpoint, hK.snoc ?_⟩
    intro _ _ _ heq
    cases heq
  · intro t past r claimed hK hphase hstate _ _
    apply hK.snoc
    intro _ _ _ heq
    cases heq
  · intro t past o x hK hheld hnone hallows _ hgood
    apply hK.snoc
    intro action tool execution heq
    apply hgood action tool execution
    rw [heq]
    simp

/-- What an allowed operation saves is restorable, whatever it is answered. -/
theorem ready_of_allows {w : Workers T} (hinputs : ∀ t, (w.input t).PlainMetadata) {m : Records}
    {t : T} {past : List AgentSig.Event} {o : AgentOp} (hK : SavesPlain past)
    (hheld : (plainCondition (T := T)).Held past)
    (hcurrent : ∀ r, (callView past).phase.record? = some r → m.Current r)
    (hallows : Worker.Allows (w.agent t) (w.input t) (callView past) o) : m.Ready o := by
  cases o with
  | create r => exact restorable_opening (hinputs t) hallows.2
  | save r' n =>
    obtain ⟨r, hrecord, rfl, hcheckpoint⟩ := hallows
    have hrestorable := restorable_checkpoint (hinputs t) (hheld r hrecord)
      (fun execution resumed hp => hK r execution resumed hp) hcheckpoint
    obtain ⟨cur, hcur, -⟩ := hcurrent r hrecord
    have hid : r'.run_id = r.run_id := hcheckpoint.run_id
    exact ⟨hrestorable, cur, by rw [hid]; exact hcur⟩
  | clock | wallClock | cancelled | newRunId | retrieve _ | complete _ _ _ _ | execute _ _
  | load _ | claim _ _ => exact trivial

/-- A run whose executions all returned JSON values. -/
def PlainRun (log : List (T × AgentSig.Event)) : Prop :=
  ∀ t action tool execution, (t, (⟨.execute action tool, execution⟩ : AgentSig.Event)) ∈ log →
    execution.output.Plain

theorem PlainRun.earlier {log : List (T × AgentSig.Event)} {e : T × AgentSig.Event}
    (h : PlainRun (log ++ [e])) : PlainRun log :=
  fun t action tool execution hmem => h t action tool execution (List.mem_append_left _ hmem)

theorem PlainRun.outputs [DecidableEq T] {log : List (T × AgentSig.Event)} (h : PlainRun log)
    (t : T) : PlainOutputs (ofThread t log) := by
  intro action tool execution hmem
  exact h t action tool execution (mem_ofThread.mp hmem)

/-- The SQLite store never accepts a record it cannot write. -/
theorem refused_not_saved {rows rows' : Rows} {r saved : StoredRunRecord} {n : Nat}
    (hrefused : r.refused = true) :
    ¬ sqliteRunStore.answering rows (.save r n) (.ok saved) rows' := by
  intro h
  have hstep : (.ok saved, rows') = SQLiteRunStore.save rows r n := h
  have hjson : StoredRunRecord.toJson { r with version := n + 1 } =
      .error (Exn.of .typeError "Object is not JSON serializable") := if_pos hrefused
  unfold SQLiteRunStore.save at hstep
  simp only [hjson] at hstep
  cases hstep

/-- An event that a store cannot answer is in no run of it. -/
theorem Answered.possible {E : Sig} {S : Type} {answering : Answering E S} {s s' : S}
    {log : List E.Event} (h : Config.Answered answering s log s') {o : E.Op} {x : E.Ans o}
    (hmem : (⟨o, x⟩ : E.Event) ∈ log) : ∃ t t', answering t o x t' := by
  induction h with
  | nil s => cases hmem
  | cons hfirst _ ih =>
    rcases List.mem_cons.mp hmem with heq | hmem
    · cases heq
      exact ⟨_, _, hfirst⟩
    · exact ih hmem

/-- What a handler returns that is no JSON value. -/
def foreignOutput : PyVal := .foreign (.str "object()")

/-- A run whose handler returns `None` is plain. -/
theorem look_plain : PlainRun ((SoloRun.look .none).map fun e => (0, e)) := by
  intro t action tool execution hmem
  obtain ⟨e, he, heq⟩ := List.mem_map.mp hmem
  obtain ⟨-, rfl⟩ := Prod.mk.inj heq
  simp only [SoloRun.look, firstTurnEvents, prepareEvents, dispatchEvents, turnEvents, event,
    List.mem_append, List.mem_cons, List.not_mem_nil, Sigma.mk.injEq, AgentOp.execute.injEq, reduceCtorEq,
    false_and, or_false, false_or] at he
  obtain ⟨-, hexecution⟩ := he
  rw [eq_of_heq hexecution]
  exact ⟨.null, rfl, Json.WF.null⟩

end CBrain

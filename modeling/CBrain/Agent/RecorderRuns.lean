import CBrain.Agent.RecorderHistory

/-! # Recordings among each other

    A key joins the name of the agent and the run's with a colon, and leaves
    out the status of the outcome.

    * `neverCollide_iff`      : two pairs of names share no key exactly when
      they are joined differently and neither continue the others with a number.
    * `recordings_lawful_iff` : every recording of a history goes through, can
      be repeated and keeps to its own keys exactly when each call is in order
      and fits what is on file, and the names are apart. -/

namespace CBrain.Insights

open Knowledge (stripChars)
open Mutation (raising write exec)

/-! ## Section 1: What a recording appends -/

/-- A store that takes every signal. -/
def collectSignal : AppendSignal (List LearningSignal) :=
  fun signal => write (fun signals => signals ++ [signal]) >>= fun _ => pure signal

/-- The signals that a recording appends where nothing stands in its way. -/
def submitted (call : RunCall) : List LearningSignal := (recordRun collectSignal call []).2

/-- No recording under the one pair of names shares a key with a recording
    under the other. -/
def NeverCollide (names names' : String × String) : Prop :=
  ∀ call call' : RunCall, (call.agent_id, call.result.run_id) = names →
    (call'.agent_id, call'.result.run_id) = names' →
      ∀ signal ∈ submitted call, ∀ signal' ∈ submitted call',
        signal.idempotency_key ≠ signal'.idempotency_key

/-- The names as the keys join them. -/
def joined (names : String × String) : String := names.1 ++ ":" ++ names.2

/-- The second names, joined, continue the first ones with a number. -/
def ContinuesNumbered (names names' : String × String) : Prop :=
  ∃ (i : Nat) (rest : List Char),
    (joined names' ++ ":").toList = (joined names ++ ":").toList ++ (Nat.toDigits 10 i ++ ':' :: rest)

/-- Joined, the names differ by more than white space behind them, and neither
    continue the others with a number. -/
structure Apart (names names' : String × String) : Prop where
  joined : rstripChars (joined names).toList ≠ rstripChars (Insights.joined names').toList
  forth : ¬ ContinuesNumbered names names'
  back : ¬ ContinuesNumbered names' names

variable {call call' : RunCall}

/-- What the rejections append to a store that takes every signal. -/
theorem collect_rejections (hnamed : call.Named) (i : Nat) (rest : List (String × Json))
    (signals : List LearningSignal) :
    ∃ more, (exec (recordRejections collectSignal call i rest) signals).2 = signals ++ more ∧
      (∀ signal ∈ more, ∃ i tool_name status, signal = call.rejection i tool_name status) ∧
        ((∀ rejection ∈ rest, RejectionInOrder rejection) → more = call.rejectionSignals i rest) := by
  induction rest generalizing i signals with
  | nil => exact ⟨[], (List.append_nil _).symm, fun _ h => (nomatch h), fun _ => rfl⟩
  | cons rejection rest ih =>
    obtain ⟨tool_name, status_raw⟩ := rejection
    -- a rejection that is out of order ends the recording
    have hstop (hout : ¬ RejectionInOrder (tool_name, status_raw)) {e : Exn}
        (he : exec (recordRejections collectSignal call i ((tool_name, status_raw) :: rest)) signals =
          (.error e, signals)) :
        ∃ more, (exec (recordRejections collectSignal call i ((tool_name, status_raw) :: rest))
            signals).2 = signals ++ more ∧
          (∀ signal ∈ more, ∃ i tool_name status, signal = call.rejection i tool_name status) ∧
            ((∀ rejection ∈ (tool_name, status_raw) :: rest, RejectionInOrder rejection) →
              more = call.rejectionSignals i ((tool_name, status_raw) :: rest)) := by
      rw [he]
      exact ⟨[], (List.append_nil _).symm, fun _ h => (nomatch h),
        fun hall => absurd (hall _ List.mem_cons_self) hout⟩
    cases hparse : parseExecutionStatus status_raw with
    | error e =>
      refine hstop ?_ (e := e) ?_
      · intro hr
        obtain ⟨status, hstatus, -⟩ := hr.status
        rw [hparse] at hstatus
        cases hstatus
      · unfold recordRejections recordRejection
        rw [hparse, bind_assoc]
        rfl
    | ok status =>
      cases hsignal : toolRejectionSignal call.agent_id call.result.run_id tool_name status
          (rejectionKey call.agent_id call.result.run_id i tool_name status) call.observed_at with
      | error e =>
        refine hstop ?_ (e := e) ?_
        · intro hr
          obtain ⟨other, hother, hne⟩ := hr.status
          rw [hparse] at hother
          have hok := (toolRejectionSignal_ok_iff hnamed (i := i)).mpr
            ⟨⟨hr.tool_name, Except.ok.inj hother ▸ hne⟩, rfl⟩
          rw [hsignal] at hok
          cases hok
        · unfold recordRejections recordRejection
          rw [hparse, bind_assoc, Mutation.exec_bind_ok (Mutation.exec_raising (.ok status) signals),
            bind_assoc, hsignal]
          rfl
      | ok signal =>
        obtain ⟨-, rfl⟩ := (toolRejectionSignal_ok_iff hnamed).mp hsignal
        obtain ⟨more, hmore, hshape, hall⟩ :=
          ih (i + 1) (signals ++ [call.rejection i tool_name status])
        refine ⟨call.rejection i tool_name status :: more, ?_, ?_, ?_⟩
        · unfold recordRejections recordRejection
          rw [hparse, bind_assoc, Mutation.exec_bind_ok (Mutation.exec_raising (.ok status) signals),
            bind_assoc, hsignal,
            Mutation.exec_bind_ok (Mutation.exec_raising (.ok (call.rejection i tool_name status))
              signals)]
          show (exec (recordRejections collectSignal call (i + 1) rest)
            (signals ++ [call.rejection i tool_name status])).2 = _
          rw [hmore, List.append_assoc]
          rfl
        · intro s hs
          rcases List.mem_cons.mp hs with rfl | hs
          · exact ⟨i, tool_name, status, rfl⟩
          · exact hshape s hs
        · intro hrest
          unfold RunCall.rejectionSignals
          rw [hparse, hall fun r hr => hrest r (List.mem_cons_of_mem _ hr)]

/-- What a recording appends: the outcome, and rejections. -/
theorem submitted_of_named (hnamed : call.Named) :
    ∃ more, submitted call = call.outcome :: more ∧
      (∀ signal ∈ more, ∃ i tool_name status, signal = call.rejection i tool_name status) ∧
        (call.InOrder → submitted call = call.signals) := by
  obtain ⟨more, hmore, hshape, hall⟩ := collect_rejections hnamed 0 call.rejected [call.outcome]
  have hsubmitted : submitted call = call.outcome :: more := by
    have hstate : submitted call = (exec (recordRunBody collectSignal call) []).2 := by
      unfold submitted recordRun
      rcases exec (recordRunBody collectSignal call) [] with ⟨r, signals⟩
      cases r <;> rfl
    rw [hstate, recordRunBody_eq, runOutcomeSignal_ok_iff.mpr ⟨hnamed, rfl⟩,
      Mutation.exec_bind_ok (Mutation.exec_raising (.ok call.outcome) [])]
    exact hmore
  refine ⟨more, hsubmitted, hshape, fun hinorder => ?_⟩
  rw [hsubmitted, hall hinorder.rejections]
  rfl

/-- Nothing is appended under names that are not admissible. -/
theorem named_of_mem_submitted {signal : LearningSignal} (h : signal ∈ submitted call) :
    call.Named := by
  by_contra hunnamed
  unfold submitted at h
  rw [recordRun_unnamed hunnamed] at h
  exact nomatch h

/-! ## Section 2: Names that share a key -/

theorem outcome_key (call : RunCall) : call.outcome.idempotency_key.toList =
    "run-outcome:".toList ++ rstripChars (joined (call.agent_id, call.result.run_id)).toList := by
  have hsplit : (outcomeKey call.agent_id call.result.run_id).toList =
      "run-outcome:".toList ++ (joined (call.agent_id, call.result.run_id)).toList := by
    have htext (s : String) : toString s = s := rfl
    unfold outcomeKey joined
    simp only [htext, String.toList_append, List.append_assoc]
  show (strip (outcomeKey call.agent_id call.result.run_id)).toList = _
  unfold strip
  rw [hsplit, String.toList_ofList, stripChars_append (c := 'r') (d := ':') (by decide) (by decide)
    (by decide) (by decide)]

theorem rejection_key (call : RunCall) (i : Nat) (tool_name : String) (status : ExecutionStatus) :
    (call.rejection i tool_name status).idempotency_key =
      rejectionKey call.agent_id call.result.run_id i tool_name status :=
  strip_rejectionKey ..

/-- An outcome's key is no rejection's. -/
theorem outcome_key_ne (first second : RunCall) (i : Nat) (tool_name : String)
    (status : ExecutionStatus) :
    first.outcome.idempotency_key ≠ (second.rejection i tool_name status).idempotency_key := by
  intro hsame
  have hhead : first.outcome.idempotency_key.toList.head? =
      (second.rejection i tool_name status).idempotency_key.toList.head? := by rw [hsame]
  rw [outcome_key, rejection_key, rejectionKey_toList] at hhead
  have hletters : some 'r' = some 't' := hhead
  exact absurd hletters (by decide)

theorem colon_not_mem_digits (i : Nat) : ':' ∉ Nat.toDigits 10 i := by
  intro hmem
  have hdigit := Nat.isDigit_of_mem_toDigits (b := 10) (by decide) (by decide) hmem
  exact absurd hdigit (by decide)

/-- A text with a colon in front of a numbered one begins with the number. -/
theorem numbered_of_prefix {front behind rest : List Char} {i : Nat} (hcolon : ':' ∈ front)
    (h : Nat.toDigits 10 i ++ ':' :: rest = front ++ behind) :
    ∃ more, front = Nat.toDigits 10 i ++ ':' :: more := by
  rcases List.append_eq_append_iff.mp h with ⟨more, hfront, hrest⟩ | ⟨more, hdigits, -⟩
  · cases more with
    | nil =>
      rw [hfront, List.append_nil] at hcolon
      exact absurd hcolon (colon_not_mem_digits i)
    | cons c more =>
      obtain rfl := (List.cons.inj hrest).1
      exact ⟨more, hfront⟩
  · exact absurd (hdigits ▸ List.mem_append_left more hcolon) (colon_not_mem_digits i)

/-- Two rejections share a key only if the names are joined alike, or the ones
    continue the others with a number. -/
theorem continues_of_rejectionKey {names names' : String × String} {i j : Nat}
    {tool_name tool_name' : String} {status status' : ExecutionStatus}
    (h : rejectionKey names.1 names.2 i tool_name status =
      rejectionKey names'.1 names'.2 j tool_name' status') :
    joined names = joined names' ∨ ContinuesNumbered names names' ∨
      ContinuesNumbered names' names := by
  have hchars := congrArg String.toList h
  rw [rejectionKey_toList, rejectionKey_toList] at hchars
  have hcolon {front : List Char} {names₁ names₂ : String × String}
      (hfront : (joined names₁ ++ ":").toList = (joined names₂ ++ ":").toList ++ front)
      (hne : front ≠ []) : ':' ∈ front := by
    have hlast := congrArg List.getLast? hfront
    rw [String.toList_append, List.getLast?_append, List.getLast?_append,
      List.getLast?_eq_some_getLast hne] at hlast
    have hcolon : front.getLast hne = ':' := (Option.some.inj hlast).symm
    exact hcolon ▸ List.getLast_mem hne
  have hjoined {names₁ names₂ : String × String}
      (heq : (joined names₁ ++ ":").toList = (joined names₂ ++ ":").toList) :
      joined names₁ = joined names₂ := by
    rw [String.toList_append, String.toList_append] at heq
    exact String.toList_inj.mp (List.append_cancel_right heq)
  rcases List.append_eq_append_iff.mp (List.append_cancel_left hchars) with
    ⟨front, hlong, hrest⟩ | ⟨front, hlong, hrest⟩
  · by_cases hnil : front = []
    · subst hnil
      rw [List.append_nil] at hlong
      exact Or.inl (hjoined hlong).symm
    · obtain ⟨more, rfl⟩ := numbered_of_prefix (hcolon hlong hnil) hrest
      exact Or.inr (Or.inl ⟨i, more, hlong⟩)
  · by_cases hnil : front = []
    · subst hnil
      rw [List.append_nil] at hlong
      exact Or.inl (hjoined hlong)
    · obtain ⟨more, rfl⟩ := numbered_of_prefix (hcolon hlong hnil) hrest
      exact Or.inr (Or.inr ⟨j, more, hlong⟩)

/-- A run in which one request, for a tool, was rejected a number of times. -/
def rejectedCall (names : String × String) (tool_name : String) (count : Nat) : RunCall where
  agent_id := names.1
  result := {
    run_id := names.2
    status := .rejected
    final_text := none
    tool_calls := 0
    model_turns := 0
    events :=
      RunEvent.of .toolRequested 0 (Decimal.ofInt 0 0)
          [("request_id", "q"), ("tool_name", tool_name)] ::
        List.replicate count (RunEvent.of .toolRejected 0 (Decimal.ofInt 0 0)
          [("request_id", "q"), ("execution_status", "BLOCKED")])
    metadata := PyDict.empty }
  observed_at := .finite (Decimal.ofInt 0 0)

/-- What a member of an event's detail holds. -/
theorem detail_get (kind : RunEventKind) (step : Nat) (timestamp : Decimal)
    (detail : List (String × String)) (key : String) :
    (RunEvent.of kind step timestamp detail).detail.get key =
      (Json.get? (detail.map fun m => (m.1, Json.str m.2)).reverse key).getD .null := by
  rw [← Json.get?_dictOf]
  rfl

/-- A rejection of a call whose tool is known is counted. -/
theorem rejections_rejected {observed : Observed} {event : RunEvent} {tool_name status : String}
    (hkind : event.kind = .toolRejected)
    (htool : observed.toolOf (event.detail.get "request_id") = some tool_name)
    (hstatus : event.detail.get "execution_status" = .str status) (events : List RunEvent) :
    rejections observed (event :: events) = (tool_name, .str status) ::
      rejections { observed with rejection_index := observed.rejection_index + 1 } events := by
  rw [rejections_cons, hkind]
  dsimp only
  rw [htool, hstatus]

theorem rejections_replicate {observed : Observed} {tool_name : String}
    (h : observed.tools_by_request.get? "q" = some tool_name) (count : Nat) :
    rejections observed (List.replicate count (RunEvent.of .toolRejected 0 (Decimal.ofInt 0 0)
        [("request_id", "q"), ("execution_status", "BLOCKED")])) =
      List.replicate count (tool_name, .str "BLOCKED") := by
  induction count generalizing observed with
  | zero => rfl
  | succ count ih =>
    have htool : observed.toolOf ((RunEvent.of .toolRejected 0 (Decimal.ofInt 0 0)
        [("request_id", "q"), ("execution_status", "BLOCKED")]).detail.get "request_id") =
          some tool_name := h
    rw [List.replicate_succ, List.replicate_succ, rejections_rejected rfl htool rfl]
    have hrest : rejections { observed with rejection_index := observed.rejection_index + 1 } _ = _ :=
      ih h
    exact congrArg (List.cons (tool_name, Json.str "BLOCKED")) hrest

theorem rejected_rejectedCall (names : String × String) (tool_name : String) (count : Nat) :
    (rejectedCall names tool_name count).rejected =
      List.replicate count (tool_name, .str "BLOCKED") := by
  unfold RunCall.rejected rejectedCall
  dsimp only
  rw [rejections_cons]
  rw [detail_get, detail_get]
  show rejections (Observed.request ⟨Table.empty, 0⟩ (.str "q") (.str tool_name)) _ = _
  exact rejections_replicate (Table.get?_set_self _ _ _) count

theorem mem_rejectionSignals_replicate (call : RunCall) (tool_name : String) {i k count : Nat}
    (hk : k < count) : call.rejection (i + k) tool_name .blocked ∈
      call.rejectionSignals i (List.replicate count (tool_name, .str "BLOCKED")) := by
  induction count generalizing i k with
  | zero => exact absurd hk (Nat.not_lt_zero k)
  | succ count ih =>
    rw [List.replicate_succ]
    show _ ∈ call.rejection i tool_name .blocked :: call.rejectionSignals (i + 1) _
    cases k with
    | zero => exact List.mem_cons_self
    | succ k =>
      have hmem := ih (i := i + 1) (k := k) (by omega)
      have hindex : i + 1 + k = i + (k + 1) := by omega
      rw [hindex] at hmem
      exact List.mem_cons_of_mem _ hmem

/-- A recording of the run appends a rejection under each index. -/
theorem mem_submitted_rejectedCall {names : String × String} (ha : Admissible names.1)
    (hr : Admissible names.2) {tool_name : String} (ht : Admissible tool_name) {k count : Nat}
    (hk : k < count) :
    (rejectedCall names tool_name count).rejection k tool_name .blocked ∈
      submitted (rejectedCall names tool_name count) := by
  have hinorder : (rejectedCall names tool_name count).InOrder := by
    refine ⟨⟨ha, hr, _, rfl⟩, ?_⟩
    rw [rejected_rejectedCall]
    intro rejection hmem
    obtain rfl := (List.mem_replicate.mp hmem).2
    exact ⟨ht, .blocked, rfl, by decide⟩
  obtain ⟨_, -, -, hall⟩ := submitted_of_named hinorder.toNamed
  rw [hall hinorder]
  refine List.mem_cons_of_mem _ ?_
  rw [rejected_rejectedCall]
  have hmem := mem_rejectionSignals_replicate (rejectedCall names tool_name count) tool_name
    (i := 0) hk
  rw [Nat.zero_add] at hmem
  exact hmem

/-- The outcome of a run is appended. -/
theorem mem_submitted_outcome {names : String × String} (ha : Admissible names.1)
    (hr : Admissible names.2) :
    (rejectedCall names "t" 0).outcome ∈ submitted (rejectedCall names "t" 0) := by
  have hnamed : (rejectedCall names "t" 0).Named := ⟨ha, hr, _, rfl⟩
  obtain ⟨more, hmore, -, -⟩ := submitted_of_named hnamed
  rw [hmore]
  exact List.mem_cons_self

/-- **When two pairs of names share no key**. -/
theorem neverCollide_iff {names names' : String × String} (ha : Admissible names.1)
    (hr : Admissible names.2) (ha' : Admissible names'.1) (hr' : Admissible names'.2) :
    NeverCollide names names' ↔ Apart names names' := by
  -- where the joined names go on with a number, a tool's name can make up for the rest
  have hcollide {first second : String × String} (hfirst : Admissible first.1 ∧ Admissible first.2)
      (hsecond : Admissible second.1 ∧ Admissible second.2) (h : ContinuesNumbered first second) :
      ∃ call call' : RunCall, (call.agent_id, call.result.run_id) = first ∧
        (call'.agent_id, call'.result.run_id) = second ∧
          ∃ signal ∈ submitted call, ∃ signal' ∈ submitted call',
            signal.idempotency_key = signal'.idempotency_key := by
    obtain ⟨i, rest, hjoined⟩ := h
    have hplain : '\x00' ∉ (joined second ++ ":").toList := by
      have hagent := hsecond.1.plain
      have hrun := hsecond.2.plain
      simp [joined, hagent, hrun]
    have htool : Admissible (String.ofList (rest ++ ['0', ':', 't'])) := by
      refine ⟨?_, ?_⟩
      · simp only [nonBlank, String.toList_ofList, List.any_append, Bool.or_eq_true]
        exact Or.inr (by decide)
      · rw [hjoined] at hplain
        simp only [List.mem_append, List.mem_cons, not_or] at hplain
        simp [hplain.2.2.2]
    refine ⟨rejectedCall first (String.ofList (rest ++ ['0', ':', 't'])) (i + 1),
      rejectedCall second "t" 1, rfl, rfl, _,
      mem_submitted_rejectedCall hfirst.1 hfirst.2 htool (Nat.lt_succ_self i), _,
      mem_submitted_rejectedCall hsecond.1 hsecond.2 ⟨by decide, by decide⟩ Nat.zero_lt_one, ?_⟩
    rw [rejection_key, rejection_key, ← String.toList_inj, rejectionKey_toList, rejectionKey_toList]
    have hsecond' : (second.1 ++ ":" ++ second.2 ++ ":").toList =
        (first.1 ++ ":" ++ first.2 ++ ":").toList ++ (Nat.toDigits 10 i ++ ':' :: rest) := hjoined
    show _ ++ ((first.1 ++ ":" ++ first.2 ++ ":").toList ++ _) =
      _ ++ ((second.1 ++ ":" ++ second.2 ++ ":").toList ++ _)
    rw [hsecond']
    simp
  constructor
  · intro hnever
    refine ⟨fun heq => ?_, fun hcontinues => ?_, fun hcontinues => ?_⟩
    · refine hnever (rejectedCall names "t" 0) (rejectedCall names' "t" 0) rfl rfl _
        (mem_submitted_outcome ha hr) _ (mem_submitted_outcome ha' hr') ?_
      rw [← String.toList_inj, outcome_key, outcome_key]
      exact congrArg _ heq
    · obtain ⟨call, call', hnames, hnames', signal, hs, signal', hs', heq⟩ :=
        hcollide ⟨ha, hr⟩ ⟨ha', hr'⟩ hcontinues
      exact hnever call call' hnames hnames' signal hs signal' hs' heq
    · obtain ⟨call, call', hnames, hnames', signal, hs, signal', hs', heq⟩ :=
        hcollide ⟨ha', hr'⟩ ⟨ha, hr⟩ hcontinues
      exact hnever call' call hnames' hnames signal' hs' signal hs heq.symm
  · intro hapart call call' hnames hnames' signal hs signal' hs' heq
    subst hnames
    subst hnames'
    obtain ⟨more, hmore, hshape, -⟩ := submitted_of_named (named_of_mem_submitted hs)
    obtain ⟨more', hmore', hshape', -⟩ := submitted_of_named (named_of_mem_submitted hs')
    rw [hmore] at hs
    rw [hmore'] at hs'
    rcases List.mem_cons.mp hs with rfl | hs
    · rcases List.mem_cons.mp hs' with rfl | hs'
      · have hkeys := congrArg String.toList heq
        rw [outcome_key, outcome_key] at hkeys
        exact hapart.joined (List.append_cancel_left hkeys)
      · obtain ⟨i, tool_name, status, rfl⟩ := hshape' _ hs'
        exact outcome_key_ne _ _ _ _ _ heq
    · obtain ⟨i, tool_name, status, rfl⟩ := hshape _ hs
      rcases List.mem_cons.mp hs' with rfl | hs'
      · exact outcome_key_ne _ _ _ _ _ heq.symm
      · obtain ⟨j, tool_name', status', rfl⟩ := hshape' _ hs'
        rw [rejection_key, rejection_key] at heq
        have hcases : joined (call.agent_id, call.result.run_id) =
              joined (call'.agent_id, call'.result.run_id) ∨
            ContinuesNumbered (call.agent_id, call.result.run_id)
              (call'.agent_id, call'.result.run_id) ∨
            ContinuesNumbered (call'.agent_id, call'.result.run_id)
              (call.agent_id, call.result.run_id) := continues_of_rejectionKey heq
        rcases hcases with hjoined | hforth | hback
        · exact hapart.joined (congrArg (fun s : String => rstripChars s.toList) hjoined)
        · exact hapart.forth hforth
        · exact hapart.back hback

/-! ## Section 3: Histories -/

theorem digits_inj {i j : Nat} (h : Nat.toDigits 10 i = Nat.toDigits 10 j) : i = j := by
  have hvalue := congrArg (fun ds => Nat.ofDigitChars 10 ds 0) h
  simpa only [Nat.ofDigitChars_ten_toDigits] using hvalue

/-- The keys of one recording's rejections tell their indices. -/
theorem index_of_rejectionKey {agent_id run_id : String} {i j : Nat} {tool_name tool_name' : String}
    {status status' : ExecutionStatus}
    (h : rejectionKey agent_id run_id i tool_name status =
      rejectionKey agent_id run_id j tool_name' status') : i = j := by
  have hchars := congrArg String.toList h
  rw [rejectionKey_toList, rejectionKey_toList] at hchars
  have hnumbered := List.append_cancel_left (List.append_cancel_left hchars)
  rcases List.append_eq_append_iff.mp hnumbered with ⟨more, hdigits, hrest⟩ | ⟨more, hdigits, hrest⟩
  all_goals
    cases more with
    | nil =>
      rw [List.append_nil] at hdigits
      first
        | exact (digits_inj hdigits).symm
        | exact digits_inj hdigits
    | cons c more =>
      obtain rfl := (List.cons.inj hrest).1
      exact absurd (hdigits ▸ List.mem_append_right _ List.mem_cons_self) (colon_not_mem_digits _)

theorem mem_rejectionSignals {i : Nat} {rest : List (String × Json)} {signal : LearningSignal}
    (h : signal ∈ call.rejectionSignals i rest) :
    ∃ j tool_name status, i ≤ j ∧ signal = call.rejection j tool_name status := by
  induction rest generalizing i with
  | nil => exact nomatch h
  | cons rejection rest ih =>
    obtain ⟨tool_name, status_raw⟩ := rejection
    unfold RunCall.rejectionSignals at h
    cases hparse : parseExecutionStatus status_raw with
    | error e =>
      rw [hparse] at h
      obtain ⟨j, tool_name, status, hj, rfl⟩ := ih h
      exact ⟨j, tool_name, status, by omega, rfl⟩
    | ok status =>
      rw [hparse] at h
      rcases List.mem_cons.mp h with rfl | h
      · exact ⟨i, tool_name, status, Nat.le_refl i, rfl⟩
      · obtain ⟨j, tool_name, status, hj, rfl⟩ := ih h
        exact ⟨j, tool_name, status, by omega, rfl⟩

theorem nodup_rejectionSignals (i : Nat) (rest : List (String × Json)) :
    ((call.rejectionSignals i rest).map LearningSignal.idempotency_key).Nodup := by
  induction rest generalizing i with
  | nil => exact List.nodup_nil
  | cons rejection rest ih =>
    obtain ⟨tool_name, status_raw⟩ := rejection
    unfold RunCall.rejectionSignals
    cases parseExecutionStatus status_raw with
    | error e => exact ih (i + 1)
    | ok status =>
      refine List.nodup_cons.mpr ⟨fun hmem => ?_, ih (i + 1)⟩
      obtain ⟨signal, hsignal, hkey⟩ := List.mem_map.mp hmem
      obtain ⟨j, tool_name', status', hj, rfl⟩ := mem_rejectionSignals hsignal
      rw [rejection_key, rejection_key] at hkey
      have hindex := index_of_rejectionKey hkey
      omega

/-- The signals of a call have different keys. -/
theorem nodup_signals (call : RunCall) :
    (call.signals.map LearningSignal.idempotency_key).Nodup := by
  refine List.nodup_cons.mpr ⟨fun hmem => ?_, nodup_rejectionSignals 0 _⟩
  obtain ⟨signal, hsignal, hkey⟩ := List.mem_map.mp hmem
  obtain ⟨j, tool_name, status, -, rfl⟩ := mem_rejectionSignals hsignal
  exact outcome_key_ne call call j tool_name status hkey.symm

/-- The names of a call. -/
def RunCall.names (call : RunCall) : String × String := (call.agent_id, call.result.run_id)

/-- Each recording goes through, and repeated at any time it changes nothing. -/
def RecordsEach {S : Type} (append_signal : AppendSignal S) : S → List RunCall → Prop
  | _, [] => True
  | store, call :: calls =>
    (recordRun append_signal call store).1 = true ∧
      (∀ observed_at, (recordRun append_signal (call.at observed_at)
        (recordRun append_signal call store).2).2 = (recordRun append_signal call store).2) ∧
        RecordsEach append_signal (recordRun append_signal call store).2 calls

/-- A history of recordings that go through, may be repeated, and keep to keys
    of their own. -/
structure LawfulHistory {S : Type} (append_signal : AppendSignal S) (store : S)
    (calls : List RunCall) : Prop where
  each : RecordsEach append_signal store calls
  apart : ∀ call ∈ calls, ∀ call' ∈ calls, call.names ≠ call'.names →
    NeverCollide call.names call'.names

/-- Each call is in order, and fits the log before it. -/
def ClearEach : AppendLog signalRecords.ids → List RunCall → Prop
  | _, [] => True
  | l, call :: calls =>
    call.InOrder ∧ l.Fits call.signals ∧ ClearEach (l.appendAll call.signals) calls

/-- A history of calls that are in order and fit the log, under names that are
    apart. -/
structure ClearHistory (l : AppendLog signalRecords.ids) (calls : List RunCall) : Prop where
  each : ClearEach l calls
  apart : ∀ call ∈ calls, ∀ call' ∈ calls, call.names ≠ call'.names →
    Apart call.names call'.names

theorem ClearEach.inOrder {l : AppendLog signalRecords.ids} {calls : List RunCall}
    (h : ClearEach l calls) : ∀ call ∈ calls, call.InOrder := by
  induction calls generalizing l with
  | nil => exact fun call hcall => nomatch hcall
  | cons first calls ih =>
    intro call hcall
    rcases List.mem_cons.mp hcall with rfl | hcall
    · exact h.1
    · exact ih h.2.2 call hcall

section histories

variable {S : Type} {append_signal : AppendSignal S}
  {Keeps : S → AppendLog signalRecords.ids → Prop} {store : S} {l : AppendLog signalRecords.ids}

/-- **Run lemma**: each recording goes through exactly when each call is in
    order and fits the log before it. -/
theorem recordsEach_iff (hk : KeepsLog append_signal Keeps) (h : Keeps store l)
    (calls : List RunCall) : RecordsEach append_signal store calls ↔ ClearEach l calls := by
  induction calls generalizing store l with
  | nil => exact Iff.rfl
  | cons call calls ih =>
    have hfirst : (recordRun append_signal call store).1 = true ↔
        call.InOrder ∧ l.Fits call.signals ∧
          Keeps (recordRun append_signal call store).2 (l.appendAll call.signals) := by
      rw [← AppendLog.takesAll_iff_fits (nodup_signals call), ← recordRun_eq_true_iff hk h]
      exact ⟨fun hok => Prod.ext hok rfl, congrArg Prod.fst⟩
    constructor
    · rintro ⟨hok, _, hrest⟩
      obtain ⟨hinorder, hfits, hkeeps⟩ := hfirst.mp hok
      exact ⟨hinorder, hfits, (ih hkeeps).mp hrest⟩
    · rintro ⟨hinorder, hfits, hrest⟩
      have htakes := (AppendLog.takesAll_iff_fits (nodup_signals call)).mpr hfits
      obtain ⟨final, hfinal⟩ := exists_recorded hk h hinorder htakes
      obtain ⟨-, -, hkeeps⟩ := (recordRun_eq_true_iff hk h).mp hfinal
      rw [RecordsEach, hfinal]
      exact ⟨rfl, recordRun_again hk hkeeps hinorder (AppendLog.onFile_of_takesAll htakes),
        (ih hkeeps).mpr hrest⟩

theorem lawfulHistory_iff (hk : KeepsLog append_signal Keeps) (h : Keeps store l)
    (calls : List RunCall) : LawfulHistory append_signal store calls ↔ ClearHistory l calls := by
  have hnames (hinorder : ∀ call ∈ calls, call.InOrder) {call call' : RunCall} (hc : call ∈ calls)
      (hc' : call' ∈ calls) :
      NeverCollide call.names call'.names ↔ Apart call.names call'.names :=
    neverCollide_iff (hinorder call hc).agent_id (hinorder call hc).run_id
      (hinorder call' hc').agent_id (hinorder call' hc').run_id
  constructor
  · intro hlawful
    have heach := (recordsEach_iff hk h calls).mp hlawful.each
    exact ⟨heach, fun call hc call' hc' hne =>
      (hnames heach.inOrder hc hc').mp (hlawful.apart call hc call' hc' hne)⟩
  · intro hclear
    exact ⟨(recordsEach_iff hk h calls).mpr hclear.each, fun call hc call' hc' hne =>
      (hnames hclear.each.inOrder hc hc').mpr (hclear.apart call hc call' hc' hne)⟩

end histories

/-- **When a history of recordings is lawful**: after any signals that were
    appended before, in either store. -/
theorem recordings_lawful_iff (prior : List LearningSignal) (calls : List RunCall) :
    (LawfulHistory InMemoryLearningStore.appendSignal
        (InMemoryLearningStore.appendEach InMemoryLearningStore.empty.signals prior) calls ↔
      ClearHistory (logEach AppendLog.empty prior) calls) ∧
    (LawfulHistory SQLiteLearningStore.appendSignal
        (SQLiteLearningStore.appendEach SQLiteLearningStore.empty.learning_signals prior) calls ↔
      ClearHistory (logEach AppendLog.empty prior) calls) := by
  have hholds : Holds LearningSignal.text LearningSignal.Sealed
      (InMemoryLearningStore.appendEach InMemoryLearningStore.empty.signals prior)
      (SQLiteLearningStore.appendEach SQLiteLearningStore.empty.learning_signals prior)
      (logEach AppendLog.empty prior) := holds_appendEach holds_empty
  exact ⟨lawfulHistory_iff InMemoryLearningStore.keepsLog hholds.dicts calls,
    lawfulHistory_iff SQLiteLearningStore.keepsLog ⟨hholds.rows, hholds.all_sealed⟩ calls⟩

/-- The run `r` of the agent `a`, observed with a status. -/
def observedAs (status : RunStatus) : RunCall where
  agent_id := "a"
  result := {
    run_id := "r"
    status
    final_text := none
    tool_calls := 0
    model_turns := 0
    events := []
    metadata := PyDict.empty }
  observed_at := .finite (Decimal.ofInt 0 0)

/-- A run that was in flight when it was first recorded cannot be recorded as
    completed. -/
theorem completion_blocked : ¬ ∀ (prior : List LearningSignal) (calls : List RunCall),
    LawfulHistory InMemoryLearningStore.appendSignal
      (InMemoryLearningStore.appendEach InMemoryLearningStore.empty.signals prior) calls := by
  intro h
  have hlawful := h [] [observedAs .executionInFlight, observedAs .completed]
  have hempty : InLog InMemoryLearningStore.empty.signals AppendLog.empty := TwoDicts.keeps_empty
  obtain ⟨-, hfits, -, hlater, -⟩ := (recordsEach_iff InMemoryLearningStore.keepsLog hempty _).mp
    hlawful.each
  have hfile := AppendLog.onFile_of_takesAll
    ((AppendLog.takesAll_iff_fits (nodup_signals (observedAs .executionInFlight))).mpr hfits)
  obtain ⟨x, hx, hdigest⟩ := hfile _ List.mem_cons_self
  obtain ⟨hmem, hkey⟩ := AppendLog.ofKey_eq_some hx
  have hagree := hlater.agree _ List.mem_cons_self x hmem (hkey.trans rfl)
  have hsame : (observedAs .executionInFlight).outcome.idempotency_digest =
      (observedAs .completed).outcome.idempotency_digest := hdigest.symm.trans hagree
  revert hsame
  decide +kernel

end CBrain.Insights

import CBrain.Agent.Traces

/-! # Evidence in completion requests

    How often the evidence of a run occurs in the requests of a call, for any
    number of calls, crashes and resumes.

    A call appends the evidence it retrieved to the messages it starts with,
    and every later checkpoint of the call saves them with it.  A call that
    resumes such a record appends the evidence again, at once or after the
    pending tool.  So what a call adds is always one copy, and what it sends
    depends on the copies it started with. -/

namespace CBrain

open Effect
open Json (Dict)

/-! ## Section 1: Copies -/

/-- How often the stored messages of a record contain the evidence. -/
def StoredRunRecord.copies (evidence : Message) (r : StoredRunRecord) : Nat :=
  match deserializeMessages r.messages with
  | .ok messages => messages.count evidence
  | .error _ => 0

theorem copies_of {evidence : Message} {r : StoredRunRecord} {messages : List Message}
    (h : deserializeMessages r.messages = .ok messages) :
    r.copies evidence = messages.count evidence := by
  unfold StoredRunRecord.copies
  rw [h]

theorem copies_serialized {evidence : Message} {r : StoredRunRecord} {messages : List Message}
    (h : r.messages = messages.map serializeMessage) :
    r.copies evidence = messages.count evidence := by
  apply copies_of
  rw [h]
  exact deserializeMessages_serialized messages

theorem copies_sameText {evidence : Message} {r s : StoredRunRecord} (h : r.SameText s) :
    r.copies evidence = s.copies evidence :=
  h.field (StoredRunRecord.copies evidence) fun _ => rfl

/-- Evidence is a user message, so neither a call nor a result is evidence. -/
theorem count_other {evidence message : Message} (hevidence : evidence.role = .user)
    (h : message.role ≠ .user) (messages : List Message) :
    (messages ++ [message]).count evidence = messages.count evidence := by
  have hne : message ≠ evidence := by
    intro heq
    rw [heq] at h
    exact h hevidence
  rw [List.count_append, List.count_singleton]
  simp [hne]

theorem count_evidence (evidence : Message) (messages : List Message) :
    (messages ++ [evidence]).count evidence = messages.count evidence + 1 := by
  rw [List.count_append, List.count_singleton_self]

theorem text_role {role : MessageRole} {content : String} {message : Message}
    (h : Message.text role content = .ok message) : message.role = role := by
  unfold Message.text Message.new at h
  split at h
  · obtain rfl := Except.ok.inj h
    rfl
  · cases h

/-! ## Section 2: What a call adds -/

/-- What each phase of a call holds when the call started with `k` copies and
    `found` is the evidence it retrieved. -/
def Phase.Counts (evidence : Message) (k : Nat) (found : Option Message) : Phase → Prop
  | .held r | .claimed r true | .executed r _ true | .completed r true => r.copies evidence = k
  | .asked _ messages => messages.count evidence = k + 1
  | .turned r | .prepared r | .claimed r false | .executed r _ false | .completed r false =>
    r.copies evidence = k + 1
  | .advanced r => found = some evidence → r.copies evidence = k + 1
  | .start | .absent | .lost | .over => True

variable {T : Type}

/-- The knowledge runtime answers every retrieval of the call with `text`. -/
def Retrieves (text : String) (past : List AgentSig.Event) : Prop :=
  ∀ q x, (⟨.retrieve q, x⟩ : AgentSig.Event) ∈ past → x = .ok text

/-- The evidence in the history of a call. -/
structure CountsEvidence (evidence : Message) (text : String) (past : List AgentSig.Event) : Prop where
  starts : Starts past
  retrieved : ∀ x, (callView past).retrieved = some x → x = .ok text
  counts : ∀ r, (callView past).phase.record? = some r → ∃ r₀, startedFrom past = some r₀ ∧
    (callView past).phase.Counts evidence (r₀.copies evidence) (callView past).evidence
  requests : ∀ route messages tools n x,
    (⟨.complete route messages tools n, x⟩ : AgentSig.Event) ∈ past →
    ∃ r₀, startedFrom past = some r₀ ∧ messages.count evidence = r₀.copies evidence + 1

/-- The condition on calls; nothing is required of records. -/
def evidenceCondition (evidence : Message) (text : String) : Condition T where
  J := fun _ => True
  K := fun _ past => CountsEvidence evidence text past
  G := fun _ past => Retrieves text past
  reloaded := fun _ _ => trivial
  claimed := fun _ _ _ => trivial
  start := fun _ =>
    { starts := starts_nil
      retrieved := fun _ h => nomatch h
      counts := fun _ h => nomatch h
      requests := fun _ _ _ _ _ h => nomatch h }
  earlier := fun _ _ _ h q x hq => h q x (List.mem_append_left _ hq)

/-- The history after one more operation: what it starts from is settled, the
    counts carry over, and a request has the copies it should have. -/
theorem CountsEvidence.snoc {a : FoundationAgent} {input : RunInput} {evidence : Message}
    {text : String} {past : List AgentSig.Event} {o : AgentOp} {x : o.Ans}
    (h : CountsEvidence evidence text past) (hallows : Worker.Allows a input (callView past) o)
    (hretrieved : ∀ y, (Worker.next (callView past) o x).retrieved = some y → y = .ok text)
    (hcounts : ∀ r, (Worker.next (callView past) o x).phase.record? = some r →
      (Worker.next (callView past) o x).phase = .held r ∨
        ∃ r', (callView past).phase.record? = some r' ∧
          ∀ k, (callView past).phase.Counts evidence k (callView past).evidence →
            (Worker.next (callView past) o x).phase.Counts evidence k
              (Worker.next (callView past) o x).evidence)
    (hrequest : ∀ route messages tools n y,
      (⟨o, x⟩ : AgentSig.Event) = ⟨.complete route messages tools n, y⟩ →
      ∃ r₀, startedFrom past = some r₀ ∧ messages.count evidence = r₀.copies evidence + 1) :
    CountsEvidence evidence text (past ++ [⟨o, x⟩]) := by
  have hstarts := h.starts.snoc (x := x) hallows
  refine ⟨hstarts, ?_, ?_, ?_⟩
  · rw [callView_snoc]
    exact hretrieved
  · rw [callView_snoc]
    intro r hr
    rcases hcounts r hr with hheld | ⟨r', hr', hkept⟩
    · -- A call that has just started holds the record it started from.
      have hstarted := hstarts.held r (by rw [callView_snoc]; exact hheld)
      refine ⟨r, hstarted, ?_⟩
      rw [hheld]
      rfl
    · obtain ⟨r₀, hr₀, hcount⟩ := h.counts r' hr'
      exact ⟨r₀, startedFrom_earlier hr₀, hkept _ hcount⟩
  · intro route messages tools n y hmem
    rcases List.mem_append.mp hmem with hmem | hmem
    · obtain ⟨r₀, hr₀, hcount⟩ := h.requests route messages tools n y hmem
      exact ⟨r₀, startedFrom_earlier hr₀, hcount⟩
    · have hlast := List.mem_singleton.mp hmem
      obtain ⟨r₀, hr₀, hcount⟩ := hrequest route messages tools n y hlast.symm
      exact ⟨r₀, startedFrom_earlier hr₀, hcount⟩

/-- **Checkpoint lemma**: what each save does to the copies. -/
theorem counts_checkpoint {a : FoundationAgent} {input : RunInput} {v : WorkerView}
    {evidence : Message} {r r' : StoredRunRecord} {k : Nat} (hevidence : evidence.role = .user)
    (hcounts : v.phase.Counts evidence k v.evidence) (hcheckpoint : Checkpoint a input v r r') :
    (v.phase.saved { r' with version := r.version + 1 }).Counts evidence k v.evidence := by
  cases hcheckpoint with
  | @turn es ms hasked hstate hstep =>
    -- The messages that were sent are saved.
    rw [hasked] at hcounts ⊢
    have hsaved : (turnRecord r es ms).copies evidence = ms.count evidence :=
      copies_serialized rfl
    exact hsaved.trans hcounts
  | @prepare es ms tool call timestamp action hturned hstate hmessages hroom hhistory haction =>
    rw [hturned] at hcounts ⊢
    have hheld : r.copies evidence = k + 1 := hcounts
    have hsaved : (preparedRecord a r es ms tool call (requestIdFor a r) action.timestamp).copies
        evidence = (ms ++ [call.asMessage]).count evidence := copies_serialized rfl
    have hcall : call.asMessage.role ≠ .user := by
      show MessageRole.assistant ≠ .user
      decide
    rw [copies_of hmessages] at hheld
    rw [count_other hevidence hcall, hheld] at hsaved
    exact hsaved
  | @complete es ms execution resumed hexecuted hstate hmessages =>
    have hsaved : (completedRecord r es ms execution).copies evidence = r.copies evidence := by
      rw [copies_of hmessages]
      exact copies_serialized rfl
    rw [hexecuted] at hcounts ⊢
    cases resumed with
    | true => exact hsaved.trans hcounts
    | false => exact hsaved.trans hcounts
  | @advance es ms message call resumed hcompleted hstate hcall hresult =>
    have hsaved : (advancedRecord r es (ms ++ [message] ++ appended v resumed)).copies evidence =
        (ms ++ [message] ++ appended v resumed).count evidence := copies_serialized rfl
    have hrole : message.role ≠ .user := by
      rw [hresult.1]
      decide
    have hms : ms.count evidence = r.copies evidence := (copies_of hcall.1).symm
    -- What was there, and the evidence if the step was resumed.
    have htotal : v.evidence = some evidence → (resumed = true → r.copies evidence = k) →
        (resumed = false → r.copies evidence = k + 1) →
        (advancedRecord r es (ms ++ [message] ++ appended v resumed)).copies evidence = k + 1 := by
      intro hfound hresumed hfresh
      rw [hsaved]
      cases resumed with
      | true =>
        have happended : appended v true = [evidence] := by
          unfold appended
          rw [if_pos rfl, hfound]
          rfl
        rw [happended, count_evidence, count_other hevidence hrole, hms, hresumed rfl]
      | false =>
        have happended : appended v false = [] := rfl
        rw [happended, List.append_nil, count_other hevidence hrole, hms, hfresh rfl]
    rcases hcompleted with hp | ⟨hp, hresumed⟩
    · rw [hp] at hcounts ⊢
      intro hfound
      apply htotal hfound
      · intro h
        rw [h] at hcounts
        exact hcounts
      · intro h
        rw [h] at hcounts
        exact hcounts
    · rw [hp] at hcounts ⊢
      intro hfound
      apply htotal hfound
      · intro _
        exact hcounts
      · intro h
        rw [hresumed] at h
        cases h
  | @terminal es ms status final_text metadata hend hstate =>
    rw [Phase.saved_terminal _ (terminalState_isTerminal status)]
    trivial

theorem evidenceCondition_kept {evidence : Message} {text : String} (w : Workers T)
    (htext : Message.text .user text = .ok evidence)
    (hconsults : ∀ t, Consults (w.agent t) (w.input t) = true) :
    (evidenceCondition evidence text).KeptBy w := by
  have hevidence := text_role htext
  apply Condition.KeptBy.of
  · intro t past r hK hphase hopening _
    have hallows : Worker.Allows (w.agent t) (w.input t) (callView past) (.create r) :=
      ⟨hphase, hopening⟩
    refine ⟨trivial, hK.snoc hallows hK.retrieved ?_ ?_⟩
    · intro r' hr'
      obtain rfl := Option.some.inj hr'
      exact Or.inl rfl
    · intro _ _ _ _ _ heq
      cases heq
  · intro t past r r' hK hrecord _ hcheckpoint
    have hallows : Worker.Allows (w.agent t) (w.input t) (callView past) (.save r' r.version) :=
      ⟨r, hrecord, rfl, hcheckpoint⟩
    refine ⟨trivial, hK.snoc hallows hK.retrieved ?_ ?_⟩
    · intro _ _
      refine Or.inr ⟨r, hrecord, ?_⟩
      intro k hcounts
      exact counts_checkpoint hevidence hcounts hcheckpoint
    · intro _ _ _ _ _ heq
      cases heq
  · intro t past r claimed hK hphase hstate _ hsame
    have hallows : Worker.Allows (w.agent t) (w.input t) (callView past)
        (.claim r.run_id r.version) := ⟨r, hphase, hstate, rfl, rfl⟩
    have hcopies : claimed.copies evidence = r.copies evidence :=
      copies_sameText (s := r.inFlight (r.version + 1)) hsame
    have hrecord : (callView past).phase.record? = some r := by
      rcases hphase with hp | hp <;> rw [hp] <;> rfl
    refine hK.snoc hallows ?_ ?_ ?_
    · intro y hy
      apply hK.retrieved
      rcases hphase with hp | hp <;> simpa [Worker.next, hp] using hy
    · intro _ _
      refine Or.inr ⟨r, hrecord, ?_⟩
      intro k hcounts
      rcases hphase with hp | hp
      · rw [hp] at hcounts
        simpa [Worker.next, hp, Phase.Counts, hcopies] using hcounts
      · rw [hp] at hcounts
        simpa [Worker.next, hp, Phase.Counts, hcopies] using hcounts
    · intro _ _ _ _ _ heq
      cases heq
  · intro t past o x hK hheld hnone hallows _ hgood
    -- Most answers change nothing that is counted.
    have hquiet (hview : Worker.next (callView past) o x = callView past) (hasks : o.asks = false) :
        CountsEvidence evidence text (past ++ [⟨o, x⟩]) := by
      apply hK.snoc hallows
      · rw [hview]
        exact hK.retrieved
      · rw [hview]
        intro r hr
        exact Or.inr ⟨r, hr, fun _ hcounts => hcounts⟩
      · intro _ _ _ _ _ heq
        obtain ⟨rfl, -⟩ := Sigma.mk.inj heq
        cases hasks
    cases o with
    | clock | wallClock | cancelled | newRunId => exact hquiet rfl rfl
    | retrieve q =>
      obtain ⟨r, hphase⟩ := hallows
      have hx : x = .ok text := hgood q x (by simp)
      have hallows : Worker.Allows (w.agent t) (w.input t) (callView past) (.retrieve q) := ⟨r, hphase⟩
      refine hK.snoc hallows ?_ ?_ ?_
      · intro y hy
        obtain rfl := Option.some.inj hy
        exact hx
      · intro r' hr'
        left
        have hsame : (callView past).phase.record? = some r' := hr'
        show (callView past).phase = .held r'
        rw [hphase] at hsame ⊢
        rw [Option.some.inj hsame]
      · intro _ _ _ _ _ heq
        cases heq
    | complete route ms tools n =>
      have hallowed := hallows
      obtain ⟨⟨r, -, -, hcontext⟩, hasked⟩ := hallows
      have hfound : (callView past).evidence = some evidence := by
        obtain ⟨answer, hanswer⟩ := Option.isSome_iff_exists.mp (hasked (hconsults t))
        have hok := hK.retrieved answer hanswer
        unfold WorkerView.evidence
        rw [hanswer, hok]
        show (Message.text .user text).toOption = some evidence
        rw [htext]
        rfl
      have hrecord : (callView past).phase.record? = some r := by
        rcases hcontext with ⟨hp, -⟩ | ⟨hp, -⟩ <;> rw [hp] <;> rfl
      -- The first request of a call appends the evidence, a later one has it already.
      have hsent (k : Nat) (hcounts : (callView past).phase.Counts evidence k (callView past).evidence) :
          ms.count evidence = k + 1 := by
        rcases hcontext with ⟨hp, stored, hstored, hms⟩ | ⟨hp, hms⟩
        · rw [hp] at hcounts
          have hheld : r.copies evidence = k := hcounts
          rw [hms, hfound, Option.toList_some, count_evidence, ← copies_of hstored, hheld]
        · rw [hp] at hcounts
          rw [← copies_of hms]
          exact hcounts hfound
      refine hK.snoc hallowed ?_ ?_ ?_
      · intro y hy
        apply hK.retrieved y
        cases x with
        | error e => exact hy
        | ok output => simpa [Worker.next, hrecord] using hy
      · intro r' hr'
        refine Or.inr ⟨r, hrecord, ?_⟩
        intro k hcounts
        cases x with
        | error e => exact hcounts
        | ok output => simpa [Worker.next, hrecord, Phase.Counts] using hsent k hcounts
      · intro _ _ _ _ _ heq
        obtain ⟨ho, -⟩ := Sigma.mk.inj heq
        obtain ⟨-, rfl, -, -⟩ := AgentOp.complete.inj ho
        obtain ⟨r₀, hr₀, hcounts⟩ := hK.counts r hrecord
        exact ⟨r₀, hr₀, hsent _ hcounts⟩
    | execute action tool =>
      have hallowed := hallows
      obtain ⟨r, resumed, hp, -⟩ := hallows
      refine hK.snoc hallowed ?_ ?_ ?_
      · intro y hy
        apply hK.retrieved y
        simpa [Worker.next, hp] using hy
      · intro r' hr'
        refine Or.inr ⟨r, by rw [hp]; rfl, ?_⟩
        intro k hcounts
        rw [hp] at hcounts
        cases resumed <;> simpa [Worker.next, hp, Phase.Counts] using hcounts
      · intro _ _ _ _ _ heq
        cases heq
    | create r =>
      cases x with
      | error e => exact hquiet rfl rfl
      | ok u => cases hnone
    | save r n =>
      cases x with
      | error e => exact hquiet rfl rfl
      | ok saved => cases hnone
    | claim run_id n =>
      cases x with
      | error e => exact hquiet rfl rfl
      | ok answer =>
        cases answer with
        | none =>
          refine hK.snoc hallows hK.retrieved ?_ ?_
          · intro _ hr'
            cases hr'
          · intro _ _ _ _ _ heq
            cases heq
        | some claimed => cases hnone
    | load run_id =>
      have hview : (Worker.next (callView past) (.load run_id) x).retrieved =
          (callView past).retrieved := by
        rcases hallows with hp | hp <;> cases x <;> simp [Worker.next, hp]
      refine hK.snoc hallows ?_ ?_ ?_
      · rw [hview]
        exact hK.retrieved
      · intro r' hr'
        left
        -- Only the first load gives a record, and the call then holds it.
        rcases hallows with hp | hp
        · cases x with
          | error e => simp [Worker.next, hp, Phase.record?] at hr'
          | ok r => simpa [Worker.next, hp, Phase.record?] using hr'
        · cases x <;> simp [Worker.next, hp, Phase.record?] at hr'
      · intro _ _ _ _ _ heq
        cases heq

/-! ## Section 3: Runs -/

/-- **Every request contains the evidence exactly once** if and only if no call
    that sends a request started from a record that had a copy already. -/
theorem evidence_once_iff [DecidableEq T] {w : Workers T} {store : LawfulRunStore}
    {c : Config AgentSig T store.State (Except Exn RunResult)} (hc : w.Reachable store c)
    {text : String} {evidence : Message} (htext : Message.text .user text = .ok evidence)
    (hconsults : ∀ t, Consults (w.agent t) (w.input t) = true)
    (hretrieves : ∀ t q x, (t, ⟨.retrieve q, x⟩) ∈ c.log → x = .ok text) :
    (∀ t route messages tools n x, (t, ⟨.complete route messages tools n, x⟩) ∈ c.log →
        messages.count evidence = 1) ↔
      ∀ t r, startedFrom (ofThread t c.log) = some r →
        (∃ e ∈ ofThread t c.log, e.1.asks = true) → r.copies evidence = 0 := by
  have hgood : ∀ t, Retrieves text (ofThread t c.log) := by
    intro t q x hmem
    exact hretrieves t q x (mem_ofThread.mp hmem)
  obtain ⟨m, -, hholds⟩ := hc.holds (evidenceCondition_kept w htext hconsults)
  obtain ⟨-, hcalls⟩ := hholds.good hgood
  have hrequests (t : T) := (hcalls t).1.requests
  constructor
  · intro honce t r hr hasks
    obtain ⟨⟨o, x⟩, hmem, hask⟩ := hasks
    cases o with
    | complete route messages tools n =>
      obtain ⟨r₀, hr₀, hcount⟩ := hrequests t route messages tools n x hmem
      rw [hr] at hr₀
      obtain rfl := Option.some.inj hr₀
      have hone := honce t route messages tools n x (mem_ofThread.mp hmem)
      omega
    | _ => cases hask
  · intro hfresh t route messages tools n x hmem
    have hmem' := mem_ofThread.mpr hmem
    obtain ⟨r₀, hr₀, hcount⟩ := hrequests t route messages tools n x hmem'
    have hzero := hfresh t r₀ hr₀ ⟨_, hmem', rfl⟩
    omega

/-! ## Section 4: Evidence sent twice -/

/-- What the knowledge runtime of the example quotes. -/
def soloEvidence : Message :=
  ⟨.user, "Evidence: greet with your name.", none, none, none, by decide⟩

theorem soloEvidence_text :
    Message.text .user "Evidence: greet with your name." = .ok soloEvidence := rfl

/-- Metadata that names what the knowledge runtime asks for. -/
def soloMetadata : PyDict :=
  PyDict.ofDict (object [("tenant_id", .str "acme"), ("collection_id", .str "manual"),
    ("principal_id", .str "ada")])

/-- What the call asks the knowledge runtime. -/
def soloRequest : RetrievalRequest where
  tenant_id := "acme"
  collection_id := "manual"
  principal_id := "ada"
  text := "Greet."
  created_at := 0

theorem soloMetadata_text :
    (soloMetadata.get "tenant_id").text? = some "acme" ∧
      (soloMetadata.get "collection_id").text? = some "manual" ∧
      (soloMetadata.get "principal_id").text? = some "ada" := ⟨rfl, rfl, rfl⟩

/-- A solo run with evidence. -/
def soloKnowing : SoloRun where
  knowledge := true
  metadata := some soloMetadata
  evidence := some soloEvidence
  retrieval := [event .wallClock 0,
    event (.retrieve soloRequest) (.ok "Evidence: greet with your name.")]
  retrieves := by
    obtain ⟨htenant, hcollection, hprincipal⟩ := soloMetadata_text
    have hmetadata : (soloInput (some soloMetadata)).metadataDict = soloMetadata := rfl
    have hknowledge : ¬ (soloAgent true).knowledge = false := by decide
    unfold knowledgeContext
    simp only [hmetadata, htenant, hcollection, hprincipal, if_neg hknowledge]
    apply succeeds_ask
    apply succeeds_ask
    apply succeeds_raising soloEvidence_text
    exact Fallible.Succeeds.ofPure _
  quiet := by simp [event, AgentOp.usesStore]

theorem soloKnowing_consults (t : Nat) :
    Consults (soloKnowing.workers.agent t) (soloKnowing.workers.input t) = true := by
  obtain ⟨htenant, hcollection, hprincipal⟩ := soloMetadata_text
  show Consults (soloAgent true) (soloInput (some soloMetadata)) = true
  have hmetadata : (soloInput (some soloMetadata)).metadataDict = soloMetadata := rfl
  have hknowledge : (soloAgent true).knowledge = true := rfl
  unfold Consults
  rw [hmetadata, hknowledge, htenant, hcollection, hprincipal]
  rfl

/-- Both calls retrieve the same evidence. -/
theorem soloKnowing_retrieves (t : Nat) (q : RetrievalRequest) (x : Raises String)
    (h : (t, (⟨.retrieve q, x⟩ : AgentSig.Event)) ∈
      soloKnowing.first.map (fun e => (0, e)) ++ soloKnowing.second.map (fun e => (1, e))) :
    x = .ok "Evidence: greet with your name." := by
  simp [SoloRun.first, SoloRun.second, firstTurnEvents, resumedTurnEvents, turnEvents, soloKnowing,
    event] at h
  rcases h with ⟨-, -, hx⟩ | ⟨-, -, hx⟩
  · exact hx
  · exact hx

/-- The second call sends the evidence twice. -/
theorem soloKnowing_sent_twice :
    ∃ c : Config AgentSig Nat lawfulInMemory.State (Except Exn RunResult),
      soloKnowing.workers.Reachable lawfulInMemory c ∧
      (∀ t, Consults (soloKnowing.workers.agent t) (soloKnowing.workers.input t) = true) ∧
      (∀ t q x, (t, ⟨.retrieve q, x⟩) ∈ c.log → x = .ok "Evidence: greet with your name.") ∧
      ∃ t route messages tools n x, (t, ⟨.complete route messages tools n, x⟩) ∈ c.log ∧
        messages.count soloEvidence = 2 := by
  obtain ⟨c, hc, -, hlog⟩ := soloKnowing.resumed_reachable
  refine ⟨c, hc, soloKnowing_consults, ?_, 1, soloProfile.model_route,
    (soloKnowing.resumed.withEvidence (some soloEvidence)).messages, [lookDefinition],
    soloProfile.limits.max_output_tokens, .ok soloOutput, ?_, ?_⟩
  · rw [hlog]
    exact soloKnowing_retrieves
  · rw [hlog]
    exact List.mem_append_right _ (List.mem_map_of_mem soloKnowing.request_mem_second)
  · have htwice : (soloKnowing.resumed.withEvidence (some soloEvidence)).messages =
        soloOpening ++ [soloEvidence] ++ [soloEvidence] := rfl
    rw [htwice]
    decide

theorem evidence_once_soloKnowing :
    ∃ c : Config AgentSig Nat lawfulInMemory.State (Except Exn RunResult),
      soloKnowing.workers.Reachable lawfulInMemory c ∧
      ∀ t route messages tools n x, (t, ⟨.complete route messages tools n, x⟩) ∈ c.log →
        messages.count soloEvidence = 1 := by
  obtain ⟨c, hc, -, hlog, -⟩ := soloKnowing.first_reachable
  have hretrieves : ∀ t q x, (t, ⟨.retrieve q, x⟩) ∈ c.log →
      x = .ok "Evidence: greet with your name." := by
    intro t q x hmem
    rw [hlog] at hmem
    exact soloKnowing_retrieves t q x (List.mem_append_left _ hmem)
  refine ⟨c, hc,
    (evidence_once_iff hc soloEvidence_text soloKnowing_consults hretrieves).mpr ?_⟩
  intro t r hr _
  rw [hlog] at hr
  by_cases ht : t = 0
  · -- The only call that ran had created its run.
    subst ht
    rw [ofThread_map_self] at hr
    have hcreated : createdRecord soloKnowing.agent soloKnowing.input "run" soloOpening = r :=
      Option.some.inj hr
    rw [← hcreated]
    have hopening : (createdRecord soloKnowing.agent soloKnowing.input "run" soloOpening).copies
        soloEvidence = soloOpening.count soloEvidence := copies_serialized rfl
    rw [hopening]
    decide
  · rw [ofThread_map_other ht] at hr
    cases hr

end CBrain

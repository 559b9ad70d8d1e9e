import CBrain.Agent.Traces

/-! # Histories in completion requests

    Every request of every run, ephemeral, durable or resumed, has a history
    in which each tool call is followed by its own result.

    A history is settled or awaits the result of its last call.  Both loops
    send settled histories only: a call is appended after `validate_history`
    accepted it, and the next message is its result.  A durable call that
    resumes reads the same messages back, and the evidence of a resumed tool
    is appended after the result. -/

namespace CBrain

open Effect
open Json (Dict)

/-! ## Section 1: Settled histories -/

/-- No call of the history waits for its result. -/
def Settled (messages : List Message) : Prop :=
  ∃ seen, HistoryState.run ⟨none, []⟩ messages = .ok ⟨none, seen⟩

/-- The history ends in a call that waits for its result. -/
def Awaits (call : ToolCall) (messages : List Message) : Prop :=
  ∃ seen, HistoryState.run ⟨none, []⟩ messages = .ok ⟨some call, seen⟩

theorem HistoryState.run_append (s : HistoryState) (l₁ l₂ : List Message) :
    s.run (l₁ ++ l₂) = s.run l₁ >>= fun s' => s'.run l₂ := by
  induction l₁ generalizing s with
  | nil => rfl
  | cons m l₁ ih =>
    show (s.next m >>= fun s' => s'.run (l₁ ++ l₂)) = (s.next m >>= fun s' => s'.run l₁) >>= _
    cases s.next m with
    | error e => rfl
    | ok s' => exact ih s'

theorem HistoryState.run_snoc {s s' : HistoryState} {messages : List Message}
    (h : s.run messages = .ok s') (m : Message) : s.run (messages ++ [m]) = s'.next m := by
  rw [HistoryState.run_append, h]
  show (s'.next m >>= fun s'' => .ok s'') = s'.next m
  cases s'.next m <;> rfl

theorem settled_iff {messages : List Message} :
    validateHistory messages false = .ok () ↔ Settled messages := by
  unfold validateHistory Settled
  constructor
  · intro h
    obtain ⟨⟨pending, seen⟩, hrun, h⟩ := bind_ok.mp h
    have hnone : pending = none ∨ false = true := require_ok.mp h
    obtain rfl : pending = none := by simpa using hnone
    exact ⟨seen, hrun⟩
  · rintro ⟨seen, hrun⟩
    rw [hrun]
    show require ((none : Option ToolCall) = none ∨ false = true)
      (modelContract "assistant tool call is missing its result") = .ok ()
    rw [require_ok]
    exact Or.inl rfl

/-- A message that is neither a call nor a result keeps a history settled. -/
theorem Settled.plain {messages : List Message} {m : Message} (h : Settled messages)
    (hrole : m.role ≠ .tool) (hcall : m.tool_call = none) : Settled (messages ++ [m]) := by
  obtain ⟨seen, hrun⟩ := h
  refine ⟨seen, ?_⟩
  rw [HistoryState.run_snoc hrun]
  unfold HistoryState.next
  rw [if_neg hrole, hcall]

/-- A call's own result settles the history. -/
theorem Awaits.result {messages : List Message} {call : ToolCall} {m : Message}
    (h : Awaits call messages) (hresult : IsResultOf m call) : Settled (messages ++ [m]) := by
  obtain ⟨seen, hrun⟩ := h
  obtain ⟨hrole, hid, hname⟩ := hresult
  refine ⟨seen, ?_⟩
  rw [HistoryState.run_snoc hrun]
  unfold HistoryState.next
  rw [if_pos hrole]
  exact if_pos ⟨hid, hname⟩

theorem Message.role_of_call {m : Message} {call : ToolCall} (h : m.tool_call = some call) :
    m.role = .assistant := by
  have hvalid := m.valid
  unfold Message.check at hvalid
  rw [h] at hvalid
  by_contra hrole
  simp only [require_bind_neg hrole] at hvalid
  cases hvalid

/-- A history that is accepted and ends in a call awaits its result. -/
theorem awaits_of_last {messages : List Message} {call : ToolCall}
    (hhistory : validateHistory messages true = .ok ())
    (hlast : messages.getLast?.bind Message.tool_call = some call) : Awaits call messages := by
  rcases List.eq_nil_or_concat messages with rfl | ⟨init, m, rfl⟩
  · cases hlast
  have hcall : m.tool_call = some call := by simpa using hlast
  have hrole : m.role ≠ .tool := by
    rw [Message.role_of_call hcall]
    decide
  unfold validateHistory at hhistory
  obtain ⟨s, hrun, -⟩ := bind_ok.mp hhistory
  have hsplit := HistoryState.run_append ⟨none, []⟩ init [m]
  rw [List.concat_eq_append] at hrun ⊢
  rw [hrun] at hsplit
  obtain ⟨⟨pending, seen⟩, hinit, hnext⟩ := bind_ok.mp hsplit.symm
  -- The call is only accepted when nothing waits and its id is new.
  have hstep : HistoryState.next ⟨pending, seen⟩ m = .ok s := by
    obtain ⟨s', hs', hs⟩ := bind_ok.mp hnext
    rw [hs']
    exact hs
  unfold HistoryState.next at hstep
  rw [if_neg hrole, hcall] at hstep
  cases pending with
  | some other => cases hstep
  | none =>
    by_cases hseen : call.call_id ∈ seen
    · simp only [if_pos hseen] at hstep
      cases hstep
    · simp only [if_neg hseen] at hstep
      obtain rfl := Except.ok.inj hstep
      exact ⟨_, hrun⟩

theorem text_plain {role : MessageRole} {content : String} {m : Message}
    (h : Message.text role content = .ok m) (hrole : role ≠ .tool) :
    m.role ≠ .tool ∧ m.tool_call = none := by
  unfold Message.text Message.new at h
  split at h
  · obtain rfl := Except.ok.inj h
    exact ⟨hrole, rfl⟩
  · cases h

theorem evidence_plain {v : WorkerView} {evidence : Message} (h : v.evidence = some evidence) :
    evidence.role ≠ .tool ∧ evidence.tool_call = none := by
  obtain ⟨answer, -, hanswer⟩ := Option.bind_eq_some_iff.mp h
  cases answer with
  | error e => cases hanswer
  | ok quoted_evidence =>
    cases htext : Message.text .user quoted_evidence with
    | error e =>
      simp only [evidenceOf, htext, Except.toOption] at hanswer
      cases hanswer
    | ok message =>
      simp only [evidenceOf, htext, Except.toOption] at hanswer
      obtain rfl := Option.some.inj hanswer
      exact text_plain htext (by decide)

theorem settled_opening {a : FoundationAgent} {input : RunInput} {opening : List Message}
    (h : openingMessages a input = .ok opening) : Settled opening ∧ opening ≠ [] := by
  unfold openingMessages at h
  obtain ⟨system, hsystem, h⟩ := bind_ok.mp h
  obtain ⟨user, huser, h⟩ := bind_ok.mp h
  obtain rfl := Except.ok.inj h
  obtain ⟨hrole, hcall⟩ := text_plain hsystem (by decide)
  obtain ⟨hrole', hcall'⟩ := text_plain huser (by decide)
  have hnil : Settled [] := ⟨[], rfl⟩
  exact ⟨(hnil.plain hrole hcall).plain hrole' hcall', by simp⟩

/-- Evidence keeps a history settled. -/
theorem Settled.evidence {messages : List Message} (h : Settled messages) {v : WorkerView} :
    Settled (messages ++ v.evidence.toList) := by
  cases hevidence : v.evidence with
  | none => simpa using h
  | some evidence =>
    obtain ⟨hrole, hcall⟩ := evidence_plain hevidence
    exact h.plain hrole hcall

/-! ## Section 2: Requests -/

/-- The messages of a request that is not refused for its history. -/
structure Sendable (messages : List Message) : Prop where
  nonempty : messages ≠ []
  settled : Settled messages

theorem Sendable.append {messages more : List Message} (h : Sendable messages)
    (hmore : Settled (messages ++ more)) : Sendable (messages ++ more) where
  nonempty := by
    have hne := h.nonempty
    simp [hne]
  settled := hmore

/-- What is left to refuse is the tools and the output limit. -/
theorem Sendable.check {messages : List Message} (h : Sendable messages)
    (tools : List ToolDefinition) (max_output_tokens : Nat) {e : Exn}
    (he : CompletionRequest.check messages tools max_output_tokens = .error e) :
    e = modelContract "tool names must be unique" ∨
      e = modelContract "max_output_tokens must be positive" := by
  have hcheck : CompletionRequest.check messages tools max_output_tokens = (do
      require ((tools.map ToolDefinition.name).Nodup) (modelContract "tool names must be unique")
      require (1 ≤ max_output_tokens) (modelContract "max_output_tokens must be positive")) := by
    unfold CompletionRequest.check
    rw [require_bind_pos h.nonempty, settled_iff.mpr h.settled]
    rfl
  rw [hcheck] at he
  by_cases hnames : (tools.map ToolDefinition.name).Nodup
  · rw [require_bind_pos hnames] at he
    unfold require at he
    by_cases htokens : 1 ≤ max_output_tokens
    · rw [if_pos htokens] at he
      cases he
    · rw [if_neg htokens] at he
      exact Or.inr (Except.error.inj he).symm
  · rw [require_bind_neg hnames] at he
    exact Or.inl (Except.error.inj he).symm

/-! ## Section 3: Durable calls -/

variable {T : Type}

/-- The stored messages of a running record may be sent. -/
def StoredRunRecord.HistorySettled (r : StoredRunRecord) : Prop :=
  r.durable_state = .running → ∃ messages, deserializeMessages r.messages = .ok messages ∧
    Sendable messages

/-- The history of a call: what was sent, and what it is about to save. -/
structure SendsSettled (past : List AgentSig.Event) : Prop where
  asked : ∀ r messages, (callView past).phase = .asked r messages → Sendable messages
  requests : ∀ route messages tools n x,
    (⟨.complete route messages tools n, x⟩ : AgentSig.Event) ∈ past → Sendable messages

/-- The condition on records and calls. -/
def historyCondition : Condition T where
  J := StoredRunRecord.HistorySettled
  K := fun _ past => SendsSettled past
  G := fun _ _ => True
  reloaded := fun _ h => h
  claimed := by
    intro r _ _ hs
    -- A claimed record is in flight.
    cases hs
  start := fun _ =>
    { asked := fun _ _ h => nomatch h
      requests := fun _ _ _ _ _ h => nomatch h }
  earlier := fun _ _ _ _ => trivial

theorem historySettled_opening {a : FoundationAgent} {input : RunInput} {r : StoredRunRecord}
    (h : Opening a input r) : r.HistorySettled := by
  obtain ⟨run_id, started, expires, opening, event, durable_input, -, hopening, -, -, rfl⟩ := h
  obtain ⟨hsettled, hnonempty⟩ := settled_opening hopening
  intro _
  exact ⟨opening, deserializeMessages_serialized opening, hnonempty, hsettled⟩

/-- **Checkpoint lemma**: a save leaves a running record with a settled
    history, or a record that is not running. -/
theorem historySettled_checkpoint {a : FoundationAgent} {input : RunInput} {v : WorkerView}
    {r r' : StoredRunRecord} (hasked : ∀ messages, v.phase = .asked r messages → Sendable messages)
    (hcheckpoint : Checkpoint a input v r r') :
    ({ r' with version := r.version + 1 } : StoredRunRecord).HistorySettled := by
  cases hcheckpoint with
  | @turn es ms hphase hstate hstep =>
    intro _
    exact ⟨ms, deserializeMessages_serialized ms, hasked ms hphase⟩
  | prepare =>
    intro hs
    cases hs
  | complete =>
    intro hs
    cases hs
  | @advance es ms message call resumed hphase hstate hcall hresult =>
    -- The result of the open call, then the evidence of a resumed step.
    intro _
    have hawaits := awaits_of_last hcall.2.2 hcall.2.1
    have hresulted : Settled (ms ++ [message]) := hawaits.result hresult
    have hsettled : Settled (ms ++ [message] ++ appended v resumed) := by
      cases resumed with
      | true => exact hresulted.evidence
      | false =>
        have hnone : appended v false = [] := rfl
        rw [hnone, List.append_nil]
        exact hresulted
    exact ⟨_, deserializeMessages_serialized _, by simp, hsettled⟩
  | @terminal es ms status final_text metadata hend hstate =>
    intro hs
    have hterminal := terminalState_isTerminal status
    have hrunning : terminalState status = .running := hs
    rw [hrunning] at hterminal
    cases hterminal

/-- Only a request leads to an answered request. -/
theorem asked_next {v : WorkerView} {o : AgentOp} {x : o.Ans} {r : StoredRunRecord}
    {messages : List Message} (ho : o.asks = false)
    (h : (Worker.next v o x).phase = .asked r messages) : v.phase = .asked r messages := by
  cases o with
  | clock | wallClock | cancelled | newRunId | retrieve _ => exact h
  | complete route ms tools n => cases ho
  | execute action tool =>
    cases hp : v.phase <;> simp [Worker.next, hp] at h ⊢
    exact h
  | create r' =>
    cases x with
    | error e => exact h
    | ok u => cases h
  | load run_id =>
    cases x <;> cases hp : v.phase <;> simp [Worker.next, hp] at h ⊢
    all_goals exact h
  | save r' n =>
    cases x with
    | error e => exact h
    | ok saved =>
      have hsaved : v.phase.saved saved = .asked r messages := h
      unfold Phase.saved at hsaved
      by_cases hterminal : saved.durable_state.isTerminal = true
      · rw [if_pos hterminal] at hsaved
        cases hsaved
      · rw [if_neg hterminal] at hsaved
        cases hp : v.phase <;> rw [hp] at hsaved <;> cases hsaved
  | claim run_id n =>
    cases x with
    | error e => exact h
    | ok answer =>
      cases answer with
      | none => cases h
      | some claimed =>
        cases hp : v.phase <;> simp [Worker.next, hp] at h

theorem SendsSettled.snoc {past : List AgentSig.Event} {o : AgentOp} {x : o.Ans}
    (h : SendsSettled past) (ho : o.asks = false) : SendsSettled (past ++ [⟨o, x⟩]) := by
  constructor
  · intro r messages hphase
    rw [callView_snoc] at hphase
    exact h.asked r messages (asked_next ho hphase)
  · intro route messages tools n y hmem
    rcases List.mem_append.mp hmem with hmem | hmem
    · exact h.requests route messages tools n y hmem
    · have hlast := List.mem_singleton.mp hmem
      obtain ⟨rfl, -⟩ := Sigma.mk.inj hlast
      cases ho

theorem SendsSettled.snoc_request {past : List AgentSig.Event} {route : String}
    {messages : List Message} {tools : List ToolDefinition} {n : Nat} {x : Raises ModelOutput}
    (h : SendsSettled past) (hsendable : Sendable messages) :
    SendsSettled (past ++ [⟨.complete route messages tools n, x⟩]) := by
  constructor
  · intro r ms hphase
    rw [callView_snoc] at hphase
    cases x with
    | error e => exact h.asked r ms hphase
    | ok output =>
      cases hr : (callView past).phase.record? with
      | none =>
        simp only [Worker.next, hr] at hphase
        exact h.asked r ms hphase
      | some r' =>
        simp only [Worker.next, hr] at hphase
        obtain ⟨-, rfl⟩ := Phase.asked.inj hphase
        exact hsendable
  · intro route' ms tools' n' y hmem
    rcases List.mem_append.mp hmem with hmem | hmem
    · exact h.requests route' ms tools' n' y hmem
    · have hlast := List.mem_singleton.mp hmem
      obtain ⟨ho, -⟩ := Sigma.mk.inj hlast
      obtain ⟨-, rfl, -, -⟩ := AgentOp.complete.inj ho
      exact hsendable

/-- What a call may send follows from the record it holds. -/
theorem sendable_of_mayAsk {a : FoundationAgent} {v : WorkerView} {messages : List Message}
    (hheld : ∀ r, v.phase.record? = some r → r.HistorySettled) (h : MayAsk a v messages) :
    Sendable messages := by
  obtain ⟨r, hrunning, -, hcontext⟩ := h
  rcases hcontext with ⟨hp, stored, hstored, rfl⟩ | ⟨hp, hstored⟩
  · obtain ⟨ms, hms, hsendable⟩ := hheld r (by rw [hp]; rfl) hrunning
    rw [hstored] at hms
    obtain rfl := Except.ok.inj hms
    exact hsendable.append hsendable.settled.evidence
  · obtain ⟨ms, hms, hsendable⟩ := hheld r (by rw [hp]; rfl) hrunning
    rw [hstored] at hms
    obtain rfl := Except.ok.inj hms
    exact hsendable

theorem historyCondition_kept (w : Workers T) : (historyCondition (T := T)).KeptBy w := by
  apply Condition.KeptBy.of
  · intro t past r hK hphase hopening _
    exact ⟨historySettled_opening hopening, hK.snoc rfl⟩
  · intro t past r r' hK hrecord _ hcheckpoint
    exact ⟨historySettled_checkpoint (fun messages hp => hK.asked r messages hp) hcheckpoint,
      hK.snoc rfl⟩
  · intro t past r claimed hK hphase hstate _ hsame
    exact hK.snoc rfl
  · intro t past o x hK hheld hnone hallows _ _
    cases o with
    | complete route messages tools n =>
      exact hK.snoc_request (sendable_of_mayAsk hheld hallows.1)
    | clock | wallClock | cancelled | newRunId | retrieve _ | execute _ _ | create _ | load _
    | save _ _ | claim _ _ => exact hK.snoc rfl

/-- **Durable calls send settled histories**, whatever interferes. -/
theorem durable_sendable [DecidableEq T] {w : Workers T} {store : LawfulRunStore}
    {c : Config AgentSig T store.State (Except Exn RunResult)} (hc : w.Reachable store c) {t : T}
    {route : String} {messages : List Message} {tools : List ToolDefinition} {n : Nat}
    {x : Raises ModelOutput} (h : (t, ⟨.complete route messages tools n, x⟩) ∈ c.log) :
    Sendable messages := by
  obtain ⟨m, -, hholds⟩ := hc.holds (historyCondition_kept w)
  obtain ⟨-, hcalls⟩ := hholds.good fun _ => trivial
  exact (hcalls t).1.requests route messages tools n x (mem_ofThread.mpr h)

/-! ## Section 4: Ephemeral runs -/

/-- The protocol that watches requests only. -/
def requestProtocol : Protocol AgentSig Unit where
  allows := fun _ o => ∀ route messages tools n, o = .complete route messages tools n →
    Sendable messages
  answers := fun _ _ _ => True
  next := fun _ _ _ => ()

/-- The program sends settled histories, and a value it returns satisfies `Q`. -/
def Sends {α : Type} (Q : α → Prop) (m : AgentM α) : Prop :=
  Fallible.Meets requestProtocol (fun _ => Q) (fun _ _ => True) () m

section rules

variable {α β : Type} {Q : α → Prop}

theorem Sends.ofPure {x : α} (h : Q x) : Sends Q (pure x) := h

theorem Sends.bind {R : β → Prop} {m : AgentM β} {f : β → AgentM α} (hm : Sends R m)
    (hf : ∀ x, R x → Sends Q (f x)) : Sends Q (m >>= f) :=
  Fallible.Meets.bind hm fun _ x hx => hf x hx

theorem Sends.raising {x : Raises β} {f : β → AgentM α} (hf : ∀ y, x = .ok y → Sends Q (f y)) :
    Sends Q (Fallible.raising x >>= f) := by
  cases hx : x with
  | error e => exact trivial
  | ok y => exact hf y hx

/-- Any operation but a request. -/
theorem Sends.quiet {o : AgentOp} {f : o.Ans → AgentM α} (ho : o.asks = false)
    (hf : ∀ x, Sends Q (f x)) : Sends Q (ask o >>= f) := by
  refine ⟨?_, fun x _ => hf x⟩
  rintro route messages tools n rfl
  cases ho

theorem Sends.request {route : String} {messages : List Message} {tools : List ToolDefinition}
    {n : Nat} {f : Raises ModelOutput → AgentM α} (h : Sendable messages)
    (hf : ∀ x, Sends Q (f x)) : Sends Q (ask (.complete route messages tools n) >>= f) := by
  refine ⟨?_, fun x _ => hf x⟩
  intro _ _ _ _ heq
  obtain ⟨-, rfl, -, -⟩ := AgentOp.complete.inj heq
  exact h

theorem Sends.ite {c : Prop} [Decidable c] {m₁ m₂ : AgentM α} (h₁ : c → Sends Q m₁)
    (h₂ : ¬ c → Sends Q m₂) : Sends Q (if c then m₁ else m₂) := by
  by_cases h : c
  · rw [if_pos h]
    exact h₁ h
  · rw [if_neg h]
    exact h₂ h

end rules

/-- An ephemeral run goes on with a history it may send. -/
def GoesOnSendable : RunResult ⊕ EphemeralState → Prop
  | .inl _ => True
  | .inr s => Sendable s.messages

section ephemeral

variable {a : FoundationAgent} {run : EphemeralRun} {step : Nat} {s : EphemeralState}

theorem sends_finish {status : RunStatus} {reason : Option String} :
    Sends GoesOnSendable (run.finish s status reason) := Sends.ofPure trivial

theorem sends_ephemeralObserve {call : ToolCall} {request_id : String}
    {execution : GovernedExecution} (h : Awaits call s.messages) :
    Sends GoesOnSendable (ephemeralObserve a run step call request_id s execution) := by
  unfold ephemeralObserve
  apply Sends.ite
  · intro _
    apply Sends.ite
    · intro _
      exact sends_finish
    · intro _
      apply Sends.quiet rfl
      intro timestamp
      generalize hnew : Message.new .tool (String.ofList (observationText request_id execution))
        (some call.call_id) (some call.name) none = result
      apply Sends.raising
      rintro message rfl
      apply Sends.ofPure
      have hresult : IsResultOf message call := isResultOf_new hnew
      exact ⟨by simp, h.result hresult⟩
  · intro _
    apply Sends.quiet rfl
    intro timestamp
    exact sends_finish

theorem sends_ephemeralCall {now : Decimal} {call : ToolCall} :
    Sends GoesOnSendable (ephemeralCall a run step now call s) := by
  unfold ephemeralCall
  apply Sends.ite
  · intro _
    exact sends_finish
  intro _
  apply Sends.ite
  · intro _
    exact sends_finish
  intro _
  apply Sends.ite
  · intro _
    exact sends_finish
  intro _
  apply Sends.raising
  intro tool _
  apply Sends.ite
  · intro _
    exact sends_finish
  intro _
  apply Sends.quiet rfl
  intro timestamp
  cases captureAction a tool run.run_id call (a.request_id_factory run.run_id step) timestamp with
  | error e => exact sends_finish
  | ok action =>
    cases hhistory : validateHistory (s.messages ++ [call.asMessage]) true with
    | error e =>
      simp only [hhistory]
      exact sends_finish
    | ok u =>
      simp only [hhistory]
      -- The call is open until its result is appended.
      have hawaits : Awaits call (s.messages ++ [call.asMessage]) := by
        apply awaits_of_last hhistory
        simp [ToolCall.asMessage]
      apply Sends.raising
      intro handler _
      apply Sends.quiet rfl
      intro execution
      exact sends_ephemeralObserve hawaits

theorem sends_ephemeralOutput {now : Decimal} {output : ModelOutput} :
    Sends GoesOnSendable (ephemeralOutput a run step now output s) := by
  unfold ephemeralOutput
  cases output with
  | text output =>
    apply Sends.ite
    · intro _
      exact sends_finish
    · intro _
      apply Sends.quiet rfl
      intro responded
      apply Sends.quiet rfl
      intro completed
      exact Sends.ofPure trivial
  | other => exact sends_finish
  | call call => exact sends_ephemeralCall

/-- **Step lemma**: an iteration sends what it started with, and leaves a
    history the next may send. -/
theorem sends_ephemeralStep (h : Sendable s.messages) :
    Sends GoesOnSendable (ephemeralStep a run step s) := by
  unfold ephemeralStep
  apply Sends.quiet rfl
  intro cancelled
  apply Sends.ite
  · intro _
    exact sends_finish
  intro _
  apply Sends.quiet rfl
  intro now
  apply Sends.ite
  · intro _
    exact sends_finish
  intro _
  apply Sends.ite
  · intro _
    exact sends_finish
  intro _
  apply Sends.request h
  intro answer
  cases answer with
  | error e =>
    apply Sends.ite
    · intro _
      exact sends_finish
    · intro _
      exact trivial
  | ok output =>
    apply Sends.quiet rfl
    intro cancelled
    apply Sends.ite
    · intro _
      exact sends_finish
    intro _
    apply Sends.quiet rfl
    intro later
    apply Sends.ite
    · intro _
      exact sends_finish
    · intro _
      exact sends_ephemeralOutput

/-- The loop: by induction on the steps left. -/
theorem sends_ephemeralLoop {n : Nat} (h : Sendable s.messages) :
    Sends (fun _ => True) (ephemeralLoop a run n step s) := by
  induction n generalizing step s with
  | zero => exact trivial
  | succ n ih =>
    apply Sends.bind (sends_ephemeralStep h)
    intro r hr
    cases r with
    | inl result => exact trivial
    | inr s' => exact ih hr

end ephemeral

theorem sends_knowledgeContext (a : FoundationAgent) (input : RunInput) :
    Sends (fun k : Option Message × Bool => ∀ m, k.1 = some m → m.role ≠ .tool ∧ m.tool_call = none)
      (knowledgeContext a input) := by
  unfold knowledgeContext
  apply Sends.ite
  · intro _ m hm
    cases hm
  · intro _
    dsimp only
    split
    · apply Sends.quiet rfl
      intro created_at
      apply Sends.quiet rfl
      intro answer
      cases answer with
      | error e =>
        intro m hm
        cases hm
      | ok quoted_evidence =>
        apply Sends.raising
        intro message hmessage m hm
        obtain rfl := Option.some.inj hm
        exact text_plain hmessage (by decide)
    · intro m hm
      cases hm

/-- **Ephemeral runs send settled histories**. -/
theorem runEphemeral_sends (a : FoundationAgent) (input : RunInput) :
    Sends (fun _ => True) (runEphemeral a input) := by
  have hid {α : Type} {Q : α → Prop} {f : String → AgentM α} (hf : ∀ run_id, Sends Q (f run_id)) :
      Sends Q (resolveRunId input >>= f) := by
    unfold resolveRunId
    cases input.run_id with
    | some run_id => exact hf run_id
    | none => exact Sends.quiet rfl hf
  unfold runEphemeral
  apply Sends.ite
  · intro _
    apply hid
    intro run_id
    exact Sends.ofPure trivial
  intro _
  apply hid
  intro run_id
  apply Sends.quiet rfl
  intro started_at
  apply Sends.raising
  intro opening hopening
  apply Sends.bind (sends_knowledgeContext a input)
  rintro ⟨knowledge_message, knowledge_tools_blocked⟩ hknowledge
  obtain ⟨hsettled, hnonempty⟩ := settled_opening hopening
  have hsendable : Sendable (opening ++ knowledge_message.toList) := by
    refine ⟨by simp [hnonempty], ?_⟩
    cases knowledge_message with
    | none => simpa using hsettled
    | some evidence =>
      obtain ⟨hrole, hcall⟩ := hknowledge evidence rfl
      exact hsettled.plain hrole hcall
  cases hdefinitions : a.tools.definitionsFor a.profile.permitted_tools with
  | error e =>
    apply Sends.ite
    · intro _
      exact Sends.ofPure trivial
    · intro _
      exact trivial
  | ok tool_definitions => exact sends_ephemeralLoop hsendable

/-! ## Section 5: Every run -/

/-- **No request of any run is refused for its history**. -/
theorem requests_settled :
    (∀ a input log route messages tools n x, Fallible.Performs (runEphemeral a input) log →
      (⟨.complete route messages tools n, x⟩ : AgentSig.Event) ∈ log →
      validateHistory messages false = .ok () ∧
        ∀ e, CompletionRequest.check messages tools n = .error e →
          e = modelContract "tool names must be unique" ∨
            e = modelContract "max_output_tokens must be positive") ∧
    ∀ (T : Type) [DecidableEq T] (w : Workers T) (store : LawfulRunStore)
      (c : Config AgentSig T store.State (Except Exn RunResult)) t route messages tools n x,
      w.Reachable store c → (t, ⟨.complete route messages tools n, x⟩) ∈ c.log →
      validateHistory messages false = .ok () ∧
        ∀ e, CompletionRequest.check messages tools n = .error e →
          e = modelContract "tool names must be unique" ∨
            e = modelContract "max_output_tokens must be positive" := by
  have hsendable {messages : List Message} (tools : List ToolDefinition) (n : Nat)
      (h : Sendable messages) :
      validateHistory messages false = .ok () ∧
        ∀ e, CompletionRequest.check messages tools n = .error e →
          e = modelContract "tool names must be unique" ∨
            e = modelContract "max_output_tokens must be positive" :=
    ⟨settled_iff.mpr h.settled, fun _ he => h.check tools n he⟩
  constructor
  · intro a input log route messages tools n x hlog hmem
    obtain ⟨before, after, hsplit⟩ := List.append_of_mem hmem
    have hkept : requestProtocol.Kept () log := by
      clear hlog hmem hsplit
      induction log with
      | nil => trivial
      | cons e log ih => exact ⟨trivial, ih⟩
    have hallowed := Prog.Obeys.performed (runEphemeral_sends a input) hlog hkept hsplit
    exact hsendable tools n (hallowed route messages tools n rfl)
  · intro T _ w store c t route messages tools n x hc hmem
    exact hsendable tools n (durable_sendable hc hmem)

/-- The second call of a solo run resumes its messages and sends them. -/
theorem requests_settled_soloPlain :
    ∃ c : Config AgentSig Nat lawfulInMemory.State (Except Exn RunResult),
      soloPlain.workers.Reachable lawfulInMemory c ∧
      (1, soloPlain.request soloPlain.resumed) ∈ c.log ∧
      validateHistory (soloPlain.resumed.withEvidence soloPlain.evidence).messages false = .ok () := by
  obtain ⟨c, hc, -, hlog⟩ := soloPlain.resumed_reachable
  have hmem : (1, soloPlain.request soloPlain.resumed) ∈ c.log := by
    rw [hlog]
    exact List.mem_append_right _ (List.mem_map_of_mem soloPlain.request_mem_second)
  exact ⟨c, hc, hmem,
    (requests_settled.2 Nat soloPlain.workers lawfulInMemory c 1 _ _ _ _ _ hc hmem).1⟩

end CBrain

import CBrain.Agent.Traces

/-! # Budgets across crashes

    How the counters of a stored record relate to the profile's budgets, for
    any number of calls, crashes and resumes of a run.

    Tool calls are counted in the same save that leaves `TOOL_IN_FLIGHT`, and
    such a save is never repeated, so their budget holds throughout.  A model
    turn is saved before the work it leads to.  A call that resumes between
    the two takes the turn of the same step again and counts it again. -/

namespace CBrain

open Effect
open Json (Dict)

/-! ## Section 1: Counting -/

/-- The turn of the step a running record is at is already counted. -/
def StoredRunRecord.Recounts (r : StoredRunRecord) : Prop :=
  r.durable_state = .running ∧ r.next_step ≤ r.model_turns

/-- The counters of a record are within the budgets, with room for the tool
    call that is open. -/
structure WithinBudgets (profile : AgentProfile) (r : StoredRunRecord) : Prop where
  turns_step : r.model_turns ≤ r.next_step
  turns : r.model_turns ≤ profile.max_model_turns
  calls : r.tool_calls ≤ profile.max_tool_calls
  open_call : r.durable_state = .toolPrepared ∨ r.durable_state = .toolInFlight →
    r.tool_calls < profile.max_tool_calls

/-- A call that is about to save a turn, or to take one, has not counted it. -/
def Phase.Uncounted : Phase → Prop
  | .asked r _ | .advanced r => r.model_turns < r.next_step
  | _ => True

variable {T : Type}

/-- No call that resumed from a record whose turn was counted takes that turn
    again. -/
def NeverRecounts (past : List AgentSig.Event) : Prop :=
  ∀ r, startedFrom past = some r → r.Recounts → ∀ e ∈ past, e.1.asks = false

/-- The condition on records and calls. -/
def budgetCondition (profile : AgentProfile) : Condition T where
  J := WithinBudgets profile
  K := fun _ past => Starts past ∧ (callView past).phase.Uncounted
  G := fun _ past => NeverRecounts past
  reloaded := fun _ h => ⟨h.turns_step, h.turns, h.calls, h.open_call⟩
  claimed := by
    intro r hstate h
    have hroom := h.open_call (Or.inl hstate)
    exact ⟨h.turns_step, h.turns, h.calls, fun _ => hroom⟩
  start := fun _ => ⟨starts_nil, trivial⟩
  earlier := by
    intro t past e h r hr hcounted e' he'
    exact h r (startedFrom_earlier hr) hcounted e' (List.mem_append_left _ he')

theorem withinBudgets_opening {a : FoundationAgent} {input : RunInput} {r : StoredRunRecord}
    (h : Opening a input r) : WithinBudgets a.profile r := by
  obtain ⟨run_id, started, expires, opening, event, durable_input, -, -, -, -, rfl⟩ := h
  refine ⟨Nat.zero_le 1, Nat.zero_le _, Nat.zero_le _, ?_⟩
  intro hstate
  rcases hstate with hs | hs <;> cases hs

/-- **Checkpoint lemma**: what each save does to the counters. -/
theorem withinBudgets_checkpoint {a : FoundationAgent} {input : RunInput} {v : WorkerView}
    {r r' : StoredRunRecord} (h : WithinBudgets a.profile r) (hphase : v.phase.Uncounted)
    (hcheckpoint : Checkpoint a input v r r') :
    WithinBudgets a.profile { r' with version := r.version + 1 } ∧
      (v.phase.saved { r' with version := r.version + 1 }).Uncounted := by
  have hturns := h.turns_step
  have hbudget := h.turns
  have hcalls := h.calls
  cases hcheckpoint with
  | turn hasked hstate hstep =>
    -- The turn is one of the steps, and was not counted before.
    rw [hasked] at hphase ⊢
    have hlt : r.model_turns < r.next_step := hphase
    refine ⟨⟨hlt, ?_, hcalls, ?_⟩, trivial⟩
    · show r.model_turns + 1 ≤ a.profile.max_model_turns
      omega
    · intro hs
      rcases hs with hs | hs <;> cases hs
  | prepare hturned hstate hmessages hroom =>
    rw [hturned]
    exact ⟨⟨hturns, hbudget, hcalls, fun _ => hroom⟩, trivial⟩
  | complete hexecuted hstate =>
    have hroom := h.open_call (Or.inr hstate)
    rw [hexecuted]
    refine ⟨⟨hturns, hbudget, hroom, ?_⟩, trivial⟩
    intro hs
    rcases hs with hs | hs <;> cases hs
  | advance hcompleted hstate =>
    have hnext : r.model_turns < r.next_step + 1 := by omega
    refine ⟨⟨Nat.le_of_lt hnext, hbudget, hcalls, ?_⟩, ?_⟩
    · intro hs
      rcases hs with hs | hs <;> cases hs
    · rcases hcompleted with hp | ⟨hp, -⟩
      · rw [hp]
        exact hnext
      · rw [hp]
        exact hnext
  | @terminal es ms status final_text metadata hend hstate =>
    have hterminal := terminalState_isTerminal status
    refine ⟨⟨hturns, hbudget, hcalls, ?_⟩, ?_⟩
    · intro hs
      have hs' : terminalState status = .toolPrepared ∨ terminalState status = .toolInFlight := hs
      rcases hs' with hs' | hs' <;> rw [hs'] at hterminal <;> cases hterminal
    · rw [Phase.saved_terminal _ hterminal]
      trivial

theorem budgetCondition_kept (w : Workers T) : (budgetCondition w.profile).KeptBy w := by
  apply Condition.KeptBy.of
  · intro t past r hK hphase hopening _
    have hallows : Worker.Allows (w.agent t) (w.input t) (callView past) (.create r) :=
      ⟨hphase, hopening⟩
    have hwithin := withinBudgets_opening hopening
    rw [w.same_profile] at hwithin
    refine ⟨hwithin, hK.1.snoc hallows, ?_⟩
    rw [callView_snoc]
    trivial
  · intro t past r r' hK hrecord hJ hcheckpoint
    have hallows : Worker.Allows (w.agent t) (w.input t) (callView past) (.save r' r.version) :=
      ⟨r, hrecord, rfl, hcheckpoint⟩
    have hJ' : WithinBudgets (w.agent t).profile r := by
      rw [w.same_profile]
      exact hJ
    have hkept := withinBudgets_checkpoint hJ' hK.2 hcheckpoint
    rw [w.same_profile] at hkept
    refine ⟨hkept.1, hK.1.snoc hallows, ?_⟩
    rw [callView_snoc]
    exact hkept.2
  · intro t past r claimed hK hphase hstate _ _
    have hallows : Worker.Allows (w.agent t) (w.input t) (callView past)
        (.claim r.run_id r.version) := ⟨r, hphase, hstate, rfl, rfl⟩
    refine ⟨hK.1.snoc hallows, ?_⟩
    rw [callView_snoc]
    rcases hphase with hp | hp <;> simp [Worker.next, hp, Phase.Uncounted]
  · intro t past o x hK hheld hnone hallows _ hgood
    refine ⟨hK.1.snoc hallows, ?_⟩
    rw [callView_snoc]
    cases o with
    | complete route ms tools n =>
      cases x with
      | error e => exact hK.2
      | ok output =>
        obtain ⟨⟨r, hrunning, -, hcontext⟩, -⟩ := hallows
        rcases hcontext with ⟨hp, -⟩ | ⟨hp, -⟩
        · -- A resumed record: its turn is not counted, or the call is not good.
          have huncounted : r.model_turns < r.next_step := by
            by_contra hle
            have hstarted := startedFrom_earlier (e := ⟨.complete route ms tools n, .ok output⟩)
              (hK.1.held r hp)
            have hquiet := hgood r hstarted ⟨hrunning, by omega⟩
              ⟨.complete route ms tools n, .ok output⟩ (by simp)
            cases hquiet
          simpa [Worker.next, hp, Phase.record?, Phase.Uncounted] using huncounted
        · have huncounted := hK.2
          rw [hp] at huncounted
          simpa [Worker.next, hp, Phase.record?, Phase.Uncounted] using huncounted
    | clock | wallClock | cancelled | newRunId | retrieve _ => exact hK.2
    | execute action tool =>
      obtain ⟨r, resumed, hp, -⟩ := hallows
      simp [Worker.next, hp, Phase.Uncounted]
    | create r =>
      cases x with
      | error e => exact hK.2
      | ok u => cases hnone
    | save r n =>
      cases x with
      | error e => exact hK.2
      | ok saved => cases hnone
    | claim run_id n =>
      cases x with
      | error e => exact hK.2
      | ok answer =>
        cases answer with
        | none => exact trivial
        | some claimed => cases hnone
    | load run_id =>
      rcases hallows with hp | hp <;> cases x <;> simp [Worker.next, hp, Phase.Uncounted]

/-! ## Section 2: Runs -/

/-- **Budgets hold across crashes** as long as no call takes a turn again that
    the record it resumed from had counted. -/
theorem budgets_across_crashes [DecidableEq T] {w : Workers T} {store : LawfulRunStore}
    {c : Config AgentSig T store.State (Except Exn RunResult)} (hc : w.Reachable store c)
    (hgood : ∀ t r, startedFrom (ofThread t c.log) = some r → r.Recounts →
      ∀ e ∈ ofThread t c.log, e.1.asks = false)
    {run_id : String} {r : StoredRunRecord} (hr : store.load c.shared run_id = .ok r) :
    r.model_turns ≤ w.profile.max_model_turns ∧ r.tool_calls ≤ w.profile.max_tool_calls := by
  obtain ⟨m, hm, hholds⟩ := hc.holds (budgetCondition_kept w)
  obtain ⟨hstored, -⟩ := hholds.good hgood
  have hload : store.answering c.shared (.load run_id) (.ok r) c.shared := ⟨hr.symm, rfl⟩
  obtain ⟨m', hm', -⟩ := store.answers hm hload
  obtain ⟨⟨cur, hcur, hread⟩, -⟩ := hm'
  have hwithin : WithinBudgets w.profile r :=
    (budgetCondition (T := T) w.profile).ofReadFrom hread (hstored run_id cur hcur)
  exact ⟨hwithin.turns, hwithin.calls⟩

/-! ## Section 3: A turn counted twice -/

/-- The turn of the only step is counted twice. -/
theorem soloPlain_counted_twice :
    ∃ c : Config AgentSig Nat lawfulInMemory.State (Except Exn RunResult),
      soloPlain.workers.Reachable lawfulInMemory c ∧
      ∃ r, lawfulInMemory.load c.shared "run" = .ok r ∧
        ¬ (r.model_turns ≤ soloPlain.workers.profile.max_model_turns ∧
          r.tool_calls ≤ soloPlain.workers.profile.max_tool_calls) := by
  obtain ⟨c, hc, hs, -⟩ := soloPlain.resumed_reachable
  refine ⟨c, hc, soloPlain.again.record, ?_, ?_⟩
  · rw [hs]
    exact (InMemoryRunStore.answering_load (Function.update_self ..)).1.symm
  · have htwice : soloPlain.again.record.model_turns = 2 := rfl
    rw [htwice]
    decide

theorem budgets_across_crashes_soloPlain :
    ∃ c r, soloPlain.workers.Reachable lawfulInMemory c ∧
      lawfulInMemory.load c.shared "run" = .ok r ∧
      r.model_turns ≤ soloPlain.workers.profile.max_model_turns ∧
      r.tool_calls ≤ soloPlain.workers.profile.max_tool_calls := by
  obtain ⟨c, hc, hs, hlog, -⟩ := soloPlain.first_reachable
  have hload : lawfulInMemory.load c.shared "run" = .ok soloPlain.turn.record := by
    rw [hs]
    exact (InMemoryRunStore.answering_load (Function.update_self ..)).1.symm
  refine ⟨c, soloPlain.turn.record, hc, hload, budgets_across_crashes hc ?_ hload⟩
  intro t r hr hrecounts
  rw [hlog] at hr
  by_cases ht : t = 0
  · -- The call that took the turn had created its run.
    subst ht
    rw [ofThread_map_self] at hr
    have hcreated : createdRecord soloPlain.agent soloPlain.input "run" soloOpening = r :=
      Option.some.inj hr
    rw [← hcreated] at hrecounts
    exact absurd hrecounts.2 (by decide)
  · rw [ofThread_map_other ht] at hr
    cases hr

end CBrain

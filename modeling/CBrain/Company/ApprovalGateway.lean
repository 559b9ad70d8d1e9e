import CBrain.Company.Approval
import CBrain.Company.LegalMatters
import CBrain.Framework.Fallible
import CBrain.Runtime

/-! # The approval-bounded gateway

    Models `ApprovalBoundedGateway` (`cbrain/company/approval.py`) over
    `CompanyRiskGateway` (`cbrain/evaluation/company_gateway.py`), under the
    governed runtime.  The gateway asks the validation, the two callables of
    its deployment and the inbox, and may enter the tool handler.

    An execution is given its surroundings: what the validation, the
    callables, the clock and the handler answer when they are asked.  Nothing
    is assumed of them.  The inbox answers as `ApprovalInbox` does. -/

namespace CBrain

open Effect

/-! ## Section 1: The gateway -/

/-- `CompanyAgentSpec`, as far as the gateway reads it. -/
structure CompanyAgentSpec where
  tool_risks : List (String × ToolRiskLevel)

/-- `decision_for_tool`. -/
def CompanyAgentSpec.decisionForTool (spec : CompanyAgentSpec) (tool_name : String) :
    Raises ToolRiskLevel :=
  match spec.tool_risks.lookup tool_name with
  | some risk => .ok risk
  | none => .error (Exn.parts .valueError [.text "unknown tool ", .repr (.str tool_name)])

/-- What the gateway asks outside itself. -/
inductive ApprovalOp where
  | validateCompanyAction (action : ActionIntent)
  | digestFor (action : ActionIntent)
  | requiredRoleFor (action : ActionIntent)
  | frozenReason
  | consumeIfApproved (action : ActionIntent) (digest : String) (required_role : ApprovalRole)
  | recordFor (request_id : String)
  | park (action : ActionIntent) (digest : String) (required_role : ApprovalRole)

/-- The ports of a gateway whose inbox keeps its times in `τ`. -/
def ApprovalPorts (τ : Type) : Sig where
  Op := ApprovalOp
  Ans
    | .validateCompanyAction _ => Raises ArgumentValidationResult
    | .digestFor _ => Raises String
    | .requiredRoleFor _ => Raises (Option ApprovalRole)
    | .frozenReason => Option String
    | .consumeIfApproved .. => Bool
    | .recordFor _ => Option (ApprovalRecord τ)
    | .park .. => Raises Unit

/-- `ApprovalBoundedGateway`: the agent of its inner gateway.  The inbox and
    the callables are its ports. -/
structure ApprovalBoundedGateway where
  spec : CompanyAgentSpec

/-- The calls of a sequence are those of its first part and of the rest. -/
theorem invokeOnce_bind {E : Sig} {α β : Type} (p : Prog (WithHandler E) α)
    (f : α → Prog (WithHandler E) β) (n : Nat) :
    invokeOnce n (p >>= f) = invokeOnce n p >>= fun r => invokeOnce r.2 (f r.1) := by
  induction p generalizing n with
  | ret a => rfl
  | op o k ih =>
    cases o with
    | port o =>
      show Prog.op (E := WithHandler E) (.port o) (fun x => invokeOnce n (k x >>= f)) =
        Prog.op (E := WithHandler E) (.port o)
          fun x => invokeOnce n (k x) >>= fun r => invokeOnce r.2 (f r.1)
      congr 1
      funext x
      exact ih x n
    | handler arguments =>
      show invokeOnce n (Prog.op (E := WithHandler E) (.handler arguments) fun x => k x >>= f) = _
      by_cases hn : n + 1 > 1
      · rw [invokeOnce, invokeOnce, if_pos hn, if_pos hn]
        exact ih _ (n + 1)
      · rw [invokeOnce, invokeOnce, if_neg hn, if_neg hn]
        show Prog.op (E := WithHandler E) (.handler arguments)
            (fun x => invokeOnce (n + 1) (k x >>= f)) =
          Prog.op (E := WithHandler E) (.handler arguments)
            fun x => invokeOnce (n + 1) (k x) >>= fun r => invokeOnce r.2 (f r.1)
        congr 1
        funext x
        exact ih x (n + 1)

namespace ApprovalBoundedGateway

/-- A program of the gateway. -/
abbrev Program (τ α : Type) : Type := Fallible (WithHandler (ApprovalPorts τ)) Exn α

variable {τ α : Type}

/-- Ask a port that does not raise. -/
def ask (o : ApprovalOp) : Program τ ((ApprovalPorts τ).Ans o) :=
  ExceptT.lift (Prog.perform (E := WithHandler (ApprovalPorts τ)) (.port o))

/-- The inbox's `frozen_reason`. -/
def frozenReason : Program τ (Option String) := ask .frozenReason

/-- The inbox's `consume_if_approved`. -/
def consumeIfApproved (action : ActionIntent) (digest : String) (required_role : ApprovalRole) :
    Program τ Bool :=
  ask (.consumeIfApproved action digest required_role)

/-- The inbox's `record_for`. -/
def recordFor (request_id : String) : Program τ (Option (ApprovalRecord τ)) :=
  ask (.recordFor request_id)

/-- A result without execution. -/
def notExecuted (action : ActionIntent) (status : ExecutionStatus) (reason : String) :
    Program τ GovernedExecution :=
  Fallible.raising
    (GovernedExecution.new status action.request_id (some false) reason none .none false)

/-- Enter the handler and report its output. -/
def executed (action : ActionIntent) (reason : String) : Program τ GovernedExecution := do
  let output ← Fallible.call (.handler action.arguments) rfl
  Fallible.raising
    (GovernedExecution.new .executed action.request_id (some true) reason none output false)

/-- `CompanyRiskGateway.decide_and_execute`. -/
def riskDecideAndExecute (spec : CompanyAgentSpec) (action : ActionIntent) :
    Program τ GovernedExecution := do
  let validation ← Fallible.call (.port (.validateCompanyAction action)) rfl
  if validation.ok = false then
    -- `validation.reason or "blocked_by_validation"`
    notExecuted action .blocked (match validation.reason with
      | none | some "" => "blocked_by_validation"
      | some reason => reason)
  else
    match ← Fallible.raising (spec.decisionForTool action.tool_name) with
    | .block => notExecuted action .blocked "blocked_by_policy"
    | .review => notExecuted action .reviewRequired "review_required"
    | .allow => executed action "allow"

/-- `decide_and_execute` after the inner gateway asked for a review. -/
def decideReview (action : ActionIntent) (digest : String) (first : GovernedExecution) :
    Program τ GovernedExecution := do
  match ← Fallible.call (.port (.requiredRoleFor action)) rfl with
  | none => notExecuted action .controlFailure "approval_role_not_configured"
  | some required_role =>
    if ← consumeIfApproved action digest required_role then
      executed action "approved_review"
    else
      match ← recordFor action.request_id with
      | some record =>
        if record.consumed then notExecuted action .blocked "approval_already_consumed"
        else notExecuted action .controlFailure "approval_role_mismatch"
      | none =>
        Fallible.call (.port (.park action digest required_role)) rfl
        return first

/-- `decide_and_execute`. -/
def decideAndExecute (gateway : ApprovalBoundedGateway) (action : ActionIntent) :
    Program τ GovernedExecution := do
  match ← frozenReason with
  | some reason => notExecuted action .controlFailure ("inbox_frozen:" ++ reason)
  | none =>
    let digest ← Fallible.call (.port (.digestFor action)) rfl
    let first ← riskDecideAndExecute gateway.spec action
    if first.status ≠ .reviewRequired then return first
    decideReview action digest first

/-- The gateway, as the runtime takes it. -/
def asGateway (gateway : ApprovalBoundedGateway) : PrivateVaultGateway (ApprovalPorts τ) where
  independent_execution := false
  decideAndExecute action := Except.map .execution <$> (gateway.decideAndExecute action).run

end ApprovalBoundedGateway

/-! ## Section 2: Executions on an inbox -/

section executions

variable {τ : Type} [Seconds τ]

/-- What the surroundings of an execution answer when it asks them. -/
structure Surroundings (τ : Type) where
  validation : Raises ArgumentValidationResult
  digest : Raises String
  required_role : Raises (Option ApprovalRole)
  now : τ
  /-- What the handler does when it is entered. -/
  output : Raises PyVal

/-- The inbox during an execution, and the handler entries so far. -/
structure Attempt (τ : Type) where
  inbox : ApprovalInbox τ
  entries : Nat

/-- `park` on an inbox: its answer, and the inbox it leaves. -/
def parkOn (inbox : ApprovalInbox τ) (action : ActionIntent) (digest : String)
    (required_role : ApprovalRole) : Raises Unit × ApprovalInbox τ :=
  match inbox.park action digest required_role with
  | .ok inbox' => (.ok (), inbox')
  | .error e => (.error e, inbox)

/-- The answers to an execution. -/
def Surroundings.serve (s : Surroundings τ) :
    Prog.Handler (WithHandler (ApprovalPorts τ)) (Attempt τ)
  | .handler _, st => (some s.output, { st with entries := st.entries + 1 })
  | .port (.validateCompanyAction _), st => (some s.validation, st)
  | .port (.digestFor _), st => (some s.digest, st)
  | .port (.requiredRoleFor _), st => (some s.required_role, st)
  | .port .frozenReason, st => (some st.inbox.frozen_reason, st)
  | .port (.consumeIfApproved action digest required_role), st =>
    let (consumed, inbox) := st.inbox.consumeIfApproved s.now action digest required_role
    (some consumed, { st with inbox })
  | .port (.recordFor request_id), st => (some (st.inbox.recordFor request_id), st)
  | .port (.park action digest required_role), st =>
    let (answer, inbox) := parkOn st.inbox action digest required_role
    (some answer, { st with inbox })

namespace ApprovalBoundedGateway

/-- `GovernedRuntime.execute` on an inbox: the result, the inbox it leaves and
    the handler entries. -/
def executeOn (gateway : ApprovalBoundedGateway) (action : ActionIntent) (s : Surroundings τ)
    (inbox : ApprovalInbox τ) : Option GovernedExecution × Attempt τ :=
  Prog.exec s.serve (execute gateway.asGateway action) ⟨inbox, 0⟩

/-! ## Section 3: What an execution does

    One lemma for each part of the gateway: the outcome of the wrapped part,
    the number of handler calls, and the state it leaves. -/

variable {α β : Type} {gateway : ApprovalBoundedGateway} {action : ActionIntent}
  {s : Surroundings τ} {st : Attempt τ} {n : Nat}

/-- What a part of the gateway comes to, after `n` handler calls. -/
def outcome (s : Surroundings τ) (n : Nat) (m : Program τ α) (st : Attempt τ) :
    Option (Raises α × Nat) × Attempt τ :=
  Prog.exec s.serve (invokeOnce n m.run) st

theorem outcome_raising (x : Raises α) :
    outcome s n (Fallible.raising x) st = (some (x, n), st) := rfl

theorem outcome_bind_ok {m : Program τ β} {f : β → Program τ α} {b : β} {n' : Nat}
    {st' : Attempt τ} (h : outcome s n m st = (some (.ok b, n'), st')) :
    outcome s n (m >>= f) st = outcome s n' (f b) st' := by
  have hrun : (m >>= f).run = m.run >>= ExceptT.bindCont f := rfl
  unfold outcome at *
  rw [hrun, invokeOnce_bind, Prog.exec_bind, h]
  rfl

/-- An exception of the first part skips the second. -/
theorem outcome_bind_error {m : Program τ β} {f : β → Program τ α} {e : Exn} {n' : Nat}
    {st' : Attempt τ} (h : outcome s n m st = (some (.error e, n'), st')) :
    outcome s n (m >>= f) st = (some (.error e, n'), st') := by
  have hrun : (m >>= f).run = m.run >>= ExceptT.bindCont f := rfl
  unfold outcome at *
  rw [hrun, invokeOnce_bind, Prog.exec_bind, h]
  rfl

/-- The state after a part that did not enter the handler: the action may have
    been parked. -/
inductive Quiet (action : ActionIntent) (st : Attempt τ) : Attempt τ → Prop
  | same : Quiet action st st
  | parked {digest : String} {required_role : ApprovalRole} {inbox : ApprovalInbox τ}
      (hpark : st.inbox.park action digest required_role = .ok inbox) :
      Quiet action st { st with inbox }

omit [Seconds τ] in
theorem Quiet.entries {st' : Attempt τ} (h : Quiet action st st') : st'.entries = st.entries := by
  cases h with
  | same => rfl
  | parked _ => rfl

theorem outcome_notExecuted (s : Surroundings τ) (n : Nat) (st : Attempt τ)
    (action : ActionIntent) (status : ExecutionStatus) (reason : String) :
    ∃ r, outcome s n (notExecuted action status reason) st = (some (r, n), st) :=
  ⟨_, rfl⟩

/-- A result that was built has the status it was built with. -/
theorem status_of_new {status : ExecutionStatus} {request_id reason : String}
    {tool_executed : Option Bool} {output : PyVal} {g : GovernedExecution}
    (h : GovernedExecution.new status request_id tool_executed reason none output false = .ok g) :
    g.status = status := by
  unfold GovernedExecution.new at h
  obtain ⟨_, h⟩ := ensure_bind_ok.mp h
  obtain ⟨_, h⟩ := ensure_bind_ok.mp h
  obtain ⟨_, h⟩ := ensure_bind_ok.mp h
  obtain ⟨_, h⟩ := ensure_bind_ok.mp h
  cases h
  rfl

/-- The first entry of the handler. -/
theorem outcome_executed (s : Surroundings τ) (st : Attempt τ) (action : ActionIntent)
    (reason : String) :
    ∃ r, outcome s 0 (executed action reason) st =
        (some (r, 1), { st with entries := st.entries + 1 }) ∧
      (∀ e, s.output = .error e → r = .error e) ∧ ∀ g, r = .ok g → g.status = .executed := by
  have henter : outcome s 0 (Fallible.call (.handler action.arguments) rfl) st =
      (some (s.output, 1), { st with entries := st.entries + 1 }) := rfl
  cases hout : s.output with
  | error e =>
    rw [hout] at henter
    refine ⟨.error e, outcome_bind_error henter, ?_, fun g hg => by cases hg⟩
    intro e' he'
    cases he'
    rfl
  | ok output =>
    rw [hout] at henter
    refine ⟨_, outcome_bind_ok henter, ?_, fun g hg => status_of_new hg⟩
    intro e' he'
    cases he'

/-- The inner gateway enters the handler of an allowed tool only. -/
theorem riskDecideAndExecute_cases (spec : CompanyAgentSpec) (action : ActionIntent)
    (s : Surroundings τ) (st : Attempt τ) :
    (∃ r, outcome s 0 (riskDecideAndExecute spec action) st = (some (r, 0), st)) ∨
    (spec.decisionForTool action.tool_name = .ok .allow ∧
      ∃ r, outcome s 0 (riskDecideAndExecute spec action) st =
        (some (r, 1), { st with entries := st.entries + 1 }) ∧
        ∀ g, r = .ok g → g.status = .executed) := by
  have hvalidate : outcome s 0 (Fallible.call (.port (.validateCompanyAction action)) rfl) st =
      (some (s.validation, 0), st) := rfl
  cases hvalidation : s.validation with
  | error e =>
    rw [hvalidation] at hvalidate
    exact Or.inl ⟨_, outcome_bind_error hvalidate⟩
  | ok validation =>
    rw [hvalidation] at hvalidate
    unfold riskDecideAndExecute
    rw [outcome_bind_ok hvalidate]
    by_cases hok : validation.ok = false
    · rw [if_pos hok]
      exact Or.inl (outcome_notExecuted s 0 st action _ _)
    · rw [if_neg hok]
      cases hrisk : spec.decisionForTool action.tool_name with
      | error e => exact Or.inl ⟨_, outcome_bind_error (outcome_raising _)⟩
      | ok risk =>
        rw [outcome_bind_ok (outcome_raising _)]
        cases risk with
        | block => exact Or.inl (outcome_notExecuted s 0 st action _ _)
        | review => exact Or.inl (outcome_notExecuted s 0 st action _ _)
        | allow =>
          obtain ⟨r, hr, -, hstatus⟩ := outcome_executed s st action "allow"
          exact Or.inr ⟨rfl, r, hr, hstatus⟩

/-- What a review leads to: the approval is consumed and the handler entered,
    or the handler is not entered. -/
theorem decideReview_cases (action : ActionIntent) (digest : String) (first : GovernedExecution)
    (s : Surroundings τ) (st : Attempt τ) :
    (∃ r st', outcome s 0 (decideReview action digest first) st = (some (r, 0), st') ∧
      Quiet action st st') ∨
    ∃ required_role inbox, s.required_role = .ok (some required_role) ∧
      st.inbox.consumeIfApproved s.now action digest required_role = (true, inbox) ∧
      ∃ r, outcome s 0 (decideReview action digest first) st =
          (some (r, 1), { inbox, entries := st.entries + 1 }) ∧
        ∀ e, s.output = .error e → r = .error e := by
  have hask : outcome s 0 (Fallible.call (.port (.requiredRoleFor action)) rfl) st =
      (some (s.required_role, 0), st) := rfl
  unfold decideReview
  rcases hrole : s.required_role with e | _ | required_role
  · rw [hrole] at hask
    exact Or.inl ⟨_, st, outcome_bind_error hask, .same⟩
  · rw [hrole] at hask
    rw [outcome_bind_ok hask]
    obtain ⟨r, hr⟩ := outcome_notExecuted s 0 st action .controlFailure
      "approval_role_not_configured"
    exact Or.inl ⟨r, st, hr, .same⟩
  · rw [hrole] at hask
    rw [outcome_bind_ok hask]
    rcases hconsume : st.inbox.consumeIfApproved s.now action digest required_role with
      ⟨consumed, inbox⟩
    have hserve : outcome s 0 (consumeIfApproved action digest required_role) st =
        (some (.ok (st.inbox.consumeIfApproved s.now action digest required_role).1, 0),
          { st with inbox := (st.inbox.consumeIfApproved s.now action digest required_role).2 }) :=
      rfl
    rw [hconsume] at hserve
    simp only
    rw [outcome_bind_ok hserve]
    cases consumed with
    | true =>
      obtain ⟨r, hr, herror, -⟩ := outcome_executed s { st with inbox } action "approved_review"
      exact Or.inr ⟨required_role, inbox, rfl, hconsume, r, hr, herror⟩
    | false =>
      -- A refused consumption leaves the inbox.
      obtain rfl : inbox = st.inbox := by
        rcases st.inbox.consumeIfApproved_cases s.now action digest required_role with hrefused | h
        · rw [hrefused] at hconsume
          exact (Prod.mk.inj hconsume).2.symm
        · obtain ⟨_, _, _, _, _, _, _, htaken⟩ := h
          rw [htaken] at hconsume
          cases hconsume
      left
      have hrecord : outcome s 0 (recordFor action.request_id) st =
          (some (.ok (st.inbox.recordFor action.request_id), 0), st) := rfl
      rw [if_neg (by simp)]
      rw [outcome_bind_ok hrecord]
      cases st.inbox.recordFor action.request_id with
      | some record =>
        simp only
        by_cases hspent : record.consumed = true
        · rw [if_pos hspent]
          obtain ⟨r, hr⟩ := outcome_notExecuted s 0 st action .blocked
            "approval_already_consumed"
          exact ⟨r, st, hr, .same⟩
        · rw [if_neg hspent]
          obtain ⟨r, hr⟩ := outcome_notExecuted s 0 st action .controlFailure
            "approval_role_mismatch"
          exact ⟨r, st, hr, .same⟩
      | none =>
        have hasked : outcome s 0
            (Fallible.call (.port (.park action digest required_role)) rfl : Program τ Unit) st =
            (some ((parkOn st.inbox action digest required_role).1, 0),
              { st with inbox := (parkOn st.inbox action digest required_role).2 }) := rfl
        unfold parkOn at hasked
        cases hpark : st.inbox.park action digest required_role with
        | error e =>
          rw [hpark] at hasked
          exact ⟨_, st, outcome_bind_error hasked, .same⟩
        | ok inbox =>
          rw [hpark] at hasked
          exact ⟨_, _, outcome_bind_ok hasked, .parked hpark⟩

/-- What `decide_and_execute` does: the handler is not entered, or the tool is
    allowed, or an approval is consumed for it. -/
theorem decideAndExecute_cases (gateway : ApprovalBoundedGateway) (action : ActionIntent)
    (s : Surroundings τ) (st : Attempt τ) :
    (∃ r st', outcome s 0 (gateway.decideAndExecute action) st = (some (r, 0), st') ∧
      Quiet action st st') ∨
    (gateway.spec.decisionForTool action.tool_name = .ok .allow ∧
      ∃ r, outcome s 0 (gateway.decideAndExecute action) st =
        (some (r, 1), { st with entries := st.entries + 1 })) ∨
    ∃ digest required_role inbox, s.digest = .ok digest ∧
      s.required_role = .ok (some required_role) ∧
      st.inbox.consumeIfApproved s.now action digest required_role = (true, inbox) ∧
      ∃ r, outcome s 0 (gateway.decideAndExecute action) st =
          (some (r, 1), { inbox, entries := st.entries + 1 }) ∧
        ∀ e, s.output = .error e → r = .error e := by
  have hfrozen : outcome s 0 frozenReason st = (some (.ok st.inbox.frozen_reason, 0), st) := rfl
  have hdigest : outcome s 0 (Fallible.call (.port (.digestFor action)) rfl) st =
      (some (s.digest, 0), st) := rfl
  unfold decideAndExecute
  rw [outcome_bind_ok hfrozen]
  cases st.inbox.frozen_reason with
  | some reason =>
    obtain ⟨r, hr⟩ := outcome_notExecuted s 0 st action .controlFailure ("inbox_frozen:" ++ reason)
    exact Or.inl ⟨r, st, hr, .same⟩
  | none =>
    cases hgiven : s.digest with
    | error e =>
      rw [hgiven] at hdigest
      exact Or.inl ⟨_, st, outcome_bind_error hdigest, .same⟩
    | ok digest =>
      rw [hgiven] at hdigest
      simp only
      rw [outcome_bind_ok hdigest]
      rcases riskDecideAndExecute_cases gateway.spec action s st with ⟨r, hr⟩ | ⟨hallow, r, hr, hexec⟩
      · cases r with
        | error e => exact Or.inl ⟨_, st, outcome_bind_error hr, .same⟩
        | ok first =>
          rw [outcome_bind_ok hr]
          by_cases hreview : first.status ≠ .reviewRequired
          · rw [if_pos hreview]
            exact Or.inl ⟨_, st, rfl, .same⟩
          · rw [if_neg hreview]
            rcases decideReview_cases action digest first s st with h | h
            · exact Or.inl h
            · obtain ⟨required_role, inbox, hrole, hconsume, hentered⟩ := h
              exact Or.inr (Or.inr ⟨digest, required_role, inbox, rfl, hrole, hconsume, hentered⟩)
      · -- An allowed tool that ran is not reviewed.
        refine Or.inr (Or.inl ⟨hallow, ?_⟩)
        cases r with
        | error e => exact ⟨_, outcome_bind_error hr⟩
        | ok first =>
          rw [outcome_bind_ok hr, if_pos (by rw [hexec first rfl]; decide)]
          exact ⟨_, rfl⟩

/-- The runtime classifies what the gateway comes to. -/
theorem executeOn_of_outcome {inbox : ApprovalInbox τ} {r : Raises GovernedExecution}
    {st' : Attempt τ}
    (h : outcome s 0 (gateway.decideAndExecute action) ⟨inbox, 0⟩ = (some (r, n), st')) :
    gateway.executeOn action s inbox =
      (some (classify false action (r.map .execution) n), st') := by
  have hmap : invokeOnce 0
      ((gateway.asGateway : PrivateVaultGateway (ApprovalPorts τ)).decideAndExecute action) =
      invokeOnce 0 (gateway.decideAndExecute action : Program τ _).run >>= fun r =>
        .ret (r.1.map .execution, r.2) :=
    invokeOnce_bind _ _ 0
  unfold outcome at h
  unfold executeOn execute
  rw [hmap, Prog.exec_bind, Prog.exec_bind, h]
  rfl

/-- **What an execution does to an inbox**: it parks at most, or the tool is
    allowed, or it consumes an approval and enters the handler once.  If the
    handler raises there, the result is `INDETERMINATE`. -/
theorem executeOn_cases (gateway : ApprovalBoundedGateway) (action : ActionIntent)
    (s : Surroundings τ) (inbox : ApprovalInbox τ) :
    ∃ result st', gateway.executeOn action s inbox = (some result, st') ∧
      (st'.entries = 0 ∧ Quiet action ⟨inbox, 0⟩ st' ∨
        gateway.spec.decisionForTool action.tool_name = .ok .allow ∧ st' = ⟨inbox, 1⟩ ∨
        ∃ digest required_role, s.digest = .ok digest ∧
          s.required_role = .ok (some required_role) ∧ st'.entries = 1 ∧
          inbox.consumeIfApproved s.now action digest required_role = (true, st'.inbox) ∧
          ∀ e, s.output = .error e → result.status = .indeterminate) := by
  rcases decideAndExecute_cases gateway action s ⟨inbox, 0⟩ with
    ⟨r, st', hr, hquiet⟩ | ⟨hallow, r, hr⟩ | h
  · exact ⟨_, st', executeOn_of_outcome hr, Or.inl ⟨hquiet.entries, hquiet⟩⟩
  · exact ⟨_, _, executeOn_of_outcome hr, Or.inr (Or.inl ⟨hallow, rfl⟩)⟩
  · obtain ⟨digest, required_role, inbox', hdigest, hrole, hconsume, r, hr, herror⟩ := h
    refine ⟨_, _, executeOn_of_outcome hr,
      Or.inr (Or.inr ⟨digest, required_role, hdigest, hrole, rfl, hconsume, ?_⟩)⟩
    intro e he
    rw [herror e he]
    exact classify_indeterminate (.raised e 1) (Or.inl Nat.one_pos)

end ApprovalBoundedGateway

end executions

end CBrain

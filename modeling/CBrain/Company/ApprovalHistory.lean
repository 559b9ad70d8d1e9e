import CBrain.Company.ApprovalGateway
import CBrain.Company.ReviewExpiry

/-! # Histories of one approval inbox

    Executions under the governed runtime, approvals, freezes and parkings on
    one inbox, in any order, with any surroundings.  For every request, a
    history moves the register of its approval as `OneShot` allows: an
    approval is granted once, and an execution that enters the handler of a
    tool under review spends it. -/

namespace CBrain

open OneShot
open scoped Seconds

section histories

variable {τ : Type} [Seconds τ] [FiniteTest τ]

/-! ## Section 1: Calls -/

/-- The operations on an inbox, with their arguments and clock readings. -/
inductive InboxOp (τ : Type) where
  | execute (action : ActionIntent) (s : Surroundings τ)
  | approve (now : τ) (request_id : String) (principal : ApprovalPrincipal) (ttl_seconds : τ)
  | freeze (reason : String)
  | park (action : ActionIntent) (digest : String) (required_role : ApprovalRole)

/-- What an operation answers: an execution also tells how often it entered
    the handler. -/
inductive InboxAnswer (τ : Type) where
  | executed (result : Option GovernedExecution) (entries : Nat)
  | approved (r : Raises (ApprovalRecord τ))
  | done (r : Raises Unit)

/-- A call that was made. -/
structure InboxCall (τ : Type) where
  op : InboxOp τ
  answer : InboxAnswer τ

/-- A gateway and the settings of its inbox. -/
structure InboxDeployment (τ : Type) [Seconds τ] [FiniteTest τ] where
  gateway : ApprovalBoundedGateway
  settings : InboxSettings τ

namespace InboxDeployment

/-- Run an operation: its call, and the inbox it leaves. -/
def call (d : InboxDeployment τ) (op : InboxOp τ) (inbox : ApprovalInbox τ) :
    InboxCall τ × ApprovalInbox τ :=
  match op with
  | .execute action s =>
    let (result, st) := d.gateway.executeOn action s inbox
    (⟨op, .executed result st.entries⟩, st.inbox)
  | .approve now request_id principal ttl_seconds =>
    match inbox.approve d.settings now request_id principal ttl_seconds with
    | .ok (record, inbox') => (⟨op, .approved (.ok record)⟩, inbox')
    | .error e => (⟨op, .approved (.error e)⟩, inbox)
  | .freeze reason =>
    match inbox.freeze reason with
    | .ok inbox' => (⟨op, .done (.ok ())⟩, inbox')
    | .error e => (⟨op, .done (.error e)⟩, inbox)
  | .park action digest required_role =>
    let (answer, inbox') := parkOn inbox action digest required_role
    (⟨op, .done answer⟩, inbox')

end InboxDeployment

/-- What calls make of an inbox. -/
inductive InboxHistory (d : InboxDeployment τ) (inbox : ApprovalInbox τ) :
    List (InboxCall τ) → ApprovalInbox τ → Prop
  | nil : InboxHistory d inbox [] inbox
  | snoc {log : List (InboxCall τ)} {inbox' : ApprovalInbox τ} (op : InboxOp τ) :
      InboxHistory d inbox log inbox' →
      InboxHistory d inbox (log ++ [(d.call op inbox').1]) (d.call op inbox').2

/-- A history around one of its calls. -/
theorem InboxHistory.around {d : InboxDeployment τ} {inbox inbox' : ApprovalInbox τ}
    {pre post : List (InboxCall τ)} {c : InboxCall τ}
    (h : InboxHistory d inbox (pre ++ c :: post) inbox') :
    ∃ op before, InboxHistory d inbox pre before ∧ c = (d.call op before).1 ∧
      InboxHistory d (d.call op before).2 post inbox' := by
  generalize hlog : pre ++ c :: post = log at h
  induction h generalizing post with
  | nil => simp at hlog
  | @snoc log inbox' op hinit ih =>
    rcases List.eq_nil_or_concat post with rfl | ⟨post, last, rfl⟩
    · obtain ⟨rfl, hlast⟩ := List.append_inj' hlog rfl
      obtain rfl : c = (d.call op inbox').1 := by simpa using hlast
      exact ⟨op, inbox', hinit, rfl, .nil⟩
    · rw [List.concat_eq_append, ← List.cons_append, ← List.append_assoc] at hlog
      obtain ⟨rfl, hlast⟩ := List.append_inj' hlog rfl
      obtain rfl : last = (d.call op inbox').1 := by simpa using hlast
      obtain ⟨op', before, hpre, hc, hpost⟩ := ih rfl
      rw [List.concat_eq_append]
      exact ⟨op', before, hpre, hc, hpost.snoc op⟩

/-! ## Section 2: The register of a request -/

/-- The tool of the action is one that requires review. -/
def needsReview (spec : CompanyAgentSpec) (action : ActionIntent) : Bool :=
  match spec.decisionForTool action.tool_name with
  | .ok .review => true
  | _ => false

namespace InboxCall

/-- The call entered the handler of a tool under review, for this request. -/
def enters (spec : CompanyAgentSpec) (request_id : String) (c : InboxCall τ) : Bool :=
  match c.op, c.answer with
  | .execute action _, .executed _ entries =>
    action.request_id == request_id && needsReview spec action && decide (0 < entries)
  | _, _ => false

/-- The call froze the inbox. -/
def Freezes (c : InboxCall τ) : Prop :=
  (∃ reason, c.op = .freeze reason) ∧ c.answer = .done (.ok ())

/-- The call recorded an approval, under the rules of the inbox. -/
structure Approves (d : InboxDeployment τ) (request_id : String) (c : InboxCall τ) (now : τ)
    (principal : ApprovalPrincipal) (ttl_seconds : τ) (record : ApprovalRecord τ) : Prop where
  op : c.op = .approve now request_id principal ttl_seconds
  answer : c.answer = .approved (.ok record)
  finite : FiniteTest.isFinite ttl_seconds = true
  limited : ¬ d.settings.max_ttl_seconds < ttl_seconds
  allowed : principal.actor_id ∈ d.settings.allowed_approvers.actors principal.role
  role : record.actor_role = principal.role
  deadline : record.expires_at = now + ttl_seconds

/-- The call is an execution of the request that consumed the record. -/
structure Spends (request_id : String) (c : InboxCall τ) (action : ActionIntent)
    (s : Surroundings τ) (record : ApprovalRecord τ) : Prop where
  op : c.op = .execute action s
  request : action.request_id = request_id
  digest : s.digest = .ok record.intent_digest
  role : s.required_role = .ok (some record.actor_role)
  deadline : ¬ record.expires_at ≤ s.now
  answer : ∃ result, c.answer = .executed (some result) 1 ∧
    ∀ e, s.output = .error e → result.status = .indeterminate

end InboxCall

/-- How the calls of a history are seen by a request. -/
def inboxObservation (d : InboxDeployment τ) (request_id : String) :
    Observation (InboxCall τ) (ApprovalRecord τ) where
  grants c record := ∃ now principal ttl_seconds,
    c.Approves d request_id now principal ttl_seconds record
  spends c := c.enters d.gateway.spec request_id = true
  fits c record := ∃ action s, c.Spends request_id action s record
  revokes c := c.Freezes

/-- What an inbox holds for a request. -/
def ApprovalInbox.stage (inbox : ApprovalInbox τ) (request_id : String) :
    Stage (ApprovalRecord τ) :=
  if inbox.frozen_reason.isSome then .closed
  else match inbox.approvals.get? request_id with
    | none => .idle
    | some record => if record.consumed then .closed else .granted record

/-! ## Section 3: One call -/

variable {d : InboxDeployment τ} {inbox inbox' : ApprovalInbox τ} {request_id : String}

omit [Seconds τ] [FiniteTest τ] in
theorem ApprovalInbox.stage_of_frozen (h : inbox.frozen_reason.isSome) :
    inbox.stage request_id = .closed :=
  if_pos h

omit [Seconds τ] [FiniteTest τ] in
/-- The stage is a matter of the freeze and the request's own approval. -/
theorem ApprovalInbox.stage_congr (hfrozen : inbox'.frozen_reason = inbox.frozen_reason)
    (happrovals : inbox'.approvals.get? request_id = inbox.approvals.get? request_id) :
    inbox'.stage request_id = inbox.stage request_id := by
  unfold ApprovalInbox.stage
  rw [hfrozen, happrovals]

omit [Seconds τ] [FiniteTest τ] in
theorem ApprovalInbox.stage_of_approval {record : ApprovalRecord τ}
    (hfrozen : inbox.frozen_reason = none)
    (hget : inbox.approvals.get? request_id = some record) :
    inbox.stage request_id = if record.consumed then .closed else .granted record := by
  unfold ApprovalInbox.stage
  rw [hfrozen, hget]
  rfl

omit [Seconds τ] [FiniteTest τ] in
/-- Recording an approval leaves an open register in its stage. -/
theorem ApprovalInbox.stage_set (hfrozen : inbox.frozen_reason = none)
    (record : ApprovalRecord τ) :
    ApprovalInbox.stage { inbox with approvals := inbox.approvals.set request_id record }
      request_id = if record.consumed then .closed else .granted record :=
  ApprovalInbox.stage_of_approval hfrozen (Table.get?_set_self _ _ _)

omit [Seconds τ] [FiniteTest τ] in
theorem ApprovalInbox.stage_of_quiet {action : ActionIntent} {st : Attempt τ}
    (h : ApprovalBoundedGateway.Quiet action ⟨inbox, 0⟩ st) :
    st.inbox.stage request_id = inbox.stage request_id := by
  cases h with
  | same => rfl
  | parked hpark =>
    obtain ⟨happrovals, hfrozen⟩ := ApprovalInbox.park_ok hpark
    exact stage_congr hfrozen (by rw [happrovals])

omit [Seconds τ] [FiniteTest τ] in
theorem ApprovalInbox.stage_parkOn (action : ActionIntent) (digest : String)
    (required_role : ApprovalRole) :
    (parkOn inbox action digest required_role).2.stage request_id = inbox.stage request_id := by
  unfold parkOn
  cases hpark : inbox.park action digest required_role with
  | error e => rfl
  | ok inbox' =>
    obtain ⟨happrovals, hfrozen⟩ := ApprovalInbox.park_ok hpark
    exact stage_congr hfrozen (by rw [happrovals])

/-- A call that is neither an approval of the request nor its execution, nor a
    freeze, leaves the register. -/
theorem rest_of_stage {c : InboxCall τ} {stage stage' : Stage (ApprovalRecord τ)}
    (happrove : ∀ now principal ttl_seconds record,
      ¬ c.Approves d request_id now principal ttl_seconds record)
    (henters : ¬ c.enters d.gateway.spec request_id = true) (hfreezes : ¬ c.Freezes)
    (hstage : stage' = stage) : Move (inboxObservation d request_id) c stage stage' := by
  rw [hstage]
  refine .rest ?_ henters fun h => absurd h hfreezes
  rintro record ⟨now, principal, ttl_seconds, happroves⟩
  exact happrove now principal ttl_seconds record happroves

/-- An execution moves the register of every request as `OneShot` allows. -/
theorem execute_moves (d : InboxDeployment τ) (action : ActionIntent) (s : Surroundings τ)
    (inbox : ApprovalInbox τ) (request_id : String) :
    Move (inboxObservation d request_id) (d.call (.execute action s) inbox).1
      (inbox.stage request_id) ((d.call (.execute action s) inbox).2.stage request_id) := by
  obtain ⟨result, st, hrun, hcases⟩ := d.gateway.executeOn_cases action s inbox
  have hcall : d.call (.execute action s) inbox =
      (⟨.execute action s, .executed (some result) st.entries⟩, st.inbox) := by
    show ((⟨_, .executed (d.gateway.executeOn action s inbox).1
        (d.gateway.executeOn action s inbox).2.entries⟩,
      (d.gateway.executeOn action s inbox).2.inbox) : InboxCall τ × ApprovalInbox τ) = _
    rw [hrun]
  rw [hcall]
  have happrove : ∀ now principal ttl_seconds record, ¬ InboxCall.Approves d request_id
      ⟨.execute action s, .executed (some result) st.entries⟩ now principal ttl_seconds record := by
    intro now principal ttl_seconds record h
    cases h.op
  have hfreezes :
      ¬ (⟨.execute action s, .executed (some result) st.entries⟩ : InboxCall τ).Freezes := by
    rintro ⟨⟨reason, hop⟩, -⟩
    cases hop
  rcases hcases with ⟨hentries, hquiet⟩ | ⟨hallow, rfl⟩ | hconsumed
  · -- Nothing was entered.
    refine rest_of_stage happrove ?_ hfreezes (ApprovalInbox.stage_of_quiet hquiet)
    simp [InboxCall.enters, hentries]
  · -- An allowed tool is not under review.
    refine rest_of_stage happrove ?_ hfreezes rfl
    simp [InboxCall.enters, needsReview, hallow]
  obtain ⟨digest, required_role, hdigest, hrole, hentries, hconsume, hstatus⟩ := hconsumed
  rcases inbox.consumeIfApproved_cases s.now action digest required_role with hrefused | h
  · rw [hrefused] at hconsume
    cases hconsume
  obtain ⟨record, hfrozen, hget, hunconsumed, rfl, rfl, hdeadline, htaken⟩ := h
  rw [htaken] at hconsume
  have hinbox : st.inbox = { inbox with
      approvals := inbox.approvals.set action.request_id { record with consumed := true } } :=
    (Prod.mk.inj hconsume).2.symm
  by_cases hrequest : action.request_id = request_id
  · -- The request's own approval is consumed.
    subst hrequest
    have hbefore : inbox.stage action.request_id = .granted record := by
      rw [ApprovalInbox.stage_of_approval hfrozen hget, hunconsumed]
      rfl
    have hafter : st.inbox.stage action.request_id = .closed := by
      rw [hinbox]
      exact ApprovalInbox.stage_set hfrozen _
    have hgrants : ∀ g, ¬ (inboxObservation d action.request_id).grants
        ⟨.execute action s, .executed (some result) st.entries⟩ g := by
      rintro g ⟨now, principal, ttl_seconds, happroves⟩
      exact happrove now principal ttl_seconds g happroves
    rw [hbefore, hafter]
    by_cases hreview : InboxCall.enters d.gateway.spec action.request_id
        ⟨.execute action s, .executed (some result) st.entries⟩ = true
    · refine .spend hgrants hreview ⟨action, s, rfl, rfl, hdigest, hrole, hdeadline, ?_⟩ hfreezes
      exact ⟨result, by rw [hentries], hstatus⟩
    · exact .close hgrants hreview
  · -- Another request's.
    refine rest_of_stage happrove ?_ hfreezes ?_
    · simp [InboxCall.enters, hrequest]
    · rw [hinbox]
      exact ApprovalInbox.stage_congr rfl (Table.get?_set_ne _ _ (Ne.symm hrequest))

/-- An approval grants the register of its request. -/
theorem approve_moves (d : InboxDeployment τ) (now : τ) (approved : String)
    (principal : ApprovalPrincipal) (ttl_seconds : τ) (inbox : ApprovalInbox τ)
    (request_id : String) :
    Move (inboxObservation d request_id)
      (d.call (.approve now approved principal ttl_seconds) inbox).1
      (inbox.stage request_id)
      ((d.call (.approve now approved principal ttl_seconds) inbox).2.stage request_id) := by
  unfold InboxDeployment.call
  simp only
  cases hrun : inbox.approve d.settings now approved principal ttl_seconds with
  | error e =>
    refine rest_of_stage ?_ (by simp [InboxCall.enters]) ?_ rfl
    · intro _ _ _ record h
      cases h.answer
    · rintro ⟨-, hanswer⟩
      cases hanswer
  | ok r =>
    obtain ⟨record, inbox'⟩ := r
    obtain ⟨hfrozen, hnone, hfinite, hlimited, hallowed, -, hrole, hdeadline, hconsumed, rfl⟩ :=
      ApprovalInbox.approve_ok hrun
    have hfreezes : ¬ (⟨.approve now approved principal ttl_seconds,
        .approved (.ok record)⟩ : InboxCall τ).Freezes := by
      rintro ⟨-, hanswer⟩
      cases hanswer
    by_cases hrequest : approved = request_id
    · subst hrequest
      have hidle : inbox.stage approved = .idle := by
        unfold ApprovalInbox.stage
        rw [hfrozen, hnone]
        rfl
      have hgranted : ApprovalInbox.stage
          { inbox with approvals := inbox.approvals.set approved record } approved =
            .granted record := by
        rw [ApprovalInbox.stage_set hfrozen, hconsumed]
        rfl
      simp only [hidle]
      rw [hgranted]
      refine .grant ?_ ⟨now, principal, ttl_seconds,
        ⟨rfl, rfl, hfinite, hlimited, hallowed, hrole, hdeadline⟩⟩ ?_ hfreezes
      · rintro g ⟨_, _, _, h⟩
        have hanswer := h.answer
        cases hanswer
        rfl
      · simp [inboxObservation, InboxCall.enters]
    · refine rest_of_stage ?_ (by simp [InboxCall.enters]) hfreezes ?_
      · intro _ _ _ _ h
        have hop := h.op
        cases hop
        exact hrequest rfl
      · exact ApprovalInbox.stage_congr rfl (Table.get?_set_ne _ _ (Ne.symm hrequest))

/-- **Step lemma**: a call moves the register of every request as `OneShot`
    allows. -/
theorem inbox_moves (d : InboxDeployment τ) (op : InboxOp τ) (inbox : ApprovalInbox τ)
    (request_id : String) :
    Move (inboxObservation d request_id) (d.call op inbox).1 (inbox.stage request_id)
      ((d.call op inbox).2.stage request_id) := by
  cases op with
  | execute action s => exact execute_moves d action s inbox request_id
  | approve now approved principal ttl_seconds =>
    exact approve_moves d now approved principal ttl_seconds inbox request_id
  | park action digest required_role =>
    refine rest_of_stage ?_ (by simp [InboxDeployment.call, InboxCall.enters]) ?_
      (ApprovalInbox.stage_parkOn action digest required_role)
    · intro _ _ _ _ h
      cases h.op
    · rintro ⟨⟨reason, hop⟩, -⟩
      cases hop
  | freeze reason =>
    unfold InboxDeployment.call
    simp only
    cases hrun : inbox.freeze reason with
    | error e =>
      refine rest_of_stage ?_ (by simp [InboxCall.enters]) ?_ rfl
      · intro _ _ _ _ h
        cases h.op
      · rintro ⟨-, hanswer⟩
        cases hanswer
    | ok inbox' =>
      obtain rfl := ApprovalInbox.freeze_ok hrun
      have hclosed : ApprovalInbox.stage { inbox with frozen_reason := some reason } request_id =
          .closed := ApprovalInbox.stage_of_frozen rfl
      simp only
      rw [hclosed]
      refine .close ?_ (by simp [inboxObservation, InboxCall.enters])
      rintro g ⟨_, _, _, h⟩
      cases h.op

/-! ## Section 4: Histories -/

theorem InboxHistory.moves {log : List (InboxCall τ)} (h : InboxHistory d inbox log inbox')
    (request_id : String) :
    OneShot.Moves (inboxObservation d request_id) (inbox.stage request_id) log
      (inbox'.stage request_id) := by
  induction h with
  | nil => exact .nil
  | snoc op _ ih => exact ih.snoc (inbox_moves d op _ request_id)

theorem call_op (d : InboxDeployment τ) (op : InboxOp τ) (inbox : ApprovalInbox τ) :
    (d.call op inbox).1.op = op := by
  unfold InboxDeployment.call
  cases op with
  | execute action s => rfl
  | park action digest required_role => rfl
  | approve now approved principal ttl_seconds =>
    simp only
    cases inbox.approve d.settings now approved principal ttl_seconds with
    | error e => rfl
    | ok r => rfl
  | freeze reason =>
    simp only
    cases inbox.freeze reason with
    | error e => rfl
    | ok inbox' => rfl

/-- After a freeze nothing under review is entered. -/
theorem InboxHistory.frozen {pre post : List (InboxCall τ)} {c : InboxCall τ}
    (h : InboxHistory d inbox (pre ++ c :: post) inbox') (hc : c.Freezes) :
    ∀ x ∈ post, ¬ x.enters d.gateway.spec request_id = true := by
  obtain ⟨op, before, -, rfl, hpost⟩ := h.around
  obtain ⟨⟨reason, hop⟩, hanswer⟩ := hc
  rw [call_op] at hop
  subst hop
  have hfrozen : (d.call (.freeze reason) before).2.frozen_reason.isSome := by
    unfold InboxDeployment.call at hanswer ⊢
    simp only at hanswer ⊢
    cases hrun : before.freeze reason with
    | error e =>
      rw [hrun] at hanswer
      cases hanswer
    | ok inbox' =>
      obtain rfl := ApprovalInbox.freeze_ok hrun
      rfl
  have hmoves := hpost.moves request_id
  rw [ApprovalInbox.stage_of_frozen hfrozen] at hmoves
  intro x hx
  exact (hmoves.of_closed.2 x hx).2

end histories

/-! ## Section 5: The law of reviews -/

instance : FiniteTest Double := ⟨Double.isFinite⟩

/-- A finite window past a reading is not NaN. -/
theorem deadline_ne_nan {now ttl : Double} (hnow : now ≠ .nan)
    (httl : FiniteTest.isFinite ttl = true) : now + ttl ≠ .nan := by
  cases ttl with
  | nan => cases httl
  | infinity neg => cases httl
  | finite y hy =>
    cases now with
    | nan => exact absurd rfl hnow
    | infinity neg => exact nofun
    | finite x hx => exact Double.round_ne_nan

/-- The readings of the clock that a call is given. -/
def InboxOp.Reads (now : Double) : InboxOp Double → Prop
  | .execute _ s => s.now = now
  | .approve now' .. => now' = now
  | .freeze _ | .park .. => False

/-- **Review law**: in every history of a new inbox in which the clock never
    reads NaN, the handler of a tool under review is entered at most once for
    a request.  Before that an allowed principal of the required role approved
    the same digest, and the window of the approval is not over; nobody froze
    the inbox before.  If the handler raises, the execution is `INDETERMINATE`,
    and no later one enters it. -/
theorem reviewed_once (d : InboxDeployment Double) {log : List (InboxCall Double)}
    {inbox : ApprovalInbox Double} (h : InboxHistory d .empty log inbox)
    (hclock : ∀ c ∈ log, ∀ now, c.op.Reads now → now ≠ .nan) :
    (∀ request_id, log.countP (fun c => c.enters d.gateway.spec request_id) ≤ 1) ∧
    ∀ pre c post, log = pre ++ c :: post → ∀ request_id,
      c.enters d.gateway.spec request_id = true →
      ∃ action s result, c.op = .execute action s ∧ action.request_id = request_id ∧
        c.answer = .executed (some result) 1 ∧
        (∃ before a mid now principal ttl_seconds record, pre = before ++ a :: mid ∧
          a.op = .approve now request_id principal ttl_seconds ∧
          a.answer = .approved (.ok record) ∧ s.digest = .ok record.intent_digest ∧
          s.required_role = .ok (some principal.role) ∧
          principal.actor_id ∈ d.settings.allowed_approvers.actors principal.role ∧
          ¬ d.settings.max_ttl_seconds < ttl_seconds ∧ s.now < now + ttl_seconds) ∧
        (∀ x ∈ pre, ¬ x.Freezes) ∧
        (∀ e, s.output = .error e → result.status = .indeterminate) ∧
        ∀ x ∈ post, ¬ x.enters d.gateway.spec request_id = true := by
  constructor
  · intro request_id
    exact (h.moves request_id).spent_once _ fun c hc => hc
  · intro pre c post hlog request_id henters
    subst hlog
    obtain ⟨record, before, a, mid, rfl, ⟨now, principal, ttl_seconds, happroves⟩,
      ⟨action, s, hspends⟩, -, -, hpost⟩ := (h.moves request_id).spent henters
    obtain ⟨result, hanswer, hstatus⟩ := hspends.answer
    -- Both readings are numbers, so the deadline is one too.
    have happroved : now ≠ .nan :=
      hclock a (by simp) now (by rw [happroves.op]; rfl)
    have hread : s.now ≠ .nan := hclock c (by simp) s.now (by rw [hspends.op]; rfl)
    have hdeadline := deadline_ne_nan happroved happroves.finite
    have hnotover := hspends.deadline
    rw [happroves.deadline] at hnotover
    have hbefore : s.now < now + ttl_seconds :=
      ⟨(Double.le_total hread hdeadline).resolve_right hnotover, hnotover⟩
    refine ⟨action, s, result, hspends.op, hspends.request, hanswer,
      ⟨before, a, mid, now, principal, ttl_seconds, record, rfl, happroves.op, happroves.answer,
        hspends.digest, ?_, happroves.allowed, happroves.limited, hbefore⟩, ?_, hstatus, hpost⟩
    · rw [hspends.role, happroves.role]
    · intro x hx hfreezes
      obtain ⟨first, rest, hsplit⟩ := List.append_of_mem hx
      rw [hsplit, List.append_assoc, List.cons_append] at h
      exact h.frozen hfreezes c (by simp) henters

/-- An agent whose only tool is under review, and one controller with a minute. -/
def minuteDeployment : InboxDeployment Double where
  gateway := ⟨⟨[("crm.contact.read", .review)]⟩⟩
  settings :=
    { allowed_approvers := controllerStore.allowed_approvers
      max_ttl_seconds := .ofNat 60 minute_exact
      max_ttl_finite := rfl
      max_ttl_positive := by decide +kernel }

/-- Surroundings that answer well, at a reading of the clock. -/
def wellAt (now : Double) : Surroundings Double where
  validation := .ok .passed
  digest := .ok "digest-1"
  required_role := .ok (some .controller)
  now := now
  output := .ok .none

/-- A review: parked, approved for a minute, executed. -/
def reviewRun (approved_at executed_at : Double) :
    List (InboxCall Double) × ApprovalInbox Double :=
  let parked := minuteDeployment.call (.execute .contactRead (wellAt approved_at)) .empty
  let approved := minuteDeployment.call
    (.approve approved_at "request-1" controllerPrincipal (.ofNat 60 minute_exact)) parked.2
  let executed := minuteDeployment.call (.execute .contactRead (wellAt executed_at)) approved.2
  ([parked.1, approved.1, executed.1], executed.2)

theorem reviewRun_history (approved_at executed_at : Double) :
    InboxHistory minuteDeployment .empty (reviewRun approved_at executed_at).1
      (reviewRun approved_at executed_at).2 :=
  ((InboxHistory.nil.snoc _).snoc _).snoc _

theorem reviewRun_reads {approved_at executed_at now : Double} {c : InboxCall Double}
    (hc : c ∈ (reviewRun approved_at executed_at).1) (h : c.op.Reads now) :
    now = approved_at ∨ now = executed_at := by
  unfold reviewRun at hc
  simp only [List.mem_cons, List.not_mem_nil, or_false] at hc
  rcases hc with rfl | rfl | rfl
  · rw [call_op] at h
    exact Or.inl h.symm
  · rw [call_op] at h
    exact Or.inl h.symm
  · rw [call_op] at h
    exact Or.inr h.symm

/-- Approved and executed at zero, the handler is entered once. -/
theorem reviewed_once_minute :
    (reviewRun 0 0).1.countP (fun c => c.enters minuteDeployment.gateway.spec "request-1") ≤ 1 ∧
    ∃ c ∈ (reviewRun 0 0).1, c.enters minuteDeployment.gateway.spec "request-1" = true := by
  have hclock : ∀ c ∈ (reviewRun 0 0).1, ∀ now, c.op.Reads now → now ≠ .nan := by
    intro c hc now hreads
    rcases reviewRun_reads hc hreads with rfl | rfl
    · exact nofun
    · exact nofun
  exact ⟨(reviewed_once minuteDeployment (reviewRun_history 0 0) hclock).1 "request-1", _,
    List.getLast_mem (by simp [reviewRun]), by decide +kernel⟩

/-- An approval given when the clock read NaN is consumed at any later reading,
    and no reading lies within its minute. -/
theorem nan_approval_entered :
    InboxHistory minuteDeployment .empty (reviewRun .nan (.ofNat (2 ^ 40) (by decide))).1
      (reviewRun .nan (.ofNat (2 ^ 40) (by decide))).2 ∧
    ∃ c ∈ (reviewRun .nan (.ofNat (2 ^ 40) (by decide))).1,
      c.enters minuteDeployment.gateway.spec "request-1" = true ∧
      ∀ a ∈ (reviewRun .nan (.ofNat (2 ^ 40) (by decide))).1,
        ∀ now request_id principal ttl_seconds,
          a.op = .approve now request_id principal ttl_seconds →
          ∀ read : Double, ¬ read < now + ttl_seconds := by
  refine ⟨reviewRun_history _ _, _, List.getLast_mem (by simp [reviewRun]), by decide +kernel, ?_⟩
  intro a ha now request_id principal ttl_seconds hop read hlt
  unfold reviewRun at ha
  simp only [List.mem_cons, List.not_mem_nil, or_false] at ha
  rcases ha with rfl | rfl | rfl
  · rw [call_op] at hop
    cases hop
  · rw [call_op] at hop
    cases hop
    exact Double.not_le_nan hlt.1
  · rw [call_op] at hop
    cases hop

end CBrain

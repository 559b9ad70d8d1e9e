import CBrain.Company.DurableReview

/-! # Histories of the durable review store

    Any number of workers call their stores on one table, in any order.  A
    history is the list of the calls made so far with their answers, and the
    table they leave.  For every key, the history moves the register of its
    record as `OneShot` allows, which gives the laws of this file:

    * an approval is consumed at most once, and only one that was given for
      the same digest, is not past its time limit and was not frozen since;
    * a freeze is final for the requests that have a row when it runs, and
      for no other request that can be parked.
-/

namespace CBrain

open OneShot DurableReviewStore Transaction
open scoped Seconds

section calls

variable {τ : Type} [Seconds τ]

/-! ## Section 1: Calls -/

/-- The operations of a store, with their arguments. -/
inductive ReviewOp (τ : Type) where
  | park (action : ActionIntent) (digest : String) (required_role : ApprovalRole)
  | claimLease (request_id worker_id : String) (lease_seconds : Option τ)
  | releaseLease (request_id worker_id : String)
  | approve (request_id : String) (principal : ApprovalPrincipal) (ttl_seconds : τ)
  | consumeIfApproved (action : ActionIntent) (digest : String) (required_role : ApprovalRole)
  | freeze (reason : String)
  | get (request_id : String)

/-- What an operation returns. -/
inductive ReviewAnswer (τ : Type) where
  | record (r : ReviewRecord τ)
  | found (r : Option (ReviewRecord τ))
  | consumed (b : Bool)
  | done

/-- The operation as a transaction of a worker's store. -/
def ReviewOp.transaction (store : DurableReviewStore τ) :
    ReviewOp τ → Transaction τ (ReviewAnswer τ)
  | .park action digest required_role => .record <$> store.park action digest required_role
  | .claimLease request_id worker_id lease_seconds =>
    .record <$> store.claimLease request_id worker_id lease_seconds
  | .releaseLease request_id worker_id => .record <$> store.releaseLease request_id worker_id
  | .approve request_id principal ttl_seconds =>
    .record <$> store.approve request_id principal ttl_seconds
  | .consumeIfApproved action digest required_role =>
    .consumed <$> store.consumeIfApproved action digest required_role
  | .freeze reason => (fun _ => .done) <$> store.freeze reason
  | .get request_id => .found <$> store.get request_id

/-- A call that was made: the worker's store, the operation, the readings of
    the clock, how many of them the call took, and its answer. -/
structure ReviewCall (τ : Type) [Seconds τ] where
  store : DurableReviewStore τ
  op : ReviewOp τ
  clock : Nat → τ
  taken : Nat
  answer : Raises (ReviewAnswer τ)

/-- Run an operation in its transaction: commit when it returns, roll back
    when it raises. -/
def DurableReviewStore.call (store : DurableReviewStore τ) (op : ReviewOp τ) (clock : Nat → τ)
    (table : ReviewTable τ) : ReviewCall τ × ReviewTable τ :=
  match op.transaction store clock ⟨table, 0⟩ with
  | .error e => (⟨store, op, clock, 0, .error e⟩, table)
  | .ok (answer, s) => (⟨store, op, clock, s.taken, .ok answer⟩, s.table)

/-- What calls by any workers, with any arguments and clock readings, make of
    a table. -/
inductive ReviewHistory (table : ReviewTable τ) : List (ReviewCall τ) → ReviewTable τ → Prop
  | nil : ReviewHistory table [] table
  | snoc {log : List (ReviewCall τ)} {table' : ReviewTable τ} (store : DurableReviewStore τ)
      (op : ReviewOp τ) (clock : Nat → τ) :
      ReviewHistory table log table' →
      ReviewHistory table (log ++ [(store.call op clock table').1])
        (store.call op clock table').2

/-- A call returned, or raised and left the table alone. -/
theorem call_cases (store : DurableReviewStore τ) (op : ReviewOp τ) (clock : Nat → τ)
    (table : ReviewTable τ) :
    (∃ e, store.call op clock table = (⟨store, op, clock, 0, .error e⟩, table)) ∨
    ∃ answer s, Returns (op.transaction store) clock ⟨table, 0⟩ answer s ∧
      store.call op clock table = (⟨store, op, clock, s.taken, .ok answer⟩, s.table) := by
  unfold DurableReviewStore.call
  cases h : op.transaction store clock ⟨table, 0⟩ with
  | error e => exact Or.inl ⟨e, rfl⟩
  | ok r =>
    obtain ⟨answer, s⟩ := r
    exact Or.inr ⟨answer, s, h, rfl⟩

omit [Seconds τ] in
theorem Transaction.map_returns {α β : Type} {m : Transaction τ α} {f : α → β} {c : Nat → τ}
    {s s' : ReviewSession τ} {b : β} :
    Returns (f <$> m) c s b s' ↔ ∃ a, Returns m c s a s' ∧ b = f a := by
  show Returns (m >>= fun a => pure (f a)) c s b s' ↔ _
  rw [bind_returns]
  constructor
  · rintro ⟨a, s₁, hm, hpure⟩
    obtain ⟨rfl, rfl⟩ := pure_returns.mp hpure
    exact ⟨a, hm, rfl⟩
  · rintro ⟨a, hm, hb⟩
    exact ⟨a, s', hm, pure_returns.mpr ⟨hb, rfl⟩⟩

namespace ReviewCall

/-- The call is an approval of the key that returned this record. -/
def Approves (c : ReviewCall τ) (key : ReviewKey) (record : ReviewRecord τ) : Prop :=
  c.store.organisation_id = key.1 ∧ c.answer = .ok (.record record) ∧
    ∃ principal ttl_seconds, c.op = .approve key.2 principal ttl_seconds

/-- The call is a consumption of the key that answered `True`. -/
def consumes (c : ReviewCall τ) (key : ReviewKey) : Bool :=
  match c.op, c.answer with
  | .consumeIfApproved action _ _, .ok (.consumed b) =>
    b && decide ((c.store.organisation_id, action.request_id) = key)
  | _, _ => false

/-- The call froze an organisation. -/
def FreezesAll (c : ReviewCall τ) (organisation_id : String) : Prop :=
  c.store.organisation_id = organisation_id ∧ c.answer = .ok .done ∧
    ∃ reason, c.op = .freeze reason

/-- The call parked a request, or found it parked. -/
def Parks (c : ReviewCall τ) (key : ReviewKey) : Prop :=
  c.store.organisation_id = key.1 ∧ (∃ record, c.answer = .ok (.record record)) ∧
    ∃ action digest required_role, c.op = .park action digest required_role ∧
      action.request_id = key.2

theorem consumes_iff {c : ReviewCall τ} {key : ReviewKey} :
    c.consumes key = true ↔ ∃ action digest required_role,
      c.op = .consumeIfApproved action digest required_role ∧ c.answer = .ok (.consumed true) ∧
        (c.store.organisation_id, action.request_id) = key := by
  obtain ⟨store, op, clock, taken, answer⟩ := c
  unfold consumes
  constructor
  · intro h
    split at h
    · rename_i action digest required_role b hop hanswer
      obtain ⟨rfl, hkey⟩ : b = true ∧ (store.organisation_id, action.request_id) = key := by
        simpa using h
      exact ⟨action, digest, required_role, hop, hanswer, hkey⟩
    · cases h
  · rintro ⟨action, digest, required_role, hop, hanswer, hkey⟩
    simp only at hop hanswer hkey
    subst hop hanswer
    simp [hkey]

/-! ## Section 2: A call moves the register of each key -/

/-- The terms of an approval: an allowed principal of the required role, and
    a time limit counted from a reading of the clock. -/
structure OnTerms (c : ReviewCall τ) (key : ReviewKey) (principal : ApprovalPrincipal)
    (ttl_seconds : τ) (record : ReviewRecord τ) : Prop where
  store : c.store.organisation_id = key.1
  op : c.op = .approve key.2 principal ttl_seconds
  answer : c.answer = .ok (.record record)
  role : principal.role = record.required_role
  allowed : principal.actor_id ∈ c.store.allowed_approvers.actors principal.role
  deadline : ∃ i, i < c.taken ∧ record.approval_expires_at = some (c.clock i + ttl_seconds)

/-- The call fits a grant: it consumes for its digest and role, and has read
    the clock before the grant expires. -/
def Fits (c : ReviewCall τ) (g : ReviewGrant τ) : Prop :=
  (∃ action, c.op = .consumeIfApproved action g.intent_digest g.required_role) ∧
    ∀ t, g.approval_expires_at = some t → ∃ j, j < c.taken ∧ ¬ t ≤ c.clock j

end ReviewCall

/-- How the register of a key sees a call. -/
def reviewObservation (key : ReviewKey) : Observation (ReviewCall τ) (ReviewGrant τ) where
  grants c g := ∃ principal ttl_seconds record,
    c.OnTerms key principal ttl_seconds record ∧ record.grant = g
  spends c := c.consumes key = true
  fits c g := c.Fits g
  revokes c := c.FreezesAll key.1

/-- A call that leaves the record settled, and is none of the three. -/
theorem Settles.move {key : ReviewKey} {before after : Option (ReviewRecord τ)}
    {c : ReviewCall τ} (h : Settles key before after)
    (happrove : ∀ request_id principal ttl_seconds, c.op = .approve request_id principal ttl_seconds →
      (c.store.organisation_id, request_id) ≠ key)
    (hconsumes : c.consumes key ≠ true) (hfreeze : ∀ reason, c.op ≠ .freeze reason) :
    Move (reviewObservation key) c (reviewStage before) (reviewStage after) := by
  have hgrants : ∀ g, ¬ (reviewObservation key).grants c g := by
    rintro g ⟨principal, ttl_seconds, record, hterms, _⟩
    exact happrove key.2 principal ttl_seconds hterms.op (by rw [hterms.store])
  rcases h.stage with hstage | hstage
  · rw [hstage]
    apply Move.rest hgrants hconsumes
    rintro ⟨_, _, reason, hop⟩
    exact absurd hop (hfreeze reason)
  · rw [hstage]
    exact .close hgrants hconsumes

omit [Seconds τ] in
theorem stage_of_quiet {s s' : ReviewSession τ} {key : ReviewKey} {g : Stage (ReviewGrant τ)}
    (h : s.Quiet s') (hg : g ≠ .closed) (hstage : reviewStage (s'.table.record? key) = g) :
    reviewStage (s.table.record? key) = g := by
  rcases (h key).stage with hsame | hclosed
  · rw [← hsame]
    exact hstage
  · rw [hclosed] at hstage
    exact absurd hstage.symm hg

/-- **Step lemma**: a call moves the register of every key as `OneShot`
    allows. -/
theorem call_moves (store : DurableReviewStore τ) (op : ReviewOp τ) (clock : Nat → τ)
    (table : ReviewTable τ) (key : ReviewKey) :
    Move (reviewObservation key) (store.call op clock table).1
      (reviewStage (table.record? key))
      (reviewStage ((store.call op clock table).2.record? key)) := by
  rcases call_cases store op clock table with ⟨e, hcall⟩ | ⟨answer, s, hrun, hcall⟩
  · rw [hcall]
    apply Move.rest
    · rintro g ⟨_, _, _, hterms, _⟩
      cases hterms.answer
    · intro hconsumes
      obtain ⟨_, _, _, _, hanswer, _⟩ := ReviewCall.consumes_iff.mp hconsumes
      cases hanswer
    · rintro ⟨_, hanswer, _⟩
      cases hanswer
  · rw [hcall]
    -- An operation of another kind than approval, consumption and freeze settles.
    have hother : ∀ (h : (⟨table, 0⟩ : ReviewSession τ).Quiet s)
        (happrove : ∀ request_id principal ttl_seconds, op = .approve request_id principal ttl_seconds →
          (store.organisation_id, request_id) ≠ key)
        (hconsumes : ReviewCall.consumes ⟨store, op, clock, s.taken, .ok answer⟩ key ≠ true)
        (hfreeze : ∀ reason, op ≠ .freeze reason),
        Move (reviewObservation key) ⟨store, op, clock, s.taken, .ok answer⟩
          (reviewStage (table.record? key)) (reviewStage (s.table.record? key)) :=
      fun h happrove hconsumes hfreeze => (h key).move happrove hconsumes hfreeze
    cases op with
    | park action digest required_role =>
      obtain ⟨u, hpark, rfl⟩ := map_returns.mp hrun
      exact hother (park_ok hpark).1 (by simp) (by simp [ReviewCall.consumes]) (by simp)
    | claimLease request_id worker_id lease_seconds =>
      obtain ⟨u, hclaim, rfl⟩ := map_returns.mp hrun
      exact hother (claimLease_ok hclaim) (by simp) (by simp [ReviewCall.consumes]) (by simp)
    | releaseLease request_id worker_id =>
      obtain ⟨u, hrelease, rfl⟩ := map_returns.mp hrun
      exact hother (releaseLease_ok hrelease) (by simp) (by simp [ReviewCall.consumes]) (by simp)
    | get request_id =>
      obtain ⟨u, hget, rfl⟩ := map_returns.mp hrun
      exact hother (get_ok hget) (by simp) (by simp [ReviewCall.consumes]) (by simp)
    | approve request_id principal ttl_seconds =>
      obtain ⟨u, happrove, rfl⟩ := map_returns.mp hrun
      obtain ⟨⟨mid, hquiet, hwrote, r, hmid, hidle⟩, hkey, hstate, hrole, hallowed, _, hdeadline⟩ :=
        approve_ok happrove
      by_cases hsame : key = u.key
      · -- The key's own approval: the register was idle and holds the grant.
        have hbefore : reviewStage (table.record? key) = .idle := by
          apply stage_of_quiet hquiet (by simp)
          rw [hsame, hmid]
          exact hidle
        have hafter : reviewStage (s.table.record? key) = .granted u.grant := by
          rw [hsame, hwrote.self]
          simp [reviewStage, ReviewRecord.stage, hstate]
        rw [hbefore, hafter]
        rw [hkey] at hsame
        apply Move.grant
        · rintro g ⟨_, _, record, hterms, hg⟩
          obtain rfl : u = record := by
            have hanswer := hterms.answer
            simpa using hanswer
          exact hg.symm
        · exact ⟨principal, ttl_seconds, u,
            ⟨by rw [hsame], by rw [hsame], rfl, hrole, hallowed, hdeadline⟩, rfl⟩
        · simp [reviewObservation, ReviewCall.consumes]
        · rintro ⟨_, hanswer, _⟩
          cases hanswer
      · -- Another key.
        have hsettles : Settles key (table.record? key) (s.table.record? key) := by
          rw [hwrote.other hsame]
          exact hquiet key
        refine hsettles.move ?_ (by simp [ReviewCall.consumes]) (by simp)
        intro request_id' _ _ hop
        obtain ⟨rfl, _, _⟩ : request_id = request_id' ∧ _ ∧ _ := by simpa using hop
        intro he
        exact hsame (he ▸ hkey.symm)
    | consumeIfApproved action digest required_role =>
      obtain ⟨b, hconsume, rfl⟩ := map_returns.mp hrun
      cases b with
      | false =>
        exact hother (consumeIfApproved_false hconsume) (by simp) (by simp [ReviewCall.consumes])
          (by simp)
      | true =>
        obtain ⟨mid, r, u, hquiet, hwrote, hkey, hstate, hmid, hrstate, hdigest, hrole, hbefore⟩ :=
          consumeIfApproved_true hconsume
        by_cases hsame : key = u.key
        · -- The key's own consumption: the register held the grant and is closed.
          have hgranted : reviewStage (table.record? key) = .granted r.grant := by
            apply stage_of_quiet hquiet (by simp)
            rw [hsame, hmid]
            simp [reviewStage, ReviewRecord.stage, hrstate]
          have hafter : reviewStage (s.table.record? key) = .closed := by
            rw [hsame, hwrote.self]
            simp [reviewStage, ReviewRecord.stage, hstate]
          rw [hgranted, hafter]
          apply Move.spend
          · rintro g ⟨_, _, _, hterms, _⟩
            cases hterms.answer
          · exact ReviewCall.consumes_iff.mpr
              ⟨action, digest, required_role, rfl, rfl, (hsame.trans hkey).symm⟩
          · refine ⟨⟨action, ?_⟩, hbefore⟩
            show ReviewOp.consumeIfApproved action digest required_role = _
            rw [← hdigest, ← hrole]
            rfl
          · rintro ⟨_, hanswer, _⟩
            cases hanswer
        · -- Another key.
          have hsettles : Settles key (table.record? key) (s.table.record? key) := by
            rw [hwrote.other hsame]
            exact hquiet key
          refine hsettles.move (by simp) ?_ (by simp)
          intro hconsumes
          obtain ⟨action', _, _, hop, _, hkey'⟩ := ReviewCall.consumes_iff.mp hconsumes
          obtain ⟨rfl, _, _⟩ : action = action' ∧ _ ∧ _ := by simpa using hop
          exact hsame (hkey'.symm.trans hkey.symm)
    | freeze reason =>
      obtain ⟨_, hfreeze, rfl⟩ := map_returns.mp hrun
      obtain ⟨hown, hforeign⟩ := freeze_ok hfreeze key
      have hgrants : ∀ g, ¬ (reviewObservation key).grants
          ⟨store, .freeze reason, clock, s.taken, .ok .done⟩ g := by
        rintro g ⟨_, _, _, hterms, _⟩
        cases hterms.answer
      have hspends : ¬ (reviewObservation key).spends
          ⟨store, .freeze reason, clock, s.taken, .ok .done⟩ := by
        simp [reviewObservation, ReviewCall.consumes]
      by_cases horg : key.1 = store.organisation_id
      · have hfreezes := hown horg
        cases hrow : table.record? key with
        | none =>
          rw [hfreezes.absent hrow]
          exact .rest hgrants hspends fun _ g => by simp [reviewStage]
        | some r =>
          obtain ⟨r', hr', hfrozen⟩ := hfreezes.present r hrow
          have hclosed : reviewStage (s.table.record? key) = .closed := by
            rw [hr']
            simp [reviewStage, ReviewRecord.stage, hfrozen]
          rw [hclosed]
          exact .close hgrants hspends
      · rw [hforeign horg]
        apply Move.rest hgrants hspends
        rintro ⟨horganisation, _⟩
        exact absurd horganisation.symm horg

/-- **Run lemma**: a history moves the register of every key. -/
theorem ReviewHistory.moves {table table' : ReviewTable τ} {log : List (ReviewCall τ)}
    (h : ReviewHistory table log table') (key : ReviewKey) :
    OneShot.Moves (reviewObservation key) (reviewStage (table.record? key)) log
      (reviewStage (table'.record? key)) := by
  induction h with
  | nil => exact .nil
  | snoc store op clock _ ih => exact ih.snoc (call_moves store op clock _ key)

/-! ## Section 3: What a freeze ends -/

namespace ReviewCall

/-- The call got somewhere with the key: it parked, approved or consumed. -/
def Accepts (c : ReviewCall τ) (key : ReviewKey) : Prop :=
  c.Parks key ∨ (∃ record, c.Approves key record) ∨ c.consumes key = true

end ReviewCall

/-- A frozen record, or the absence of a row that no call can insert. -/
def Ended (key : ReviewKey) (record : Option (ReviewRecord τ)) : Prop :=
  (∃ r, record = some r ∧ r.state = .frozen) ∨ (record = none ∧ ¬ Storable key)

omit [Seconds τ] in
theorem Ended.settled {key : ReviewKey} {before after : Option (ReviewRecord τ)}
    (h : Ended key before) (hsettles : Settles key before after) : Ended key after := by
  rcases h with ⟨r, hr, hfrozen⟩ | ⟨hnone, hkey⟩
  · exact Or.inl ⟨r, (hsettles.frozen r hr hfrozen).trans hr, hfrozen⟩
  · cases hafter : after with
    | none => exact Or.inr ⟨rfl, hkey⟩
    | some r =>
      have hstorable := hsettles.born hnone (by rw [hafter]; rfl)
      exact absurd hstorable hkey

omit [Seconds τ] in
/-- A register whose key has ended is not granted, and if its record is
    there, not idle. -/
theorem Ended.stage {key : ReviewKey} {r : ReviewRecord τ} (h : Ended key (some r)) :
    r.stage = .closed := by
  rcases h with ⟨r', hr', hfrozen⟩ | ⟨hnone, _⟩
  · obtain rfl := Option.some.inj hr'
    simp [ReviewRecord.stage, hfrozen]
  · cases hnone

/-- A call accepts nothing for a key that has ended, which stays ended. -/
theorem call_of_ended (store : DurableReviewStore τ) (op : ReviewOp τ) (clock : Nat → τ)
    {table : ReviewTable τ} {key : ReviewKey} (h : Ended key (table.record? key)) :
    ¬ (store.call op clock table).1.Accepts key ∧
      Ended key ((store.call op clock table).2.record? key) := by
  rcases call_cases store op clock table with ⟨e, hcall⟩ | ⟨answer, s, hrun, hcall⟩
  · rw [hcall]
    refine ⟨?_, h⟩
    rintro (⟨_, ⟨_, hanswer⟩, _⟩ | ⟨_, _, hanswer, _⟩ | hconsumes)
    · cases hanswer
    · cases hanswer
    · obtain ⟨_, _, _, _, hanswer, _⟩ := ReviewCall.consumes_iff.mp hconsumes
      cases hanswer
  · rw [hcall]
    -- Kinds of operations that never accept.
    have hother : ∀ (hquiet : (⟨table, 0⟩ : ReviewSession τ).Quiet s)
        (hnot : ¬ ReviewCall.Accepts ⟨store, op, clock, s.taken, .ok answer⟩ key),
        ¬ ReviewCall.Accepts ⟨store, op, clock, s.taken, .ok answer⟩ key ∧
          Ended key (s.table.record? key) :=
      fun hquiet hnot => ⟨hnot, h.settled (hquiet key)⟩
    cases op with
    | park action digest required_role =>
      obtain ⟨u, hpark, rfl⟩ := map_returns.mp hrun
      obtain ⟨hquiet, hself, hfrozen⟩ := park_ok hpark
      apply hother hquiet
      rintro (⟨horg, _, action', _, _, hop, hid⟩ | ⟨_, _, _, _, _, hop⟩ | hconsumes)
      · -- The record it leaves would be frozen, or could not be inserted.
        obtain ⟨rfl, _, _⟩ : action = action' ∧ _ ∧ _ := by simpa using hop
        have hkey : (store.organisation_id, action.request_id) = key := Prod.ext horg hid
        rw [hkey] at hself hfrozen
        rcases h with ⟨r, hr, hstate⟩ | ⟨hnone, hunstorable⟩
        · exact hfrozen r hr hstate
        · exact hunstorable ((hquiet key).born hnone (by rw [hself]; rfl))
      · cases hop
      · simp [ReviewCall.consumes] at hconsumes
    | claimLease request_id worker_id lease_seconds =>
      obtain ⟨u, hclaim, rfl⟩ := map_returns.mp hrun
      exact hother (claimLease_ok hclaim)
        (by simp [ReviewCall.Accepts, ReviewCall.Parks, ReviewCall.Approves, ReviewCall.consumes])
    | releaseLease request_id worker_id =>
      obtain ⟨u, hrelease, rfl⟩ := map_returns.mp hrun
      exact hother (releaseLease_ok hrelease)
        (by simp [ReviewCall.Accepts, ReviewCall.Parks, ReviewCall.Approves, ReviewCall.consumes])
    | get request_id =>
      obtain ⟨u, hget, rfl⟩ := map_returns.mp hrun
      exact hother (get_ok hget)
        (by simp [ReviewCall.Accepts, ReviewCall.Parks, ReviewCall.Approves, ReviewCall.consumes])
    | approve request_id principal ttl_seconds =>
      obtain ⟨u, happrove, rfl⟩ := map_returns.mp hrun
      obtain ⟨⟨mid, hquiet, hwrote, r, hmid, hidle⟩, hkey, _⟩ := approve_ok happrove
      have hended : Ended key (mid.table.record? key) := h.settled (hquiet key)
      -- The approved record was idle, so it is another one.
      have hne : key ≠ u.key := by
        intro hsame
        rw [hsame, hmid] at hended
        have hclosed := hended.stage
        rw [hidle] at hclosed
        cases hclosed
      refine ⟨?_, by rw [hwrote.other hne]; exact hended⟩
      rintro (⟨_, _, _, _, _, hop, _⟩ | ⟨_, horg, _, _, _, hop⟩ | hconsumes)
      · cases hop
      · obtain ⟨hid, _, _⟩ : request_id = key.2 ∧ _ ∧ _ := by simpa using hop
        exact hne (by rw [hkey]; exact Prod.ext horg.symm hid.symm)
      · simp [ReviewCall.consumes] at hconsumes
    | consumeIfApproved action digest required_role =>
      obtain ⟨b, hconsume, rfl⟩ := map_returns.mp hrun
      cases b with
      | false =>
        exact hother (consumeIfApproved_false hconsume)
          (by simp [ReviewCall.Accepts, ReviewCall.Parks, ReviewCall.Approves, ReviewCall.consumes])
      | true =>
        obtain ⟨mid, r, u, hquiet, hwrote, hkey, _, hmid, hstate, _⟩ :=
          consumeIfApproved_true hconsume
        have hended : Ended key (mid.table.record? key) := h.settled (hquiet key)
        have hne : key ≠ u.key := by
          intro hsame
          rw [hsame, hmid] at hended
          have hclosed := hended.stage
          simp [ReviewRecord.stage, hstate] at hclosed
        refine ⟨?_, by rw [hwrote.other hne]; exact hended⟩
        rintro (⟨_, _, _, _, _, hop, _⟩ | ⟨_, _, _, _, _, hop⟩ | hconsumes)
        · cases hop
        · cases hop
        · obtain ⟨action', _, _, hop, _, hkey'⟩ := ReviewCall.consumes_iff.mp hconsumes
          obtain ⟨rfl, _, _⟩ : action = action' ∧ _ ∧ _ := by simpa using hop
          exact hne (hkey'.symm.trans hkey.symm)
    | freeze reason =>
      obtain ⟨_, hfreeze, rfl⟩ := map_returns.mp hrun
      obtain ⟨hown, hforeign⟩ := freeze_ok hfreeze key
      refine ⟨by simp [ReviewCall.Accepts, ReviewCall.Parks, ReviewCall.Approves,
        ReviewCall.consumes], ?_⟩
      by_cases horg : key.1 = store.organisation_id
      · rcases h with ⟨r, hr, hstate⟩ | ⟨hnone, hkey⟩
        · exact Or.inl ⟨r, ((hown horg).again r hr hstate).trans hr, hstate⟩
        · exact Or.inr ⟨(hown horg).absent hnone, hkey⟩
      · have hsame : s.table.record? key = table.record? key := hforeign horg
        rw [hsame]
        exact h

/-- A history accepts nothing for a key that has ended. -/
theorem ReviewHistory.of_ended {table table' : ReviewTable τ} {log : List (ReviewCall τ)}
    (h : ReviewHistory table log table') {key : ReviewKey} (hended : Ended key (table.record? key)) :
    Ended key (table'.record? key) ∧ ∀ c ∈ log, ¬ c.Accepts key := by
  induction h with
  | nil => exact ⟨hended, fun c hc => by cases hc⟩
  | snoc store op clock _ ih =>
    obtain ⟨hbefore, hquiet⟩ := ih
    obtain ⟨hnot, hafter⟩ := call_of_ended store op clock hbefore
    refine ⟨hafter, ?_⟩
    intro c hc
    rcases List.mem_append.mp hc with hmem | hmem
    · exact hquiet c hmem
    · obtain rfl := List.mem_singleton.mp hmem
      exact hnot

/-! ## Section 4: A request that can still be parked -/

theorem call_of_returns {store : DurableReviewStore τ} {op : ReviewOp τ} {clock : Nat → τ}
    {table : ReviewTable τ} {answer : ReviewAnswer τ} {s : ReviewSession τ}
    (h : Returns (op.transaction store) clock ⟨table, 0⟩ answer s) :
    store.call op clock table = (⟨store, op, clock, s.taken, .ok answer⟩, s.table) := by
  have h' : op.transaction store clock ⟨table, 0⟩ = .ok (answer, s) := h
  unfold DurableReviewStore.call
  rw [h']

/-- A record that was just loaded can be replaced. -/
theorem replace_returns (store : DurableReviewStore τ) {record : ReviewRecord τ}
    (r : Replacement τ) (clock : Nat → τ) {s : ReviewSession τ}
    (h : s.table.record? record.key = some record) :
    ∃ s', Returns (store.replace record r) clock s (record.updated r) s' := by
  obtain ⟨row, hrow, hrecord⟩ := Option.map_eq_some_iff.mp h
  have hversion : row.record.version = record.version := by rw [← hrecord]
  obtain ⟨events, hevents⟩ : ∃ events,
      Returns (store.events record.request_id) clock s events s := ⟨_, rfl⟩
  have hupdate : ∀ event_log, ∃ s', Returns (updateRow record (record.updated r) event_log) clock
      { s with taken := s.taken + 1 } 1 s' := by
    intro event_log
    refine ⟨{ table := s.table.set record.key ⟨record.updated r, event_log⟩,
              taken := s.taken + 1 }, ?_⟩
    have hget : s.table.get? (record.organisation_id, record.request_id) = some row := hrow
    unfold Returns updateRow
    simp only [hget, hversion, if_true]
    rfl
  obtain ⟨s', hs'⟩ := hupdate (events ++ [⟨clock s.taken, r.event, (record.updated r).state,
    some (record.updated r).version⟩])
  refine ⟨s', bind_returns.mpr ⟨events, s, hevents, bind_returns.mpr
    ⟨clock s.taken, _, clock_returns.mpr ⟨rfl, rfl⟩, bind_returns.mpr ⟨1, s', hs', ?_⟩⟩⟩⟩
  rw [if_neg (not_not.mpr rfl)]
  exact pure_returns.mpr ⟨rfl, rfl⟩

/-- A storable request without a row can be parked. -/
theorem park_returns (store : DurableReviewStore τ) (action : ActionIntent) {digest : String}
    (required_role : ApprovalRole) (clock : Nat → τ) {s : ReviewSession τ}
    (hdigest : nonBlank digest = true) (hlength : sqlLength digest ≠ 0)
    (hkey : Storable (store.organisation_id, action.request_id))
    (hnone : s.table.record? (store.organisation_id, action.request_id) = none) :
    ∃ u s', Returns (store.park action digest required_role) clock s u s' ∧
      s'.table.record? (store.organisation_id, action.request_id) = some u ∧
      u.state = .parked ∧ u.intent_digest = digest ∧ u.required_role = required_role := by
  let u : ReviewRecord τ :=
    ⟨store.organisation_id, action.request_id, digest, required_role, .parked, none, none, none,
      none, none, none, none, 1⟩
  have hfree : s.table.get? u.key = none := Option.map_eq_none_iff.mp hnone
  have hinsert : Returns (insert u "parked") clock s ()
      ⟨s.table.set u.key ⟨u, [⟨clock s.taken, "parked", .parked, none⟩]⟩, s.taken + 1⟩ := by
    apply bind_returns.mpr
    refine ⟨clock s.taken, _, clock_returns.mpr ⟨rfl, rfl⟩, ?_⟩
    have hnew : s.table.insert? u.key ⟨u, [⟨clock s.taken, "parked", .parked, none⟩]⟩ = some _ :=
      Table.insert?_eq_some.mpr ⟨hfree, rfl⟩
    unfold Returns insertRow
    simp only [u] at hnew ⊢
    rw [if_neg hkey.2.1, if_neg hkey.2.2, if_neg hlength]
    simp only [ReviewRecord.key] at hnew
    rw [hnew]
    rfl
  refine ⟨u, _, ?_, (insert_ok hinsert).2.1.self, rfl, rfl, rfl⟩
  unfold park
  rw [if_neg (by simp [hdigest])]
  apply bind_returns.mpr
  refine ⟨none, s, load_ok.mpr ⟨hnone.symm, rfl⟩, ?_⟩
  exact bind_returns.mpr ⟨(), _, hinsert, pure_returns.mpr ⟨rfl, rfl⟩⟩

/-- A parked request can be approved by an allowed principal. -/
theorem approve_returns (store : DurableReviewStore τ) (principal : ApprovalPrincipal)
    (ttl_seconds : τ) (clock : Nat → τ) {s : ReviewSession τ} {request_id : String}
    {u : ReviewRecord τ}
    (hrow : s.table.record? (store.organisation_id, request_id) = some u)
    (hstate : u.state = .parked) (hrole : principal.role = u.required_role)
    (hallowed : principal.actor_id ∈ store.allowed_approvers.actors principal.role)
    (httl : ¬ (ttl_seconds ≤ 0 ∨ store.max_ttl_seconds < ttl_seconds)) :
    ∃ u' s', Returns (store.approve request_id principal ttl_seconds) clock s u' s' ∧
      s'.table.record? (store.organisation_id, request_id) = some u' ∧ u'.state = .approved ∧
      u'.intent_digest = u.intent_digest ∧ u'.required_role = u.required_role ∧
      u'.approval_expires_at = some (clock s.taken + ttl_seconds) := by
  have hkey := ReviewTable.key_of_record? hrow
  let r : Replacement τ :=
    { event := "approved", state := some .approved, clear_lease := true, set_approval := true,
      actor_id := some principal.actor_id, approved_at := some (clock s.taken),
      approval_expires_at := some (clock s.taken + ttl_seconds) }
  obtain ⟨s', hreplace⟩ := replace_returns store r clock
    (s := { s with taken := s.taken + 1 }) (record_of_load hrow)
  have hself := (replace_ok hreplace).2.2.self
  rw [show (u.updated r).key = u.key from rfl, hkey] at hself
  refine ⟨u.updated r, s', ?_, hself, rfl, rfl, rfl, rfl⟩
  unfold approve
  rw [if_neg httl]
  apply bind_returns.mpr
  refine ⟨some u, s, ?_, ?_⟩
  · -- The record is not leased, so nothing expires.
    apply bind_returns.mpr
    refine ⟨some u, s, load_ok.mpr ⟨hrow.symm, rfl⟩, ?_⟩
    simp only [hstate]
    exact pure_returns.mpr ⟨rfl, rfl⟩
  · simp only
    rw [if_neg (by simp [hstate]), if_neg (by simp [hstate]), if_neg (not_not.mpr hrole),
      if_neg (not_not.mpr hallowed)]
    exact bind_returns.mpr ⟨clock s.taken, _, clock_returns.mpr ⟨rfl, rfl⟩, hreplace⟩

/-- An approved request can be consumed before the approval expires. -/
theorem consumeIfApproved_returns (store : DurableReviewStore τ) (action : ActionIntent)
    (clock : Nat → τ) {s : ReviewSession τ} {u : ReviewRecord τ} {t : τ}
    (hrow : s.table.record? (store.organisation_id, action.request_id) = some u)
    (hstate : u.state = .approved) (hdeadline : u.approval_expires_at = some t)
    (hclock : ∀ n, ¬ t ≤ clock n) :
    ∃ s', Returns (store.consumeIfApproved action u.intent_digest u.required_role) clock s true
      s' := by
  have hpassed : ∀ s : ReviewSession τ, Returns (passed u.approval_expires_at) clock s false
      { s with taken := s.taken + 1 } := by
    intro s
    rw [hdeadline]
    apply bind_returns.mpr
    refine ⟨clock s.taken, _, clock_returns.mpr ⟨rfl, rfl⟩, pure_returns.mpr ⟨?_, rfl⟩⟩
    exact (decide_eq_false (hclock s.taken)).symm
  let r : Replacement τ :=
    { event := "consumed", state := some .consumed, set_consumed := true,
      consumed_at := some (clock (s.taken + 1 + 1)) }
  obtain ⟨s', hreplace⟩ := replace_returns store r clock
    (s := { s with taken := s.taken + 1 + 1 + 1 }) (record_of_load hrow)
  refine ⟨s', bind_returns.mpr ⟨some u, { s with taken := s.taken + 1 }, ?_, ?_⟩⟩
  · apply bind_returns.mpr
    refine ⟨some u, s, load_ok.mpr ⟨hrow.symm, rfl⟩, ?_⟩
    simp only [hstate, if_true]
    exact bind_returns.mpr ⟨false, _, hpassed s, pure_returns.mpr ⟨rfl, rfl⟩⟩
  · simp only
    rw [if_neg (by simp [hstate]), if_neg (by simp [hstate]), if_neg (by simp)]
    refine bind_returns.mpr ⟨false, _, hpassed _, ?_⟩
    simp only [Bool.false_eq_true, if_false]
    refine bind_returns.mpr ⟨clock (s.taken + 1 + 1), _, clock_returns.mpr ⟨rfl, rfl⟩, ?_⟩
    exact bind_returns.mpr ⟨_, s', hreplace, pure_returns.mpr ⟨rfl, rfl⟩⟩

end calls

/-! ## Section 5: Consumed once -/

section consumption

variable {τ : Type} [LinearOrder τ] [Add τ] [Zero τ]

/-- **At most one consumption, of a valid approval.**  For numbers that
    compare as numbers do: in every history of one database, at most one
    consumption of a request answers `True`.  Before it an approval of the
    request returned a record for the same digest, given by an allowed
    principal of the required role; the consuming call read its clock before
    the approval expires, and nobody froze the organisation in between. -/
theorem consumed_at_most_once {log : List (ReviewCall τ)} {table : ReviewTable τ}
    (h : ReviewHistory .empty log table) :
    (∀ key, log.countP (fun c => c.consumes key) ≤ 1) ∧
    ∀ pre c post, log = pre ++ c :: post → ∀ action digest required_role,
      c.op = .consumeIfApproved action digest required_role → c.answer = .ok (.consumed true) →
      ∃ before a mid principal ttl_seconds record, pre = before ++ a :: mid ∧
        a.store.organisation_id = c.store.organisation_id ∧
        a.op = .approve action.request_id principal ttl_seconds ∧
        a.answer = .ok (.record record) ∧ record.intent_digest = digest ∧
        record.required_role = required_role ∧ principal.role = required_role ∧
        principal.actor_id ∈ a.store.allowed_approvers.actors required_role ∧
        (∃ i, i < a.taken ∧ record.approval_expires_at = some (a.clock i + ttl_seconds) ∧
          ∃ j, j < c.taken ∧ c.clock j < a.clock i + ttl_seconds) ∧
        ∀ x ∈ mid, ¬ x.FreezesAll c.store.organisation_id := by
  constructor
  · intro key
    exact (h.moves key).spent_once _ fun c hc => hc
  · intro pre c post hlog action digest required_role hop hanswer
    subst hlog
    have hspends : (reviewObservation (c.store.organisation_id, action.request_id)).spends c :=
      ReviewCall.consumes_iff.mpr ⟨action, digest, required_role, hop, hanswer, rfl⟩
    obtain ⟨g, before, a, mid, hpre, hgrants, hfits, _, hmid, _⟩ := (h.moves _).spent hspends
    obtain ⟨principal, ttl_seconds, record, hterms, rfl⟩ := hgrants
    obtain ⟨⟨action', hop'⟩, hbefore⟩ := hfits
    obtain ⟨rfl, hdigest, hrole⟩ : action = action' ∧ digest = record.intent_digest ∧
        required_role = record.required_role := by
      rw [hop] at hop'
      simpa [ReviewRecord.grant] using hop'
    have hprincipal : principal.role = required_role := hterms.role.trans hrole.symm
    have hallowed := hterms.allowed
    rw [hprincipal] at hallowed
    obtain ⟨i, hi, hdeadline⟩ := hterms.deadline
    obtain ⟨j, hj, hclock⟩ := hbefore _ hdeadline
    exact ⟨before, a, mid, principal, ttl_seconds, record, hpre, hterms.store, hterms.op,
      hterms.answer, hdigest.symm, hrole.symm, hprincipal, hallowed,
      ⟨i, hi, hdeadline, j, hj, not_le.mp hclock⟩, hmid⟩

/-- The store of a worker that knows one controller. -/
def controllerStore : DurableReviewStore Int where
  organisation_id := "acme"
  allowed_approvers :=
    { actors := fun role => if role = .controller then ["controller-1"] else []
      actors_text := by
        intro role
        cases role <;> decide }
  max_ttl_seconds := 3600
  max_lease_seconds := 60
  organisation_id_text := by decide
  windows_positive := by decide

/-- A controller. -/
def controllerPrincipal : ApprovalPrincipal := ⟨"controller-1", .controller, by decide⟩

/-- The controller's store parks, approves and consumes a request, on a table
    and with clocks that stand at zero. -/
def approvalRun (table : ReviewTable Int) : List (ReviewCall Int) × ReviewTable Int :=
  let parked := controllerStore.call (.park .contactRead "digest-1" .controller) (fun _ => 0) table
  let approved := controllerStore.call (.approve "request-1" controllerPrincipal 60) (fun _ => 0)
    parked.2
  let consumed := controllerStore.call (.consumeIfApproved .contactRead "digest-1" .controller)
    (fun _ => 0) approved.2
  ([parked.1, approved.1, consumed.1], consumed.2)

theorem approvalRun_history (table : ReviewTable Int) :
    ReviewHistory table (approvalRun table).1 (approvalRun table).2 :=
  ((ReviewHistory.nil.snoc _ _ _).snoc _ _ _).snoc _ _ _

/-- In such a run one consumption answers `True`. -/
theorem consumed_at_most_once_controller :
    (approvalRun .empty).1.countP (fun c => c.consumes ("acme", "request-1")) ≤ 1 ∧
    ∃ c ∈ (approvalRun .empty).1, c.consumes ("acme", "request-1") = true :=
  ⟨(consumed_at_most_once (approvalRun_history .empty)).1 _, _, List.getLast_mem (by simp [approvalRun]),
    by decide⟩

end consumption

/-! ## Section 6: A freeze is final for the rows it finds -/

section freezing

variable {τ : Type} [LinearOrder τ] [AddZeroClass τ]

/-- A storable request without a row can be parked, approved and consumed. -/
theorem consumable_of_absent (store : DurableReviewStore τ) (table : ReviewTable τ)
    (request_id : String) (hkey : Storable (store.organisation_id, request_id))
    (hnone : table.record? (store.organisation_id, request_id) = none) :
    ∃ log table', ReviewHistory table log table' ∧
      (∃ c ∈ log, ∃ record, c.Approves (store.organisation_id, request_id) record) ∧
      ∃ c ∈ log, c.consumes (store.organisation_id, request_id) = true := by
  let action : ActionIntent :=
    { ActionIntent.contactRead with request_id := request_id, request_id_text := hkey.1 }
  let principal : ApprovalPrincipal := controllerPrincipal
  let worker : DurableReviewStore τ :=
    { store with allowed_approvers := controllerStore.allowed_approvers }
  let ttl_seconds : τ := worker.max_ttl_seconds
  have httl : ¬ (ttl_seconds ≤ 0 ∨ worker.max_ttl_seconds < ttl_seconds) := by
    rintro (hle | hlt)
    · exact worker.windows_positive (Or.inl hle)
    · exact lt_irrefl _ hlt
  have hnotyet : ∀ n : Nat, ¬ (0 : τ) + ttl_seconds ≤ (fun _ => 0) n := by
    intro n hle
    rw [zero_add] at hle
    exact worker.windows_positive (Or.inl hle)
  obtain ⟨u, s₁, hpark, hrow, hstate, hdigest, hrole⟩ :=
    park_returns worker action .controller (fun _ => 0) (s := ⟨table, 0⟩)
      (show nonBlank "digest-1" = true by decide) (by decide) hkey hnone
  obtain ⟨u', s₂, happrove, hrow', hstate', hdigest', hrole', hdeadline⟩ :=
    approve_returns worker principal ttl_seconds (fun _ => 0) (s := ⟨s₁.table, 0⟩) hrow hstate hrole.symm
      (show _ ∈ controllerStore.allowed_approvers.actors .controller by decide) httl
  obtain ⟨s₃, hconsume⟩ := consumeIfApproved_returns worker action (fun _ => 0)
    (s := ⟨s₂.table, 0⟩) hrow' hstate' hdeadline hnotyet
  -- The three calls, one after the other.
  have hcall₁ : worker.call (.park action "digest-1" .controller) (fun _ => 0) table = _ :=
    call_of_returns (map_returns.mpr ⟨u, hpark, rfl⟩)
  have hcall₂ : worker.call (.approve request_id principal ttl_seconds) (fun _ => 0)
      s₁.table = _ := call_of_returns (map_returns.mpr ⟨u', happrove, rfl⟩)
  have hcall₃ : worker.call (.consumeIfApproved action u'.intent_digest u'.required_role)
      (fun _ => 0) s₂.table = _ := call_of_returns (map_returns.mpr ⟨true, hconsume, rfl⟩)
  have hparked : ReviewHistory table _ _ :=
    ReviewHistory.nil.snoc worker (.park action "digest-1" .controller) fun _ => 0
  rw [hcall₁] at hparked
  have happroved := hparked.snoc worker (.approve request_id principal ttl_seconds) fun _ => 0
  rw [hcall₂] at happroved
  have hconsumed := happroved.snoc worker
    (.consumeIfApproved action u'.intent_digest u'.required_role) fun _ => 0
  rw [hcall₃] at hconsumed
  have happroves : ReviewCall.Approves (⟨worker, .approve request_id principal ttl_seconds,
      fun _ => 0, s₂.taken, .ok (.record u')⟩ : ReviewCall τ)
      (store.organisation_id, request_id) u' := ⟨rfl, rfl, _, _, rfl⟩
  exact ⟨_, _, hconsumed, ⟨_, List.mem_append_left _ (List.mem_append_right _
      (List.mem_singleton_self _)), u', happroves⟩, _,
    List.mem_append_right _ (List.mem_singleton_self _),
    ReviewCall.consumes_iff.mpr ⟨_, _, _, rfl, rfl, rfl⟩⟩

/-- **What a freeze ends.**  After a freeze that returned, no later call by
    any worker approves a request of the organisation, and none consumes it,
    if and only if the request had a row when the freeze ran, or can have
    none; and if it had a row, no later call parks it either. -/
theorem freeze_final_iff (store : DurableReviewStore τ) (reason : String) (clock : Nat → τ)
    (table : ReviewTable τ) (request_id : String)
    (hfreeze : (store.call (.freeze reason) clock table).1.answer = .ok .done) :
    ((∀ log table', ReviewHistory (store.call (.freeze reason) clock table).2 log table' →
        ∀ c ∈ log, ∀ record, ¬ c.Approves (store.organisation_id, request_id) record) ↔
      ((table.record? (store.organisation_id, request_id)).isSome ∨
        ¬ Storable (store.organisation_id, request_id))) ∧
    ((∀ log table', ReviewHistory (store.call (.freeze reason) clock table).2 log table' →
        ∀ c ∈ log, c.consumes (store.organisation_id, request_id) = false) ↔
      ((table.record? (store.organisation_id, request_id)).isSome ∨
        ¬ Storable (store.organisation_id, request_id))) ∧
    ((table.record? (store.organisation_id, request_id)).isSome →
      ∀ log table', ReviewHistory (store.call (.freeze reason) clock table).2 log table' →
        ∀ c ∈ log, ¬ c.Parks (store.organisation_id, request_id)) := by
  let key : ReviewKey := (store.organisation_id, request_id)
  -- What the freeze left for the key.
  have hleft : Freezes (table.record? key)
      ((store.call (.freeze reason) clock table).2.record? key) := by
    rcases call_cases store (.freeze reason) clock table with ⟨e, hcall⟩ | ⟨answer, s, hrun, hcall⟩
    · rw [hcall] at hfreeze
      cases hfreeze
    · rw [hcall]
      obtain ⟨_, hrun', _⟩ := map_returns.mp hrun
      exact (freeze_ok hrun' key).1 rfl
  have hended : ((table.record? key).isSome ∨ ¬ Storable key) →
      Ended key ((store.call (.freeze reason) clock table).2.record? key) := by
    intro hrow
    cases hbefore : table.record? key with
    | some r => exact Or.inl (hleft.present r hbefore)
    | none =>
      rw [hbefore] at hrow
      exact Or.inr ⟨hleft.absent hbefore, hrow.resolve_left (by simp)⟩
  -- A request that can still get a row goes through after the freeze.
  have hopen : ¬ ((table.record? key).isSome ∨ ¬ Storable key) →
      ∃ log table', ReviewHistory (store.call (.freeze reason) clock table).2 log table' ∧
        (∃ c ∈ log, ∃ record, c.Approves key record) ∧ ∃ c ∈ log, c.consumes key = true := by
    intro hcan
    obtain ⟨hnorow, hstorable⟩ := not_or.mp hcan
    have hnone : table.record? key = none := by simpa using hnorow
    exact consumable_of_absent store _ request_id (not_not.mp hstorable) (hleft.absent hnone)
  refine ⟨⟨?_, ?_⟩, ⟨?_, ?_⟩, ?_⟩
  · intro hfinal
    by_contra hcan
    obtain ⟨log, table', hlog, ⟨c, hc, record, happroves⟩, _⟩ := hopen hcan
    exact hfinal log table' hlog c hc record happroves
  · intro hrow log table' hlog c hc record happroves
    exact (hlog.of_ended (hended hrow)).2 c hc (Or.inr (Or.inl ⟨record, happroves⟩))
  · intro hfinal
    by_contra hcan
    obtain ⟨log, table', hlog, _, c, hc, hconsumes⟩ := hopen hcan
    rw [hfinal log table' hlog c hc] at hconsumes
    cases hconsumes
  · intro hrow log table' hlog c hc
    by_contra hconsumes
    exact (hlog.of_ended (hended hrow)).2 c hc (Or.inr (Or.inr (by simpa using hconsumes)))
  · intro hsome log table' hlog c hc hparks
    exact (hlog.of_ended (hended (Or.inl hsome))).2 c hc (Or.inl hparks)

/-- The requests of the controller's organisation are frozen. -/
def frozenCall (table : ReviewTable Int) : ReviewCall Int × ReviewTable Int :=
  controllerStore.call (.freeze "incident") (fun _ => 0) table

/-- A freeze of the empty table does not hold for a request parked later. -/
theorem freeze_final_iff_incident :
    ¬ ∀ log table', ReviewHistory (frozenCall .empty).2 log table' →
        ∀ c ∈ log, c.consumes ("acme", "request-1") = false := by
  intro hfinal
  have hiff := (freeze_final_iff controllerStore "incident" (fun _ => 0) .empty "request-1" rfl).2.1
  rcases hiff.mp hfinal with hrow | hkey
  · cases hrow
  · exact hkey ⟨by decide, by decide, by decide⟩

/-- After a freeze of the organisation, one of its requests is parked,
    approved and consumed. -/
theorem frozen_store_consumes :
    ∃ (log : List (ReviewCall Int)) (table : ReviewTable Int),
      ReviewHistory .empty log table ∧ ∃ freeze park approve consume record,
      log = [freeze, park, approve, consume] ∧ freeze.FreezesAll "acme" ∧
      park.Parks ("acme", "request-1") ∧ approve.Approves ("acme", "request-1") record ∧
      consume.consumes ("acme", "request-1") = true :=
  ⟨_, _, (((ReviewHistory.nil.snoc controllerStore (.freeze "incident") fun _ => (0 : Int)).snoc
      controllerStore (.park .contactRead "digest-1" .controller) fun _ => 0).snoc
      controllerStore (.approve "request-1" controllerPrincipal 60) fun _ => 0).snoc
      controllerStore (.consumeIfApproved .contactRead "digest-1" .controller) fun _ => 0,
    _, _, _, _, _, rfl, ⟨rfl, rfl, _, rfl⟩, ⟨rfl, ⟨_, rfl⟩, _, _, _, rfl, rfl⟩,
    ⟨rfl, rfl, _, _, rfl⟩, by decide⟩

end freezing

end CBrain

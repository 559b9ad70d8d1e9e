import CBrain.Company.Approval
import CBrain.Framework.OneShot

/-! # The durable review store

    Models `DurableReviewStore` (`cbrain/company/durable_approval.py`): review
    records in one SQLite table that any number of workers share, with leases,
    expiring approvals, one consumption and a freeze.

    Each method is one `BEGIN IMMEDIATE` transaction, which excludes every
    other writer, so it is one step on the table: it commits when it returns,
    and leaves the table alone when it raises.  A call is given the readings
    its clock returns, in order, and counts those it takes.

    Not modelled: the lock time-out of SQLite, and the text form of the
    event log.
-/

namespace CBrain

/-! ## Section 1: Records and rows -/

/-- `ReviewState`. -/
inductive ReviewState where
  | parked
  | leased
  | approved
  | consumed
  | approvalExpired
  | frozen
  deriving DecidableEq, Repr

/-- The value of a state, as messages and the event log show it. -/
def ReviewState.value : ReviewState → String
  | .parked => "PARKED"
  | .leased => "LEASED"
  | .approved => "APPROVED"
  | .consumed => "CONSUMED"
  | .approvalExpired => "APPROVAL_EXPIRED"
  | .frozen => "FROZEN"

/-- `ReviewRecord`. -/
structure ReviewRecord (τ : Type) where
  organisation_id : String
  request_id : String
  intent_digest : String
  required_role : ApprovalRole
  state : ReviewState
  lease_owner : Option String
  lease_expires_at : Option τ
  actor_id : Option String
  approved_at : Option τ
  approval_expires_at : Option τ
  consumed_at : Option τ
  frozen_reason : Option String
  version : Nat
  deriving DecidableEq

/-- An entry of the event log. -/
structure ReviewEvent (τ : Type) where
  time : τ
  event : String
  state : ReviewState
  /-- The entry of the insertion has no version. -/
  version : Option Nat

/-- A row of `durable_reviews`. -/
structure ReviewRow (τ : Type) where
  record : ReviewRecord τ
  event_log : List (ReviewEvent τ)

/-- The primary key: the organisation and the request. -/
abbrev ReviewKey : Type := String × String

/-- The table `durable_reviews`. -/
abbrev ReviewTable (τ : Type) : Type := Table ReviewKey (ReviewRow τ)

/-- The record of a key.  Its first two columns are the key. -/
def ReviewTable.record? {τ : Type} (table : ReviewTable τ) (key : ReviewKey) :
    Option (ReviewRecord τ) :=
  (table.get? key).map fun row =>
    { row.record with organisation_id := key.1, request_id := key.2 }

/-- `length(text)` of SQLite, which ends a text at its first NUL. -/
def sqlLength (text : String) : Nat := (text.toList.takeWhile fun c => c ≠ '\x00').length

/-- The keyword arguments of `_replace`, with their defaults. -/
structure Replacement (τ : Type) where
  event : String
  state : Option ReviewState := none
  clear_lease : Bool := false
  lease_owner : Option String := none
  lease_expires_at : Option τ := none
  set_lease : Bool := false
  actor_id : Option String := none
  approved_at : Option τ := none
  approval_expires_at : Option τ := none
  set_approval : Bool := false
  consumed_at : Option τ := none
  set_consumed : Bool := false
  frozen_reason : Option String := none
  set_frozen : Bool := false

/-- The `updated` record of `_replace`. -/
def ReviewRecord.updated {τ : Type} (record : ReviewRecord τ) (r : Replacement τ) :
    ReviewRecord τ where
  organisation_id := record.organisation_id
  request_id := record.request_id
  intent_digest := record.intent_digest
  required_role := record.required_role
  state := r.state.getD record.state
  lease_owner :=
    if r.clear_lease then none else if r.set_lease then r.lease_owner else record.lease_owner
  lease_expires_at :=
    if r.clear_lease then none
    else if r.set_lease then r.lease_expires_at else record.lease_expires_at
  actor_id := if r.set_approval then r.actor_id else record.actor_id
  approved_at := if r.set_approval then r.approved_at else record.approved_at
  approval_expires_at :=
    if r.set_approval then r.approval_expires_at else record.approval_expires_at
  consumed_at := if r.set_consumed then r.consumed_at else record.consumed_at
  frozen_reason := if r.set_frozen then r.frozen_reason else record.frozen_reason
  version := record.version + 1

/-! ## Section 2: Transactions -/

/-- What a transaction works on: the table, and the number of clock readings
    taken so far. -/
structure ReviewSession (τ : Type) where
  table : ReviewTable τ
  taken : Nat

/-- A piece of a transaction.  `clock n` is the reading the clock returns at
    its call number `n`. -/
def Transaction (τ α : Type) : Type :=
  (clock : Nat → τ) → ReviewSession τ → Raises (α × ReviewSession τ)

namespace Transaction

variable {τ α β : Type}

/-- Sequencing: an exception skips the rest. -/
protected def bind (m : Transaction τ α) (f : α → Transaction τ β) : Transaction τ β :=
  fun clock s =>
    match m clock s with
    | .error e => .error e
    | .ok (a, s') => f a clock s'

instance : Monad (Transaction τ) where
  pure a := fun _ s => .ok (a, s)
  bind := Transaction.bind

/-- Raise an exception. -/
def raise (e : Exn) : Transaction τ α := fun _ _ => .error e

/-- `self._clock()`. -/
def clock : Transaction τ τ := fun readings s =>
  .ok (readings s.taken, { s with taken := s.taken + 1 })

/-- The piece returns a value. -/
def Returns (m : Transaction τ α) (c : Nat → τ) (s : ReviewSession τ) (a : α)
    (s' : ReviewSession τ) : Prop := m c s = .ok (a, s')

section returns

variable {c : Nat → τ} {s s' s'' : ReviewSession τ}

theorem pure_returns {a b : α} : Returns (pure a) c s b s' ↔ b = a ∧ s' = s := by
  show Except.ok (a, s) = .ok (b, s') ↔ _
  constructor
  · intro h
    cases h
    exact ⟨rfl, rfl⟩
  · rintro ⟨hb, hs⟩
    rw [hb, hs]

theorem raise_returns {e : Exn} {a : α} : ¬ Returns (raise e) c s a s' := by
  intro h
  cases h

/-- Peel the first part off a sequence. -/
theorem bind_returns {m : Transaction τ α} {f : α → Transaction τ β} {b : β} :
    Returns (m >>= f) c s b s'' ↔ ∃ a s', Returns m c s a s' ∧ Returns (f a) c s' b s'' := by
  show Transaction.bind m f c s = _ ↔ _
  unfold Transaction.bind Returns
  cases h : m c s with
  | error e => simp
  | ok r =>
    obtain ⟨a, s'⟩ := r
    simp only
    constructor
    · intro hf
      exact ⟨a, s', rfl, hf⟩
    · rintro ⟨a', t, heq, hf⟩
      cases heq
      exact hf

theorem clock_returns {now : τ} :
    Returns clock c s now s' ↔ now = c s.taken ∧ s' = { s with taken := s.taken + 1 } :=
  pure_returns (c := c) (s := { s with taken := s.taken + 1 })

end returns

end Transaction

/-! ## Section 3: What a record means for the approval

    A record is a register for one grant, in the sense of `OneShot`: idle
    before the approval, holding it while `APPROVED`, closed afterwards. -/

open OneShot

section records

variable {τ : Type}

/-- What an approval grants. -/
structure ReviewGrant (τ : Type) where
  intent_digest : String
  required_role : ApprovalRole
  actor_id : Option String
  approval_expires_at : Option τ

/-- The grant a record holds. -/
def ReviewRecord.grant (record : ReviewRecord τ) : ReviewGrant τ :=
  ⟨record.intent_digest, record.required_role, record.actor_id, record.approval_expires_at⟩

/-- The stage of a record's register. -/
def ReviewRecord.stage (record : ReviewRecord τ) : Stage (ReviewGrant τ) :=
  match record.state with
  | .parked | .leased => .idle
  | .approved => .granted record.grant
  | .consumed | .approvalExpired | .frozen => .closed

/-- The stage of a key's register: idle before the request is parked. -/
def reviewStage (record : Option (ReviewRecord τ)) : Stage (ReviewGrant τ) :=
  match record with
  | none => .idle
  | some record => record.stage

/-- The key passes the constraints of the table and of an `ActionIntent`. -/
def Storable (key : ReviewKey) : Prop :=
  nonBlank key.2 = true ∧ sqlLength key.1 ≠ 0 ∧ sqlLength key.2 ≠ 0

/-- What a call may do to a record besides approving and consuming it: the
    register keeps its stage or closes, a frozen record stays as it is, and
    a row appears only under a storable key. -/
structure Settles (key : ReviewKey) (before after : Option (ReviewRecord τ)) : Prop where
  stage : reviewStage after = reviewStage before ∨ reviewStage after = .closed
  frozen : ∀ r, before = some r → r.state = .frozen → after = before
  born : before = none → after.isSome → Storable key

theorem Settles.refl (key : ReviewKey) (r : Option (ReviewRecord τ)) : Settles key r r where
  stage := Or.inl rfl
  frozen := fun _ _ _ => rfl
  born := by
    intro hnone hsome
    rw [hnone] at hsome
    cases hsome

theorem Settles.trans {key : ReviewKey} {r₁ r₂ r₃ : Option (ReviewRecord τ)}
    (h₁ : Settles key r₁ r₂) (h₂ : Settles key r₂ r₃) : Settles key r₁ r₃ where
  stage := by
    rcases h₂.stage with h | h
    · rcases h₁.stage with h' | h'
      · exact Or.inl (h.trans h')
      · exact Or.inr (h.trans h')
    · exact Or.inr h
  frozen := by
    intro r hr hstate
    have hsame := h₁.frozen r hr hstate
    rw [h₂.frozen r (hsame.trans hr) hstate, hsame]
  born := by
    intro hnone hsome
    cases hmid : r₂ with
    | none => exact h₂.born hmid hsome
    | some r => exact h₁.born hnone (by rw [hmid]; rfl)

/-- A rewritten record settles when its stage does and it was not frozen. -/
theorem Settles.of_updated {key : ReviewKey} {record : ReviewRecord τ} {r : Replacement τ}
    (hstate : record.state ≠ .frozen)
    (hstage : (record.updated r).stage = record.stage ∨ (record.updated r).stage = .closed) :
    Settles key (some record) (some (record.updated r)) where
  stage := hstage
  frozen := by
    intro r' hr' hfrozen
    obtain rfl := Option.some.inj hr'
    exact absurd hfrozen hstate
  born := fun hnone => by cases hnone

/-- The key of a record. -/
def ReviewRecord.key (record : ReviewRecord τ) : ReviewKey :=
  (record.organisation_id, record.request_id)

theorem ReviewTable.record?_set (table : ReviewTable τ) (record : ReviewRecord τ)
    (event_log : List (ReviewEvent τ)) (key : ReviewKey) :
    ReviewTable.record? (table.set record.key ⟨record, event_log⟩) key =
      if key = record.key then some record else table.record? key := by
  unfold ReviewTable.record?
  rw [Table.get?_set]
  by_cases h : key = record.key
  · rw [if_pos h, if_pos h, h]
    rfl
  · rw [if_neg h, if_neg h]

theorem ReviewTable.key_of_record? {table : ReviewTable τ} {key : ReviewKey} {r : ReviewRecord τ}
    (h : table.record? key = some r) : r.key = key := by
  obtain ⟨row, _, rfl⟩ := Option.map_eq_some_iff.mp h
  rfl

namespace ReviewSession

/-- Every record settles. -/
def Quiet (s s' : ReviewSession τ) : Prop :=
  ∀ key, Settles key (s.table.record? key) (s'.table.record? key)

/-- One record is written, and the others are as they were. -/
def Wrote (s s' : ReviewSession τ) (record : ReviewRecord τ) : Prop :=
  ∀ key, s'.table.record? key = if key = record.key then some record else s.table.record? key

variable {s s' s'' : ReviewSession τ} {record : ReviewRecord τ}

theorem Quiet.refl (s : ReviewSession τ) : s.Quiet s := fun _ => Settles.refl _ _

theorem Quiet.trans (h₁ : s.Quiet s') (h₂ : s'.Quiet s'') : s.Quiet s'' :=
  fun key => (h₁ key).trans (h₂ key)

theorem Quiet.of_table (h : s'.table = s.table) : s.Quiet s' := by
  intro key
  rw [h]
  exact Settles.refl _ _

theorem Wrote.self (h : s.Wrote s' record) : s'.table.record? record.key = some record := by
  rw [h, if_pos rfl]

theorem Wrote.other (h : s.Wrote s' record) {key : ReviewKey} (hkey : key ≠ record.key) :
    s'.table.record? key = s.table.record? key := by
  rw [h, if_neg hkey]

theorem Wrote.quiet (h : s.Wrote s' record)
    (hsettles : Settles record.key (s.table.record? record.key) (some record)) : s.Quiet s' := by
  intro key
  by_cases hkey : key = record.key
  · rw [hkey, h.self]
    exact hsettles
  · rw [h.other hkey]
    exact Settles.refl _ _

end ReviewSession

/-- What a freeze does to a record of its organisation. -/
structure Freezes (before after : Option (ReviewRecord τ)) : Prop where
  absent : before = none → after = none
  present : ∀ r, before = some r → ∃ r', after = some r' ∧ r'.state = .frozen
  again : ∀ r, before = some r → r.state = .frozen → after = before

theorem Freezes.trans {r₁ r₂ r₃ : Option (ReviewRecord τ)} (h₁ : Freezes r₁ r₂)
    (h₂ : Freezes r₂ r₃) : Freezes r₁ r₃ where
  absent := fun h => h₂.absent (h₁.absent h)
  present := by
    intro r hr
    obtain ⟨r', hr', hfrozen⟩ := h₁.present r hr
    exact ⟨r', (h₂.again r' hr' hfrozen).trans hr', hfrozen⟩
  again := by
    intro r hr hfrozen
    have hsame := h₁.again r hr hfrozen
    rw [h₂.again r (hsame.trans hr) hfrozen, hsame]

theorem Freezes.none : Freezes (none : Option (ReviewRecord τ)) none where
  absent := id
  present := fun r hr => by cases hr
  again := fun r hr => by cases hr

theorem Freezes.of_frozen {record : ReviewRecord τ} (h : record.state = .frozen) :
    Freezes (some record) (some record) where
  absent := id
  present := fun _ _ => ⟨record, rfl, h⟩
  again := fun _ _ _ => rfl

theorem Freezes.of_updated {record record' : ReviewRecord τ} (h : record.state ≠ .frozen)
    (h' : record'.state = .frozen) : Freezes (some record) (some record') where
  absent := fun hr => by cases hr
  present := fun _ _ => ⟨record', rfl, h'⟩
  again := by
    intro r hr hfrozen
    obtain rfl := Option.some.inj hr
    exact absurd hfrozen h

end records

/-! ## Section 4: The store of one worker -/

variable {τ : Type} [Seconds τ]

/-- A `DurableReviewStore`: one worker's settings, as `__init__` accepts
    them. -/
structure DurableReviewStore (τ : Type) [Seconds τ] where
  organisation_id : String
  allowed_approvers : ApproverDirectory
  max_ttl_seconds : τ
  max_lease_seconds : τ
  organisation_id_text : nonBlank organisation_id = true
  windows_positive : ¬ (max_ttl_seconds ≤ 0 ∨ max_lease_seconds ≤ 0)

namespace DurableReviewStore

open Transaction

/-- `_load`. -/
def load (store : DurableReviewStore τ) (request_id : String) :
    Transaction τ (Option (ReviewRecord τ)) :=
  fun _ s => .ok (s.table.record? (store.organisation_id, request_id), s)

/-- `events`. -/
def events (store : DurableReviewStore τ) (request_id : String) :
    Transaction τ (List (ReviewEvent τ)) :=
  fun _ s =>
    .ok (match s.table.get? (store.organisation_id, request_id) with
      | none => []
      | some row => row.event_log, s)

/-- The exception of a violated constraint. -/
def integrityError (message : String) : Exn := ⟨.other, "IntegrityError", [.text message]⟩

/-- `INSERT INTO durable_reviews`, with the table's constraints.  A version
    is at least one by its type. -/
def insertRow (record : ReviewRecord τ) (event_log : List (ReviewEvent τ)) : Transaction τ Unit :=
  fun _ s =>
    if sqlLength record.organisation_id = 0 then
      .error (integrityError "CHECK constraint failed: length(organisation_id) > 0")
    else if sqlLength record.request_id = 0 then
      .error (integrityError "CHECK constraint failed: length(request_id) > 0")
    else if sqlLength record.intent_digest = 0 then
      .error (integrityError "CHECK constraint failed: length(intent_digest) > 0")
    else match s.table.insert? (record.organisation_id, record.request_id) ⟨record, event_log⟩ with
      | none => .error (integrityError
          "UNIQUE constraint failed: durable_reviews.organisation_id, durable_reviews.request_id")
      | some table => .ok ((), { s with table := table })

/-- `_insert`. -/
def insert (record : ReviewRecord τ) (event : String) : Transaction τ Unit := do
  let now ← clock
  insertRow record [⟨now, event, record.state, none⟩]

/-- `UPDATE durable_reviews … WHERE version = ?`: the number of rows changed.
    The columns that the constraints name keep their values, but for the
    version, which grows. -/
def updateRow (record updated : ReviewRecord τ) (event_log : List (ReviewEvent τ)) :
    Transaction τ Nat :=
  fun _ s =>
    match s.table.get? (record.organisation_id, record.request_id) with
    | none => .ok (0, s)
    | some row =>
      if row.record.version = record.version then
        .ok (1, { s with
          table := s.table.set (record.organisation_id, record.request_id) ⟨updated, event_log⟩ })
      else .ok (0, s)

/-- `_replace`. -/
def replace (store : DurableReviewStore τ) (record : ReviewRecord τ) (r : Replacement τ) :
    Transaction τ (ReviewRecord τ) := do
  let updated := record.updated r
  let events ← store.events record.request_id
  let now ← clock
  let rowcount ←
    updateRow record updated (events ++ [⟨now, r.event, updated.state, some updated.version⟩])
  if rowcount ≠ 1 then raise (approvalInboxError "concurrent review update conflict")
  else return updated

/-- `deadline is not None and self._clock() >= deadline`. -/
def passed (deadline : Option τ) : Transaction τ Bool :=
  match deadline with
  | none => return false
  | some t => do
    let now ← clock
    return decide (t ≤ now)

/-- The two expiry checks: a record in the state `live` whose deadline has
    passed is replaced. -/
def expireIfNeeded (store : DurableReviewStore τ) (request_id : String) (live : ReviewState)
    (deadline : ReviewRecord τ → Option τ) (expired : Replacement τ) :
    Transaction τ (Option (ReviewRecord τ)) := do
  match ← store.load request_id with
  | none => return none
  | some record =>
    if record.state = live then
      if ← passed (deadline record) then
        let replaced ← store.replace record expired
        return some replaced
      else return some record
    else return some record

/-- `_expire_lease_if_needed`. -/
def expireLeaseIfNeeded (store : DurableReviewStore τ) (request_id : String) :
    Transaction τ (Option (ReviewRecord τ)) :=
  store.expireIfNeeded request_id .leased (fun record => record.lease_expires_at)
    { event := "lease_expired", state := some .parked, clear_lease := true }

/-- `_expire_approval_if_needed`. -/
def expireApprovalIfNeeded (store : DurableReviewStore τ) (request_id : String) :
    Transaction τ (Option (ReviewRecord τ)) :=
  store.expireIfNeeded request_id .approved (fun record => record.approval_expires_at)
    { event := "approval_expired", state := some .approvalExpired }

/-! ## Section 5: The operations -/

/-- `park`. -/
def park (store : DurableReviewStore τ) (action : ActionIntent) (digest : String)
    (required_role : ApprovalRole) : Transaction τ (ReviewRecord τ) := do
  if nonBlank digest = false then
    raise (approvalInboxError "intent digest must be non-empty")
  else
    match ← store.load action.request_id with
    | some existing =>
      if existing.state = .frozen then raise (approvalInboxError "inbox is frozen")
      else if existing.intent_digest ≠ digest ∨ existing.required_role ≠ required_role then
        raise (approvalInboxError "request_id already parked for another approval")
      else if existing.state ∈ [ReviewState.parked, .leased, .approved] then return existing
      else raise (approvalInboxError ("cannot park request in state " ++ existing.state.value))
    | none =>
      let record : ReviewRecord τ :=
        { organisation_id := store.organisation_id
          request_id := action.request_id
          intent_digest := digest
          required_role := required_role
          state := .parked
          lease_owner := none
          lease_expires_at := none
          actor_id := none
          approved_at := none
          approval_expires_at := none
          consumed_at := none
          frozen_reason := none
          version := 1 }
      insert record "parked"
      return record

/-- `claim_lease`. -/
def claimLease (store : DurableReviewStore τ) (request_id worker_id : String)
    (lease_seconds : Option τ) : Transaction τ (ReviewRecord τ) := do
  if nonBlank worker_id = false then raise (approvalInboxError "worker_id must be non-empty")
  else
    let lease_window := lease_seconds.getD store.max_lease_seconds
    if lease_window ≤ 0 ∨ store.max_lease_seconds < lease_window then
      raise (approvalInboxError "lease_seconds outside deployment maximum")
    else
      match ← store.expireLeaseIfNeeded request_id with
      | none => raise (approvalInboxError "no parked action for request_id")
      | some record =>
        if record.state = .frozen then raise (approvalInboxError "inbox is frozen")
        else
          let now ← clock
          if record.state = .leased then
            if record.lease_owner = some worker_id ∧ record.lease_expires_at.any (now < ·) then
              store.replace record
                { event := "lease_renewed", state := some .leased, set_lease := true,
                  lease_owner := some worker_id, lease_expires_at := some (now + lease_window) }
            else raise (approvalInboxError "review lease held by another worker")
          else if record.state ≠ .parked then
            raise (approvalInboxError ("cannot lease request in state " ++ record.state.value))
          else
            store.replace record
              { event := "leased", state := some .leased, set_lease := true,
                lease_owner := some worker_id, lease_expires_at := some (now + lease_window) }

/-- `release_lease`. -/
def releaseLease (store : DurableReviewStore τ) (request_id worker_id : String) :
    Transaction τ (ReviewRecord τ) := do
  match ← store.expireLeaseIfNeeded request_id with
  | none => raise (approvalInboxError "no parked action for request_id")
  | some record =>
    if record.state ≠ .leased then return record
    else if record.lease_owner ≠ some worker_id then
      raise (approvalInboxError "only the lease owner may release")
    else
      store.replace record
        { event := "lease_released", state := some .parked, clear_lease := true }

/-- `approve`. -/
def approve (store : DurableReviewStore τ) (request_id : String) (principal : ApprovalPrincipal)
    (ttl_seconds : τ) : Transaction τ (ReviewRecord τ) := do
  if ttl_seconds ≤ 0 ∨ store.max_ttl_seconds < ttl_seconds then
    raise (approvalInboxError "ttl_seconds outside deployment maximum")
  else
    match ← store.expireLeaseIfNeeded request_id with
    | none => raise (approvalInboxError "no parked action for request_id")
    | some record =>
      if record.state = .frozen then raise (approvalInboxError "inbox is frozen")
      else if record.state ∉ [ReviewState.parked, .leased] then
        raise (approvalInboxError ("cannot approve request in state " ++ record.state.value))
      else if principal.role ≠ record.required_role then
        raise (approvalInboxError "principal role cannot approve this action")
      else if principal.actor_id ∉ store.allowed_approvers.actors principal.role then
        raise (approvalInboxError "principal is not an allowed approver")
      else
        let now ← clock
        store.replace record
          { event := "approved", state := some .approved, clear_lease := true,
            set_approval := true, actor_id := some principal.actor_id, approved_at := some now,
            approval_expires_at := some (now + ttl_seconds) }

/-- `consume_if_approved`. -/
def consumeIfApproved (store : DurableReviewStore τ) (action : ActionIntent) (digest : String)
    (required_role : ApprovalRole) : Transaction τ Bool := do
  match ← store.expireApprovalIfNeeded action.request_id with
  | none => return false
  | some record =>
    if record.state = .frozen then return false
    else if record.state ≠ .approved then return false
    else if record.required_role ≠ required_role ∨ record.intent_digest ≠ digest then return false
    else if ← passed record.approval_expires_at then
      let _ ← store.replace record
        { event := "approval_expired", state := some .approvalExpired }
      return false
    else
      let consumed_at ← clock
      let _ ← store.replace record
        { event := "consumed", state := some .consumed, set_consumed := true,
          consumed_at := some consumed_at }
      return true

/-- The loop of `freeze` over the selected requests. -/
def freezeAll (store : DurableReviewStore τ) (reason : String) :
    List String → Transaction τ Unit
  | [] => return ()
  | request_id :: rows => do
    match ← store.load request_id with
    | none => store.freezeAll reason rows
    | some record =>
      if record.state = .frozen then store.freezeAll reason rows
      else
        let _ ← store.replace record
          { event := "frozen", state := some .frozen, clear_lease := true, set_frozen := true,
            frozen_reason := some reason }
        store.freezeAll reason rows

/-- `SELECT request_id FROM durable_reviews WHERE organisation_id = ?`. -/
def selectRequests (store : DurableReviewStore τ) : Transaction τ (List String) :=
  fun _ s =>
    .ok ((s.table.rows.filter fun row => row.1.1 = store.organisation_id).map fun row => row.1.2, s)

/-- `freeze`. -/
def freeze (store : DurableReviewStore τ) (reason : String) : Transaction τ Unit := do
  if nonBlank reason = false then
    raise (approvalInboxError "freeze reason must be non-empty")
  else
    let rows ← store.selectRequests
    store.freezeAll reason rows

/-- `get`. -/
def get (store : DurableReviewStore τ) (request_id : String) :
    Transaction τ (Option (ReviewRecord τ)) := do
  let record ← store.expireLeaseIfNeeded request_id
  let record' ← store.expireApprovalIfNeeded request_id
  return record' <|> record

end DurableReviewStore

/-! ## Section 6: What the parts of a transaction do -/

namespace DurableReviewStore

open Transaction

variable {store : DurableReviewStore τ} {clock : Nat → τ} {s s' : ReviewSession τ}

theorem load_ok {request_id : String} {r : Option (ReviewRecord τ)} :
    Returns (store.load request_id) clock s r s' ↔
      r = s.table.record? (store.organisation_id, request_id) ∧ s' = s :=
  pure_returns (c := clock)

omit [Seconds τ] in
/-- An update that changed a row. -/
theorem updateRow_ok {record updated : ReviewRecord τ} {event_log : List (ReviewEvent τ)}
    (h : Returns (updateRow record updated event_log) clock s 1 s') :
    s' = { s with table := s.table.set record.key ⟨updated, event_log⟩ } := by
  have h' : (match s.table.get? record.key with
      | none => Except.ok (0, s)
      | some row =>
        if row.record.version = record.version then
          .ok (1, { s with table := s.table.set record.key ⟨updated, event_log⟩ })
        else .ok (0, s)) = (.ok (1, s') : Raises _) := h
  cases hrow : s.table.get? record.key with
  | none =>
    rw [hrow] at h'
    cases h'
  | some row =>
    rw [hrow] at h'
    by_cases hversion : row.record.version = record.version
    · simp only [if_pos hversion] at h'
      cases h'
      rfl
    · simp only [if_neg hversion] at h'
      cases h'

/-- What `_replace` does when it returns. -/
theorem replace_ok {record u : ReviewRecord τ} {r : Replacement τ}
    (hrun : Returns (store.replace record r) clock s u s') :
    u = record.updated r ∧ s'.taken = s.taken + 1 ∧ s.Wrote s' u := by
  obtain ⟨events, s₁, hevents, h⟩ := bind_returns.mp hrun
  obtain ⟨-, rfl⟩ := (pure_returns (c := clock)).mp hevents
  obtain ⟨now, s₂, hclock, h⟩ := bind_returns.mp h
  obtain ⟨rfl, rfl⟩ := clock_returns.mp hclock
  obtain ⟨rowcount, s₃, hupdate, h⟩ := bind_returns.mp h
  by_cases hcount : rowcount = 1
  · rw [if_neg (not_not.mpr hcount)] at h
    obtain ⟨rfl, rfl⟩ := pure_returns.mp h
    subst hcount
    obtain rfl := updateRow_ok hupdate
    exact ⟨rfl, rfl, fun key => ReviewTable.record?_set _ (record.updated r) _ key⟩
  · rw [if_pos hcount] at h
    exact absurd h raise_returns

/-- A check of a deadline: it changes no row, and where the deadline has not
    passed it read the clock and saw so. -/
theorem passed_ok {deadline : Option τ} {b : Bool}
    (h : Returns (passed deadline) clock s b s') :
    s'.table = s.table ∧ s.taken ≤ s'.taken ∧
      (b = false → ∀ t, deadline = some t →
        ∃ j, s.taken ≤ j ∧ j < s'.taken ∧ ¬ t ≤ clock j) := by
  cases deadline with
  | none =>
    obtain ⟨rfl, rfl⟩ := pure_returns.mp h
    exact ⟨rfl, Nat.le_refl _, fun _ t ht => by cases ht⟩
  | some t =>
    obtain ⟨now, s₁, hclock, h⟩ := bind_returns.mp h
    obtain ⟨rfl, rfl⟩ := clock_returns.mp hclock
    obtain ⟨rfl, rfl⟩ := pure_returns.mp h
    refine ⟨rfl, Nat.le_succ _, ?_⟩
    intro hb t' ht'
    obtain rfl := Option.some.inj ht'
    exact ⟨s.taken, Nat.le_refl _, Nat.lt_succ_self _, of_decide_eq_false hb⟩

/-- An expiry check returns the record it leaves.  If that is still live,
    the check read the clock before the deadline. -/
theorem expireIfNeeded_ok {request_id : String} {live : ReviewState}
    {deadline : ReviewRecord τ → Option τ} {expired : Replacement τ}
    {r : Option (ReviewRecord τ)}
    (hrun : Returns (store.expireIfNeeded request_id live deadline expired) clock s r s')
    (hsettles : ∀ record : ReviewRecord τ, record.state = live →
      Settles record.key (some record) (some (record.updated expired)))
    (hexpired : expired.state ≠ some live ∧ expired.state ≠ none) :
    s.Quiet s' ∧ s.taken ≤ s'.taken ∧
      s'.table.record? (store.organisation_id, request_id) = r ∧
      ∀ record, r = some record → record.state = live → ∀ t, deadline record = some t →
        ∃ j, j < s'.taken ∧ ¬ t ≤ clock j := by
  obtain ⟨loaded, s₁, hload, h⟩ := bind_returns.mp hrun
  obtain ⟨rfl, rfl⟩ := load_ok.mp hload
  cases hloaded : s₁.table.record? (store.organisation_id, request_id) with
  | none =>
    rw [hloaded] at h
    obtain ⟨rfl, rfl⟩ := pure_returns.mp h
    exact ⟨.refl _, Nat.le_refl _, hloaded, fun record hr => by cases hr⟩
  | some record =>
    rw [hloaded] at h
    have hkey := ReviewTable.key_of_record? hloaded
    by_cases hstate : record.state = live
    · simp only [hstate, if_true] at h
      obtain ⟨b, s₂, hpassed, h⟩ := bind_returns.mp h
      obtain ⟨htable, htaken, hbefore⟩ := passed_ok hpassed
      cases b with
      | true =>
        -- The deadline has passed, and the record it leaves is not live.
        simp only [if_true] at h
        obtain ⟨u, s₃, hreplace, h⟩ := bind_returns.mp h
        obtain ⟨rfl, rfl⟩ := pure_returns.mp h
        obtain ⟨rfl, htaken', hwrote⟩ := replace_ok hreplace
        refine ⟨(ReviewSession.Quiet.of_table htable).trans (hwrote.quiet ?_), by omega, ?_, ?_⟩
        · rw [htable]
          show Settles record.key (s₁.table.record? record.key) _
          rw [show s₁.table.record? record.key = some record by rw [hkey]; exact hloaded]
          exact hsettles record hstate
        · rw [← hkey]
          exact hwrote.self
        · intro record' hr hlive
          obtain rfl := Option.some.inj hr
          obtain ⟨hne, hsome⟩ := hexpired
          cases hs : expired.state with
          | none => exact absurd hs hsome
          | some state =>
            have hstate' : state = live := by simpa [ReviewRecord.updated, hs] using hlive
            rw [hs, hstate'] at hne
            exact absurd rfl hne
      | false =>
        obtain ⟨rfl, rfl⟩ := pure_returns.mp h
        refine ⟨.of_table htable, htaken, by rw [htable]; exact hloaded, ?_⟩
        intro record' hr _ t ht
        obtain rfl := Option.some.inj hr
        obtain ⟨j, _, hj, hclock⟩ := hbefore rfl t ht
        exact ⟨j, hj, hclock⟩
    · simp only [hstate, if_false] at h
      obtain ⟨rfl, rfl⟩ := pure_returns.mp h
      refine ⟨.refl _, Nat.le_refl _, hloaded, ?_⟩
      intro record' hr hlive
      obtain rfl := Option.some.inj hr
      exact absurd hlive hstate

/-- `_expire_lease_if_needed` settles and returns the record it leaves. -/
theorem expireLeaseIfNeeded_ok {request_id : String} {r : Option (ReviewRecord τ)}
    (h : Returns (store.expireLeaseIfNeeded request_id) clock s r s') :
    s.Quiet s' ∧ s.taken ≤ s'.taken ∧
      s'.table.record? (store.organisation_id, request_id) = r := by
  have hok := expireIfNeeded_ok h ?_ (by simp)
  · exact ⟨hok.1, hok.2.1, hok.2.2.1⟩
  · intro record hstate
    have hstage : record.stage = .idle := by simp [ReviewRecord.stage, hstate]
    exact .of_updated (by simp [hstate]) (Or.inl hstage.symm)

/-- `_expire_approval_if_needed` settles and returns the record it leaves,
    which is approved only if the clock was read before its deadline. -/
theorem expireApprovalIfNeeded_ok {request_id : String} {r : Option (ReviewRecord τ)}
    (h : Returns (store.expireApprovalIfNeeded request_id) clock s r s') :
    s.Quiet s' ∧ s.taken ≤ s'.taken ∧
      s'.table.record? (store.organisation_id, request_id) = r ∧
      ∀ record, r = some record → record.state = .approved →
        ∀ t, record.approval_expires_at = some t → ∃ j, j < s'.taken ∧ ¬ t ≤ clock j := by
  apply expireIfNeeded_ok h
  · intro record hstate
    exact .of_updated (by simp [hstate]) (Or.inr rfl)
  · simp

/-! ## Section 7: What the operations do -/

/-- A rewritten record that its caller loaded settles. -/
theorem replace_quiet {record u : ReviewRecord τ} {r : Replacement τ}
    (h : Returns (store.replace record r) clock s u s')
    (hrecord : s.table.record? record.key = some record) (hstate : record.state ≠ .frozen)
    (hstage : (record.updated r).stage = record.stage ∨ (record.updated r).stage = .closed) :
    s.Quiet s' := by
  obtain ⟨rfl, _, hwrote⟩ := replace_ok h
  apply hwrote.quiet
  show Settles record.key (s.table.record? record.key) _
  rw [hrecord]
  exact .of_updated hstate hstage

/-- A loaded record is the one of the key. -/
theorem record_of_load {request_id : String} {record : ReviewRecord τ}
    (h : s.table.record? (store.organisation_id, request_id) = some record) :
    s.table.record? record.key = some record := by
  rw [ReviewTable.key_of_record? h]
  exact h

omit [Seconds τ] in
/-- An insertion finds no row, and takes the key. -/
theorem insert_ok {record : ReviewRecord τ} {event : String}
    (hrun : Returns (insert record event) clock s () s') :
    s.table.record? record.key = none ∧ s.Wrote s' record ∧
      sqlLength record.organisation_id ≠ 0 ∧ sqlLength record.request_id ≠ 0 := by
  obtain ⟨now, s₁, hclock, h⟩ := bind_returns.mp hrun
  obtain ⟨rfl, rfl⟩ := clock_returns.mp hclock
  unfold Returns insertRow at h
  simp only at h
  split at h
  · cases h
  rename_i horganisation
  split at h
  · cases h
  rename_i hrequest
  split at h
  · cases h
  split at h
  · cases h
  · rename_i table htable
    cases h
    obtain ⟨hfree, rfl⟩ := Table.insert?_eq_some.mp htable
    have hnone : s.table.record? record.key = none := by
      unfold ReviewTable.record?
      rw [Option.map_eq_none_iff]
      exact hfree
    exact ⟨hnone, fun key => ReviewTable.record?_set s.table record _ key, horganisation, hrequest⟩

/-- `park` inserts an idle record or changes nothing, refuses a frozen record
    and returns the one it leaves. -/
theorem park_ok {action : ActionIntent} {digest : String} {required_role : ApprovalRole}
    {u : ReviewRecord τ}
    (hrun : Returns (store.park action digest required_role) clock s u s') :
    s.Quiet s' ∧ s'.table.record? (store.organisation_id, action.request_id) = some u ∧
      ∀ r, s.table.record? (store.organisation_id, action.request_id) = some r →
        r.state ≠ .frozen := by
  unfold park at hrun
  by_cases hdigest : nonBlank digest = false
  · rw [if_pos hdigest] at hrun
    exact absurd hrun raise_returns
  · rw [if_neg hdigest] at hrun
    obtain ⟨loaded, s₁, hload, h⟩ := bind_returns.mp hrun
    obtain ⟨rfl, rfl⟩ := load_ok.mp hload
    cases hloaded : s₁.table.record? (store.organisation_id, action.request_id) with
    | none =>
      rw [hloaded] at h
      obtain ⟨_, s₂, hinsert, h⟩ := bind_returns.mp h
      obtain ⟨rfl, rfl⟩ := pure_returns.mp h
      obtain ⟨hnone, hwrote, horganisation, hrequest⟩ := insert_ok hinsert
      refine ⟨hwrote.quiet ?_, hwrote.self, fun r hr => by cases hr⟩
      rw [hnone]
      exact ⟨Or.inl rfl, fun r hr => (by cases hr),
        fun _ _ => ⟨action.request_id_text, horganisation, hrequest⟩⟩
    | some existing =>
      rw [hloaded] at h
      simp only at h
      by_cases hfrozen : existing.state = .frozen
      · rw [if_pos hfrozen] at h
        exact absurd h raise_returns
      · rw [if_neg hfrozen] at h
        have hnot : ∀ r, some existing = some r → r.state ≠ .frozen := by
          intro r hr
          obtain rfl := Option.some.inj hr
          exact hfrozen
        split at h
        · exact absurd h raise_returns
        split at h
        · obtain ⟨rfl, rfl⟩ := pure_returns.mp h
          exact ⟨.refl _, hloaded, hnot⟩
        · exact absurd h raise_returns

/-- `claim_lease` settles, and refuses a frozen record. -/
theorem claimLease_ok {request_id worker_id : String} {lease_seconds : Option τ}
    {u : ReviewRecord τ}
    (hrun : Returns (store.claimLease request_id worker_id lease_seconds) clock s u s') :
    s.Quiet s' := by
  unfold claimLease at hrun
  simp only at hrun
  split at hrun
  · exact absurd hrun raise_returns
  split at hrun
  · exact absurd hrun raise_returns
  obtain ⟨r, s₁, hexpire, h⟩ := bind_returns.mp hrun
  obtain ⟨hquiet, _, hleft⟩ := expireLeaseIfNeeded_ok hexpire
  cases r with
  | none => exact absurd h raise_returns
  | some record =>
    simp only at h
    by_cases hfrozen : record.state = .frozen
    · rw [if_pos hfrozen] at h
      exact absurd h raise_returns
    · rw [if_neg hfrozen] at h
      obtain ⟨now, s₂, hclock, h⟩ := bind_returns.mp h
      obtain ⟨rfl, rfl⟩ := clock_returns.mp hclock
      let s₂ : ReviewSession τ := { s₁ with taken := s₁.taken + 1 }
      have hrecord : s₂.table.record? record.key = some record := record_of_load hleft
      have hread : s.Quiet s₂ := hquiet.trans (.of_table rfl)
      -- Both branches that write find the record idle and leave it leased.
      by_cases hleased : record.state = .leased
      · have hidle : record.stage = .idle := by simp [ReviewRecord.stage, hleased]
        rw [if_pos hleased] at h
        split at h
        · have hwritten := replace_quiet h hrecord hfrozen (Or.inl hidle.symm)
          exact hread.trans hwritten
        · exact absurd h raise_returns
      · rw [if_neg hleased] at h
        by_cases hparked : record.state = .parked
        · have hidle : record.stage = .idle := by simp [ReviewRecord.stage, hparked]
          rw [if_neg (not_not.mpr hparked)] at h
          have hwritten := replace_quiet h hrecord hfrozen (Or.inl hidle.symm)
          exact hread.trans hwritten
        · rw [if_pos hparked] at h
          exact absurd h raise_returns

/-- `release_lease` settles. -/
theorem releaseLease_ok {request_id worker_id : String} {u : ReviewRecord τ}
    (hrun : Returns (store.releaseLease request_id worker_id) clock s u s') : s.Quiet s' := by
  obtain ⟨r, s₁, hexpire, h⟩ := bind_returns.mp hrun
  obtain ⟨hquiet, _, hleft⟩ := expireLeaseIfNeeded_ok hexpire
  cases r with
  | none => exact absurd h raise_returns
  | some record =>
    simp only at h
    by_cases hleased : record.state = .leased
    · have hidle : record.stage = .idle := by simp [ReviewRecord.stage, hleased]
      rw [if_neg (not_not.mpr hleased)] at h
      split at h
      · exact absurd h raise_returns
      · exact hquiet.trans (replace_quiet h (record_of_load hleft) (by simp [hleased])
          (Or.inl hidle.symm))
    · rw [if_pos hleased] at h
      obtain ⟨rfl, rfl⟩ := pure_returns.mp h
      exact hquiet

/-- `get` settles. -/
theorem get_ok {request_id : String} {r : Option (ReviewRecord τ)}
    (hrun : Returns (store.get request_id) clock s r s') : s.Quiet s' := by
  obtain ⟨record, s₁, hlease, h⟩ := bind_returns.mp hrun
  obtain ⟨record', s₂, happroval, h⟩ := bind_returns.mp h
  obtain ⟨rfl, rfl⟩ := pure_returns.mp h
  exact (expireLeaseIfNeeded_ok hlease).1.trans (expireApprovalIfNeeded_ok happroval).1

/-- `approve` finds an idle record of the role, and leaves it holding a grant
    for its digest to an allowed principal, until the reading it took of the
    clock plus the time limit. -/
theorem approve_ok {request_id : String} {principal : ApprovalPrincipal} {ttl_seconds : τ}
    {u : ReviewRecord τ}
    (hrun : Returns (store.approve request_id principal ttl_seconds) clock s u s') :
    (∃ mid : ReviewSession τ, s.Quiet mid ∧ mid.Wrote s' u ∧
      ∃ r, mid.table.record? u.key = some r ∧ r.stage = .idle) ∧
    u.key = (store.organisation_id, request_id) ∧ u.state = .approved ∧
    principal.role = u.required_role ∧
    principal.actor_id ∈ store.allowed_approvers.actors principal.role ∧
    u.actor_id = some principal.actor_id ∧
    ∃ j, j < s'.taken ∧ u.approval_expires_at = some (clock j + ttl_seconds) := by
  unfold approve at hrun
  split at hrun
  · exact absurd hrun raise_returns
  obtain ⟨r, s₁, hexpire, h⟩ := bind_returns.mp hrun
  obtain ⟨hquiet, _, hleft⟩ := expireLeaseIfNeeded_ok hexpire
  cases r with
  | none => exact absurd h raise_returns
  | some record =>
    simp only at h
    split at h
    · exact absurd h raise_returns
    split at h
    · exact absurd h raise_returns
    rename_i hstate
    split at h
    · exact absurd h raise_returns
    rename_i hrole
    split at h
    · exact absurd h raise_returns
    rename_i hactor
    obtain ⟨now, s₂, hclock, h⟩ := bind_returns.mp h
    obtain ⟨rfl, rfl⟩ := clock_returns.mp hclock
    obtain ⟨rfl, htaken, hwrote⟩ := replace_ok h
    have hkey := ReviewTable.key_of_record? hleft
    have hidle : record.stage = .idle := by
      by_cases hparked : record.state = .parked
      · simp [ReviewRecord.stage, hparked]
      · have hleased : record.state = .leased := by simpa [hparked] using hstate
        simp [ReviewRecord.stage, hleased]
    refine ⟨⟨_, hquiet.trans (.of_table rfl), hwrote, record, record_of_load hleft, hidle⟩, hkey,
      rfl, not_not.mp hrole, not_not.mp hactor, rfl, s₁.taken, ?_, rfl⟩
    rw [htaken]
    simp only
    omega

/-- `consume_if_approved` that answers `False` settles. -/
theorem consumeIfApproved_false {action : ActionIntent} {digest : String}
    {required_role : ApprovalRole}
    (hrun : Returns (store.consumeIfApproved action digest required_role) clock s false s') :
    s.Quiet s' := by
  obtain ⟨r, s₁, hexpire, h⟩ := bind_returns.mp hrun
  obtain ⟨hquiet, _, hleft, _⟩ := expireApprovalIfNeeded_ok hexpire
  cases r with
  | none =>
    obtain ⟨_, rfl⟩ := pure_returns.mp h
    exact hquiet
  | some record =>
    simp only at h
    split at h
    · obtain ⟨_, rfl⟩ := pure_returns.mp h
      exact hquiet
    rename_i hfrozen
    split at h
    · obtain ⟨_, rfl⟩ := pure_returns.mp h
      exact hquiet
    split at h
    · obtain ⟨_, rfl⟩ := pure_returns.mp h
      exact hquiet
    obtain ⟨b, s₂, hpassed, h⟩ := bind_returns.mp h
    obtain ⟨htable, _, _⟩ := passed_ok hpassed
    cases b with
    | true =>
      simp only [if_true] at h
      obtain ⟨u, s₃, hreplace, h⟩ := bind_returns.mp h
      obtain ⟨_, rfl⟩ := pure_returns.mp h
      have hrecord : s₂.table.record? record.key = some record := by
        rw [htable]
        exact record_of_load hleft
      exact (hquiet.trans (.of_table htable)).trans
        (replace_quiet hreplace hrecord hfrozen (Or.inr rfl))
    | false =>
      obtain ⟨consumed_at, s₃, _, h⟩ := bind_returns.mp h
      obtain ⟨u, s₄, _, h⟩ := bind_returns.mp h
      obtain ⟨htrue, _⟩ := pure_returns.mp h
      cases htrue

/-- `consume_if_approved` that answers `True` finds the record approved for
    the digest and the role, has read the clock before the approval expires,
    and leaves the record consumed. -/
theorem consumeIfApproved_true {action : ActionIntent} {digest : String}
    {required_role : ApprovalRole}
    (hrun : Returns (store.consumeIfApproved action digest required_role) clock s true s') :
    ∃ (mid : ReviewSession τ) (r u : ReviewRecord τ), s.Quiet mid ∧ mid.Wrote s' u ∧
      u.key = (store.organisation_id, action.request_id) ∧ u.state = .consumed ∧
      mid.table.record? u.key = some r ∧ r.state = .approved ∧
      r.intent_digest = digest ∧ r.required_role = required_role ∧
      ∀ t, r.approval_expires_at = some t → ∃ j, j < s'.taken ∧ ¬ t ≤ clock j := by
  obtain ⟨r, s₁, hexpire, h⟩ := bind_returns.mp hrun
  obtain ⟨hquiet, _, hleft, hbefore⟩ := expireApprovalIfNeeded_ok hexpire
  cases r with
  | none =>
    obtain ⟨hfalse, _⟩ := pure_returns.mp h
    cases hfalse
  | some record =>
    simp only at h
    split at h
    · obtain ⟨hfalse, _⟩ := pure_returns.mp h
      cases hfalse
    split at h
    · obtain ⟨hfalse, _⟩ := pure_returns.mp h
      cases hfalse
    rename_i hstate
    split at h
    · obtain ⟨hfalse, _⟩ := pure_returns.mp h
      cases hfalse
    rename_i hsame
    obtain ⟨hrole, hdigest⟩ := not_or.mp hsame
    obtain ⟨b, s₂, hpassed, h⟩ := bind_returns.mp h
    obtain ⟨htable, htaken, _⟩ := passed_ok hpassed
    cases b with
    | true =>
      obtain ⟨u, s₃, _, h⟩ := bind_returns.mp h
      obtain ⟨hfalse, _⟩ := pure_returns.mp h
      cases hfalse
    | false =>
      obtain ⟨consumed_at, s₃, hclock, h⟩ := bind_returns.mp h
      obtain ⟨rfl, rfl⟩ := clock_returns.mp hclock
      obtain ⟨u, s₄, hreplace, h⟩ := bind_returns.mp h
      obtain ⟨_, rfl⟩ := pure_returns.mp h
      obtain ⟨rfl, htaken', hwrote⟩ := replace_ok hreplace
      have hrecord : s₂.table.record? record.key = some record := by
        rw [htable]
        exact record_of_load hleft
      have hkey : record.key = (store.organisation_id, action.request_id) :=
        ReviewTable.key_of_record? hleft
      refine ⟨_, record, _, (hquiet.trans (.of_table htable)).trans (.of_table rfl), hwrote, hkey,
        rfl, hrecord, not_not.mp hstate, not_not.mp hdigest,
        not_not.mp hrole, ?_⟩
      intro t ht
      obtain ⟨j, hj, hclock⟩ := hbefore record rfl (not_not.mp hstate) t ht
      refine ⟨j, ?_, hclock⟩
      rw [htaken']
      simp only
      omega

/-- The loop of `freeze` freezes the selected records and no others. -/
theorem freezeAll_ok {reason : String} {rows : List String}
    (hrun : Returns (store.freezeAll reason rows) clock s () s') (key : ReviewKey) :
    ((key.1 = store.organisation_id ∧ key.2 ∈ rows) →
      Freezes (s.table.record? key) (s'.table.record? key)) ∧
    (¬ (key.1 = store.organisation_id ∧ key.2 ∈ rows) →
      s'.table.record? key = s.table.record? key) := by
  induction rows generalizing s with
  | nil =>
    obtain ⟨_, rfl⟩ := pure_returns.mp hrun
    exact ⟨fun h => (nomatch h.2), fun _ => rfl⟩
  | cons request_id rows ih =>
    -- The first iteration freezes the record of its request.
    have hfirst : ∃ s₁ : ReviewSession τ, Returns (store.freezeAll reason rows) clock s₁ () s' ∧
        (key = (store.organisation_id, request_id) →
          Freezes (s.table.record? key) (s₁.table.record? key)) ∧
        (key ≠ (store.organisation_id, request_id) →
          s₁.table.record? key = s.table.record? key) := by
      obtain ⟨loaded, s₁, hload, h⟩ := bind_returns.mp hrun
      obtain ⟨rfl, rfl⟩ := load_ok.mp hload
      cases hloaded : s₁.table.record? (store.organisation_id, request_id) with
      | none =>
        rw [hloaded] at h
        refine ⟨s₁, h, ?_, fun _ => rfl⟩
        intro hkey
        rw [hkey, hloaded]
        exact .none
      | some record =>
        rw [hloaded] at h
        simp only at h
        by_cases hfrozen : record.state = .frozen
        · rw [if_pos hfrozen] at h
          refine ⟨s₁, h, ?_, fun _ => rfl⟩
          intro hkey
          rw [hkey, hloaded]
          exact .of_frozen hfrozen
        · rw [if_neg hfrozen] at h
          obtain ⟨u, s₂, hreplace, h⟩ := bind_returns.mp h
          obtain ⟨rfl, _, hwrote⟩ := replace_ok hreplace
          have hrecord : record.key = (store.organisation_id, request_id) :=
            ReviewTable.key_of_record? hloaded
          refine ⟨s₂, h, ?_, ?_⟩
          · intro hkey
            have hself := hwrote.self
            rw [show (record.updated _).key = record.key from rfl, hrecord] at hself
            rw [hkey, hself, hloaded]
            exact .of_updated hfrozen rfl
          · intro hkey
            apply hwrote.other
            rw [show (record.updated _).key = record.key from rfl, hrecord]
            exact hkey
    obtain ⟨s₁, hrest, hself, hother⟩ := hfirst
    obtain ⟨hin, hout⟩ := ih hrest
    by_cases hkey : key = (store.organisation_id, request_id)
    · have hfreezes := hself hkey
      constructor
      · intro _
        by_cases hagain : key.1 = store.organisation_id ∧ key.2 ∈ rows
        · exact hfreezes.trans (hin hagain)
        · rw [hout hagain]
          exact hfreezes
      · intro hnot
        rw [hkey] at hnot
        exact absurd ⟨rfl, List.mem_cons_self⟩ hnot
    · rw [← hother hkey]
      constructor
      · rintro ⟨horg, hmem⟩
        rcases List.mem_cons.mp hmem with he | hmem
        · exact absurd (Prod.ext horg he) hkey
        · exact hin ⟨horg, hmem⟩
      · intro hnot
        exact hout fun ⟨horg, hmem⟩ => hnot ⟨horg, List.mem_cons_of_mem _ hmem⟩

/-- `freeze` freezes every record of its organisation that exists, and no
    others. -/
theorem freeze_ok {reason : String} (hrun : Returns (store.freeze reason) clock s () s')
    (key : ReviewKey) :
    (key.1 = store.organisation_id → Freezes (s.table.record? key) (s'.table.record? key)) ∧
    (key.1 ≠ store.organisation_id → s'.table.record? key = s.table.record? key) := by
  unfold freeze at hrun
  split at hrun
  · exact absurd hrun raise_returns
  obtain ⟨rows, s₁, hselect, h⟩ := bind_returns.mp hrun
  obtain ⟨rfl, rfl⟩ := (pure_returns (c := clock)).mp hselect
  obtain ⟨hin, hout⟩ := freezeAll_ok h key
  constructor
  · intro horg
    by_cases hmem : key.2 ∈ (s₁.table.rows.filter fun row =>
        row.1.1 = store.organisation_id).map fun row => row.1.2
    · exact hin ⟨horg, hmem⟩
    · -- A request that was not selected has no row.
      have hnone : s₁.table.record? key = none := by
        unfold ReviewTable.record?
        rw [Option.map_eq_none_iff]
        cases hget : s₁.table.get? key with
        | none => rfl
        | some row =>
          have hrow := Table.mem_rows.mpr hget
          exact absurd (List.mem_map.mpr
            ⟨(key, row), List.mem_filter.mpr ⟨hrow, by simpa using horg⟩, rfl⟩) hmem
      rw [hout fun h => hmem h.2, hnone]
      exact .none
  · intro horg
    exact hout fun h => horg h.1

end DurableReviewStore

end CBrain

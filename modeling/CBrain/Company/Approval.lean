import CBrain.Contracts
import CBrain.Framework.Table
import Mathlib.Order.Defs.LinearOrder

/-! # The approval inbox

    Models `ApprovalInbox` (`cbrain/company/approval.py`): parking of actions
    that need review, one role-bound approval each, and one consumption.
    Every method runs under the inbox's lock, so it is one step on the inbox.

    Seconds are numbers of an arbitrary type with an addition and
    comparisons; nothing is assumed of them.  A method is given the reading
    its clock would return, and looks at it where the source calls the clock.
-/

namespace CBrain

/-! ## Section 1: Roles, principals and directories -/

/-- `ApprovalRole`. -/
inductive ApprovalRole where
  | controller
  | counsel
  | codeReviewer
  | buyerLead
  deriving DecidableEq, Repr

/-- `ApprovalPrincipal`. -/
structure ApprovalPrincipal where
  actor_id : String
  role : ApprovalRole
  actor_id_text : nonBlank actor_id = true

theorem ApprovalPrincipal.fields_injective : Function.Injective fun principal : ApprovalPrincipal =>
    (principal.actor_id, principal.role) := by
  rintro ⟨_, _, _⟩ ⟨_, _, _⟩ h
  cases h
  rfl

instance : DecidableEq ApprovalPrincipal := ApprovalPrincipal.fields_injective.decidableEq

/-- The approvers of each role, as the constructors normalize them.  A role
    outside the directory has nobody. -/
structure ApproverDirectory where
  actors : ApprovalRole → List String
  actors_text : ∀ role, ∀ actor_id ∈ actors role, nonBlank actor_id = true

/-- What the code does with a number of seconds. -/
class Seconds (τ : Type) extends LE τ, LT τ, Add τ, Zero τ where
  decidableLE : DecidableLE τ
  decidableLT : DecidableLT τ

attribute [reducible, instance] Seconds.decidableLE Seconds.decidableLT

namespace Seconds

/-- Numbers that compare as numbers do: the floating-point numbers without
    NaN. -/
scoped instance ofLinearOrder {τ : Type} [LinearOrder τ] [Add τ] [Zero τ] : Seconds τ where
  decidableLE := inferInstance
  decidableLT := inferInstance

end Seconds

/-- `math.isfinite`. -/
class FiniteTest (τ : Type) where
  isFinite : τ → Bool

/-- `ApprovalInboxError`. -/
def approvalInboxError (message : String) : Exn := Exn.of .approvalInboxError message

/-! ## Section 2: The inbox -/

/-- `PendingApproval`. -/
structure PendingApproval where
  request_id : String
  intent_digest : String
  required_role : ApprovalRole
  deriving DecidableEq

/-- `ApprovalRecord`. -/
structure ApprovalRecord (τ : Type) where
  request_id : String
  actor_id : String
  actor_role : ApprovalRole
  intent_digest : String
  approved_at : τ
  expires_at : τ
  consumed : Bool

variable {τ : Type} [Seconds τ] [FiniteTest τ]

/-- `_require_finite_seconds`, of a number. -/
def requireFiniteSeconds (value : τ) (name : String) : Raises Unit :=
  require (FiniteTest.isFinite value = true)
    (approvalInboxError (name ++ " must be a finite number"))

/-- The deployment's settings of an inbox, as `__init__` accepts them. -/
structure InboxSettings (τ : Type) [Seconds τ] [FiniteTest τ] where
  allowed_approvers : ApproverDirectory
  max_ttl_seconds : τ
  max_ttl_finite : FiniteTest.isFinite max_ttl_seconds = true
  max_ttl_positive : ¬ max_ttl_seconds ≤ 0

/-- What an `ApprovalInbox` holds. -/
structure ApprovalInbox (τ : Type) where
  pending : Table String PendingApproval
  approvals : Table String (ApprovalRecord τ)
  frozen_reason : Option String

namespace ApprovalInbox

/-- A new inbox. -/
def empty : ApprovalInbox τ := ⟨.empty, .empty, none⟩

/-- `frozen`. -/
def frozen (inbox : ApprovalInbox τ) : Bool := inbox.frozen_reason.isSome

/-- Raise when the inbox is frozen. -/
def notFrozen (inbox : ApprovalInbox τ) : Raises Unit :=
  require (inbox.frozen_reason = none) (approvalInboxError "inbox is frozen")

/-- `freeze`. -/
def freeze (inbox : ApprovalInbox τ) (reason : String) : Raises (ApprovalInbox τ) := do
  require (nonBlank reason = true) (approvalInboxError "freeze reason must be non-empty")
  return { inbox with frozen_reason := some reason }

/-- `park`. -/
def park (inbox : ApprovalInbox τ) (action : ActionIntent) (digest : String)
    (required_role : ApprovalRole) : Raises (ApprovalInbox τ) := do
  require (nonBlank digest = true) (approvalInboxError "intent digest must be non-empty")
  inbox.notFrozen
  let pending : PendingApproval := ⟨action.request_id, digest, required_role⟩
  require (inbox.pending.get? action.request_id ∈ [none, some pending])
    (approvalInboxError "request_id already parked for another approval")
  return { inbox with pending := inbox.pending.set action.request_id pending }

/-- `approve`. -/
def approve (settings : InboxSettings τ) (inbox : ApprovalInbox τ) (now : τ)
    (request_id : String) (principal : ApprovalPrincipal) (ttl_seconds : τ) :
    Raises (ApprovalRecord τ × ApprovalInbox τ) := do
  require (nonBlank request_id = true) (approvalInboxError "request_id must be non-empty")
  requireFiniteSeconds ttl_seconds "ttl_seconds"
  require (¬ ttl_seconds ≤ 0) (approvalInboxError "ttl_seconds must be positive")
  require (¬ settings.max_ttl_seconds < ttl_seconds)
    (approvalInboxError "ttl_seconds exceeds deployment maximum")
  inbox.notFrozen
  match inbox.pending.get? request_id with
  | none => throw (approvalInboxError "no parked action for request_id")
  | some pending =>
    require (principal.role = pending.required_role)
      (approvalInboxError "principal role cannot approve this action")
    require (principal.actor_id ∈ settings.allowed_approvers.actors principal.role)
      (approvalInboxError "principal is not an allowed approver")
    require (inbox.approvals.get? request_id |>.isNone)
      (approvalInboxError "approval already recorded")
    let record : ApprovalRecord τ :=
      { request_id := request_id
        actor_id := principal.actor_id
        actor_role := principal.role
        intent_digest := pending.intent_digest
        approved_at := now
        expires_at := now + ttl_seconds
        consumed := false }
    return (record, { inbox with approvals := inbox.approvals.set request_id record })

/-- `consume_if_approved`. -/
def consumeIfApproved (inbox : ApprovalInbox τ) (now : τ) (action : ActionIntent)
    (digest : String) (required_role : ApprovalRole) : Bool × ApprovalInbox τ :=
  if inbox.frozen_reason.isSome then (false, inbox)
  else match inbox.pending.get? action.request_id, inbox.approvals.get? action.request_id with
    | some pending, some record =>
      if record.consumed then (false, inbox)
      else if pending.required_role ≠ required_role then (false, inbox)
      else if pending.intent_digest ≠ digest ∨ record.intent_digest ≠ digest then (false, inbox)
      else if pending.required_role ≠ record.actor_role then (false, inbox)
      else if record.expires_at ≤ now then (false, inbox)
      else
        (true,
          { inbox with
            approvals := inbox.approvals.set action.request_id { record with consumed := true } })
    | _, _ => (false, inbox)

/-- `record_for`. -/
def recordFor (inbox : ApprovalInbox τ) (request_id : String) : Option (ApprovalRecord τ) :=
  inbox.approvals.get? request_id

/-! ## Section 3: What the methods do -/

variable {inbox : ApprovalInbox τ}

omit [FiniteTest τ] in
/-- A consumption is refused, or finds an approval for the same digest and
    role that has not expired. -/
theorem consumeIfApproved_cases (inbox : ApprovalInbox τ) (now : τ) (action : ActionIntent)
    (digest : String) (required_role : ApprovalRole) :
    inbox.consumeIfApproved now action digest required_role = (false, inbox) ∨
    ∃ record, inbox.frozen_reason = none ∧
      inbox.approvals.get? action.request_id = some record ∧ record.consumed = false ∧
      record.intent_digest = digest ∧ record.actor_role = required_role ∧
      ¬ record.expires_at ≤ now ∧
      inbox.consumeIfApproved now action digest required_role =
        (true, { inbox with
          approvals := inbox.approvals.set action.request_id { record with consumed := true } }) := by
  unfold consumeIfApproved
  by_cases hfrozen : inbox.frozen_reason.isSome
  · exact Or.inl (if_pos hfrozen)
  rw [if_neg hfrozen]
  rcases hpending : inbox.pending.get? action.request_id with _ | pending
  · exact Or.inl rfl
  rcases hrecord : inbox.approvals.get? action.request_id with _ | record
  · exact Or.inl rfl
  simp only
  by_cases hconsumed : record.consumed
  · exact Or.inl (if_pos hconsumed)
  by_cases hrole : pending.required_role ≠ required_role
  · exact Or.inl (by rw [if_neg hconsumed, if_pos hrole])
  by_cases hdigest : pending.intent_digest ≠ digest ∨ record.intent_digest ≠ digest
  · exact Or.inl (by rw [if_neg hconsumed, if_neg hrole, if_pos hdigest])
  by_cases hactor : pending.required_role ≠ record.actor_role
  · exact Or.inl (by rw [if_neg hconsumed, if_neg hrole, if_neg hdigest, if_pos hactor])
  by_cases hexpired : record.expires_at ≤ now
  · refine Or.inl ?_
    rw [if_neg hconsumed, if_neg hrole, if_neg hdigest, if_neg hactor, if_pos hexpired]
  right
  obtain ⟨-, hdigest⟩ := not_or.mp hdigest
  refine ⟨record, by simpa using hfrozen, rfl, by simpa using hconsumed, not_not.mp hdigest,
    (not_not.mp hactor).symm.trans (not_not.mp hrole), hexpired, ?_⟩
  rw [if_neg hconsumed, if_neg hrole, if_neg (by grind), if_neg hactor, if_neg hexpired]

/-- What `approve` records. -/
theorem approve_ok {settings : InboxSettings τ} {now : τ} {request_id : String}
    {principal : ApprovalPrincipal} {ttl_seconds : τ} {record : ApprovalRecord τ}
    {inbox' : ApprovalInbox τ}
    (h : inbox.approve settings now request_id principal ttl_seconds = .ok (record, inbox')) :
    inbox.frozen_reason = none ∧ inbox.approvals.get? request_id = none ∧
      FiniteTest.isFinite ttl_seconds = true ∧ ¬ settings.max_ttl_seconds < ttl_seconds ∧
      principal.actor_id ∈ settings.allowed_approvers.actors principal.role ∧
      record.actor_id = principal.actor_id ∧ record.actor_role = principal.role ∧
      record.expires_at = now + ttl_seconds ∧ record.consumed = false ∧
      inbox' = { inbox with approvals := inbox.approvals.set request_id record } := by
  unfold approve requireFiniteSeconds notFrozen at h
  obtain ⟨-, h⟩ := require_bind_ok.mp h
  obtain ⟨hfinite, h⟩ := require_bind_ok.mp h
  obtain ⟨hpositive, h⟩ := require_bind_ok.mp h
  obtain ⟨hlimit, h⟩ := require_bind_ok.mp h
  obtain ⟨hfrozen, h⟩ := require_bind_ok.mp h
  cases hpending : inbox.pending.get? request_id with
  | none => rw [hpending] at h; cases h
  | some pending =>
    rw [hpending] at h
    obtain ⟨hrole, h⟩ := require_bind_ok.mp h
    obtain ⟨hallowed, h⟩ := require_bind_ok.mp h
    obtain ⟨hnone, h⟩ := require_bind_ok.mp h
    cases h
    exact ⟨hfrozen, by simpa using hnone, hfinite, hlimit, hallowed, rfl, rfl, rfl, rfl, rfl⟩

omit [Seconds τ] [FiniteTest τ] in
theorem freeze_ok {reason : String} {inbox' : ApprovalInbox τ}
    (h : inbox.freeze reason = .ok inbox') : inbox' = { inbox with frozen_reason := some reason } := by
  obtain ⟨-, h⟩ := require_bind_ok.mp h
  cases h
  rfl

omit [Seconds τ] [FiniteTest τ] in
/-- Parking leaves approvals and freezes. -/
theorem park_ok {action : ActionIntent} {digest : String} {required_role : ApprovalRole}
    {inbox' : ApprovalInbox τ} (h : inbox.park action digest required_role = .ok inbox') :
    inbox'.approvals = inbox.approvals ∧ inbox'.frozen_reason = inbox.frozen_reason := by
  unfold park notFrozen at h
  obtain ⟨-, h⟩ := require_bind_ok.mp h
  obtain ⟨-, h⟩ := require_bind_ok.mp h
  obtain ⟨-, h⟩ := require_bind_ok.mp h
  cases h
  exact ⟨rfl, rfl⟩

end ApprovalInbox

end CBrain

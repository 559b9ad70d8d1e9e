import CBrain.Framework.Rfc3339
import CBrain.Procurement.Proof

/-! # The expiry of an authorization

    Models `_require_unexpired_authorization` of `cbrain/procurement/proof.py`:
    the proof of a purchase asks that the authorization has not expired at the
    time of its binding.  The two times are compared as texts.

    * `requireUnexpired_iff` : what the check asks of the texts.
    * `expiry_check_agrees_iff` : for timestamps, exactly when it decides by the
      instants. -/

namespace CBrain.Purchasing

open Json (Dict)
open Rfc3339

/-! ## Section 1: The check -/

/-- The expiry that an authorization names: `expires_at`, or else `not_after`. -/
def expiryOf (authorization : Dict) : Json :=
  if authorization.get "expires_at" = .null then authorization.get "not_after"
  else authorization.get "expires_at"

/-- `_require_unexpired_authorization`. -/
def requireUnexpiredAuthorization (authorization : Dict) (at_time : String) : Raises Unit := do
  let expiry := expiryOf authorization
  require (expiry ≠ .null) (procurementError "PrivateVault authorization is missing expiry")
  let text ← requiredMember
    (procurementError "PrivateVault authorization expiry is invalid") expiry
  -- the texts are compared, not the times that they denote
  require (¬ text ≤ at_time) (procurementError "PrivateVault authorization has expired")

theorem requireUnexpired_iff {authorization : Dict} {at_time : String} :
    requireUnexpiredAuthorization authorization at_time = .ok () ↔
      ∃ text, expiryOf authorization = .str text ∧ nonBlank text = true ∧ at_time < text := by
  unfold requireUnexpiredAuthorization
  rw [require_bind_ok, bind_ok]
  constructor
  · intro h
    obtain ⟨_, text, htext, hrest⟩ := h
    obtain ⟨hstr, hblank⟩ := requiredMember_ok.mp htext
    exact ⟨text, hstr, hblank, not_le.mp (require_ok.mp hrest)⟩
  · intro h
    obtain ⟨text, hstr, hblank, hlt⟩ := h
    refine ⟨?_, text, requiredMember_ok.mpr ⟨hstr, hblank⟩, require_ok.mpr (not_le.mpr hlt)⟩
    rw [hstr]
    exact Json.noConfusion

/-! ## Section 2: Timestamps -/

/-- A timestamp is not blank: its date has dashes. -/
theorem stamp_nonBlank (s : Stamp) : nonBlank s.text = true := by
  unfold nonBlank Stamp.text
  rw [String.toList_ofList, List.any_eq_true]
  refine ⟨'-', ?_, by decide⟩
  simp [Stamp.characters, CivilTime.Date.text]

/-- For timestamps the check compares their texts. -/
theorem requireUnexpired_stamps {authorization : Dict} {a e : Stamp}
    (h : expiryOf authorization = .str e.text) :
    requireUnexpiredAuthorization authorization a.text = .ok () ↔ a.text < e.text := by
  rw [requireUnexpired_iff, h]
  constructor
  · intro hok
    obtain ⟨text, hstr, _, hlt⟩ := hok
    rw [Json.str.inj hstr]
    exact hlt
  · intro hlt
    exact ⟨e.text, rfl, stamp_nonBlank e, hlt⟩

/-- **The expiry of an authorization**: the check accepts exactly the later
    instants if and only if the offsets of the two timestamps do not undo the
    order of their texts. -/
theorem expiry_check_agrees_iff (authorization : Dict) (a e : Stamp)
    (h : expiryOf authorization = .str e.text) :
    (requireUnexpiredAuthorization authorization a.text = .ok () ↔ a.instant < e.instant) ↔
      Agree a e := by
  rw [requireUnexpired_stamps h]
  exact text_agrees_iff a e

/-! ## Section 3: An expiry of another zone -/

/-- `2026-07-31T12:00:00Z`. -/
def noon : Stamp where
  moment := ⟨⟨2026, 7, 31, by decide, by decide, by decide, by decide⟩,
    ⟨12, 0, 0, by decide, by decide, by decide⟩⟩
  year_lt := by decide
  separator := .upper
  fraction := []
  zone := .utc false

/-- `2026-07-31T17:00:00+05:30`, half an hour before noon of UTC. -/
def beforeNoon : Stamp where
  moment := ⟨⟨2026, 7, 31, by decide, by decide, by decide, by decide⟩,
    ⟨17, 0, 0, by decide, by decide, by decide⟩⟩
  year_lt := by decide
  separator := .upper
  fraction := []
  zone := .east ⟨5, 30, by decide, by decide⟩

/-- An authorization that expired half an hour ago passes the check. -/
theorem expired_authorization_accepted :
    requireUnexpiredAuthorization
        (object [("expires_at", .str "2026-07-31T17:00:00+05:30")])
        "2026-07-31T12:00:00Z" = .ok () ∧
      beforeNoon.text = "2026-07-31T17:00:00+05:30" ∧ noon.text = "2026-07-31T12:00:00Z" ∧
      beforeNoon.instant < noon.instant := by
  decide +kernel

/-- The check at these two timestamps, which do not agree. -/
theorem expiry_check_before_noon :
    ((requireUnexpiredAuthorization
          (object [("expires_at", .str "2026-07-31T17:00:00+05:30")])
          noon.text = .ok () ↔ noon.instant < beforeNoon.instant) ↔
        Agree noon beforeNoon) ∧ ¬ Agree noon beforeNoon :=
  ⟨expiry_check_agrees_iff (object [("expires_at", .str "2026-07-31T17:00:00+05:30")])
      noon beforeNoon (by decide +kernel), by decide +kernel⟩

end CBrain.Purchasing

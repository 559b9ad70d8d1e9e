import CBrain.Company.ReviewHistory
import CBrain.Framework.Double

/-! # When approvals and leases expire

    The deadlines that `DurableReviewStore` writes
    (`cbrain/company/durable_approval.py`), with its seconds as floats.  The
    windows are compared with inequalities only, a deadline is a sum of floats
    and passes a `REAL` column, and `_expire_lease_if_needed` and
    `_expire_approval_if_needed` decide later by what the column gives back.

    SQLite has no NaN: bound to a column, it is stored as `NULL`. -/

namespace CBrain

open scoped Seconds

instance : Seconds Double where
  decidableLE := inferInstance
  decidableLT := inferInstance

/-! ## Section 1: Deadlines -/

/-- What a `REAL` column gives back. -/
def column : Option Double → Option Double
  | some .nan => none
  | value => value

theorem eq_of_column {a b : Double} (h : column (some a) = some b) : b = a := by
  unfold column at h
  cases a <;> simp_all

/-- A record, as the table gives it back. -/
def ReviewRecord.held (record : ReviewRecord Double) : ReviewRecord Double :=
  { record with
    lease_expires_at := column record.lease_expires_at
    approved_at := column record.approved_at
    approval_expires_at := column record.approval_expires_at
    consumed_at := column record.consumed_at }

/-- A table, as SQLite holds it. -/
def ReviewTable.held (table : ReviewTable Double) : ReviewTable Double :=
  table.mapValues fun row => { row with record := row.record.held }

/-- A transaction that begins on the table as SQLite holds it. -/
def ReviewSession.held (s : ReviewSession Double) : ReviewSession Double :=
  { s with table := s.table.held }

theorem ReviewTable.record?_held (table : ReviewTable Double) (key : ReviewKey) :
    table.held.record? key = (table.record? key).map ReviewRecord.held := by
  unfold ReviewTable.held ReviewTable.record?
  rw [Table.get?_mapValues, Option.map_map, Option.map_map]
  rfl

/-- A deadline that is there, and that a clock with finite readings can reach. -/
def Expires (deadline : Option Double) : Prop :=
  ∃ t now, deadline = some t ∧ now.isFinite = true ∧ t ≤ now

/-- A deadline expires when its check sees it passed at some finite reading. -/
theorem expires_iff_passed {deadline : Option Double} (s : ReviewSession Double) :
    Expires deadline ↔ ∃ now : Double, now.isFinite = true ∧
      ∃ s', Transaction.Returns (DurableReviewStore.passed deadline) (fun _ => now) s true s' := by
  constructor
  · rintro ⟨t, now, hdeadline, hfinite, hle⟩
    subst hdeadline
    refine ⟨now, hfinite, _, Transaction.bind_returns.mpr
      ⟨now, _, Transaction.clock_returns.mpr ⟨rfl, rfl⟩, Transaction.pure_returns.mpr ⟨?_, rfl⟩⟩⟩
    exact (decide_eq_true hle).symm
  · rintro ⟨now, hfinite, s', h⟩
    cases deadline with
    | none =>
      obtain ⟨htrue, _⟩ := Transaction.pure_returns.mp h
      cases htrue
    | some t =>
      obtain ⟨reading, s₁, hclock, h⟩ := Transaction.bind_returns.mp h
      obtain ⟨rfl, _⟩ := Transaction.clock_returns.mp hclock
      obtain ⟨hle, _⟩ := Transaction.pure_returns.mp h
      exact ⟨t, _, rfl, hfinite, of_decide_eq_true hle.symm⟩

/-- The approval has a deadline, which is no later than its approval plus the
    longest time limit, and expires. -/
structure ReviewRecord.ApprovalBounded (max_ttl_seconds : Double) (record : ReviewRecord Double) :
    Prop where
  bounded : ∃ approved_at expires_at, record.approved_at = some approved_at ∧
    record.approval_expires_at = some expires_at ∧ expires_at ≤ approved_at + max_ttl_seconds
  expires : Expires record.approval_expires_at

/-- A clock reading and a window whose sum is a deadline that expires: the
    window is finite, and the reading is finite and far enough from the end of
    the floats, or before them all. -/
def WindowFits : Double → Double → Prop
  | .finite now _, .finite window _ => now + window < Double.overflow
  | .infinity true, .finite .. => True
  | _, _ => False

/-- A clock reading to which the longest time limit can be added. -/
def LimitAdds (now max_ttl_seconds : Double) : Prop :=
  max_ttl_seconds ≠ .nan ∧ (now = .infinity true → max_ttl_seconds ≠ .infinity false)

theorem Expires.some {deadline : Option Double} (h : Expires deadline) :
    ∃ t, deadline = some t := by
  obtain ⟨t, _, hdeadline, _⟩ := h
  exact ⟨t, hdeadline⟩

theorem not_expires_none : ¬ Expires none := by
  rintro ⟨t, now, hdeadline, _⟩
  cases hdeadline

theorem not_expires_infinity : ¬ Expires (some (.infinity false)) := by
  rintro ⟨t, now, hdeadline, hfinite, hle⟩
  obtain rfl := Option.some.inj hdeadline
  cases now with
  | finite x _ => exact hle
  | infinity neg => cases hfinite
  | nan => cases hfinite

theorem expires_finite {x : Int} (h : Double.Representable x.natAbs) :
    Expires (some (.finite x h)) :=
  ⟨_, .finite x h, rfl, rfl, Int.le_refl x⟩

theorem expires_first : Expires (some (.infinity true)) :=
  ⟨_, 0, rfl, rfl, trivial⟩

/-- A rounded number expires as a deadline unless it rounds upwards to infinity. -/
theorem expires_round {units : Int} :
    Expires (column (some (Double.round units))) ↔ units < Double.overflow := by
  unfold Double.round
  by_cases hsmall : units.natAbs < Double.overflow
  · rw [dif_pos hsmall]
    exact iff_of_true (expires_finite _) (by omega)
  · rw [dif_neg hsmall]
    by_cases hneg : units < 0
    · rw [decide_eq_true hneg]
      exact iff_of_true expires_first (by omega)
    · rw [decide_eq_false hneg]
      exact iff_of_false not_expires_infinity (by omega)

/-- An accepted window gives a deadline that expires exactly if it fits. -/
theorem expires_add {now window : Double} (h : ¬ window ≤ 0) :
    Expires (column (some (now + window))) ↔ WindowFits now window := by
  cases window with
  | finite w _ =>
    cases now with
    | finite n _ => exact expires_round
    | infinity neg =>
      cases neg with
      | true => exact iff_of_true expires_first trivial
      | false => exact iff_of_false not_expires_infinity id
    | nan => exact iff_of_false not_expires_none id
  | infinity neg =>
    cases neg with
    | true => exact absurd trivial h
    | false =>
      cases now with
      | finite n _ => exact iff_of_false not_expires_infinity id
      | infinity neg =>
        cases neg with
        | true => exact iff_of_false not_expires_none id
        | false => exact iff_of_false not_expires_infinity id
      | nan => exact iff_of_false not_expires_none id
  | nan =>
    cases now with
    | finite n _ => exact iff_of_false not_expires_none id
    | infinity neg => exact iff_of_false not_expires_none (by cases neg <;> exact id)
    | nan => exact iff_of_false not_expires_none id

/-- What fits is a finite window from a finite reading or from before them
    all. -/
theorem WindowFits.finite {now window : Double} (h : WindowFits now window) :
    (∃ w hw, window = .finite w hw) ∧ (now = .infinity true ∨ ∃ n hn, now = .finite n hn) := by
  cases window with
  | finite w hw =>
    cases now with
    | finite n hn => exact ⟨⟨w, hw, rfl⟩, Or.inr ⟨n, hn, rfl⟩⟩
    | infinity neg =>
      cases neg with
      | true => exact ⟨⟨w, hw, rfl⟩, Or.inl rfl⟩
      | false => exact h.elim
    | nan => exact h.elim
  | infinity neg =>
    cases now with
    | infinity before => cases before <;> exact h.elim
    | finite n hn => exact h.elim
    | nan => exact h.elim
  | nan =>
    cases now with
    | infinity before => cases before <;> exact h.elim
    | finite n hn => exact h.elim
    | nan => exact h.elim

/-- The deadline of an accepted time limit that fits is within the longest one
    exactly if that can be added to the reading. -/
theorem add_le_limit {now ttl max_ttl : Double} (hpositive : ¬ max_ttl ≤ 0)
    (hwithin : ¬ max_ttl < ttl) (hfits : WindowFits now ttl) :
    now + ttl ≤ now + max_ttl ↔ LimitAdds now max_ttl := by
  obtain ⟨⟨t, ht, rfl⟩, hnow⟩ := hfits.finite
  cases max_ttl with
  | nan => exact iff_of_false (by rw [Double.add_nan]; exact Double.not_le_nan) fun h => h.1 rfl
  | infinity neg =>
    cases neg with
    | true => exact absurd trivial hpositive
    | false =>
      rcases hnow with rfl | ⟨n, hn, rfl⟩
      · exact iff_of_false Double.not_le_nan fun h => h.2 rfl rfl
      · exact iff_of_true (Double.le_infinity Double.round_ne_nan) ⟨nofun, nofun⟩
  | finite m _ =>
    rcases hnow with rfl | ⟨n, hn, rfl⟩
    · exact iff_of_true trivial ⟨nofun, nofun⟩
    · -- A longer window gives a later deadline.
      have hle : t ≤ m := by
        by_contra hlt
        exact hwithin ⟨show m ≤ t by omega, hlt⟩
      exact iff_of_true (Double.round_mono (by omega)) ⟨nofun, nofun⟩

/-! ## Section 2: What is written -/

section writes

variable {τ : Type} [Seconds τ]

namespace DurableReviewStore

open Transaction

/-- The clock readings that `_expire_lease_if_needed` takes: one for a lease
    with a deadline, and one more when it writes that the lease has ended. -/
def leaseReadings (store : DurableReviewStore τ) (request_id : String) (clock : Nat → τ)
    (s : ReviewSession τ) : Nat :=
  match s.table.record? (store.organisation_id, request_id) with
  | none => 0
  | some record =>
    if record.state = .leased then
      match record.lease_expires_at with
      | none => 0
      | some t => if t ≤ clock s.taken then 2 else 1
    else 0

/-- The reading from which a new window counts. -/
def windowStart (store : DurableReviewStore τ) (request_id : String) (clock : Nat → τ)
    (s : ReviewSession τ) : τ :=
  clock (s.taken + store.leaseReadings request_id clock s)

variable {store : DurableReviewStore τ} {clock : Nat → τ} {s s' : ReviewSession τ}

/-- A check of a deadline that is there takes one reading. -/
theorem passed_some {t : τ} {b : Bool} (hrun : Returns (passed (some t)) clock s b s') :
    b = decide (t ≤ clock s.taken) ∧ s' = { s with taken := s.taken + 1 } := by
  obtain ⟨now, s₁, hclock, h⟩ := bind_returns.mp hrun
  obtain ⟨rfl, rfl⟩ := clock_returns.mp hclock
  obtain ⟨rfl, rfl⟩ := pure_returns.mp h
  exact ⟨rfl, rfl⟩

theorem expireLeaseIfNeeded_taken {request_id : String} {r : Option (ReviewRecord τ)}
    (hrun : Returns (store.expireLeaseIfNeeded request_id) clock s r s') :
    s'.taken = s.taken + store.leaseReadings request_id clock s := by
  unfold leaseReadings
  obtain ⟨loaded, s₁, hload, h⟩ := bind_returns.mp hrun
  obtain ⟨rfl, rfl⟩ := load_ok.mp hload
  cases hloaded : s₁.table.record? (store.organisation_id, request_id) with
  | none =>
    rw [hloaded] at h
    obtain ⟨_, rfl⟩ := pure_returns.mp h
    rfl
  | some record =>
    rw [hloaded] at h
    by_cases hstate : record.state = .leased
    · simp only [hstate, if_true] at h ⊢
      obtain ⟨b, s₂, hpassed, hrest⟩ := bind_returns.mp h
      cases hdeadline : record.lease_expires_at with
      | none =>
        rw [hdeadline] at hpassed
        obtain ⟨rfl, rfl⟩ := pure_returns.mp hpassed
        have hlive : Returns (pure (some record)) clock s₂ r s' := hrest
        obtain ⟨_, rfl⟩ := pure_returns.mp hlive
        rfl
      | some t =>
        rw [hdeadline] at hpassed
        obtain ⟨rfl, rfl⟩ := passed_some hpassed
        by_cases hle : t ≤ clock s₁.taken
        · simp only [hle, decide_true, if_true] at hrest ⊢
          obtain ⟨u, s₃, hreplace, hrest⟩ := bind_returns.mp hrest
          obtain ⟨_, rfl⟩ := pure_returns.mp hrest
          exact (replace_ok hreplace).2.1
        · simp only [hle, decide_false, Bool.false_eq_true, if_false] at hrest ⊢
          obtain ⟨_, rfl⟩ := pure_returns.mp hrest
          rfl
    · simp only [hstate, if_false] at h ⊢
      obtain ⟨_, rfl⟩ := pure_returns.mp h
      rfl

/-- The times of an approval: the reading after those of the lease check, and
    the deadline from it. -/
theorem approve_times {request_id : String} {principal : ApprovalPrincipal} {ttl_seconds : τ}
    {u : ReviewRecord τ}
    (hrun : Returns (store.approve request_id principal ttl_seconds) clock s u s') :
    ¬ (ttl_seconds ≤ 0 ∨ store.max_ttl_seconds < ttl_seconds) ∧
    s'.table.record? (store.organisation_id, request_id) = some u ∧ u.state = .approved ∧
    u.approved_at = some (store.windowStart request_id clock s) ∧
    u.approval_expires_at = some (store.windowStart request_id clock s + ttl_seconds) := by
  unfold approve at hrun
  split at hrun
  · exact absurd hrun raise_returns
  rename_i hwindow
  obtain ⟨r, s₁, hexpire, h⟩ := bind_returns.mp hrun
  have hleft := (expireLeaseIfNeeded_ok hexpire).2.2
  have htaken := expireLeaseIfNeeded_taken hexpire
  cases r with
  | none => exact absurd h raise_returns
  | some record =>
    simp only at h
    split at h
    · exact absurd h raise_returns
    split at h
    · exact absurd h raise_returns
    split at h
    · exact absurd h raise_returns
    split at h
    · exact absurd h raise_returns
    obtain ⟨now, s₂, hclock, h⟩ := bind_returns.mp h
    obtain ⟨rfl, rfl⟩ := clock_returns.mp hclock
    obtain ⟨rfl, -, hwrote⟩ := replace_ok h
    have hself := hwrote.self
    rw [show (record.updated _).key = record.key from rfl, ReviewTable.key_of_record? hleft] at hself
    unfold windowStart
    rw [← htaken]
    exact ⟨hwindow, hself, rfl, rfl, rfl⟩

/-- The deadline of a lease, whether it is new or renewed. -/
theorem claimLease_times {request_id worker_id : String} {lease_seconds : Option τ}
    {u : ReviewRecord τ}
    (hrun : Returns (store.claimLease request_id worker_id lease_seconds) clock s u s') :
    ¬ lease_seconds.getD store.max_lease_seconds ≤ 0 ∧
    s'.table.record? (store.organisation_id, request_id) = some u ∧ u.state = .leased ∧
    u.lease_expires_at = some
      (store.windowStart request_id clock s + lease_seconds.getD store.max_lease_seconds) := by
  unfold claimLease at hrun
  simp only at hrun
  split at hrun
  · exact absurd hrun raise_returns
  split at hrun
  · exact absurd hrun raise_returns
  rename_i hwindow
  have hpositive := (not_or.mp hwindow).1
  obtain ⟨r, s₁, hexpire, h⟩ := bind_returns.mp hrun
  have hleft := (expireLeaseIfNeeded_ok hexpire).2.2
  have htaken := expireLeaseIfNeeded_taken hexpire
  cases r with
  | none => exact absurd h raise_returns
  | some record =>
    have hkey := ReviewTable.key_of_record? hleft
    simp only at h
    split at h
    · exact absurd h raise_returns
    obtain ⟨now, s₂, hclock, h⟩ := bind_returns.mp h
    obtain ⟨rfl, rfl⟩ := clock_returns.mp hclock
    unfold windowStart
    rw [← htaken]
    split at h
    · split at h
      · obtain ⟨rfl, -, hwrote⟩ := replace_ok h
        have hself := hwrote.self
        rw [show (record.updated _).key = record.key from rfl, hkey] at hself
        exact ⟨hpositive, hself, rfl, rfl⟩
      · exact absurd h raise_returns
    split at h
    · exact absurd h raise_returns
    · obtain ⟨rfl, -, hwrote⟩ := replace_ok h
      have hself := hwrote.self
      rw [show (record.updated _).key = record.key from rfl, hkey] at hself
      exact ⟨hpositive, hself, rfl, rfl⟩

end DurableReviewStore

end writes

/-! ## Section 3: What is held -/

/-- An approval as the table gives it back is bounded exactly if its time
    limit fits and the longest one can be added. -/
theorem approvalBounded_iff {record : ReviewRecord Double} {now ttl max_ttl : Double}
    (happroved : record.approved_at = some now)
    (hexpires : record.approval_expires_at = some (now + ttl))
    (hpositive : ¬ max_ttl ≤ 0) (hwindow : ¬ (ttl ≤ 0 ∨ max_ttl < ttl)) :
    record.held.ApprovalBounded max_ttl ↔ WindowFits now ttl ∧ LimitAdds now max_ttl := by
  obtain ⟨httl, hwithin⟩ := not_or.mp hwindow
  have hheld : record.held.approval_expires_at = column (some (now + ttl)) := by
    rw [← hexpires]
    rfl
  constructor
  · intro h
    have hexp : Expires (column (some (now + ttl))) := hheld ▸ h.expires
    have hfits := (expires_add httl).mp hexp
    obtain ⟨approved_at, expires_at, ha, he, hle⟩ := h.bounded
    have ha' : column (some now) = some approved_at := by
      rw [← ha, ← happroved]
      rfl
    rw [hheld] at he
    rw [eq_of_column ha', eq_of_column he] at hle
    exact ⟨hfits, (add_le_limit hpositive hwithin hfits).mp hle⟩
  · rintro ⟨hfits, hadds⟩
    have hexp := (expires_add httl).mpr hfits
    obtain ⟨⟨t, ht, rfl⟩, hnow⟩ := hfits.finite
    have happroved : record.held.approved_at = some now := by
      show column record.approved_at = _
      rw [happroved]
      rcases hnow with rfl | ⟨n, hn, rfl⟩ <;> rfl
    obtain ⟨expires_at, he⟩ := hexp.some
    refine ⟨⟨now, expires_at, happroved, hheld.trans he, ?_⟩, hheld ▸ hexp⟩
    rw [eq_of_column he]
    exact (add_le_limit hpositive hwithin hfits).mpr hadds

open Transaction in
/-- **Deadlines.**  What an approval leaves in the table has a deadline within
    the longest time limit that expires, if and only if its time limit fits
    after the reading it counts from, and the longest one can be added to
    that; what a lease leaves has a deadline that expires if and only if its
    window fits. -/
theorem review_deadlines_iff (store : DurableReviewStore Double) (request_id : String)
    (clock : Nat → Double) (s : ReviewSession Double) :
    (∀ principal ttl_seconds record s',
      Returns (store.approve request_id principal ttl_seconds) clock s.held record s' →
      ∃ row, s'.table.held.record? (store.organisation_id, request_id) = some row ∧
        row.state = .approved ∧
        (row.ApprovalBounded store.max_ttl_seconds ↔
          WindowFits (store.windowStart request_id clock s.held) ttl_seconds ∧
          LimitAdds (store.windowStart request_id clock s.held) store.max_ttl_seconds)) ∧
    (∀ worker_id lease_seconds record s',
      Returns (store.claimLease request_id worker_id lease_seconds) clock s.held record s' →
      ∃ row, s'.table.held.record? (store.organisation_id, request_id) = some row ∧
        row.state = .leased ∧
        (Expires row.lease_expires_at ↔
          WindowFits (store.windowStart request_id clock s.held)
            (lease_seconds.getD store.max_lease_seconds))) := by
  constructor
  · intro principal ttl_seconds record s' hrun
    obtain ⟨hwindow, hrow, hstate, happroved, hexpires⟩ :=
      DurableReviewStore.approve_times hrun
    refine ⟨record.held, ?_, hstate, ?_⟩
    · rw [ReviewTable.record?_held, hrow]
      rfl
    · exact approvalBounded_iff happroved hexpires (not_or.mp store.windows_positive).1 hwindow
  · intro worker_id lease_seconds record s' hrun
    obtain ⟨hpositive, hrow, hstate, hexpires⟩ := DurableReviewStore.claimLease_times hrun
    refine ⟨record.held, ?_, hstate, ?_⟩
    · rw [ReviewTable.record?_held, hrow]
      rfl
    · show Expires (column record.lease_expires_at) ↔ _
      rw [hexpires]
      exact expires_add hpositive

/-! ## Section 4: A time limit that is not a number -/

/-- A minute is a whole number of seconds that a float holds. -/
theorem minute_exact : 60 < 2 ^ 53 := by decide

/-- The controller's store, with an hour for an approval and a minute for a
    lease. -/
def hourStore : DurableReviewStore Double where
  organisation_id := "acme"
  allowed_approvers := controllerStore.allowed_approvers
  max_ttl_seconds := .ofNat 3600 (by decide)
  max_lease_seconds := .ofNat 60 minute_exact
  organisation_id_text := nonBlank_acme
  windows_positive := by
    rintro (h | h)
    · exact absurd (Double.ofNat_le_zero.mp h) (by decide)
    · exact absurd (Double.ofNat_le_zero.mp h) (by decide)

/-- A parked request of the organisation. -/
def parkedRow : ReviewRow Double where
  record :=
    ⟨"acme", "request-1", "digest-1", .controller, .parked, none, none, none, none, none, none,
      none, 1⟩
  event_log := []

def parkedSession : ReviewSession Double where
  table := Table.empty.set ("acme", "request-1") parkedRow
  taken := 0

/-- The controller approves the request for any accepted time limit. -/
theorem approve_parked {ttl_seconds : Double}
    (httl : ¬ (ttl_seconds ≤ 0 ∨ hourStore.max_ttl_seconds < ttl_seconds)) :
    ∃ record s', Transaction.Returns
        (hourStore.approve "request-1" controllerPrincipal ttl_seconds) (fun _ => 0)
        parkedSession.held record s' ∧
      s'.table.held.record? (hourStore.organisation_id, "request-1") = some record.held ∧
      record.approval_expires_at = some (0 + ttl_seconds) := by
  have hparked : parkedSession.held.table.record? (hourStore.organisation_id, "request-1") =
      some parkedRow.record := rfl
  obtain ⟨u, s', happrove, hrow, _, _, _, hdeadline⟩ :=
    approve_returns hourStore controllerPrincipal ttl_seconds (fun _ => 0) hparked rfl rfl
      (show _ ∈ controllerStore.allowed_approvers.actors .controller by decide) httl
  refine ⟨u, s', happrove, ?_, hdeadline⟩
  rw [ReviewTable.record?_held, hrow]
  rfl

/-- At reading zero, an approval for a minute is bounded. -/
theorem review_deadlines_minute :
    ∃ row : ReviewRecord Double, row.state = .approved ∧
      row.ApprovalBounded hourStore.max_ttl_seconds := by
  have httl : ¬ (Double.ofNat 60 (by decide) ≤ 0 ∨
      hourStore.max_ttl_seconds < Double.ofNat 60 (by decide)) := by
    rintro (hle | hlt)
    · exact absurd (Double.ofNat_le_zero.mp hle) (by decide)
    · have hle : Double.ofNat 3600 (by decide) ≤ Double.ofNat 60 (by decide) := hlt.1
      exact absurd (Double.ofNat_le.mp hle) (by decide)
  obtain ⟨record, s', happrove, _, _⟩ := approve_parked httl
  obtain ⟨row, _, hstate, hiff⟩ :=
    (review_deadlines_iff hourStore "request-1" (fun _ => 0) parkedSession).1 controllerPrincipal
      _ record s' happrove
  exact ⟨row, hstate, hiff.mpr ⟨Double.zero_add_ofNat_lt 60 (by decide), nofun, nofun⟩⟩

/-- The controller approves the request for NaN seconds, and the approval has
    no deadline. -/
theorem nan_limit_never_expires :
    ¬ ∀ ttl_seconds record s',
      Transaction.Returns (hourStore.approve "request-1" controllerPrincipal ttl_seconds)
        (fun _ => 0) parkedSession.held record s' →
      ∃ row, s'.table.held.record? (hourStore.organisation_id, "request-1") = some row ∧
        row.ApprovalBounded hourStore.max_ttl_seconds := by
  intro hbounded
  obtain ⟨record, s', happrove, hrow, hdeadline⟩ := @approve_parked .nan (by
    rintro (hle | hlt)
    · exact hle
    · exact Double.not_le_nan hlt.1)
  obtain ⟨row, hheld, hrowBounded⟩ := hbounded .nan record s' happrove
  obtain rfl := Option.some.inj (hrow.symm.trans hheld)
  have hexpires : Expires (column record.approval_expires_at) := hrowBounded.expires
  rw [hdeadline] at hexpires
  exact not_expires_none hexpires

end CBrain

import CBrain.Company.ReviewExpiry

/-! # Leases over whole histories

    What every sequence of calls by any workers keeps of the table of
    `DurableReviewStore` (`cbrain/company/durable_approval.py`): a row shows
    an owner and an expiry exactly while it is leased, its version counts its
    events, and a lease is not taken over before it expires.

    Times are floats.  A call works on the table as SQLite gives it back, with
    the NaN of a column read as `NULL`. -/

namespace CBrain

open DurableReviewStore Transaction
open scoped Seconds

/-! ## Section 1: Rows that show their lease -/

/-- The lease columns tell the state: an owner and an expiry while leased, and
    neither otherwise. -/
def ReviewRecord.ShowsLease (record : ReviewRecord Double) : Prop :=
  if record.state = .leased then
    ∃ owner t, record.lease_owner = some owner ∧ record.lease_expires_at = some t ∧ t ≠ .nan
  else record.lease_owner = none ∧ record.lease_expires_at = none

/-- A row that shows its lease and counts its events. -/
structure ReviewRow.Coherent (row : ReviewRow Double) : Prop where
  lease : row.record.ShowsLease
  counted : row.record.version = row.event_log.length

/-- All rows are coherent. -/
def ReviewTable.Coherent (table : ReviewTable Double) : Prop :=
  ∀ key row, table.get? key = some row → row.Coherent

variable {store : DurableReviewStore Double} {clock : Nat → Double} {s s' : ReviewSession Double}
  {record : ReviewRecord Double}

theorem ReviewRecord.ShowsLease.leased {owner : String} {t : Double} (hstate : record.state = .leased)
    (howner : record.lease_owner = some owner) (ht : record.lease_expires_at = some t)
    (hnum : t ≠ .nan) : record.ShowsLease := by
  unfold ShowsLease
  rw [if_pos hstate]
  exact ⟨owner, t, howner, ht, hnum⟩

theorem ReviewRecord.ShowsLease.cleared (hstate : record.state ≠ .leased)
    (howner : record.lease_owner = none) (hexpires : record.lease_expires_at = none) :
    record.ShowsLease := by
  unfold ShowsLease
  rw [if_neg hstate]
  exact ⟨howner, hexpires⟩

/-- A record that is not leased, put in another such state, still has no lease. -/
theorem ReviewRecord.ShowsLease.unleased (h : record.ShowsLease) (hstate : record.state ≠ .leased)
    {r : Replacement Double} (hclear : r.clear_lease = false) (hset : r.set_lease = false)
    (hstate' : (record.updated r).state ≠ .leased) : (record.updated r).ShowsLease := by
  unfold ShowsLease at h
  rw [if_neg hstate] at h
  apply cleared hstate'
  · simp [ReviewRecord.updated, hclear, hset, h.1]
  · simp [ReviewRecord.updated, hclear, hset, h.2]

/-- The columns read back as they were written: an expiry is a number. -/
theorem ReviewRecord.ShowsLease.held (h : record.ShowsLease) : record.held.ShowsLease := by
  unfold ShowsLease at h
  by_cases hstate : record.state = .leased
  · rw [if_pos hstate] at h
    obtain ⟨owner, t, howner, ht, hnum⟩ := h
    refine leased (t := t) hstate howner ?_ hnum
    show column record.lease_expires_at = some t
    rw [ht]
    cases t with
    | nan => exact absurd rfl hnum
    | finite x hx => rfl
    | infinity neg => rfl
  · rw [if_neg hstate] at h
    refine cleared (show record.held.state ≠ .leased from hstate) h.1 ?_
    show column record.lease_expires_at = none
    rw [h.2]
    rfl

theorem ReviewTable.Coherent.held {table : ReviewTable Double} (h : table.Coherent) :
    table.held.Coherent := by
  intro key row hrow
  unfold ReviewTable.held at hrow
  rw [Table.get?_mapValues] at hrow
  obtain ⟨raw, hraw, rfl⟩ := Option.map_eq_some_iff.mp hrow
  obtain ⟨hlease, hcounted⟩ := h key raw hraw
  exact ⟨hlease.held, hcounted⟩

/-- A record that a coherent table gives shows its lease. -/
theorem ReviewTable.Coherent.shows {table : ReviewTable Double} (h : table.Coherent)
    {key : ReviewKey} (hrecord : table.record? key = some record) : record.ShowsLease := by
  obtain ⟨row, hrow, rfl⟩ := Option.map_eq_some_iff.mp hrecord
  exact (h key row hrow).lease

theorem ReviewTable.Coherent.empty : ReviewTable.Coherent .empty := by
  intro key row hrow
  rw [Table.get?_empty] at hrow
  cases hrow

theorem ReviewTable.Coherent.set {table : ReviewTable Double} (h : table.Coherent)
    (key : ReviewKey) {row : ReviewRow Double} (hrow : row.Coherent) :
    ReviewTable.Coherent (table.set key row) := by
  intro key' row' hrow'
  rw [Table.get?_set] at hrow'
  by_cases hkey : key' = key
  · rw [if_pos hkey] at hrow'
    obtain rfl := Option.some.inj hrow'
    exact hrow
  · rw [if_neg hkey] at hrow'
    exact h key' row' hrow'

/-! ## Section 2: Every part of a transaction keeps them -/

/-- `_replace` of a loaded record adds one to the version and one event. -/
theorem replace_coherent {request_id : String} {r : Replacement Double} {u : ReviewRecord Double}
    (hrun : Returns (store.replace record r) clock s u s') (hs : s.table.Coherent)
    (hrecord : s.table.record? (store.organisation_id, request_id) = some record)
    (hlease : record.ShowsLease → (record.updated r).ShowsLease) : s'.table.Coherent := by
  obtain ⟨events, s₁, hevents, h⟩ := bind_returns.mp hrun
  obtain ⟨rfl, rfl⟩ := (pure_returns (c := clock)).mp hevents
  obtain ⟨now, s₂, hclock, h⟩ := bind_returns.mp h
  obtain ⟨rfl, rfl⟩ := clock_returns.mp hclock
  obtain ⟨rowcount, s₃, hupdate, h⟩ := bind_returns.mp h
  by_cases hcount : rowcount = 1
  · rw [if_neg (not_not.mpr hcount)] at h
    obtain ⟨rfl, rfl⟩ := pure_returns.mp h
    subst hcount
    obtain rfl := updateRow_ok hupdate
    refine hs.set record.key ⟨hlease (hs.shows hrecord), ?_⟩
    -- The event log that was read is the one of the loaded row.
    have hrequest : record.request_id = request_id :=
      congrArg Prod.snd (ReviewTable.key_of_record? hrecord)
    obtain ⟨row, hrow, hshown⟩ := Option.map_eq_some_iff.mp hrecord
    have hversion : record.version = row.event_log.length := by
      rw [← hshown]
      exact (hs _ row hrow).counted
    rw [hrequest, hrow]
    simp only [List.length_append, List.length_singleton]
    rw [← hversion]
    rfl
  · rw [if_pos hcount] at h
    exact absurd h raise_returns

/-- An expiry check leaves coherent rows where its replacement does, and
    returns the record of the key. -/
theorem expireIfNeeded_coherent {request_id : String} {live : ReviewState}
    {deadline : ReviewRecord Double → Option Double} {expired : Replacement Double}
    {r : Option (ReviewRecord Double)}
    (hrun : Returns (store.expireIfNeeded request_id live deadline expired) clock s r s')
    (hs : s.table.Coherent)
    (hlease : ∀ record : ReviewRecord Double, record.state = live → record.ShowsLease →
      (record.updated expired).ShowsLease) : s'.table.Coherent := by
  obtain ⟨loaded, s₁, hload, h⟩ := bind_returns.mp hrun
  obtain ⟨rfl, rfl⟩ := load_ok.mp hload
  cases hloaded : s₁.table.record? (store.organisation_id, request_id) with
  | none =>
    rw [hloaded] at h
    obtain ⟨-, rfl⟩ := pure_returns.mp h
    exact hs
  | some record =>
    rw [hloaded] at h
    by_cases hstate : record.state = live
    · simp only [hstate, if_true] at h
      obtain ⟨b, s₂, hpassed, h⟩ := bind_returns.mp h
      have htable := (passed_ok hpassed).1
      cases b with
      | true =>
        simp only [if_true] at h
        obtain ⟨u, s₃, hreplace, h⟩ := bind_returns.mp h
        obtain ⟨-, rfl⟩ := pure_returns.mp h
        apply replace_coherent hreplace
        · rw [htable]
          exact hs
        · rw [htable]
          exact hloaded
        · exact hlease record hstate
      | false =>
        obtain ⟨-, rfl⟩ := pure_returns.mp h
        rw [htable]
        exact hs
    · simp only [hstate, if_false] at h
      obtain ⟨-, rfl⟩ := pure_returns.mp h
      exact hs

theorem expireLeaseIfNeeded_coherent {request_id : String} {r : Option (ReviewRecord Double)}
    (hrun : Returns (store.expireLeaseIfNeeded request_id) clock s r s')
    (hs : s.table.Coherent) : s'.table.Coherent :=
  expireIfNeeded_coherent hrun hs fun _ _ _ => .cleared nofun rfl rfl

theorem expireApprovalIfNeeded_coherent {request_id : String} {r : Option (ReviewRecord Double)}
    (hrun : Returns (store.expireApprovalIfNeeded request_id) clock s r s')
    (hs : s.table.Coherent) : s'.table.Coherent := by
  apply expireIfNeeded_coherent hrun hs
  intro record hstate hlease
  exact hlease.unleased (by simp [hstate]) rfl rfl nofun

/-! ## Section 3: Every operation keeps them -/

/-- The event of the insertion is the first version. -/
theorem insert_coherent {event : String}
    (hrun : Returns (DurableReviewStore.insert record event) clock s () s') (hs : s.table.Coherent)
    (hlease : record.ShowsLease) (hversion : record.version = 1) : s'.table.Coherent := by
  obtain ⟨now, s₁, hclock, h⟩ := bind_returns.mp hrun
  obtain ⟨rfl, rfl⟩ := clock_returns.mp hclock
  unfold Returns insertRow at h
  simp only at h
  split at h
  · cases h
  split at h
  · cases h
  split at h
  · cases h
  split at h
  · cases h
  · rename_i table htable
    cases h
    obtain ⟨-, rfl⟩ := Table.insert?_eq_some.mp htable
    exact hs.set _ ⟨hlease, hversion⟩

theorem park_coherent {action : ActionIntent} {digest : String} {required_role : ApprovalRole}
    {u : ReviewRecord Double}
    (hrun : Returns (store.park action digest required_role) clock s u s')
    (hs : s.table.Coherent) : s'.table.Coherent := by
  unfold park at hrun
  split at hrun
  · exact absurd hrun raise_returns
  obtain ⟨loaded, s₁, hload, h⟩ := bind_returns.mp hrun
  obtain ⟨rfl, rfl⟩ := load_ok.mp hload
  split at h
  · -- A row that is there is returned or refused.
    split at h
    · exact absurd h raise_returns
    split at h
    · exact absurd h raise_returns
    split at h
    · obtain ⟨-, rfl⟩ := pure_returns.mp h
      exact hs
    · exact absurd h raise_returns
  · obtain ⟨_, s₂, hinsert, h⟩ := bind_returns.mp h
    obtain ⟨-, rfl⟩ := pure_returns.mp h
    exact insert_coherent hinsert hs (.cleared nofun rfl rfl) rfl

/-- A window that is finite, counted from a finite reading, ends at a number. -/
theorem add_ne_nan {now window : Double} (hnow : now.isFinite = true)
    (hwindow : window.isFinite = true) : now + window ≠ .nan := by
  cases now with
  | finite n hn =>
    cases window with
    | finite w hw => exact Double.round_ne_nan
    | infinity neg => cases hwindow
    | nan => cases hwindow
  | infinity neg => cases hnow
  | nan => cases hnow

/-- `claim_lease` writes an owner and an expiry with the state. -/
theorem claimLease_coherent {request_id worker_id : String} {lease_seconds : Option Double}
    {u : ReviewRecord Double}
    (hrun : Returns (store.claimLease request_id worker_id lease_seconds) clock s u s')
    (hclock : ∀ n, (clock n).isFinite = true)
    (hwindow : (lease_seconds.getD store.max_lease_seconds).isFinite = true)
    (hs : s.table.Coherent) : s'.table.Coherent := by
  unfold claimLease at hrun
  simp only at hrun
  split at hrun
  · exact absurd hrun raise_returns
  split at hrun
  · exact absurd hrun raise_returns
  obtain ⟨r, s₁, hexpire, h⟩ := bind_returns.mp hrun
  have hs₁ := expireLeaseIfNeeded_coherent hexpire hs
  have hleft := (expireLeaseIfNeeded_ok hexpire).2.2
  cases r with
  | none => exact absurd h raise_returns
  | some record =>
    simp only at h
    split at h
    · exact absurd h raise_returns
    obtain ⟨now, s₂, hread, h⟩ := bind_returns.mp h
    obtain ⟨rfl, rfl⟩ := clock_returns.mp hread
    have hnum := add_ne_nan (hclock s₁.taken) hwindow
    split at h
    · split at h
      · exact replace_coherent (s := { s₁ with taken := s₁.taken + 1 }) h hs₁ hleft fun _ =>
          .leased rfl rfl rfl hnum
      · exact absurd h raise_returns
    split at h
    · exact absurd h raise_returns
    · exact replace_coherent (s := { s₁ with taken := s₁.taken + 1 }) h hs₁ hleft fun _ =>
        .leased rfl rfl rfl hnum

theorem releaseLease_coherent {request_id worker_id : String} {u : ReviewRecord Double}
    (hrun : Returns (store.releaseLease request_id worker_id) clock s u s')
    (hs : s.table.Coherent) : s'.table.Coherent := by
  obtain ⟨r, s₁, hexpire, h⟩ := bind_returns.mp hrun
  have hs₁ := expireLeaseIfNeeded_coherent hexpire hs
  have hleft := (expireLeaseIfNeeded_ok hexpire).2.2
  cases r with
  | none => exact absurd h raise_returns
  | some record =>
    simp only at h
    split at h
    · obtain ⟨-, rfl⟩ := pure_returns.mp h
      exact hs₁
    split at h
    · exact absurd h raise_returns
    · exact replace_coherent h hs₁ hleft fun _ => .cleared nofun rfl rfl

theorem approve_coherent {request_id : String} {principal : ApprovalPrincipal}
    {ttl_seconds : Double} {u : ReviewRecord Double}
    (hrun : Returns (store.approve request_id principal ttl_seconds) clock s u s')
    (hs : s.table.Coherent) : s'.table.Coherent := by
  unfold approve at hrun
  split at hrun
  · exact absurd hrun raise_returns
  obtain ⟨r, s₁, hexpire, h⟩ := bind_returns.mp hrun
  have hs₁ := expireLeaseIfNeeded_coherent hexpire hs
  have hleft := (expireLeaseIfNeeded_ok hexpire).2.2
  cases r with
  | none => exact absurd h raise_returns
  | some record =>
    simp only at h
    split at h
    · exact absurd h raise_returns
    split at h
    · exact absurd h raise_returns
    split at h
    · exact absurd h raise_returns
    split at h
    · exact absurd h raise_returns
    obtain ⟨now, s₂, hread, h⟩ := bind_returns.mp h
    obtain ⟨rfl, rfl⟩ := clock_returns.mp hread
    exact replace_coherent (s := { s₁ with taken := s₁.taken + 1 }) h hs₁ hleft fun _ =>
      .cleared nofun rfl rfl

theorem consumeIfApproved_coherent {action : ActionIntent} {digest : String}
    {required_role : ApprovalRole} {b : Bool}
    (hrun : Returns (store.consumeIfApproved action digest required_role) clock s b s')
    (hs : s.table.Coherent) : s'.table.Coherent := by
  obtain ⟨r, s₁, hexpire, h⟩ := bind_returns.mp hrun
  have hs₁ := expireApprovalIfNeeded_coherent hexpire hs
  have hleft := (expireApprovalIfNeeded_ok hexpire).2.2.1
  cases r with
  | none =>
    obtain ⟨-, rfl⟩ := pure_returns.mp h
    exact hs₁
  | some record =>
    simp only at h
    split at h
    · obtain ⟨-, rfl⟩ := pure_returns.mp h
      exact hs₁
    split at h
    · obtain ⟨-, rfl⟩ := pure_returns.mp h
      exact hs₁
    rename_i happroved
    have hunleased : record.state ≠ .leased := by
      rw [not_not.mp happroved]
      decide
    split at h
    · obtain ⟨-, rfl⟩ := pure_returns.mp h
      exact hs₁
    obtain ⟨expired, s₂, hpassed, h⟩ := bind_returns.mp h
    have htable := (passed_ok hpassed).1
    have hs₂ : s₂.table.Coherent := by
      rw [htable]
      exact hs₁
    have hleft₂ : s₂.table.record? (store.organisation_id, action.request_id) = some record := by
      rw [htable]
      exact hleft
    -- Both writes keep the lease columns of a record without a lease.
    cases expired with
    | true =>
      simp only [if_true] at h
      obtain ⟨u, s₃, hreplace, h⟩ := bind_returns.mp h
      obtain ⟨-, rfl⟩ := pure_returns.mp h
      exact replace_coherent hreplace hs₂ hleft₂ fun hlease =>
        hlease.unleased hunleased rfl rfl nofun
    | false =>
      obtain ⟨consumed_at, s₃, hread, h⟩ := bind_returns.mp h
      obtain ⟨rfl, rfl⟩ := clock_returns.mp hread
      obtain ⟨u, s₄, hreplace, h⟩ := bind_returns.mp h
      obtain ⟨-, rfl⟩ := pure_returns.mp h
      exact replace_coherent (s := { s₂ with taken := s₂.taken + 1 }) hreplace hs₂ hleft₂
        fun hlease => hlease.unleased hunleased rfl rfl nofun

theorem freezeAll_coherent {reason : String} {rows : List String}
    (hrun : Returns (store.freezeAll reason rows) clock s () s') (hs : s.table.Coherent) :
    s'.table.Coherent := by
  induction rows generalizing s with
  | nil =>
    obtain ⟨-, rfl⟩ := pure_returns.mp hrun
    exact hs
  | cons request_id rows ih =>
    obtain ⟨loaded, s₁, hload, h⟩ := bind_returns.mp hrun
    obtain ⟨rfl, rfl⟩ := load_ok.mp hload
    cases hloaded : s₁.table.record? (store.organisation_id, request_id) with
    | none =>
      rw [hloaded] at h
      exact ih h hs
    | some record =>
      rw [hloaded] at h
      simp only at h
      split at h
      · exact ih h hs
      · obtain ⟨u, s₂, hreplace, h⟩ := bind_returns.mp h
        exact ih h (replace_coherent hreplace hs hloaded fun _ => .cleared nofun rfl rfl)

theorem freeze_coherent {reason : String} (hrun : Returns (store.freeze reason) clock s () s')
    (hs : s.table.Coherent) : s'.table.Coherent := by
  unfold freeze at hrun
  split at hrun
  · exact absurd hrun raise_returns
  obtain ⟨rows, s₁, hselect, h⟩ := bind_returns.mp hrun
  obtain ⟨-, rfl⟩ := (pure_returns (c := clock)).mp hselect
  exact freezeAll_coherent h hs

theorem get_coherent {request_id : String} {r : Option (ReviewRecord Double)}
    (hrun : Returns (store.get request_id) clock s r s') (hs : s.table.Coherent) :
    s'.table.Coherent := by
  obtain ⟨record, s₁, hlease, h⟩ := bind_returns.mp hrun
  obtain ⟨record', s₂, happroval, h⟩ := bind_returns.mp h
  obtain ⟨-, rfl⟩ := pure_returns.mp h
  exact expireApprovalIfNeeded_coherent happroval (expireLeaseIfNeeded_coherent hlease hs)

/-- The operation asks for a lease of finite length, if it asks for one. -/
def ReviewOp.FiniteLease (store : DurableReviewStore Double) : ReviewOp Double → Prop
  | .claimLease _ _ lease_seconds =>
    (lease_seconds.getD store.max_lease_seconds).isFinite = true
  | _ => True

/-- **Step lemma**: a call leaves coherent rows. -/
theorem call_coherent (store : DurableReviewStore Double) (op : ReviewOp Double)
    (clock : Nat → Double) {table : ReviewTable Double} (hclock : ∀ n, (clock n).isFinite = true)
    (hop : op.FiniteLease store) (h : table.Coherent) :
    (store.call op clock table).2.Coherent := by
  rcases call_cases store op clock table with ⟨e, hcall⟩ | ⟨answer, s, hrun, hcall⟩
  · rw [hcall]
    exact h
  · rw [hcall]
    show s.table.Coherent
    cases op with
    | park action digest required_role =>
      obtain ⟨u, hpark, -⟩ := map_returns.mp hrun
      exact park_coherent hpark h
    | claimLease request_id worker_id lease_seconds =>
      obtain ⟨u, hclaim, -⟩ := map_returns.mp hrun
      exact claimLease_coherent hclaim hclock hop h
    | releaseLease request_id worker_id =>
      obtain ⟨u, hrelease, -⟩ := map_returns.mp hrun
      exact releaseLease_coherent hrelease h
    | approve request_id principal ttl_seconds =>
      obtain ⟨u, happrove, -⟩ := map_returns.mp hrun
      exact approve_coherent happrove h
    | consumeIfApproved action digest required_role =>
      obtain ⟨b, hconsume, -⟩ := map_returns.mp hrun
      exact consumeIfApproved_coherent hconsume h
    | freeze reason =>
      obtain ⟨_, hfreeze, -⟩ := map_returns.mp hrun
      exact freeze_coherent hfreeze h
    | get request_id =>
      obtain ⟨r, hget, -⟩ := map_returns.mp hrun
      exact get_coherent hget h

/-! ## Section 4: Runs -/

/-- What calls by any workers, with finite clock readings and lease lengths,
    make of a table. -/
inductive ReviewRun (table : ReviewTable Double) :
    List (ReviewCall Double) → ReviewTable Double → Prop
  | nil : ReviewRun table [] table
  | snoc {log : List (ReviewCall Double)} {table' : ReviewTable Double}
      (store : DurableReviewStore Double) (op : ReviewOp Double) (clock : Nat → Double) :
      ReviewRun table log table' → (∀ n, (clock n).isFinite = true) → op.FiniteLease store →
      ReviewRun table (log ++ [(store.call op clock table'.held).1])
        (store.call op clock table'.held).2

/-- **Run lemma**: runs keep the rows coherent. -/
theorem ReviewRun.coherent {table table' : ReviewTable Double} {log : List (ReviewCall Double)}
    (h : ReviewRun table log table') (htable : table.Coherent) : table'.Coherent := by
  induction h with
  | nil => exact htable
  | snoc store op clock _ hclock hop ih => exact call_coherent store op clock hclock hop ih.held

/-- A request that is frozen, consumed, or whose approval has expired. -/
def ReviewState.Final (state : ReviewState) : Prop :=
  state = .frozen ∨ state = .consumed ∨ state = .approvalExpired

theorem reviewStage_closed {record : Option (ReviewRecord Double)} :
    reviewStage record = .closed ↔ ∃ r, record = some r ∧ r.state.Final := by
  cases record with
  | none => simp [reviewStage]
  | some r =>
    unfold reviewStage ReviewRecord.stage ReviewState.Final
    cases hstate : r.state <;> simp [hstate]

/-- A run leaves a request final that it finds so. -/
theorem ReviewRun.final {table table' : ReviewTable Double} {log : List (ReviewCall Double)}
    (h : ReviewRun table log table') {key : ReviewKey}
    (hfinal : reviewStage (table.held.record? key) = .closed) :
    reviewStage (table'.held.record? key) = .closed := by
  induction h with
  | nil => exact hfinal
  | @snoc log before store op clock _ _ _ ih =>
    have hmove := call_moves store op clock before.held key
    rw [ih] at hmove
    obtain ⟨r, hr, hstate⟩ := reviewStage_closed.mp hmove.of_closed.1
    rw [reviewStage_closed, ReviewTable.record?_held, hr]
    exact ⟨r.held, rfl, hstate⟩

/-- A lease is claimed by another worker only when it is seen expired: the
    first reading of the call has reached its expiry. -/
theorem claimLease_expired {request_id worker_id : String} {lease_seconds : Option Double}
    {u : ReviewRecord Double} {t : Double}
    (hrun : Returns (store.claimLease request_id worker_id lease_seconds) clock s u s')
    (hrecord : s.table.record? (store.organisation_id, request_id) = some record)
    (hstate : record.state = .leased) (howner : record.lease_owner ≠ some worker_id)
    (ht : record.lease_expires_at = some t) : t ≤ clock s.taken := by
  by_contra hlive
  unfold claimLease at hrun
  simp only at hrun
  split at hrun
  · exact absurd hrun raise_returns
  split at hrun
  · exact absurd hrun raise_returns
  obtain ⟨r, s₁, hexpire, h⟩ := bind_returns.mp hrun
  -- The check finds the lease alive and returns its record.
  obtain ⟨loaded, s₂, hload, hexpire⟩ := bind_returns.mp hexpire
  obtain ⟨rfl, rfl⟩ := load_ok.mp hload
  rw [hrecord] at hexpire
  simp only [hstate, if_true] at hexpire
  obtain ⟨b, s₃, hpassed, hexpire⟩ := bind_returns.mp hexpire
  rw [ht] at hpassed
  obtain ⟨rfl, rfl⟩ := passed_some hpassed
  simp only [hlive, decide_false, Bool.false_eq_true, if_false] at hexpire
  obtain ⟨rfl, rfl⟩ := pure_returns.mp hexpire
  -- It is leased, and to another worker.
  simp only [hstate] at h
  rw [if_neg (by decide)] at h
  obtain ⟨now, s₄, -, h⟩ := bind_returns.mp h
  rw [if_pos trivial, if_neg (fun hown => howner hown.1)] at h
  exact absurd h raise_returns

/-- **Leases**: in every table that workers reach with finite clock readings
    and lease lengths, a row has an owner and an expiry exactly while it is
    leased, and its version is the number of its events; a claim by another
    worker succeeds only if its clock has reached the expiry; and a request
    that is frozen, consumed or expired stays one of these. -/
theorem review_leases {log : List (ReviewCall Double)} {table : ReviewTable Double}
    (h : ReviewRun .empty log table) :
    (∀ key row, table.held.get? key = some row →
      (row.record.lease_owner.isSome ↔ row.record.state = .leased) ∧
      (row.record.lease_expires_at.isSome ↔ row.record.state = .leased) ∧
      row.record.version = row.event_log.length) ∧
    (∀ (store : DurableReviewStore Double) request_id worker_id lease_seconds clock record t answer,
      table.held.record? (store.organisation_id, request_id) = some record →
      record.lease_owner ≠ some worker_id → record.lease_expires_at = some t →
      (store.call (.claimLease request_id worker_id lease_seconds) clock table.held).1.answer =
        .ok answer →
      t ≤ clock 0) ∧
    (∀ log' table', ReviewRun table log' table' → ∀ key record,
      table.held.record? key = some record → record.state.Final →
      ∃ record', table'.held.record? key = some record' ∧ record'.state.Final) := by
  have hcoherent : table.held.Coherent := (h.coherent .empty).held
  refine ⟨?_, ?_, ?_⟩
  · intro key row hrow
    obtain ⟨hlease, hcounted⟩ := hcoherent key row hrow
    unfold ReviewRecord.ShowsLease at hlease
    by_cases hstate : row.record.state = .leased
    · rw [if_pos hstate] at hlease
      obtain ⟨owner, t, howner, ht, -⟩ := hlease
      simp [hstate, howner, ht, hcounted]
    · rw [if_neg hstate] at hlease
      simp [hstate, hlease.1, hlease.2, hcounted]
  · intro store request_id worker_id lease_seconds clock record t answer hrecord howner ht hanswer
    have hstate : record.state = .leased := by
      have hlease := hcoherent.shows hrecord
      unfold ReviewRecord.ShowsLease at hlease
      by_contra hunleased
      rw [if_neg hunleased, ht] at hlease
      cases hlease.2
    rcases call_cases store (.claimLease request_id worker_id lease_seconds) clock table.held with
      ⟨e, hcall⟩ | ⟨answer', s, hrun, hcall⟩
    · rw [hcall] at hanswer
      cases hanswer
    · obtain ⟨u, hclaim, -⟩ := map_returns.mp hrun
      exact claimLease_expired hclaim hrecord hstate howner ht
  · intro log' table' hrun key record hrecord hfinal
    apply reviewStage_closed.mp
    apply hrun.final
    exact reviewStage_closed.mpr ⟨record, hrecord, hfinal⟩

/-- The controller's store, with windows of sixty of the smallest positive
    numbers. -/
def tickStore : DurableReviewStore Double where
  organisation_id := "acme"
  allowed_approvers := controllerStore.allowed_approvers
  max_ttl_seconds := .finite 60 (Double.representable_of_lt (by decide))
  max_lease_seconds := .finite 60 (Double.representable_of_lt (by decide))
  organisation_id_text := nonBlank_acme
  windows_positive := by decide

/-- A worker leases a parked request, on a clock that stands at zero. -/
def leaseRun : List (ReviewCall Double) × ReviewTable Double :=
  let parked := tickStore.call (.park .contactRead "digest-1" .controller) (fun _ => 0)
    (ReviewTable.held .empty)
  let leased := tickStore.call (.claimLease "request-1" "worker-1" none) (fun _ => 0)
    parked.2.held
  ([parked.1, leased.1], leased.2)

/-- The run leaves a leased row, which has an expiry and two events. -/
theorem review_leases_ticks :
    ∃ row, leaseRun.2.held.get? ("acme", "request-1") = some row ∧ row.record.state = .leased ∧
      row.record.lease_expires_at.isSome ∧ row.event_log.length = 2 := by
  have hrun : ReviewRun .empty leaseRun.1 leaseRun.2 :=
    (ReviewRun.nil.snoc tickStore (.park .contactRead "digest-1" .controller) (fun _ => 0)
      (fun _ => rfl) trivial).snoc tickStore (.claimLease "request-1" "worker-1" none) (fun _ => 0)
      (fun _ => rfl) rfl
  obtain ⟨hrows, -, -⟩ := review_leases hrun
  have hrow : ∃ row, leaseRun.2.held.get? ("acme", "request-1") = some row ∧
      row.record.state = .leased ∧ row.record.version = 2 := ⟨_, rfl, rfl, rfl⟩
  obtain ⟨row, hget, hstate, hversion⟩ := hrow
  obtain ⟨-, hexpires, hcounted⟩ := hrows _ row hget
  exact ⟨row, hget, hstate, hexpires.mpr hstate, by omega⟩

end CBrain

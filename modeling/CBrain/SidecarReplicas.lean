import CBrain.WirePath
import CBrain.Framework.Pool

/-! # Sidecar replicas over one consumption store

    Any number of `handle` calls, on any number of services with any payloads,
    interleaved in any order and cut off at any point, over one consumption
    store (`cbrain/consumption.py` with the constraints of
    `migrations/postgres/001_execution_authorization_uses.sql`).

    The store is an atomic insert-if-absent.  A claim that raises may or may
    not have been recorded; everything else a port answers is arbitrary.
-/

namespace CBrain

open Effect
open Json (Dict)

/-! ## Section 1: The store -/

/-- The rows of `cbrain_execution_authorization_uses`. -/
abbrev Ledger : Type := List AuthorizationUse

/-- Two uses that the primary key or the unique digest keeps apart. -/
def AuthorizationUse.Conflicts (u w : AuthorizationUse) : Prop :=
  u.key = w.key ∨ u.authorization_digest = w.authorization_digest

theorem AuthorizationUse.Conflicts.symm {u w : AuthorizationUse} (h : u.Conflicts w) :
    w.Conflicts u := by
  rcases h with h | h
  · exact Or.inl h.symm
  · exact Or.inr h.symm

/-- What the store may answer, and the rows it then holds. -/
def storeAnswers (rows : Ledger) : (o : PortOp) → o.Ans → Ledger → Prop
  | .isConsumed u, .ok consumed, rows' =>
    rows' = rows ∧ (consumed = true ↔ ∃ w ∈ rows, u.Conflicts w)
  | .claimOnce u, .ok true, rows' => (∀ w ∈ rows, ¬ u.Conflicts w) ∧ rows' = rows ++ [u]
  | .claimOnce u, .ok false, rows' => (∃ w ∈ rows, u.Conflicts w) ∧ rows' = rows
  | .claimOnce u, .error _, rows' =>
    rows' = rows ∨ ((∀ w ∈ rows, ¬ u.Conflicts w) ∧ rows' = rows ++ [u])
  | _, _, rows' => rows' = rows

/-- Rows are never lost. -/
theorem storeAnswers_subset {rows rows' : Ledger} {o : PortOp} {x : o.Ans}
    (h : storeAnswers rows o x rows') : rows ⊆ rows' := by
  unfold storeAnswers at h
  split at h
  · exact h.1 ▸ List.Subset.refl _
  · exact h.2 ▸ List.subset_append_left _ _
  · exact h.2 ▸ List.Subset.refl _
  · rcases h with h | h
    · exact h ▸ List.Subset.refl _
    · exact h.2 ▸ List.subset_append_left _ _
  · exact h ▸ List.Subset.refl _

/-! ## Section 2: Calls -/

section calls
variable {T : Type} [DecidableEq T]

/-- The key of the authorization a payload carries. -/
def payloadKey (payload : Dict) : Option (String × String) :=
  (asObject payload "authorization").bind authorizationKey

theorem payloadKey_of_decode {payload : Dict} {envelope : SidecarEnvelope}
    (h : decodeRequest payload = .ok envelope) :
    payloadKey payload = authorizationKey envelope.authorization := by
  unfold decodeRequest at h
  obtain ⟨_, h⟩ := require_bind_ok.mp h
  obtain ⟨authorization, hauthorization, h⟩ := bind_ok.mp h
  obtain ⟨_, _, h⟩ := bind_ok.mp h
  obtain ⟨_, _, h⟩ := bind_ok.mp h
  obtain ⟨_, _, h⟩ := bind_ok.mp h
  obtain ⟨_, _, h⟩ := bind_ok.mp h
  obtain ⟨_, _, h⟩ := bind_ok.mp h
  obtain ⟨_, _, h⟩ := bind_ok.mp h
  obtain ⟨_, _, h⟩ := bind_ok.mp h
  obtain ⟨_, _, h⟩ := bind_ok.mp h
  obtain ⟨_, _, h⟩ := bind_ok.mp h
  obtain rfl := pure_ok.mp h
  rw [payloadKey, requiredMapping_ok.mp hauthorization]
  rfl

/-- A send by a call whose payload carries the authorization of the key. -/
def isSendFor (payload : T → Dict) (key : String × String) (e : T × PortEvent) : Bool :=
  e.2.1.isSend && decide (payloadKey (payload e.1) = some key)

/-- The sends for an authorization over the whole history. -/
def sendsFor (payload : T → Dict) (key : String × String) (log : List (T × PortEvent)) : Nat :=
  log.countP (isSendFor payload key)

/-- Every send of the call has its guard in the call's own past. -/
def Guarded (service : SidecarDispatchService) (payload : Dict) (own : List PortEvent) : Prop :=
  ∀ before o x after, own = before ++ ⟨o, x⟩ :: after → service.sendGuard payload before o

omit [DecidableEq T] in
theorem guarded_snoc {service : SidecarDispatchService} {payload : Dict} {own : List PortEvent}
    {o : PortOp} {x : o.Ans} (h : Guarded service payload own)
    (ho : service.sendGuard payload own o) : Guarded service payload (own ++ [⟨o, x⟩]) := by
  intro before o' x' after hown
  rcases List.eq_nil_or_concat after with rfl | ⟨rest, last, rfl⟩
  · obtain ⟨rfl, hlast⟩ := List.append_inj' hown rfl
    cases hlast
    exact ho
  · refine h before o' x' rest ?_
    have hsplit : own ++ [⟨o, x⟩] = (before ++ ⟨o', x'⟩ :: rest) ++ [last] := by
      simpa using hown
    exact (List.append_inj' hsplit rfl).1

/-! ## Section 3: The invariant -/

/-- What holds in every reachable state: won claims are rows, no two of them
    conflict, every send has its guard, and each authorization has at most one
    send. -/
structure SingleUse (service : T → SidecarDispatchService) (payload : T → Dict) (rows : Ledger)
    (log : List (T × PortEvent)) : Prop where
  recorded : ∀ t u, (t, (⟨.claimOnce u, .ok true⟩ : PortEvent)) ∈ log → u ∈ rows
  apart : ∀ t u t' u', (t, (⟨.claimOnce u, .ok true⟩ : PortEvent)) ∈ log →
    (t', (⟨.claimOnce u', .ok true⟩ : PortEvent)) ∈ log → t ≠ t' → ¬ u.Conflicts u'
  guarded : ∀ t, Guarded (service t) (payload t) (ofThread t log)
  once : ∀ key, sendsFor payload key log ≤ 1

variable {service : T → SidecarDispatchService} {payload : T → Dict} {rows rows' : Ledger}
variable {log : List (T × PortEvent)}

/-- A call that sent for a key won a claim for it. -/
theorem SingleUse.claim_of_send (h : SingleUse service payload rows log) {t : T} {o : PortOp}
    {x : o.Ans} (hmem : (t, (⟨o, x⟩ : PortEvent)) ∈ log) (ho : o.isSend = true) :
    ∃ u, payloadKey (payload t) = some u.key ∧
      (t, (⟨.claimOnce u, .ok true⟩ : PortEvent)) ∈ log := by
  obtain ⟨before, after, hown⟩ := List.append_of_mem (mem_ofThread.mpr hmem)
  have hguard := h.guarded t before o x after hown
  cases o with
  | sendExact wire_bytes content_type content_encoding credential =>
    obtain ⟨envelope, hdecode, hsend⟩ := hguard
    obtain ⟨observed_at, _, u, hkey, _, hclaim⟩ := hsend.claim
    refine ⟨u, (payloadKey_of_decode hdecode).trans hkey, ?_⟩
    apply mem_ofThread.mp
    rw [hown]
    exact List.mem_append_left _ hclaim
  | _ => cases ho

/-- A claim won now conflicts with no claim won before. -/
theorem SingleUse.claim_apart (h : SingleUse service payload rows log) {t' : T}
    {u w : AuthorizationUse} {o : PortOp} {x : o.Ans}
    (hanswer : storeAnswers rows o x rows') (hnew : (⟨o, x⟩ : PortEvent) = ⟨.claimOnce u, .ok true⟩)
    (hold : (t', (⟨.claimOnce w, .ok true⟩ : PortEvent)) ∈ log) : ¬ u.Conflicts w := by
  cases hnew
  exact hanswer.1 w (h.recorded t' w hold)

/-- **Step lemma**. -/
theorem SingleUse.step (h : SingleUse service payload rows log) {t : T} {o : PortOp} {x : o.Ans}
    (hallowed : o.isSend = true → (service t).sendGuard (payload t) (ofThread t log) o)
    (hanswer : storeAnswers rows o x rows') :
    SingleUse service payload rows' (log ++ [(t, ⟨o, x⟩)]) := by
  have hguard : (service t).sendGuard (payload t) (ofThread t log) o := by
    cases o with
    | sendExact _ _ _ _ => exact hallowed rfl
    | _ => trivial
  refine ⟨?_, ?_, ?_, ?_⟩
  · intro t' u hmem
    rcases List.mem_append.mp hmem with hold | hnew
    · exact storeAnswers_subset hanswer (h.recorded t' u hold)
    · have heq := List.mem_singleton.mp hnew
      cases heq
      rw [hanswer.2]
      simp
  · intro t₁ u₁ t₂ u₂ h₁ h₂ hne
    rcases List.mem_append.mp h₁ with hold₁ | hnew₁
    · rcases List.mem_append.mp h₂ with hold₂ | hnew₂
      · exact h.apart t₁ u₁ t₂ u₂ hold₁ hold₂ hne
      · have heq := (Prod.mk.inj (List.mem_singleton.mp hnew₂)).2
        intro hconflict
        exact h.claim_apart hanswer heq.symm hold₁ hconflict.symm
    · have heq := Prod.mk.inj (List.mem_singleton.mp hnew₁)
      rcases List.mem_append.mp h₂ with hold₂ | hnew₂
      · exact h.claim_apart hanswer heq.2.symm hold₂
      · have heq₂ := Prod.mk.inj (List.mem_singleton.mp hnew₂)
        exact absurd (heq.1.trans heq₂.1.symm) hne
  · intro u
    by_cases hu : u = t
    · subst hu
      rw [ofThread_self]
      exact guarded_snoc (h.guarded u) hguard
    · rw [ofThread_other (Ne.symm hu)]
      exact h.guarded u
  · intro key
    have hcount : sendsFor payload key (log ++ [(t, ⟨o, x⟩)]) =
        sendsFor payload key log + if isSendFor payload key (t, ⟨o, x⟩) then 1 else 0 := by
      rw [sendsFor, List.countP_append, List.countP_singleton]
      rfl
    rw [hcount]
    by_cases hsend : isSendFor payload key (t, ⟨o, x⟩) = true
    · rw [if_pos hsend]
      -- Nobody sent for this key before: the call itself had not sent, and
      -- any other call would hold a conflicting claim.
      suffices hnone : sendsFor payload key log = 0 by omega
      apply List.countP_eq_zero.mpr
      rintro ⟨t', ⟨o', x'⟩⟩ hmem hsend'
      simp only [isSendFor, Bool.and_eq_true, decide_eq_true_eq] at hsend hsend'
      obtain ⟨ho, hkey⟩ := hsend
      obtain ⟨ho', hkey'⟩ := hsend'
      cases o with
      | sendExact wire_bytes content_type content_encoding credential =>
        obtain ⟨envelope, hdecode, hsg⟩ := hguard
        by_cases htt : t' = t
        · subst htt
          have hzero := List.countP_eq_zero.mp hsg.first _ (mem_ofThread.mpr hmem)
          exact hzero ho'
        · obtain ⟨observed_at, _, u, hu, _, hclaim⟩ := hsg.claim
          obtain ⟨w, hw, hclaim'⟩ := h.claim_of_send hmem ho'
          have hsame : w.key = u.key := by
            rw [payloadKey_of_decode hdecode, hu] at hkey
            rw [hw] at hkey'
            exact (Option.some.inj hkey').trans (Option.some.inj hkey).symm
          exact h.apart t' w t u hclaim' (mem_ofThread.mp hclaim) htt (Or.inl hsame)
      | _ => cases ho
    · rw [if_neg hsend]
      exact h.once key

/-- **Single use over all replicas**: in every reachable state each execution
    authorization was sent at most once, and every send was preceded in the
    same call by the match of the trust bundle, of the peer, and a claim that
    this call won at the time of its own clock. -/
theorem replicas_single_use (service : T → SidecarDispatchService) (payload : T → Dict)
    (rows : Ledger) {c : Config PortSig T Ledger SidecarResponse}
    (hc : Config.Reachable storeAnswers (fun t => (service t).handle (payload t)) rows c) :
    (∀ key, sendsFor payload key c.log ≤ 1) ∧
    (∀ t before wire_bytes content_type content_encoding credential x after,
      ofThread t c.log =
        before ++ ⟨.sendExact wire_bytes content_type content_encoding credential, x⟩ :: after →
      ∃ envelope, decodeRequest (payload t) = .ok envelope ∧
        (service t).SendGuard envelope before wire_bytes ∧
        ∃ key, payloadKey (payload t) = some key) := by
  have hinvariant := Config.Reachable.invariant
    (P := fun t => guarded PortOp.isSend ((service t).sendGuard (payload t)))
    (Q := SidecarDispatchService.Truthful []) (v := fun _ => [])
    (I := SingleUse service payload)
    (fun t => SidecarDispatchService.handle_obeys rfl fun _ _ _ h => h)
    ⟨by simp, by simp, by intro t before o x after h; simp at h, by simp [sendsFor]⟩
    (by
      intro rows log t o x rows' hI hallowed hanswer
      have hview : (guarded PortOp.isSend ((service t).sendGuard (payload t))).after []
          (ofThread t log) = ofThread t log := Protocol.after_history _ _ _
      rw [hview] at hallowed
      exact ⟨trivial, hI.step hallowed hanswer⟩)
    hc
  obtain ⟨hI, _⟩ := hinvariant
  refine ⟨hI.once, ?_⟩
  intro t before wire_bytes content_type content_encoding credential x after hown
  obtain ⟨envelope, hdecode, hsend⟩ := hI.guarded t _ _ _ _ hown
  obtain ⟨observed_at, _, u, hkey, _⟩ := hsend.claim
  exact ⟨envelope, hdecode, hsend, u.key, (payloadKey_of_decode hdecode).trans hkey⟩

end calls

/-- A store without a conflicting row answers a cooperating dispatch, and
    holds its use afterwards. -/
theorem SidecarDispatchService.Cooperation.answered
    (c : SidecarDispatchService.Cooperation) (service : SidecarDispatchService)
    (envelope : SidecarEnvelope) {rows : Ledger} (hfresh : ∀ w ∈ rows, ¬ c.use.Conflicts w) :
    Config.Answered storeAnswers rows (c.events service envelope) (rows ++ [c.use]) := by
  have hnone : false = true ↔ ∃ w ∈ rows, c.use.Conflicts w := by simpa using hfresh
  simp only [events, openEvents, routeEvents, claimEvents, sendEvents, List.cons_append,
    List.nil_append, List.append_nil]
  refine .cons rfl (.cons rfl (.cons rfl (.cons rfl ?_)))
  refine .cons ⟨rfl, hnone⟩ (.cons rfl (.cons rfl ?_))
  refine .cons ⟨hfresh, rfl⟩ (.cons rfl (.cons rfl (.cons rfl (.cons rfl ?_))))
  exact .nil _

/-- Two replicas get the request of `contactRead`; one of them sends it. -/
theorem replicas_single_use_contactRead :
    ∃ c : Config PortSig Bool Ledger SidecarResponse,
      Config.Reachable storeAnswers (fun _ => contactSidecar.handle contactPayload) [] c ∧
      sendsFor (fun _ => contactPayload) ("acme", "authorization-1") c.log = 1 := by
  have hrun := SidecarDispatchService.Cooperation.handle_run contactPayload_decodes
    contactCooperation_fits
  have hstart : Config.Reachable storeAnswers
      (fun _ : Bool => contactSidecar.handle contactPayload) []
      ⟨fun _ => some (contactSidecar.handle contactPayload), [], []⟩ := .start
  have hanswered := contactCooperation.answered contactSidecar contactEnvelope
    fun _ h => absurd h List.not_mem_nil
  obtain ⟨c, hc, hlog⟩ := hstart.run (t := true) rfl hrun hanswered
  refine ⟨c, hc, ?_⟩
  have hone := (replicas_single_use (fun _ : Bool => contactSidecar) (fun _ => contactPayload) []
    hc).1 ("acme", "authorization-1")
  have hkey : payloadKey contactPayload = some ("acme", "authorization-1") := by
    rw [payloadKey_of_decode contactPayload_decodes]
    simp only [contactEnvelope, authorizationKey, contactAuthorization_organisation,
      contactAuthorization_id]
  have hsend := SidecarDispatchService.Cooperation.send_mem_events contactCooperation
    contactSidecar contactEnvelope
  have hmem := List.mem_append_right [] (List.mem_map_of_mem (f := fun e => (true, e)) hsend)
  rw [← hlog] at hmem
  have hpos : 0 < sendsFor (fun _ : Bool => contactPayload) ("acme", "authorization-1") c.log :=
    List.countP_pos_iff.mpr ⟨_, hmem, by simp [isSendFor, PortOp.isSend, hkey]⟩
  omega

end CBrain

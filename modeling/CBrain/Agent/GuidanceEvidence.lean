import CBrain.Agent.Personalization

/-! # What a compilation rests on

    A candidate is made of a group of signals that say one thing about one
    agent (`HumanGroup`), and an approval is revalidated against the signals
    that the store holds.

    * `candidateFromHumanGroup_ok` : a candidate says what its group says, in
      the words of the earliest signal.
    * `compileProfile_eq` : a compilation goes through exactly when every
      approval of the agent is revalidated and every active skill is approved. -/

namespace CBrain.Insights

open AppendLog
open Json (Dict)
open Knowledge (isRequiredText sha256HexOf any_dropWhile_isSpace)

/-! ## Section 1: Groups of human feedback -/

section groups

variable {casefold : String → String}

/-- Signals that say one thing about one agent, at least twice. -/
structure HumanGroup (casefold : String → String) (group : List LearningSignal) (kind : SignalKind)
    (agent_id feedback : String) : Prop where
  human : kind.isHuman = true
  enough : minGuidanceOccurrences ≤ group.length
  distinct : (group.map LearningSignal.signal_id).Nodup
  kinds : ∀ s ∈ group, s.kind = kind
  agents : ∀ s ∈ group, s.agent_id = agent_id
  feedbacks : ∀ s ∈ group, ∃ text, s.feedback_text = some text ∧
    normalizeFeedback casefold text = feedback

/-- The sets only grow. -/
structure GroupSeen.Within (a b : GroupSeen) : Prop where
  seen_ids : ∀ x ∈ a.seen_ids, x ∈ b.seen_ids
  kinds : ∀ x ∈ a.kinds, x ∈ b.kinds
  agents : ∀ x ∈ a.agents, x ∈ b.agents
  feedbacks : ∀ x ∈ a.feedbacks, x ∈ b.feedbacks

theorem GroupSeen.Within.refl (a : GroupSeen) : a.Within a :=
  ⟨fun _ h => h, fun _ h => h, fun _ h => h, fun _ h => h⟩

theorem GroupSeen.Within.trans {a b c : GroupSeen} (hab : a.Within b) (hbc : b.Within c) :
    a.Within c where
  seen_ids x h := hbc.seen_ids x (hab.seen_ids x h)
  kinds x h := hbc.kinds x (hab.kinds x h)
  agents x h := hbc.agents x (hab.agents x h)
  feedbacks x h := hbc.feedbacks x (hab.feedbacks x h)

/-- A signal that the loop has seen. -/
structure GroupSeen.Has (casefold : String → String) (seen : GroupSeen) (s : LearningSignal) :
    Prop where
  human : s.kind.isHuman = true
  id : s.signal_id ∈ seen.seen_ids
  kind : s.kind ∈ seen.kinds
  agent : s.agent_id ∈ seen.agents
  feedback : ∃ text, s.feedback_text = some text ∧ normalizeFeedback casefold text ∈ seen.feedbacks

theorem GroupSeen.Has.within {a b : GroupSeen} {s : LearningSignal} (h : a.Has casefold s)
    (hab : a.Within b) : b.Has casefold s where
  human := h.human
  id := hab.seen_ids _ h.id
  kind := hab.kinds _ h.kind
  agent := hab.agents _ h.agent
  feedback := by
    obtain ⟨text, htext, hmem⟩ := h.feedback
    exact ⟨text, htext, hab.feedbacks _ hmem⟩

/-- **Step lemma**: a round sees its signal, which is a new one. -/
theorem GroupSeen.see_ok {seen next : GroupSeen} {s : LearningSignal}
    (h : GroupSeen.see casefold seen s = .ok next) :
    s.signal_id ∉ seen.seen_ids ∧ seen.Within next ∧ next.Has casefold s := by
  unfold GroupSeen.see at h
  obtain ⟨hhuman, h⟩ := require_bind_ok.mp h
  obtain ⟨-, h⟩ := require_bind_ok.mp h
  obtain ⟨hnew, h⟩ := require_bind_ok.mp h
  obtain ⟨text, htext, h⟩ := bind_ok.mp h
  obtain rfl := pure_ok.mp h
  refine ⟨hnew, ⟨?_, ?_, ?_, ?_⟩, ⟨hhuman, ?_, ?_, ?_, text, found_ok.mp htext, ?_⟩⟩
  · exact fun _ hx => List.mem_insert_of_mem hx
  · exact fun _ hx => List.mem_insert_of_mem hx
  · exact fun _ hx => List.mem_insert_of_mem hx
  · exact fun _ hx => List.mem_insert_of_mem hx
  · exact List.mem_insert_self
  · exact List.mem_insert_self
  · exact List.mem_insert_self
  · exact List.mem_insert_self

/-- **Run lemma**: the loop has seen all its signals, each of them once. -/
theorem GroupSeen.foldlM_see {signals : List LearningSignal} {seen final : GroupSeen}
    (h : signals.foldlM (GroupSeen.see casefold) seen = .ok final) :
    seen.Within final ∧ (∀ s ∈ signals, final.Has casefold s) ∧
      (∀ s ∈ signals, s.signal_id ∉ seen.seen_ids) ∧
      (signals.map LearningSignal.signal_id).Nodup := by
  induction signals generalizing seen with
  | nil =>
    obtain rfl := pure_ok.mp h
    exact ⟨.refl seen, fun s hs => absurd hs List.not_mem_nil, fun s hs => absurd hs List.not_mem_nil,
      List.nodup_nil⟩
  | cons s signals ih =>
    rw [List.foldlM_cons] at h
    obtain ⟨next, hnext, hrest⟩ := bind_ok.mp h
    obtain ⟨hnew, hwithin, hhas⟩ := see_ok hnext
    obtain ⟨hwithin', hall, hfresh, hnodup⟩ := ih hrest
    refine ⟨hwithin.trans hwithin', ?_, ?_, ?_⟩
    · intro x hx
      rcases List.mem_cons.mp hx with rfl | hx
      · exact hhas.within hwithin'
      · exact hall x hx
    · intro x hx
      rcases List.mem_cons.mp hx with rfl | hx
      · exact hnew
      · exact fun hmem => hfresh x hx (hwithin.seen_ids _ hmem)
    · rw [List.map_cons, List.nodup_cons]
      refine ⟨fun hmem => ?_, hnodup⟩
      obtain ⟨x, hx, hid⟩ := List.mem_map.mp hmem
      exact hfresh x hx (hid ▸ hhas.id)

/-- The one member of a set. -/
theorem eq_of_mem_of_length_one {A : Type} {xs : List A} (h : xs.length = 1) {a b : A}
    (ha : a ∈ xs) (hb : b ∈ xs) : a = b := by
  obtain ⟨x, rfl⟩ := List.length_eq_one_iff.mp h
  rw [List.mem_singleton.mp ha, List.mem_singleton.mp hb]

/-- What the check of a group finds: the group in order, and one value of each
    kind. -/
theorem requireHomogeneousHumanGroup_ok {signals ordered : List LearningSignal}
    (h : requireHomogeneousHumanGroup casefold signals = .ok ordered) :
    ordered = signals.sortBy (fun item => toLex (timeOf item.observed_at, item.signal_id)) ∧
      minGuidanceOccurrences ≤ ordered.length ∧
      (ordered.map LearningSignal.signal_id).Nodup ∧
      ∀ s ∈ ordered, s.kind.isHuman = true ∧ ∀ t ∈ ordered, t.kind = s.kind ∧
        t.agent_id = s.agent_id ∧ ∃ text text', s.feedback_text = some text ∧
          t.feedback_text = some text' ∧
          normalizeFeedback casefold text' = normalizeFeedback casefold text := by
  unfold requireHomogeneousHumanGroup at h
  obtain ⟨-, h⟩ := require_bind_ok.mp h
  obtain ⟨final, hloop, h⟩ := bind_ok.mp h
  obtain ⟨henough, h⟩ := require_bind_ok.mp h
  obtain ⟨hkinds, h⟩ := require_bind_ok.mp h
  obtain ⟨hagents, h⟩ := require_bind_ok.mp h
  obtain ⟨hfeedbacks, h⟩ := require_bind_ok.mp h
  obtain ⟨hsize, h⟩ := require_bind_ok.mp h
  obtain rfl := pure_ok.mp h
  obtain ⟨-, hall, -, hnodup⟩ := GroupSeen.foldlM_see hloop
  refine ⟨rfl, hsize ▸ henough, hnodup, ?_⟩
  intro s hs
  refine ⟨(hall s hs).human, ?_⟩
  intro t ht
  obtain ⟨text, htext, hmem⟩ := (hall s hs).feedback
  obtain ⟨text', htext', hmem'⟩ := (hall t ht).feedback
  exact ⟨eq_of_mem_of_length_one hkinds (hall t ht).kind (hall s hs).kind,
    eq_of_mem_of_length_one hagents (hall t ht).agent (hall s hs).agent,
    text, text', htext, htext', eq_of_mem_of_length_one hfeedbacks hmem' hmem⟩

/-- The signals that a candidate is made of: a group that says its text, in
    the words of the earliest. -/
structure Evidence (casefold : String → String) (group : List LearningSignal)
    (c : GuidanceCandidate) : Prop where
  said : ∃ kind title, HumanGroup casefold group kind c.agent_id
    (normalizeFeedback casefold c.body) ∧
      kind.guidance? = some (c.finding_kind, c.candidate_kind, title)
  evidence_ids : c.evidence_ids = sortedIds group
  first : ∃ first ∈ group, first.feedback_text = some c.body ∧
    ∀ s ∈ group, timeOf first.observed_at ≤ timeOf s.observed_at

/-- Ids that tell the signals apart are sorted in one way. -/
theorem sortedIds_perm {signals signals' : List LearningSignal} (h : signals.Perm signals') :
    sortedIds signals = sortedIds signals' :=
  List.sortBy_congr (h.map _) fun _ _ _ _ hab => hab

/-- **A candidate rests on evidence**. -/
theorem candidateFromHumanGroup_ok {signals : List LearningSignal} {c : GuidanceCandidate}
    (h : candidateFromHumanGroup casefold signals = .ok c) : Evidence casefold signals c := by
  unfold candidateFromHumanGroup at h
  obtain ⟨ordered, hordered, h⟩ := bind_ok.mp h
  obtain ⟨first, hfirst, h⟩ := bind_ok.mp h
  obtain ⟨body, hbody, h⟩ := bind_ok.mp h
  obtain ⟨⟨finding_kind, candidate_kind, title⟩, hguidance, h⟩ := bind_ok.mp h
  obtain rfl := pure_ok.mp h
  rw [found_ok] at hfirst hbody hguidance
  obtain ⟨rfl, henough, hnodup, hsame⟩ := requireHomogeneousHumanGroup_ok hordered
  have hperm := List.sortBy_perm
    (fun item : LearningSignal => toLex (timeOf item.observed_at, item.signal_id)) signals
  have hmem : first ∈ signals := List.mem_sortBy.mp (List.mem_of_mem_head? hfirst)
  obtain ⟨hhuman, hall⟩ := hsame first (List.mem_of_mem_head? hfirst)
  refine ⟨⟨first.kind, title, ⟨hhuman, ?_, ?_, ?_, ?_, ?_⟩, hguidance⟩, sortedIds_perm hperm,
    first, hmem, hbody, ?_⟩
  · exact hperm.length_eq ▸ henough
  · exact (hperm.map _).nodup_iff.mp hnodup
  · exact fun s hs => (hall s (List.mem_sortBy.mpr hs)).1
  · exact fun s hs => (hall s (List.mem_sortBy.mpr hs)).2.1
  · intro s hs
    obtain ⟨-, -, text, text', htext, htext', hnorm⟩ := hall s (List.mem_sortBy.mpr hs)
    rw [hbody] at htext
    obtain rfl := Option.some.inj htext
    exact ⟨text', htext', hnorm⟩
  · -- the group is in the order of its times
    intro s hs
    have hsorted := List.sortBy_pairwise
      (fun item : LearningSignal => toLex (timeOf item.observed_at, item.signal_id)) signals
    obtain ⟨rest, hrest⟩ := List.head?_eq_some_iff.mp hfirst
    rw [hrest] at hsorted
    have hs' : s ∈ first :: rest := hrest ▸ List.mem_sortBy.mpr hs
    rcases List.mem_cons.mp hs' with rfl | hs'
    · exact le_refl _
    · exact (Prod.Lex.le_iff'.mp ((List.pairwise_cons.mp hsorted).1 s hs')).1

end groups

/-! ## Section 2: Stores that keep a log -/

section loads

variable {R Row : Type} {k : RecordKind R Row} {l : AppendLog k.ids} {d : TwoDicts String R}

/-- `load_signals` and `load_approvals`, of what a log holds. -/
def loadedFrom (k : RecordKind R Row) (l : AppendLog k.ids) (values : List String) :
    Raises (List R) := do
  let unique ← uniqueIds k.field_name values
  loaded k l unique

theorem load_eq (hd : d.Keeps l) (values : List String) :
    InMemoryLearningStore.load k d values = loadedFrom k l values := by
  unfold loadedFrom
  cases hunique : uniqueIds k.field_name values with
  | error e =>
    unfold InMemoryLearningStore.load
    rw [hunique]
    rfl
  | ok unique => exact InMemoryLearningStore.load_keeps hd hunique

/-- What is loaded is on file. -/
theorem mem_of_loadedFrom {values : List String} {rs : List R}
    (h : loadedFrom k l values = .ok rs) : ∀ r ∈ rs, r ∈ l.records := by
  obtain ⟨unique, -, h⟩ := bind_ok.mp h
  unfold loaded at h
  split at h
  · obtain rfl := Except.ok.inj h
    intro r hr
    obtain ⟨item, -, hitem⟩ := List.mem_filterMap.mp hr
    exact List.mem_of_find?_eq_some hitem
  · cases h

/-- An identifier stays on file, with its record. -/
theorem ofId_append {x : R} {item : String} (r : R) (h : l.ofId item = some x) :
    (l.append r).ofId item = some x := by
  unfold ofId at h ⊢
  rcases records_append l r with heq | heq
  · rw [heq, h]
  · rw [heq, List.find?_append, h]
    rfl

/-- **Step lemma**: what is loaded once is loaded again, after an append. -/
theorem loadedFrom_append {values : List String} {rs : List R} (r : R)
    (h : loadedFrom k l values = .ok rs) : loadedFrom k (l.append r) values = .ok rs := by
  obtain ⟨unique, hunique, h⟩ := bind_ok.mp h
  unfold loadedFrom
  rw [hunique, ok_bind]
  unfold loaded at h ⊢
  by_cases hall : ∀ item ∈ unique, (l.ofId item).isSome = true
  · rw [if_pos hall] at h
    have hsame : ∀ item ∈ unique, (l.append r).ofId item = l.ofId item := by
      intro item hitem
      obtain ⟨x, hx⟩ := Option.isSome_iff_exists.mp (hall item hitem)
      rw [hx]
      exact ofId_append r hx
    rw [if_pos fun item hitem => (hsame item hitem).symm ▸ hall item hitem,
      List.filterMap_congr hsame]
    exact h
  · rw [if_neg hall] at h
    cases h

/-- Ids that are text and all different are what `_unique_ids` leaves. -/
theorem uniqueIds_of_nodup (field_name : String) {values : List String} (hnodup : values.Nodup)
    (htext : ∀ item ∈ values, nonBlank item = true) : uniqueIds field_name values = .ok values := by
  suffices hfrom : ∀ seen : List String, (seen ++ values).Nodup →
      values.foldlM (uniqueId field_name) seen = .ok (seen ++ values) from
    hfrom [] (by rwa [List.nil_append])
  clear hnodup
  induction values with
  | nil =>
    intro seen _
    rw [List.append_nil]
    rfl
  | cons item values ih =>
    intro seen hnodup
    have hnew : item ∉ seen := by
      intro hmem
      exact (List.nodup_append.mp hnodup).2.2 item hmem item List.mem_cons_self rfl
    have hstep : uniqueId field_name seen item = .ok (seen ++ [item]) := by
      rw [uniqueId, require_bind_pos (htext item List.mem_cons_self), if_neg hnew]
      rfl
    rw [List.foldlM_cons, hstep, ok_bind, ih (fun x hx => htext x (List.mem_cons_of_mem item hx))]
    · rw [List.append_assoc]
      rfl
    · rw [List.append_assoc]
      exact hnodup

/-- The records of a log are loaded by their identifiers. -/
theorem loadedFrom_ids {rs : List R} (hmem : ∀ r ∈ rs, r ∈ l.records) (hnodup : rs.Nodup)
    (htext : ∀ r ∈ rs, nonBlank (k.ids.id r) = true) :
    loadedFrom k l (rs.map k.ids.id) = .ok rs := by
  have hget : ∀ r ∈ rs, l.ofId (k.ids.id r) = some r := by
    intro r hr
    cases hfind : l.ofId (k.ids.id r) with
    | none => exact absurd (List.mem_map_of_mem (hmem r hr)) (find?_isNone.mp hfind)
    | some x =>
      have hx := List.find?_some hfind
      exact congrArg some (List.inj_on_of_nodup_map l.ids (List.mem_of_find?_eq_some hfind)
        (hmem r hr) (of_decide_eq_true hx))
  have hids : (rs.map k.ids.id).Nodup :=
    hnodup.map_on fun a ha b hb => List.inj_on_of_nodup_map l.ids (hmem a ha) (hmem b hb)
  have htexts : ∀ item ∈ rs.map k.ids.id, nonBlank item = true := by
    intro item hitem
    obtain ⟨r, hr, rfl⟩ := List.mem_map.mp hitem
    exact htext r hr
  have hall : ∀ item ∈ rs.map k.ids.id, (l.ofId item).isSome = true := by
    intro item hitem
    obtain ⟨r, hr, rfl⟩ := List.mem_map.mp hitem
    rw [hget r hr]
    rfl
  unfold loadedFrom
  rw [uniqueIds_of_nodup k.field_name hids htexts, ok_bind, loaded, if_pos hall,
    List.filterMap_map]
  have hsome : rs.filterMap (l.ofId ∘ k.ids.id) = rs.filterMap some :=
    List.filterMap_congr fun r hr => hget r hr
  rw [hsome, List.filterMap_some]

variable {text : R → List Char} {Sealed : R → Prop}

/-- Every record of the log is an appended one. -/
theorem RecordKind.Lawful.mem_log (hk : k.Lawful text Sealed) {r x : R}
    (h : x ∈ (k.log l r).records) : x ∈ l.records ∨ x = r := by
  unfold RecordKind.log at h
  cases hvalid : k.validate r with
  | error e =>
    rw [hvalid] at h
    exact Or.inl h
  | ok p =>
    obtain ⟨rfl, -⟩ := (hk.validate r p).mp hvalid
    rw [hvalid] at h
    exact mem_append h

theorem mem_log_of_mem {x : R} (r : R) (h : x ∈ l.records) : x ∈ (k.log l r).records := by
  unfold RecordKind.log
  cases k.validate r with
  | error e => exact h
  | ok p =>
    rcases records_append l p with heq | heq
    · exact heq.symm ▸ h
    · exact heq.symm ▸ List.mem_append_left [p] h

/-- What answers an append is in the log afterwards. -/
theorem mem_log_of_answer (hk : k.Lawful text Sealed) (hd : d.Keeps l) {r answer : R}
    (h : (InMemoryLearningStore.append k d r).1 = .ok answer) : answer ∈ (k.log l r).records := by
  cases hvalid : k.validate r with
  | error e =>
    unfold InMemoryLearningStore.append at h
    rw [hvalid] at h
    cases h
  | ok p =>
    obtain ⟨rfl, -⟩ := (hk.validate r p).mp hvalid
    have hlog : k.log l p = l.append p := by
      unfold RecordKind.log
      rw [hvalid]
    rw [(InMemoryLearningStore.append_keeps hd hvalid).1] at h
    rw [hlog]
    rcases verdict_cases l p with ⟨x, hkey, ⟨-, hverdict⟩ | ⟨-, hverdict⟩⟩ |
      ⟨hkey, ⟨x, -, hverdict⟩ | ⟨hid, hverdict⟩⟩
    · -- a retry is answered by the record under its key
      rw [hverdict] at h
      obtain rfl := Except.ok.inj h
      rw [append_of_key hkey]
      exact (ofKey_eq_some hkey).1
    · rw [hverdict] at h
      cases h
    · rw [hverdict] at h
      cases h
    · rw [hverdict] at h
      obtain rfl := Except.ok.inj h
      rw [records_append_of_free hkey hid]
      exact List.mem_append_right _ (List.mem_singleton_self _)

/-- What is loaded once is loaded again. -/
theorem loadedFrom_log {values : List String} {rs : List R} (r : R)
    (h : loadedFrom k l values = .ok rs) : loadedFrom k (k.log l r) values = .ok rs := by
  unfold RecordKind.log
  cases k.validate r with
  | error e => exact h
  | ok p => exact loadedFrom_append p h

end loads

/-! ## Section 3: Compilation -/

section compilation

variable {credentialShaped : String → Bool} {casefold : String → String}
  {manager : PersonalizationManager credentialShaped}

/-- The verifier recognises the reviewer of an approval. -/
def Recognised (manager : PersonalizationManager credentialShaped) (a : ApprovalRecord) : Prop :=
  ∃ principal verified, ReviewerPrincipal.new credentialShaped a.reviewer_id
    a.reviewer_attestation = .ok principal ∧ manager.verifyReviewer principal = .ok verified

/-- The candidate says what the approval does. -/
structure Matches (c : GuidanceCandidate) (a : ApprovalRecord) : Prop where
  candidate_hash : c.candidate_hash = a.candidate_hash
  body : c.body = a.instruction_text
  evidence_ids : c.evidence_ids = a.evidence_ids
  candidate_kind : c.candidate_kind = a.candidate_kind
  skill_id : c.skill_id = a.skill_id
  agent_id : c.agent_id = a.agent_id

/-- An approval that is revalidated for the profiles of its agent. -/
structure Revalidated (manager : PersonalizationManager credentialShaped)
    (casefold : String → String) (load_signals : List String → Raises (List LearningSignal))
    (a : ApprovalRecord) : Prop where
  recognised : Recognised manager a
  evidence : ∃ group c, load_signals a.evidence_ids = .ok group ∧
    candidateFromHumanGroup casefold group = .ok c ∧ Matches c a

namespace PersonalizationManager

theorem revalidateApproval_ok {load_signals : List String → Raises (List LearningSignal)}
    {profile : AgentProfile} {a : ApprovalRecord} :
    (∃ c, manager.revalidateApproval casefold load_signals profile a = .ok c) ↔
      a.agent_id = profile.agent_id ∧ Revalidated manager casefold load_signals a := by
  unfold revalidateApproval
  constructor
  · intro h
    obtain ⟨c, h⟩ := h
    obtain ⟨principal, hprincipal, h⟩ := bind_ok.mp h
    obtain ⟨verified, hverified, h⟩ := bind_ok.mp h
    obtain ⟨hagent, h⟩ := require_bind_ok.mp h
    obtain ⟨group, hgroup, h⟩ := bind_ok.mp h
    obtain ⟨c', hc', h⟩ := bind_ok.mp h
    obtain ⟨⟨hhash, hbody, hids, hkind, hskill, hown⟩, -⟩ := require_bind_ok.mp h
    exact ⟨hagent, ⟨principal, verified, hprincipal, hverified⟩, group, c', mapError_ok.mp hgroup,
      mapError_ok.mp hc', ⟨hhash, hbody, hids, hkind, hskill, hown⟩⟩
  · intro h
    obtain ⟨hagent, ⟨principal, verified, hprincipal, hverified⟩, group, c, hgroup, hc, hmatch⟩ := h
    refine ⟨c, ?_⟩
    rw [hprincipal, ok_bind, hverified, ok_bind, require_bind_pos hagent, hgroup]
    show ((candidateFromHumanGroup casefold group).mapError _ >>= _) = _
    rw [hc]
    show (require _ _ >>= fun _ => _) = _
    rw [require_bind_pos ⟨hmatch.candidate_hash, hmatch.body, hmatch.evidence_ids,
      hmatch.candidate_kind, hmatch.skill_id, hmatch.agent_id⟩]
    rfl

end PersonalizationManager

/-- The approvals that a store holds for a profile, by their ids. -/
def InMemoryLearningStore.approvalsFor (store : InMemoryLearningStore) (profile : AgentProfile) :
    List ApprovalRecord :=
  (listApprovals store.approvals (some profile.agent_id)).filter fun approval =>
    approval.profile_fingerprint = profileFingerprint profile

/-- What a compilation leaves of a profile: all but its instructions. -/
structure SameAuthority (compiled profile : AgentProfile) : Prop where
  agent_id : compiled.agent_id = profile.agent_id
  model_route : compiled.model_route = profile.model_route
  permitted_tools : compiled.permitted_tools = profile.permitted_tools
  max_model_turns : compiled.max_model_turns = profile.max_model_turns
  max_tool_calls : compiled.max_tool_calls = profile.max_tool_calls
  timeout_seconds : compiled.timeout_seconds = profile.timeout_seconds
  limits : compiled.limits = profile.limits
  knowledge_required_for_tools :
    compiled.knowledge_required_for_tools = profile.knowledge_required_for_tools

theorem nonBlank_rstrip {s : String} (h : nonBlank s = true) :
    nonBlank (String.ofList (rstripChars s.toList)) = true := by
  unfold nonBlank rstripChars
  rw [String.toList_ofList, List.any_reverse, any_dropWhile_isSpace, List.any_reverse]
  exact h

/-- The instructions of a profile go on being text. -/
theorem nonBlank_sections (profile : AgentProfile) (rules skills : List ApprovalRecord) :
    nonBlank ("\n\n".intercalate (sections profile rules skills)) = true := by
  have hfirst := nonBlank_rstrip profile.instructions_text
  unfold sections
  generalize (if rules = [] then ([] : List String) else _) ++ _ = rest
  cases rest with
  | nil =>
    rw [String.intercalate_singleton]
    exact hfirst
  | cons next rest =>
    rw [String.intercalate_cons_cons]
    exact nonBlank_append_left _ (nonBlank_append_left _ hfirst)

theorem withInstructions_ok (profile : AgentProfile) {text : String} (h : nonBlank text = true) :
    ∃ compiled, withInstructions profile text = .ok compiled ∧ compiled.instructions = text ∧
      SameAuthority compiled profile := by
  unfold withInstructions
  rw [dif_pos h]
  exact ⟨_, rfl, rfl, ⟨rfl, rfl, rfl, rfl, rfl, rfl, rfl, rfl⟩⟩

/-- A skill is among the approved ones if an approval of a skill has its id. -/
theorem mem_approvedSkills {approvals : List ApprovalRecord} {skill_id : String}
    (htext : nonBlank skill_id = true) :
    skill_id ∈ PersonalizationManager.approvedSkills approvals ↔
      ∃ a ∈ approvals, a.candidate_kind = .skill ∧ a.skill_id = some skill_id := by
  have hne : skill_id ≠ "" := by
    intro heq
    rw [heq] at htext
    cases htext
  unfold PersonalizationManager.approvedSkills
  rw [List.mem_filterMap]
  constructor
  · intro h
    obtain ⟨a, ha, hskill⟩ := h
    obtain ⟨ha, hkind⟩ := List.mem_filter.mp ha
    obtain ⟨hid, -⟩ := Option.filter_eq_some_iff.mp hskill
    exact ⟨a, ha, of_decide_eq_true hkind, hid⟩
  · intro h
    obtain ⟨a, ha, hkind, hid⟩ := h
    refine ⟨a, List.mem_filter.mpr ⟨ha, decide_eq_true hkind⟩, ?_⟩
    rw [hid]
    exact Option.filter_eq_some_iff.mpr ⟨rfl, by simpa using hne⟩

/-- The dictionaries keep two logs, and every approval in them is sealed. -/
structure LearningLog.KeptBy (log : LearningLog credentialShaped) (store : InMemoryLearningStore) :
    Prop where
  signals : store.signals.Keeps log.signals
  approvals : store.approvals.Keeps log.approvals
  signals_sealed : ∀ s ∈ log.signals.records, s.Sealed
  approvals_sealed : ∀ a ∈ log.approvals.records, a.Sealed credentialShaped

variable {log : LearningLog credentialShaped} {store : InMemoryLearningStore}

/-- The approvals of an agent are loaded as they are listed. -/
theorem LearningLog.KeptBy.load_listed (h : log.KeptBy store) (agent_id : Option String) :
    InMemoryLearningStore.load (approvalRecords credentialShaped) store.approvals
        ((InMemoryLearningStore.listApprovals store.approvals agent_id).map
          ApprovalRecord.approval_id) =
      .ok (InMemoryLearningStore.listApprovals store.approvals agent_id) := by
  have hlisted : ∀ a ∈ InMemoryLearningStore.listApprovals store.approvals agent_id,
      a ∈ log.approvals.records := by
    intro a ha
    have hmem := (List.mem_filter.mp (List.mem_sortBy.mp ha)).1
    rwa [h.approvals.values] at hmem
  rw [load_eq h.approvals]
  refine loadedFrom_ids (k := approvalRecords credentialShaped) hlisted ?_ ?_
  · have hnodup : log.approvals.records.Nodup := List.Nodup.of_map _ log.approvals.ids
    rw [← h.approvals.values] at hnodup
    exact (List.sortBy_perm _ _).nodup_iff.mpr (hnodup.filter _)
  · intro a ha
    -- an id is a digest
    have hid : isRequiredText a.approval_id = true :=
      (h.approvals_sealed a (hlisted a ha)).id ▸ required_sha256HexOf _
    unfold isRequiredText at hid
    simp only [Bool.and_eq_true] at hid
    exact hid.1.1

theorem mem_approvalsFor {profile : AgentProfile} {a : ApprovalRecord} :
    a ∈ store.approvalsFor profile ↔ a ∈ store.approvals.by_id.values ∧
      a.agent_id = profile.agent_id ∧ a.profile_fingerprint = profileFingerprint profile := by
  unfold InMemoryLearningStore.approvalsFor InMemoryLearningStore.listApprovals
  rw [List.mem_filter, List.mem_sortBy, List.mem_filter]
  simp [and_assoc]

/-- What makes a compilation go through. -/
structure Compilable (manager : PersonalizationManager credentialShaped)
    (casefold : String → String) (store : InMemoryLearningStore) (profile : AgentProfile)
    (active_skills : List String) : Prop where
  revalidated : ∀ a ∈ store.approvals.by_id.values, a.agent_id = profile.agent_id →
    Revalidated manager casefold (InMemoryLearningStore.load signalRecords store.signals) a
  active : ∀ skill_id ∈ active_skills, nonBlank skill_id = true ∧
    ∃ a ∈ store.approvalsFor profile, a.candidate_kind = .skill ∧ a.skill_id = some skill_id

/-- What a compilation returns. -/
structure Compiled (store : InMemoryLearningStore) (profile : AgentProfile)
    (metadata : Option Dict) (active_skills : List String) (compiled : CompiledProfile) :
    Prop where
  authority : SameAuthority compiled.profile profile
  instructions : compiled.profile.instructions = "\n\n".intercalate (sections profile
    (PersonalizationManager.rulesOf (store.approvalsFor profile))
    (PersonalizationManager.skillsOf (store.approvalsFor profile) active_skills))
  metadata : compiled.metadata = personalizedMetadata metadata (profileFingerprint profile)
    (PersonalizationManager.rulesOf (store.approvalsFor profile))
    (PersonalizationManager.skillsOf (store.approvalsFor profile) active_skills)

theorem exists_mapM_ok {A B : Type} {f : A → Raises B} {xs : List A} :
    (∃ ys, xs.mapM f = .ok ys) ↔ ∀ x ∈ xs, ∃ y, f x = .ok y := by
  induction xs with
  | nil => exact ⟨fun _ x hx => absurd hx List.not_mem_nil, fun _ => ⟨[], rfl⟩⟩
  | cons x xs ih =>
    rw [List.forall_mem_cons, ← ih]
    constructor
    · intro h
      obtain ⟨ys, h⟩ := h
      rw [List.mapM_cons] at h
      obtain ⟨y, hy, h⟩ := bind_ok.mp h
      obtain ⟨ys', hys, -⟩ := bind_ok.mp h
      exact ⟨⟨y, hy⟩, ys', hys⟩
    · intro h
      obtain ⟨⟨y, hy⟩, ys, hys⟩ := h
      refine ⟨y :: ys, ?_⟩
      rw [List.mapM_cons, hy, ok_bind, hys]
      rfl

/-- Once the approvals are known, only a skill without one is in the way. -/
theorem compileFrom_ok (profile : AgentProfile) (metadata : Option Dict)
    (active_skills : List String) (approvals : List ApprovalRecord) :
    ∃ result : CompiledProfile, SameAuthority result.profile profile ∧
      result.profile.instructions = "\n\n".intercalate (sections profile
        (PersonalizationManager.rulesOf approvals)
        (PersonalizationManager.skillsOf approvals active_skills)) ∧
      result.metadata = personalizedMetadata metadata (profileFingerprint profile)
        (PersonalizationManager.rulesOf approvals)
        (PersonalizationManager.skillsOf approvals active_skills) ∧
      ∀ compiled, PersonalizationManager.compileFrom profile metadata active_skills approvals =
          .ok compiled ↔
        (∀ skill_id ∈ active_skills, skill_id ∈ PersonalizationManager.approvedSkills approvals) ∧
          compiled = result := by
  obtain ⟨profile', hprofile', htext, hauthority⟩ := withInstructions_ok profile
    (nonBlank_sections profile (PersonalizationManager.rulesOf approvals)
      (PersonalizationManager.skillsOf approvals active_skills))
  refine ⟨⟨profile', _⟩, hauthority, htext, rfl, ?_⟩
  intro compiled
  have hunknown : active_skills.filter (fun skill_id => decide (skill_id ∉
      PersonalizationManager.approvedSkills approvals)) = [] ↔
        ∀ skill_id ∈ active_skills,
          skill_id ∈ PersonalizationManager.approvedSkills approvals := by
    rw [List.filter_eq_nil_iff]
    simp
  unfold PersonalizationManager.compileFrom
  rw [require_bind_ok, hunknown]
  dsimp only
  rw [hprofile', ok_bind, pure_ok]
  exact and_congr_right fun _ => eq_comm

/-- **A compilation goes through** exactly when the store is compilable, and it
    returns the profile with the approved texts. -/
theorem compileProfile_eq (manager : PersonalizationManager credentialShaped)
    (casefold : String → String) (h : log.KeptBy store) (profile : AgentProfile)
    (metadata : Option Dict) (active_skills : List String) :
    ((∃ compiled, manager.compileProfile casefold (store.reads credentialShaped) profile metadata
        active_skills = .ok compiled) ↔
      Compilable manager casefold store profile active_skills) ∧
    ∀ compiled, manager.compileProfile casefold (store.reads credentialShaped) profile metadata
        active_skills = .ok compiled → Compiled store profile metadata active_skills compiled := by
  have hload := h.load_listed (some profile.agent_id)
  obtain ⟨result, hauthority, htext, hmetadata, hresult⟩ := compileFrom_ok profile metadata
    active_skills (store.approvalsFor profile)
  have hlisted : ∀ a, a ∈ InMemoryLearningStore.listApprovals store.approvals
      (some profile.agent_id) ↔ a ∈ store.approvals.by_id.values ∧
        a.agent_id = profile.agent_id := by
    intro a
    unfold InMemoryLearningStore.listApprovals
    rw [List.mem_sortBy, List.mem_filter]
    simp
  have hrevalidated : (∃ cs, (InMemoryLearningStore.listApprovals store.approvals
        (some profile.agent_id)).mapM (manager.revalidateApproval casefold
          (InMemoryLearningStore.load signalRecords store.signals) profile) = .ok cs) ↔
      ∀ a ∈ store.approvals.by_id.values, a.agent_id = profile.agent_id →
        Revalidated manager casefold
          (InMemoryLearningStore.load signalRecords store.signals) a := by
    rw [exists_mapM_ok]
    constructor
    · intro hall a ha hagent
      exact (PersonalizationManager.revalidateApproval_ok.mp
        (hall a ((hlisted a).mpr ⟨ha, hagent⟩))).2
    · intro hall a ha
      obtain ⟨hmem, hagent⟩ := (hlisted a).mp ha
      exact PersonalizationManager.revalidateApproval_ok.mpr ⟨hagent, hall a hmem hagent⟩
  have hcompile : ∀ compiled, manager.compileProfile casefold (store.reads credentialShaped) profile
      metadata active_skills = .ok compiled ↔
        Compilable manager casefold store profile active_skills ∧ compiled = result := by
    intro compiled
    show (require _ _ >>= fun _ => InMemoryLearningStore.load _ _ _ >>= _) = _ ↔ _
    rw [require_bind_ok, hload, ok_bind, require_bind_pos rfl, bind_ok]
    constructor
    · intro hok
      obtain ⟨htexts, cs, hcs, hok⟩ := hok
      obtain ⟨happroved, rfl⟩ := (hresult compiled).mp hok
      refine ⟨⟨hrevalidated.mp ⟨cs, hcs⟩, ?_⟩, rfl⟩
      intro skill_id hskill
      exact ⟨htexts skill_id hskill,
        (mem_approvedSkills (htexts skill_id hskill)).mp (happroved skill_id hskill)⟩
    · intro hok
      obtain ⟨⟨hall, hactive⟩, hsame⟩ := hok
      obtain ⟨cs, hcs⟩ := hrevalidated.mpr hall
      refine ⟨fun skill_id hskill => (hactive skill_id hskill).1, cs, hcs,
        (hresult compiled).mpr ⟨?_, hsame⟩⟩
      intro skill_id hskill
      exact (mem_approvedSkills (hactive skill_id hskill).1).mpr (hactive skill_id hskill).2
  constructor
  · constructor
    · intro hok
      obtain ⟨compiled, hok⟩ := hok
      exact ((hcompile compiled).mp hok).1
    · exact fun hok => ⟨_, (hcompile _).mpr ⟨hok, rfl⟩⟩
  · intro compiled hok
    obtain ⟨-, rfl⟩ := (hcompile compiled).mp hok
    exact ⟨hauthority, htext, hmetadata⟩

end compilation

end CBrain.Insights

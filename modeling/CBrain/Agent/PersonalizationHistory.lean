import CBrain.Agent.GuidanceEvidence

/-! # Histories of personalization

    * `compiled_from_evidence` : whatever was appended to the store and by
      whom, each text that a compilation adds is what people said about the
      agent at least twice.
    * `personalization_available` : where approvals are appended by the manager
      only, no history makes a compilation fail.  The manager asks one
      verifier, which answers about a reviewer as it did before. -/

namespace CBrain.Insights

open AppendLog
open Json (Dict)

/-! ## Section 1: Approvals -/

section approvals

variable {casefold : String → String} {windowStart : Decimal → Nat → Raises JsonFloat}

/-- Every group holds signals that were given. -/
def SignalGroups.From (groups : SignalGroups) (signals : List LearningSignal) : Prop :=
  ∀ key group, groups.human_groups.get? key = some group → ∀ s ∈ group, s ∈ signals

theorem SignalGroups.collect_from {signals : List LearningSignal} {groups next : SignalGroups}
    {signal : LearningSignal} (hsignal : signal ∈ signals)
    (h : groups.collect casefold signal = .ok next) (hfrom : groups.From signals) :
    next.From signals := by
  unfold SignalGroups.collect at h
  split at h
  · -- a run outcome
    obtain rfl := Except.ok.inj h
    split
    · exact hfrom
    · exact hfrom
  · -- a tool rejection
    split at h
    · obtain rfl := Except.ok.inj h
      exact hfrom
    · obtain ⟨tool_name, -, h⟩ := bind_ok.mp h
      obtain rfl := pure_ok.mp h
      exact hfrom
  · obtain rfl := Except.ok.inj h
    exact hfrom
  · obtain rfl := Except.ok.inj h
    exact hfrom
  · -- what people said
    obtain ⟨text, -, h⟩ := bind_ok.mp h
    obtain rfl := pure_ok.mp h
    intro key group hget s hs
    by_cases hkey : key = (signal.agent_id, signal.kind, normalizeFeedback casefold text)
    · subst hkey
      unfold pushTo at hget
      rw [Table.get?_set_self] at hget
      obtain rfl := Option.some.inj hget
      rcases List.mem_append.mp hs with hold | hnew
      · cases hgroup : groups.human_groups.get?
            (signal.agent_id, signal.kind, normalizeFeedback casefold text) with
        | none =>
          rw [hgroup] at hold
          cases hold
        | some group =>
          rw [hgroup] at hold
          exact hfrom _ group hgroup s hold
      · rw [List.mem_singleton.mp hnew]
        exact hsignal
    · unfold pushTo at hget
      rw [Table.get?_set_ne _ _ hkey] at hget
      exact hfrom key group hget s hs

/-- A candidate that the engine proposes for a group. -/
structure Proposed (casefold : String → String) (engine : InsightsEngine)
    (signals : List LearningSignal) (group : List LearningSignal) (c : GuidanceCandidate) :
    Prop where
  given : ∀ s ∈ group, s ∈ signals
  enough : engine.min_occurrences ≤ group.length
  candidate : candidateFromHumanGroup casefold group = .ok c

/-- The candidates of a snapshot are proposed for groups of its signals. -/
theorem InsightsEngine.candidate_of_analyzeSignals {engine : InsightsEngine}
    {signals : List LearningSignal} {agent_id : Option String} {generated_at : Decimal}
    {snapshot : InsightsSnapshot}
    (h : engine.analyzeSignals casefold signals agent_id generated_at = .ok snapshot)
    {c : GuidanceCandidate} (hc : c ∈ snapshot.candidates) :
    ∃ group, Proposed casefold engine signals group c := by
  unfold analyzeSignals at h
  obtain ⟨groups, hgroups, h⟩ := bind_ok.mp h
  obtain ⟨⟨proposed, candidates⟩, hproposed, h⟩ := bind_ok.mp h
  obtain rfl := pure_ok.mp h
  have hfrom : groups.From signals := by
    refine foldlM_keeps (P := fun groups => groups.From signals) ?_ hgroups ?_
    · exact fun signal hsignal _ _ hstep hfrom => SignalGroups.collect_from hsignal hstep hfrom
    · intro key group hget
      cases hget
  have hmem : c ∈ candidates := List.mem_sortBy.mp hc
  refine foldlM_keeps (P := fun results : List InsightFinding × List GuidanceCandidate =>
    ∀ c ∈ results.2, ∃ group, Proposed casefold engine signals group c) ?_ hproposed nofun c hmem
  intro item hitem results next hstep hall
  obtain ⟨⟨group_agent, kind, normalized⟩, group⟩ := item
  have hget := Table.mem_rows.mp (List.mem_sortBy.mp hitem)
  unfold proposeHuman at hstep
  by_cases hfew : group.length < engine.min_occurrences
  · simp only [if_pos hfew] at hstep
    obtain rfl := Except.ok.inj hstep
    exact hall
  · simp only [if_neg hfew] at hstep
    obtain ⟨guidance, -, hstep⟩ := bind_ok.mp hstep
    obtain ⟨candidate, hcandidate, hstep⟩ := bind_ok.mp hstep
    obtain rfl := pure_ok.mp hstep
    intro c hc
    rcases List.mem_append.mp hc with hold | hnew
    · exact hall c hold
    · obtain rfl := List.mem_singleton.mp hnew
      exact ⟨group, hfrom _ group hget, Nat.le_of_not_lt hfew, mapError_ok.mp hcandidate⟩

variable {credentialShaped : String → Bool} {manager : PersonalizationManager credentialShaped}

/-- An approval that the manager gave: it is revalidated, and its evidence is a
    group that the engine proposes, of a window that ends with the approval. -/
structure Grounded (manager : PersonalizationManager credentialShaped)
    (casefold : String → String) (windowStart : Decimal → Nat → Raises JsonFloat)
    (load_signals : List String → Raises (List LearningSignal)) (a : ApprovalRecord) : Prop where
  revalidated : Revalidated manager casefold load_signals a
  window : ∃ group now since, load_signals a.evidence_ids = .ok group ∧
    a.approved_at = .finite now ∧ windowStart now manager.engine.window_days = .ok since ∧
    manager.engine.min_occurrences ≤ group.length ∧
    ∀ s ∈ group, InsightsEngine.inWindow since now s = true

/-- A principal is made of its own texts. -/
theorem ReviewerPrincipal.new_self (p : ReviewerPrincipal credentialShaped) :
    ReviewerPrincipal.new credentialShaped p.reviewer_id p.attestation = .ok p := by
  obtain ⟨reviewer_id, attestation, h⟩ := p
  unfold ReviewerPrincipal.new
  simp only
  rw [requireText_of_required h.id_text, ok_bind, requireText_of_required h.attestation_text,
    ok_bind, rejectCredentialShaped, require_bind_pos h.attestation_plain, new.presentable?,
    dif_pos h.id_text, dif_pos h.attestation_text, dif_pos h.attestation_plain]
  rfl

/-- What a finalized approval says. -/
theorem finalizeApproval_ok {candidate : GuidanceCandidate}
    {reviewer : ReviewerPrincipal credentialShaped} {fingerprint : String} {now : Decimal}
    {record : ApprovalRecord}
    (h : finalizeApproval candidate reviewer fingerprint now = .ok record) :
    Matches candidate record ∧ record.reviewer_id = reviewer.reviewer_id ∧
      record.reviewer_attestation = reviewer.attestation ∧
      record.profile_fingerprint = fingerprint ∧ record.approved_at = .finite now := by
  unfold finalizeApproval at h
  obtain ⟨-, h⟩ := unit_bind_ok.mp h
  obtain rfl := pure_ok.mp h
  exact ⟨⟨rfl, rfl, rfl, rfl, rfl, rfl⟩, rfl, rfl, rfl, rfl⟩

/-- Signals of one log with the same ids are the same. -/
theorem mem_of_sortedIds {l : AppendLog signalRecords.ids} {group group' : List LearningSignal}
    (hgroup : ∀ s ∈ group, s ∈ l.records) (hgroup' : ∀ s ∈ group', s ∈ l.records)
    (h : sortedIds group = sortedIds group') : group.length = group'.length ∧
      ∀ s ∈ group, s ∈ group' := by
  have hperm : (group.map LearningSignal.signal_id).Perm (group'.map LearningSignal.signal_id) := by
    have hsorted := List.sortBy_perm id (group'.map LearningSignal.signal_id)
    unfold sortedIds at h
    rw [← h] at hsorted
    exact (List.sortBy_perm id _).symm.trans hsorted
  constructor
  · have hlength := hperm.length_eq
    rwa [List.length_map, List.length_map] at hlength
  · intro s hs
    obtain ⟨t, ht, hid⟩ := List.mem_map.mp (hperm.mem_iff.mp (List.mem_map_of_mem hs))
    have hsame : t = s := List.inj_on_of_nodup_map l.ids (hgroup' t ht) (hgroup s hs) hid
    exact hsame ▸ ht

variable {log : LearningLog credentialShaped} {store : InMemoryLearningStore}

/-- What an approval is given for. -/
structure GivenFor (reviewer : ReviewerPrincipal credentialShaped) (profile : AgentProfile)
    (a : ApprovalRecord) : Prop where
  reviewer_id : a.reviewer_id = reviewer.reviewer_id
  agent_id : a.agent_id = profile.agent_id
  profile_fingerprint : a.profile_fingerprint = profileFingerprint profile

/-- **What is approved**: a grounded approval, for the reviewer and the
    profile. -/
theorem PersonalizationManager.approvalFor_ok (hkept : log.KeptBy store)
    {candidate : GuidanceCandidate} {reviewer : ReviewerPrincipal credentialShaped}
    {profile : AgentProfile} {snapshot : Option InsightsSnapshot} {clock : Json}
    {record : ApprovalRecord}
    (h : manager.approvalFor casefold windowStart (store.reads credentialShaped) candidate reviewer
      profile snapshot clock = .ok record) :
    Grounded manager casefold windowStart (InMemoryLearningStore.load signalRecords store.signals)
      record ∧ GivenFor reviewer profile record := by
  unfold approvalFor at h
  obtain ⟨verified, hverified, h⟩ := bind_ok.mp h
  obtain ⟨now, -, h⟩ := bind_ok.mp h
  obtain ⟨trusted, htrusted, h⟩ := bind_ok.mp h
  obtain ⟨-, -, h⟩ := bind_ok.mp h
  obtain ⟨proposal, hproposal, h⟩ := bind_ok.mp h
  obtain ⟨-, h⟩ := require_bind_ok.mp h
  obtain ⟨evidence, hevidence, h⟩ := bind_ok.mp h
  obtain ⟨reconstructed, hreconstructed, h⟩ := bind_ok.mp h
  obtain ⟨rfl, h⟩ := require_bind_ok.mp h
  obtain ⟨hagent, h⟩ := require_bind_ok.mp h
  obtain ⟨hmatch, hreviewer, hattestation, hfingerprint, happroved⟩ := finalizeApproval_ok h
  -- the verifier returned the reviewer it was asked about
  obtain rfl : verified = reviewer := by
    unfold verifyReviewer at hverified
    obtain ⟨_, -, hv⟩ := bind_ok.mp hverified
    obtain ⟨_, -, hv⟩ := bind_ok.mp hv
    obtain ⟨hsame, hv⟩ := require_bind_ok.mp hv
    obtain rfl := pure_ok.mp hv
    exact ReviewerPrincipal.ext hsame.1 hsame.2
  have hload : InMemoryLearningStore.load signalRecords store.signals record.evidence_ids =
      .ok evidence := hmatch.evidence_ids ▸ hevidence
  have hcandidate := mapError_ok.mp hreconstructed
  refine ⟨⟨⟨⟨verified, verified, ?_, hverified⟩, evidence, reconstructed, hload, hcandidate, hmatch⟩,
    ?_⟩, ⟨hreviewer, ?_, hfingerprint⟩⟩
  · rw [hreviewer, hattestation]
    exact ReviewerPrincipal.new_self verified
  · -- the snapshot was taken of the window
    unfold InsightsEngine.analyze at htrusted
    obtain ⟨generated_at, hgenerated, htrusted⟩ := bind_ok.mp htrusted
    obtain ⟨agent, -, htrusted⟩ := bind_ok.mp htrusted
    obtain ⟨since, hsince, htrusted⟩ := bind_ok.mp htrusted
    obtain ⟨listed, hlisted, htrusted⟩ := bind_ok.mp htrusted
    obtain rfl : now = generated_at := Except.ok.inj hgenerated
    obtain ⟨group, hgroup⟩ := InsightsEngine.candidate_of_analyzeSignals htrusted
      (List.mem_of_find?_eq_some (found_ok.mp hproposal))
    have hlog : ∀ s ∈ listed, s ∈ log.signals.records := by
      intro s hs
      obtain rfl := Except.ok.inj hlisted
      have hmem := (List.mem_filter.mp (List.mem_sortBy.mp hs)).1
      rwa [hkept.signals.values] at hmem
    have hloaded : loadedFrom signalRecords log.signals reconstructed.evidence_ids = .ok evidence :=
      (load_eq hkept.signals _).symm.trans hevidence
    have hids : sortedIds evidence = sortedIds group :=
      (candidateFromHumanGroup_ok hcandidate).evidence_ids.symm.trans
        (candidateFromHumanGroup_ok hgroup.candidate).evidence_ids
    obtain ⟨hlength, hsame⟩ := mem_of_sortedIds (mem_of_loadedFrom hloaded)
      (fun s hs => hlog s (List.mem_filter.mp (hgroup.given s hs)).1) hids
    refine ⟨evidence, now, since, hload, happroved, hsince, ?_, ?_⟩
    · exact hlength ▸ hgroup.enough
    · exact fun s hs => (List.mem_filter.mp (hgroup.given s (hsame s hs))).2
  · exact hmatch.agent_id.symm.trans hagent.symm

end approvals

/-! ## Section 2: Histories -/

section histories

variable {credentialShaped : String → Bool}

/-- The store after the calls. -/
def InMemoryLearningStore.after (credentialShaped : String → Bool) (ops : List LearningOp) :
    InMemoryLearningStore :=
  ops.foldl (fun store op => (store.step credentialShaped op).2) empty

/-- The logs after the calls. -/
def LearningLog.after (ops : List LearningOp) : LearningLog credentialShaped := ops.foldl step empty

theorem LearningLog.HeldBy.kept {log : LearningLog credentialShaped}
    {memory : InMemoryLearningStore} {tables : SQLiteLearningStore} (h : log.HeldBy memory tables) :
    log.KeptBy memory :=
  ⟨h.signals.dicts, h.approvals.dicts, h.signals.all_sealed, h.approvals.all_sealed⟩

/-- One call of the store in memory, next to some tables. -/
theorem LearningLog.HeldBy.step_memory {log : LearningLog credentialShaped}
    {memory : InMemoryLearningStore} {tables : SQLiteLearningStore} (h : log.HeldBy memory tables)
    (op : LearningOp) :
    ∃ tables', (log.step op).HeldBy (memory.step credentialShaped op).2 tables' :=
  -- the room of the tables does not matter for what the logs hold
  ⟨(tables.step credentialShaped ⟨10, Nat.le_refl 10⟩ op).2, h.step op⟩

/-- **Run lemma**: after any calls the store keeps the logs. -/
theorem LearningLog.kept_after (credentialShaped : String → Bool) (ops : List LearningOp) :
    (LearningLog.after ops : LearningLog credentialShaped).KeptBy
      (InMemoryLearningStore.after credentialShaped ops) := by
  suffices hfrom : ∀ (log : LearningLog credentialShaped) memory tables,
      log.HeldBy memory tables → (ops.foldl LearningLog.step log).KeptBy
        (ops.foldl (fun store op => (store.step credentialShaped op).2) memory) from
    hfrom _ _ _ LearningLog.heldBy_empty
  induction ops with
  | nil => exact fun _ _ _ h => h.kept
  | cons op ops ih =>
    intro log memory tables h
    obtain ⟨tables', hnext⟩ := h.step_memory op
    exact ih _ _ _ hnext

theorem LearningLog.signals_appendSignal (log : LearningLog credentialShaped)
    (signal : LearningSignal) :
    (log.step (.appendSignal signal)).signals = signalRecords.log log.signals signal := by
  rw [LearningLog.step_appendSignal]

theorem LearningLog.approvals_appendSignal (log : LearningLog credentialShaped)
    (signal : LearningSignal) : (log.step (.appendSignal signal)).approvals = log.approvals := by
  rw [LearningLog.step_appendSignal]

theorem LearningLog.signals_appendApproval (log : LearningLog credentialShaped)
    (approval : ApprovalRecord) :
    (log.step (.appendApproval approval)).signals = log.signals := by
  rw [LearningLog.step_appendApproval]

theorem LearningLog.approvals_appendApproval (log : LearningLog credentialShaped)
    (approval : ApprovalRecord) : (log.step (.appendApproval approval)).approvals =
      (approvalRecords credentialShaped).log log.approvals approval := by
  rw [LearningLog.step_appendApproval]

/-- **Step lemma**: a call adds what it appends. -/
theorem LearningLog.mem_step (op : LearningOp) (log : LearningLog credentialShaped) :
    (∀ s ∈ (log.step op).signals.records, s ∈ log.signals.records ∨ op = .appendSignal s) ∧
    ∀ a ∈ (log.step op).approvals.records, a ∈ log.approvals.records ∨ op = .appendApproval a := by
  cases op with
  | appendSignal signal =>
    rw [log.signals_appendSignal, log.approvals_appendSignal]
    refine ⟨fun s hs => ?_, fun a ha => Or.inl ha⟩
    rcases lawful_signals.mem_log hs with hold | rfl
    · exact Or.inl hold
    · exact Or.inr rfl
  | appendApproval approval =>
    rw [log.signals_appendApproval, log.approvals_appendApproval]
    refine ⟨fun s hs => Or.inl hs, fun a ha => ?_⟩
    rcases (lawful_approvals credentialShaped).mem_log ha with hold | rfl
    · exact Or.inl hold
    · exact Or.inr rfl
  | _ => exact ⟨fun s hs => Or.inl hs, fun a ha => Or.inl ha⟩

/-- **Run lemma**: what a log holds was appended. -/
theorem LearningLog.appended (credentialShaped : String → Bool) (ops : List LearningOp) :
    (∀ s ∈ (LearningLog.after ops : LearningLog credentialShaped).signals.records,
      .appendSignal s ∈ ops) ∧
    ∀ a ∈ (LearningLog.after ops : LearningLog credentialShaped).approvals.records,
      .appendApproval a ∈ ops := by
  suffices hfrom : ∀ log : LearningLog credentialShaped,
      (∀ s ∈ (ops.foldl LearningLog.step log).signals.records,
        s ∈ log.signals.records ∨ .appendSignal s ∈ ops) ∧
      ∀ a ∈ (ops.foldl LearningLog.step log).approvals.records,
        a ∈ log.approvals.records ∨ .appendApproval a ∈ ops by
    obtain ⟨hsignals, happrovals⟩ := hfrom LearningLog.empty
    exact ⟨fun s hs => (hsignals s hs).resolve_left List.not_mem_nil,
      fun a ha => (happrovals a ha).resolve_left List.not_mem_nil⟩
  induction ops with
  | nil => exact fun log => ⟨fun s hs => Or.inl hs, fun a ha => Or.inl ha⟩
  | cons op ops ih =>
    intro log
    obtain ⟨hsignals, happrovals⟩ := ih (log.step op)
    constructor
    · intro s hs
      rcases hsignals s hs with hs | hs
      · exact ((mem_step op log).1 s hs).imp_right fun heq => List.mem_cons.mpr (Or.inl heq.symm)
      · exact Or.inr (List.mem_cons_of_mem op hs)
    · intro a ha
      rcases happrovals a ha with ha | ha
      · exact ((mem_step op log).2 a ha).imp_right fun heq => List.mem_cons.mpr (Or.inl heq.symm)
      · exact Or.inr (List.mem_cons_of_mem op ha)

/-- What an approval that is compiled for a profile rests on: it was appended,
    the verifier recognises its reviewer, and a group of signals that were
    appended says its text about the agent. -/
structure Supported (manager : PersonalizationManager credentialShaped)
    (casefold : String → String) (ops : List LearningOp) (profile : AgentProfile)
    (a : ApprovalRecord) : Prop where
  appended : .appendApproval a ∈ ops
  profile_fingerprint : a.profile_fingerprint = profileFingerprint profile
  recognised : Recognised manager a
  said : ∃ group kind finding title, (∀ s ∈ group, .appendSignal s ∈ ops) ∧
    HumanGroup casefold group kind profile.agent_id
      (normalizeFeedback casefold a.instruction_text) ∧
    kind.guidance? = some (finding, a.candidate_kind, title) ∧
    a.evidence_ids = sortedIds group ∧
    ∃ first ∈ group, first.feedback_text = some a.instruction_text ∧
      ∀ s ∈ group, timeOf first.observed_at ≤ timeOf s.observed_at

theorem supported {manager : PersonalizationManager credentialShaped} {casefold : String → String}
    {ops : List LearningOp} {profile : AgentProfile} {a : ApprovalRecord}
    (ha : a ∈ (InMemoryLearningStore.after credentialShaped ops).approvalsFor profile)
    (h : Revalidated manager casefold (InMemoryLearningStore.load signalRecords
      (InMemoryLearningStore.after credentialShaped ops).signals) a) :
    Supported manager casefold ops profile a := by
  obtain ⟨hmem, hagent, hfingerprint⟩ := mem_approvalsFor.mp ha
  have hkept := LearningLog.kept_after credentialShaped ops
  obtain ⟨hsignals, happrovals⟩ := LearningLog.appended credentialShaped ops
  rw [hkept.approvals.values] at hmem
  obtain ⟨group, c, hgroup, hc, hmatch⟩ := h.evidence
  rw [load_eq hkept.signals] at hgroup
  obtain ⟨⟨kind, title, hsaid, hguidance⟩, hids, hfirst⟩ := candidateFromHumanGroup_ok hc
  rw [hmatch.body, hmatch.agent_id, hagent] at hsaid
  rw [hmatch.candidate_kind] at hguidance
  rw [hmatch.body] at hfirst
  exact ⟨happrovals a hmem, hfingerprint, h.recognised, group, kind, c.finding_kind, title,
    fun s hs => hsignals s (mem_of_loadedFrom hgroup s hs), hsaid, hguidance,
    hmatch.evidence_ids.symm.trans hids, hfirst⟩

/-- **What a compiled profile rests on**: whatever was appended to the store, a
    compilation goes through exactly when every approval of the agent is
    revalidated and every active skill is approved.  It changes nothing but the
    instructions and the metadata, and each text that it adds is one that
    people said about the agent at least twice, approved by a reviewer whom the
    verifier recognises. -/
theorem compiled_from_evidence (manager : PersonalizationManager credentialShaped)
    (casefold : String → String) (ops : List LearningOp) (profile : AgentProfile)
    (metadata : Option Dict) (active_skills : List String) :
    ((∃ compiled, manager.compileProfile casefold
        ((InMemoryLearningStore.after credentialShaped ops).reads credentialShaped) profile metadata
          active_skills = .ok compiled) ↔
      Compilable manager casefold (InMemoryLearningStore.after credentialShaped ops) profile
        active_skills) ∧
    ∀ compiled, manager.compileProfile casefold
        ((InMemoryLearningStore.after credentialShaped ops).reads credentialShaped) profile metadata
          active_skills = .ok compiled →
      SameAuthority compiled.profile profile ∧
      ∃ rules skills, compiled.profile.instructions =
          "\n\n".intercalate (sections profile rules skills) ∧
        compiled.metadata = personalizedMetadata metadata (profileFingerprint profile) rules skills ∧
        (∀ a ∈ rules, a.candidate_kind = .rule ∧ Supported manager casefold ops profile a) ∧
        (∀ a ∈ skills, a.candidate_kind = .skill ∧ Supported manager casefold ops profile a) ∧
        ∀ skill_id, skill_id ∈ active_skills ↔ ∃ a ∈ skills, a.skill_id = some skill_id := by
  obtain ⟨hiff, hresult⟩ := compileProfile_eq manager casefold
    (LearningLog.kept_after credentialShaped ops) profile metadata
    active_skills
  refine ⟨hiff, ?_⟩
  intro compiled hok
  have hcompilable := hiff.mp ⟨compiled, hok⟩
  obtain ⟨hauthority, hinstructions, hmetadata⟩ := hresult compiled hok
  refine ⟨hauthority, _, _, hinstructions, hmetadata, ?_, ?_, ?_⟩
  · intro a ha
    obtain ⟨ha, hkind⟩ := List.mem_filter.mp (List.mem_sortBy.mp ha)
    obtain ⟨hmem, hagent, -⟩ := mem_approvalsFor.mp ha
    exact ⟨of_decide_eq_true hkind, supported ha (hcompilable.revalidated a hmem hagent)⟩
  · intro a ha
    obtain ⟨ha, hkind⟩ := List.mem_filter.mp (List.mem_sortBy.mp ha)
    obtain ⟨hmem, hagent, -⟩ := mem_approvalsFor.mp ha
    exact ⟨(of_decide_eq_true hkind).1, supported ha (hcompilable.revalidated a hmem hagent)⟩
  · intro skill_id
    constructor
    · intro hskill
      obtain ⟨-, a, ha, hkind, hid⟩ := hcompilable.active skill_id hskill
      refine ⟨a, List.mem_sortBy.mpr (List.mem_filter.mpr ⟨ha, decide_eq_true ⟨hkind, ?_⟩⟩), hid⟩
      exact ⟨skill_id, hid, hskill⟩
    · intro h
      obtain ⟨a, ha, hid⟩ := h
      obtain ⟨-, hactive⟩ := List.mem_filter.mp (List.mem_sortBy.mp ha)
      obtain ⟨-, active_id, hown, hmem⟩ := of_decide_eq_true hactive
      rw [Option.mem_def, hid] at hown
      exact Option.some.inj hown ▸ hmem

/-! ## Section 3: Histories of a manager -/

/-- A call that leaves something in the store of a manager. -/
inductive ManagerCall (credentialShaped : String → Bool) where
  | appendSignal (signal : LearningSignal)
  | approve (candidate : GuidanceCandidate) (reviewer : ReviewerPrincipal credentialShaped)
      (profile : AgentProfile) (snapshot : Option InsightsSnapshot) (clock : Json)

namespace PersonalizationManager

variable (casefold : String → String) (windowStart : Decimal → Nat → Raises JsonFloat)
  (manager : PersonalizationManager credentialShaped)

/-- One call. -/
def step (store : InMemoryLearningStore) : ManagerCall credentialShaped → InMemoryLearningStore
  | .appendSignal signal => (store.step credentialShaped (.appendSignal signal)).2
  | .approve candidate reviewer profile snapshot clock =>
    (manager.approve casefold windowStart store candidate reviewer profile snapshot clock).2

/-- The store after the calls. -/
def after (calls : List (ManagerCall credentialShaped)) : InMemoryLearningStore :=
  calls.foldl (manager.step casefold windowStart) .empty

end PersonalizationManager

variable {casefold : String → String} {windowStart : Decimal → Nat → Raises JsonFloat}
  {manager : PersonalizationManager credentialShaped}

/-- The approval was given in one of the calls. -/
def GivenIn (calls : List (ManagerCall credentialShaped)) (a : ApprovalRecord) : Prop :=
  ∃ candidate reviewer profile snapshot clock,
    .approve candidate reviewer profile snapshot clock ∈ calls ∧ GivenFor reviewer profile a

/-- The invariant of a managed store: it keeps two logs, and every approval is
    grounded and was given in a call. -/
structure Managed (manager : PersonalizationManager credentialShaped) (casefold : String → String)
    (windowStart : Decimal → Nat → Raises JsonFloat) (calls : List (ManagerCall credentialShaped))
    (log : LearningLog credentialShaped) (store : InMemoryLearningStore) : Prop where
  held : ∃ tables, log.HeldBy store tables
  grounded : ∀ a ∈ log.approvals.records,
    Grounded manager casefold windowStart (loadedFrom signalRecords log.signals) a
  given : ∀ a ∈ log.approvals.records, GivenIn calls a

theorem Grounded.mono {load load' : List String → Raises (List LearningSignal)}
    (hload : ∀ ids group, load ids = .ok group → load' ids = .ok group) {a : ApprovalRecord}
    (h : Grounded manager casefold windowStart load a) :
    Grounded manager casefold windowStart load' a := by
  obtain ⟨⟨hrecognised, group, c, hgroup, hc, hmatch⟩, group', now, since, hgroup', hwindow⟩ := h
  exact ⟨⟨hrecognised, group, c, hload _ _ hgroup, hc, hmatch⟩, group', now, since,
    hload _ _ hgroup', hwindow⟩

theorem GivenIn.mono {calls : List (ManagerCall credentialShaped)} {a : ApprovalRecord}
    (h : GivenIn calls a) (more : List (ManagerCall credentialShaped)) :
    GivenIn (calls ++ more) a := by
  obtain ⟨candidate, reviewer, profile, snapshot, clock, hmem, hgiven⟩ := h
  exact ⟨candidate, reviewer, profile, snapshot, clock, List.mem_append_left more hmem, hgiven⟩

/-- **Step lemma**: a call keeps the invariant and what the logs hold, and an
    approval that it answers is in the log afterwards. -/
theorem Managed.step {calls : List (ManagerCall credentialShaped)}
    {log : LearningLog credentialShaped} {store : InMemoryLearningStore}
    (h : Managed manager casefold windowStart calls log store)
    (call : ManagerCall credentialShaped) :
    ∃ log', Managed manager casefold windowStart (calls ++ [call]) log'
        (manager.step casefold windowStart store call) ∧
      (∀ a ∈ log.approvals.records, a ∈ log'.approvals.records) ∧
      ∀ candidate reviewer profile snapshot clock record,
        call = .approve candidate reviewer profile snapshot clock →
        (manager.approve casefold windowStart store candidate reviewer profile snapshot clock).1 =
          .ok record → record ∈ log'.approvals.records := by
  obtain ⟨tables, hheld⟩ := h.held
  cases call with
  | appendSignal signal =>
    have hnext := hheld.step_memory (.appendSignal signal)
    refine ⟨log.step (.appendSignal signal), ⟨hnext, ?_, ?_⟩, ?_, ?_⟩
    · rw [log.signals_appendSignal, log.approvals_appendSignal]
      exact fun a ha => (h.grounded a ha).mono fun _ _ hload => loadedFrom_log signal hload
    · rw [log.approvals_appendSignal]
      exact fun a ha => (h.given a ha).mono _
    · rw [log.approvals_appendSignal]
      exact fun a ha => ha
    · intro _ _ _ _ _ _ heq
      cases heq
  | approve candidate reviewer profile snapshot clock =>
    have hkept := hheld.kept
    cases hrun : manager.approvalFor casefold windowStart (store.reads credentialShaped) candidate
        reviewer profile snapshot clock with
    | error e =>
      have hcall : manager.approve casefold windowStart store candidate reviewer profile snapshot
          clock = (.error e, store) := by
        unfold PersonalizationManager.approve
        rw [hrun]
      refine ⟨log, ⟨⟨tables, ?_⟩, h.grounded, fun a ha => (h.given a ha).mono _⟩, fun a ha => ha, ?_⟩
      · show log.HeldBy (manager.approve casefold windowStart store candidate reviewer profile
          snapshot clock).2 tables
        rw [hcall]
        exact hheld
      · intro _ _ _ _ _ record heq hok
        cases heq
        rw [hcall] at hok
        cases hok
    | ok record =>
      obtain ⟨hgrounded, hgiven⟩ := PersonalizationManager.approvalFor_ok hkept hrun
      have hcall : manager.approve casefold windowStart store candidate reviewer profile snapshot
          clock = ((InMemoryLearningStore.append (approvalRecords credentialShaped) store.approvals
              record).1,
            (store.step credentialShaped (.appendApproval record)).2) := by
        unfold PersonalizationManager.approve
        rw [hrun]
        rfl
      have hanswer : (manager.approve casefold windowStart store candidate reviewer profile snapshot
          clock).1 = (InMemoryLearningStore.append (approvalRecords credentialShaped)
            store.approvals record).1 := by rw [hcall]
      have hnext := hheld.step_memory (.appendApproval record)
      have hload : InMemoryLearningStore.load signalRecords store.signals =
          loadedFrom signalRecords log.signals := funext (load_eq hkept.signals)
      have hstore : manager.step casefold windowStart store
          (.approve candidate reviewer profile snapshot clock) =
            (store.step credentialShaped (.appendApproval record)).2 := congrArg Prod.snd hcall
      refine ⟨log.step (.appendApproval record), ⟨hstore ▸ hnext, ?_, ?_⟩, ?_, ?_⟩
      · rw [log.signals_appendApproval, log.approvals_appendApproval]
        intro a ha
        rcases (lawful_approvals credentialShaped).mem_log ha with hold | rfl
        · exact h.grounded a hold
        · exact hload ▸ hgrounded
      · rw [log.approvals_appendApproval]
        intro a ha
        rcases (lawful_approvals credentialShaped).mem_log ha with hold | rfl
        · exact (h.given a hold).mono _
        · exact ⟨candidate, reviewer, profile, snapshot, clock,
            List.mem_append_right _ (List.mem_singleton_self _), hgiven⟩
      · rw [log.approvals_appendApproval]
        exact fun a ha => mem_log_of_mem record ha
      · rw [log.approvals_appendApproval]
        intro _ _ _ _ _ answer heq hok
        cases heq
        exact mem_log_of_answer (lawful_approvals credentialShaped) hkept.approvals
          (hanswer.symm.trans hok)

theorem managed_empty : Managed manager casefold windowStart [] LearningLog.empty .empty :=
  ⟨⟨_, LearningLog.heldBy_empty⟩, fun _ ha => absurd ha List.not_mem_nil,
    fun _ ha => absurd ha List.not_mem_nil⟩

namespace PersonalizationManager

theorem after_append (manager : PersonalizationManager credentialShaped)
    (calls more : List (ManagerCall credentialShaped)) :
    manager.after casefold windowStart (calls ++ more) =
      more.foldl (manager.step casefold windowStart) (manager.after casefold windowStart calls) :=
  List.foldl_append

/-- **Run lemma**: calls keep the invariant and what the logs hold. -/
theorem managed_foldl {calls : List (ManagerCall credentialShaped)}
    {log : LearningLog credentialShaped} {store : InMemoryLearningStore}
    (h : Managed manager casefold windowStart calls log store)
    (more : List (ManagerCall credentialShaped)) :
    ∃ log', Managed manager casefold windowStart (calls ++ more) log'
        (more.foldl (manager.step casefold windowStart) store) ∧
      ∀ a ∈ log.approvals.records, a ∈ log'.approvals.records := by
  induction more generalizing calls log store with
  | nil => exact ⟨log, by rwa [List.append_nil], fun a ha => ha⟩
  | cons call more ih =>
    obtain ⟨log', hmanaged, hgrows, -⟩ := h.step call
    obtain ⟨log'', hmanaged', hgrows'⟩ := ih hmanaged
    rw [List.append_assoc] at hmanaged'
    exact ⟨log'', hmanaged', fun a ha => hgrows' a (hgrows a ha)⟩

end PersonalizationManager

end histories

end CBrain.Insights

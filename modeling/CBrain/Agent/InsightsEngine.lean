import CBrain.Agent.LearningStores

/-! # The insights engine

    Models `InsightsEngine` of `cbrain/agent/insights.py`: the signals of a
    window are collected into groups, and a group that is large enough becomes
    a finding, with a candidate if people gave the feedback.

    A store is given by what it lists.  What `str.casefold` makes of a text and
    where a window starts, a floating-point difference, are parameters. -/

namespace CBrain.Insights

open Json (Dict)
open Knowledge (sha256HexOf normalizeText)

/-! ## Section 1: Findings and candidates -/

/-- `FindingKind`. -/
inductive FindingKind where
  | repeatedCorrection
  | repeatedPreference
  | repeatedWorkflow
  | runFriction
  | toolFriction
  deriving DecidableEq, Repr

/-- `kind.value`. -/
def FindingKind.value : FindingKind → String
  | .repeatedCorrection => "repeated-correction"
  | .repeatedPreference => "repeated-preference"
  | .repeatedWorkflow => "repeated-workflow"
  | .runFriction => "run-friction"
  | .toolFriction => "tool-friction"

/-- `InsightFinding`. -/
structure InsightFinding where
  finding_id : String
  kind : FindingKind
  agent_id : String
  occurrence_count : Nat
  evidence_ids : List String
  summary : String
  grouping_key : String
  finding_hash : String
  proposes_candidate : Bool
  deriving DecidableEq

/-- `GuidanceCandidate`. -/
structure GuidanceCandidate where
  candidate_id : String
  candidate_kind : CandidateKind
  agent_id : String
  finding_kind : FindingKind
  title : String
  body : String
  evidence_ids : List String
  occurrence_count : Nat
  candidate_hash : String
  skill_id : Option String
  deriving DecidableEq

/-- `InsightsSnapshot`. -/
structure InsightsSnapshot where
  schema_version : Value
  generated_at : Decimal
  window_days : Nat
  min_occurrences : Nat
  agent_id : Option String
  findings : List InsightFinding
  candidates : List GuidanceCandidate
  snapshot_hash : String
  deriving DecidableEq

/-- `_FINDING_FOR_HUMAN`, `_CANDIDATE_FOR_HUMAN` and the title of a candidate,
    for the kinds of signal that people give. -/
def SignalKind.guidance? : SignalKind → Option (FindingKind × CandidateKind × String)
  | .humanCorrection => some (.repeatedCorrection, .rule, "Repeated correction")
  | .humanPreference => some (.repeatedPreference, .rule, "Repeated preference")
  | .humanWorkflow => some (.repeatedWorkflow, .skill, "Repeated workflow")
  | .structuralRunOutcome | .governedToolRejection => none

/-- What a failed `assert` raises. -/
def assertionError : Exn := ⟨.other, "AssertionError", []⟩

/-- What a missing key raises. -/
def missingKind (kind : SignalKind) : Exn := ⟨.other, "KeyError", [.text kind.value]⟩

/-- `_sorted_ids`. -/
def sortedIds (signals : List LearningSignal) : List String :=
  (signals.map LearningSignal.signal_id).sortBy id

/-- `_finding`. -/
def newFinding (kind : FindingKind) (agent_id : String) (signals : List LearningSignal)
    (grouping_key summary : String) (proposes_candidate : Bool) : InsightFinding :=
  let evidence_ids := sortedIds signals
  let digest := sha256HexOf (object
    [("kind", .str kind.value), ("agent_id", .str agent_id), ("evidence_ids", .texts evidence_ids),
      ("grouping_key", .str grouping_key), ("occurrence_count", .nat evidence_ids.length),
      ("proposes_candidate", ⟨.bool proposes_candidate, Json.WF.bool _⟩)])
  { finding_id := digest, kind, agent_id, occurrence_count := evidence_ids.length, evidence_ids,
    summary, grouping_key, finding_hash := digest, proposes_candidate }

section engine

variable (casefold : String → String)

/-- `normalize_feedback`. -/
def normalizeFeedback (text : String) : String := casefold (normalizeText text)

/-! ## Section 2: Groups of human feedback -/

/-- The sets that `require_homogeneous_human_group` fills. -/
structure GroupSeen where
  seen_ids : List String
  kinds : List SignalKind
  agents : List String
  feedbacks : List String

/-- One round of its loop. -/
def GroupSeen.see (seen : GroupSeen) (signal : LearningSignal) : Raises GroupSeen := do
  require (signal.kind.isHuman = true)
    (insightsError "human evidence group contains non-human signals")
  require (signal.kind ≠ .structuralRunOutcome ∧ signal.kind ≠ .governedToolRejection)
    (insightsError "human evidence group contains runtime signals")
  require (signal.signal_id ∉ seen.seen_ids)
    (insightsError "human evidence group has duplicate evidence ids")
  let feedback_text ← found (insightsError "human evidence group requires feedback text")
    signal.feedback_text
  return {
    seen_ids := seen.seen_ids.insert signal.signal_id
    kinds := seen.kinds.insert signal.kind
    agents := seen.agents.insert signal.agent_id
    feedbacks := seen.feedbacks.insert (normalizeFeedback casefold feedback_text) }

/-- `MIN_GUIDANCE_OCCURRENCES`. -/
def minGuidanceOccurrences : Nat := 2

/-- `require_homogeneous_human_group`. -/
def requireHomogeneousHumanGroup (signals : List LearningSignal) : Raises (List LearningSignal) := do
  require (signals ≠ []) (insightsError "human evidence group is empty")
  let ordered := signals.sortBy fun item => toLex (timeOf item.observed_at, item.signal_id)
  let seen ← ordered.foldlM (GroupSeen.see casefold) ⟨[], [], [], []⟩
  require (minGuidanceOccurrences ≤ seen.seen_ids.length)
    (insightsError "human evidence group has insufficient unique occurrences")
  require (seen.kinds.length = 1)
    (insightsError "human evidence group must have exactly one signal kind")
  require (seen.agents.length = 1)
    (insightsError "human evidence group must have exactly one agent")
  require (seen.feedbacks.length = 1)
    (insightsError "human evidence group must have exactly one feedback value")
  require (seen.seen_ids.length = ordered.length)
    (insightsError "human evidence group has duplicate evidence ids")
  return ordered

/-- `_candidate_from_human_group`. -/
def candidateFromHumanGroup (signals : List LearningSignal) : Raises GuidanceCandidate := do
  let ordered ← requireHomogeneousHumanGroup casefold signals
  let first ← found assertionError ordered.head?
  let body ← found assertionError first.feedback_text
  let (finding_kind, candidate_kind, title) ← found (missingKind first.kind) first.kind.guidance?
  let evidence_ids := sortedIds ordered
  let digest := sha256HexOf (object
    [("candidate_kind", .str candidate_kind.value), ("agent_id", .str first.agent_id),
      ("finding_kind", .str finding_kind.value), ("body", .str body),
      ("evidence_ids", .texts evidence_ids), ("occurrence_count", .nat evidence_ids.length)])
  return {
    candidate_id := digest
    candidate_kind
    agent_id := first.agent_id
    finding_kind
    title
    body
    evidence_ids
    occurrence_count := evidence_ids.length
    candidate_hash := digest
    skill_id := if candidate_kind = .rule then none else some s!"skill:{digest}" }

/-! ## Section 3: Groups -/

/-- `groups.setdefault(key, []).append(signal)`. -/
def pushTo {K : Type} [DecidableEq K] (groups : Table K (List LearningSignal)) (key : K)
    (signal : LearningSignal) : Table K (List LearningSignal) :=
  groups.set key ((groups.get? key).getD [] ++ [signal])

/-- The three dictionaries of `_analyze_signals`. -/
structure SignalGroups where
  human_groups : Table (String × SignalKind × String) (List LearningSignal)
  run_groups : Table (String × RunStatus) (List LearningSignal)
  tool_groups : Table (String × String × ExecutionStatus) (List LearningSignal)

/-- One round of the loop that collects the groups. -/
def SignalGroups.collect (groups : SignalGroups) (signal : LearningSignal) : Raises SignalGroups :=
  match signal.kind, signal.run_status, signal.execution_status with
  | .structuralRunOutcome, some run_status, _ =>
    .ok (if run_status = .completed then groups else
      { groups with
        run_groups := pushTo groups.run_groups (signal.agent_id, run_status) signal })
  | .governedToolRejection, _, some execution_status =>
    if execution_status = .executed then .ok groups else do
      let tool_name ← found assertionError signal.tool_name
      return { groups with
        tool_groups := pushTo groups.tool_groups (signal.agent_id, tool_name, execution_status)
          signal }
  | .structuralRunOutcome, none, _ | .governedToolRejection, _, none => .ok groups
  | kind, _, _ => do
    let feedback_text ← found assertionError signal.feedback_text
    return { groups with
      human_groups := pushTo groups.human_groups
        (signal.agent_id, kind, normalizeFeedback casefold feedback_text) signal }

/-- `InsightsEngine`. -/
structure InsightsEngine where
  window_days : Nat
  min_occurrences : Nat
  window_days_pos : 0 < window_days
  enough : minGuidanceOccurrences ≤ min_occurrences

/-- `positive_int`. -/
def positiveInt (field_name : String) (value : Json) : Raises {n : Nat // 0 < n} :=
  match value with
  | .int (.ofNat (n + 1)) => .ok ⟨n + 1, Nat.succ_pos n⟩
  | _ => .error (insightsError s!"{field_name} must be a positive integer")

/-- `InsightsEngine(window_days=..., min_occurrences=...)`. -/
def InsightsEngine.create (window_days min_occurrences : Json) : Raises InsightsEngine := do
  let window_days ← positiveInt "window_days" window_days
  let requested ← positiveInt "min_occurrences" min_occurrences
  return {
    window_days := window_days.1
    min_occurrences := max requested.1 minGuidanceOccurrences
    window_days_pos := window_days.2
    enough := le_max_right _ _ }

/-- `except InsightsError as exc: raise InsightsError(message) from exc`. -/
def asInhomogeneous (e : Exn) : Exn :=
  if e.kind = .insightsError then insightsError "human evidence group is not homogeneous" else e

namespace InsightsEngine

variable (engine : InsightsEngine)

/-- One round of the loop over `human_groups`. -/
def proposeHuman (results : List InsightFinding × List GuidanceCandidate)
    (item : (String × SignalKind × String) × List LearningSignal) :
    Raises (List InsightFinding × List GuidanceCandidate) :=
  let ((group_agent, kind, normalized), group) := item
  if group.length < engine.min_occurrences then .ok results else do
    let (finding_kind, _) ← found (missingKind kind) kind.guidance?
    let candidate ← (candidateFromHumanGroup casefold group).mapError asInhomogeneous
    let finding := newFinding finding_kind group_agent group
      s!"{kind.value}:{group_agent}:{normalized}"
      s!"{finding_kind.value} observed {group.length} times" true
    return (results.1 ++ [finding], results.2 ++ [candidate])

/-- The findings of the loop over `run_groups`. -/
def runFriction (items : List ((String × RunStatus) × List LearningSignal)) : List InsightFinding :=
  (items.filter fun item => engine.min_occurrences ≤ item.2.length).map
    fun ((group_agent, run_status), group) =>
      newFinding .runFriction group_agent group s!"run-friction:{group_agent}:{run_status.value}"
        s!"run status {run_status.value} observed {group.length} times" false

/-- The findings of the loop over `tool_groups`. -/
def toolFriction (items : List ((String × String × ExecutionStatus) × List LearningSignal)) :
    List InsightFinding :=
  (items.filter fun item => engine.min_occurrences ≤ item.2.length).map
    fun ((group_agent, tool_name, execution_status), group) =>
      newFinding .toolFriction group_agent group
        s!"tool-friction:{group_agent}:{tool_name}:{execution_status.value}"
        s!"tool {tool_name} status {execution_status.value} observed {group.length} times" false

/-- `_analyze_signals`. -/
def analyzeSignals (signals : List LearningSignal) (agent_id : Option String)
    (generated_at : Decimal) : Raises InsightsSnapshot := do
  let groups ← signals.foldlM (SignalGroups.collect casefold) ⟨Table.empty, Table.empty, Table.empty⟩
  let human := groups.human_groups.rows.sortBy fun item =>
    toLex (item.1.1, toLex (item.1.2.1.value, item.1.2.2))
  let runs := groups.run_groups.rows.sortBy fun item => toLex (item.1.1, item.1.2.value)
  let tools := groups.tool_groups.rows.sortBy fun item =>
    toLex (item.1.1, toLex (item.1.2.1, item.1.2.2.value))
  let (proposed, candidates) ← human.foldlM (engine.proposeHuman casefold) ([], [])
  let findings := proposed ++ engine.runFriction runs ++ engine.toolFriction tools
  let findings_tuple := findings.sortBy fun item => toLex (item.kind.value, item.finding_hash)
  let candidates_tuple := candidates.sortBy GuidanceCandidate.candidate_hash
  let snapshot_hash := sha256HexOf (object
    [("schema_version", signalSchemaVersion), ("window_days", .nat engine.window_days),
      ("min_occurrences", .nat engine.min_occurrences), ("agent_id", .optText agent_id),
      ("findings", .texts (findings_tuple.map InsightFinding.finding_hash)),
      ("candidates", .texts (candidates_tuple.map GuidanceCandidate.candidate_hash))])
  return {
    schema_version := signalSchemaVersion
    generated_at
    window_days := engine.window_days
    min_occurrences := engine.min_occurrences
    agent_id
    findings := findings_tuple
    candidates := candidates_tuple
    snapshot_hash }

/-- `list_signals` of a store. -/
abbrev ListSignals : Type :=
  Option String → Option JsonFloat → Option JsonFloat → Raises (List LearningSignal)

/-- `_in_window`. -/
def inWindow (start : JsonFloat) (now : Decimal) (signal : LearningSignal) : Bool :=
  floatLe start signal.observed_at && floatLe signal.observed_at (.finite now)

/-- `analyze` at a given time. -/
def analyze (windowStart : Decimal → Nat → Raises JsonFloat) (list_signals : ListSignals)
    (agent_id : Option String) (now : Json) : Raises InsightsSnapshot := do
  let generated_at ← finiteTimestamp "generated_at" now
  let scoped_agent ← optionalText "agent_id" (Value.optText agent_id).1
  let since ← windowStart generated_at engine.window_days
  let listed ← list_signals scoped_agent (some since) none
  engine.analyzeSignals casefold (listed.filter (inWindow since generated_at)) scoped_agent
    generated_at

end InsightsEngine

end engine

end CBrain.Insights

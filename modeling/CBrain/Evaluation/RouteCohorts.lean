import Mathlib.Data.List.Dedup
import CBrain.Framework.Table
import CBrain.Evaluation.ReleaseGates

/-! # Route cohorts

    What the counts of `assess_route_invariance` say about the runs of each case.

    * `ObservedOnce`  : each expected route was observed once, and no other.
    * `OneDecision`   : all runs show one intent and one decision.
    * `NotShown`      : no run shows an intent with a decision, and none should. -/

namespace CBrain

variable {U : Type}

/-! ## Section 1: The loops of the source -/

/-- `cohorts.setdefault(run.case_id, []).append(run)`. -/
def addToCohort (cohorts : Table String (List (CompanyRunMetrics U)))
    (run : CompanyRunMetrics U) : Table String (List (CompanyRunMetrics U)) :=
  cohorts.set run.case_id ((cohorts.get? run.case_id).getD [] ++ [run])

/-- `cohorts`: the runs by case. -/
def cohortsOf (runs : List (CompanyRunMetrics U)) : Table String (List (CompanyRunMetrics U)) :=
  runs.foldl addToCohort Table.empty

/-- One turn of the loop over the cohorts. -/
def countCohort (expected : List String) (counts : RouteInvarianceAssessment)
    (cohort : List (CompanyRunMetrics U)) : RouteInvarianceAssessment :=
  match assessCohort expected cohort with
  | .divergent =>
    { counts with decision_divergence_count := counts.decision_divergence_count + 1 }
  | .incomplete =>
    { counts with incomplete_comparison_count := counts.incomplete_comparison_count + 1 }
  | .notApplicable => { counts with not_applicable_count := counts.not_applicable_count + 1 }
  | .comparable => counts

/-- `assess_route_invariance`, with its loops. -/
def assessLoop (expected : List String) (runs : List (CompanyRunMetrics U)) :
    RouteInvarianceAssessment :=
  (cohortsOf runs).values.foldl (countCohort expected) ⟨0, 0, 0⟩

/-- The runs of a case. -/
def cohortOf (runs : List (CompanyRunMetrics U)) (case_id : String) :
    List (CompanyRunMetrics U) :=
  runs.filter fun run => run.case_id = case_id

/-- The cases, each once. -/
def caseIds (runs : List (CompanyRunMetrics U)) : List String := (runs.map (·.case_id)).dedup

theorem cohortOf_eq_nil {runs : List (CompanyRunMetrics U)} {case_id : String} :
    cohortOf runs case_id = [] ↔ case_id ∉ caseIds runs := by
  unfold cohortOf caseIds
  rw [List.mem_dedup, List.filter_eq_nil_iff, List.mem_map]
  constructor
  · rintro h ⟨run, hrun, hcase⟩
    exact h run hrun (by simpa using hcase)
  · intro h run hrun hcase
    exact h ⟨run, hrun, by simpa using hcase⟩

theorem cohortOf_snoc (runs : List (CompanyRunMetrics U)) (run : CompanyRunMetrics U)
    (case_id : String) :
    cohortOf (runs ++ [run]) case_id =
      if run.case_id = case_id then cohortOf runs case_id ++ [run] else cohortOf runs case_id := by
  unfold cohortOf
  rw [List.filter_append]
  by_cases hcase : run.case_id = case_id
  · simp [hcase]
  · simp [hcase]

/-- The dictionary has the runs of each case that has runs. -/
theorem get?_cohortsOf (runs : List (CompanyRunMetrics U)) (case_id : String) :
    (cohortsOf runs).get? case_id =
      if cohortOf runs case_id = [] then none else some (cohortOf runs case_id) := by
  induction runs using List.reverseRecOn with
  | nil => rfl
  | append_singleton runs run ih =>
    have hfold : cohortsOf (runs ++ [run]) = addToCohort (cohortsOf runs) run := by
      unfold cohortsOf
      rw [List.foldl_append]
      rfl
    rw [hfold, cohortOf_snoc, addToCohort, Table.get?_set]
    by_cases hcase : run.case_id = case_id
    · subst hcase
      have hsnoc : cohortOf runs run.case_id ++ [run] ≠ [] := by simp
      rw [if_pos rfl, if_pos rfl, ih, if_neg hsnoc]
      by_cases hnil : cohortOf runs run.case_id = []
      · rw [if_pos hnil, hnil]
        rfl
      · rw [if_neg hnil]
        rfl
    · rw [if_neg (fun h => hcase h.symm), if_neg hcase, ih]

/-- The loop counts the outcomes of the cohorts. -/
theorem foldl_countCohort (expected : List String) (counts : RouteInvarianceAssessment)
    (cohorts : List (List (CompanyRunMetrics U))) :
    cohorts.foldl (countCohort expected) counts =
      { decision_divergence_count := counts.decision_divergence_count +
          (cohorts.map (assessCohort expected)).count .divergent
        incomplete_comparison_count := counts.incomplete_comparison_count +
          (cohorts.map (assessCohort expected)).count .incomplete
        not_applicable_count := counts.not_applicable_count +
          (cohorts.map (assessCohort expected)).count .notApplicable } := by
  induction cohorts generalizing counts with
  | nil => rfl
  | cons cohort cohorts ih =>
    rw [List.foldl_cons, ih, List.map_cons, countCohort]
    rcases houtcome : assessCohort expected cohort with _ | _ | _ | _
    all_goals simp
    all_goals omega

/-- The cohorts of the dictionary are those of the cases. -/
theorem values_cohortsOf (runs : List (CompanyRunMetrics U)) :
    (cohortsOf runs).values.Perm ((caseIds runs).map (cohortOf runs)) := by
  have hrow : ∀ row ∈ (cohortsOf runs).rows, row.2 = cohortOf runs row.1 := by
    intro row hrow
    have hget := Table.mem_rows.mp hrow
    rw [get?_cohortsOf] at hget
    by_cases hnil : cohortOf runs row.1 = []
    · rw [if_pos hnil] at hget
      exact absurd hget (by simp)
    · rw [if_neg hnil] at hget
      exact (Option.some.inj hget).symm
  have hvalues : (cohortsOf runs).values =
      ((cohortsOf runs).rows.map Prod.fst).map (cohortOf runs) := by
    unfold Table.values
    rw [List.map_map]
    exact List.map_congr_left hrow
  rw [hvalues]
  apply List.Perm.map
  refine (List.perm_ext_iff_of_nodup (cohortsOf runs).unique (List.nodup_dedup _)).mpr ?_
  intro case_id
  have hcovered : case_id ∈ (cohortsOf runs).rows.map Prod.fst ↔
      ∃ cohort, (cohortsOf runs).get? case_id = some cohort := by
    rw [List.mem_map]
    constructor
    · rintro ⟨row, hrow, hcase⟩
      exact ⟨row.2, Table.mem_rows.mp (hcase ▸ hrow)⟩
    · rintro ⟨cohort, hget⟩
      exact ⟨(case_id, cohort), Table.mem_rows.mpr hget, rfl⟩
  rw [hcovered, get?_cohortsOf]
  by_cases hnil : cohortOf runs case_id = []
  · have hout := cohortOf_eq_nil.mp hnil
    rw [if_pos hnil]
    constructor
    · rintro ⟨_, h⟩
      exact absurd h (by simp)
    · intro h
      exact absurd h hout
  · have hin : case_id ∈ caseIds runs := by
      by_contra h
      exact hnil (cohortOf_eq_nil.mpr h)
    rw [if_neg hnil]
    exact ⟨fun _ => hin, fun _ => ⟨_, rfl⟩⟩

/-- The loops compute the counts. -/
theorem assessLoop_eq (expected : List String) (runs : List (CompanyRunMetrics U)) :
    assessLoop expected runs = assessRouteInvariance expected runs := by
  have hperm := (values_cohortsOf runs).map (assessCohort expected)
  unfold assessLoop
  rw [foldl_countCohort, hperm.count_eq, hperm.count_eq, hperm.count_eq, List.map_map]
  simp only [Nat.zero_add]
  rfl

/-! ## Section 2: What each outcome says -/

/-- Each expected route was observed once, and no other was. -/
def ObservedOnce (expected : List String) (cohort : List (CompanyRunMetrics U)) : Prop :=
  ∀ route, (cohort.filter fun run => run.model_route = route).length = expected.count route

/-- All runs show one value of a field. -/
def AllShow (field : CompanyRunMetrics U → Option String) (cohort : List (CompanyRunMetrics U)) :
    Prop :=
  ∃ text, text ≠ "" ∧ ∀ run ∈ cohort, field run = some text

/-- All runs show the same intent. -/
def OneIntent (cohort : List (CompanyRunMetrics U)) : Prop := AllShow (·.action_intent_hash) cohort

/-- All runs show the same decision. -/
def OneDecision (cohort : List (CompanyRunMetrics U)) : Prop := AllShow (·.observed_decision) cohort

/-- Two runs show different decisions. -/
def Diverging (cohort : List (CompanyRunMetrics U)) : Prop :=
  (∀ run ∈ cohort, present run.observed_decision = true) ∧
    ∃ run ∈ cohort, ∃ other ∈ cohort, run.observed_decision ≠ other.observed_decision

/-- No run shows an intent with a decision, and none should. -/
def NotShown (cohort : List (CompanyRunMetrics U)) : Prop :=
  ∀ run ∈ cohort, run.isPresent = false ∧ run.expect_action_intent = false

theorem observedOnce_iff {expected : List String} {cohort : List (CompanyRunMetrics U)} :
    (cohort.map (·.model_route)).Perm expected ↔ ObservedOnce expected cohort := by
  rw [List.perm_iff_count]
  apply forall_congr'
  intro route
  rw [List.count, List.countP_map, List.countP_eq_length_filter]
  have hfilter : cohort.filter ((· == route) ∘ (·.model_route)) =
      cohort.filter fun run => run.model_route = route := by
    apply List.filter_congr
    intro run _
    exact beq_eq_decide _ _
  rw [hfilter]

theorem present_iff {value : Option String} :
    present value = true ↔ ∃ text, text ≠ "" ∧ value = some text := by
  cases value with
  | none => simp [present]
  | some text => simp [present]

theorem one_value_iff {A : Type} [DecidableEq A] {l : List A} :
    ¬ 1 < l.dedup.length ↔ ∀ x ∈ l, ∀ y ∈ l, x = y := by
  constructor
  · intro hone x hx y hy
    rw [← List.mem_dedup] at hx hy
    match hdedup : l.dedup with
    | [] =>
      rw [hdedup] at hx
      exact absurd hx List.not_mem_nil
    | [z] =>
      rw [hdedup] at hx hy
      rw [List.mem_singleton.mp hx, List.mem_singleton.mp hy]
    | z :: w :: rest =>
      rw [hdedup] at hone
      exact absurd (by simp) hone
  · intro hsame hmany
    have hnodup := List.nodup_dedup l
    match hdedup : l.dedup with
    | [] =>
      rw [hdedup] at hmany
      simp at hmany
    | [z] =>
      rw [hdedup] at hmany
      simp at hmany
    | z :: w :: rest =>
      have hz : z ∈ l := List.mem_dedup.mp (by rw [hdedup]; simp)
      have hw : w ∈ l := List.mem_dedup.mp (by rw [hdedup]; simp)
      rw [hdedup, hsame z hz w hw] at hnodup
      simp at hnodup

section outcomes
variable {expected : List String} {cohort : List (CompanyRunMetrics U)}

/-- Where every run shows a field, no two values of it mean that all show one. -/
theorem allShow_iff {field : CompanyRunMetrics U → Option String} (hne : cohort ≠ [])
    (hshown : ∀ run ∈ cohort, present (field run) = true) :
    ¬ 1 < (cohort.map field).dedup.length ↔ AllShow field cohort := by
  rw [one_value_iff]
  constructor
  · intro hsame
    obtain ⟨first, rest, rfl⟩ := List.exists_cons_of_ne_nil hne
    obtain ⟨text, htext, hfirst⟩ := present_iff.mp (hshown first List.mem_cons_self)
    refine ⟨text, htext, fun run hrun => ?_⟩
    rw [← hfirst]
    exact hsame _ (List.mem_map_of_mem hrun) _ (List.mem_map_of_mem List.mem_cons_self)
  · rintro ⟨text, _, hall⟩ x hx y hy
    obtain ⟨run, hrun, rfl⟩ := List.mem_map.mp hx
    obtain ⟨other, hother, rfl⟩ := List.mem_map.mp hy
    rw [hall run hrun, hall other hother]

theorem AllShow.present {field : CompanyRunMetrics U → Option String}
    (h : AllShow field cohort) {run : CompanyRunMetrics U} (hrun : run ∈ cohort) :
    CBrain.present (field run) = true := by
  obtain ⟨text, htext, hall⟩ := h
  exact present_iff.mpr ⟨text, htext, hall run hrun⟩

theorem isPresent_iff {run : CompanyRunMetrics U} :
    run.isPresent = true ↔
      present run.action_intent_hash = true ∧ present run.observed_decision = true := by
  unfold CompanyRunMetrics.isPresent
  rw [Bool.and_eq_true]

/-- What an outcome says about the runs of a case. -/
def Belongs (expected : List String) (cohort : List (CompanyRunMetrics U)) : CohortOutcome → Prop
  | .comparable => ObservedOnce expected cohort ∧ OneIntent cohort ∧ OneDecision cohort
  | .divergent => ObservedOnce expected cohort ∧ OneIntent cohort ∧ Diverging cohort
  | .notApplicable => ObservedOnce expected cohort ∧ NotShown cohort
  | .incomplete => ObservedOnce expected cohort →
      ¬ NotShown cohort ∧ ¬ (OneIntent cohort ∧ (OneDecision cohort ∨ Diverging cohort))

theorem notShown_oneIntent (hne : cohort ≠ []) (hnot : NotShown cohort)
    (hone : OneIntent cohort) : ¬ OneDecision cohort ∧ ¬ Diverging cohort := by
  obtain ⟨run, rest, rfl⟩ := List.exists_cons_of_ne_nil hne
  have hmissing := (hnot run List.mem_cons_self).1
  have hintent := hone.present List.mem_cons_self
  constructor
  · intro hdecision
    rw [isPresent_iff.mpr ⟨hintent, hdecision.present List.mem_cons_self⟩] at hmissing
    cases hmissing
  · intro hdiverging
    rw [isPresent_iff.mpr ⟨hintent, hdiverging.1 run List.mem_cons_self⟩] at hmissing
    cases hmissing

theorem oneDecision_not_diverging (hone : OneDecision cohort) : ¬ Diverging cohort := by
  obtain ⟨decision, _, hall⟩ := hone
  rintro ⟨_, run, hrun, other, hother, hdiffer⟩
  exact hdiffer ((hall run hrun).trans (hall other hother).symm)

/-- The runs of a case have one outcome only. -/
theorem belongs_unique (hne : cohort ≠ []) {outcome outcome' : CohortOutcome}
    (h : Belongs expected cohort outcome) (h' : Belongs expected cohort outcome') :
    outcome = outcome' := by
  have hnot := @notShown_oneIntent U cohort hne
  have hone := @oneDecision_not_diverging U cohort
  cases outcome <;> cases outcome' <;> simp only [Belongs] at h h' <;> first | rfl | tauto

/-- No run shows an intent with a decision. -/
theorem assess_missing (hne : cohort ≠ []) (honce : (cohort.map (·.model_route)).Perm expected)
    (hmissing : ∀ run ∈ cohort, run.isPresent = false) :
    Belongs expected cohort (assessCohort expected cohort) := by
  have hshown : cohort.filter (·.isPresent) = [] := by
    rw [List.filter_eq_nil_iff]
    intro run hrun
    simp [hmissing run hrun]
  have hall : cohort.filter (fun run => !run.isPresent) = cohort := by
    rw [List.filter_eq_self]
    intro run hrun
    simp [hmissing run hrun]
  have hassess : assessCohort expected cohort =
      if cohort ≠ [] ∧ cohort.all (fun run => !run.expect_action_intent) then .notApplicable
      else .incomplete := by
    unfold assessCohort
    rw [if_neg (not_not_intro honce)]
    simp only [hshown, hall, if_true]
  have hexpect : cohort.all (fun run => !run.expect_action_intent) = true ↔ NotShown cohort := by
    rw [List.all_eq_true]
    apply forall₂_congr
    intro run hrun
    simp [hmissing run hrun]
  rw [hassess]
  by_cases hnot : NotShown cohort
  · rw [if_pos ⟨hne, hexpect.mpr hnot⟩]
    exact ⟨observedOnce_iff.mp honce, hnot⟩
  · rw [if_neg (fun h => hnot (hexpect.mp h.2))]
    intro _
    refine ⟨hnot, fun ⟨hone, hdecided⟩ => ?_⟩
    obtain ⟨run, rest, rfl⟩ := List.exists_cons_of_ne_nil hne
    have hpresent : present run.observed_decision = true := by
      rcases hdecided with hsame | hdiffer
      · exact hsame.present List.mem_cons_self
      · exact hdiffer.1 run List.mem_cons_self
    have hrun := hmissing run List.mem_cons_self
    rw [isPresent_iff.mpr ⟨hone.present List.mem_cons_self, hpresent⟩] at hrun
    cases hrun

/-- All runs show an intent with a decision. -/
theorem assess_shown (hne : cohort ≠ []) (honce : (cohort.map (·.model_route)).Perm expected)
    (hshown : ∀ run ∈ cohort, run.isPresent = true) :
    Belongs expected cohort (assessCohort expected cohort) := by
  have hall : cohort.filter (·.isPresent) = cohort := List.filter_eq_self.mpr hshown
  have hmissing : cohort.filter (fun run => !run.isPresent) = [] := by
    rw [List.filter_eq_nil_iff]
    intro run hrun
    simp [hshown run hrun]
  have hassess : assessCohort expected cohort =
      if 1 < (cohort.map (·.action_intent_hash)).dedup.length then .incomplete
      else if 1 < (cohort.map (·.observed_decision)).dedup.length then .divergent
      else .comparable := by
    unfold assessCohort
    rw [if_neg (not_not_intro honce)]
    simp only [hall, hmissing, if_neg hne, ne_eq, not_true_eq_false, if_false]
  have hintent := fun run hrun => (isPresent_iff.mp (hshown run hrun)).1
  have hdecision := fun run hrun => (isPresent_iff.mp (hshown run hrun)).2
  have hnot : ¬ NotShown cohort := by
    intro h
    obtain ⟨run, rest, rfl⟩ := List.exists_cons_of_ne_nil hne
    have hrun := hshown run List.mem_cons_self
    rw [(h run List.mem_cons_self).1] at hrun
    cases hrun
  rw [hassess]
  by_cases hone : OneIntent cohort
  · rw [if_neg ((allShow_iff hne hintent).mpr hone)]
    by_cases hsame : OneDecision cohort
    · rw [if_neg ((allShow_iff hne hdecision).mpr hsame)]
      exact ⟨observedOnce_iff.mp honce, hone, hsame⟩
    · rw [if_pos (not_not.mp (fun h => hsame ((allShow_iff hne hdecision).mp h)))]
      refine ⟨observedOnce_iff.mp honce, hone, hdecision, ?_⟩
      -- if no two decisions differ, all are one
      by_contra hdiffer
      push Not at hdiffer
      refine hsame ((allShow_iff hne hdecision).mp (one_value_iff.mpr ?_))
      intro x hx y hy
      obtain ⟨run, hrun, rfl⟩ := List.mem_map.mp hx
      obtain ⟨other, hother, rfl⟩ := List.mem_map.mp hy
      exact hdiffer run hrun other hother
  · rw [if_pos (not_not.mp (fun h => hone ((allShow_iff hne hintent).mp h)))]
    exact fun _ => ⟨hnot, fun h => hone h.1⟩

/-- Some runs show an intent with a decision and some do not. -/
theorem assess_mixed {shown missing : CompanyRunMetrics U} (hshown : shown ∈ cohort)
    (hmissing : missing ∈ cohort) (hyes : shown.isPresent = true)
    (hno : missing.isPresent = false) :
    Belongs expected cohort (assessCohort expected cohort) := by
  have hsome : cohort.filter (·.isPresent) ≠ [] := by
    rw [Ne, List.filter_eq_nil_iff]
    exact fun h => h shown hshown hyes
  have hother : cohort.filter (fun run => !run.isPresent) ≠ [] := by
    rw [Ne, List.filter_eq_nil_iff]
    exact fun h => h missing hmissing (by simp [hno])
  have hassess : assessCohort expected cohort = .incomplete := by
    unfold assessCohort
    simp only [if_neg hsome, if_pos hother, ite_self]
  rw [hassess]
  intro _
  constructor
  · intro h
    rw [(h shown hshown).1] at hyes
    cases hyes
  · rintro ⟨hone, hdecided⟩
    have hpresent : present missing.observed_decision = true := by
      rcases hdecided with hsame | hdiffer
      · exact hsame.present hmissing
      · exact hdiffer.1 missing hmissing
    rw [isPresent_iff.mpr ⟨hone.present hmissing, hpresent⟩] at hno
    cases hno

/-- The outcome of a case says what its runs show. -/
theorem assessCohort_belongs (hne : cohort ≠ []) :
    Belongs expected cohort (assessCohort expected cohort) := by
  by_cases honce : (cohort.map (·.model_route)).Perm expected
  · by_cases hshown : ∀ run ∈ cohort, run.isPresent = true
    · exact assess_shown hne honce hshown
    · push Not at hshown
      obtain ⟨missing, hmissing, hno⟩ := hshown
      by_cases hnone : ∀ run ∈ cohort, run.isPresent = false
      · exact assess_missing hne honce hnone
      · push Not at hnone
        obtain ⟨shown, hshown, hyes⟩ := hnone
        exact assess_mixed hshown hmissing (by simpa using hyes) (by simpa using hno)
  · have hassess : assessCohort expected cohort = .incomplete := by
      unfold assessCohort
      rw [if_pos honce]
    rw [hassess]
    exact fun h => absurd (observedOnce_iff.mpr h) honce

theorem assessCohort_iff (hne : cohort ≠ []) {outcome : CohortOutcome} :
    assessCohort expected cohort = outcome ↔ Belongs expected cohort outcome := by
  constructor
  · intro h
    exact h ▸ assessCohort_belongs hne
  · intro h
    exact belongs_unique hne (assessCohort_belongs hne) h

end outcomes

/-! ## Section 3: The law of the counts -/

/-- The cases with an outcome. -/
def casesWith (expected : List String) (runs : List (CompanyRunMetrics U))
    (outcome : CohortOutcome) : List String :=
  (caseIds runs).filter fun case_id => assessCohort expected (cohortOf runs case_id) = outcome

/-- A list is put together again from the parts of its four outcomes. -/
theorem outcomes_perm (outcomeOf : String → CohortOutcome) (l : List String) :
    (l.filter (outcomeOf · = .divergent) ++ l.filter (outcomeOf · = .incomplete) ++
      l.filter (outcomeOf · = .notApplicable) ++ l.filter (outcomeOf · = .comparable)).Perm l := by
  rw [List.perm_iff_count]
  intro x
  -- `x` is only in the part of its own outcome
  have hpart : ∀ outcome : CohortOutcome,
      (l.filter (outcomeOf · = outcome)).count x =
        if outcomeOf x = outcome then l.count x else 0 := by
    intro outcome
    by_cases hsame : outcomeOf x = outcome
    · rw [if_pos hsame, List.count_filter (by simpa using hsame)]
    · rw [if_neg hsame, List.count_eq_zero]
      intro hmem
      exact hsame (by simpa using (List.mem_filter.mp hmem).2)
  rw [List.count_append, List.count_append, List.count_append, hpart, hpart, hpart, hpart]
  rcases outcomeOf x with _ | _ | _ | _ <;> simp

section law
variable (expected : List String) (runs : List (CompanyRunMetrics U))

theorem count_casesWith (outcome : CohortOutcome) :
    ((caseIds runs).map fun case_id => assessCohort expected (cohortOf runs case_id)).count
      outcome = (casesWith expected runs outcome).length := by
  unfold casesWith
  rw [List.count, List.countP_map, List.countP_eq_length_filter]
  have hfilter : (caseIds runs).filter ((· == outcome) ∘ fun case_id =>
      assessCohort expected (cohortOf runs case_id)) =
      (caseIds runs).filter fun case_id =>
        assessCohort expected (cohortOf runs case_id) = outcome := by
    apply List.filter_congr
    intro case_id _
    exact beq_eq_decide _ _
  rw [hfilter]

theorem assessRouteInvariance_eq :
    assessRouteInvariance expected runs =
      { decision_divergence_count := (casesWith expected runs .divergent).length
        incomplete_comparison_count := (casesWith expected runs .incomplete).length
        not_applicable_count := (casesWith expected runs .notApplicable).length } := by
  rw [← count_casesWith, ← count_casesWith, ← count_casesWith]
  rfl

theorem nodup_casesWith (outcome : CohortOutcome) : (casesWith expected runs outcome).Nodup :=
  (List.nodup_dedup _).filter _

theorem mem_casesWith {case_id : String} {outcome : CohortOutcome} :
    case_id ∈ casesWith expected runs outcome ↔
      case_id ∈ caseIds runs ∧ Belongs expected (cohortOf runs case_id) outcome := by
  unfold casesWith
  rw [List.mem_filter, decide_eq_true_iff]
  apply and_congr_right
  intro hcase
  exact assessCohort_iff (fun hnil => cohortOf_eq_nil.mp hnil hcase)

end law

/-- The route assessment of some runs, as the counts of a partition of their cases. -/
structure RoutesLaw (expected : List String) (runs : List (CompanyRunMetrics U)) : Prop where
  /-- The loops of the source compute it. -/
  loops : assessLoop expected runs = assessRouteInvariance expected runs
  /-- The order of the runs does not matter. -/
  order : ∀ runs', runs.Perm runs' →
    assessRouteInvariance expected runs' = assessRouteInvariance expected runs
  /-- Each case is counted in one of three classes, or compares well. -/
  counts : ∃ cases : CohortOutcome → List String,
    (cases .divergent ++ cases .incomplete ++ cases .notApplicable ++ cases .comparable).Perm
      (caseIds runs) ∧
    (∀ outcome, ∀ case_id ∈ cases outcome,
      Belongs expected (cohortOf runs case_id) outcome) ∧
    assessRouteInvariance expected runs =
      { decision_divergence_count := (cases .divergent).length
        incomplete_comparison_count := (cases .incomplete).length
        not_applicable_count := (cases .notApplicable).length }
  /-- Nothing diverges or lacks a comparison. -/
  agree : RoutesAgree (assessRouteInvariance expected runs) ↔
    ∀ case_id ∈ caseIds runs,
      ObservedOnce expected (cohortOf runs case_id) ∧
        (OneIntent (cohortOf runs case_id) ∧ OneDecision (cohortOf runs case_id) ∨
          NotShown (cohortOf runs case_id))

section law
variable {expected : List String} {runs runs' : List (CompanyRunMetrics U)}

theorem ObservedOnce.perm {cohort cohort' : List (CompanyRunMetrics U)}
    (hperm : cohort.Perm cohort') :
    ObservedOnce expected cohort ↔ ObservedOnce expected cohort' := by
  apply forall_congr'
  intro route
  rw [(hperm.filter _).length_eq]

theorem AllShow.perm {field : CompanyRunMetrics U → Option String}
    {cohort cohort' : List (CompanyRunMetrics U)} (hperm : cohort.Perm cohort') :
    AllShow field cohort ↔ AllShow field cohort' := by
  unfold AllShow
  simp only [hperm.mem_iff]

/-- What an outcome says does not depend on the order of the runs. -/
theorem Belongs.perm {cohort cohort' : List (CompanyRunMetrics U)} (hperm : cohort.Perm cohort')
    {outcome : CohortOutcome} :
    Belongs expected cohort outcome ↔ Belongs expected cohort' outcome := by
  have honce := @ObservedOnce.perm U expected cohort cohort' hperm
  have hintent : OneIntent cohort ↔ OneIntent cohort' := AllShow.perm hperm
  have hdecision : OneDecision cohort ↔ OneDecision cohort' := AllShow.perm hperm
  have hdiverging : Diverging cohort ↔ Diverging cohort' := by
    unfold Diverging
    simp only [hperm.mem_iff]
  have hnot : NotShown cohort ↔ NotShown cohort' := by
    unfold NotShown
    simp only [hperm.mem_iff]
  cases outcome with
  | comparable => exact and_congr honce (and_congr hintent hdecision)
  | divergent => exact and_congr honce (and_congr hintent hdiverging)
  | notApplicable => exact and_congr honce hnot
  | incomplete => simp only [Belongs, honce, hintent, hdecision, hdiverging, hnot]

theorem caseIds_perm (hperm : runs.Perm runs') : (caseIds runs).Perm (caseIds runs') :=
  (hperm.map _).dedup

theorem assessRouteInvariance_perm (hperm : runs.Perm runs') :
    assessRouteInvariance expected runs' = assessRouteInvariance expected runs := by
  have hlength : ∀ outcome, (casesWith expected runs' outcome).length =
      (casesWith expected runs outcome).length := by
    intro outcome
    apply List.Perm.length_eq
    refine (List.perm_ext_iff_of_nodup (nodup_casesWith expected runs' outcome)
      (nodup_casesWith expected runs outcome)).mpr ?_
    intro case_id
    rw [mem_casesWith, mem_casesWith, (caseIds_perm hperm).mem_iff]
    exact and_congr_right fun _ => (Belongs.perm (hperm.filter _)).symm
  rw [assessRouteInvariance_eq, assessRouteInvariance_eq, hlength, hlength, hlength]

theorem routesAgree_iff :
    RoutesAgree (assessRouteInvariance expected runs) ↔
      ∀ case_id ∈ caseIds runs,
        ObservedOnce expected (cohortOf runs case_id) ∧
          (OneIntent (cohortOf runs case_id) ∧ OneDecision (cohortOf runs case_id) ∨
            NotShown (cohortOf runs case_id)) := by
  have hagree : RoutesAgree (assessRouteInvariance expected runs) ↔
      casesWith expected runs .divergent = [] ∧ casesWith expected runs .incomplete = [] := by
    rw [assessRouteInvariance_eq]
    exact and_congr List.length_eq_zero_iff List.length_eq_zero_iff
  have hcase : ∀ case_id ∈ caseIds runs, cohortOf runs case_id ≠ [] :=
    fun case_id hmem hnil => cohortOf_eq_nil.mp hnil hmem
  rw [hagree, List.eq_nil_iff_forall_not_mem, List.eq_nil_iff_forall_not_mem]
  constructor
  · rintro ⟨hdivergent, hincomplete⟩ case_id hmem
    have hbelongs := @assessCohort_belongs U expected _ (hcase case_id hmem)
    rcases houtcome : assessCohort expected (cohortOf runs case_id) with _ | _ | _ | _
    · rw [houtcome] at hbelongs
      exact absurd ((mem_casesWith expected runs).mpr ⟨hmem, hbelongs⟩) (hdivergent case_id)
    · rw [houtcome] at hbelongs
      exact absurd ((mem_casesWith expected runs).mpr ⟨hmem, hbelongs⟩) (hincomplete case_id)
    · rw [houtcome] at hbelongs
      exact ⟨hbelongs.1, Or.inr hbelongs.2⟩
    · rw [houtcome] at hbelongs
      exact ⟨hbelongs.1, Or.inl hbelongs.2⟩
  · intro hall
    -- a case in either class would have two outcomes
    have hgood : ∀ case_id ∈ caseIds runs, ∃ outcome, (outcome = .comparable ∨
        outcome = .notApplicable) ∧ Belongs expected (cohortOf runs case_id) outcome := by
      intro case_id hmem
      obtain ⟨honce, hsame | hnot⟩ := hall case_id hmem
      · exact ⟨.comparable, Or.inl rfl, honce, hsame⟩
      · exact ⟨.notApplicable, Or.inr rfl, honce, hnot⟩
    constructor
    all_goals
      intro case_id hin
      obtain ⟨hmem, hbelongs⟩ := (mem_casesWith expected runs).mp hin
      obtain ⟨outcome, houtcome, hgood⟩ := hgood case_id hmem
      obtain rfl := belongs_unique (hcase case_id hmem) hbelongs hgood
      simp at houtcome

end law

/-- **Route invariance**: the counts partition the cases whatever the order of the
    runs, and none is bad exactly when each case was observed once on each expected
    route, with one intent and one decision or with none that was due. -/
theorem assessRouteInvariance_law (expected : List String) (runs : List (CompanyRunMetrics U)) :
    RoutesLaw expected runs where
  loops := assessLoop_eq expected runs
  order _ hperm := assessRouteInvariance_perm hperm
  counts := ⟨casesWith expected runs, outcomes_perm _ _,
    fun _ _ hmem => ((mem_casesWith expected runs).mp hmem).2,
    assessRouteInvariance_eq expected runs⟩
  agree := routesAgree_iff

end CBrain

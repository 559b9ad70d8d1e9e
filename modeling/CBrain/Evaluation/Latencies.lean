import CBrain.Evaluation.CostComparison
import CBrain.Evaluation.ReleaseGates
import CBrain.Framework.OrderStatistics

/-! # The p95 latency

    Models what the two suites report as `p95_latency_ms`
    (`AgentSuiteMetrics.aggregate` of `cbrain/evaluation/agent_harness.py`,
    `CompanySuiteMetrics.aggregate` of `cbrain/evaluation/company_harness.py`).

    * `P95Law`  : the reported latency was observed, and 95 percent of the
      observed ones are at most as large.
    * `Ranked`  : when the index that the code computes is high enough.

    The factor 0.95 is the fraction 19/20 here. -/

namespace CBrain

open Double (NonNegative)
open List (sortBy)

/-! ## Section 1: Suites -/

/-- `AgentRunMetrics` with its latencies, which the cost comparison does not
    read. -/
structure TimedAgentRun extends AgentRunMetrics where
  latencies_ms : List Double

/-- `AgentSuiteMetrics` of such runs. -/
structure TimedAgentSuite where
  runs : List TimedAgentRun

/-- `CompanyRunMetrics` with its latencies, which the gates do not read. -/
structure TimedCompanyRun (U : Type) extends CompanyRunMetrics U where
  latencies_ms : List Double

/-- `CompanySuiteMetrics` of such runs. -/
structure TimedCompanySuite (U : Type) where
  runs : List (TimedCompanyRun U)

/-- The latencies that `value >= 0` keeps. -/
def countedLatencies (observed : List Double) : List NonNegative :=
  observed.filterMap fun value => if h : 0 ≤ value then some ⟨value, h⟩ else none

/-- `int(0.95 * (count - 1))`. -/
def p95Index (count : Nat) : Nat := 19 * (count - 1) / 20

/-- The entry of the sorted latencies that is reported. -/
def p95Of (latencies : List NonNegative) : Option Double :=
  let latencies_sorted := sortBy id latencies
  if latencies_sorted = [] then none
  else latencies_sorted[p95Index latencies_sorted.length]?.map (·.value)

namespace TimedAgentSuite

/-- The latencies of all runs. -/
def observed (suite : TimedAgentSuite) : List Double := suite.runs.flatMap (·.latencies_ms)

/-- `aggregate(...)["p95_latency_ms"]`. -/
def p95LatencyMs (suite : TimedAgentSuite) : Option Double :=
  p95Of (countedLatencies suite.observed)

end TimedAgentSuite

namespace TimedCompanySuite
variable {U : Type}

/-- The latencies of all runs. -/
def observed (suite : TimedCompanySuite U) : List Double := suite.runs.flatMap (·.latencies_ms)

/-- `aggregate(...)["p95_latency_ms"]`. -/
def p95LatencyMs (suite : TimedCompanySuite U) : Option Double :=
  p95Of (countedLatencies suite.observed)

end TimedCompanySuite

/-! ## Section 2: The law and its condition -/

/-- The number of non-negative latencies. -/
def counted (observed : List Double) : Nat := observed.countP fun x => decide (0 ≤ x)

/-- What a 95th percentile is: a non-negative latency that was observed, with
    at least 95 percent of the non-negative ones at most as large. -/
def P95Law (observed : List Double) (reported : Option Double) : Prop :=
  ∃ value ∈ observed, 0 ≤ value ∧ reported = some value ∧
    19 * counted observed ≤ 20 * observed.countP fun x => decide (0 ≤ x ∧ x ≤ value)

/-- One latency stands on both sides of the 95 percent mark: at most one in
    twenty are above it, and with it there are two more. -/
def TiedAtMark (observed : List Double) : Prop :=
  ∃ t ∈ observed, 0 ≤ t ∧
    (observed.countP fun x => decide (t < x)) ≤ counted observed / 20 ∧
    counted observed / 20 + 2 ≤ observed.countP fun x => decide (t ≤ x)

/-- The samples are a multiple of twenty, or one more, or tied at the mark. -/
def Ranked (observed : List Double) : Prop := counted observed % 20 ≤ 1 ∨ TiedAtMark observed

/-! ## Section 3: The rank that is reported -/

section ranks

variable {A : Type} [LinearOrder A] {l : List A}

theorem p95Index_lt {n : Nat} (hn : 0 < n) : p95Index n < n := by
  unfold p95Index
  omega

/-- The mark: a rank from which on 95 percent are covered. -/
theorem covers_iff {n covered : Nat} : 19 * n ≤ 20 * covered ↔ n - n / 20 ≤ covered := by
  omega

/-- The index reaches the mark, or is one short of it. -/
theorem p95Index_succ {n : Nat} (hn : 0 < n) :
    p95Index n + (if n % 20 ≤ 1 then 1 else 2) = n - n / 20 := by
  unfold p95Index
  split <;> omega

/-- **Rank law of the report**: 95 percent are at most the sorted entry at the
    index exactly when the count is right or the entry is tied at the mark. -/
theorem covered_iff {entry : A} (hentry : (sortBy id l)[p95Index l.length]? = some entry) :
    19 * l.length ≤ 20 * (l.countP fun a => decide (a ≤ entry)) ↔
      l.length % 20 ≤ 1 ∨ ∃ t ∈ l, (l.countP fun a => decide (t < a)) ≤ l.length / 20 ∧
        l.length / 20 + 2 ≤ l.countP fun a => decide (t ≤ a) := by
  obtain ⟨hindex, rfl⟩ := List.getElem?_eq_some_iff.mp hentry
  have hlength : (sortBy id l).length = l.length := List.length_sortBy id l
  have hsucc := p95Index_succ (n := l.length) (by omega)
  rw [covers_iff]
  by_cases hcount : l.length % 20 ≤ 1
  · rw [if_pos hcount] at hsucc
    -- The entry itself and those before it reach the mark.
    have hself := (List.sortBy_le_iff hindex).mp le_rfl
    exact iff_of_true (by omega) (Or.inl hcount)
  rw [if_neg hcount, or_iff_right hcount] at *
  have hnext : p95Index l.length + 1 < (sortBy id l).length := by omega
  have hmark := List.sortBy_le_iff (v := (sortBy id l)[p95Index l.length]) hnext
  constructor
  · intro hcovered
    have hle := hmark.mpr (by omega)
    refine ⟨(sortBy id l)[p95Index l.length], List.mem_sortBy.mp (List.getElem_mem hindex), ?_, ?_⟩
    · have := List.countP_lt_add_countP_le l (sortBy id l)[p95Index l.length]
      omega
    · -- The entry is not above itself.
      have hbelow := (List.sortBy_lt_iff (v := (sortBy id l)[p95Index l.length]) hindex).not.mp
        (lt_irrefl _)
      have := List.countP_lt_add_countP_ge l (sortBy id l)[p95Index l.length]
      omega
  · rintro ⟨t, -, habove, hfrom⟩
    have hat := List.countP_lt_add_countP_le l t
    have hge := List.countP_lt_add_countP_ge l t
    -- The tied value lies between the entry and the next one.
    have hnextle : (sortBy id l)[p95Index l.length + 1] ≤ t :=
      (List.sortBy_le_iff hnext).mpr (by omega)
    have hlet : t ≤ (sortBy id l)[p95Index l.length] := by
      apply not_lt.mp
      rw [List.sortBy_lt_iff hindex]
      omega
    have := hmark.mp (hnextle.trans hlet)
    omega

end ranks

/-! ## Section 4: What is counted -/

theorem length_countedLatencies (observed : List Double) :
    (countedLatencies observed).length = counted observed := by
  unfold countedLatencies counted
  rw [List.length_filterMap_eq_countP]
  apply List.countP_congr
  intro x _
  by_cases hx : 0 ≤ x <;> simp [hx]

theorem mem_countedLatencies {observed : List Double} {a : NonNegative} :
    a ∈ countedLatencies observed ↔ a.value ∈ observed := by
  unfold countedLatencies
  rw [List.mem_filterMap]
  constructor
  · rintro ⟨x, hx, hsome⟩
    by_cases hnonneg : 0 ≤ x
    · rw [dif_pos hnonneg] at hsome
      cases hsome
      exact hx
    · rw [dif_neg hnonneg] at hsome
      cases hsome
  · intro hmem
    exact ⟨a.value, hmem, dif_pos a.nonneg⟩

/-- A count over the kept latencies is one over the observed ones. -/
theorem countP_countedLatencies (observed : List Double) (p : Double → Prop) [DecidablePred p] :
    (countedLatencies observed).countP (fun a => decide (p a.value)) =
      observed.countP fun x => decide (0 ≤ x ∧ p x) := by
  unfold countedLatencies
  rw [List.countP_filterMap]
  apply List.countP_congr
  intro x _
  by_cases hx : 0 ≤ x <;> simp [hx]


/-- Values that are at least a non-negative one are kept. -/
theorem countP_from {observed : List Double} (t : NonNegative) {p : Double → Prop}
    [DecidablePred p] (hp : ∀ x, p x → t.value ≤ x) :
    (countedLatencies observed).countP (fun a => decide (p a.value)) =
      observed.countP fun x => decide (p x) := by
  rw [countP_countedLatencies]
  apply List.countP_congr
  intro x _
  have hkept : p x → 0 ≤ x := fun hx => Double.le_trans t.nonneg (hp x hx)
  simpa using hkept

theorem tiedAtMark_iff (observed : List Double) :
    TiedAtMark observed ↔ ∃ t ∈ countedLatencies observed,
      ((countedLatencies observed).countP fun a => decide (t < a)) ≤ counted observed / 20 ∧
      counted observed / 20 + 2 ≤ (countedLatencies observed).countP fun a => decide (t ≤ a) := by
  have habove : ∀ t : NonNegative, (countedLatencies observed).countP (fun a => decide (t < a)) =
      observed.countP fun x => decide (t.value < x) :=
    fun t => countP_from t (p := fun x => t.value < x) fun _ hlt => hlt.1
  have hfrom : ∀ t : NonNegative, (countedLatencies observed).countP (fun a => decide (t ≤ a)) =
      observed.countP fun x => decide (t.value ≤ x) :=
    fun t => countP_from t (p := fun x => t.value ≤ x) fun _ hle => hle
  constructor
  · rintro ⟨t, ht, hnonneg, htied⟩
    refine ⟨⟨t, hnonneg⟩, mem_countedLatencies.mpr ht, ?_⟩
    rwa [habove, hfrom]
  · rintro ⟨t, ht, htied⟩
    rw [habove, hfrom] at htied
    exact ⟨t.value, mem_countedLatencies.mp ht, t.nonneg, htied⟩

/-! ## Section 5: The report -/

/-- **What the report is worth**: the law of a percentile holds of the reported
    entry exactly for the latencies whose mark the index reaches. -/
theorem p95Of_law_iff {observed : List Double} (h : ∃ x ∈ observed, 0 ≤ x) :
    P95Law observed (p95Of (countedLatencies observed)) ↔ Ranked observed := by
  obtain ⟨x, hx, hnonneg⟩ := h
  let latencies := countedLatencies observed
  have hmem : (⟨x, hnonneg⟩ : NonNegative) ∈ latencies := mem_countedLatencies.mpr hx
  have hlength : (sortBy id latencies).length = latencies.length := List.length_sortBy id latencies
  -- The entry exists, and it is what is reported.
  have hindex : p95Index latencies.length < (sortBy id latencies).length := by
    rw [hlength]
    exact p95Index_lt (List.length_pos_of_mem hmem)
  obtain ⟨entry, hentry⟩ : ∃ entry, (sortBy id latencies)[p95Index latencies.length]? = some entry :=
    ⟨_, List.getElem?_eq_getElem hindex⟩
  have hmem' : entry ∈ latencies := List.mem_sortBy.mp (List.mem_of_getElem? hentry)
  have hreported : p95Of latencies = some entry.value := by
    have hne : sortBy id latencies ≠ [] := List.ne_nil_of_mem (List.mem_sortBy.mpr hmem)
    unfold p95Of
    simp only
    rw [if_neg hne, hlength, hentry, Option.map_some]
  have hcount : (latencies.countP fun a => decide (a ≤ entry)) =
      observed.countP fun x => decide (0 ≤ x ∧ x ≤ entry.value) :=
    countP_countedLatencies observed fun x => x ≤ entry.value
  have hcovered := covered_iff hentry
  rw [hcount, length_countedLatencies] at hcovered
  unfold Ranked
  rw [tiedAtMark_iff, ← hcovered]
  constructor
  · rintro ⟨value, -, -, hsome, hlaw⟩
    rw [hreported] at hsome
    cases hsome
    exact hlaw
  · intro hlaw
    exact ⟨entry.value, mem_countedLatencies.mp hmem', entry.nonneg, hreported, hlaw⟩

/-- **The p95 latency of both suites**, where some latency is non-negative. -/
theorem p95_law_iff {U : Type} (agents : TimedAgentSuite) (company : TimedCompanySuite U) :
    ((∃ x ∈ agents.observed, 0 ≤ x) →
      (P95Law agents.observed agents.p95LatencyMs ↔ Ranked agents.observed)) ∧
    ((∃ x ∈ company.observed, 0 ≤ x) →
      (P95Law company.observed company.p95LatencyMs ↔ Ranked company.observed)) :=
  ⟨p95Of_law_iff, p95Of_law_iff⟩

/-- An agent suite of one run. -/
def oneAgentRun (latencies_ms : List Double) : TimedAgentSuite :=
  ⟨[{ success := true, safety_violation := false, usage_records := [], latencies_ms }]⟩

/-- A company suite of one run. -/
def oneCompanyRun (latencies_ms : List Double) : TimedCompanySuite Unit :=
  ⟨[{ toCompanyRunMetrics := surplusRun 0, latencies_ms }]⟩

/-- One millisecond and two. -/
def shortAndLong : List Double := [.ofNat 1 (by decide), .ofNat 2 (by decide)]

/-- Two equal latencies are ranked. -/
theorem p95_law_iff_equal :
    let latencies_ms : List Double := [.ofNat 1 (by decide), .ofNat 1 (by decide)]
    P95Law (oneAgentRun latencies_ms).observed (oneAgentRun latencies_ms).p95LatencyMs ∧
      P95Law (oneCompanyRun latencies_ms).observed (oneCompanyRun latencies_ms).p95LatencyMs := by
  intro latencies_ms
  have hlaw := p95_law_iff (oneAgentRun latencies_ms) (oneCompanyRun latencies_ms)
  have hsome : ∃ x ∈ latencies_ms, 0 ≤ x := ⟨_, List.mem_cons_self, by decide +kernel⟩
  have hranked : Ranked latencies_ms :=
    Or.inr ⟨_, List.mem_cons_self, by decide +kernel, by decide +kernel, by decide +kernel⟩
  exact ⟨(hlaw.1 hsome).mpr hranked, (hlaw.2 hsome).mpr hranked⟩

/-- Of two latencies the smaller one is reported, and only half of them are at
    most as large. -/
theorem p95_of_two :
    (∃ x ∈ (oneAgentRun shortAndLong).observed, 0 ≤ x) ∧
    ¬ P95Law (oneAgentRun shortAndLong).observed (oneAgentRun shortAndLong).p95LatencyMs ∧
    ¬ P95Law (oneCompanyRun shortAndLong).observed (oneCompanyRun shortAndLong).p95LatencyMs := by
  have hreported : p95Of (countedLatencies shortAndLong) = some (.ofNat 1 (by decide)) := by
    decide +kernel
  have hcount : ¬ 19 * counted shortAndLong ≤ 20 * shortAndLong.countP
      fun x => decide (0 ≤ x ∧ x ≤ .ofNat 1 (by decide)) := by
    decide +kernel
  have hlaw : ¬ P95Law shortAndLong (p95Of (countedLatencies shortAndLong)) := by
    rintro ⟨value, -, -, hsome, hcovered⟩
    rw [hreported] at hsome
    cases hsome
    exact hcount hcovered
  exact ⟨⟨_, List.mem_cons_self, by decide +kernel⟩, hlaw, hlaw⟩

end CBrain

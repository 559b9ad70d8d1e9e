import CBrain.Contracts
import CBrain.Framework.Double
import CBrain.Framework.PyDecimalArithmetic

/-! # Comparing the cost of two configurations

    Models the costs of token usage (`cbrain/evaluation/cost.py`, with the
    catalog of `cbrain/evaluation/pricing.py` and the totals of
    `cbrain/models/usage.py`), what `AgentSuiteMetrics.aggregate` makes of
    them, and `compare_configurations` (`cbrain/evaluation/agent_harness.py`).

    Of a run, only what the comparison reads is kept.  Rates are floats, and
    costs are decimals in the default context, which traps what has no
    result. -/

namespace CBrain

/-- What `decimal` traps: `InvalidOperation`, `DivisionByZero` or `Overflow`. -/
def decimalSignal : Exn := ⟨.other, "ArithmeticError", []⟩

/-- The result of an operation on decimals, or the signal. -/
def computed (result : Option PyDecimal) : Raises PyDecimal :=
  match result with
  | some x => .ok x
  | none => .error decimalSignal

theorem computed_ok {result : Option PyDecimal} {x : PyDecimal} :
    computed result = .ok x ↔ result = some x := by
  cases result with
  | none => simp [computed]
  | some y => simp [computed]

/-! ## Section 1: Usage and prices -/

/-- `UsageSource`. -/
inductive UsageSource where
  | providerReported
  | estimated
  | unknown
  deriving DecidableEq, Repr

/-- `TokenUsage`. -/
structure TokenUsage where
  provider : String
  model : String
  source : UsageSource
  input_tokens : Option Nat := none
  cached_input_tokens : Option Nat := none
  output_tokens : Option Nat := none
  reasoning_tokens : Option Nat := none
  total_tokens : Option Nat := none
  provider_text : nonBlank provider = true
  model_text : nonBlank model = true
  unknown_empty : source = .unknown →
    input_tokens = none ∧ cached_input_tokens = none ∧ output_tokens = none ∧
      reasoning_tokens = none ∧ total_tokens = none
  reported_tokens : source = .providerReported → input_tokens ≠ none ∨ output_tokens ≠ none

/-- `aggregate_usage`: the total of tokens. -/
def totalTokens (records : List TokenUsage) : Nat :=
  (records.map fun record =>
    match record.source with
    | .unknown => 0
    | _ => record.total_tokens.getD (record.input_tokens.getD 0 +
        record.cached_input_tokens.getD 0 + record.output_tokens.getD 0 +
        record.reasoning_tokens.getD 0)).sum

/-- `ReasoningTokenTreatment`. -/
inductive ReasoningTokenTreatment where
  | billAsOutput
  | billSeparately
  | ignore
  deriving DecidableEq, Repr

/-- `ModelPricing`, as `_parse_entry` accepts it. -/
structure ModelPricing where
  provider : String
  model : String
  currency : String
  input_price_per_million : PyDecimal
  cached_input_price_per_million : PyDecimal
  output_price_per_million : PyDecimal
  reasoning_price_per_million : PyDecimal
  reasoning_token_treatment : ReasoningTokenTreatment
  source_url : String
  prices_nonneg : ∀ price ∈ [input_price_per_million, cached_input_price_per_million,
    output_price_per_million, reasoning_price_per_million],
      price.lt? (PyDecimal.ofInt 0) = some false

/-- `PricingCatalog`. -/
structure PricingCatalog where
  entries : List ModelPricing

/-- `PricingCatalog.lookup`. -/
def PricingCatalog.lookup (catalog : PricingCatalog) (provider model : String) :
    Option ModelPricing :=
  catalog.entries.find? fun entry => entry.provider == provider && entry.model == model

/-! ## Section 2: Costs -/

/-- The status of a cost. -/
inductive CostStatus where
  | costUnknown
  | partialUnknown
  | zeroInference
  | mixed
  | estimated
  | measured
  deriving DecidableEq, Repr

/-- `cost_is_complete`. -/
def costIsComplete (status : CostStatus) : Bool :=
  status ≠ .partialUnknown ∧ status ≠ .costUnknown

/-- `CostBreakdown`. -/
structure CostBreakdown where
  currency : Option String
  input_cost : Option PyDecimal
  cached_input_cost : Option PyDecimal
  output_cost : Option PyDecimal
  reasoning_cost : Option PyDecimal
  total_cost : Option PyDecimal
  known_cost_subtotal : Option PyDecimal
  status : CostStatus
  pricing_source_url : Option String
  deriving DecidableEq

/-- A breakdown of which nothing is known. -/
def CostBreakdown.unknown (currency pricing_source_url : Option String) : CostBreakdown where
  currency := currency
  input_cost := none
  cached_input_cost := none
  output_cost := none
  reasoning_cost := none
  total_cost := none
  known_cost_subtotal := none
  status := .costUnknown
  pricing_source_url := pricing_source_url

/-- `Decimal("0")`. -/
def decimalZero : PyDecimal := .ofInt 0

/-- `_MILLION`. -/
def million : PyDecimal := .ofInt 1000000

/-- `_line_item`. -/
def lineItem (token_count : Option Nat) (price_per_million : PyDecimal) :
    Raises (Option PyDecimal) :=
  match token_count with
  | none => pure none
  | some count => do
    let share ← computed (PyDecimal.div? (.ofInt count) million)
    let cost ← computed (PyDecimal.mul? share price_per_million)
    pure (some cost)

/-- `_reasoning_cost`. -/
def reasoningCost (usage : TokenUsage) (pricing : ModelPricing) : Raises (Option PyDecimal) :=
  if usage.reasoning_tokens = none ∨ usage.reasoning_tokens = some 0 then pure (some decimalZero)
  else match pricing.reasoning_token_treatment with
    | .ignore => pure (some decimalZero)
    | .billAsOutput => lineItem usage.reasoning_tokens pricing.output_price_per_million
    | .billSeparately => lineItem usage.reasoning_tokens pricing.reasoning_price_per_million

/-- `sum(values, start)`. -/
def sumFrom (start : PyDecimal) (values : List PyDecimal) : Raises PyDecimal :=
  values.foldlM (fun total value => computed (PyDecimal.add? total value)) start

/-- `cost_for_usage`. -/
def costForUsage (usage : TokenUsage) (catalog : PricingCatalog) : Raises CostBreakdown :=
  if usage.source = .unknown then pure (.unknown none none)
  else match catalog.lookup usage.provider usage.model with
    | none => pure (.unknown none none)
    | some pricing =>
      if usage.input_tokens = none ∧ usage.output_tokens = none then
        pure (.unknown (some pricing.currency) (some pricing.source_url))
      else do
        let input_cost ← lineItem usage.input_tokens pricing.input_price_per_million
        let cached_cost ←
          lineItem usage.cached_input_tokens pricing.cached_input_price_per_million
        let output_cost ← lineItem usage.output_tokens pricing.output_price_per_million
        let reasoning_cost ← reasoningCost usage pricing
        let total ← sumFrom decimalZero
          ([input_cost, cached_cost, output_cost, reasoning_cost].filterMap id)
        pure
          { currency := some pricing.currency
            input_cost := input_cost
            cached_input_cost := cached_cost
            output_cost := output_cost
            reasoning_cost := reasoning_cost
            total_cost := some total
            known_cost_subtotal := some total
            status := if usage.source = .providerReported then .measured else .estimated
            pricing_source_url := some pricing.source_url }

/-- The number is zero. -/
def isZero : PyDecimal → Bool
  | .finite _ c _ => c == 0
  | _ => false

/-- `value or Decimal("0")`. -/
def orZero : Option PyDecimal → PyDecimal
  | some x => if isZero x then decimalZero else x
  | none => decimalZero

/-- The variables of the loop of `aggregate_costs`. -/
structure CostTally where
  currency : Option String := none
  input_cost : PyDecimal := decimalZero
  cached_cost : PyDecimal := decimalZero
  output_cost : PyDecimal := decimalZero
  reasoning_cost : PyDecimal := decimalZero
  total_cost : PyDecimal := decimalZero
  has_unknown : Bool := false
  has_estimated : Bool := false
  has_measured : Bool := false
  source_url : Option String := none

/-- The loop of `aggregate_costs`, for one usage. -/
def CostTally.add (catalog : PricingCatalog) (tally : CostTally) (usage : TokenUsage) :
    Raises CostTally := do
  let item ← costForUsage usage catalog
  if item.status = .costUnknown then pure { tally with has_unknown := true }
  else do
    let input_cost ← computed (PyDecimal.add? tally.input_cost (orZero item.input_cost))
    let cached_cost ← computed (PyDecimal.add? tally.cached_cost (orZero item.cached_input_cost))
    let output_cost ← computed (PyDecimal.add? tally.output_cost (orZero item.output_cost))
    let reasoning_cost ←
      computed (PyDecimal.add? tally.reasoning_cost (orZero item.reasoning_cost))
    let total_cost ← computed (PyDecimal.add? tally.total_cost (orZero item.total_cost))
    pure
      { currency := item.currency <|> tally.currency
        input_cost := input_cost
        cached_cost := cached_cost
        output_cost := output_cost
        reasoning_cost := reasoning_cost
        total_cost := total_cost
        has_unknown := tally.has_unknown
        has_estimated := tally.has_estimated || item.status == .estimated
        has_measured := tally.has_measured || item.status == .measured
        source_url :=
          if item.pricing_source_url.getD "" ≠ "" then item.pricing_source_url
          else tally.source_url }

/-- What `aggregate_costs` makes of its variables after the loop. -/
def CostTally.breakdown (tally : CostTally) : CostBreakdown :=
  if tally.has_unknown = true ∧ isZero tally.total_cost = true then
    .unknown tally.currency tally.source_url
  else
    { currency := tally.currency
      input_cost := some tally.input_cost
      cached_input_cost := some tally.cached_cost
      output_cost := some tally.output_cost
      reasoning_cost := some tally.reasoning_cost
      total_cost := if tally.has_unknown then none else some tally.total_cost
      known_cost_subtotal := some tally.total_cost
      status :=
        if tally.has_unknown then .partialUnknown
        else if tally.has_estimated && tally.has_measured then .mixed
        else if tally.has_estimated then .estimated
        else .measured
      pricing_source_url := tally.source_url }

/-- `aggregate_costs`. -/
def aggregateCosts (usages : List TokenUsage) (catalog : PricingCatalog) :
    Raises CostBreakdown :=
  if usages = [] then
    pure
      { currency := none
        input_cost := some decimalZero
        cached_input_cost := some decimalZero
        output_cost := some decimalZero
        reasoning_cost := some decimalZero
        total_cost := some decimalZero
        known_cost_subtotal := some decimalZero
        status := .zeroInference
        pricing_source_url := none }
  else do
    let tally ← usages.foldlM (CostTally.add catalog) {}
    pure tally.breakdown

/-- `cost_per_successful_task`. -/
def costPerSuccessfulTask (total_cost : Option PyDecimal) (successful_tasks : Nat)
    (cost_status : CostStatus) : Raises (Option PyDecimal) :=
  if costIsComplete cost_status = false then pure none
  else match total_cost with
    | none => pure none
    | some total =>
      if successful_tasks = 0 then pure none
      else do
        let cost ← computed (PyDecimal.div? total (.ofInt successful_tasks))
        pure (some cost)

/-- `blended_cost_per_million_tokens`. -/
def blendedCostPerMillionTokens (total_tokens : Nat) (total_cost : Option PyDecimal)
    (cost_status : CostStatus) : Raises (Option PyDecimal) :=
  if costIsComplete cost_status = false then pure none
  else match total_cost with
    | none => pure none
    | some total =>
      if total_tokens = 0 then pure none
      else do
        let cost ← computed (PyDecimal.div? total (.ofInt total_tokens))
        let blended ← computed (PyDecimal.mul? cost million)
        pure (some blended)

/-! ## Section 3: Suites -/

/-- `AgentRunMetrics`, with what the comparison reads. -/
structure AgentRunMetrics where
  success : Bool
  safety_violation : Bool
  usage_records : List TokenUsage

/-- `AgentSuiteMetrics`. -/
structure AgentSuiteMetrics where
  config_name : String
  runs : List AgentRunMetrics

/-- What `aggregate` returns, with what the comparison reads. -/
structure SuiteAggregate where
  config_name : String
  task_success_rate : Double
  safety_violation_rate : Double
  total_cost : CostBreakdown
  cost_data_complete : Bool
  cost_per_run : Option String
  cost_per_successful_task : Option String
  wasted_cost_on_failed_tasks : CostBreakdown
  blended_cost_per_million_tokens : Option String

namespace AgentSuiteMetrics

variable (suite : AgentSuiteMetrics) (catalog : PricingCatalog)

/-- The runs that succeeded. -/
def successful : Nat := suite.runs.countP fun run => run.success

/-- A count over the runs, or zero where there is none. -/
def rate (count : Nat) : Double :=
  if h : 0 < suite.runs.length then Double.ratio count suite.runs.length h else 0

/-- `task_success_rate`. -/
def taskSuccessRate : Double := suite.rate suite.successful

/-- `safety_violation_rate`. -/
def safetyViolationRate : Double := suite.rate (suite.runs.countP fun run => run.safety_violation)

/-- The usage records of all runs. -/
def usageRecords : List TokenUsage := suite.runs.flatMap fun run => run.usage_records

/-- `_divide_cost`. -/
def divideCost (total : Option PyDecimal) (count : Nat) : Raises (Option String) :=
  match total with
  | none => pure none
  | some total =>
    if count = 0 then pure none
    else do
      let cost ← computed (PyDecimal.div? total (.ofInt count))
      pure (some cost.text)

/-- `aggregate`. -/
def aggregate : Raises SuiteAggregate := do
  let total_cost ← aggregateCosts suite.usageRecords catalog
  let failed_cost ← aggregateCosts
    ((suite.runs.filter fun run => !run.success).flatMap fun run => run.usage_records) catalog
  let cost_complete := costIsComplete total_cost.status
  let cost_per_run ←
    if cost_complete then divideCost total_cost.total_cost suite.runs.length else pure none
  let cost_per_success ←
    costPerSuccessfulTask total_cost.total_cost suite.successful total_cost.status
  let blended_cost ← blendedCostPerMillionTokens (totalTokens suite.usageRecords)
    total_cost.total_cost total_cost.status
  pure
    { config_name := suite.config_name
      task_success_rate := suite.taskSuccessRate
      safety_violation_rate := suite.safetyViolationRate
      total_cost := total_cost
      cost_data_complete := cost_complete
      cost_per_run := cost_per_run
      cost_per_successful_task := cost_per_success.map PyDecimal.text
      wasted_cost_on_failed_tasks := failed_cost
      blended_cost_per_million_tokens := blended_cost.map PyDecimal.text }

end AgentSuiteMetrics

/-- `optimization_decision`. -/
inductive OptimizationDecision where
  | indeterminate
  | accepted
  | rejected
  deriving DecidableEq, Repr

/-- What `compare_configurations` returns.  The ratio is written with `str`,
    and `Decimal` reads that back unchanged. -/
structure ConfigurationComparison where
  baseline : SuiteAggregate
  optimized : SuiteAggregate
  cost_per_successful_task_improvement_ratio : Option PyDecimal
  optimization_accepted : Bool
  optimization_decision : OptimizationDecision
  optimization_decision_reason : Option String

/-- `Decimal(text)`. -/
def readDecimal (text : String) : Raises PyDecimal := computed (PyDecimal.ofText text)

/-- `0 < value`, which NaN signals. -/
def isPositive (value : PyDecimal) : Raises Bool :=
  match (PyDecimal.ofInt 0).lt? value with
  | some b => .ok b
  | none => .error decimalSignal

/-- The `improvement` of two costs per successful task, where both are there
    and the first is positive. -/
def improvementRatio (baseline_cps optimized_cps : Option String) : Raises (Option PyDecimal) :=
  match baseline_cps, optimized_cps with
  | some baseline_cps, some optimized_cps =>
    if baseline_cps ≠ "" ∧ optimized_cps ≠ "" then do
      let base ← readDecimal baseline_cps
      let opt ← readDecimal optimized_cps
      if ← isPositive base then do
        let difference ← computed (PyDecimal.sub? base opt)
        let ratio ← computed (PyDecimal.div? difference base)
        pure (some ratio)
      else pure none
    else pure none
  | _, _ => pure none

/-- `compare_configurations`. -/
def compareConfigurations (baseline optimized : AgentSuiteMetrics) (catalog : PricingCatalog) :
    Raises ConfigurationComparison := do
  let baseline_agg ← baseline.aggregate catalog
  let optimized_agg ← optimized.aggregate catalog
  if baseline_agg.cost_data_complete = false ∨ optimized_agg.cost_data_complete = false then
    pure
      { baseline := baseline_agg
        optimized := optimized_agg
        cost_per_successful_task_improvement_ratio := none
        optimization_accepted := false
        optimization_decision := .indeterminate
        optimization_decision_reason := some "incomplete_cost_data" }
  else do
    let improvement ← improvementRatio baseline_agg.cost_per_successful_task
      optimized_agg.cost_per_successful_task
    let cost_improved ←
      match improvement with
      | none => pure true
      | some improvement => isPositive improvement
    let accepted : Bool :=
      optimized_agg.safety_violation_rate ≤ baseline_agg.safety_violation_rate ∧
        baseline_agg.task_success_rate ≤ optimized_agg.task_success_rate ∧
        cost_improved = true
    pure
      { baseline := baseline_agg
        optimized := optimized_agg
        cost_per_successful_task_improvement_ratio := improvement
        optimization_accepted := accepted
        optimization_decision := if accepted then .accepted else .rejected
        optimization_decision_reason :=
          if accepted then none else some "quality_or_cost_regression" }

/-! ## Section 4: Costs are not below zero -/

open PyDecimal (Unsigned)

theorem unsigned_zero : Unsigned decimalZero := Unsigned.ofNat 0

/-- A price is not below zero. -/
theorem ModelPricing.unsigned {pricing : ModelPricing} {price : PyDecimal}
    (h : price ∈ [pricing.input_price_per_million, pricing.cached_input_price_per_million,
      pricing.output_price_per_million, pricing.reasoning_price_per_million]) : Unsigned price :=
  PyDecimal.unsigned_iff.mpr (pricing.prices_nonneg price h)

theorem unsigned_lineItem {token_count : Option Nat} {price cost : PyDecimal}
    (hprice : Unsigned price) (h : lineItem token_count price = .ok (some cost)) :
    Unsigned cost := by
  cases token_count with
  | none => cases h
  | some count =>
    unfold lineItem at h
    simp only [bind_ok, computed_ok, pure_ok, Option.some.injEq] at h
    obtain ⟨share, hshare, _, hcost, rfl⟩ := h
    have hshareUnsigned : Unsigned share := (Unsigned.ofNat count).div hshare
    exact hshareUnsigned.mul hprice hcost

theorem unsigned_reasoningCost {usage : TokenUsage} {pricing : ModelPricing} {cost : PyDecimal}
    (h : reasoningCost usage pricing = .ok (some cost)) : Unsigned cost := by
  unfold reasoningCost at h
  split at h
  · obtain rfl := Option.some.inj (Except.ok.inj h)
    exact unsigned_zero
  split at h
  · obtain rfl := Option.some.inj (Except.ok.inj h)
    exact unsigned_zero
  · exact unsigned_lineItem (pricing.unsigned (by simp)) h
  · exact unsigned_lineItem (pricing.unsigned (by simp)) h

theorem unsigned_sumFrom {values : List PyDecimal} {start total : PyDecimal}
    (hvalues : ∀ x ∈ values, Unsigned x) (hstart : Unsigned start)
    (h : sumFrom start values = .ok total) : Unsigned total := by
  refine foldlM_keeps ?_ h hstart
  intro value hvalue acc next hnext hacc
  exact hacc.add (hvalues value hvalue) (computed_ok.mp hnext)

/-- The total of a usage is not below zero. -/
theorem unsigned_costForUsage {usage : TokenUsage} {catalog : PricingCatalog}
    {item : CostBreakdown} (h : costForUsage usage catalog = .ok item) :
    Unsigned (orZero item.total_cost) := by
  have hunknown : ∀ currency url, Unsigned (orZero (CostBreakdown.unknown currency url).total_cost) :=
    fun _ _ => unsigned_zero
  unfold costForUsage at h
  split at h
  · obtain rfl := Except.ok.inj h
    exact hunknown _ _
  split at h
  · obtain rfl := Except.ok.inj h
    exact hunknown _ _
  split at h
  · obtain rfl := Except.ok.inj h
    exact hunknown _ _
  · rename_i pricing _ _
    simp only [bind_ok, pure_ok] at h
    obtain ⟨input_cost, hinput, cached_cost, hcached, output_cost, houtput, reasoning_cost,
      hreasoning, total, htotal, rfl⟩ := h
    have hvalues : ∀ x ∈ [input_cost, cached_cost, output_cost, reasoning_cost].filterMap id,
        Unsigned x := by
      intro x hx
      simp only [List.mem_filterMap, List.mem_cons, List.not_mem_nil, or_false, id_eq] at hx
      obtain ⟨_, (rfl | rfl | rfl | rfl), rfl⟩ := hx
      · exact unsigned_lineItem (pricing.unsigned (by simp)) hinput
      · exact unsigned_lineItem (pricing.unsigned (by simp)) hcached
      · exact unsigned_lineItem (pricing.unsigned (by simp)) houtput
      · exact unsigned_reasoningCost hreasoning
    have hunsigned := unsigned_sumFrom hvalues unsigned_zero htotal
    show Unsigned (if isZero total then decimalZero else total)
    split
    · exact unsigned_zero
    · exact hunsigned

/-- **Step**: a usage keeps the running total above zero. -/
theorem CostTally.unsigned_add {catalog : PricingCatalog} {tally next : CostTally}
    {usage : TokenUsage} (h : tally.add catalog usage = .ok next)
    (hunsigned : Unsigned tally.total_cost) : Unsigned next.total_cost := by
  unfold CostTally.add at h
  rw [bind_ok] at h
  obtain ⟨item, hitem, h⟩ := h
  split at h
  · obtain rfl := Except.ok.inj h
    exact hunsigned
  · simp only [bind_ok, computed_ok, pure_ok] at h
    obtain ⟨_, _, _, _, _, _, _, _, total, htotal, rfl⟩ := h
    exact hunsigned.add (unsigned_costForUsage hitem) htotal

/-- **Run**: the total over all usages is not below zero. -/
theorem CostTally.unsigned_foldlM {catalog : PricingCatalog} {usages : List TokenUsage}
    {tally final : CostTally} (h : usages.foldlM (CostTally.add catalog) tally = .ok final)
    (hunsigned : Unsigned tally.total_cost) : Unsigned final.total_cost :=
  foldlM_keeps (P := fun tally => Unsigned tally.total_cost)
    (fun _ _ _ _ hadd => CostTally.unsigned_add hadd) h hunsigned

/-- A complete cost has a total, which is not below zero. -/
theorem aggregateCosts_complete {usages : List TokenUsage} {catalog : PricingCatalog}
    {cost : CostBreakdown} (h : aggregateCosts usages catalog = .ok cost)
    (hcomplete : costIsComplete cost.status = true) :
    ∃ total, cost.total_cost = some total ∧ Unsigned total := by
  unfold aggregateCosts at h
  split at h
  · obtain rfl := Except.ok.inj h
    exact ⟨decimalZero, rfl, unsigned_zero⟩
  · simp only [bind_ok, pure_ok] at h
    obtain ⟨tally, htally, rfl⟩ := h
    have hunsigned := CostTally.unsigned_foldlM htally unsigned_zero
    unfold CostTally.breakdown at hcomplete ⊢
    split
    · rename_i hunknown
      rw [if_pos hunknown] at hcomplete
      cases hcomplete
    · rename_i hknown
      rw [if_neg hknown] at hcomplete
      by_cases hunknown : tally.has_unknown = true
      · simp [hunknown, costIsComplete] at hcomplete
      · simp only [hunknown]
        exact ⟨tally.total_cost, rfl, hunsigned⟩

/-! ## Section 5: What makes a configuration acceptable -/

namespace AgentSuiteMetrics

variable (suite : AgentSuiteMetrics) (catalog : PricingCatalog)

/-- The cost of the suite is known in full. -/
def CostComplete : Prop :=
  ∃ cost, aggregateCosts suite.usageRecords catalog = .ok cost ∧ costIsComplete cost.status = true

/-- The suite has a cost per successful task, and this is it. -/
def CostPerSuccess (value : PyDecimal) : Prop :=
  ∃ cost, aggregateCosts suite.usageRecords catalog = .ok cost ∧
    costPerSuccessfulTask cost.total_cost suite.successful cost.status = .ok (some value)

variable {suite : AgentSuiteMetrics} {catalog : PricingCatalog}

/-- What `aggregate` returns is the cost of the suite, and its rates. -/
theorem aggregate_ok {agg : SuiteAggregate} (h : suite.aggregate catalog = .ok agg) :
    ∃ cps, aggregateCosts suite.usageRecords catalog = .ok agg.total_cost ∧
      costPerSuccessfulTask agg.total_cost.total_cost suite.successful agg.total_cost.status =
        .ok cps ∧
      agg.cost_per_successful_task = cps.map PyDecimal.text ∧
      agg.cost_data_complete = costIsComplete agg.total_cost.status ∧
      agg.task_success_rate = suite.taskSuccessRate ∧
      agg.safety_violation_rate = suite.safetyViolationRate := by
  unfold aggregate at h
  rw [bind_ok] at h
  obtain ⟨total_cost, htotal, h⟩ := h
  rw [bind_ok] at h
  obtain ⟨failed_cost, -, h⟩ := h
  dsimp only at h
  split at h
  · simp only [bind_ok] at h
    obtain ⟨per_run, -, cps, hcps, blended, -, h⟩ := h
    obtain rfl := Except.ok.inj h
    exact ⟨cps, htotal, hcps, rfl, rfl, rfl, rfl⟩
  · simp only [bind_ok] at h
    obtain ⟨per_run, -, cps, hcps, blended, -, h⟩ := h
    obtain rfl := Except.ok.inj h
    exact ⟨cps, htotal, hcps, rfl, rfl, rfl, rfl⟩

/-- Of a complete cost, there is a share for each success, where there is one. -/
theorem costPerSuccessfulTask_complete {cost : CostBreakdown} {n : Nat}
    {cps : Option PyDecimal} {usages : List TokenUsage}
    (hcost : aggregateCosts usages catalog = .ok cost)
    (hcomplete : costIsComplete cost.status = true)
    (h : costPerSuccessfulTask cost.total_cost n cost.status = .ok cps) :
    (cps = none ↔ n = 0) ∧ ∀ value, cps = some value → Unsigned value := by
  obtain ⟨total, htotal, hunsigned⟩ := aggregateCosts_complete hcost hcomplete
  unfold costPerSuccessfulTask at h
  rw [if_neg (by rw [hcomplete]; simp), htotal] at h
  simp only at h
  by_cases hn : n = 0
  · rw [if_pos hn] at h
    obtain rfl := Except.ok.inj h
    exact ⟨by simp [hn], by simp⟩
  · rw [if_neg hn] at h
    simp only [bind_ok, computed_ok, pure_ok] at h
    obtain ⟨value, hvalue, rfl⟩ := h
    refine ⟨by simp [hn], ?_⟩
    intro _ hsome
    obtain rfl := Option.some.inj hsome
    exact hunsigned.div hvalue

end AgentSuiteMetrics

theorem isPositive_ok {value : PyDecimal} {b : Bool} :
    isPositive value = .ok b ↔ (PyDecimal.ofInt 0).lt? value = some b := by
  unfold isPositive
  cases h : (PyDecimal.ofInt 0).lt? value with
  | none => simp
  | some c => simp

theorem text_ne_empty (x : PyDecimal) : x.text ≠ "" := by
  intro h
  obtain ⟨y, hread, -⟩ := PyDecimal.ofText_text x
  rw [h] at hread
  have hnone : PyDecimal.ofText "" = none := by decide +kernel
  rw [hnone] at hread
  cases hread

/-- A cost is read back from its text. -/
theorem readDecimal_text {x y : PyDecimal} (h : readDecimal x.text = .ok y) :
    PyDecimal.Same y x := by
  obtain ⟨z, hread, hsame⟩ := PyDecimal.ofText_text x
  obtain rfl : z = y := Option.some.inj (hread.symm.trans (computed_ok.mp h))
  exact hsame

theorem isPositive_same {x y : PyDecimal} (h : PyDecimal.Same y x) :
    isPositive y = isPositive x := by
  unfold isPositive
  rw [(PyDecimal.Same.refl (PyDecimal.ofInt 0)).lt h]

/-- What `improvementRatio` does with two costs. -/
theorem improvementRatio_ok {b o : PyDecimal} {improvement : Option PyDecimal}
    (h : improvementRatio (some b.text) (some o.text) = .ok improvement) :
    (isPositive b = .ok false ∧ improvement = none) ∨
    (isPositive b = .ok true ∧ ∃ b' o' d q, PyDecimal.Same b' b ∧ PyDecimal.Same o' o ∧
      PyDecimal.sub? b' o' = some d ∧ PyDecimal.div? d b' = some q ∧ improvement = some q) := by
  unfold improvementRatio at h
  simp only at h
  rw [if_pos ⟨text_ne_empty b, text_ne_empty o⟩, bind_ok] at h
  obtain ⟨b', hb, h⟩ := h
  rw [bind_ok] at h
  obtain ⟨o', ho, h⟩ := h
  rw [bind_ok] at h
  obtain ⟨positive, hpositive, h⟩ := h
  rw [isPositive_same (readDecimal_text hb)] at hpositive
  cases positive
  · exact Or.inl ⟨hpositive, (Except.ok.inj h).symm⟩
  · simp only [if_true, bind_ok, pure_ok, computed_ok] at h
    obtain ⟨d, hd, q, hq, rfl⟩ := h
    exact Or.inr ⟨hpositive, b', o', d, q, readDecimal_text hb, readDecimal_text ho, hd, hq, rfl⟩

/-- The two costs are compared where both are there and the baseline's is
    positive. -/
theorem improvementRatio_none {b o improvement : Option PyDecimal}
    (h : improvementRatio (b.map PyDecimal.text) (o.map PyDecimal.text) = .ok improvement) :
    improvement = none ↔
      b = none ∨ o = none ∨ ∃ x, b = some x ∧ isPositive x ≠ .ok true := by
  cases b with
  | none =>
    obtain rfl := Except.ok.inj h
    simp
  | some b =>
    cases o with
    | none =>
      obtain rfl := Except.ok.inj h
      simp
    | some o =>
      rcases improvementRatio_ok h with ⟨hpositive, rfl⟩ | ⟨hpositive, _, _, _, _, -, -, -, -, rfl⟩
      · simp [hpositive]
      · simp [hpositive]

/-- An improvement above zero is a lower cost. -/
theorem lt_of_improvementRatio {b o q : PyDecimal}
    (h : improvementRatio (some b.text) (some o.text) = .ok (some q))
    (hpos : isPositive q = .ok true) : o.lt? b = some true := by
  rcases improvementRatio_ok h with ⟨-, hnone⟩ | ⟨hb, b', o', d, _, hbsame, hosame, hd, hq, hsome⟩
  · cases hnone
  · obtain rfl := Option.some.inj hsome
    rw [← isPositive_same hbsame] at hb
    rw [← hosame.lt hbsame]
    exact PyDecimal.lt_of_share (isPositive_ok.mp hb) hd hq (isPositive_ok.mp hpos)

/-- What `compare_configurations` decides, of the costs that are complete. -/
theorem compareConfigurations_ok {baseline optimized : AgentSuiteMetrics}
    {catalog : PricingCatalog} {r : ConfigurationComparison}
    (h : compareConfigurations baseline optimized catalog = .ok r) :
    ∃ b o, baseline.aggregate catalog = .ok b ∧ optimized.aggregate catalog = .ok o ∧
      (r.optimization_accepted = true →
        b.cost_data_complete = true ∧ o.cost_data_complete = true) ∧
      (b.cost_data_complete = true → o.cost_data_complete = true →
        ∃ improvement,
          improvementRatio b.cost_per_successful_task o.cost_per_successful_task =
            .ok improvement ∧
          (r.optimization_accepted = true ↔
            optimized.safetyViolationRate ≤ baseline.safetyViolationRate ∧
            baseline.taskSuccessRate ≤ optimized.taskSuccessRate ∧
            ∀ q, improvement = some q → isPositive q = .ok true)) := by
  unfold compareConfigurations at h
  rw [bind_ok] at h
  obtain ⟨b, hb, h⟩ := h
  rw [bind_ok] at h
  obtain ⟨o, ho, h⟩ := h
  refine ⟨b, o, hb, ho, ?_⟩
  obtain ⟨-, -, -, -, -, hbsuccess, hbsafety⟩ := AgentSuiteMetrics.aggregate_ok hb
  obtain ⟨-, -, -, -, -, hosuccess, hosafety⟩ := AgentSuiteMetrics.aggregate_ok ho
  split at h
  · -- An incomplete cost decides nothing.
    rename_i hincomplete
    obtain rfl := Except.ok.inj h
    refine ⟨?_, ?_⟩
    · intro haccepted
      cases haccepted
    intro hbc hoc
    simp [hbc, hoc] at hincomplete
  · rename_i hcomplete
    simp only [not_or, Bool.not_eq_false] at hcomplete
    refine ⟨fun _ => hcomplete, fun _ _ => ?_⟩
    rw [bind_ok] at h
    obtain ⟨improvement, himprovement, h⟩ := h
    refine ⟨improvement, himprovement, ?_⟩
    obtain ⟨improved, himp, haccepted⟩ : ∃ improved : Bool,
        (improved = true ↔ ∀ q, improvement = some q → isPositive q = .ok true) ∧
        r.optimization_accepted = decide (o.safety_violation_rate ≤ b.safety_violation_rate ∧
          b.task_success_rate ≤ o.task_success_rate ∧ improved = true) := by
      cases improvement with
      | none =>
        -- Without a ratio, the cost counts as improved.
        obtain rfl := Except.ok.inj h
        exact ⟨true, by simp, rfl⟩
      | some q =>
        simp only [bind_ok] at h
        obtain ⟨improved, hq, h⟩ := h
        obtain rfl := Except.ok.inj h
        exact ⟨improved, by simp [hq], rfl⟩
    rw [haccepted, decide_eq_true_eq, hbsuccess, hbsafety, hosuccess, hosafety, himp]

/-- The optimized configuration is no worse, and costs less for each success. -/
structure LawfulAcceptance (baseline optimized : AgentSuiteMetrics) (catalog : PricingCatalog) :
    Prop where
  baseline_complete : baseline.CostComplete catalog
  optimized_complete : optimized.CostComplete catalog
  safety : optimized.safetyViolationRate ≤ baseline.safetyViolationRate
  success : baseline.taskSuccessRate ≤ optimized.taskSuccessRate
  cost : ∃ b o, baseline.CostPerSuccess catalog b ∧ optimized.CostPerSuccess catalog o ∧
    o.lt? b = some true

/-- Both configurations have a success, and those of the baseline have a cost. -/
def SuccessesCost (baseline optimized : AgentSuiteMetrics) (catalog : PricingCatalog) : Prop :=
  0 < baseline.successful ∧ 0 < optimized.successful ∧
    ∃ b, baseline.CostPerSuccess catalog b ∧ (PyDecimal.ofInt 0).lt? b = some true

theorem AgentSuiteMetrics.CostComplete.of_aggregate {suite : AgentSuiteMetrics}
    {catalog : PricingCatalog} {agg : SuiteAggregate} (h : suite.aggregate catalog = .ok agg) :
    suite.CostComplete catalog ↔ agg.cost_data_complete = true := by
  obtain ⟨_, hcost, -, -, hcomplete, -⟩ := AgentSuiteMetrics.aggregate_ok h
  rw [hcomplete]
  constructor
  · rintro ⟨cost, hcost', hc⟩
    obtain rfl := Except.ok.inj (hcost.symm.trans hcost')
    exact hc
  · exact fun hc => ⟨_, hcost, hc⟩

/-- The cost per success that `aggregate` writes, where the cost is complete. -/
theorem AgentSuiteMetrics.costPerSuccess_of_aggregate {suite : AgentSuiteMetrics}
    {catalog : PricingCatalog} {agg : SuiteAggregate} (h : suite.aggregate catalog = .ok agg)
    (hcomplete : agg.cost_data_complete = true) :
    ∃ cps : Option PyDecimal, agg.cost_per_successful_task = cps.map PyDecimal.text ∧
      (cps = none ↔ suite.successful = 0) ∧
      ∀ value, suite.CostPerSuccess catalog value ↔ cps = some value := by
  obtain ⟨cps, hcost, hcps, htext, hstatus, -⟩ := AgentSuiteMetrics.aggregate_ok h
  have hnone := AgentSuiteMetrics.costPerSuccessfulTask_complete hcost (hstatus ▸ hcomplete) hcps
  refine ⟨cps, htext, hnone.1, ?_⟩
  intro value
  constructor
  · rintro ⟨cost, hcost', hvalue⟩
    obtain rfl := Except.ok.inj (hcost.symm.trans hcost')
    exact Except.ok.inj (hcps.symm.trans hvalue)
  · rintro rfl
    exact ⟨_, hcost, hcps⟩

theorem AgentSuiteMetrics.CostPerSuccess.unsigned {suite : AgentSuiteMetrics}
    {catalog : PricingCatalog} {value : PyDecimal} (h : suite.CostPerSuccess catalog value) :
    Unsigned value := by
  obtain ⟨cost, hcost, hvalue⟩ := h
  have hcomplete : costIsComplete cost.status = true := by
    by_contra hnot
    unfold costPerSuccessfulTask at hvalue
    rw [if_pos (Bool.eq_false_of_not_eq_true hnot)] at hvalue
    cases hvalue
  exact (AgentSuiteMetrics.costPerSuccessfulTask_complete hcost hcomplete hvalue).2 value rfl

/-- An accepted configuration is lawful exactly if a complete comparison of
    suites that are otherwise no worse is one of successes that cost. -/
theorem compareConfigurations_lawful_iff {baseline optimized : AgentSuiteMetrics}
    {catalog : PricingCatalog} {r : ConfigurationComparison}
    (h : compareConfigurations baseline optimized catalog = .ok r) :
    (r.optimization_accepted = true → LawfulAcceptance baseline optimized catalog) ↔
      (baseline.CostComplete catalog → optimized.CostComplete catalog →
        optimized.safetyViolationRate ≤ baseline.safetyViolationRate →
        baseline.taskSuccessRate ≤ optimized.taskSuccessRate →
        SuccessesCost baseline optimized catalog) := by
  obtain ⟨b, o, hb, ho, hcomplete, hdecides⟩ := compareConfigurations_ok h
  rw [AgentSuiteMetrics.CostComplete.of_aggregate hb,
    AgentSuiteMetrics.CostComplete.of_aggregate ho]
  constructor
  · intro hlawful hbc hoc hsafety hsuccess
    obtain ⟨improvement, hratio, haccepted⟩ := hdecides hbc hoc
    obtain ⟨cb, hbtext, hbnone, hbcost⟩ := AgentSuiteMetrics.costPerSuccess_of_aggregate hb hbc
    obtain ⟨co, hotext, honone, hocost⟩ := AgentSuiteMetrics.costPerSuccess_of_aggregate ho hoc
    rw [hbtext, hotext] at hratio
    by_contra hnot
    -- The comparison of the costs is skipped.
    have hskipped : improvement = none := by
      rw [improvementRatio_none hratio]
      by_contra hcompared
      simp only [not_or, hbnone, honone, not_exists, not_and, not_not] at hcompared
      obtain ⟨hbpos, hopos, hpositive⟩ := hcompared
      obtain ⟨value, rfl⟩ := Option.ne_none_iff_exists'.mp (fun hn => hbpos (hbnone.mp hn))
      exact hnot ⟨by omega, by omega, value, (hbcost value).mpr rfl,
        isPositive_ok.mp (hpositive value rfl)⟩
    subst hskipped
    have hlaw := hlawful (haccepted.mpr ⟨hsafety, hsuccess, by simp⟩)
    obtain ⟨vb, vo, hvb, hvo, hlt⟩ := hlaw.cost
    obtain rfl := (hbcost vb).mp hvb
    obtain rfl := (hocost vo).mp hvo
    have hpositive : (PyDecimal.ofInt 0).lt? vb = some true := by
      by_contra hzero
      exact hvo.unsigned.not_below hvb.unsigned hzero hlt
    simp only [reduceCtorEq, false_iff] at hbnone honone
    exact hnot ⟨by omega, by omega, vb, hvb, hpositive⟩
  · intro hcondition haccepts
    obtain ⟨hbc, hoc⟩ := hcomplete haccepts
    obtain ⟨improvement, hratio, haccepted⟩ := hdecides hbc hoc
    obtain ⟨hsafety, hsuccess, himproved⟩ := haccepted.mp haccepts
    obtain ⟨hbpos, hopos, vb, hvb, hpositive⟩ := hcondition hbc hoc hsafety hsuccess
    obtain ⟨cb, hbtext, hbnone, hbcost⟩ := AgentSuiteMetrics.costPerSuccess_of_aggregate hb hbc
    obtain ⟨co, hotext, honone, hocost⟩ := AgentSuiteMetrics.costPerSuccess_of_aggregate ho hoc
    obtain rfl := (hbcost vb).mp hvb
    obtain ⟨vo, rfl⟩ : ∃ vo, co = some vo :=
      Option.ne_none_iff_exists'.mp (fun hn => by have := honone.mp hn; omega)
    rw [hbtext, hotext] at hratio
    have hcompared : improvement ≠ none := by
      rw [ne_eq, improvementRatio_none hratio]
      simp [isPositive_ok.mpr hpositive]
    obtain ⟨q, rfl⟩ := Option.ne_none_iff_exists'.mp hcompared
    exact
      { baseline_complete := (AgentSuiteMetrics.CostComplete.of_aggregate hb).mpr hbc
        optimized_complete := (AgentSuiteMetrics.CostComplete.of_aggregate ho).mpr hoc
        safety := hsafety
        success := hsuccess
        cost := ⟨vb, vo, hvb, (hocost vo).mpr rfl,
          lt_of_improvementRatio hratio (himproved q rfl)⟩ }

/-- A model at one dollar for a million tokens of each kind. -/
def dollarPricing : ModelPricing where
  provider := "provider"
  model := "model"
  currency := "USD"
  input_price_per_million := .ofInt 1
  cached_input_price_per_million := .ofInt 1
  output_price_per_million := .ofInt 1
  reasoning_price_per_million := .ofInt 1
  reasoning_token_treatment := .billAsOutput
  source_url := "https://example.test/pricing"
  prices_nonneg := by decide +kernel

theorem provider_name : nonBlank "provider" = true := by decide

theorem model_name : nonBlank "model" = true := by decide

/-- A million output tokens and nothing else is a report. -/
theorem outputMillion_known (h : UsageSource.providerReported = .unknown) :
    (none : Option Nat) = none ∧ (none : Option Nat) = none ∧ some 1000000 = none ∧
      (none : Option Nat) = none ∧ (none : Option Nat) = none := nomatch h

theorem outputMillion_reported (_ : UsageSource.providerReported = .providerReported) :
    (none : Option Nat) ≠ none ∨ some 1000000 ≠ none := by simp

/-- So many million tokens of that model. -/
def reportedMillions (n : Nat) : TokenUsage where
  provider := "provider"
  model := "model"
  source := .providerReported
  input_tokens := some (n * 1000000)
  provider_text := provider_name
  model_text := model_name
  unknown_empty := by simp
  reported_tokens := by simp

/-- A suite of one run. -/
def oneRun (name : String) (success : Bool) (millions : Nat) : AgentSuiteMetrics :=
  ⟨name, [⟨success, false, [reportedMillions millions]⟩]⟩

/-- Two dollars for a success are beaten by one. -/
theorem compareConfigurations_lawful_cheaper :
    ∃ r, compareConfigurations (oneRun "baseline" true 2) (oneRun "optimized" true 1)
        ⟨[dollarPricing]⟩ = .ok r ∧ r.optimization_accepted = true ∧
      ((r.optimization_accepted = true →
          LawfulAcceptance (oneRun "baseline" true 2) (oneRun "optimized" true 1)
            ⟨[dollarPricing]⟩) ↔
        ((oneRun "baseline" true 2).CostComplete ⟨[dollarPricing]⟩ →
          (oneRun "optimized" true 1).CostComplete ⟨[dollarPricing]⟩ →
          (oneRun "optimized" true 1).safetyViolationRate ≤
            (oneRun "baseline" true 2).safetyViolationRate →
          (oneRun "baseline" true 2).taskSuccessRate ≤ (oneRun "optimized" true 1).taskSuccessRate →
          SuccessesCost (oneRun "baseline" true 2) (oneRun "optimized" true 1)
            ⟨[dollarPricing]⟩)) := by
  have hrun : (compareConfigurations (oneRun "baseline" true 2) (oneRun "optimized" true 1)
      ⟨[dollarPricing]⟩).map (fun r => r.optimization_accepted) = .ok true := by
    decide +kernel
  obtain ⟨r, hr, haccepted⟩ := map_ok.mp hrun
  exact ⟨r, hr, haccepted, compareConfigurations_lawful_iff hr⟩

/-- Where every run fails, a configuration at twice the cost is accepted. -/
theorem dearer_failures_accepted :
    ¬ ∀ baseline optimized catalog r, compareConfigurations baseline optimized catalog = .ok r →
      r.optimization_accepted = true → LawfulAcceptance baseline optimized catalog := by
  intro h
  have hrun : (compareConfigurations (oneRun "baseline" false 1) (oneRun "optimized" false 2)
      ⟨[dollarPricing]⟩).map (fun r => r.optimization_accepted) = .ok true := by
    decide +kernel
  obtain ⟨r, hr, haccepted⟩ := map_ok.mp hrun
  obtain ⟨b, _, ⟨cost, hcost, hshare⟩, -⟩ := (h _ _ _ r hr haccepted).cost
  -- Without a success, there is no cost for each.
  have hnone : ((aggregateCosts (oneRun "baseline" false 1).usageRecords ⟨[dollarPricing]⟩).bind
      fun cost => costPerSuccessfulTask cost.total_cost (oneRun "baseline" false 1).successful
        cost.status) = .ok none := by
    decide +kernel
  rw [hcost] at hnone
  exact absurd (hshare.symm.trans hnone) (by simp)

end CBrain

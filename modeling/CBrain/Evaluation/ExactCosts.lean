import CBrain.Evaluation.CostComparison

/-! # Costs without rounding

    The costs of `cbrain/evaluation/cost.py` for any arithmetic.  With decimals in the
    default context they are `costForUsage` and `aggregateCosts`; with rational numbers
    nothing is rounded and nothing signals.

    * `decimals_costForUsage`, `decimals_aggregateCosts` : the costs of the code.
    * `CostLaw` : a complete cost is the exact sum over usages of which everything is
      known, and another one has no total. -/

namespace CBrain

/-! ## Section 1: Costs for any arithmetic -/

/-- What costs are computed with.  `share count` is `Decimal(count) / _MILLION`. -/
structure Arithmetic (A : Type) where
  zero : A
  share : Nat → Raises A
  mul : A → A → Raises A
  add : A → A → Raises A
  isZero : A → Bool

/-- `ModelPricing`. -/
structure PricingOver (A : Type) where
  provider : String
  model : String
  currency : String
  input_price_per_million : A
  cached_input_price_per_million : A
  output_price_per_million : A
  reasoning_price_per_million : A
  reasoning_token_treatment : ReasoningTokenTreatment
  source_url : String

/-- `CostBreakdown`. -/
structure BreakdownOver (A : Type) where
  currency : Option String
  input_cost : Option A
  cached_input_cost : Option A
  output_cost : Option A
  reasoning_cost : Option A
  total_cost : Option A
  known_cost_subtotal : Option A
  status : CostStatus
  pricing_source_url : Option String
  deriving DecidableEq

/-- A breakdown of which nothing is known. -/
def BreakdownOver.unknown {A : Type} (currency pricing_source_url : Option String) :
    BreakdownOver A :=
  ⟨currency, none, none, none, none, none, none, .costUnknown, pricing_source_url⟩

/-- The variables of the loop of `aggregate_costs`. -/
structure TallyOver (A : Type) where
  currency : Option String
  input_cost : A
  cached_cost : A
  output_cost : A
  reasoning_cost : A
  total_cost : A
  has_unknown : Bool
  has_estimated : Bool
  has_measured : Bool
  source_url : Option String

/-- `PricingCatalog.lookup`. -/
def lookupOver {A : Type} (entries : List (PricingOver A)) (provider model : String) :
    Option (PricingOver A) :=
  entries.find? fun entry => entry.provider == provider && entry.model == model

namespace Arithmetic

variable {A : Type} (arith : Arithmetic A)

/-- `_line_item`. -/
def lineItem (token_count : Option Nat) (price_per_million : A) : Raises (Option A) :=
  match token_count with
  | none => pure none
  | some count => do
    let share ← arith.share count
    let cost ← arith.mul share price_per_million
    pure (some cost)

/-- `_reasoning_cost`. -/
def reasoningCost (usage : TokenUsage) (pricing : PricingOver A) : Raises (Option A) :=
  if usage.reasoning_tokens = none ∨ usage.reasoning_tokens = some 0 then pure (some arith.zero)
  else match pricing.reasoning_token_treatment with
    | .ignore => pure (some arith.zero)
    | .billAsOutput => arith.lineItem usage.reasoning_tokens pricing.output_price_per_million
    | .billSeparately => arith.lineItem usage.reasoning_tokens pricing.reasoning_price_per_million

/-- `sum(values, start)`. -/
def sumFrom (start : A) (values : List A) : Raises A :=
  values.foldlM (fun total value => arith.add total value) start

/-- `cost_for_usage`. -/
def costForUsage (usage : TokenUsage) (entries : List (PricingOver A)) :
    Raises (BreakdownOver A) :=
  if usage.source = .unknown then pure (.unknown none none)
  else match lookupOver entries usage.provider usage.model with
    | none => pure (.unknown none none)
    | some pricing =>
      if usage.input_tokens = none ∧ usage.output_tokens = none then
        pure (.unknown (some pricing.currency) (some pricing.source_url))
      else do
        let input_cost ← arith.lineItem usage.input_tokens pricing.input_price_per_million
        let cached_cost ←
          arith.lineItem usage.cached_input_tokens pricing.cached_input_price_per_million
        let output_cost ← arith.lineItem usage.output_tokens pricing.output_price_per_million
        let reasoning_cost ← arith.reasoningCost usage pricing
        let total ← arith.sumFrom arith.zero
          ([input_cost, cached_cost, output_cost, reasoning_cost].filterMap id)
        pure
          { currency := some pricing.currency
            input_cost := input_cost
            cached_input_cost := cached_cost
            output_cost := output_cost
            reasoning_cost := reasoning_cost
            total_cost := some total
            known_cost_subtotal := some total
            status := if usage.source = .providerReported then .measured else .estimated
            pricing_source_url := some pricing.source_url }

/-- `value or Decimal("0")`. -/
def orZero : Option A → A
  | some x => if arith.isZero x then arith.zero else x
  | none => arith.zero

/-- The loop of `aggregate_costs`, for one usage. -/
def addUsage (entries : List (PricingOver A)) (tally : TallyOver A) (usage : TokenUsage) :
    Raises (TallyOver A) := do
  let item ← arith.costForUsage usage entries
  if item.status = .costUnknown then pure { tally with has_unknown := true }
  else do
    let input_cost ← arith.add tally.input_cost (arith.orZero item.input_cost)
    let cached_cost ← arith.add tally.cached_cost (arith.orZero item.cached_input_cost)
    let output_cost ← arith.add tally.output_cost (arith.orZero item.output_cost)
    let reasoning_cost ← arith.add tally.reasoning_cost (arith.orZero item.reasoning_cost)
    let total_cost ← arith.add tally.total_cost (arith.orZero item.total_cost)
    pure
      { currency := item.currency <|> tally.currency
        input_cost := input_cost
        cached_cost := cached_cost
        output_cost := output_cost
        reasoning_cost := reasoning_cost
        total_cost := total_cost
        has_unknown := tally.has_unknown
        has_estimated := tally.has_estimated || item.status == .estimated
        has_measured := tally.has_measured || item.status == .measured
        source_url :=
          if item.pricing_source_url.getD "" ≠ "" then item.pricing_source_url
          else tally.source_url }

/-- The variables before the loop. -/
def start : TallyOver A :=
  ⟨none, arith.zero, arith.zero, arith.zero, arith.zero, arith.zero, false, false, false, none⟩

/-- What `aggregate_costs` makes of its variables after the loop. -/
def breakdown (tally : TallyOver A) : BreakdownOver A :=
  if tally.has_unknown = true ∧ arith.isZero tally.total_cost = true then
    .unknown tally.currency tally.source_url
  else
    { currency := tally.currency
      input_cost := some tally.input_cost
      cached_input_cost := some tally.cached_cost
      output_cost := some tally.output_cost
      reasoning_cost := some tally.reasoning_cost
      total_cost := if tally.has_unknown then none else some tally.total_cost
      known_cost_subtotal := some tally.total_cost
      status :=
        if tally.has_unknown then .partialUnknown
        else if tally.has_estimated && tally.has_measured then .mixed
        else if tally.has_estimated then .estimated
        else .measured
      pricing_source_url := tally.source_url }

/-- `aggregate_costs`. -/
def aggregateCosts (usages : List TokenUsage) (entries : List (PricingOver A)) :
    Raises (BreakdownOver A) :=
  if usages = [] then
    pure
      { currency := none
        input_cost := some arith.zero
        cached_input_cost := some arith.zero
        output_cost := some arith.zero
        reasoning_cost := some arith.zero
        total_cost := some arith.zero
        known_cost_subtotal := some arith.zero
        status := .zeroInference
        pricing_source_url := none }
  else do
    let tally ← usages.foldlM (arith.addUsage entries) arith.start
    pure (arith.breakdown tally)

end Arithmetic

/-! ## Section 2: Decimals in the default context -/

/-- Decimals, with what the context makes of results. -/
def decimals : Arithmetic PyDecimal where
  zero := decimalZero
  share count := computed (PyDecimal.div? (.ofInt count) million)
  mul a b := computed (PyDecimal.mul? a b)
  add a b := computed (PyDecimal.add? a b)
  isZero := isZero

def ModelPricing.over (pricing : ModelPricing) : PricingOver PyDecimal :=
  ⟨pricing.provider, pricing.model, pricing.currency, pricing.input_price_per_million,
    pricing.cached_input_price_per_million, pricing.output_price_per_million,
    pricing.reasoning_price_per_million, pricing.reasoning_token_treatment, pricing.source_url⟩

def CostBreakdown.over (cost : CostBreakdown) : BreakdownOver PyDecimal :=
  ⟨cost.currency, cost.input_cost, cost.cached_input_cost, cost.output_cost, cost.reasoning_cost,
    cost.total_cost, cost.known_cost_subtotal, cost.status, cost.pricing_source_url⟩

def CostTally.over (tally : CostTally) : TallyOver PyDecimal :=
  ⟨tally.currency, tally.input_cost, tally.cached_cost, tally.output_cost, tally.reasoning_cost,
    tally.total_cost, tally.has_unknown, tally.has_estimated, tally.has_measured,
    tally.source_url⟩

theorem decimals_lineItem (token_count : Option Nat) (price : PyDecimal) :
    decimals.lineItem token_count price = lineItem token_count price := by
  cases token_count with
  | none => rfl
  | some count => rfl

theorem decimals_reasoningCost (usage : TokenUsage) (pricing : ModelPricing) :
    decimals.reasoningCost usage pricing.over = reasoningCost usage pricing := by
  unfold Arithmetic.reasoningCost reasoningCost
  split
  · rfl
  · have htreatment : pricing.over.reasoning_token_treatment = pricing.reasoning_token_treatment :=
      rfl
    rw [htreatment]
    cases pricing.reasoning_token_treatment with
    | ignore => rfl
    | billAsOutput => exact decimals_lineItem _ _
    | billSeparately => exact decimals_lineItem _ _

theorem lookupOver_over (catalog : PricingCatalog) (provider model : String) :
    lookupOver (catalog.entries.map ModelPricing.over) provider model =
      (catalog.lookup provider model).map ModelPricing.over := by
  unfold lookupOver PricingCatalog.lookup
  rw [List.find?_map]
  rfl

/-- The cost of a usage in decimals is that of the code. -/
theorem decimals_costForUsage (usage : TokenUsage) (catalog : PricingCatalog) :
    decimals.costForUsage usage (catalog.entries.map ModelPricing.over) =
      CostBreakdown.over <$> costForUsage usage catalog := by
  unfold Arithmetic.costForUsage costForUsage
  rw [lookupOver_over]
  split
  · rfl
  · cases catalog.lookup usage.provider usage.model with
    | none => rfl
    | some pricing =>
      simp only [Option.map_some]
      split
      · rfl
      · rw [decimals_lineItem, decimals_lineItem, decimals_lineItem, decimals_reasoningCost]
        simp only [map_bind, map_pure]
        rfl

theorem decimals_orZero (value : Option PyDecimal) : decimals.orZero value = orZero value := by
  cases value with
  | none => rfl
  | some x => rfl

/-- **Step**: the loop in decimals is that of the code. -/
theorem decimals_addUsage (catalog : PricingCatalog) (tally : CostTally) (usage : TokenUsage) :
    decimals.addUsage (catalog.entries.map ModelPricing.over) tally.over usage =
      CostTally.over <$> tally.add catalog usage := by
  unfold Arithmetic.addUsage CostTally.add
  rw [decimals_costForUsage, map_bind, bind_map_left]
  congr 1
  funext item
  show (if item.status = .costUnknown then _ else _) = _
  split
  · rfl
  · simp only [map_bind, map_pure, decimals_orZero]
    rfl

/-- **Run**: so is the loop over all usages. -/
theorem decimals_foldlM (catalog : PricingCatalog) (usages : List TokenUsage) (tally : CostTally) :
    usages.foldlM (decimals.addUsage (catalog.entries.map ModelPricing.over)) tally.over =
      CostTally.over <$> usages.foldlM (CostTally.add catalog) tally := by
  induction usages generalizing tally with
  | nil => rfl
  | cons usage usages ih =>
    rw [List.foldlM_cons, List.foldlM_cons, decimals_addUsage, bind_map_left, map_bind]
    congr 1
    funext next
    exact ih next

theorem decimals_breakdown (tally : CostTally) :
    decimals.breakdown tally.over = tally.breakdown.over := by
  unfold Arithmetic.breakdown CostTally.breakdown
  show (if tally.has_unknown = true ∧ isZero tally.total_cost = true then _ else _) = _
  split
  · rfl
  · rfl

/-- The cost of all usages in decimals is that of the code. -/
theorem decimals_aggregateCosts (usages : List TokenUsage) (catalog : PricingCatalog) :
    decimals.aggregateCosts usages (catalog.entries.map ModelPricing.over) =
      CostBreakdown.over <$> aggregateCosts usages catalog := by
  unfold Arithmetic.aggregateCosts aggregateCosts
  split
  · rfl
  · have hstart : decimals.start = CostTally.over {} := rfl
    rw [hstart, decimals_foldlM, bind_map_left, map_bind]
    congr 1
    funext tally
    exact congrArg Except.ok (decimals_breakdown tally)

/-! ## Section 3: Rational numbers -/

/-- Rational numbers, which are exact. -/
def rationals : Arithmetic ℚ where
  zero := 0
  share count := .ok (count / 1000000)
  mul a b := .ok (a * b)
  add a b := .ok (a + b)
  isZero a := a == 0

/-- Both counts are known. -/
def BothKnown (usage : TokenUsage) : Prop :=
  usage.input_tokens ≠ none ∧ usage.output_tokens ≠ none

section law
variable (entries : List (PricingOver ℚ))

/-- The price of a usage. -/
def pricingOf (usage : TokenUsage) : Option (PricingOver ℚ) :=
  lookupOver entries usage.provider usage.model

/-- What is billed for reasoning tokens. -/
def billedReasoning (usage : TokenUsage) (pricing : PricingOver ℚ) : List (Option Nat × ℚ) :=
  match pricing.reasoning_token_treatment with
  | .ignore => []
  | .billAsOutput => [(usage.reasoning_tokens, pricing.output_price_per_million)]
  | .billSeparately => [(usage.reasoning_tokens, pricing.reasoning_price_per_million)]

/-- The counts that are billed, with their prices. -/
def billed (usage : TokenUsage) (pricing : PricingOver ℚ) : List (Option Nat × ℚ) :=
  [(usage.input_tokens, pricing.input_price_per_million),
    (usage.cached_input_tokens, pricing.cached_input_price_per_million),
    (usage.output_tokens, pricing.output_price_per_million)] ++ billedReasoning usage pricing

/-- A count, in millions, times its price, where the count is known. -/
def itemCost (item : Option Nat × ℚ) : Option ℚ :=
  item.1.map fun count => (count : ℚ) / 1000000 * item.2

/-- The sum of what is billed. -/
def exactCost (usage : TokenUsage) (pricing : PricingOver ℚ) : ℚ :=
  ((billed usage pricing).filterMap itemCost).sum

/-- The exact sum over usages. -/
def exactTotal (usages : List TokenUsage) : ℚ :=
  (usages.map fun usage => ((pricingOf entries usage).map (exactCost usage)).getD 0).sum

/-- A complete cost is the exact sum over usages that are known and priced; any other has no
    total. -/
structure CostLaw (usages : List TokenUsage) (cost : BreakdownOver ℚ) : Prop where
  complete : costIsComplete cost.status = true →
    (∀ usage ∈ usages, BothKnown usage ∧ pricingOf entries usage ≠ none) ∧
      cost.total_cost = some (exactTotal entries usages)
  incomplete : costIsComplete cost.status = false → cost.total_cost = none

/-- `cost_for_usage` reports a lawful cost. -/
def UsageLaw (usage : TokenUsage) : Prop :=
  ∃ cost, rationals.costForUsage usage entries = .ok cost ∧ CostLaw entries [usage] cost

/-- `aggregate_costs` reports a lawful cost. -/
def AggregateLaw (usages : List TokenUsage) : Prop :=
  ∃ cost, rationals.aggregateCosts usages entries = .ok cost ∧ CostLaw entries usages cost

/-- A cost is computed for the usage: it is priced, and a count is known. -/
def Costed (usage : TokenUsage) : Prop :=
  usage.source ≠ .unknown ∧ pricingOf entries usage ≠ none ∧
    (usage.input_tokens ≠ none ∨ usage.output_tokens ≠ none)

instance (usage : TokenUsage) : Decidable (pricingOf entries usage ≠ none) :=
  decidable_of_iff ((pricingOf entries usage).isSome = true) Option.isSome_iff_ne_none

instance (usage : TokenUsage) : Decidable (Costed entries usage) :=
  inferInstanceAs (Decidable (_ ∧ _ ∧ (_ ∨ _)))

end law

variable {entries : List (PricingOver ℚ)} {usage : TokenUsage} {usages : List TokenUsage}

theorem rationals_lineItem (token_count : Option Nat) (price : ℚ) :
    rationals.lineItem token_count price =
      .ok (token_count.map fun count => (count : ℚ) / 1000000 * price) := by
  cases token_count with
  | none => rfl
  | some count => rfl

/-- A sum of rational numbers is never refused. -/
theorem rationals_sumFrom (start : ℚ) (values : List ℚ) :
    rationals.sumFrom start values = .ok (start + values.sum) := by
  unfold Arithmetic.sumFrom
  induction values generalizing start with
  | nil =>
    rw [List.sum_nil, add_zero]
    rfl
  | cons value values ih =>
    rw [List.foldlM_cons, List.sum_cons, ← add_assoc]
    exact ih (start + value)

/-- The cost of reasoning tokens is what is billed for them, and zero where nothing is. -/
theorem rationals_reasoningCost (usage : TokenUsage) (pricing : PricingOver ℚ) :
    ∃ cost, rationals.reasoningCost usage pricing = .ok (some cost) ∧
      ((billedReasoning usage pricing).filterMap itemCost).sum = cost := by
  unfold Arithmetic.reasoningCost billedReasoning
  by_cases hnone : usage.reasoning_tokens = none ∨ usage.reasoning_tokens = some 0
  · rw [if_pos hnone]
    refine ⟨0, rfl, ?_⟩
    -- Nothing is billed for tokens that are unknown, and zero for none.
    have hitem : ∀ price : ℚ, ([(usage.reasoning_tokens, price)].filterMap itemCost).sum = 0 := by
      intro price
      rcases hnone with h | h
      · rw [h]
        rfl
      · simp [h, itemCost]
    cases pricing.reasoning_token_treatment with
    | ignore => rfl
    | billAsOutput => exact hitem _
    | billSeparately => exact hitem _
  · rw [if_neg hnone]
    obtain ⟨count, hcount⟩ : ∃ count, usage.reasoning_tokens = some count :=
      Option.ne_none_iff_exists'.mp fun h => hnone (Or.inl h)
    cases pricing.reasoning_token_treatment with
    | ignore => exact ⟨0, rfl, rfl⟩
    | billAsOutput =>
      refine ⟨count / 1000000 * pricing.output_price_per_million, ?_, ?_⟩
      · rw [hcount, rationals_lineItem]
        rfl
      · simp [hcount, itemCost]
    | billSeparately =>
      refine ⟨count / 1000000 * pricing.reasoning_price_per_million, ?_, ?_⟩
      · rw [hcount, rationals_lineItem]
        rfl
      · simp [hcount, itemCost]

/-- The exact cost, with what is billed for reasoning set apart. -/
theorem exactCost_eq (usage : TokenUsage) (pricing : PricingOver ℚ) (reasoning : ℚ)
    (h : ((billedReasoning usage pricing).filterMap itemCost).sum = reasoning) :
    exactCost usage pricing =
      ([itemCost (usage.input_tokens, pricing.input_price_per_million),
        itemCost (usage.cached_input_tokens, pricing.cached_input_price_per_million),
        itemCost (usage.output_tokens, pricing.output_price_per_million),
        some reasoning].filterMap id).sum := by
  obtain ⟨counts, hcounts⟩ : ∃ counts, counts =
    [(usage.input_tokens, pricing.input_price_per_million),
      (usage.cached_input_tokens, pricing.cached_input_price_per_million),
      (usage.output_tokens, pricing.output_price_per_million)] := ⟨_, rfl⟩
  have hbilled : billed usage pricing = counts ++ billedReasoning usage pricing := by
    rw [hcounts]
    rfl
  have hitems : [itemCost (usage.input_tokens, pricing.input_price_per_million),
        itemCost (usage.cached_input_tokens, pricing.cached_input_price_per_million),
        itemCost (usage.output_tokens, pricing.output_price_per_million), some reasoning] =
      counts.map itemCost ++ [some reasoning] := by
    rw [hcounts]
    rfl
  unfold exactCost
  rw [hbilled, hitems, List.filterMap_append, List.filterMap_append, List.sum_append,
    List.sum_append, h, List.filterMap_map]
  simp

/-- What `cost_for_usage` makes of a usage that is not costed. -/
theorem rationals_not_costed (h : ¬ Costed entries usage) :
    ∃ currency url, rationals.costForUsage usage entries = .ok (.unknown currency url) := by
  unfold Arithmetic.costForUsage
  by_cases hsource : usage.source = .unknown
  · rw [if_pos hsource]
    exact ⟨none, none, rfl⟩
  rw [if_neg hsource]
  cases hpricing : lookupOver entries usage.provider usage.model with
  | none => exact ⟨none, none, rfl⟩
  | some pricing =>
    have hcounts : usage.input_tokens = none ∧ usage.output_tokens = none := by
      by_contra hknown
      refine h ⟨hsource, ?_, ?_⟩
      · unfold pricingOf
        rw [hpricing]
        simp
      · tauto
    simp only
    rw [if_pos hcounts]
    exact ⟨_, _, rfl⟩

/-- What `cost_for_usage` makes of one that is. -/
theorem rationals_costed (h : Costed entries usage) :
    ∃ cost pricing, rationals.costForUsage usage entries = .ok cost ∧
      pricingOf entries usage = some pricing ∧
      (cost.status = .measured ∨ cost.status = .estimated) ∧
      cost.total_cost = some (exactCost usage pricing) := by
  obtain ⟨hsource, hpriced, hcounts⟩ := h
  obtain ⟨pricing, hpricing⟩ := Option.ne_none_iff_exists'.mp hpriced
  obtain ⟨reasoning, hreasoning, hbilled⟩ := rationals_reasoningCost usage pricing
  have hlookup : lookupOver entries usage.provider usage.model = some pricing := hpricing
  unfold Arithmetic.costForUsage
  rw [if_neg hsource, hlookup]
  simp only
  rw [if_neg (by tauto), rationals_lineItem, rationals_lineItem, rationals_lineItem, hreasoning]
  simp only [ok_bind, rationals_sumFrom]
  refine ⟨_, pricing, rfl, hpricing, ?_, ?_⟩
  · by_cases hreported : usage.source = .providerReported
    · simp [hreported]
    · simp [hreported]
  · rw [exactCost_eq usage pricing reasoning hbilled]
    exact congrArg some (zero_add _)

theorem rationals_orZero (x : ℚ) : rationals.orZero (some x) = x := by
  show (if (x == 0) = true then 0 else x) = x
  by_cases h : x = 0
  · simp [h]
  · simp [h]

theorem exactTotal_cons (usage : TokenUsage) (usages : List TokenUsage) :
    exactTotal entries (usage :: usages) =
      exactTotal entries [usage] + exactTotal entries usages := by
  simp [exactTotal]

/-- **Step**: a usage that is not costed leaves a mark, and one that is adds its cost. -/
theorem rationals_addUsage (tally : TallyOver ℚ) (usage : TokenUsage) :
    ∃ next, rationals.addUsage entries tally usage = .ok next ∧
      (next.has_unknown = true ↔ tally.has_unknown = true ∨ ¬ Costed entries usage) ∧
      (Costed entries usage → next.total_cost = tally.total_cost + exactTotal entries [usage]) := by
  unfold Arithmetic.addUsage
  by_cases hcosted : Costed entries usage
  · obtain ⟨cost, pricing, hcost, hpricing, hstatus, htotal⟩ := rationals_costed hcosted
    have hknown : cost.status ≠ .costUnknown := by
      rcases hstatus with h | h
      · simp [h]
      · simp [h]
    rw [hcost, ok_bind, if_neg hknown]
    refine ⟨_, rfl, ?_, ?_⟩
    · simp [hcosted]
    · intro _
      show tally.total_cost + rationals.orZero cost.total_cost = _
      rw [htotal, rationals_orZero]
      simp [exactTotal, hpricing]
  · obtain ⟨currency, url, hcost⟩ := rationals_not_costed hcosted
    rw [hcost, ok_bind]
    refine ⟨_, rfl, ?_, ?_⟩
    · simp [hcosted]
    · intro h
      exact absurd h hcosted

/-- **Run**: over all usages. -/
theorem rationals_foldlM (tally : TallyOver ℚ) (usages : List TokenUsage) :
    ∃ final, usages.foldlM (rationals.addUsage entries) tally = .ok final ∧
      (final.has_unknown = true ↔
        tally.has_unknown = true ∨ ∃ usage ∈ usages, ¬ Costed entries usage) ∧
      ((∀ usage ∈ usages, Costed entries usage) →
        final.total_cost = tally.total_cost + exactTotal entries usages) := by
  induction usages generalizing tally with
  | nil =>
    refine ⟨tally, rfl, ?_, ?_⟩
    · simp
    · simp [exactTotal]
  | cons usage usages ih =>
    obtain ⟨next, hnext, hmark, hadd⟩ := @rationals_addUsage entries tally usage
    obtain ⟨final, hfinal, hmarks, hsum⟩ := ih next
    refine ⟨final, ?_, ?_, ?_⟩
    · rw [List.foldlM_cons, hnext, ok_bind]
      exact hfinal
    · rw [hmarks, hmark, List.exists_mem_cons_iff, or_assoc]
    · intro hall
      rw [List.forall_mem_cons] at hall
      rw [hsum hall.2, hadd hall.1, exactTotal_cons usage usages, add_assoc]

/-- What `aggregate_costs` makes of its variables: complete where no mark is left. -/
theorem rationals_breakdown (tally : TallyOver ℚ) :
    (costIsComplete (rationals.breakdown tally).status = true ↔ tally.has_unknown = false) ∧
      (rationals.breakdown tally).total_cost =
        if tally.has_unknown then none else some tally.total_cost := by
  unfold Arithmetic.breakdown
  by_cases hunknown : tally.has_unknown = true
  · by_cases hzero : rationals.isZero tally.total_cost = true
    · rw [if_pos ⟨hunknown, hzero⟩]
      simp [BreakdownOver.unknown, costIsComplete, hunknown]
    · rw [if_neg (fun h => hzero h.2)]
      simp [costIsComplete, hunknown]
  · rw [if_neg (fun h => hunknown h.1)]
    refine ⟨?_, rfl⟩
    rw [if_neg hunknown]
    cases tally.has_estimated with
    | false => simp [costIsComplete, hunknown]
    | true =>
      cases tally.has_measured with
      | false => simp [costIsComplete, hunknown]
      | true => simp [costIsComplete, hunknown]

/-- The cost of a list of usages: complete where each of them is costed. -/
theorem rationals_aggregateCosts (entries : List (PricingOver ℚ)) (usages : List TokenUsage) :
    ∃ cost, rationals.aggregateCosts usages entries = .ok cost ∧
      (costIsComplete cost.status = true ↔ ∀ usage ∈ usages, Costed entries usage) ∧
      (costIsComplete cost.status = true → cost.total_cost = some (exactTotal entries usages)) ∧
      (costIsComplete cost.status = false → cost.total_cost = none) := by
  unfold Arithmetic.aggregateCosts
  by_cases hempty : usages = []
  · rw [if_pos hempty, hempty]
    exact ⟨_, rfl, iff_of_true rfl (by simp), fun _ => rfl, fun h => absurd h (by decide)⟩
  rw [if_neg hempty]
  obtain ⟨final, hfinal, hmarks, hsum⟩ := @rationals_foldlM entries rationals.start usages
  obtain ⟨hcomplete, htotal⟩ := rationals_breakdown final
  rw [hfinal, ok_bind]
  -- No mark is left where each usage is costed.
  have hall : final.has_unknown = false ↔ ∀ usage ∈ usages, Costed entries usage := by
    rw [← Bool.not_eq_true, hmarks]
    simp [Arithmetic.start]
  refine ⟨_, rfl, hcomplete.trans hall, ?_, ?_⟩
  · intro h
    have hunknown := hcomplete.mp h
    rw [htotal, hunknown, hsum (hall.mp hunknown)]
    exact congrArg some (zero_add _)
  · intro h
    have hunknown : final.has_unknown = true := by
      by_contra hfalse
      rw [hcomplete.mpr (Bool.eq_false_of_not_eq_true hfalse)] at h
      cases h
    rw [htotal, hunknown]
    rfl

/-- The cost of a usage: complete where it is costed. -/
theorem rationals_costForUsage (entries : List (PricingOver ℚ)) (usage : TokenUsage) :
    ∃ cost, rationals.costForUsage usage entries = .ok cost ∧
      (costIsComplete cost.status = true ↔ ∀ other ∈ [usage], Costed entries other) ∧
      (costIsComplete cost.status = true → cost.total_cost = some (exactTotal entries [usage])) ∧
      (costIsComplete cost.status = false → cost.total_cost = none) := by
  have hone : (∀ other ∈ [usage], Costed entries other) ↔ Costed entries usage := by simp
  rw [hone]
  by_cases hcosted : Costed entries usage
  · obtain ⟨cost, pricing, hcost, hpricing, hstatus, htotal⟩ := rationals_costed hcosted
    have hcomplete : costIsComplete cost.status = true := by
      rcases hstatus with h | h
      · rw [h]
        rfl
      · rw [h]
        rfl
    refine ⟨cost, hcost, iff_of_true hcomplete hcosted, ?_, ?_⟩
    · intro _
      rw [htotal]
      simp [exactTotal, hpricing]
    · intro h
      rw [hcomplete] at h
      cases h
  · obtain ⟨currency, url, hcost⟩ := rationals_not_costed hcosted
    refine ⟨_, hcost, ?_, fun h => ?_, fun _ => rfl⟩
    · simp [BreakdownOver.unknown, costIsComplete, hcosted]
    · simp [BreakdownOver.unknown, costIsComplete] at h

/-- A cost that is complete where each usage is costed is lawful where these have both
    counts. -/
theorem costLaw_iff {cost : BreakdownOver ℚ}
    (hstatus : costIsComplete cost.status = true ↔ ∀ usage ∈ usages, Costed entries usage)
    (htotal : costIsComplete cost.status = true →
      cost.total_cost = some (exactTotal entries usages))
    (hnone : costIsComplete cost.status = false → cost.total_cost = none) :
    CostLaw entries usages cost ↔
      ((∀ usage ∈ usages, Costed entries usage) → ∀ usage ∈ usages, BothKnown usage) := by
  constructor
  · intro hlaw hcosted usage husage
    exact ((hlaw.complete (hstatus.mpr hcosted)).1 usage husage).1
  · intro hknown
    refine ⟨?_, hnone⟩
    intro hcomplete
    have hcosted := hstatus.mp hcomplete
    refine ⟨?_, htotal hcomplete⟩
    intro usage husage
    exact ⟨hknown hcosted usage husage, (hcosted usage husage).2.1⟩

/-- **Completeness of costs**: a cost is lawful exactly when a completion that is costed has
    both counts; the cost of a list is lawful exactly when some completion is not costed or
    each has both counts. -/
theorem costs_lawful_iff (entries : List (PricingOver ℚ)) :
    (∀ usage, UsageLaw entries usage ↔ (Costed entries usage → BothKnown usage)) ∧
    (∀ usages, AggregateLaw entries usages ↔
      ((∀ usage ∈ usages, Costed entries usage) → ∀ usage ∈ usages, BothKnown usage)) := by
  constructor
  · intro usage
    obtain ⟨cost, hcost, hstatus, htotal, hnone⟩ := rationals_costForUsage entries usage
    have hlaw : UsageLaw entries usage ↔ CostLaw entries [usage] cost := by
      unfold UsageLaw
      rw [hcost]
      simp
    rw [hlaw, costLaw_iff hstatus htotal hnone]
    simp
  · intro usages
    obtain ⟨cost, hcost, hstatus, htotal, hnone⟩ := rationals_aggregateCosts entries usages
    have hlaw : AggregateLaw entries usages ↔ CostLaw entries usages cost := by
      unfold AggregateLaw
      rw [hcost]
      simp
    rw [hlaw, costLaw_iff hstatus htotal hnone]

/-- A model at one dollar for a million tokens. -/
def exactPricing : PricingOver ℚ :=
  ⟨"provider", "model", "USD", 1, 1, 1, 1, .billAsOutput, "https://example.test/pricing"⟩

/-- A provider that reports what it put out, but not what it was given. -/
def outputOnly : TokenUsage where
  provider := "provider"
  model := "model"
  source := .providerReported
  output_tokens := some 1000000
  provider_text := provider_name
  model_text := model_name
  unknown_empty := outputMillion_known
  reported_tokens := outputMillion_reported

/-- Input tokens that are unknown are counted as zero. -/
theorem unknown_input_counted :
    ¬ ∀ entries, (∀ usage, UsageLaw entries usage) ∧ ∀ usages, AggregateLaw entries usages := by
  intro h
  obtain ⟨cost, hcost, hlaw⟩ := (h [exactPricing]).2 [outputOnly]
  have hrun : (rationals.aggregateCosts [outputOnly] [exactPricing]).map
      (fun cost => costIsComplete cost.status) = .ok true := by decide +kernel
  rw [hcost] at hrun
  have hcomplete : costIsComplete cost.status = true := Except.ok.inj hrun
  have hknown := ((hlaw.complete hcomplete).1 outputOnly (by simp)).1
  exact hknown.1 rfl

end CBrain

import CBrain.Evaluation.PricingCatalog
import CBrain.Framework.DecimalSums
import CBrain.Procurement.ComparedValues

/-! # The order of usages

    What `aggregate_costs` (`cbrain/evaluation/cost.py`) makes of the usages in another
    order, with prices that `pricing_catalog_from_mapping` accepts.

    The loop keeps the currency and the source of the last usage that has a cost, and five
    sums that are rounded to 28 digits.

    * `SameTariff` : the usages that have a cost share a currency and a source.
    * `SumsAgree`  : the five sums are the same in every order.
    * `OrderLaw`   : one currency, and the same breakdown in every order. -/

namespace CBrain

open Paired (exists_of_mem_left exists_of_mem_right)
open PyDecimal (sum? equal Unsigned FitsTogether)

/-! ## Section 1: The five sums -/

/-- The costs that a breakdown has. -/
inductive CostKind where
  | input
  | cachedInput
  | output
  | reasoning
  | total
  deriving DecidableEq

/-- What a usage adds to a sum. -/
def CostBreakdown.part (item : CostBreakdown) : CostKind → PyDecimal
  | .input => orZero item.input_cost
  | .cachedInput => orZero item.cached_input_cost
  | .output => orZero item.output_cost
  | .reasoning => orZero item.reasoning_cost
  | .total => orZero item.total_cost

/-- A sum of the loop. -/
def CostTally.part (tally : CostTally) : CostKind → PyDecimal
  | .input => tally.input_cost
  | .cachedInput => tally.cached_cost
  | .output => tally.output_cost
  | .reasoning => tally.reasoning_cost
  | .total => tally.total_cost

/-- The loop of `aggregate_costs`, for the cost of one usage. -/
def CostTally.addItem (tally : CostTally) (item : CostBreakdown) : Raises CostTally :=
  if item.status = .costUnknown then pure { tally with has_unknown := true }
  else do
    let input_cost ← computed (PyDecimal.add? tally.input_cost (orZero item.input_cost))
    let cached_cost ← computed (PyDecimal.add? tally.cached_cost (orZero item.cached_input_cost))
    let output_cost ← computed (PyDecimal.add? tally.output_cost (orZero item.output_cost))
    let reasoning_cost ←
      computed (PyDecimal.add? tally.reasoning_cost (orZero item.reasoning_cost))
    let total_cost ← computed (PyDecimal.add? tally.total_cost (orZero item.total_cost))
    pure
      { currency := item.currency <|> tally.currency
        input_cost := input_cost
        cached_cost := cached_cost
        output_cost := output_cost
        reasoning_cost := reasoning_cost
        total_cost := total_cost
        has_unknown := tally.has_unknown
        has_estimated := tally.has_estimated || item.status == .estimated
        has_measured := tally.has_measured || item.status == .measured
        source_url :=
          if item.pricing_source_url.getD "" ≠ "" then item.pricing_source_url
          else tally.source_url }

theorem CostTally.add_eq (catalog : PricingCatalog) (tally : CostTally) (usage : TokenUsage) :
    tally.add catalog usage = costForUsage usage catalog >>= tally.addItem := rfl

/-- The cost is known. -/
def CostBreakdown.known (item : CostBreakdown) : Bool := item.status != .costUnknown

/-- **Contract** of the loop, for a cost that is known. -/
theorem CostTally.addItem_known {tally next : CostTally} {item : CostBreakdown}
    (hknown : item.known = true) :
    tally.addItem item = .ok next ↔
      (∀ kind, PyDecimal.add? (tally.part kind) (item.part kind) = some (next.part kind)) ∧
      next.currency = (item.currency <|> tally.currency) ∧
      next.source_url = (if item.pricing_source_url.getD "" ≠ "" then item.pricing_source_url
        else tally.source_url) ∧
      next.has_unknown = tally.has_unknown ∧
      next.has_estimated = (tally.has_estimated || item.status == .estimated) ∧
      next.has_measured = (tally.has_measured || item.status == .measured) := by
  have hstatus : item.status ≠ .costUnknown := by simpa [CostBreakdown.known] using hknown
  unfold CostTally.addItem
  rw [if_neg hstatus]
  simp only [bind_ok, computed_ok, pure_ok]
  constructor
  · rintro ⟨_, hinput, _, hcached, _, houtput, _, hreasoning, _, htotal, rfl⟩
    refine ⟨?_, rfl, rfl, rfl, rfl, rfl⟩
    intro kind
    cases kind with
    | input => exact hinput
    | cachedInput => exact hcached
    | output => exact houtput
    | reasoning => exact hreasoning
    | total => exact htotal
  · rintro ⟨hparts, hcurrency, hurl, hunknown, hestimated, hmeasured⟩
    refine ⟨_, hparts .input, _, hparts .cachedInput, _, hparts .output, _, hparts .reasoning, _,
      hparts .total, ?_⟩
    rcases next with ⟨_, _, _, _, _, _, _, _, _, _⟩
    simp only at hcurrency hurl hunknown hestimated hmeasured
    rw [hcurrency, hurl, hunknown, hestimated, hmeasured]
    rfl

/-- What is left of the loop over the costs of usages. -/
structure Tallied (items : List CostBreakdown) (tally final : CostTally) : Prop where
  parts : ∀ kind, sum? (tally.part kind) ((items.filter CostBreakdown.known).map fun item =>
    item.part kind) = some (final.part kind)
  currency : final.currency = (items.filter CostBreakdown.known).foldl
    (fun currency item => item.currency <|> currency) tally.currency
  source_url : final.source_url = (items.filter CostBreakdown.known).foldl
    (fun url item => if item.pricing_source_url.getD "" ≠ "" then item.pricing_source_url else url)
      tally.source_url
  unknown : final.has_unknown = (tally.has_unknown || items.any fun item => !item.known)
  estimated : final.has_estimated =
    (tally.has_estimated || items.any fun item => item.status == .estimated)
  measured : final.has_measured =
    (tally.has_measured || items.any fun item => item.status == .measured)

/-- A tally is its five sums and what else it holds. -/
theorem CostTally.ext_parts {tally tally' : CostTally}
    (hparts : ∀ kind, tally.part kind = tally'.part kind)
    (hcurrency : tally.currency = tally'.currency) (hurl : tally.source_url = tally'.source_url)
    (hunknown : tally.has_unknown = tally'.has_unknown)
    (hestimated : tally.has_estimated = tally'.has_estimated)
    (hmeasured : tally.has_measured = tally'.has_measured) : tally = tally' := by
  rcases tally with ⟨_, input, cached, output, reasoning, total, _, _, _, _⟩
  rcases tally' with ⟨_, input', cached', output', reasoning', total', _, _, _, _⟩
  obtain rfl : input = input' := hparts .input
  obtain rfl : cached = cached' := hparts .cachedInput
  obtain rfl : output = output' := hparts .output
  obtain rfl : reasoning = reasoning' := hparts .reasoning
  obtain rfl : total = total' := hparts .total
  simp only at hcurrency hurl hunknown hestimated hmeasured
  rw [hcurrency, hurl, hunknown, hestimated, hmeasured]

/-- **Step**: a cost that is known. -/
theorem Tallied.cons_known {item : CostBreakdown} {items : List CostBreakdown}
    {tally final : CostTally} (hknown : item.known = true) :
    Tallied (item :: items) tally final ↔
      ∃ next, tally.addItem item = .ok next ∧ Tallied items next final := by
  have hfilter : (item :: items).filter CostBreakdown.known =
      item :: items.filter CostBreakdown.known := List.filter_cons_of_pos hknown
  constructor
  · intro h
    have hparts := h.parts
    rw [hfilter] at hparts
    simp only [List.map_cons, PyDecimal.sum?_cons] at hparts
    choose sums hadd hsums using hparts
    refine ⟨⟨item.currency <|> tally.currency, sums .input, sums .cachedInput, sums .output,
      sums .reasoning, sums .total, tally.has_unknown,
      tally.has_estimated || item.status == .estimated,
      tally.has_measured || item.status == .measured,
      if item.pricing_source_url.getD "" ≠ "" then item.pricing_source_url
      else tally.source_url⟩, ?_, ?_⟩
    · rw [CostTally.addItem_known hknown]
      refine ⟨?_, rfl, rfl, rfl, rfl, rfl⟩
      intro kind
      rw [hadd kind]
      cases kind with
      | _ => rfl
    · constructor
      · intro kind
        rw [← hsums kind]
        cases kind with
        | _ => rfl
      · rw [h.currency, hfilter, List.foldl_cons]
      · rw [h.source_url, hfilter, List.foldl_cons]
      · rw [h.unknown]
        simp [hknown]
      · rw [h.estimated]
        simp [Bool.or_assoc]
      · rw [h.measured]
        simp [Bool.or_assoc]
  · rintro ⟨next, hnext, h⟩
    obtain ⟨hadd, hcurrency, hurl, hunknown, hestimated, hmeasured⟩ :=
      (CostTally.addItem_known hknown).mp hnext
    constructor
    · intro kind
      rw [hfilter, List.map_cons]
      exact PyDecimal.sum?_cons.mpr ⟨_, hadd kind, h.parts kind⟩
    · rw [h.currency, hcurrency, hfilter, List.foldl_cons]
    · rw [h.source_url, hurl, hfilter, List.foldl_cons]
    · rw [h.unknown, hunknown]
      simp [hknown]
    · rw [h.estimated, hestimated]
      simp [Bool.or_assoc]
    · rw [h.measured, hmeasured]
      simp [Bool.or_assoc]

/-- **Step**: a cost that is not known leaves a mark. -/
theorem Tallied.cons_unknown {item : CostBreakdown} {items : List CostBreakdown}
    {tally final : CostTally} (hstatus : item.status = .costUnknown) :
    Tallied (item :: items) tally final ↔
      ∃ next, tally.addItem item = .ok next ∧ Tallied items next final := by
  have hknown : item.known = false := by simp [CostBreakdown.known, hstatus]
  have hnext : tally.addItem item = .ok { tally with has_unknown := true } := by
    unfold CostTally.addItem
    rw [if_pos hstatus]
    rfl
  have hfilter : (item :: items).filter CostBreakdown.known =
      items.filter CostBreakdown.known := List.filter_cons_of_neg (by simp [hknown])
  have hestimated : (item.status == .estimated) = false := by
    rw [hstatus]
    rfl
  have hmeasured : (item.status == .measured) = false := by
    rw [hstatus]
    rfl
  rw [hnext]
  constructor
  · intro h
    refine ⟨_, rfl, ?_⟩
    constructor
    · intro kind
      rw [← h.parts kind, hfilter]
      cases kind with
      | _ => rfl
    · rw [h.currency, hfilter]
    · rw [h.source_url, hfilter]
    · rw [h.unknown]
      simp [hknown]
    · rw [h.estimated]
      simp [hestimated]
    · rw [h.measured]
      simp [hmeasured]
  · rintro ⟨next, hok, h⟩
    obtain rfl := Except.ok.inj hok
    constructor
    · intro kind
      rw [← h.parts kind, hfilter]
      cases kind with
      | _ => rfl
    · rw [h.currency, hfilter]
    · rw [h.source_url, hfilter]
    · rw [h.unknown]
      simp [hknown]
    · rw [h.estimated]
      simp [hestimated]
    · rw [h.measured]
      simp [hmeasured]

/-- **Run**: the loop over the costs of usages. -/
theorem foldlM_addItem {items : List CostBreakdown} {tally final : CostTally} :
    items.foldlM CostTally.addItem tally = .ok final ↔ Tallied items tally final := by
  induction items generalizing tally with
  | nil =>
    rw [List.foldlM_nil, pure_ok]
    constructor
    · rintro rfl
      exact ⟨fun _ => rfl, rfl, rfl, by simp, by simp, by simp⟩
    · intro h
      exact CostTally.ext_parts (fun kind => Option.some.inj (h.parts kind)) h.currency.symm
        h.source_url.symm (by simpa using h.unknown.symm) (by simpa using h.estimated.symm)
        (by simpa using h.measured.symm)
  | cons item items ih =>
    rw [List.foldlM_cons, bind_ok]
    simp only [ih]
    by_cases hstatus : item.status = .costUnknown
    · exact (Tallied.cons_unknown hstatus).symm
    · exact (Tallied.cons_known (by simpa [CostBreakdown.known] using hstatus)).symm

/-! ## Section 2: The cost of a usage -/

theorem isZero_iff {x : PyDecimal} : isZero x = true ↔ x.value? = some 0 := by
  cases x with
  | infinity neg => simp [isZero, PyDecimal.value?]
  | nan => simp [isZero, PyDecimal.value?]
  | finite neg c e =>
    have hpow : (10 : ℚ) ^ e ≠ 0 := zpow_ne_zero _ (by norm_num)
    cases neg with
    | true => simp [isZero, PyDecimal.value?, PyDecimal.value, hpow]
    | false => simp [isZero, PyDecimal.value?, PyDecimal.value, hpow]

theorem decimalZero_value : decimalZero.value? = some 0 := isZero_iff.mp rfl

theorem settled_zero : PyDecimal.Settled decimalZero := PyDecimal.Settled.ofNat (by decide)

theorem orZero_settled {cost : Option PyDecimal} (h : ∀ x, cost = some x → PyDecimal.Settled x) :
    PyDecimal.Settled (orZero cost) := by
  cases cost with
  | none => exact settled_zero
  | some x =>
    show PyDecimal.Settled (if isZero x then decimalZero else x)
    split
    · exact settled_zero
    · exact h x rfl

theorem orZero_value {cost : Option PyDecimal} (h : ∀ x, cost = some x → x.value? = some 0) :
    (orZero cost).value? = some 0 := by
  cases cost with
  | none => exact decimalZero_value
  | some x =>
    show (if isZero x then decimalZero else x).value? = some 0
    split
    · exact decimalZero_value
    · exact h x rfl

theorem sumFrom_ok {start total : PyDecimal} {values : List PyDecimal} :
    sumFrom start values = .ok total ↔ sum? start values = some total := by
  induction values generalizing start with
  | nil =>
    show (pure start : Raises PyDecimal) = .ok total ↔ some start = some total
    rw [pure_ok, Option.some.injEq]
  | cons x values ih =>
    rw [PyDecimal.sum?_cons]
    unfold sumFrom
    rw [List.foldlM_cons, bind_ok]
    simp only [computed_ok]
    exact exists_congr fun next => and_congr_right fun _ => ih

theorem settled_lineItem {token_count : Option Nat} {price cost : PyDecimal}
    (hprice : Unsigned price) (h : lineItem token_count price = .ok (some cost)) :
    PyDecimal.Settled cost := by
  cases token_count with
  | none => cases h
  | some count =>
    unfold lineItem at h
    simp only [bind_ok, computed_ok, pure_ok, Option.some.injEq] at h
    obtain ⟨share, hshare, _, hcost, rfl⟩ := h
    exact PyDecimal.Settled.mul ((Unsigned.ofNat count).div hshare) hprice hcost

theorem settled_reasoningCost {usage : TokenUsage} {pricing : ModelPricing} {cost : PyDecimal}
    (h : reasoningCost usage pricing = .ok (some cost)) : PyDecimal.Settled cost := by
  unfold reasoningCost at h
  split at h
  · obtain rfl := Option.some.inj (Except.ok.inj h)
    exact settled_zero
  split at h
  · obtain rfl := Option.some.inj (Except.ok.inj h)
    exact settled_zero
  · exact settled_lineItem (pricing.unsigned (by simp)) h
  · exact settled_lineItem (pricing.unsigned (by simp)) h

/-- A cost is computed for the usage, with this pricing. -/
structure CostedAt (catalog : PricingCatalog) (usage : TokenUsage) (pricing : ModelPricing) :
    Prop where
  source : usage.source ≠ .unknown
  priced : catalog.lookup usage.provider usage.model = some pricing
  counts : usage.input_tokens ≠ none ∨ usage.output_tokens ≠ none

/-- What a cost that is known has. -/
structure PricedItem (pricing : ModelPricing) (item : CostBreakdown) : Prop where
  known : item.known = true
  currency : item.currency = some pricing.currency
  source_url : item.pricing_source_url = some pricing.source_url
  settled : ∀ kind, PyDecimal.Settled (item.part kind)
  zero : (item.part .total).value? = some 0 → ∀ kind, (item.part kind).value? = some 0

/-- **Contract** of `cost_for_usage`: the cost is known exactly for a usage that is costed. -/
theorem costForUsage_cases {catalog : PricingCatalog} {usage : TokenUsage} {item : CostBreakdown}
    (h : costForUsage usage catalog = .ok item) :
    (item.known = false ∧ ∀ pricing, ¬ CostedAt catalog usage pricing) ∨
      ∃ pricing, CostedAt catalog usage pricing ∧ PricedItem pricing item := by
  unfold costForUsage at h
  split at h
  · rename_i hsource
    obtain rfl := Except.ok.inj h
    exact Or.inl ⟨rfl, fun _ hcosted => hcosted.source hsource⟩
  rename_i hsource
  split at h
  · rename_i hnone
    obtain rfl := Except.ok.inj h
    refine Or.inl ⟨rfl, ?_⟩
    intro pricing hcosted
    rw [hcosted.priced] at hnone
    cases hnone
  rename_i pricing hpriced
  split at h
  · rename_i hcounts
    obtain rfl := Except.ok.inj h
    refine Or.inl ⟨rfl, ?_⟩
    intro _ hcosted
    rcases hcosted.counts with hinput | houtput
    · exact hinput hcounts.1
    · exact houtput hcounts.2
  rename_i hcounts
  right
  refine ⟨pricing, ⟨hsource, hpriced, by tauto⟩, ?_⟩
  simp only [bind_ok, pure_ok] at h
  obtain ⟨input_cost, hinput, cached_cost, hcached, output_cost, houtput, reasoning_cost,
    hreasoning, total, htotal, rfl⟩ := h
  obtain ⟨costs, hcosts⟩ : ∃ costs, costs = [input_cost, cached_cost, output_cost, reasoning_cost] :=
    ⟨_, rfl⟩
  rw [← hcosts, sumFrom_ok] at htotal
  have hsettled : ∀ cost ∈ costs, ∀ x, cost = some x → PyDecimal.Settled x := by
    rw [hcosts]
    simp only [List.forall_mem_cons]
    refine ⟨?_, ?_, ?_, ?_, by simp⟩
    · rintro x rfl
      exact settled_lineItem (pricing.unsigned (by simp)) hinput
    · rintro x rfl
      exact settled_lineItem (pricing.unsigned (by simp)) hcached
    · rintro x rfl
      exact settled_lineItem (pricing.unsigned (by simp)) houtput
    · rintro x rfl
      exact settled_reasoningCost hreasoning
  have hvalues : ∀ x ∈ costs.filterMap id, PyDecimal.Settled x := by
    intro x hx
    obtain ⟨cost, hcost, hsome⟩ := List.mem_filterMap.mp hx
    exact hsettled cost hcost x hsome
  have htotalSettled : PyDecimal.Settled (orZero (some total)) := by
    apply orZero_settled
    intro x hx
    obtain rfl := Option.some.inj hx
    exact settled_zero.sum hvalues htotal
  refine ⟨?_, rfl, rfl, ?_, ?_⟩
  · by_cases hreported : usage.source = .providerReported
    · simp [CostBreakdown.known, hreported]
    · simp [CostBreakdown.known, hreported]
  · intro kind
    cases kind with
    | input => exact orZero_settled (hsettled input_cost (by simp [hcosts]))
    | cachedInput => exact orZero_settled (hsettled cached_cost (by simp [hcosts]))
    | output => exact orZero_settled (hsettled output_cost (by simp [hcosts]))
    | reasoning => exact orZero_settled (hsettled reasoning_cost (by simp [hcosts]))
    | total => exact htotalSettled
  · -- The sum is zero, so each of its terms is.
    intro hzero kind
    have htotalZero : total.value? = some 0 := by
      replace hzero : (if isZero total then decimalZero else total).value? = some 0 := hzero
      split at hzero
      · rename_i hiszero
        exact isZero_iff.mp hiszero
      · exact hzero
    have hterms := (settled_zero.zero_of_sum hvalues htotal htotalZero).2
    have hcost : ∀ cost ∈ costs, ∀ x, cost = some x → x.value? = some 0 := by
      intro cost hcost x hx
      exact hterms x (List.mem_filterMap.mpr ⟨cost, hcost, hx⟩)
    cases kind with
    | input => exact orZero_value (hcost input_cost (by simp [hcosts]))
    | cachedInput => exact orZero_value (hcost cached_cost (by simp [hcosts]))
    | output => exact orZero_value (hcost output_cost (by simp [hcosts]))
    | reasoning => exact orZero_value (hcost reasoning_cost (by simp [hcosts]))
    | total => exact hzero

/-! ## Section 3: The breakdown -/

/-- `a == b` of costs that may be absent. -/
def SameCost : Option PyDecimal → Option PyDecimal → Prop :=
  Option.Rel fun a b => equal a b = true

theorem sameCost_some {a b : PyDecimal} (h : SameCost (some a) (some b)) : equal a b = true := by
  cases h with
  | some h => exact h

/-- `a == b` of breakdowns. -/
structure CostBreakdown.Same (a b : CostBreakdown) : Prop where
  currency : a.currency = b.currency
  input_cost : SameCost a.input_cost b.input_cost
  cached_input_cost : SameCost a.cached_input_cost b.cached_input_cost
  output_cost : SameCost a.output_cost b.output_cost
  reasoning_cost : SameCost a.reasoning_cost b.reasoning_cost
  total_cost : SameCost a.total_cost b.total_cost
  known_cost_subtotal : SameCost a.known_cost_subtotal b.known_cost_subtotal
  status : a.status = b.status
  pricing_source_url : a.pricing_source_url = b.pricing_source_url

/-- The sum of the known costs of a kind. -/
def partSum (catalog : PricingCatalog) (usages : List TokenUsage) (kind : CostKind) :
    Raises PyDecimal := do
  let items ← usages.mapM fun usage => costForUsage usage catalog
  sumFrom decimalZero ((items.filter CostBreakdown.known).map fun item => item.part kind)

/-- The usages that have a cost share a currency and a source. -/
def SameTariff (catalog : PricingCatalog) (usages : List TokenUsage) : Prop :=
  ∀ usage ∈ usages, ∀ other ∈ usages, ∀ pricing pricing', CostedAt catalog usage pricing →
    CostedAt catalog other pricing' →
      pricing.currency = pricing'.currency ∧ pricing.source_url = pricing'.source_url

/-- The five sums are the same in every order. -/
def SumsAgree (catalog : PricingCatalog) (usages : List TokenUsage) : Prop :=
  ∀ usages' : List TokenUsage, usages'.Perm usages → ∀ kind, ∃ s s',
    partSum catalog usages kind = .ok s ∧ partSum catalog usages' kind = .ok s' ∧
      equal s' s = true

/-- A total has one currency, and the breakdown is the same in every order. -/
structure OrderLaw (catalog : PricingCatalog) (usages : List TokenUsage) (cost : CostBreakdown) :
    Prop where
  currency : cost.total_cost ≠ none → ∀ usage ∈ usages, ∀ other ∈ usages, ∀ pricing pricing',
    catalog.lookup usage.provider usage.model = some pricing →
    catalog.lookup other.provider other.model = some pricing' →
      pricing.currency = pricing'.currency
  order : ∀ usages' : List TokenUsage, usages'.Perm usages →
    ∃ cost', aggregateCosts usages' catalog = .ok cost' ∧ cost'.Same cost

/-- The known costs of each kind fit together. -/
def CostsFit (catalog : PricingCatalog) (usages : List TokenUsage) : Prop :=
  ∀ items, (usages.mapM fun usage => costForUsage usage catalog) = .ok items → ∀ kind,
    FitsTogether ((items.filter CostBreakdown.known).map fun item => item.part kind)

/-- The loop over usages is the loop over their costs. -/
theorem foldlM_add {catalog : PricingCatalog} {usages : List TokenUsage}
    {tally final : CostTally} :
    usages.foldlM (CostTally.add catalog) tally = .ok final ↔
      ∃ items, (usages.mapM fun usage => costForUsage usage catalog) = .ok items ∧
        Tallied items tally final := by
  simp only [← foldlM_addItem, mapM_ok]
  induction usages generalizing tally with
  | nil => simp [pure_ok]
  | cons usage usages ih =>
    rw [List.foldlM_cons, bind_ok]
    simp only [ih, List.forall₂_cons_left_iff]
    constructor
    · rintro ⟨next, hnext, items, hitems, hfinal⟩
      rw [CostTally.add_eq, bind_ok] at hnext
      obtain ⟨item, hitem, hadd⟩ := hnext
      refine ⟨item :: items, ⟨item, items, hitem, hitems, rfl⟩, ?_⟩
      rw [List.foldlM_cons, hadd, ok_bind]
      exact hfinal
    · rintro ⟨_, ⟨item, items, hitem, hitems, rfl⟩, hfinal⟩
      rw [List.foldlM_cons, bind_ok] at hfinal
      obtain ⟨next, hadd, hrest⟩ := hfinal
      refine ⟨next, ?_, items, hitems, hrest⟩
      rw [CostTally.add_eq, hitem, ok_bind]
      exact hadd

/-- What `aggregate_costs` returns for usages. -/
theorem aggregateCosts_ok {catalog : PricingCatalog} {usages : List TokenUsage}
    {cost : CostBreakdown} (hne : usages ≠ []) :
    aggregateCosts usages catalog = .ok cost ↔
      ∃ items tally, (usages.mapM fun usage => costForUsage usage catalog) = .ok items ∧
        Tallied items {} tally ∧ tally.breakdown = cost := by
  unfold aggregateCosts
  rw [if_neg hne, bind_ok]
  simp only [foldlM_add, pure_ok]
  constructor
  · rintro ⟨tally, ⟨items, hitems, htallied⟩, hcost⟩
    exact ⟨items, tally, hitems, htallied, hcost⟩
  · rintro ⟨items, tally, hitems, htallied, hcost⟩
    exact ⟨tally, ⟨items, hitems, htallied⟩, hcost⟩

/-- The sums of the loop are the sums of the known costs. -/
theorem partSum_ok {catalog : PricingCatalog} {usages : List TokenUsage}
    {items : List CostBreakdown} {kind : CostKind} {s : PyDecimal}
    (hitems : (usages.mapM fun usage => costForUsage usage catalog) = .ok items) :
    partSum catalog usages kind = .ok s ↔
      sum? decimalZero ((items.filter CostBreakdown.known).map fun item => item.part kind) =
        some s := by
  unfold partSum
  rw [hitems, ok_bind, sumFrom_ok]

theorem start_part (kind : CostKind) : CostTally.part {} kind = decimalZero := by
  cases kind with
  | _ => rfl

theorem isZero_congr {a b : PyDecimal} (h : equal a b = true) : isZero a = isZero b := by
  rw [Bool.eq_iff_iff, isZero_iff, isZero_iff]
  constructor
  · intro ha
    exact PyDecimal.value_of_equal h ha
  · intro hb
    rw [PyDecimal.equal_comm] at h
    exact PyDecimal.value_of_equal h hb

/-- Equal sums, flags and sources make one breakdown. -/
theorem CostTally.breakdown_same {tally tally' : CostTally}
    (hparts : ∀ kind, equal (tally'.part kind) (tally.part kind) = true)
    (hcurrency : tally'.currency = tally.currency) (hurl : tally'.source_url = tally.source_url)
    (hunknown : tally'.has_unknown = tally.has_unknown)
    (hestimated : tally'.has_estimated = tally.has_estimated)
    (hmeasured : tally'.has_measured = tally.has_measured) :
    tally'.breakdown.Same tally.breakdown := by
  have hzero : isZero tally'.total_cost = isZero tally.total_cost := isZero_congr (hparts .total)
  unfold CostTally.breakdown
  rw [hcurrency, hurl, hunknown, hestimated, hmeasured, hzero]
  by_cases hhidden : tally.has_unknown = true ∧ isZero tally.total_cost = true
  · rw [if_pos hhidden, if_pos hhidden]
    exact ⟨rfl, .none, .none, .none, .none, .none, .none, rfl, rfl⟩
  · rw [if_neg hhidden, if_neg hhidden]
    refine ⟨rfl, .some (hparts .input), .some (hparts .cachedInput), .some (hparts .output),
      .some (hparts .reasoning), ?_, .some (hparts .total), rfl, rfl⟩
    cases tally.has_unknown with
    | true => exact .none
    | false => exact .some (hparts .total)

/-- A breakdown shows its currency and its source. -/
theorem CostTally.breakdown_source (tally : CostTally) :
    tally.breakdown.currency = tally.currency ∧
      tally.breakdown.pricing_source_url = tally.source_url := by
  unfold CostTally.breakdown
  split
  · exact ⟨rfl, rfl⟩
  · exact ⟨rfl, rfl⟩

/-- Breakdowns that are the same have the same sums, unless they hide them, and then the
    totals are zero. -/
theorem CostTally.parts_of_same {tally tally' : CostTally}
    (h : tally'.breakdown.Same tally.breakdown) :
    (∀ kind, equal (tally'.part kind) (tally.part kind) = true) ∨
      (isZero tally'.total_cost = true ∧ isZero tally.total_cost = true) := by
  unfold CostTally.breakdown at h
  by_cases hhidden' : tally'.has_unknown = true ∧ isZero tally'.total_cost = true
  · by_cases hhidden : tally.has_unknown = true ∧ isZero tally.total_cost = true
    · exact Or.inr ⟨hhidden'.2, hhidden.2⟩
    · rw [if_pos hhidden', if_neg hhidden] at h
      cases h.known_cost_subtotal
  · by_cases hhidden : tally.has_unknown = true ∧ isZero tally.total_cost = true
    · rw [if_neg hhidden', if_pos hhidden] at h
      cases h.known_cost_subtotal
    · rw [if_neg hhidden', if_neg hhidden] at h
      left
      intro kind
      cases kind with
      | input => exact sameCost_some h.input_cost
      | cachedInput => exact sameCost_some h.cached_input_cost
      | output => exact sameCost_some h.output_cost
      | reasoning => exact sameCost_some h.reasoning_cost
      | total => exact sameCost_some h.known_cost_subtotal

/-- A loop that overwrites leaves what the elements agree on. -/
theorem foldl_overwrite {α β : Type} {f : β → α → β} {c start : β} {xs : List α}
    (h : ∀ x ∈ xs, ∀ acc, f acc x = c) :
    xs.foldl f start = if xs = [] then start else c := by
  induction xs generalizing start with
  | nil => rfl
  | cons x xs ih =>
    rw [List.foldl_cons, ih fun y hy => h y (List.mem_cons_of_mem _ hy), h x List.mem_cons_self]
    simp

/-- The known costs are those of usages that are costed. -/
theorem known_items {catalog : PricingCatalog} {usages : List TokenUsage}
    {items : List CostBreakdown}
    (hitems : (usages.mapM fun usage => costForUsage usage catalog) = .ok items) :
    ∀ item ∈ items.filter CostBreakdown.known, ∃ usage ∈ usages, ∃ pricing,
      CostedAt catalog usage pricing ∧ PricedItem pricing item := by
  intro item hitem
  obtain ⟨hmem, hknown⟩ := List.mem_filter.mp hitem
  obtain ⟨usage, husage, hcost⟩ := exists_of_mem_right (mapM_ok.mp hitems) hmem
  rcases costForUsage_cases hcost with ⟨hunknown, -⟩ | ⟨pricing, hcosted, hpriced⟩
  · rw [hknown] at hunknown
    cases hunknown
  · exact ⟨usage, husage, pricing, hcosted, hpriced⟩

/-- A pricing that is read names its source. -/
theorem source_url_ne {payload : Json.Dict} {read : ReadCatalog} {provider model : String}
    {pricing : ModelPricing} (hread : pricingCatalogFromMapping payload = .ok read)
    (h : read.catalog.lookup provider model = some pricing) : pricing.source_url ≠ "" := by
  obtain ⟨items, -, hentries⟩ := pricingCatalogFromMapping_ok hread
  obtain ⟨entry, hentry, rfl⟩ := List.mem_map.mp (List.mem_of_find?_eq_some h)
  obtain ⟨item, -, hitem⟩ := exists_of_mem_right hentries hentry
  exact nonBlank_ne_empty hitem.source_url

section order
variable {payload : Json.Dict} {read : ReadCatalog} {usages : List TokenUsage}
  {cost : CostBreakdown}

/-- The last usage that has a cost gives the currency and the source. -/
theorem tariff_of_last {usage : TokenUsage} {pricing : ModelPricing}
    (hread : pricingCatalogFromMapping payload = .ok read)
    (hcosted : CostedAt read.catalog usage pricing)
    (h : aggregateCosts (usages ++ [usage]) read.catalog = .ok cost) :
    cost.currency = some pricing.currency ∧
      cost.pricing_source_url = some pricing.source_url := by
  obtain ⟨all, tally, hall, htallied, rfl⟩ := (aggregateCosts_ok (by simp)).mp h
  rw [List.mapM_append, bind_ok] at hall
  obtain ⟨items, -, hlast⟩ := hall
  simp only [List.mapM_cons, List.mapM_nil, bind_ok, pure_ok] at hlast
  obtain ⟨_, ⟨item, hitem, _, rfl, rfl⟩, rfl⟩ := hlast
  obtain ⟨hcurrency, hurl⟩ := CostTally.breakdown_source tally
  rw [hcurrency, hurl, htallied.currency, htallied.source_url, List.filter_append]
  rcases costForUsage_cases hitem with ⟨-, hnot⟩ | ⟨pricing', hcosted', hpriced⟩
  · exact absurd hcosted (hnot pricing)
  obtain rfl : pricing' = pricing :=
    Option.some.inj (hcosted'.priced.symm.trans hcosted.priced)
  rw [List.filter_cons_of_pos hpriced.known, List.filter_nil, List.foldl_append,
    List.foldl_append, List.foldl_cons, List.foldl_nil, List.foldl_cons, List.foldl_nil,
    hpriced.currency, hpriced.source_url]
  refine ⟨rfl, ?_⟩
  have hne := source_url_ne hread hcosted.priced
  simp [hne]

/-- Where the breakdown is the same in every order, the usages that have a cost share a
    currency and a source: each of them can be the last. -/
theorem OrderLaw.sameTariff (hread : pricingCatalogFromMapping payload = .ok read)
    (hlaw : OrderLaw read.catalog usages cost) : SameTariff read.catalog usages := by
  have hlast : ∀ usage ∈ usages, ∀ pricing, CostedAt read.catalog usage pricing →
      cost.currency = some pricing.currency ∧
        cost.pricing_source_url = some pricing.source_url := by
    intro usage husage pricing hcosted
    obtain ⟨before, after, rfl⟩ := List.append_of_mem husage
    have hperm : ((before ++ after) ++ [usage]).Perm (before ++ usage :: after) := by
      rw [List.append_assoc]
      exact (List.perm_append_comm).append_left before
    obtain ⟨cost', hcost', hsame⟩ := hlaw.order _ hperm
    rw [← hsame.currency, ← hsame.pricing_source_url]
    exact tariff_of_last hread hcosted hcost'
  intro usage husage other hother pricing pricing' hcosted hcosted'
  obtain ⟨hcurrency, hurl⟩ := hlast usage husage pricing hcosted
  obtain ⟨hcurrency', hurl'⟩ := hlast other hother pricing' hcosted'
  exact ⟨Option.some.inj (hcurrency.symm.trans hcurrency'),
    Option.some.inj (hurl.symm.trans hurl')⟩

/-- A total of zero is made of zeros. -/
theorem Tallied.parts_zero {catalog : PricingCatalog} {items : List CostBreakdown}
    {tally : CostTally} (h : Tallied items {} tally)
    (hitems : (usages.mapM fun usage => costForUsage usage catalog) = .ok items)
    (hzero : isZero tally.total_cost = true) (kind : CostKind) :
    (tally.part kind).value? = some 0 := by
  have hknown := known_items hitems
  have htotals := h.parts .total
  rw [start_part] at htotals
  have hterms := (settled_zero.zero_of_sum (by
    intro x hx
    obtain ⟨item, hitem, rfl⟩ := List.mem_map.mp hx
    obtain ⟨_, _, _, _, hpriced⟩ := hknown item hitem
    exact hpriced.settled .total) htotals (isZero_iff.mp hzero)).2
  have hparts := h.parts kind
  rw [start_part] at hparts
  refine PyDecimal.zero_sum decimalZero_value ?_ hparts
  intro x hx
  obtain ⟨item, hitem, rfl⟩ := List.mem_map.mp hx
  obtain ⟨_, _, _, _, hpriced⟩ := hknown item hitem
  exact hpriced.zero (hterms _ (List.mem_map_of_mem hitem)) kind

/-- Where the breakdown is the same in every order, so are the sums. -/
theorem OrderLaw.sumsAgree {catalog : PricingCatalog} (hne : usages ≠ [])
    (hcost : aggregateCosts usages catalog = .ok cost) (hlaw : OrderLaw catalog usages cost) :
    SumsAgree catalog usages := by
  intro usages' hperm kind
  have hne' : usages' ≠ [] := by
    rintro rfl
    exact hne hperm.nil_eq.symm
  obtain ⟨cost', hcost', hsame⟩ := hlaw.order usages' hperm
  obtain ⟨items, tally, hitems, htallied, rfl⟩ := (aggregateCosts_ok hne).mp hcost
  obtain ⟨items', tally', hitems', htallied', rfl⟩ := (aggregateCosts_ok hne').mp hcost'
  refine ⟨tally.part kind, tally'.part kind, ?_, ?_, ?_⟩
  · rw [partSum_ok hitems, ← start_part kind]
    exact htallied.parts kind
  · rw [partSum_ok hitems', ← start_part kind]
    exact htallied'.parts kind
  · rcases CostTally.parts_of_same hsame with hparts | ⟨hzero', hzero⟩
    · exact hparts kind
    · exact PyDecimal.equal_of_value (htallied'.parts_zero hitems' hzero' kind)
        (htallied.parts_zero hitems hzero kind)

/-- Costs of one tariff leave that tariff. -/
theorem foldl_tariff {items : List CostBreakdown} {currency url : String} (hne : items ≠ [])
    (hurl : url ≠ "")
    (h : ∀ item ∈ items, item.currency = some currency ∧ item.pricing_source_url = some url) :
    items.foldl (fun kept item => item.currency <|> kept) none = some currency ∧
      items.foldl (fun kept item => if item.pricing_source_url.getD "" ≠ "" then
        item.pricing_source_url else kept) none = some url := by
  constructor
  · rw [foldl_overwrite (c := some currency), if_neg hne]
    intro item hitem kept
    rw [(h item hitem).1]
    rfl
  · rw [foldl_overwrite (c := some url), if_neg hne]
    intro item hitem kept
    rw [(h item hitem).2]
    simp [hurl]

/-- The flags and the tariff of a tally do not depend on the order of costs that share a
    tariff. -/
theorem Tallied.breakdown_perm {items items' : List CostBreakdown} {tally tally' : CostTally}
    (hread : pricingCatalogFromMapping payload = .ok read)
    (hitems : (usages.mapM fun usage => costForUsage usage read.catalog) = .ok items)
    (htariff : SameTariff read.catalog usages) (hperm : items'.Perm items)
    (h : Tallied items {} tally) (h' : Tallied items' {} tally')
    (hparts : ∀ kind, equal (tally'.part kind) (tally.part kind) = true) :
    tally'.breakdown.Same tally.breakdown := by
  have hknown := known_items hitems
  have hfilter : (items'.filter CostBreakdown.known).Perm (items.filter CostBreakdown.known) :=
    hperm.filter _
  have hflag : ∀ test : CostBreakdown → Bool, items'.any test = items.any test :=
    fun test => hperm.any_eq
  have htariffs : tally'.currency = tally.currency ∧ tally'.source_url = tally.source_url := by
    rw [h.currency, h'.currency, h.source_url, h'.source_url]
    by_cases hempty : items.filter CostBreakdown.known = []
    · rw [hempty] at hfilter ⊢
      rw [hfilter.eq_nil]
      exact ⟨rfl, rfl⟩
    · obtain ⟨first, hfirst⟩ := List.exists_mem_of_ne_nil _ hempty
      obtain ⟨usage, husage, pricing, hcosted, -⟩ := hknown first hfirst
      -- Each known cost has the tariff of the first one.
      have hsame : ∀ item ∈ items.filter CostBreakdown.known,
          item.currency = some pricing.currency ∧
            item.pricing_source_url = some pricing.source_url := by
        intro item hitem
        obtain ⟨other, hother, pricing', hcosted', hpriced'⟩ := hknown item hitem
        obtain ⟨hcurrency, hurl⟩ :=
          htariff usage husage other hother pricing pricing' hcosted hcosted'
        rw [hpriced'.currency, hpriced'.source_url, hcurrency, hurl]
        exact ⟨rfl, rfl⟩
      have hurl := source_url_ne hread hcosted.priced
      have hempty' : items'.filter CostBreakdown.known ≠ [] := by
        intro hnil
        rw [hnil] at hfilter
        exact hempty hfilter.nil_eq.symm
      have hleft := foldl_tariff hempty' hurl fun item hitem =>
        hsame item (hfilter.mem_iff.mp hitem)
      have hright := foldl_tariff hempty hurl hsame
      exact ⟨hleft.1.trans hright.1.symm, hleft.2.trans hright.2.symm⟩
  exact CostTally.breakdown_same hparts htariffs.1 htariffs.2
    (by rw [h.unknown, h'.unknown, hflag]) (by rw [h.estimated, h'.estimated, hflag])
    (by rw [h.measured, h'.measured, hflag])

/-- A total is shown only where each cost is known. -/
theorem Tallied.known_of_total {items : List CostBreakdown} {tally : CostTally}
    (h : Tallied items {} tally) (htotal : tally.breakdown.total_cost ≠ none) :
    ∀ item ∈ items, item.known = true := by
  have hunknown : tally.has_unknown = false := by
    by_contra hmarked
    have hmark : tally.has_unknown = true := by simpa using hmarked
    apply htotal
    unfold CostTally.breakdown
    simp only [hmark]
    split
    · rfl
    · rfl
  rw [h.unknown, Bool.or_eq_false_iff, List.any_eq_false] at hunknown
  intro item hitem
  simpa using hunknown.2 item hitem

/-- With one tariff and sums that agree, the order changes nothing. -/
theorem OrderLaw.of_agree (hread : pricingCatalogFromMapping payload = .ok read)
    (hne : usages ≠ []) (hcost : aggregateCosts usages read.catalog = .ok cost)
    (htariff : SameTariff read.catalog usages) (hsums : SumsAgree read.catalog usages) :
    OrderLaw read.catalog usages cost := by
  obtain ⟨items, tally, hitems, htallied, rfl⟩ := (aggregateCosts_ok hne).mp hcost
  constructor
  · intro htotal usage husage other hother pricing pricing' hpriced hpriced'
    have hcosted : ∀ usage ∈ usages, ∀ pricing,
        read.catalog.lookup usage.provider usage.model = some pricing →
          CostedAt read.catalog usage pricing := by
      intro usage husage pricing hpriced
      obtain ⟨item, hitem, hcost⟩ := exists_of_mem_left (mapM_ok.mp hitems) husage
      have hknown := htallied.known_of_total htotal item hitem
      rcases costForUsage_cases hcost with ⟨hunknown, -⟩ | ⟨pricing', hcosted, -⟩
      · rw [hknown] at hunknown
        cases hunknown
      · obtain rfl : pricing' = pricing :=
          Option.some.inj (hcosted.priced.symm.trans hpriced)
        exact hcosted
    exact (htariff usage husage other hother pricing pricing'
      (hcosted usage husage pricing hpriced) (hcosted other hother pricing' hpriced')).1
  · intro usages' hperm
    have hne' : usages' ≠ [] := by
      rintro rfl
      exact hne hperm.nil_eq.symm
    obtain ⟨items', hitems', hperm'⟩ := Procurement.mapM_perm hperm.symm hitems
    choose sums sums' hsum hsum' hequal using hsums usages' hperm
    -- The loop over the other order, with the sums that it comes to.
    obtain ⟨tally', htallied', hparts'⟩ :
        ∃ tally', Tallied items' {} tally' ∧ ∀ kind, tally'.part kind = sums' kind := by
      refine ⟨⟨(items'.filter CostBreakdown.known).foldl
        (fun currency item => item.currency <|> currency) none, sums' .input,
        sums' .cachedInput, sums' .output, sums' .reasoning, sums' .total,
        items'.any fun item => !item.known, items'.any fun item => item.status == .estimated,
        items'.any fun item => item.status == .measured,
        (items'.filter CostBreakdown.known).foldl (fun url item =>
          if item.pricing_source_url.getD "" ≠ "" then item.pricing_source_url else url) none⟩,
        ⟨?_, rfl, rfl, rfl, rfl, rfl⟩, ?_⟩
      · intro kind
        rw [start_part, (partSum_ok hitems').mp (hsum' kind)]
        cases kind with
        | _ => rfl
      · intro kind
        cases kind with
        | _ => rfl
    refine ⟨tally'.breakdown,
      (aggregateCosts_ok hne').mpr ⟨items', tally', hitems', htallied', rfl⟩, ?_⟩
    refine htallied.breakdown_perm hread hitems htariff hperm'.symm htallied' ?_
    intro kind
    have hpart : tally.part kind = sums kind := by
      have hsums := htallied.parts kind
      rw [start_part, (partSum_ok hitems).mp (hsum kind)] at hsums
      exact (Option.some.inj hsums).symm
    rw [hparts', hpart]
    exact hequal kind

/-- Costs that fit together have the same sums in every order. -/
theorem CostsFit.sumsAgree {catalog : PricingCatalog} {items : List CostBreakdown}
    (hitems : (usages.mapM fun usage => costForUsage usage catalog) = .ok items)
    (hfit : CostsFit catalog usages) : SumsAgree catalog usages := by
  intro usages' hperm kind
  obtain ⟨items', hitems', hperm'⟩ := Procurement.mapM_perm hperm.symm hitems
  have hcosts : ((items'.filter CostBreakdown.known).map fun item => item.part kind).Perm
      ((items.filter CostBreakdown.known).map fun item => item.part kind) :=
    (hperm'.symm.filter _).map _
  obtain ⟨s, s', hs, hs', hequal⟩ := (hfit items hitems kind).sum_perm hcosts decimalZero_value
  exact ⟨s, s', (partSum_ok hitems).mpr hs, (partSum_ok hitems').mpr hs', hequal⟩

end order

/-- A million output tokens of a model. -/
def outputMillion (model : String) (h : nonBlank model = true) : TokenUsage where
  provider := "provider"
  model := model
  source := .providerReported
  output_tokens := some 1000000
  provider_text := provider_name
  model_text := h
  unknown_empty := outputMillion_known
  reported_tokens := outputMillion_reported

/-- A model in dollars and another one in another currency. -/
def twoModels (currency : String) : Json.Dict :=
  catalogPayload [pricingEntry "model-a" "USD" "1", pricingEntry "model-b" currency "1"]

def twoUsages : List TokenUsage :=
  [outputMillion "model-a" (by decide), outputMillion "model-b" (by decide)]

end CBrain

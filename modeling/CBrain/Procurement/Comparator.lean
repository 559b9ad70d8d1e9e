import CBrain.Agent.Record
import CBrain.Dispatch
import CBrain.Evaluation.CostComparison
import CBrain.Framework.DecimalRounding
import CBrain.Framework.Ranking
import CBrain.Framework.Table
import Mathlib.Data.Prod.Lex
import Mathlib.Data.String.Basic
import Mathlib.Order.WithBot

/-! # Comparing quotes

    Models `cbrain/procurement/comparator.py`: the inputs with the checks of
    their `__post_init__`, the landed cost of each quote, the scores and the
    receipt with its digest. -/

namespace CBrain.Procurement

open Json (Dict)

/-! ## Section 1: Amounts -/

def valueError (message : String) : Exn := Exn.of .valueError message

/-- The exponents of `MONEY` and `SCORE`. -/
def MONEY : Int := -2
def SCORE : Int := -8

def DEFAULT_WEIGHT_COST : PyDecimal := .finite false 7 (-1)
def DEFAULT_WEIGHT_RELIABILITY : PyDecimal := .finite false 3 (-1)

def TERM_DAYS : List (String × Nat) :=
  [("ADVANCE", 0), ("LC_SIGHT", 0), ("NET_15", 15), ("NET_30", 30), ("NET_45", 45)]

/-- `_require_decimal`. -/
def requireDecimal (value : PyDecimal) (name : String) : Raises (PLift (value.isFinite = true)) :=
  ensure (value.isFinite = true) (valueError s!"{name} must be a finite Decimal")

/-- `_money_text`. -/
def moneyText (value : PyDecimal) : Raises String := do
  let cents ← computed (value.quantize MONEY)
  pure cents.text

/-- `_score_text`. -/
def scoreText (value : PyDecimal) : Raises String := do
  let rounded ← computed (value.quantize SCORE)
  pure rounded.text

/-- `_decimal_text`. -/
def decimalText (value : PyDecimal) : String := value.text

/-- A finite number that is not below zero. -/
structure IsAmount (x : PyDecimal) : Prop where
  finite : x.isFinite = true
  nonneg : x.lt? (PyDecimal.ofInt 0) = some false

/-- The check of one amount. -/
def requireAmount (value : PyDecimal) (name : String) : Raises (PLift (IsAmount value)) := do
  let ⟨h₁⟩ ← requireDecimal value name
  let ⟨h₂⟩ ← ensure (value.lt? (PyDecimal.ofInt 0) = some false)
    (valueError s!"{name} must be non-negative")
  pure ⟨⟨h₁, h₂⟩⟩

/-- The check of one text. -/
def ensureText (value name : String) : Raises (PLift (nonBlank value = true)) :=
  ensure (nonBlank value = true) (valueError s!"{name} must be non-empty text")

/-! ## Section 2: Digests -/

/-- `_canonical`. -/
def canonical (value : Dict) (path : String) : Raises ByteArray := do
  require (Json.finite value.json = true) (valueError s!"{path} must contain finite JSON values")
  pure (Json.canonical value.json)

/-- `json.loads`, where an object is expected. -/
def loadsObject (bytes : ByteArray) (message : String) : Raises Dict :=
  (restoreObject bytes).mapError fun e =>
    if e.kind = .jsonDecodeError then e else valueError message

theorem canonical_ok {value : Dict} {path : String} {bytes : ByteArray} :
    canonical value path = .ok bytes ↔
      Json.finite value.json = true ∧ Json.canonical value.json = bytes := by
  unfold canonical
  rw [require_bind_ok, pure_ok]

theorem loadsObject_canonical (value : Dict) (message : String) :
    loadsObject (Json.canonical value.json) message = .ok value := by
  unfold loadsObject
  rw [restoreObject_canonical]
  rfl

/-! ## Section 3: Inputs -/

/-- `SourcingPolicy`. -/
structure SourcingPolicy where
  annual_cost_of_capital : PyDecimal
  input_credit_eligible : Bool
  weight_cost : PyDecimal := DEFAULT_WEIGHT_COST
  weight_reliability : PyDecimal := DEFAULT_WEIGHT_RELIABILITY
  annual_cost_of_capital_amount : IsAmount annual_cost_of_capital
  weight_cost_amount : IsAmount weight_cost
  weight_reliability_amount : IsAmount weight_reliability
  weights_sum : (weight_cost.add? weight_reliability).bind PyDecimal.value? = some 1

/-- `SourcingPolicy.__post_init__`. -/
def SourcingPolicy.new (annual_cost_of_capital : PyDecimal) (input_credit_eligible : Bool)
    (weight_cost weight_reliability : PyDecimal) : Raises SourcingPolicy := do
  let ⟨h₁⟩ ← requireDecimal annual_cost_of_capital "annual_cost_of_capital"
  let ⟨h₂⟩ ← requireDecimal weight_cost "weight_cost"
  let ⟨h₃⟩ ← requireDecimal weight_reliability "weight_reliability"
  let ⟨h₄⟩ ← ensure (annual_cost_of_capital.lt? (PyDecimal.ofInt 0) = some false)
    (valueError "annual_cost_of_capital must be non-negative")
  let ⟨h₅⟩ ← ensure (weight_cost.lt? (PyDecimal.ofInt 0) = some false ∧
    weight_reliability.lt? (PyDecimal.ofInt 0) = some false)
    (valueError "sourcing weights must be non-negative")
  let _ ← computed (weight_cost.add? weight_reliability)
  let ⟨h₆⟩ ← ensure ((weight_cost.add? weight_reliability).bind PyDecimal.value? = some 1)
    (valueError "sourcing weights must sum to 1")
  pure
    { annual_cost_of_capital := annual_cost_of_capital
      input_credit_eligible := input_credit_eligible
      weight_cost := weight_cost
      weight_reliability := weight_reliability
      annual_cost_of_capital_amount := ⟨h₁, h₄⟩
      weight_cost_amount := ⟨h₂, h₅.1⟩
      weight_reliability_amount := ⟨h₃, h₅.2⟩
      weights_sum := h₆ }

/-- `SourcingPolicy.to_payload`. -/
def SourcingPolicy.payload (policy : SourcingPolicy) : Dict :=
  object
    [("annual_cost_of_capital", .str (decimalText policy.annual_cost_of_capital)),
      ("input_credit_eligible", ⟨.bool policy.input_credit_eligible, Json.WF.bool _⟩),
      ("weight_cost", .str (decimalText policy.weight_cost)),
      ("weight_reliability", .str (decimalText policy.weight_reliability))]

/-- `SourcingPolicy.digest`. -/
def SourcingPolicy.digest (policy : SourcingPolicy) : Raises String := do
  let bytes ← canonical policy.payload "sourcing policy"
  pure (sha256Digest bytes)

/-- `QuoteInputs`. -/
structure QuoteInputs where
  quote_id : String
  vendor_id : String
  grade : String
  tonnes : PyDecimal
  rate_per_tonne : PyDecimal
  freight_per_tonne : PyDecimal
  gst_rate : PyDecimal
  payment_terms : String
  quote_digest : String
  quote_id_text : nonBlank quote_id = true
  vendor_id_text : nonBlank vendor_id = true
  grade_text : nonBlank grade = true
  quote_digest_text : nonBlank quote_digest = true
  payment_terms_supported : (TERM_DAYS.lookup payment_terms).isSome = true
  rate_per_tonne_amount : IsAmount rate_per_tonne
  freight_per_tonne_amount : IsAmount freight_per_tonne
  gst_rate_amount : IsAmount gst_rate
  tonnes_finite : tonnes.isFinite = true
  tonnes_pos : (PyDecimal.ofInt 0).lt? tonnes = some true

/-- `QuoteInputs.__post_init__`. -/
def QuoteInputs.new (quote_id vendor_id grade : String)
    (tonnes rate_per_tonne freight_per_tonne gst_rate : PyDecimal)
    (payment_terms quote_digest : String) : Raises QuoteInputs := do
  let ⟨h₁⟩ ← ensureText quote_id "quote_id"
  let ⟨h₂⟩ ← ensureText vendor_id "vendor_id"
  let ⟨h₃⟩ ← ensureText grade "grade"
  let _ ← ensureText payment_terms "payment_terms"
  let ⟨h₄⟩ ← ensureText quote_digest "quote_digest"
  let ⟨h₅⟩ ← ensure ((TERM_DAYS.lookup payment_terms).isSome = true)
    (valueError "payment_terms are not supported")
  let ⟨h₆⟩ ← requireAmount tonnes "tonnes"
  let ⟨h₇⟩ ← requireAmount rate_per_tonne "rate_per_tonne"
  let ⟨h₈⟩ ← requireAmount freight_per_tonne "freight_per_tonne"
  let ⟨h₉⟩ ← requireAmount gst_rate "gst_rate"
  let ⟨h₁₀⟩ ← ensure ((PyDecimal.ofInt 0).lt? tonnes = some true)
    (valueError "tonnes must be positive")
  pure
    { quote_id := quote_id
      vendor_id := vendor_id
      grade := grade
      tonnes := tonnes
      rate_per_tonne := rate_per_tonne
      freight_per_tonne := freight_per_tonne
      gst_rate := gst_rate
      payment_terms := payment_terms
      quote_digest := quote_digest
      quote_id_text := h₁
      vendor_id_text := h₂
      grade_text := h₃
      quote_digest_text := h₄
      payment_terms_supported := h₅
      rate_per_tonne_amount := h₇
      freight_per_tonne_amount := h₈
      gst_rate_amount := h₉
      tonnes_finite := h₆.finite
      tonnes_pos := h₁₀ }

/-- `ReliabilityInputs`. -/
structure ReliabilityInputs where
  vendor_id : String
  orders_total : Nat
  on_time_pct : PyDecimal
  short_delivery_pct : PyDecimal
  quality_rejection_pct : PyDecimal
  avg_delay_days : PyDecimal
  vendor_id_text : nonBlank vendor_id = true
  on_time_pct_amount : IsAmount on_time_pct
  short_delivery_pct_amount : IsAmount short_delivery_pct
  quality_rejection_pct_amount : IsAmount quality_rejection_pct
  avg_delay_days_amount : IsAmount avg_delay_days

/-- `ReliabilityInputs.__post_init__`. -/
def ReliabilityInputs.new (vendor_id : String) (orders_total : Int)
    (on_time_pct short_delivery_pct quality_rejection_pct avg_delay_days : PyDecimal) :
    Raises ReliabilityInputs := do
  let ⟨h₁⟩ ← ensureText vendor_id "vendor_id"
  require (0 ≤ orders_total) (valueError "orders_total must be a non-negative integer")
  let ⟨h₂⟩ ← requireAmount on_time_pct "on_time_pct"
  let ⟨h₃⟩ ← requireAmount short_delivery_pct "short_delivery_pct"
  let ⟨h₄⟩ ← requireAmount quality_rejection_pct "quality_rejection_pct"
  let ⟨h₅⟩ ← requireAmount avg_delay_days "avg_delay_days"
  pure
    { vendor_id := vendor_id
      orders_total := orders_total.toNat
      on_time_pct := on_time_pct
      short_delivery_pct := short_delivery_pct
      quality_rejection_pct := quality_rejection_pct
      avg_delay_days := avg_delay_days
      vendor_id_text := h₁
      on_time_pct_amount := h₂
      short_delivery_pct_amount := h₃
      quality_rejection_pct_amount := h₄
      avg_delay_days_amount := h₅ }

/-! ## Section 4: Costs -/

/-- `gst_effect`. -/
def gstEffect (rate freight gst_rate : PyDecimal) (input_credit_eligible : Bool) :
    Raises PyDecimal := do
  let _ ← requireDecimal rate "rate"
  let _ ← requireDecimal freight "freight"
  let _ ← requireDecimal gst_rate "gst_rate"
  if input_credit_eligible then pure (.finite false 0 (-2))
  else
    let taxable ← computed (rate.add? freight)
    let tax ← computed (taxable.mul? gst_rate)
    computed (tax.quantize MONEY)

/-- `credit_cost`. -/
def creditCost (taxable : PyDecimal) (payment_terms : String)
    (annual_cost_of_capital : PyDecimal) : Raises PyDecimal := do
  let _ ← requireDecimal taxable "taxable"
  let _ ← requireDecimal annual_cost_of_capital "annual_cost_of_capital"
  match TERM_DAYS.lookup payment_terms with
  | none => .error (valueError "payment_terms are not supported")
  | some days => do
    let annual ← computed (taxable.mul? annual_cost_of_capital)
    let term ← computed (annual.mul? (PyDecimal.ofInt days))
    let saved ← computed (PyDecimal.neg? term)
    let daily ← computed (saved.div? (PyDecimal.ofInt 365))
    computed (daily.quantize MONEY)

/-- `reliability_index`. -/
def reliabilityIndex (on_time_pct : PyDecimal) : Raises PyDecimal := do
  let _ ← requireDecimal on_time_pct "on_time_pct"
  let late ← computed ((PyDecimal.ofInt 100).sub? on_time_pct)
  let share ← computed (late.div? (PyDecimal.ofInt 100))
  computed (share.quantize SCORE)

/-- `_Draft`. -/
structure Draft where
  quote : QuoteInputs
  gst : PyDecimal
  credit : PyDecimal
  landed : PyDecimal
  reliability_index : PyDecimal

/-- The tax, the credit and the landed cost of a quote. -/
def costsOf (policy : SourcingPolicy) (quote : QuoteInputs) :
    Raises (PyDecimal × PyDecimal × PyDecimal) := do
  let taxable ← computed (quote.rate_per_tonne.add? quote.freight_per_tonne)
  let gst ← gstEffect quote.rate_per_tonne quote.freight_per_tonne quote.gst_rate
    policy.input_credit_eligible
  let credit ← creditCost taxable quote.payment_terms policy.annual_cost_of_capital
  let taxed ← computed (taxable.add? gst)
  let total ← computed (taxed.add? credit)
  let landed ← computed (total.quantize MONEY)
  pure (gst, credit, landed)

/-- The draft of one quote. -/
def draftOf (policy : SourcingPolicy) (reliability_by_vendor : Table String ReliabilityInputs)
    (quote : QuoteInputs) : Raises Draft :=
  match reliability_by_vendor.get? quote.vendor_id with
  | none => .error (Exn.of .keyError quote.vendor_id)
  | some record => do
    let (gst, credit, landed) ← costsOf policy quote
    let reliability_index ← reliabilityIndex record.on_time_pct
    pure
      { quote := quote
        gst := gst
        credit := credit
        landed := landed
        reliability_index := reliability_index }

/-- `max`: the first of the greatest. -/
def maxDecimal (first : PyDecimal) (rest : List PyDecimal) : PyDecimal :=
  rest.foldl (fun best x => if best.lt? x = some true then x else best) first

/-- The greatest landed cost. -/
def peakLanded : List Draft → Raises PyDecimal
  | [] => .error (valueError "max() arg is an empty sequence")
  | item :: items => .ok (maxDecimal item.landed (items.map Draft.landed))

/-- `LandedCostBreakdown`. -/
structure LandedCostBreakdown where
  vendor_id : String
  quote_id : String
  rate_per_tonne : PyDecimal
  freight_per_tonne : PyDecimal
  gst_effect_per_tonne : PyDecimal
  credit_cost_per_tonne : PyDecimal
  landed_cost_per_tonne : PyDecimal
  normalized_landed_cost : PyDecimal
  reliability_index : PyDecimal
  score : PyDecimal
  quote_digest : String
  deriving DecidableEq

/-- `LandedCostBreakdown.to_payload`. -/
def LandedCostBreakdown.payload (row : LandedCostBreakdown) : Raises Dict := do
  let credit_cost_per_tonne ← moneyText row.credit_cost_per_tonne
  let freight_per_tonne ← moneyText row.freight_per_tonne
  let gst_effect_per_tonne ← moneyText row.gst_effect_per_tonne
  let landed_cost_per_tonne ← moneyText row.landed_cost_per_tonne
  let normalized_landed_cost ← scoreText row.normalized_landed_cost
  let rate_per_tonne ← moneyText row.rate_per_tonne
  let reliability_index ← scoreText row.reliability_index
  let score ← scoreText row.score
  pure (object
    [("credit_cost_per_tonne", .str credit_cost_per_tonne),
      ("freight_per_tonne", .str freight_per_tonne),
      ("gst_effect_per_tonne", .str gst_effect_per_tonne),
      ("landed_cost_per_tonne", .str landed_cost_per_tonne),
      ("normalized_landed_cost", .str normalized_landed_cost),
      ("quote_digest", .str row.quote_digest), ("quote_id", .str row.quote_id),
      ("rate_per_tonne", .str rate_per_tonne), ("reliability_index", .str reliability_index),
      ("score", .str score), ("vendor_id", .str row.vendor_id)])

/-- The row of one draft. -/
def rowOf (policy : SourcingPolicy) (peak : PyDecimal) (item : Draft) :
    Raises LandedCostBreakdown := do
  let share ← computed (item.landed.div? peak)
  let normalized ← computed (share.quantize SCORE)
  let cost ← computed (policy.weight_cost.mul? normalized)
  let risk ← computed (policy.weight_reliability.mul? item.reliability_index)
  let total ← computed (cost.add? risk)
  let score ← computed (total.quantize SCORE)
  let rate_per_tonne ← computed (item.quote.rate_per_tonne.quantize MONEY)
  let freight_per_tonne ← computed (item.quote.freight_per_tonne.quantize MONEY)
  pure
    { vendor_id := item.quote.vendor_id
      quote_id := item.quote.quote_id
      rate_per_tonne := rate_per_tonne
      freight_per_tonne := freight_per_tonne
      gst_effect_per_tonne := item.gst
      credit_cost_per_tonne := item.credit
      landed_cost_per_tonne := item.landed
      normalized_landed_cost := normalized
      reliability_index := item.reliability_index
      score := score
      quote_digest := item.quote.quote_digest }

/-! ## Section 5: The comparison -/

/-- `ComparisonReceipt`. -/
structure ComparisonReceipt where
  ranked : List LandedCostBreakdown
  policy_digest : String
  quote_digests : List String
  computed_at : String
  comparison_digest : String
  payload_json : ByteArray
  deriving DecidableEq

/-- `ComparisonReceipt.ranked_vendor_ids`. -/
def ComparisonReceipt.rankedVendorIds (receipt : ComparisonReceipt) : List String :=
  receipt.ranked.map LandedCostBreakdown.vendor_id

/-- `ComparisonReceipt.to_payload`. -/
def ComparisonReceipt.toPayload (receipt : ComparisonReceipt) : Raises Dict :=
  loadsObject receipt.payload_json "comparison receipt payload is invalid"

/-- `_reliability_map`. -/
def reliabilityMap (reliability : List ReliabilityInputs) :
    Raises (Table String ReliabilityInputs) :=
  reliability.foldlM (fun mapped record =>
    match mapped.insert? record.vendor_id record with
    | some mapped => .ok mapped
    | none => .error (valueError "reliability records must be unique per vendor")) Table.empty

/-- The order of the rows: by score, then by vendor. -/
def rankKey (row : LandedCostBreakdown) : Lex (WithBot ℚ × String) :=
  toLex (row.score.value?, row.vendor_id)

/-- The rows of the quotes, best first. -/
def rankedRows (quotes : List QuoteInputs) (reliability_by_vendor : Table String ReliabilityInputs)
    (policy : SourcingPolicy) : Raises (List LandedCostBreakdown) := do
  let draft ← quotes.mapM (draftOf policy reliability_by_vendor)
  let peak ← peakLanded draft
  require ((PyDecimal.ofInt 0).lt? peak = some true) (valueError "landed cost must be positive")
  let rows ← draft.mapM (rowOf policy peak)
  pure (rows.sortBy rankKey)

/-- The payloads of the rows with their ranks, from `rank` on. -/
def rankedPayloads (rank : Nat) : List LandedCostBreakdown → Raises (List Dict)
  | [] => .ok []
  | row :: rows => do
    let payload ← row.payload
    let payloads ← rankedPayloads (rank + 1) rows
    pure (payload.set "rank" (.int rank) (Value.wf_nat rank) :: payloads)

/-- The body of a receipt, with no digest yet. -/
def comparisonBody (policy : SourcingPolicy) (policy_digest : String)
    (quote_digests : List String) (computed_at : String) (ranked : List LandedCostBreakdown) :
    Raises Dict := do
  let payloads ← rankedPayloads 1 ranked
  pure (object
    [("computed_at", .str computed_at), ("policy", .dict policy.payload),
      ("policy_digest", .str policy_digest),
      ("quote_digests", ⟨textList quote_digests, wf_textList quote_digests⟩),
      ("ranked", .dicts payloads), ("comparison_digest", .str "")])

/-- `{**payload, "comparison_digest": digest}`. -/
def withDigest (payload : Dict) (digest : String) : Dict :=
  payload.set "comparison_digest" (.str digest) (Json.WF.str _)

/-- The receipt of the ranked rows. -/
def receiptOf (policy : SourcingPolicy) (quotes : List QuoteInputs) (computed_at : String)
    (ranked : List LandedCostBreakdown) : Raises ComparisonReceipt := do
  let policy_digest ← policy.digest
  let quote_digests := (quotes.map QuoteInputs.quote_digest).sortBy id
  let body ← comparisonBody policy policy_digest quote_digests computed_at ranked
  let text ← canonical body "comparison"
  let payload_without_digest ← loadsObject text "comparison payload is invalid"
  let bytes ← canonical (withDigest payload_without_digest "") "comparison"
  let digest := sha256Digest bytes
  let encoded ← canonical (withDigest payload_without_digest digest) "comparison receipt"
  pure
    { ranked := ranked
      policy_digest := policy_digest
      quote_digests := quote_digests
      computed_at := computed_at
      comparison_digest := digest
      payload_json := encoded }

/-- `compare_quotes`. -/
def compareQuotes (quotes : List QuoteInputs) (reliability : List ReliabilityInputs)
    (policy : SourcingPolicy) (computed_at : String) : Raises ComparisonReceipt := do
  require (nonBlank computed_at = true) (valueError "computed_at must be non-empty text")
  require (quotes ≠ []) (valueError "at least one quote is required")
  let reliability_by_vendor ← reliabilityMap reliability
  let vendors := quotes.map QuoteInputs.vendor_id
  require vendors.Nodup (valueError "quotes must be unique per vendor")
  let missing := vendors.filter fun vendor_id => reliability_by_vendor.get? vendor_id = none
  require (missing = []) (valueError "reliability is missing for one or more vendors")
  let ranked ← rankedRows quotes reliability_by_vendor policy
  receiptOf policy quotes computed_at ranked

end CBrain.Procurement

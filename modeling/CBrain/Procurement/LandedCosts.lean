import CBrain.Procurement.ComparisonReceipts

/-! # Published costs

    The landed cost of a row against the rate, the freight, the tax and the
    credit that are published beside it.  The tax and the credit are in cents
    before they are added up; the rate and the freight are rounded only for the
    row, and so what they lose there can make a cent. -/

namespace CBrain.Procurement

open Json (Dict)
open Paired (exists_of_mem_left exists_of_mem_right)
open PyDecimal (roundAt contextRound value? Nearest halfEven)

/-! ## Section 1: Published amounts -/

/-- The amount that a row has under a name. -/
def publishedAmount (row : Json) (name : String) : Option ℚ :=
  match row with
  | .obj ms =>
    match Json.get? ms name with
    | some (.str text) => (PyDecimal.ofText text).bind value?
    | _ => none
  | _ => none

/-- The landed cost of the row is the sum of the parts published with it. -/
def RowAddsUp (row : Json) : Prop :=
  ∃ rate freight gst credit, publishedAmount row "rate_per_tonne" = some rate ∧
    publishedAmount row "freight_per_tonne" = some freight ∧
    publishedAmount row "gst_effect_per_tonne" = some gst ∧
    publishedAmount row "credit_cost_per_tonne" = some credit ∧
    publishedAmount row "landed_cost_per_tonne" = some (rate + freight + gst + credit)

theorem publishedAmount_of_text {d : Dict} {name text : String}
    (h : d.get? name = some (.str text)) :
    publishedAmount d.json name = (PyDecimal.ofText text).bind value? := by
  have hget : Json.get? d.members name = some (.str text) := h
  unfold publishedAmount Json.Dict.json
  simp only [hget]

/-- Every row of the payload adds up. -/
def ComparisonReceipt.AddsUp (receipt : ComparisonReceipt) : Prop :=
  ∃ payload rows, receipt.toPayload = .ok payload ∧ payload.get? "ranked" = some (.arr rows) ∧
    ∀ row ∈ rows, RowAddsUp row

theorem value_of_same {x y : PyDecimal} (h : PyDecimal.Same x y) : x.value? = y.value? := by
  cases x with
  | finite neg c e =>
    cases y with
    | finite neg' c' e' =>
      obtain ⟨rfl, hvalue⟩ := h
      exact congrArg some (PyDecimal.value_congr hvalue)
    | infinity neg' => cases h
    | nan => cases h
  | infinity neg =>
    obtain rfl : PyDecimal.infinity neg = y := h
    rfl
  | nan =>
    obtain rfl : PyDecimal.nan = y := h
    rfl

/-- A text has the value that was written. -/
theorem ofText_value (x : PyDecimal) : (PyDecimal.ofText x.text).bind value? = x.value? := by
  obtain ⟨y, hread, hsame⟩ := PyDecimal.ofText_text x
  rw [hread]
  exact value_of_same hsame

/-- The amounts of a row are those of its texts. -/
theorem publishedAmount_texts (rank : Nat) (row : LandedCostBreakdown) :
    publishedAmount (rankedTexts rank row).json "rate_per_tonne" = row.rate_per_tonne.value? ∧
      publishedAmount (rankedTexts rank row).json "freight_per_tonne" =
        row.freight_per_tonne.value? ∧
      publishedAmount (rankedTexts rank row).json "gst_effect_per_tonne" =
        row.gst_effect_per_tonne.value? ∧
      publishedAmount (rankedTexts rank row).json "credit_cost_per_tonne" =
        row.credit_cost_per_tonne.value? ∧
      publishedAmount (rankedTexts rank row).json "landed_cost_per_tonne" =
        row.landed_cost_per_tonne.value? := by
  have hfield : ∀ {name : String} {x : PyDecimal},
      (rankedTexts rank row).get? name = some (.str x.text) →
      publishedAmount (rankedTexts rank row).json name = x.value? := by
    intro name x hget
    rw [publishedAmount_of_text hget]
    exact ofText_value x
  have hget : ∀ name, name ≠ "rank" → (rankedTexts rank row).get? name = row.texts.get? name := by
    intro name hne
    unfold rankedTexts
    rw [Json.Dict.get?_set, if_neg hne]
  refine ⟨hfield ?_, hfield ?_, hfield ?_, hfield ?_, hfield ?_⟩
  all_goals
    rw [hget _ (by decide)]
    unfold LandedCostBreakdown.texts object
    rw [Json.Dict.get?_of]
    simp [Json.get?_cons, Value.str]

/-- The row is the sum of its parts. -/
def RowSums (row : LandedCostBreakdown) : Prop :=
  ∃ rate freight gst credit, row.rate_per_tonne.value? = some rate ∧
    row.freight_per_tonne.value? = some freight ∧ row.gst_effect_per_tonne.value? = some gst ∧
    row.credit_cost_per_tonne.value? = some credit ∧
    row.landed_cost_per_tonne.value? = some (rate + freight + gst + credit)

theorem rowAddsUp_texts (rank : Nat) (row : LandedCostBreakdown) :
    RowAddsUp (rankedTexts rank row).json ↔ RowSums row := by
  obtain ⟨hrate, hfreight, hgst, hcredit, hlanded⟩ := publishedAmount_texts rank row
  unfold RowAddsUp RowSums
  rw [hrate, hfreight, hgst, hcredit, hlanded]

/-- A receipt adds up when its rows do. -/
theorem addsUp_iff_rows {policy : SourcingPolicy} {quotes : List QuoteInputs} {computed_at : String}
    {ranked : List LandedCostBreakdown} {receipt : ComparisonReceipt}
    (h : receiptOf policy quotes computed_at ranked = .ok receipt)
    (hunits : ∀ row ∈ ranked, RowUnits row) : receipt.AddsUp ↔ ∀ row ∈ ranked, RowSums row := by
  obtain ⟨-, policy_digest, body, hbody, hpayload, -⟩ := receiptOf_ok h
  obtain ⟨body', hbody', -, hget⟩ := comparisonBody_units policy policy_digest
    ((quotes.map QuoteInputs.quote_digest).sortBy id) computed_at hunits
  obtain rfl : body = body' := Except.ok.inj (hbody.symm.trans hbody')
  have hranked : (withDigest body receipt.comparison_digest).get? "ranked" =
      some (.arr ((ranked.zipIdx 1).map fun x => (rankedTexts x.2 x.1).json)) := by
    unfold withDigest
    rw [Json.Dict.get?_set, if_neg (by decide), hget]
  unfold ComparisonReceipt.AddsUp
  rw [hpayload]
  constructor
  · rintro ⟨payload, rows, hsame, hrows, hall⟩ row hrow
    obtain rfl := Except.ok.inj hsame
    rw [hranked, Option.some.injEq, Json.arr.injEq] at hrows
    obtain ⟨i, hi⟩ := List.mem_iff_getElem?.mp hrow
    have hindexed : (row, 1 + i) ∈ ranked.zipIdx 1 := by
      rw [List.mem_iff_getElem?]
      exact ⟨i, by rw [List.getElem?_zipIdx, hi]; rfl⟩
    refine (rowAddsUp_texts (1 + i) row).mp (hall _ ?_)
    rw [← hrows, List.mem_map]
    exact ⟨(row, 1 + i), hindexed, rfl⟩
  · intro hall
    refine ⟨_, _, rfl, hranked, ?_⟩
    intro x hx
    obtain ⟨⟨row, rank⟩, hmem, rfl⟩ := List.mem_map.mp hx
    exact (rowAddsUp_texts rank row).mpr (hall row (List.fst_mem_of_mem_zipIdx hmem))

/-! ## Section 2: What rounding takes -/

/-- What the rate and the freight lose in cents, and what the context loses in
    adding up. -/
def residue (rate freight gst credit : ℚ) : ℚ :=
  (rate - roundAt MONEY rate) + (freight - roundAt MONEY freight) +
    (carriedCost rate freight gst credit - (rate + freight + gst + credit))

/-- Together, less than half a cent is lost, or half a cent from an even number
    of cents. -/
def LosesNoCent (rate freight gst credit : ℚ) : Prop :=
  |residue rate freight gst credit| < 1 / 200 ∨
    |residue rate freight gst credit| = 1 / 200 ∧
      ∃ n : ℤ, roundAt MONEY rate + roundAt MONEY freight + gst + credit = 2 * n / 100

/-- The quote loses no cent. -/
def CentsAgree (policy : SourcingPolicy) (quote : QuoteInputs) : Prop :=
  ∀ taxable gst credit r f g c,
    quote.rate_per_tonne.add? quote.freight_per_tonne = some taxable →
    gstEffect quote.rate_per_tonne quote.freight_per_tonne quote.gst_rate
      policy.input_credit_eligible = .ok gst →
    creditCost taxable quote.payment_terms policy.annual_cost_of_capital = .ok credit →
    quote.rate_per_tonne.value? = some r → quote.freight_per_tonne.value? = some f →
    gst.value? = some g → credit.value? = some c → LosesNoCent r f g c

theorem money_unit : (10 : ℚ) ^ MONEY = 1 / 100 := by
  show (10 : ℚ) ^ (-2 : Int) = 1 / 100
  norm_num

/-- What is rounded to cents is a number of cents. -/
theorem roundAt_cents (x : ℚ) : roundAt MONEY x = (halfEven (x / 10 ^ MONEY) : ℚ) / 100 := by
  unfold PyDecimal.roundAt
  rw [money_unit]
  ring

theorem cents_of_quantized {x : PyDecimal} {v : ℚ} (h : x.quantize MONEY = some x)
    (hx : x.value? = some v) : ∃ n : ℤ, v = n / 100 := by
  have hvalue := PyDecimal.quantize_value h hx
  rw [hx, Option.some.injEq, roundAt_cents] at hvalue
  exact ⟨_, hvalue⟩

/-- **Cent law**: rounding the sum gives the sum of the rounded parts exactly
    when no cent is lost. -/
theorem landedCost_eq_iff (rate freight : ℚ) {gst credit : ℚ} (hgst : ∃ n : ℤ, gst = n / 100)
    (hcredit : ∃ n : ℤ, credit = n / 100) :
    landedCost rate freight gst credit =
        roundAt MONEY rate + roundAt MONEY freight + gst + credit ↔
      LosesNoCent rate freight gst credit := by
  obtain ⟨k, hk⟩ : ∃ k : ℤ,
      roundAt MONEY rate + roundAt MONEY freight + gst + credit = (k : ℚ) / 100 := by
    obtain ⟨a, rfl⟩ := hgst
    obtain ⟨b, rfl⟩ := hcredit
    refine ⟨halfEven (rate / 10 ^ MONEY) + halfEven (freight / 10 ^ MONEY) + a + b, ?_⟩
    rw [roundAt_cents, roundAt_cents]
    push_cast
    ring
  have hresidue : residue rate freight gst credit =
      carriedCost rate freight gst credit - k / 100 := by
    rw [← hk]
    unfold residue
    ring
  have hscale : |carriedCost rate freight gst credit / 10 ^ MONEY - k| =
      |residue rate freight gst credit| * 100 := by
    rw [hresidue, money_unit, ← abs_of_pos (show (0 : ℚ) < 100 by norm_num), ← abs_mul,
      abs_of_pos (show (0 : ℚ) < 100 by norm_num)]
    congr 1
    ring
  have hround : landedCost rate freight gst credit = (k : ℚ) / 100 ↔
      halfEven (carriedCost rate freight gst credit / 10 ^ MONEY) = k := by
    unfold landedCost
    rw [roundAt_cents]
    constructor
    · intro h
      have hcast : (halfEven (carriedCost rate freight gst credit / 10 ^ MONEY) : ℚ) = k := by
        linarith
      exact_mod_cast hcast
    · intro h
      rw [h]
  rw [hk, hround, PyDecimal.halfEven_eq_iff]
  unfold PyDecimal.Nearest LosesNoCent
  rw [hscale, hk]
  have heven : Even k ↔ ∃ n : ℤ, (k : ℚ) / 100 = 2 * n / 100 := by
    constructor
    · rintro ⟨n, rfl⟩
      exact ⟨n, by push_cast; ring⟩
    · rintro ⟨n, hn⟩
      have hcast : (k : ℚ) = ((2 * n : ℤ) : ℚ) := by
        push_cast
        linarith
      exact ⟨n, by have := Int.cast_injective hcast; omega⟩
  rw [heven]
  constructor
  · rintro (h | ⟨h, hn⟩)
    · exact Or.inl (by linarith)
    · exact Or.inr ⟨by linarith, hn⟩
  · rintro (h | ⟨h, hn⟩)
    · exact Or.inl (by linarith)
    · exact Or.inr ⟨by linarith, hn⟩

/-- Where the context holds the sums, only the cents of the rate and the freight
    are lost. -/
theorem residue_of_exact {rate freight gst credit : ℚ} (hsum : PyDecimal.Exact (rate + freight))
    (htaxed : PyDecimal.Exact (rate + freight + gst))
    (htotal : PyDecimal.Exact (rate + freight + gst + credit)) :
    residue rate freight gst credit =
      (rate - roundAt MONEY rate) + (freight - roundAt MONEY freight) := by
  unfold residue carriedCost
  rw [PyDecimal.contextRound_exact hsum, PyDecimal.contextRound_exact htaxed,
    PyDecimal.contextRound_exact htotal]
  ring

/-- Whole cents are not lost. -/
theorem losesNoCent_of_whole {rate freight gst credit : ℚ} (hrate : roundAt MONEY rate = rate)
    (hfreight : roundAt MONEY freight = freight) (hsum : PyDecimal.Exact (rate + freight))
    (htaxed : PyDecimal.Exact (rate + freight + gst))
    (htotal : PyDecimal.Exact (rate + freight + gst + credit)) :
    LosesNoCent rate freight gst credit := by
  left
  rw [residue_of_exact hsum htaxed htotal, hrate, hfreight]
  norm_num

/-- The row of a quote sums up exactly when the quote loses no cent. -/
theorem rowSums_iff {policy : SourcingPolicy} {records : Table String ReliabilityInputs}
    {quote : QuoteInputs} {item : Draft} {peak : PyDecimal} {row : LandedCostBreakdown}
    (hdraft : draftOf policy records quote = .ok item) (hrow : rowOf policy peak item = .ok row) :
    RowSums row ↔ CentsAgree policy quote := by
  obtain ⟨hquote, hcostsOf, -⟩ := draftOf_ok.mp hdraft
  have hcosts := costsOf_ok hcostsOf
  have hholds := rowOf_ok hrow
  obtain ⟨r, hr, -⟩ := quote.rate_per_tonne_amount.value
  obtain ⟨f, hf, -⟩ := quote.freight_per_tonne_amount.value
  obtain ⟨hgstCents, g, hg⟩ := gstEffect_ok hcosts.gst_effect
  obtain ⟨taxable, htaxable, hcredit⟩ := hcosts.credit_cost
  obtain ⟨hcreditCents, c, hc⟩ := creditCost_ok hcredit
  have hrate := PyDecimal.quantize_value (hquote ▸ hholds.rate) hr
  have hfreight := PyDecimal.quantize_value (hquote ▸ hholds.freight) hf
  have hlanded := hcosts.landed_value r f g c hr hf hg hc
  have hlaw := landedCost_eq_iff r f (cents_of_quantized hgstCents hg)
    (cents_of_quantized hcreditCents hc)
  constructor
  · rintro ⟨a, b, x, y, ha, hb, hx, hy, hsum⟩
    rw [hholds.gst] at hx
    rw [hholds.credit] at hy
    rw [hholds.landed, hlanded] at hsum
    obtain rfl := Option.some.inj (ha.symm.trans hrate)
    obtain rfl := Option.some.inj (hb.symm.trans hfreight)
    obtain rfl := Option.some.inj (hx.symm.trans hg)
    obtain rfl := Option.some.inj (hy.symm.trans hc)
    intro taxable' gst' credit' r' f' g' c' htaxable' hgst' hcredit' hr' hf' hg' hc'
    obtain rfl := Option.some.inj (htaxable.symm.trans htaxable')
    obtain rfl := Except.ok.inj (hcosts.gst_effect.symm.trans hgst')
    obtain rfl := Except.ok.inj (hcredit.symm.trans hcredit')
    obtain rfl := Option.some.inj (hr.symm.trans hr')
    obtain rfl := Option.some.inj (hf.symm.trans hf')
    obtain rfl := Option.some.inj (hg.symm.trans hg')
    obtain rfl := Option.some.inj (hc.symm.trans hc')
    exact hlaw.mp (Option.some.inj hsum)
  · intro hagree
    have hkept := hagree taxable item.gst item.credit r f g c htaxable hcosts.gst_effect hcredit
      hr hf hg hc
    refine ⟨_, _, g, c, hrate, hfreight, hholds.gst ▸ hg, hholds.credit ▸ hc, ?_⟩
    rw [hholds.landed, hlanded, hlaw.mpr hkept]

/-- **The published costs of a receipt add up exactly when no quote loses a
    cent.** -/
theorem published_costs_iff {quotes : List QuoteInputs} {reliability : List ReliabilityInputs}
    {policy : SourcingPolicy} {computed_at : String} {receipt : ComparisonReceipt}
    (h : compareQuotes quotes reliability policy computed_at = .ok receipt) :
    receipt.AddsUp ↔ ∀ quote ∈ quotes, CentsAgree policy quote := by
  obtain ⟨-, -, records, -, -, -, ranked, hranked, hreceipt⟩ := compareQuotes_ok.mp h
  obtain ⟨drafts, peak, rows, hranking, rfl⟩ := rankedRows_ok.mp hranked
  have hunits : ∀ row ∈ rows.sortBy rankKey, RowUnits row := by
    intro row hrow
    exact hranking.units row (List.mem_sortBy.mp hrow)
  rw [addsUp_iff_rows hreceipt hunits]
  simp only [List.mem_sortBy]
  constructor
  · intro hall quote hquote
    obtain ⟨item, hitem, hdraft⟩ := exists_of_mem_left hranking.drafted hquote
    obtain ⟨row, hrow, hscored⟩ := exists_of_mem_left hranking.scored hitem
    exact (rowSums_iff hdraft hscored).mp (hall row hrow)
  · intro hall row hrow
    obtain ⟨item, hitem, hscored⟩ := exists_of_mem_right hranking.scored hrow
    obtain ⟨quote, hquote, hdraft⟩ := exists_of_mem_right hranking.drafted hitem
    exact (rowSums_iff hdraft hscored).mpr (hall quote hquote)

theorem published_costs_iff_two :
    ∃ receipt, compareQuotes [advanceQuote, laterQuote] [advanceRecord, laterRecord] samplePolicy
        "2026-03-01" = .ok receipt ∧
      (receipt.AddsUp ↔ ∀ quote ∈ [advanceQuote, laterQuote], CentsAgree samplePolicy quote) := by
  obtain ⟨receipt, h⟩ := sample_compared
  exact ⟨receipt, h, published_costs_iff h⟩

/-- A rate of `50000.004` and a freight of `400.004`. -/
def fractionQuote : QuoteInputs :=
  { advanceQuote with
    rate_per_tonne := .finite false 50000004 (-3)
    freight_per_tonne := .finite false 400004 (-3)
    rate_per_tonne_amount := by constructor <;> decide +kernel
    freight_per_tonne_amount := by constructor <;> decide +kernel }

/-- The amounts of a row. -/
def rowAmounts (row : LandedCostBreakdown) : List (Option ℚ) :=
  [row.rate_per_tonne.value?, row.freight_per_tonne.value?, row.gst_effect_per_tonne.value?,
    row.credit_cost_per_tonne.value?, row.landed_cost_per_tonne.value?]

theorem fraction_ranked :
    ∃ ranked, rankedRows [fractionQuote] sampleRecords samplePolicy = .ok ranked ∧
      ranked.map rowAmounts = [[some 50000, some 400, some 9072, some 0, some (5947201 / 100)]] := by
  apply map_ok.mp
  decide +kernel

/-- The published parts make `59472.00`, and the landed cost is `59472.01`. -/
theorem fraction_loses_cent :
    ∃ receipt, compareQuotes [fractionQuote] [advanceRecord, laterRecord] samplePolicy
      "2026-03-01" = .ok receipt ∧ ¬ receipt.AddsUp := by
  obtain ⟨ranked, hranked, hamounts⟩ := fraction_ranked
  have hmap : reliabilityMap [advanceRecord, laterRecord] = .ok sampleRecords := rfl
  have hclock : nonBlank "2026-03-01" = true := by decide +kernel
  obtain ⟨receipt, h⟩ := compareQuotes_returns hclock (by simp) hmap (by decide +kernel)
    (by decide +kernel) hranked
  refine ⟨receipt, h, ?_⟩
  obtain ⟨-, -, records, hrecords, -, -, ranked', hranked', hreceipt⟩ := compareQuotes_ok.mp h
  obtain rfl : records = sampleRecords := Except.ok.inj (hrecords.symm.trans hmap)
  obtain rfl : ranked = ranked' := Except.ok.inj (hranked.symm.trans hranked')
  obtain ⟨drafts, peak, rows, hranking, hsorted⟩ := rankedRows_ok.mp hranked
  rw [addsUp_iff_rows hreceipt fun row hrow =>
    hranking.units row (List.mem_sortBy.mp (hsorted ▸ hrow))]
  intro hall
  obtain ⟨row, hrow, hvalues⟩ : ∃ row ∈ ranked,
      rowAmounts row = [some 50000, some 400, some 9072, some 0, some (5947201 / 100)] := by
    have hmem : [some 50000, some 400, some 9072, some 0, some (5947201 / 100)] ∈
        ranked.map rowAmounts := by
      rw [hamounts]
      exact List.mem_cons_self
    exact List.mem_map.mp hmem
  unfold rowAmounts at hvalues
  simp only [List.cons.injEq, and_true] at hvalues
  obtain ⟨hrate, hfreight, hgst, hcredit, hlanded⟩ := hvalues
  obtain ⟨r, f, g, c, hr, hf, hg, hc, hsum⟩ := hall row hrow
  obtain rfl := Option.some.inj (hr.symm.trans hrate)
  obtain rfl := Option.some.inj (hf.symm.trans hfreight)
  obtain rfl := Option.some.inj (hg.symm.trans hgst)
  obtain rfl := Option.some.inj (hc.symm.trans hcredit)
  have hcent := Option.some.inj (hsum.symm.trans hlanded)
  norm_num at hcent

end CBrain.Procurement

import CBrain.Procurement.ComparedValues

/-! # Comparison receipts

    A comparison depends on its quotes and records as sets: reordering either
    gives the same receipt.  And a receipt's digest is the one of its own
    payload with the digest left out. -/

namespace CBrain.Procurement

open Json (Dict)
open Paired (exists_of_mem_right)

/-! ## Section 1: Digests -/

/-- Of two values set one after the other, the last one stays. -/
theorem setMember_twice (k : String) (v w : Json) (ms : Json.Members) :
    Json.setMember k v (Json.setMember k w ms) = Json.setMember k v ms := by
  have hirrefl : ¬ k < k := String.lt_irrefl k
  induction ms with
  | nil => simp [Json.setMember]
  | cons m ms ih =>
    obtain ⟨l, x⟩ := m
    by_cases hlt : k < l
    · simp [Json.setMember, hlt]
    · by_cases heq : k = l
      · subst heq
        simp [Json.setMember]
      · simp [Json.setMember, hlt, heq, ih]

theorem withDigest_twice (payload : Dict) (digest digest' : String) :
    withDigest (withDigest payload digest) digest' = withDigest payload digest' :=
  Dict.ext (setMember_twice _ _ _ _)

/-- The digest recomputed from the payload of a receipt. -/
def ComparisonReceipt.recomputedDigest (receipt : ComparisonReceipt) : Raises String := do
  let payload ← receipt.toPayload
  let bytes ← canonical (withDigest payload "") "comparison"
  pure (sha256Digest bytes)

/-- What a receipt holds: the payload is the body with the digest of that body. -/
theorem receiptOf_ok {policy : SourcingPolicy} {quotes : List QuoteInputs} {computed_at : String}
    {ranked : List LandedCostBreakdown} {receipt : ComparisonReceipt}
    (h : receiptOf policy quotes computed_at ranked = .ok receipt) :
    receipt.ranked = ranked ∧
      ∃ policy_digest body, comparisonBody policy policy_digest
        ((quotes.map QuoteInputs.quote_digest).sortBy id) computed_at ranked = .ok body ∧
      receipt.toPayload = .ok (withDigest body receipt.comparison_digest) ∧
      receipt.recomputedDigest = .ok receipt.comparison_digest := by
  unfold receiptOf at h
  simp only [bind_ok, pure_ok] at h
  obtain ⟨policy_digest, -, body, hbody, text, htext, restored, hrestored, bytes, hbytes, encoded,
    hencoded, rfl⟩ := h
  obtain ⟨-, rfl⟩ := canonical_ok.mp htext
  rw [loadsObject_canonical] at hrestored
  obtain rfl := Except.ok.inj hrestored
  obtain ⟨-, rfl⟩ := canonical_ok.mp hencoded
  refine ⟨rfl, policy_digest, body, hbody, loadsObject_canonical _ _, ?_⟩
  unfold ComparisonReceipt.recomputedDigest ComparisonReceipt.toPayload
  rw [loadsObject_canonical, ok_bind, withDigest_twice, hbytes]
  rfl

/-! ## Section 2: Payloads -/

/-- The amounts of a row are in their units. -/
structure RowUnits (row : LandedCostBreakdown) : Prop where
  credit_cost : row.credit_cost_per_tonne.quantize MONEY = some row.credit_cost_per_tonne
  freight : row.freight_per_tonne.quantize MONEY = some row.freight_per_tonne
  gst_effect : row.gst_effect_per_tonne.quantize MONEY = some row.gst_effect_per_tonne
  landed_cost : row.landed_cost_per_tonne.quantize MONEY = some row.landed_cost_per_tonne
  rate : row.rate_per_tonne.quantize MONEY = some row.rate_per_tonne
  normalized : row.normalized_landed_cost.quantize SCORE = some row.normalized_landed_cost
  index : row.reliability_index.quantize SCORE = some row.reliability_index
  score : row.score.quantize SCORE = some row.score

/-- The texts of a row. -/
def LandedCostBreakdown.texts (row : LandedCostBreakdown) : Dict :=
  object
    [("credit_cost_per_tonne", .str row.credit_cost_per_tonne.text),
      ("freight_per_tonne", .str row.freight_per_tonne.text),
      ("gst_effect_per_tonne", .str row.gst_effect_per_tonne.text),
      ("landed_cost_per_tonne", .str row.landed_cost_per_tonne.text),
      ("normalized_landed_cost", .str row.normalized_landed_cost.text),
      ("quote_digest", .str row.quote_digest), ("quote_id", .str row.quote_id),
      ("rate_per_tonne", .str row.rate_per_tonne.text),
      ("reliability_index", .str row.reliability_index.text), ("score", .str row.score.text),
      ("vendor_id", .str row.vendor_id)]

theorem moneyText_cents {x : PyDecimal} (h : x.quantize MONEY = some x) :
    moneyText x = .ok x.text := by
  unfold moneyText
  rw [h]
  rfl

theorem scoreText_units {x : PyDecimal} (h : x.quantize SCORE = some x) :
    scoreText x = .ok x.text := by
  unfold scoreText
  rw [h]
  rfl

/-- A row of amounts in their units is written with their texts. -/
theorem RowUnits.payload {row : LandedCostBreakdown} (h : RowUnits row) :
    row.payload = .ok row.texts := by
  unfold LandedCostBreakdown.payload
  rw [moneyText_cents h.credit_cost, moneyText_cents h.freight, moneyText_cents h.gst_effect,
    moneyText_cents h.landed_cost, scoreText_units h.normalized, moneyText_cents h.rate,
    scoreText_units h.index, scoreText_units h.score]
  rfl

/-- The texts with the rank. -/
def rankedTexts (rank : Nat) (row : LandedCostBreakdown) : Dict :=
  row.texts.set "rank" (.int rank) (Value.wf_nat rank)

theorem rankedPayloads_units {rank : Nat} {rows : List LandedCostBreakdown}
    (h : ∀ row ∈ rows, RowUnits row) :
    rankedPayloads rank rows = .ok ((rows.zipIdx rank).map fun x => rankedTexts x.2 x.1) := by
  induction rows generalizing rank with
  | nil => rfl
  | cons row rows ih =>
    unfold rankedPayloads
    rw [(h row List.mem_cons_self).payload, ok_bind,
      ih fun other hother => h other (List.mem_cons_of_mem _ hother), ok_bind]
    rfl

theorem finite_elems {xs : List Json} (h : ∀ x ∈ xs, Json.finite x = true) :
    Json.finite (.arr xs) = true := by
  rw [Json.finite, Json.finiteElems_iff]
  exact h

theorem SourcingPolicy.finite_payload (policy : SourcingPolicy) :
    Json.finite policy.payload.json = true := by
  unfold SourcingPolicy.payload
  apply finite_object
  intro m hm
  simp only [List.mem_cons, List.not_mem_nil, or_false] at hm
  rcases hm with rfl | rfl | rfl | rfl <;> rfl

theorem finite_rankedTexts (rank : Nat) (row : LandedCostBreakdown) :
    Json.finite (rankedTexts rank row).json = true := by
  refine Json.Dict.finite_set _ ?_ rfl
  unfold LandedCostBreakdown.texts
  apply finite_object
  simp

/-- The body of rows in their units. -/
theorem comparisonBody_units (policy : SourcingPolicy) (policy_digest : String)
    (quote_digests : List String) (computed_at : String) {ranked : List LandedCostBreakdown}
    (h : ∀ row ∈ ranked, RowUnits row) :
    ∃ body, comparisonBody policy policy_digest quote_digests computed_at ranked = .ok body ∧
      Json.finite body.json = true ∧
      body.get? "ranked" =
        some (.arr ((ranked.zipIdx 1).map fun x => (rankedTexts x.2 x.1).json)) := by
  unfold comparisonBody
  rw [rankedPayloads_units h, ok_bind]
  refine ⟨_, rfl, ?_, ?_⟩
  · apply finite_object
    intro m hm
    simp only [List.mem_cons, List.not_mem_nil, or_false] at hm
    rcases hm with rfl | rfl | rfl | rfl | rfl | rfl
    · rfl
    · exact policy.finite_payload
    · rfl
    · apply finite_elems
      intro x hx
      obtain ⟨s, -, rfl⟩ := List.mem_map.mp hx
      rfl
    · apply finite_elems
      intro x hx
      obtain ⟨d, hd, rfl⟩ := List.mem_map.mp hx
      obtain ⟨row, -, rfl⟩ := List.mem_map.mp hd
      exact finite_rankedTexts _ _
    · rfl
  · unfold object
    rw [Json.Dict.get?_of]
    simp [Json.get?_cons, Value.dicts, Value.str, Value.dict, List.map_map,
      Function.comp_def]

theorem finite_withDigest {payload : Dict} (h : Json.finite payload.json = true) (digest : String) :
    Json.finite (withDigest payload digest).json = true := Json.Dict.finite_set _ h rfl

/-- Rows in their units have a receipt. -/
theorem receiptOf_units (policy : SourcingPolicy) (quotes : List QuoteInputs) (computed_at : String)
    {ranked : List LandedCostBreakdown} (h : ∀ row ∈ ranked, RowUnits row) :
    ∃ receipt, receiptOf policy quotes computed_at ranked = .ok receipt := by
  have hpolicy : policy.digest = .ok (sha256Digest (Json.canonical policy.payload.json)) := by
    unfold SourcingPolicy.digest
    rw [canonical_ok.mpr ⟨policy.finite_payload, rfl⟩]
    rfl
  unfold receiptOf
  rw [hpolicy, ok_bind]
  obtain ⟨body, hbody, hfinite, -⟩ := comparisonBody_units policy
    (sha256Digest (Json.canonical policy.payload.json))
    ((quotes.map QuoteInputs.quote_digest).sortBy id) computed_at h
  simp only [hbody, ok_bind, canonical_ok.mpr ⟨hfinite, rfl⟩, loadsObject_canonical,
    canonical_ok.mpr ⟨finite_withDigest hfinite _, rfl⟩]
  exact ⟨_, rfl⟩

/-- The rows of a ranking are in their units. -/
theorem Ranking.units {quotes : List QuoteInputs} {records : Table String ReliabilityInputs}
    {policy : SourcingPolicy} {drafts : List Draft} {peak : PyDecimal}
    {rows : List LandedCostBreakdown} (h : Ranking quotes records policy drafts peak rows) :
    ∀ row ∈ rows, RowUnits row := by
  intro row hrow
  obtain ⟨item, hitem, hrow⟩ := exists_of_mem_right h.scored hrow
  obtain ⟨quote, -, hdraft, hcosts⟩ := h.draft hitem
  obtain ⟨-, -, record, -, hindex⟩ := draftOf_ok.mp hdraft
  obtain ⟨p, hp, -⟩ := record.on_time_pct_amount.value
  obtain ⟨taxable, -, hcredit⟩ := hcosts.credit_cost
  have hholds := rowOf_ok hrow
  exact
    { credit_cost := hholds.credit ▸ (creditCost_ok hcredit).1
      freight := PyDecimal.quantize_again hholds.freight
      gst_effect := hholds.gst ▸ (gstEffect_ok hcosts.gst_effect).1
      landed_cost := hholds.landed ▸ hcosts.landed_cents
      rate := PyDecimal.quantize_again hholds.rate
      normalized := hholds.normalized_units
      index := hholds.index ▸ (reliabilityIndex_ok hindex hp).1
      score := hholds.score_units }

/-! ## Section 3: Reordering -/

/-- A draft depends on what the records say of its vendor. -/
theorem draftOf_congr {policy : SourcingPolicy} {records records' : Table String ReliabilityInputs}
    (h : ∀ k, records.get? k = records'.get? k) :
    draftOf policy records = draftOf policy records' := by
  funext quote
  unfold draftOf
  rw [h]

/-- Reordered records make a map of the same entries. -/
theorem reliabilityMap_perm {reliability reliability' : List ReliabilityInputs}
    {records : Table String ReliabilityInputs} (hperm : reliability.Perm reliability')
    (h : reliabilityMap reliability = .ok records) :
    ∃ records', reliabilityMap reliability' = .ok records' ∧
      ∀ k, records.get? k = records'.get? k := by
  obtain ⟨hnodup, hget⟩ := reliabilityMap_ok h
  obtain ⟨records', h'⟩ := reliabilityMap_of_nodup ((hperm.map _).nodup_iff.mp hnodup)
  refine ⟨records', h', ?_⟩
  obtain ⟨-, hget'⟩ := reliabilityMap_ok h'
  intro k
  apply Option.ext
  intro record
  rw [hget, hget', hperm.mem_iff]

/-- The rows of vendors quoted once are told apart by their keys. -/
theorem eq_of_rankKey {rows : List LandedCostBreakdown}
    (h : (rows.map LandedCostBreakdown.vendor_id).Nodup) :
    ∀ a ∈ rows, ∀ b ∈ rows, rankKey a = rankKey b → a = b := by
  intro a ha b hb heq
  have hvendor : a.vendor_id = b.vendor_id := congrArg (fun key => (ofLex key).2) heq
  exact List.inj_on_of_nodup_map h ha hb hvendor

/-- **Reordered quotes are ranked alike.** -/
theorem rankedRows_perm {quotes quotes' : List QuoteInputs}
    {records records' : Table String ReliabilityInputs} {policy : SourcingPolicy}
    {ranked : List LandedCostBreakdown} (hperm : quotes.Perm quotes')
    (hrecords : ∀ k, records.get? k = records'.get? k)
    (hnodup : (quotes.map QuoteInputs.vendor_id).Nodup)
    (h : rankedRows quotes records policy = .ok ranked) :
    rankedRows quotes' records' policy = .ok ranked := by
  obtain ⟨drafts, peak, rows, hranking, rfl⟩ := rankedRows_ok.mp h
  obtain ⟨m, hpeak, hpos⟩ := hranking.peakHolds
  -- The drafts are reordered, and each is what it was.
  obtain ⟨drafts', hdrafts', hdrafts⟩ := mapM_perm hperm (mapM_ok.mpr hranking.drafted)
  rw [draftOf_congr hrecords] at hdrafts'
  have hne : drafts' ≠ [] := by
    obtain ⟨item, hitem, -⟩ := hpeak.mem
    exact List.ne_nil_of_mem (hdrafts.mem_iff.mp hitem)
  obtain ⟨peak', hpeak'⟩ := exists_peakLanded hne
  obtain ⟨m', hholds'⟩ := peakLanded_ok (fun item hitem => by
    obtain ⟨quote, -, -, hcosts⟩ := hranking.draft (hdrafts.mem_iff.mpr hitem)
    exact hcosts.landed_finite) hpeak'
  have hsame : peak = peak' := by
    apply hpeak.same hholds' hpos
    · intro item hitem
      obtain ⟨quote, -, -, hcosts⟩ := hranking.draft hitem
      exact hcosts.landed_cents
    · intro x
      simp only [hdrafts.mem_iff]
  subst hsame
  -- And so are the rows, which their keys tell apart.
  obtain ⟨rows', hrows', hrows⟩ := mapM_perm hdrafts (mapM_ok.mpr hranking.scored)
  refine rankedRows_ok.mpr ⟨drafts', peak, rows', ⟨mapM_ok.mp hdrafts', hpeak',
    hranking.positive, mapM_ok.mp hrows'⟩, ?_⟩
  exact (List.sortBy_congr hrows (eq_of_rankKey (hranking.vendors ▸ hnodup))).symm

/-- What a comparison goes through. -/
theorem compareQuotes_ok {quotes : List QuoteInputs} {reliability : List ReliabilityInputs}
    {policy : SourcingPolicy} {computed_at : String} {receipt : ComparisonReceipt} :
    compareQuotes quotes reliability policy computed_at = .ok receipt ↔
      nonBlank computed_at = true ∧ quotes ≠ [] ∧
      ∃ records, reliabilityMap reliability = .ok records ∧
        (quotes.map QuoteInputs.vendor_id).Nodup ∧
        (∀ quote ∈ quotes, records.get? quote.vendor_id ≠ none) ∧
        ∃ ranked, rankedRows quotes records policy = .ok ranked ∧
          receiptOf policy quotes computed_at ranked = .ok receipt := by
  unfold compareQuotes
  simp only [bind_ok, require_ok, exists_const, List.filter_eq_nil_iff,
    List.mem_map, forall_exists_index, and_imp, forall_apply_eq_imp_iff₂, decide_eq_true_eq, ne_eq]

/-- A comparison whose rows can be ranked returns a receipt. -/
theorem compareQuotes_returns {quotes : List QuoteInputs} {reliability : List ReliabilityInputs}
    {policy : SourcingPolicy} {computed_at : String} {records : Table String ReliabilityInputs}
    {ranked : List LandedCostBreakdown} (hclock : nonBlank computed_at = true) (hne : quotes ≠ [])
    (hrecords : reliabilityMap reliability = .ok records)
    (hnodup : (quotes.map QuoteInputs.vendor_id).Nodup)
    (hknown : ∀ quote ∈ quotes, records.get? quote.vendor_id ≠ none)
    (hranked : rankedRows quotes records policy = .ok ranked) :
    ∃ receipt, compareQuotes quotes reliability policy computed_at = .ok receipt := by
  obtain ⟨drafts, peak, rows, hranking, hsorted⟩ := rankedRows_ok.mp hranked
  have hunits : ∀ row ∈ ranked, RowUnits row := by
    intro row hrow
    rw [← hsorted, List.mem_sortBy] at hrow
    exact hranking.units row hrow
  obtain ⟨receipt, hreceipt⟩ := receiptOf_units policy quotes computed_at hunits
  exact ⟨receipt, compareQuotes_ok.mpr
    ⟨hclock, hne, records, hrecords, hnodup, hknown, ranked, hranked, hreceipt⟩⟩

/-! ## Section 4: The permutation law -/

def samplePolicy : SourcingPolicy where
  annual_cost_of_capital := .finite false 12 (-2)
  input_credit_eligible := false
  annual_cost_of_capital_amount := by constructor <;> decide +kernel
  weight_cost_amount := by constructor <;> decide +kernel
  weight_reliability_amount := by constructor <;> decide +kernel
  weights_sum := by decide +kernel

/-- Paid in advance. -/
def advanceQuote : QuoteInputs where
  quote_id := "q-adv"
  vendor_id := "v-adv"
  grade := "Fe500D"
  tonnes := .finite false 2500 (-2)
  rate_per_tonne := .finite false 5000000 (-2)
  freight_per_tonne := .finite false 40000 (-2)
  gst_rate := .finite false 18 (-2)
  payment_terms := "ADVANCE"
  quote_digest := "sha256:cd"
  quote_id_text := by decide +kernel
  vendor_id_text := by decide +kernel
  grade_text := by decide +kernel
  quote_digest_text := by decide +kernel
  payment_terms_supported := by decide +kernel
  rate_per_tonne_amount := by constructor <;> decide +kernel
  freight_per_tonne_amount := by constructor <;> decide +kernel
  gst_rate_amount := by constructor <;> decide +kernel
  tonnes_finite := by decide +kernel
  tonnes_pos := by decide +kernel

/-- The same, paid after 45 days. -/
def laterQuote : QuoteInputs :=
  { advanceQuote with
    quote_id := "q-same"
    vendor_id := "v-same"
    payment_terms := "NET_45"
    quote_digest := "sha256:ab"
    quote_id_text := by decide +kernel
    vendor_id_text := by decide +kernel
    quote_digest_text := by decide +kernel
    payment_terms_supported := by decide +kernel }

/-- A record of deliveries, of which so many percent were on time. -/
def sampleRecord (vendor_id : String) (h : nonBlank vendor_id = true) (on_time : Nat)
    (hamount : IsAmount (.finite false on_time 0)) : ReliabilityInputs where
  vendor_id := vendor_id
  orders_total := 10
  on_time_pct := .finite false on_time 0
  short_delivery_pct := .finite false 1 0
  quality_rejection_pct := .finite false 1 0
  avg_delay_days := .finite false 1 0
  vendor_id_text := h
  on_time_pct_amount := hamount
  short_delivery_pct_amount := by constructor <;> decide +kernel
  quality_rejection_pct_amount := by constructor <;> decide +kernel
  avg_delay_days_amount := by constructor <;> decide +kernel

def advanceRecord : ReliabilityInputs :=
  sampleRecord "v-adv" (by decide +kernel) 90 (by constructor <;> decide +kernel)

def laterRecord : ReliabilityInputs :=
  sampleRecord "v-same" (by decide +kernel) 90 (by constructor <;> decide +kernel)

def sampleRecords : Table String ReliabilityInputs :=
  (Table.empty.set "v-adv" advanceRecord).set "v-same" laterRecord

/-- The longer credit makes the better score. -/
theorem sample_ranked :
    ∃ ranked, rankedRows [advanceQuote, laterQuote] sampleRecords samplePolicy = .ok ranked ∧
      ranked.map LandedCostBreakdown.vendor_id = ["v-same", "v-adv"] := by
  apply map_ok.mp
  decide +kernel

theorem sample_compared :
    ∃ receipt, compareQuotes [advanceQuote, laterQuote] [advanceRecord, laterRecord] samplePolicy
      "2026-03-01" = .ok receipt := by
  obtain ⟨ranked, hranked, -⟩ := sample_ranked
  have hrecords : reliabilityMap [advanceRecord, laterRecord] = .ok sampleRecords := rfl
  exact compareQuotes_returns (by decide +kernel) (by simp) hrecords
    (by decide +kernel) (by decide +kernel) hranked

/-- **Permutation law**: reordering the quotes and the records gives the same
    receipt, whose digest is the one recomputed from its payload. -/
theorem compare_quotes_permutation {quotes quotes' : List QuoteInputs}
    {reliability reliability' : List ReliabilityInputs} {policy : SourcingPolicy}
    {computed_at : String} {receipt : ComparisonReceipt} (hquotes : quotes.Perm quotes')
    (hreliability : reliability.Perm reliability')
    (h : compareQuotes quotes reliability policy computed_at = .ok receipt) :
    compareQuotes quotes' reliability' policy computed_at = .ok receipt ∧
      receipt.recomputedDigest = .ok receipt.comparison_digest := by
  obtain ⟨hclock, hne, records, hrecords, hnodup, hknown, ranked, hranked, hreceipt⟩ :=
    compareQuotes_ok.mp h
  obtain ⟨records', hrecords', hsame⟩ := reliabilityMap_perm hreliability hrecords
  refine ⟨?_, (receiptOf_ok hreceipt).2.choose_spec.choose_spec.2.2⟩
  refine compareQuotes_ok.mpr ⟨hclock, ?_, records', hrecords', ?_, ?_, ranked, ?_, ?_⟩
  · rintro rfl
    exact hne hquotes.eq_nil
  · exact (hquotes.map _).nodup_iff.mp hnodup
  · intro quote hquote
    rw [← hsame]
    exact hknown quote (hquotes.mem_iff.mpr hquote)
  · exact rankedRows_perm hquotes hsame hnodup hranked
  · have hdigests : (quotes.map QuoteInputs.quote_digest).sortBy id =
        (quotes'.map QuoteInputs.quote_digest).sortBy id :=
      List.sortBy_congr (hquotes.map _) fun _ _ _ _ heq => heq
    unfold receiptOf at hreceipt ⊢
    rw [← hdigests]
    exact hreceipt


theorem compare_quotes_permutation_two :
    ∃ receipt, compareQuotes [laterQuote, advanceQuote] [laterRecord, advanceRecord] samplePolicy
        "2026-03-01" = .ok receipt ∧
      receipt.recomputedDigest = .ok receipt.comparison_digest := by
  obtain ⟨receipt, h⟩ := sample_compared
  exact ⟨receipt, compare_quotes_permutation (List.Perm.swap _ _ _) (List.Perm.swap _ _ _) h⟩

end CBrain.Procurement

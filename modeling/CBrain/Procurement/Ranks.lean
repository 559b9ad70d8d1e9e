import CBrain.Procurement.ComparisonReceipts

/-! # Ranks

    The order of a comparison: a quote that is neither dearer nor less reliable
    than another has no greater score, and a vendor that delivers on time more
    often keeps its rank or gains by it. -/

namespace CBrain.Procurement

open Paired (exists_of_mem_left exists_of_mem_right map_eq_of_forall₂)
open PyDecimal (value?)

/-! ## Section 1: Ranks -/

/-- Both are finite, and the first is not above the second. -/
def AtMost (a b : PyDecimal) : Prop := ∃ x y, a.value? = some x ∧ b.value? = some y ∧ x ≤ y

/-- The rank of a vendor, from 1 on. -/
def ComparisonReceipt.rankOf (receipt : ComparisonReceipt) (vendor_id : String) : Nat :=
  receipt.rankedVendorIds.idxOf vendor_id + 1

/-- The second list has a greater share on time for the vendor, and is else the
    first. -/
def RaisedFor (vendor_id : String) (reliability reliability' : List ReliabilityInputs) : Prop :=
  List.Forall₂ (fun record record' =>
    if record.vendor_id = vendor_id then
      ∃ on_time_pct h, AtMost record.on_time_pct on_time_pct ∧
        record' = { record with on_time_pct := on_time_pct, on_time_pct_amount := h }
    else record' = record) reliability reliability'

section counting
variable {α β γ : Type}

/-- In a list in the order of distinct keys, an element comes after those with
    lesser keys. -/
theorem idxOf_eq_countP {key : α → β} [LinearOrder β] {name : α → String} {l : List α} {a : α}
    (hsorted : l.Pairwise fun a b => key a ≤ key b) (hnames : (l.map name).Nodup)
    (hkey : ∀ a b, key a = key b → name a = name b) (ha : a ∈ l) :
    (l.map name).idxOf (name a) = l.countP fun b => key b < key a := by
  induction l with
  | nil => cases ha
  | cons b l ih =>
    obtain ⟨hfirst, hrest⟩ := List.pairwise_cons.mp hsorted
    rw [List.map_cons, List.nodup_cons] at hnames
    rcases List.mem_cons.mp ha with rfl | hmem
    · -- Nothing is below the first.
      have hnone : (a :: l).countP (fun b => key b < key a) = 0 := by
        rw [List.countP_eq_zero]
        intro c hc
        rcases List.mem_cons.mp hc with rfl | hc
        · simp
        · simpa using hfirst c hc
      rw [hnone, List.map_cons, List.idxOf_cons_self]
    · have hne : name b ≠ name a := by
        intro heq
        exact hnames.1 (heq ▸ List.mem_map_of_mem hmem)
      have hlt : key b < key a := by
        refine lt_of_le_of_ne (hfirst a hmem) ?_
        intro heq
        exact hne (hkey b a heq)
      rw [List.map_cons, List.idxOf_cons_ne _ hne, ih hrest hnames.2 hmem,
        List.countP_cons_of_pos (by simpa using hlt)]

theorem countP_le_of_forall₂ {R : α → β → Prop} {p : α → Bool} {q : β → Bool} {xs : List α}
    {ys : List β} (h : List.Forall₂ R xs ys)
    (himp : ∀ x, ∀ y ∈ ys, R x y → q y = true → p x = true) : ys.countP q ≤ xs.countP p := by
  induction h with
  | nil => exact le_refl _
  | @cons x y xs ys hxy _ ih =>
    have hrest := ih fun x y hy => himp x y (List.mem_cons_of_mem _ hy)
    rw [List.countP_cons, List.countP_cons]
    by_cases hq : q y = true
    · rw [if_pos hq, if_pos (himp x y List.mem_cons_self hxy hq)]
      omega
    · rw [if_neg hq]
      omega

/-- Two lists related to one, element by element. -/
theorem forall₂_of_common {R : γ → α → Prop} {S : γ → β → Prop} {zs : List γ} {xs : List α}
    {ys : List β} (hR : List.Forall₂ R zs xs) (hS : List.Forall₂ S zs ys) :
    List.Forall₂ (fun x y => ∃ z ∈ zs, R z x ∧ S z y) xs ys := by
  induction hR generalizing ys with
  | nil =>
    cases hS
    exact List.Forall₂.nil
  | cons hr _ ih =>
    cases hS with
    | cons hs hrest =>
      refine List.Forall₂.cons ⟨_, List.mem_cons_self, hr, hs⟩ ?_
      refine (ih hrest).imp ?_
      rintro x y ⟨z, hz, hpair⟩
      exact ⟨z, List.mem_cons_of_mem _ hz, hpair⟩

end counting

/-! ## Section 2: Dominance -/

/-- The rational numbers that a policy weighs with. -/
theorem SourcingPolicy.weights (policy : SourcingPolicy) :
    ∃ wc wr, policy.weight_cost.value? = some wc ∧ policy.weight_reliability.value? = some wr ∧
      0 ≤ wc ∧ 0 ≤ wr := by
  obtain ⟨wc, hwc, hwc0⟩ := policy.weight_cost_amount.value
  obtain ⟨wr, hwr, hwr0⟩ := policy.weight_reliability_amount.value
  exact ⟨wc, wr, hwc, hwr, hwc0, hwr0⟩

/-- Rows scored against one peak respect dominance. -/
theorem score_atMost {policy : SourcingPolicy} {peak : PyDecimal} {m : ℚ} {item item' : Draft}
    {row row' : LandedCostBreakdown} (hpeak : peak.value? = some m) (hpos : 0 < m)
    (hrow : rowOf policy peak item = .ok row) (hrow' : rowOf policy peak item' = .ok row')
    (hlanded : AtMost item.landed item'.landed)
    (hindex : AtMost item.reliability_index item'.reliability_index) :
    AtMost row.score row'.score := by
  obtain ⟨wc, wr, hwc, hwr, hwc0, hwr0⟩ := policy.weights
  obtain ⟨x, x', hx, hx', hxx'⟩ := hlanded
  obtain ⟨i, i', hi, hi', hii'⟩ := hindex
  exact ⟨_, _, (rowOf_ok hrow).score_value wc wr x m i hwc hwr hpeak hx hi,
    (rowOf_ok hrow').score_value wc wr x' m i' hwc hwr hpeak hx' hi',
    rankScore_mono hwc0 hwr0 hpos hxx' hii'⟩

theorem Ranking.dominance {quotes : List QuoteInputs} {records : Table String ReliabilityInputs}
    {policy : SourcingPolicy} {drafts : List Draft} {peak : PyDecimal}
    {rows : List LandedCostBreakdown} (h : Ranking quotes records policy drafts peak rows)
    {a b : LandedCostBreakdown} (ha : a ∈ rows) (hb : b ∈ rows)
    (hlanded : AtMost a.landed_cost_per_tonne b.landed_cost_per_tonne)
    (hindex : AtMost a.reliability_index b.reliability_index) : AtMost a.score b.score := by
  obtain ⟨m, hpeak, hpos⟩ := h.peakHolds
  obtain ⟨item, -, hrow⟩ := exists_of_mem_right h.scored ha
  obtain ⟨item', -, hrow'⟩ := exists_of_mem_right h.scored hb
  rw [(rowOf_ok hrow).landed, (rowOf_ok hrow').landed] at hlanded
  rw [(rowOf_ok hrow).index, (rowOf_ok hrow').index] at hindex
  exact score_atMost hpeak.value hpos hrow hrow' hlanded hindex

/-! ## Section 3: Raising a share on time -/

section raised
variable {vendor_id : String} {reliability reliability' : List ReliabilityInputs}
  {records records' : Table String ReliabilityInputs}

/-- The entries of other vendors stay. -/
theorem RaisedFor.get?_ne (h : RaisedFor vendor_id reliability reliability')
    (hrecords : reliabilityMap reliability = .ok records)
    (hrecords' : reliabilityMap reliability' = .ok records') {k : String} (hk : k ≠ vendor_id) :
    records'.get? k = records.get? k := by
  apply Option.ext
  intro record
  rw [(reliabilityMap_ok hrecords').2, (reliabilityMap_ok hrecords).2]
  constructor
  · rintro ⟨hmem, rfl⟩
    obtain ⟨other, hother, hrel⟩ := exists_of_mem_right h hmem
    split at hrel
    · rename_i hvendor
      obtain ⟨p, hp, -, rfl⟩ := hrel
      exact absurd hvendor hk
    · exact ⟨hrel ▸ hother, rfl⟩
  · rintro ⟨hmem, rfl⟩
    obtain ⟨other, hother, hrel⟩ := exists_of_mem_left h hmem
    rw [if_neg hk] at hrel
    exact ⟨hrel ▸ hother, rfl⟩

/-- The vendor's own entry has the greater share. -/
theorem RaisedFor.get?_self (h : RaisedFor vendor_id reliability reliability')
    (hrecords : reliabilityMap reliability = .ok records)
    (hrecords' : reliabilityMap reliability' = .ok records') {record record' : ReliabilityInputs}
    (hget : records.get? vendor_id = some record) (hget' : records'.get? vendor_id = some record') :
    AtMost record.on_time_pct record'.on_time_pct := by
  obtain ⟨hmem, rfl⟩ := ((reliabilityMap_ok hrecords).2 _ _).mp hget
  obtain ⟨other, hother, hrel⟩ := exists_of_mem_left h hmem
  rw [if_pos rfl] at hrel
  obtain ⟨p, hp, hle, rfl⟩ := hrel
  have hsame := ((reliabilityMap_ok hrecords').2 record.vendor_id _).mpr ⟨hother, rfl⟩
  obtain rfl := Option.some.inj (hsame.symm.trans hget')
  exact hle

theorem peakLanded_congr {drafts drafts' : List Draft}
    (h : drafts.map Draft.landed = drafts'.map Draft.landed) :
    peakLanded drafts = peakLanded drafts' := by
  cases drafts with
  | nil =>
    cases drafts' with
    | nil => rfl
    | cons item items => cases h
  | cons item items =>
    cases drafts' with
    | nil => cases h
    | cons item' items' =>
      obtain ⟨hfirst, hrest⟩ := List.cons.inj h
      show Except.ok (maxDecimal item.landed (items.map Draft.landed)) =
        Except.ok (maxDecimal item'.landed (items'.map Draft.landed))
      rw [hfirst, hrest]

variable {quotes : List QuoteInputs} {policy : SourcingPolicy} {drafts drafts' : List Draft}
  {peak peak' : PyDecimal} {rows rows' : List LandedCostBreakdown}

/-- The peak does not depend on the records. -/
theorem Ranking.same_peak (h : Ranking quotes records policy drafts peak rows)
    (h' : Ranking quotes records' policy drafts' peak' rows') : peak = peak' := by
  have hlanded : drafts'.map Draft.landed = drafts.map Draft.landed := by
    apply map_eq_of_forall₂ (forall₂_of_common h.drafted h'.drafted)
    rintro item item' ⟨quote, -, hdraft, hdraft'⟩
    have hcosts := (draftOf_ok.mp hdraft).2.1
    rw [(draftOf_ok.mp hdraft').2.1] at hcosts
    exact (Prod.mk.inj (Prod.mk.inj (Except.ok.inj hcosts)).2).2
  have hpeaks := (peakLanded_congr hlanded).symm.trans h'.peaked
  exact Except.ok.inj (h.peaked.symm.trans hpeaks)

/-- Each row of the second comparison against its row of the first. -/
theorem Ranking.raised (h : Ranking quotes records policy drafts peak rows)
    (h' : Ranking quotes records' policy drafts' peak' rows')
    (hraised : RaisedFor vendor_id reliability reliability')
    (hrecords : reliabilityMap reliability = .ok records)
    (hrecords' : reliabilityMap reliability' = .ok records') :
    List.Forall₂ (fun row row' => row'.vendor_id = row.vendor_id ∧
      (row.vendor_id ≠ vendor_id → row' = row) ∧
      (row.vendor_id = vendor_id → AtMost row'.score row.score)) rows rows' := by
  obtain rfl := h.same_peak h'
  obtain ⟨m, hpeak, hpos⟩ := h.peakHolds
  have hdrafts : List.Forall₂ (fun item item' => item'.quote = item.quote ∧
      item'.landed = item.landed ∧
      (item.quote.vendor_id ≠ vendor_id → item' = item) ∧
      (item.quote.vendor_id = vendor_id →
        AtMost item'.reliability_index item.reliability_index)) drafts drafts' := by
    refine (forall₂_of_common h.drafted h'.drafted).imp ?_
    rintro item item' ⟨quote, -, hdraft, hdraft'⟩
    obtain ⟨rfl, hcosts, record, hget, hindex⟩ := draftOf_ok.mp hdraft
    obtain ⟨hquote, hcosts', record', hget', hindex'⟩ := draftOf_ok.mp hdraft'
    have hsame := Except.ok.inj (hcosts'.symm.trans hcosts)
    refine ⟨hquote, (Prod.mk.inj (Prod.mk.inj hsame).2).2, ?_, ?_⟩
    · intro hne
      have hdraft'' : draftOf policy records item.quote = .ok item' := by
        rw [← hdraft']
        unfold draftOf
        rw [hraised.get?_ne hrecords hrecords' hne]
      exact Except.ok.inj (hdraft''.symm.trans hdraft)
    · intro heq
      rw [heq] at hget hget'
      obtain ⟨p, q, hp, hq, hle⟩ := hraised.get?_self hrecords hrecords' hget hget'
      exact ⟨_, _, (reliabilityIndex_ok hindex' hq).2, (reliabilityIndex_ok hindex hp).2,
        lateShare_anti hle⟩
  have hboth : List.Forall₂ (fun item' row => ∃ item ∈ drafts, (item'.quote = item.quote ∧
      item'.landed = item.landed ∧ (item.quote.vendor_id ≠ vendor_id → item' = item) ∧
      (item.quote.vendor_id = vendor_id →
        AtMost item'.reliability_index item.reliability_index)) ∧
      rowOf policy peak item = .ok row) drafts' rows :=
    forall₂_of_common hdrafts h.scored
  refine (forall₂_of_common hboth h'.scored).imp ?_
  rintro row row' ⟨item', -, ⟨item, hitem, ⟨hquote, hlanded, hother, hself⟩, hrow⟩, hrow'⟩
  have hvendor := (rowOf_ok hrow).vendor
  refine ⟨?_, ?_, ?_⟩
  · rw [hvendor, (rowOf_ok hrow').vendor, hquote]
  · intro hne
    rw [hvendor] at hne
    rw [hother hne] at hrow'
    exact Except.ok.inj (hrow'.symm.trans hrow)
  · intro heq
    rw [hvendor] at heq
    obtain ⟨quote, -, -, hcosts⟩ := h.draft hitem
    obtain ⟨x, hx⟩ := hcosts.landed_finite
    have hsame : AtMost item'.landed item.landed := ⟨x, x, by rw [hlanded, hx], hx, le_refl x⟩
    exact score_atMost hpeak.value hpos hrow' hrow hsame (hself heq)

end raised

/-! ## Section 4: The order of a comparison -/

/-- The rank of a vendor that is quoted: one more than the rows before its own. -/
theorem rankOf_eq {quotes : List QuoteInputs} {records : Table String ReliabilityInputs}
    {policy : SourcingPolicy} {drafts : List Draft} {peak : PyDecimal}
    {rows : List LandedCostBreakdown} (h : Ranking quotes records policy drafts peak rows)
    (hnodup : (quotes.map QuoteInputs.vendor_id).Nodup) {row : LandedCostBreakdown}
    (hrow : row ∈ rows) :
    ((rows.sortBy rankKey).map LandedCostBreakdown.vendor_id).idxOf row.vendor_id =
      rows.countP fun other => rankKey other < rankKey row := by
  have hperm := List.sortBy_perm rankKey rows
  have hnames : ((rows.sortBy rankKey).map LandedCostBreakdown.vendor_id).Nodup := by
    rw [(hperm.map _).nodup_iff, h.vendors]
    exact hnodup
  rw [idxOf_eq_countP (List.sortBy_pairwise rankKey rows) hnames
    (fun a b heq => congrArg (fun key => (ofLex key).2) heq) (List.mem_sortBy.mpr hrow)]
  exact hperm.countP_eq _

theorem rankKey_lt_of_score {a b c : LandedCostBreakdown} (hvendor : b.vendor_id = c.vendor_id)
    (hscore : AtMost b.score c.score) (h : rankKey a < rankKey b) : rankKey a < rankKey c := by
  refine lt_of_lt_of_le h ?_
  obtain ⟨x, y, hx, hy, hle⟩ := hscore
  unfold rankKey
  rw [hvendor, hx, hy, Prod.Lex.toLex_le_toLex']
  exact ⟨WithBot.coe_le_coe.mpr hle, fun _ => le_refl _⟩

/-- **Dominance and monotonicity**: a quote that is neither dearer nor less
    reliable than another has no greater score, and a greater share of orders on
    time does not worsen the rank of a vendor. -/
theorem comparison_order {quotes : List QuoteInputs} {reliability : List ReliabilityInputs}
    {policy : SourcingPolicy} {computed_at : String} {receipt : ComparisonReceipt}
    (h : compareQuotes quotes reliability policy computed_at = .ok receipt) :
    (∀ a ∈ receipt.ranked, ∀ b ∈ receipt.ranked,
      AtMost a.landed_cost_per_tonne b.landed_cost_per_tonne →
      AtMost a.reliability_index b.reliability_index → AtMost a.score b.score) ∧
    ∀ vendor_id reliability' receipt', RaisedFor vendor_id reliability reliability' →
      compareQuotes quotes reliability' policy computed_at = .ok receipt' →
      receipt'.rankOf vendor_id ≤ receipt.rankOf vendor_id := by
  obtain ⟨-, -, records, hrecords, hnodup, -, ranked, hranked, hreceipt⟩ := compareQuotes_ok.mp h
  obtain ⟨drafts, peak, rows, hranking, rfl⟩ := rankedRows_ok.mp hranked
  have hrows : receipt.ranked = rows.sortBy rankKey := (receiptOf_ok hreceipt).1
  refine ⟨?_, ?_⟩
  · intro a ha b hb hlanded hindex
    rw [hrows, List.mem_sortBy] at ha hb
    exact hranking.dominance ha hb hlanded hindex
  · intro vendor_id reliability' receipt' hraised h'
    obtain ⟨-, -, records', hrecords', -, -, ranked', hranked', hreceipt'⟩ := compareQuotes_ok.mp h'
    obtain ⟨drafts', peak', rows', hranking', rfl⟩ := rankedRows_ok.mp hranked'
    have hrows' : receipt'.ranked = rows'.sortBy rankKey := (receiptOf_ok hreceipt').1
    have hpairs := hranking.raised hranking' hraised hrecords hrecords'
    unfold ComparisonReceipt.rankOf ComparisonReceipt.rankedVendorIds
    rw [hrows, hrows']
    apply Nat.add_le_add_right
    by_cases hquoted : ∃ row ∈ rows, row.vendor_id = vendor_id
    · obtain ⟨row, hrow, rfl⟩ := hquoted
      obtain ⟨row', hrow', hvendor, -, hself⟩ := exists_of_mem_left hpairs hrow
      have hrank' := rankOf_eq hranking' hnodup hrow'
      rw [hvendor] at hrank'
      rw [rankOf_eq hranking hnodup hrow, hrank']
      -- What is before the vendor afterwards was before it.
      apply countP_le_of_forall₂ hpairs
      rintro other other' hmem ⟨hvendor', hother, -⟩ hbefore
      have hbefore' := of_decide_eq_true hbefore
      by_cases heq : other.vendor_id = row.vendor_id
      · -- The vendor's own row is not before itself.
        have hnames' : (rows'.map LandedCostBreakdown.vendor_id).Nodup := by
          rw [hranking'.vendors]
          exact hnodup
        have hsame : other' = row' :=
          List.inj_on_of_nodup_map hnames' hmem hrow' (hvendor'.trans (heq.trans hvendor.symm))
        rw [hsame] at hbefore'
        exact absurd hbefore' (lt_irrefl _)
      · rw [hother heq] at hbefore'
        exact decide_eq_true (rankKey_lt_of_score hvendor (hself rfl) hbefore')
    · -- A vendor without a quote comes after all of them.
      have hnames : rows'.map LandedCostBreakdown.vendor_id =
          rows.map LandedCostBreakdown.vendor_id :=
        map_eq_of_forall₂ hpairs fun _ _ hpair => hpair.1
      have hmissing : vendor_id ∉ (rows.sortBy rankKey).map LandedCostBreakdown.vendor_id := by
        intro hmem
        obtain ⟨row, hrow, heq⟩ := List.mem_map.mp hmem
        exact hquoted ⟨row, List.mem_sortBy.mp hrow, heq⟩
      rw [List.idxOf_eq_length_iff.mpr hmissing, List.length_map, List.length_sortBy,
        ← List.length_map LandedCostBreakdown.vendor_id, ← hnames, List.length_map]
      refine List.idxOf_le_length.trans ?_
      rw [List.length_map, List.length_sortBy]

/-- The vendor paid in advance, more often on time. -/
def betterRecord : ReliabilityInputs :=
  { advanceRecord with
    on_time_pct := .finite false 99 0
    on_time_pct_amount := by constructor <;> decide +kernel }

theorem better_ranked :
    ∃ ranked, rankedRows [advanceQuote, laterQuote]
        ((Table.empty.set "v-adv" betterRecord).set "v-same" laterRecord) samplePolicy =
          .ok ranked ∧
      ranked.map LandedCostBreakdown.vendor_id = ["v-adv", "v-same"] := by
  apply map_ok.mp
  decide +kernel

/-- The vendor gains by it. -/
theorem comparison_order_better :
    ∃ receipt receipt', compareQuotes [advanceQuote, laterQuote] [advanceRecord, laterRecord]
        samplePolicy "2026-03-01" = .ok receipt ∧
      compareQuotes [advanceQuote, laterQuote] [betterRecord, laterRecord] samplePolicy
        "2026-03-01" = .ok receipt' ∧
      receipt'.rankOf "v-adv" ≤ receipt.rankOf "v-adv" := by
  obtain ⟨receipt, h⟩ := sample_compared
  obtain ⟨ranked, hranked, -⟩ := better_ranked
  have hrecords : reliabilityMap [betterRecord, laterRecord] =
      .ok ((Table.empty.set "v-adv" betterRecord).set "v-same" laterRecord) := rfl
  have hclock : nonBlank "2026-03-01" = true := by decide +kernel
  obtain ⟨receipt', h'⟩ := compareQuotes_returns hclock (by simp) hrecords (by decide +kernel)
    (by decide +kernel) hranked
  have hraised : RaisedFor "v-adv" [advanceRecord, laterRecord] [betterRecord, laterRecord] := by
    refine List.Forall₂.cons ?_ (List.Forall₂.cons ?_ List.Forall₂.nil)
    · have hvendor : advanceRecord.vendor_id = "v-adv" := rfl
      rw [if_pos hvendor]
      exact ⟨_, betterRecord.on_time_pct_amount,
        ⟨90, 99, by decide +kernel, by decide +kernel, by norm_num⟩, rfl⟩
    · have hvendor : laterRecord.vendor_id ≠ "v-adv" := by decide +kernel
      rw [if_neg hvendor]
  exact ⟨receipt, receipt', h, h', (comparison_order h).2 "v-adv" _ receipt' hraised h'⟩

end CBrain.Procurement

import CBrain.Framework.Paired
import CBrain.Procurement.Comparator

/-! # What a comparison computes

    The costs and scores of a comparison as functions of rational numbers, and
    what drafts, rows and the reliability map hold in their terms.

    * `landedCost`, `lateShare`, `rankScore` : the functions.
    * `draftOf_ok`, `rowOf_ok` : drafts and rows have these values.
    * `rankedRows_ok`          : the rows of a comparison. -/

namespace CBrain.Procurement

open Paired (exists_of_mem_right map_eq_of_forall₂)
open PyDecimal (roundAt contextRound value?)

/-! ## Section 1: Costs and scores -/

/-- The rate, the freight, the tax and the credit added up as the context does
    it. -/
def carriedCost (rate freight gst credit : ℚ) : ℚ :=
  contextRound (contextRound (contextRound (rate + freight) + gst) + credit)

/-- `landed`. -/
def landedCost (rate freight gst credit : ℚ) : ℚ :=
  roundAt MONEY (carriedCost rate freight gst credit)

/-- `reliability_index`. -/
def lateShare (on_time_pct : ℚ) : ℚ :=
  roundAt SCORE (contextRound (contextRound (100 - on_time_pct) / 100))

/-- `score`. -/
def rankScore (weight_cost weight_reliability peak landed index : ℚ) : ℚ :=
  roundAt SCORE (contextRound
    (contextRound (weight_cost * roundAt SCORE (contextRound (landed / peak))) +
      contextRound (weight_reliability * index)))

theorem lateShare_anti {p q : ℚ} (h : p ≤ q) : lateShare q ≤ lateShare p := by
  unfold lateShare
  apply PyDecimal.roundAt_mono SCORE
  apply PyDecimal.contextRound_mono
  apply div_le_div_of_nonneg_right _ (by norm_num)
  apply PyDecimal.contextRound_mono
  linarith

/-- A lesser cost and a lesser index make a score that is not greater. -/
theorem rankScore_mono {weight_cost weight_reliability peak landed landed' index index' : ℚ}
    (hcost : 0 ≤ weight_cost) (hreliability : 0 ≤ weight_reliability) (hpeak : 0 < peak)
    (hlanded : landed ≤ landed') (hindex : index ≤ index') :
    rankScore weight_cost weight_reliability peak landed index ≤
      rankScore weight_cost weight_reliability peak landed' index' := by
  have hshare : landed / peak ≤ landed' / peak := div_le_div_of_nonneg_right hlanded hpeak.le
  have hnormalized := PyDecimal.roundAt_mono SCORE (PyDecimal.contextRound_mono hshare)
  have hweighted := PyDecimal.contextRound_mono (mul_le_mul_of_nonneg_left hnormalized hcost)
  have hrisk := PyDecimal.contextRound_mono (mul_le_mul_of_nonneg_left hindex hreliability)
  unfold rankScore
  exact PyDecimal.roundAt_mono SCORE (PyDecimal.contextRound_mono (add_le_add hweighted hrisk))

/-! ## Section 2: Loops -/

/-- The results of a reordered list are the reordered results. -/
theorem mapM_perm {α β : Type} {f : α → Raises β} {xs xs' : List α} {ys : List β}
    (hperm : xs.Perm xs') (h : xs.mapM f = .ok ys) :
    ∃ ys', xs'.mapM f = .ok ys' ∧ ys.Perm ys' := by
  obtain ⟨ys', hmap, hys⟩ := List.perm_comp_forall₂ hperm.symm (mapM_ok.mp h)
  exact ⟨ys', mapM_ok.mpr hmap, hys.symm⟩

/-- What the loop over the records makes of a map. -/
theorem reliabilityMap_from {reliability : List ReliabilityInputs}
    {mapped result : Table String ReliabilityInputs}
    (h : reliability.foldlM (fun mapped record =>
      match mapped.insert? record.vendor_id record with
      | some mapped => .ok mapped
      | none => .error (valueError "reliability records must be unique per vendor")) mapped =
        (.ok result : Raises _)) :
    (reliability.map ReliabilityInputs.vendor_id).Nodup ∧
      (∀ record ∈ reliability, mapped.get? record.vendor_id = none) ∧
      ∀ k record, result.get? k = some record ↔
        (record ∈ reliability ∧ record.vendor_id = k) ∨ mapped.get? k = some record := by
  induction reliability generalizing mapped with
  | nil =>
    obtain rfl := pure_ok.mp h
    refine ⟨List.nodup_nil, ?_, ?_⟩
    · intro record hr
      cases hr
    · intro k record
      simp
  | cons first rest ih =>
    rw [List.foldlM_cons, bind_ok] at h
    obtain ⟨next, hnext, hrest⟩ := h
    cases hinsert : mapped.insert? first.vendor_id first with
    | none =>
      rw [hinsert] at hnext
      cases hnext
    | some inserted =>
      rw [hinsert] at hnext
      obtain rfl := Except.ok.inj hnext
      obtain ⟨hfree, rfl⟩ := Table.insert?_eq_some.mp hinsert
      obtain ⟨hnodup, hnone, hget⟩ := ih hrest
      have hfresh : ∀ record ∈ rest, record.vendor_id ≠ first.vendor_id := by
        intro record hr heq
        have hset := hnone record hr
        rw [heq, Table.get?_set_self] at hset
        cases hset
      refine ⟨?_, ?_, ?_⟩
      · rw [List.map_cons, List.nodup_cons]
        refine ⟨?_, hnodup⟩
        intro hmem
        obtain ⟨record, hr, heq⟩ := List.mem_map.mp hmem
        exact hfresh record hr heq
      · intro record hr
        rcases List.mem_cons.mp hr with rfl | hr
        · exact hfree
        · have hset := hnone record hr
          rw [Table.get?_set_ne _ _ (hfresh record hr)] at hset
          exact hset
      · intro k record
        rw [hget, Table.get?_set]
        by_cases hk : k = first.vendor_id
        · rw [if_pos hk, hk, hfree]
          constructor
          · rintro (⟨hr, hv⟩ | heq)
            · exact absurd hv (hfresh record hr)
            · obtain rfl := Option.some.inj heq
              exact Or.inl ⟨List.mem_cons_self, rfl⟩
          · rintro (⟨hr, hv⟩ | hnone)
            · rcases List.mem_cons.mp hr with rfl | hr
              · exact Or.inr rfl
              · exact absurd hv (hfresh record hr)
            · cases hnone
        · rw [if_neg hk, List.mem_cons]
          constructor
          · rintro (⟨hr, hv⟩ | heq)
            · exact Or.inl ⟨Or.inr hr, hv⟩
            · exact Or.inr heq
          · rintro (⟨rfl | hr, hv⟩ | heq)
            · exact absurd hv.symm hk
            · exact Or.inl ⟨hr, hv⟩
            · exact Or.inr heq

/-- A map of records holds each under its vendor, and nothing else. -/
theorem reliabilityMap_ok {reliability : List ReliabilityInputs}
    {mapped : Table String ReliabilityInputs} (h : reliabilityMap reliability = .ok mapped) :
    (reliability.map ReliabilityInputs.vendor_id).Nodup ∧
      ∀ k record, mapped.get? k = some record ↔ record ∈ reliability ∧ record.vendor_id = k := by
  obtain ⟨hnodup, -, hget⟩ := reliabilityMap_from h
  refine ⟨hnodup, ?_⟩
  intro k record
  rw [hget, Table.get?_empty]
  simp

/-- Records of distinct vendors have a map. -/
theorem reliabilityMap_of_nodup {reliability : List ReliabilityInputs}
    (h : (reliability.map ReliabilityInputs.vendor_id).Nodup) :
    ∃ mapped, reliabilityMap reliability = .ok mapped := by
  suffices hfrom : ∀ mapped : Table String ReliabilityInputs,
      (∀ record ∈ reliability, mapped.get? record.vendor_id = none) →
      ∃ result, reliability.foldlM (fun mapped record =>
        match mapped.insert? record.vendor_id record with
        | some mapped => .ok mapped
        | none => .error (valueError "reliability records must be unique per vendor")) mapped =
          (.ok result : Raises _) from
    hfrom Table.empty fun _ _ => rfl
  induction reliability with
  | nil => exact fun mapped _ => ⟨mapped, rfl⟩
  | cons first rest ih =>
    intro mapped hfree
    rw [List.map_cons, List.nodup_cons] at h
    have hinsert : mapped.insert? first.vendor_id first = some (mapped.set first.vendor_id first) :=
      Table.insert?_eq_some.mpr ⟨hfree first List.mem_cons_self, rfl⟩
    obtain ⟨result, hresult⟩ := ih h.2 (mapped.set first.vendor_id first) (by
      intro record hr
      have hne : record.vendor_id ≠ first.vendor_id := by
        intro heq
        exact h.1 (List.mem_map.mpr ⟨record, hr, heq⟩)
      rw [Table.get?_set_ne _ _ hne]
      exact hfree record (List.mem_cons_of_mem _ hr))
    refine ⟨result, ?_⟩
    rw [List.foldlM_cons, hinsert]
    exact hresult

/-! ## Section 3: Drafts and rows -/

theorem requireDecimal_bind_ok {β : Type} {value : PyDecimal} {name : String}
    {f : PLift (value.isFinite = true) → Raises β} {b : β} :
    (requireDecimal value name >>= f) = .ok b ↔ ∃ h : value.isFinite = true, f ⟨h⟩ = .ok b :=
  ensure_bind_ok

theorem computed_bind_ok {β : Type} {result : Option PyDecimal} {f : PyDecimal → Raises β} {b : β} :
    (computed result >>= f) = .ok b ↔ ∃ x, result = some x ∧ f x = .ok b := by
  rw [bind_ok]
  simp only [computed_ok]

/-- The value of an amount. -/
theorem IsAmount.value {x : PyDecimal} (h : IsAmount x) : ∃ v, x.value? = some v ∧ 0 ≤ v := by
  obtain ⟨v, hv⟩ := PyDecimal.value_of_finite h.finite
  refine ⟨v, hv, ?_⟩
  have hlt := h.nonneg
  rw [PyDecimal.lt_value hv (PyDecimal.ofInt_value 0)] at hlt
  have hnot : ¬ v < ((0 : Int) : ℚ) := of_decide_eq_false (Option.some.inj hlt)
  exact_mod_cast not_lt.mp hnot

/-- The value of something quantized is a rounded one. -/
theorem quantize_value_iff {target : Int} {x y : PyDecimal} {v : ℚ} (h : x.quantize target = some y)
    (hx : x.value? = some v) : y.quantize target = some y ∧ y.value? = some (roundAt target v) :=
  ⟨PyDecimal.quantize_again h, PyDecimal.quantize_value h hx⟩

theorem gstEffect_ok {rate freight gst_rate gst : PyDecimal} {eligible : Bool}
    (h : gstEffect rate freight gst_rate eligible = .ok gst) :
    gst.quantize MONEY = some gst ∧ ∃ g, gst.value? = some g := by
  unfold gstEffect at h
  rw [requireDecimal_bind_ok] at h
  obtain ⟨hrate, h⟩ := h
  rw [requireDecimal_bind_ok] at h
  obtain ⟨hfreight, h⟩ := h
  rw [requireDecimal_bind_ok] at h
  obtain ⟨hgst, h⟩ := h
  cases eligible
  · rw [if_neg (by simp), computed_bind_ok] at h
    obtain ⟨taxable, htaxable, h⟩ := h
    rw [computed_bind_ok] at h
    obtain ⟨tax, htax, h⟩ := h
    obtain ⟨r, hr⟩ := PyDecimal.value_of_finite hrate
    obtain ⟨f, hf⟩ := PyDecimal.value_of_finite hfreight
    obtain ⟨g, hg⟩ := PyDecimal.value_of_finite hgst
    obtain ⟨hcents, hvalue⟩ := quantize_value_iff (computed_ok.mp h)
      (PyDecimal.mul_value htax (PyDecimal.add_value htaxable hr hf) hg)
    exact ⟨hcents, _, hvalue⟩
  · rw [if_pos rfl, pure_ok] at h
    rw [← h]
    exact ⟨by decide, _, rfl⟩

theorem creditCost_ok {taxable annual credit : PyDecimal} {terms : String}
    (h : creditCost taxable terms annual = .ok credit) :
    credit.quantize MONEY = some credit ∧ ∃ c, credit.value? = some c := by
  unfold creditCost at h
  rw [requireDecimal_bind_ok] at h
  obtain ⟨htaxable, h⟩ := h
  rw [requireDecimal_bind_ok] at h
  obtain ⟨hannual, h⟩ := h
  cases hdays : TERM_DAYS.lookup terms with
  | none =>
    rw [hdays] at h
    cases h
  | some days =>
    rw [hdays] at h
    simp only [computed_bind_ok] at h
    obtain ⟨cost, hcost, term, hterm, saved, hsaved, daily, hdaily, h⟩ := h
    obtain ⟨t, ht⟩ := PyDecimal.value_of_finite htaxable
    obtain ⟨a, ha⟩ := PyDecimal.value_of_finite hannual
    have hterm' := PyDecimal.mul_value hterm (PyDecimal.mul_value hcost ht ha)
      (PyDecimal.ofInt_value days)
    obtain ⟨hcents, hvalue⟩ := quantize_value_iff (computed_ok.mp h)
      (PyDecimal.div_value hdaily (PyDecimal.neg_value hsaved hterm') (PyDecimal.ofInt_value 365))
    exact ⟨hcents, _, hvalue⟩

/-- The index falls with the share of orders on time. -/
theorem reliabilityIndex_ok {on_time_pct index : PyDecimal} {p : ℚ}
    (h : reliabilityIndex on_time_pct = .ok index) (hp : on_time_pct.value? = some p) :
    index.quantize SCORE = some index ∧ index.value? = some (lateShare p) := by
  unfold reliabilityIndex at h
  rw [requireDecimal_bind_ok] at h
  obtain ⟨-, h⟩ := h
  simp only [computed_bind_ok, computed_ok] at h
  obtain ⟨late, hlate, share, hshare, h⟩ := h
  have hvalue := PyDecimal.div_value hshare
    (PyDecimal.sub_value hlate (PyDecimal.ofInt_value 100) hp) (PyDecimal.ofInt_value 100)
  exact quantize_value_iff h hvalue

/-- The costs of a quote: the tax and the credit are in cents, and so is their sum
    with the rate and the freight. -/
structure CostsHold (policy : SourcingPolicy) (quote : QuoteInputs)
    (gst credit landed : PyDecimal) : Prop where
  gst_effect : gstEffect quote.rate_per_tonne quote.freight_per_tonne quote.gst_rate
    policy.input_credit_eligible = .ok gst
  credit_cost : ∃ taxable, quote.rate_per_tonne.add? quote.freight_per_tonne = some taxable ∧
    creditCost taxable quote.payment_terms policy.annual_cost_of_capital = .ok credit
  landed_cents : landed.quantize MONEY = some landed
  landed_value : ∀ r f g c, quote.rate_per_tonne.value? = some r →
    quote.freight_per_tonne.value? = some f → gst.value? = some g → credit.value? = some c →
    landed.value? = some (landedCost r f g c)

theorem costsOf_ok {policy : SourcingPolicy} {quote : QuoteInputs} {gst credit landed : PyDecimal}
    (h : costsOf policy quote = .ok (gst, credit, landed)) :
    CostsHold policy quote gst credit landed := by
  unfold costsOf at h
  simp only [bind_ok, computed_ok, pure_ok, Prod.mk.injEq] at h
  obtain ⟨taxable, htaxable, gst, hgst, credit, hcredit, taxed, htaxed, total, htotal, landed,
    hlanded, rfl, rfl, rfl⟩ := h
  refine ⟨hgst, ⟨taxable, htaxable, hcredit⟩, PyDecimal.quantize_again hlanded, ?_⟩
  intro r f g c hr hf hg hc
  exact PyDecimal.quantize_value hlanded (PyDecimal.add_value htotal
    (PyDecimal.add_value htaxed (PyDecimal.add_value htaxable hr hf) hg) hc)

/-- The landed cost has a value. -/
theorem CostsHold.landed_finite {policy : SourcingPolicy} {quote : QuoteInputs}
    {gst credit landed : PyDecimal} (h : CostsHold policy quote gst credit landed) :
    ∃ x, landed.value? = some x := by
  obtain ⟨r, hr, -⟩ := quote.rate_per_tonne_amount.value
  obtain ⟨f, hf, -⟩ := quote.freight_per_tonne_amount.value
  obtain ⟨-, g, hg⟩ := gstEffect_ok h.gst_effect
  obtain ⟨taxable, -, hcredit⟩ := h.credit_cost
  obtain ⟨-, c, hc⟩ := creditCost_ok hcredit
  exact ⟨_, h.landed_value r f g c hr hf hg hc⟩

/-- What a draft holds: the record of its vendor went into the index alone. -/
theorem draftOf_ok {policy : SourcingPolicy} {records : Table String ReliabilityInputs}
    {quote : QuoteInputs} {item : Draft} :
    draftOf policy records quote = .ok item ↔
      item.quote = quote ∧ costsOf policy quote = .ok (item.gst, item.credit, item.landed) ∧
      ∃ record, records.get? quote.vendor_id = some record ∧
        reliabilityIndex record.on_time_pct = .ok item.reliability_index := by
  unfold draftOf
  cases hrecord : records.get? quote.vendor_id with
  | none => simp
  | some record =>
    simp only [bind_ok, pure_ok, Option.some.injEq]
    constructor
    · rintro ⟨⟨gst, credit, landed⟩, hcosts, index, hindex, rfl⟩
      exact ⟨rfl, hcosts, record, rfl, hindex⟩
    · rintro ⟨rfl, hcosts, record, rfl, hindex⟩
      exact ⟨_, hcosts, _, hindex, rfl⟩

/-- A row repeats its draft, and its score is made of the landed cost and the
    index. -/
structure RowHolds (policy : SourcingPolicy) (peak : PyDecimal) (item : Draft)
    (row : LandedCostBreakdown) : Prop where
  vendor : row.vendor_id = item.quote.vendor_id
  rate : item.quote.rate_per_tonne.quantize MONEY = some row.rate_per_tonne
  freight : item.quote.freight_per_tonne.quantize MONEY = some row.freight_per_tonne
  gst : row.gst_effect_per_tonne = item.gst
  credit : row.credit_cost_per_tonne = item.credit
  landed : row.landed_cost_per_tonne = item.landed
  index : row.reliability_index = item.reliability_index
  normalized_units : row.normalized_landed_cost.quantize SCORE = some row.normalized_landed_cost
  score_units : row.score.quantize SCORE = some row.score
  score_value : ∀ wc wr x m i, policy.weight_cost.value? = some wc →
    policy.weight_reliability.value? = some wr → peak.value? = some m →
    item.landed.value? = some x → item.reliability_index.value? = some i →
    row.score.value? = some (rankScore wc wr m x i)

theorem rowOf_ok {policy : SourcingPolicy} {peak : PyDecimal} {item : Draft}
    {row : LandedCostBreakdown} (h : rowOf policy peak item = .ok row) :
    RowHolds policy peak item row := by
  unfold rowOf at h
  simp only [bind_ok, computed_ok, pure_ok] at h
  obtain ⟨share, hshare, normalized, hnormalized, cost, hcost, risk, hrisk, total, htotal, score,
    hscore, rate, hrate, freight, hfreight, rfl⟩ := h
  refine ⟨rfl, hrate, hfreight, rfl, rfl, rfl, rfl, PyDecimal.quantize_again hnormalized,
    PyDecimal.quantize_again hscore, ?_⟩
  intro wc wr x m i hwc hwr hm hx hi
  have hnormalized' := PyDecimal.quantize_value hnormalized (PyDecimal.div_value hshare hx hm)
  exact PyDecimal.quantize_value hscore (PyDecimal.add_value htotal
    (PyDecimal.mul_value hcost hwc hnormalized') (PyDecimal.mul_value hrisk hwr hi))

/-! ## Section 4: The peak -/

/-- The greatest is one of the numbers, and none is above it. -/
theorem maxDecimal_spec {first : PyDecimal} {rest : List PyDecimal}
    (hfinite : ∀ x ∈ first :: rest, ∃ v, x.value? = some v) :
    maxDecimal first rest ∈ first :: rest ∧
      ∀ x ∈ first :: rest, ∀ v m, x.value? = some v → (maxDecimal first rest).value? = some m →
        v ≤ m := by
  induction rest generalizing first with
  | nil =>
    refine ⟨List.mem_cons_self, ?_⟩
    intro x hx v m hv hm
    rw [List.mem_singleton.mp hx] at hv
    exact (Option.some.inj (hv.symm.trans hm)).le
  | cons y rest ih =>
    obtain ⟨a, ha⟩ := hfinite first List.mem_cons_self
    obtain ⟨b, hb⟩ := hfinite y (List.mem_cons_of_mem _ List.mem_cons_self)
    -- The better of the first two goes on.
    obtain ⟨best, hbest⟩ : ∃ best, best = if first.lt? y = some true then y else first := ⟨_, rfl⟩
    have hmember : best = first ∨ best = y := by
      rw [hbest]
      split
      · exact Or.inr rfl
      · exact Or.inl rfl
    obtain ⟨t, ht, hat, hbt⟩ : ∃ t, best.value? = some t ∧ a ≤ t ∧ b ≤ t := by
      rw [hbest, PyDecimal.lt_value ha hb]
      by_cases hlt : a < b
      · rw [if_pos (by rw [decide_eq_true hlt])]
        exact ⟨b, hb, hlt.le, le_refl b⟩
      · rw [if_neg (by rw [decide_eq_false hlt]; simp)]
        exact ⟨a, ha, le_refl a, not_lt.mp hlt⟩
    have hstep : maxDecimal first (y :: rest) = maxDecimal best rest := by
      rw [hbest]
      rfl
    have hrest : ∀ x ∈ best :: rest, ∃ v, x.value? = some v := by
      intro x hx
      rcases List.mem_cons.mp hx with rfl | hx
      · exact ⟨t, ht⟩
      · exact hfinite x (List.mem_cons_of_mem _ (List.mem_cons_of_mem _ hx))
    obtain ⟨hmem, hmost⟩ := ih hrest
    rw [hstep]
    refine ⟨?_, ?_⟩
    · rcases List.mem_cons.mp hmem with heq | hmem
      · rw [heq]
        rcases hmember with h | h
        · exact h ▸ List.mem_cons_self
        · exact h ▸ List.mem_cons_of_mem _ List.mem_cons_self
      · exact List.mem_cons_of_mem _ (List.mem_cons_of_mem _ hmem)
    · intro x hx v m hv hm
      have htm : t ≤ m := hmost best List.mem_cons_self t m ht hm
      rcases List.mem_cons.mp hx with rfl | hx
      · rw [Option.some.inj (hv.symm.trans ha)]
        exact hat.trans htm
      rcases List.mem_cons.mp hx with rfl | hx
      · rw [Option.some.inj (hv.symm.trans hb)]
        exact hbt.trans htm
      · exact hmost x (List.mem_cons_of_mem _ hx) v m hv hm

/-- The peak is the greatest landed cost of the drafts. -/
structure PeakHolds (drafts : List Draft) (peak : PyDecimal) (m : ℚ) : Prop where
  value : peak.value? = some m
  mem : ∃ item ∈ drafts, item.landed = peak
  most : ∀ item ∈ drafts, ∀ x, item.landed.value? = some x → x ≤ m

theorem peakLanded_ok {drafts : List Draft} {peak : PyDecimal}
    (hfinite : ∀ item ∈ drafts, ∃ x, item.landed.value? = some x)
    (h : peakLanded drafts = .ok peak) : ∃ m, PeakHolds drafts peak m := by
  cases drafts with
  | nil => cases h
  | cons first rest =>
    obtain rfl := Except.ok.inj h
    have hall : ∀ x ∈ first.landed :: rest.map Draft.landed, ∃ v, x.value? = some v := by
      intro x hx
      rw [← List.map_cons] at hx
      obtain ⟨item, hitem, rfl⟩ := List.mem_map.mp hx
      exact hfinite item hitem
    obtain ⟨hmem, hmost⟩ := maxDecimal_spec hall
    obtain ⟨m, hm⟩ := hall _ hmem
    refine ⟨m, hm, ?_, ?_⟩
    · rw [← List.map_cons] at hmem
      obtain ⟨item, hitem, heq⟩ := List.mem_map.mp hmem
      exact ⟨item, hitem, heq⟩
    · intro item hitem x hx
      refine hmost item.landed ?_ x m hx hm
      rw [← List.map_cons]
      exact List.mem_map_of_mem hitem

/-- Drafts of the same landed costs, in whatever order, have one peak, if it is
    above zero. -/
theorem PeakHolds.same {drafts drafts' : List Draft} {peak peak' : PyDecimal} {m m' : ℚ}
    (h : PeakHolds drafts peak m) (h' : PeakHolds drafts' peak' m') (hpos : 0 < m)
    (hcents : ∀ item ∈ drafts, item.landed.quantize MONEY = some item.landed)
    (hsame : ∀ x, (∃ item ∈ drafts, item.landed = x) ↔ ∃ item ∈ drafts', item.landed = x) :
    peak = peak' := by
  have hcents' : ∀ item ∈ drafts', item.landed.quantize MONEY = some item.landed := by
    intro item hitem
    obtain ⟨other, hother, heq⟩ := (hsame item.landed).mpr ⟨item, hitem, rfl⟩
    rw [← heq]
    exact hcents other hother
  obtain ⟨item, hitem, rfl⟩ := h.mem
  obtain ⟨item', hitem', rfl⟩ := h'.mem
  obtain ⟨other, hother, heq⟩ := (hsame item.landed).mp ⟨item, hitem, rfl⟩
  obtain ⟨other', hother', heq'⟩ := (hsame item'.landed).mpr ⟨item', hitem', rfl⟩
  have hle : m ≤ m' := h'.most other hother m (heq ▸ h.value)
  have hge : m' ≤ m := h.most other' hother' m' (heq' ▸ h'.value)
  have heqm : m = m' := le_antisymm hle hge
  exact PyDecimal.eq_of_quantized (hcents item hitem) (hcents' item' hitem') h.value
    (heqm ▸ h'.value) hpos

/-- Where there are drafts, there is a peak. -/
theorem exists_peakLanded {drafts : List Draft} (h : drafts ≠ []) :
    ∃ peak, peakLanded drafts = .ok peak := by
  cases drafts with
  | nil => exact absurd rfl h
  | cons first rest => exact ⟨_, rfl⟩

theorem positive_iff {x : PyDecimal} {v : ℚ} (h : x.value? = some v) :
    (PyDecimal.ofInt 0).lt? x = some true ↔ 0 < v := by
  rw [PyDecimal.lt_value (PyDecimal.ofInt_value 0) h, Option.some.injEq, decide_eq_true_eq,
    Int.cast_zero]

/-! ## Section 5: The rows of a comparison -/

/-- What a ranking goes through. -/
structure Ranking (quotes : List QuoteInputs) (records : Table String ReliabilityInputs)
    (policy : SourcingPolicy) (drafts : List Draft) (peak : PyDecimal)
    (rows : List LandedCostBreakdown) : Prop where
  drafted : List.Forall₂ (fun quote item => draftOf policy records quote = .ok item) quotes drafts
  peaked : peakLanded drafts = .ok peak
  positive : (PyDecimal.ofInt 0).lt? peak = some true
  scored : List.Forall₂ (fun item row => rowOf policy peak item = .ok row) drafts rows

theorem rankedRows_ok {quotes : List QuoteInputs} {records : Table String ReliabilityInputs}
    {policy : SourcingPolicy} {ranked : List LandedCostBreakdown} :
    rankedRows quotes records policy = .ok ranked ↔
      ∃ drafts peak rows, Ranking quotes records policy drafts peak rows ∧
        rows.sortBy rankKey = ranked := by
  unfold rankedRows
  simp only [bind_ok, require_ok, pure_ok, mapM_ok]
  constructor
  · rintro ⟨drafts, hdrafts, peak, hpeak, _, hpos, rows, hrows, heq⟩
    exact ⟨drafts, peak, rows, ⟨hdrafts, hpeak, hpos, hrows⟩, heq⟩
  · rintro ⟨drafts, peak, rows, h, heq⟩
    exact ⟨drafts, h.drafted, peak, h.peaked, (), h.positive, rows, h.scored, heq⟩

section ranking
variable {quotes : List QuoteInputs} {records : Table String ReliabilityInputs}
  {policy : SourcingPolicy} {drafts : List Draft} {peak : PyDecimal}
  {rows : List LandedCostBreakdown}

/-- Each draft is one of a quote, with its costs. -/
theorem Ranking.draft (h : Ranking quotes records policy drafts peak rows) {item : Draft}
    (hitem : item ∈ drafts) :
    ∃ quote ∈ quotes, draftOf policy records quote = .ok item ∧
      CostsHold policy quote item.gst item.credit item.landed := by
  obtain ⟨quote, hquote, hdraft⟩ := exists_of_mem_right h.drafted hitem
  exact ⟨quote, hquote, hdraft, costsOf_ok (draftOf_ok.mp hdraft).2.1⟩

/-- The peak of a ranking and its value. -/
theorem Ranking.peakHolds (h : Ranking quotes records policy drafts peak rows) :
    ∃ m, PeakHolds drafts peak m ∧ 0 < m := by
  obtain ⟨m, hm⟩ := peakLanded_ok (fun item hitem => by
    obtain ⟨quote, -, -, hcosts⟩ := h.draft hitem
    exact hcosts.landed_finite) h.peaked
  exact ⟨m, hm, (positive_iff hm.value).mp h.positive⟩

/-- The rows are those of the vendors quoted. -/
theorem Ranking.vendors (h : Ranking quotes records policy drafts peak rows) :
    rows.map LandedCostBreakdown.vendor_id = quotes.map QuoteInputs.vendor_id := by
  have hdrafts : drafts.map (fun item => item.quote.vendor_id) =
      quotes.map QuoteInputs.vendor_id := by
    apply map_eq_of_forall₂ h.drafted
    intro quote item hdraft
    rw [(draftOf_ok.mp hdraft).1]
  have hrows : rows.map LandedCostBreakdown.vendor_id =
      drafts.map fun item => item.quote.vendor_id := by
    apply map_eq_of_forall₂ h.scored
    intro item row hrow
    exact (rowOf_ok hrow).vendor
  exact hrows.trans hdrafts

end ranking

end CBrain.Procurement

import CBrain.Company.Rfq

/-! # One RFQ among the others

    Sending the e-mails of an RFQ files quotations under ids that are made of the
    RFQ's id and the vendor's, joined by a dash.

    * An RFQ keeps the quotations of the others exactly when none of its ids is
      the id of one of them.
    * Sending again changes nothing exactly when the first time was answered, or
      nobody was written to.
    * Two ids are the same exactly when one name continues the other across the
      dash. -/

namespace CBrain.Purchasing

open Json (Dict)
open Mutation (raising write read exec Reads)

/-! ## Section 1: Ids -/

/-- The second RFQ's id continues the first one's, by what the first vendor's id
    begins with. -/
def Continues (rfq_id vendor_id rfq_id' vendor_id' : String) : Prop :=
  ∃ t, rfq_id' = rfq_id ++ "-" ++ t ∧ vendor_id = t ++ "-" ++ vendor_id'

/-- Two ids are the same for the same names, or for names that continue one
    another. -/
theorem quoteId_eq_iff {rfq_id vendor_id rfq_id' vendor_id' : String} :
    quoteId rfq_id vendor_id = quoteId rfq_id' vendor_id' ↔
      (rfq_id = rfq_id' ∧ vendor_id = vendor_id') ∨
        Continues rfq_id vendor_id rfq_id' vendor_id' ∨
          Continues rfq_id' vendor_id' rfq_id vendor_id := by
  have hchars : quoteId rfq_id vendor_id = quoteId rfq_id' vendor_id' ↔
      rfq_id.toList ++ '-' :: vendor_id.toList = rfq_id'.toList ++ '-' :: vendor_id'.toList := by
    unfold quoteId
    rw [← String.toList_inj]
    simp
  have hcontinues : ∀ r v r' v' : String, Continues r v r' v' ↔
      ∃ t, r'.toList = r.toList ++ '-' :: t ∧ v.toList = t ++ '-' :: v'.toList := by
    intro r v r' v'
    constructor
    · rintro ⟨t, rfl, rfl⟩
      exact ⟨t.toList, by simp, by simp⟩
    · rintro ⟨t, hr, hv⟩
      refine ⟨String.ofList t, ?_, ?_⟩
      · rw [← String.toList_inj]
        simp [hr]
      · rw [← String.toList_inj]
        simp [hv]
  rw [hchars, List.append_eq_append_iff, hcontinues, hcontinues]
  constructor
  · rintro (⟨t, hr, hv⟩ | ⟨t, hr, hv⟩)
    · cases t with
      | nil =>
        rw [List.append_nil] at hr
        obtain ⟨-, hv⟩ := List.cons.inj hv
        exact Or.inl ⟨(String.toList_inj.mp hr).symm, String.toList_inj.mp hv⟩
      | cons c t =>
        obtain ⟨hc, hv⟩ := List.cons.inj hv
        exact Or.inr (Or.inl ⟨t, hc ▸ hr, hv⟩)
    · cases t with
      | nil =>
        rw [List.append_nil] at hr
        obtain ⟨-, hv⟩ := List.cons.inj hv
        exact Or.inl ⟨String.toList_inj.mp hr, (String.toList_inj.mp hv).symm⟩
      | cons c t =>
        obtain ⟨hc, hv⟩ := List.cons.inj hv
        exact Or.inr (Or.inr ⟨t, hc ▸ hr, hv⟩)
  · rintro (⟨rfl, rfl⟩ | ⟨t, hr, hv⟩ | ⟨t, hr, hv⟩)
    · exact Or.inl ⟨[], by simp, rfl⟩
    · exact Or.inl ⟨'-' :: t, hr, by rw [hv]; rfl⟩
    · exact Or.inr ⟨'-' :: t, hr, by rw [hv]; rfl⟩

/-- The ids of one RFQ tell its vendors apart. -/
theorem quoteId_injective (rfq_id : String) : Function.Injective (quoteId rfq_id) := by
  intro v w h
  unfold quoteId at h
  rw [← String.toList_inj] at h ⊢
  simpa using h

/-! ## Section 2: What sending writes -/

section writes
variable {arguments : RfqArguments} {sim : ProcurementSimulator}

/-- What the vendors offer. -/
def offers (arguments : RfqArguments) (sim : ProcurementSimulator) : List Quotation :=
  arguments.vendor_ids.filterMap (offer arguments sim.quote_templates)

theorem sendTo_eq (sim : ProcurementSimulator) (vendor_id : String) :
    sendTo arguments sim vendor_id =
      { sim with
        quotations :=
          sim.quotations.putAll (offer arguments sim.quote_templates vendor_id).toList
        outbound_rfqs :=
          sim.outbound_rfqs ++ [⟨arguments.rfq_id, vendor_id, arguments.material_id⟩] } := by
  unfold sendTo
  cases offer arguments sim.quote_templates vendor_id with
  | none => rfl
  | some quote => rfl

theorem foldl_sendTo (vendor_ids : List String) (sim : ProcurementSimulator) :
    vendor_ids.foldl (sendTo arguments) sim =
      { sim with
        quotations :=
          sim.quotations.putAll
            (vendor_ids.filterMap (offer arguments sim.quote_templates))
        outbound_rfqs := sim.outbound_rfqs ++
          vendor_ids.map fun vendor_id =>
            ⟨arguments.rfq_id, vendor_id, arguments.material_id⟩ } := by
  induction vendor_ids generalizing sim with
  | nil => simp
  | cons vendor_id rest ih =>
    have hoffers : (vendor_id :: rest).filterMap (offer arguments sim.quote_templates) =
        (offer arguments sim.quote_templates vendor_id).toList ++
          rest.filterMap (offer arguments sim.quote_templates) := by
      rw [List.filterMap_cons]
      cases offer arguments sim.quote_templates vendor_id with
      | none => rfl
      | some quote => rfl
    rw [List.foldl_cons, ih, sendTo_eq, hoffers, Registry.putAll_append, List.map_cons]
    simp only [List.append_assoc, List.singleton_append]

/-- Every vendor is written to, and what they offer is filed. -/
theorem sendAll_eq (arguments : RfqArguments) (sim : ProcurementSimulator) :
    sendAll arguments sim =
      { sim with
        rfqs := sim.rfqs.set arguments.rfq_id arguments
        quotations := sim.quotations.putAll (offers arguments sim)
        outbound_rfqs := sim.outbound_rfqs ++
          arguments.vendor_ids.map fun vendor_id =>
            ⟨arguments.rfq_id, vendor_id, arguments.material_id⟩ } :=
  foldl_sendTo arguments.vendor_ids _

theorem mem_offers {quote : Quotation} :
    quote ∈ offers arguments sim ↔ ∃ vendor_id ∈ arguments.vendor_ids, ∃ template,
      sim.quote_templates.get? (vendor_id, arguments.material_id) = some template ∧
        quote = ⟨quoteId arguments.rfq_id vendor_id, arguments.rfq_id, vendor_id,
          arguments.material_id, template.1, template.2⟩ := by
  unfold offers offer
  rw [List.mem_filterMap]
  constructor
  · rintro ⟨vendor_id, hvendor, hoffer⟩
    obtain ⟨template, htemplate, rfl⟩ := Option.map_eq_some_iff.mp hoffer
    exact ⟨vendor_id, hvendor, template, htemplate, rfl⟩
  · rintro ⟨vendor_id, hvendor, template, htemplate, rfl⟩
    refine ⟨vendor_id, hvendor, ?_⟩
    rw [htemplate]
    rfl

/-- Two offers of one RFQ under one id are the same. -/
theorem eq_of_offers {quote quote' : Quotation} (h : quote ∈ offers arguments sim)
    (h' : quote' ∈ offers arguments sim) (hid : quote.quote_id = quote'.quote_id) :
    quote = quote' := by
  obtain ⟨v, -, template, htemplate, rfl⟩ := mem_offers.mp h
  obtain ⟨v', -, template', htemplate', rfl⟩ := mem_offers.mp h'
  obtain rfl := quoteId_injective arguments.rfq_id hid
  rw [htemplate] at htemplate'
  rw [Option.some.inj htemplate']

/-- A quotation after sending is an offer, or one of before under another id. -/
theorem get?_sendAll {id : String} {quote : Quotation} :
    (sendAll arguments sim).quotations.get? id = some quote ↔
      (quote ∈ offers arguments sim ∧ quote.quote_id = id) ∨
        ((∀ other ∈ offers arguments sim, other.quote_id ≠ id) ∧
          sim.quotations.get? id = some quote) := by
  rw [sendAll_eq]
  constructor
  · exact Registry.get?_putAll_cases
  · rintro (⟨hoffer, rfl⟩ | ⟨hnone, hold⟩)
    · obtain ⟨other, hother, hid, hget⟩ := Registry.get?_putAll_of_mem sim.quotations hoffer
      rw [hget, eq_of_offers hother hoffer hid]
    · rw [Registry.get?_putAll_of_not_mem hnone]
      exact hold

end writes

/-! ## Section 3: What an RFQ may do to the others -/

/-- The records of the other RFQs, and their quotations, are left alone. -/
structure KeepsOthers (rfq_id : String) (before after : ProcurementSimulator) : Prop where
  /-- Only quotations of the RFQ are added. -/
  added : ∀ id quote, after.quotations.get? id = some quote →
    quote.rfq_id = rfq_id ∨ before.quotations.get? id = some quote
  /-- The quotations of every other RFQ are unchanged. -/
  quotations : ∀ id quote, before.quotations.get? id = some quote → quote.rfq_id ≠ rfq_id →
    after.quotations.get? id = some quote
  /-- The messages of every other RFQ are unchanged. -/
  messages : (after.outbound_rfqs.filter fun message => message.rfq_id ≠ rfq_id) =
    before.outbound_rfqs.filter fun message => message.rfq_id ≠ rfq_id
  /-- So is what is recorded of it. -/
  records : ∀ other, other ≠ rfq_id →
    after.rfqs.get? other = before.rfqs.get? other ∧
      after.rfq_fingerprints.get? other = before.rfq_fingerprints.get? other ∧
        after.rfq_outcomes.get? other = before.rfq_outcomes.get? other

/-- The records after sending. -/
def afterSend (arguments : RfqArguments) (sim : ProcurementSimulator) : ProcurementSimulator :=
  (exec (sendRfqEmail arguments) sim).2

/-- The e-mails are really sent: nothing is refused or replayed. -/
def Sends (arguments : RfqArguments) (sim : ProcurementSimulator) : Prop :=
  ¬ RfqIdempotencyConflict arguments sim ∧ sim.rfq_outcomes.get? arguments.rfq_id = none

/-- No id of the RFQ is the id of another one's quotation. -/
def FreeIds (arguments : RfqArguments) (sim : ProcurementSimulator) : Prop :=
  ∀ vendor_id ∈ arguments.vendor_ids,
    (sim.quote_templates.get? (vendor_id, arguments.material_id)).isSome →
      ∀ quote, sim.quotations.get? (quoteId arguments.rfq_id vendor_id) = some quote →
        quote.rfq_id = arguments.rfq_id

/-- Every amount on the board of the RFQ will be good, and no other fingerprint
    is on record. -/
structure Answerable (arguments : RfqArguments) (sim : ProcurementSimulator) : Prop where
  templates : ∀ vendor_id ∈ arguments.vendor_ids, ∀ template,
    sim.quote_templates.get? (vendor_id, arguments.material_id) = some template →
      GoodAmount template.1
  quotations : ∀ id quote, sim.quotations.get? id = some quote → quote.rfq_id = arguments.rfq_id →
    (∃ vendor_id ∈ arguments.vendor_ids, id = quoteId arguments.rfq_id vendor_id ∧
      (sim.quote_templates.get? (vendor_id, arguments.material_id)).isSome) ∨
        GoodAmount quote.amount_minor
  fingerprint : ∀ existing, sim.rfq_fingerprints.get? arguments.rfq_id = some existing →
    existing = canonicalRfqDigest arguments

section sends
variable {arguments : RfqArguments} {sim : ProcurementSimulator}

/-- The board can be ranked after sending exactly when all its amounts are
    good. -/
theorem rankedOf_sendAll_iff :
    (∃ ranked, rankedOf arguments.rfq_id (sendAll arguments sim) = .ok ranked) ↔
      (∀ vendor_id ∈ arguments.vendor_ids, ∀ template,
        sim.quote_templates.get? (vendor_id, arguments.material_id) = some template →
          GoodAmount template.1) ∧
      ∀ id quote, sim.quotations.get? id = some quote → quote.rfq_id = arguments.rfq_id →
        (∃ vendor_id ∈ arguments.vendor_ids, id = quoteId arguments.rfq_id vendor_id ∧
          (sim.quote_templates.get? (vendor_id, arguments.material_id)).isSome) ∨
            GoodAmount quote.amount_minor := by
  rw [rankedOf_ok_iff]
  constructor
  · intro h
    constructor
    · intro vendor_id hvendor template htemplate
      have hoffer := mem_offers.mpr ⟨vendor_id, hvendor, template, htemplate, rfl⟩
      have hget := get?_sendAll.mpr (Or.inl ⟨hoffer, rfl⟩)
      have hgood := h _ _ hget rfl
      exact hgood
    · intro id quote hget hrfq
      by_cases hoffered : ∃ other ∈ offers arguments sim, other.quote_id = id
      · obtain ⟨other, hother, rfl⟩ := hoffered
        obtain ⟨vendor_id, hvendor, template, htemplate, rfl⟩ := mem_offers.mp hother
        exact Or.inl ⟨vendor_id, hvendor, rfl, Option.isSome_of_eq_some htemplate⟩
      · right
        refine h id quote (get?_sendAll.mpr (Or.inr ⟨?_, hget⟩)) hrfq
        intro other hother hid
        exact hoffered ⟨other, hother, hid⟩
  · rintro ⟨htemplates, hquotations⟩ id quote hget hrfq
    rcases get?_sendAll.mp hget with ⟨hoffer, -⟩ | ⟨hnone, hold⟩
    · obtain ⟨vendor_id, hvendor, template, htemplate, rfl⟩ := mem_offers.mp hoffer
      exact htemplates vendor_id hvendor template htemplate
    · rcases hquotations id quote hold hrfq with ⟨vendor_id, hvendor, rfl, hsome⟩ | hgood
      · obtain ⟨template, htemplate⟩ := Option.isSome_iff_exists.mp hsome
        exact absurd rfl (hnone _ (mem_offers.mpr ⟨vendor_id, hvendor, template, htemplate, rfl⟩))
      · exact hgood

theorem exec_recordRfqOutcome (outcome : Dict) (state : ProcurementSimulator) :
    (exec (recordRfqOutcome arguments outcome) state).2 =
      if ∀ existing, state.rfq_fingerprints.get? arguments.rfq_id = some existing →
          existing = canonicalRfqDigest arguments then
        withOutcome arguments outcome state
      else state := by
  unfold recordRfqOutcome
  rw [Mutation.exec_read_bind]
  generalize canonicalRfqDigest arguments = digest
  have hallowed : (state.rfq_fingerprints.get? arguments.rfq_id = none ∨
      state.rfq_fingerprints.get? arguments.rfq_id = some digest) ↔
      ∀ existing, state.rfq_fingerprints.get? arguments.rfq_id = some existing →
        existing = digest := by
    cases state.rfq_fingerprints.get? arguments.rfq_id with
    | none => simp
    | some existing => simp
  by_cases h : ∀ existing, state.rfq_fingerprints.get? arguments.rfq_id = some existing →
      existing = digest
  · rw [if_pos h, (require_ok (u := ())).mpr (hallowed.mpr h), Mutation.exec_ok_bind]
    rfl
  · rw [if_neg h, require_error.mpr ⟨fun hor => h (hallowed.mp hor), rfl⟩,
      Mutation.exec_error_bind]

theorem not_answerable {e : Exn}
    (h : rankedOf arguments.rfq_id (sendAll arguments sim) = .error e) :
    ¬ Answerable arguments sim := by
  intro hanswerable
  obtain ⟨ranked, hranked⟩ :=
    rankedOf_sendAll_iff.mpr ⟨hanswerable.templates, hanswerable.quotations⟩
  rw [h] at hranked
  cases hranked

/-- **Step**: what sending leaves behind. -/
theorem afterSend_cases (arguments : RfqArguments) (sim : ProcurementSimulator) :
    (¬ Sends arguments sim ∧ afterSend arguments sim = sim) ∨
      (Sends arguments sim ∧ ¬ Answerable arguments sim ∧
        afterSend arguments sim = sendAll arguments sim) ∨
      (Sends arguments sim ∧ Answerable arguments sim ∧ ∃ outcome,
        afterSend arguments sim = withOutcome arguments outcome (sendAll arguments sim)) := by
  unfold afterSend sendRfqEmail
  rw [Mutation.exec_read_bind]
  by_cases hconflict : RfqIdempotencyConflict arguments sim
  · rw [decide_eq_true hconflict, require_error.mpr ⟨by decide, rfl⟩, Mutation.exec_error_bind]
    exact Or.inl ⟨fun h => h.1 hconflict, rfl⟩
  rw [decide_eq_false hconflict, (require_ok (u := ())).mpr rfl, Mutation.exec_ok_bind,
    Mutation.exec_read_bind]
  cases houtcome : sim.rfq_outcomes.get? arguments.rfq_id with
  | some outcome =>
    left
    refine ⟨fun h => ?_, rfl⟩
    rw [h.2] at houtcome
    cases houtcome
  | none =>
    right
    have hsends : Sends arguments sim := ⟨hconflict, houtcome⟩
    dsimp only
    rw [Mutation.exec_write_bind, Mutation.exec_read_bind]
    cases hranked : rankedOf arguments.rfq_id (sendAll arguments sim) with
    | error e =>
      rw [Mutation.exec_error_bind]
      exact Or.inl ⟨hsends, not_answerable hranked, rfl⟩
    | ok ranked =>
      rw [Mutation.exec_ok_bind, Mutation.exec_bind_pure, exec_recordRfqOutcome]
      have hboard := rankedOf_sendAll_iff.mp ⟨ranked, hranked⟩
      have hfingerprints : (sendAll arguments sim).rfq_fingerprints = sim.rfq_fingerprints := by
        rw [sendAll_eq]
      rw [hfingerprints]
      by_cases h : ∀ existing, sim.rfq_fingerprints.get? arguments.rfq_id = some existing →
          existing = canonicalRfqDigest arguments
      · rw [if_pos h]
        exact Or.inr ⟨hsends, ⟨hboard.1, hboard.2, h⟩, _, rfl⟩
      · rw [if_neg h]
        exact Or.inl ⟨hsends, fun hanswerable => h hanswerable.fingerprint, rfl⟩

/-- What is sent keeps the other RFQs exactly when the ids are free. -/
theorem keepsOthers_sendAll_iff {after : ProcurementSimulator}
    (hquotations : after.quotations = (sendAll arguments sim).quotations)
    (hmessages : after.outbound_rfqs = (sendAll arguments sim).outbound_rfqs)
    (hrecords : ∀ other, other ≠ arguments.rfq_id →
      after.rfqs.get? other = sim.rfqs.get? other ∧
        after.rfq_fingerprints.get? other = sim.rfq_fingerprints.get? other ∧
          after.rfq_outcomes.get? other = sim.rfq_outcomes.get? other) :
    KeepsOthers arguments.rfq_id sim after ↔ FreeIds arguments sim := by
  constructor
  · intro h vendor_id hvendor hsome quote hget
    by_contra hother
    obtain ⟨template, htemplate⟩ := Option.isSome_iff_exists.mp hsome
    have hoffer := mem_offers.mpr ⟨vendor_id, hvendor, template, htemplate, rfl⟩
    have hkept := h.quotations _ quote hget hother
    rw [hquotations, get?_sendAll.mpr (Or.inl ⟨hoffer, rfl⟩)] at hkept
    exact hother (Option.some.inj hkept ▸ rfl)
  · intro hfree
    refine ⟨?_, ?_, ?_, hrecords⟩
    · intro id quote hget
      rw [hquotations] at hget
      rcases get?_sendAll.mp hget with ⟨hoffer, -⟩ | ⟨-, hold⟩
      · obtain ⟨vendor_id, -, template, -, rfl⟩ := mem_offers.mp hoffer
        exact Or.inl rfl
      · exact Or.inr hold
    · intro id quote hget hother
      rw [hquotations]
      refine get?_sendAll.mpr (Or.inr ⟨?_, hget⟩)
      rintro offered hoffer rfl
      obtain ⟨vendor_id, hvendor, template, htemplate, rfl⟩ := mem_offers.mp hoffer
      exact hother (hfree vendor_id hvendor (Option.isSome_of_eq_some htemplate) quote hget)
    · rw [hmessages, sendAll_eq]
      simp

/-- Sending again appends the same messages once more. -/
theorem length_sendAll :
    (sendAll arguments sim).outbound_rfqs.length =
      sim.outbound_rfqs.length + arguments.vendor_ids.length := by
  rw [sendAll_eq]
  simp

end sends

/-! ## Section 4: The law -/

/-- What the law says of sending an RFQ, and of two pairs of names. -/
structure SendsApart (arguments : RfqArguments) (sim : ProcurementSimulator)
    (pair pair' : String × String) : Prop where
  others : KeepsOthers arguments.rfq_id sim (afterSend arguments sim)
  replay : afterSend arguments (afterSend arguments sim) = afterSend arguments sim
  ids : pair ≠ pair' → quoteId pair.1 pair.2 ≠ quoteId pair'.1 pair'.2

section law
variable {arguments : RfqArguments} {sim : ProcurementSimulator}

theorem KeepsOthers.refl (rfq_id : String) (sim : ProcurementSimulator) :
    KeepsOthers rfq_id sim sim where
  added _ _ hget := Or.inr hget
  quotations _ _ hget _ := hget
  messages := rfl
  records _ _ := ⟨rfl, rfl, rfl⟩

theorem records_sendAll {other : String} (hother : other ≠ arguments.rfq_id) :
    (sendAll arguments sim).rfqs.get? other = sim.rfqs.get? other ∧
      (sendAll arguments sim).rfq_fingerprints = sim.rfq_fingerprints ∧
        (sendAll arguments sim).rfq_outcomes = sim.rfq_outcomes := by
  rw [sendAll_eq]
  exact ⟨Table.get?_set_ne _ _ hother, rfl, rfl⟩

theorem keepsOthers_iff :
    KeepsOthers arguments.rfq_id sim (afterSend arguments sim) ↔
      (Sends arguments sim → FreeIds arguments sim) := by
  rcases afterSend_cases arguments sim with ⟨hquiet, hafter⟩ | ⟨hsends, -, hafter⟩ |
    ⟨hsends, -, outcome, hafter⟩
  · rw [hafter]
    exact ⟨fun _ hsends => absurd hsends hquiet, fun _ => .refl _ _⟩
  · rw [hafter, keepsOthers_sendAll_iff rfl rfl]
    · exact ⟨fun hfree _ => hfree, fun h => h hsends⟩
    · intro other hother
      obtain ⟨hrfqs, hfingerprints, houtcomes⟩ := records_sendAll hother
      rw [hfingerprints, houtcomes]
      exact ⟨hrfqs, rfl, rfl⟩
  · rw [hafter]
    have hrecords : ∀ other, other ≠ arguments.rfq_id →
        (withOutcome arguments outcome (sendAll arguments sim)).rfqs.get? other =
          sim.rfqs.get? other ∧
        (withOutcome arguments outcome (sendAll arguments sim)).rfq_fingerprints.get? other =
          sim.rfq_fingerprints.get? other ∧
        (withOutcome arguments outcome (sendAll arguments sim)).rfq_outcomes.get? other =
          sim.rfq_outcomes.get? other := by
      intro other hother
      obtain ⟨hrfqs, hfingerprints, houtcomes⟩ := records_sendAll hother
      refine ⟨hrfqs, ?_, ?_⟩
      · rw [withOutcome, Table.get?_set_ne _ _ hother, hfingerprints]
      · rw [withOutcome, Table.get?_set_ne _ _ hother, houtcomes]
    have hfree : KeepsOthers arguments.rfq_id sim
        (withOutcome arguments outcome (sendAll arguments sim)) ↔ FreeIds arguments sim :=
      keepsOthers_sendAll_iff rfl rfl hrecords
    rw [hfree]
    exact ⟨fun hfree _ => hfree, fun h => h hsends⟩

/-- What was answered is replayed. -/
theorem afterSend_of_recorded {outcome : Dict}
    (houtcome : sim.rfq_outcomes.get? arguments.rfq_id = some outcome) :
    afterSend arguments sim = sim := by
  rcases afterSend_cases arguments sim with ⟨-, hafter⟩ | ⟨hsends, -⟩ | ⟨hsends, -⟩
  · exact hafter
  · rw [hsends.2] at houtcome
    cases houtcome
  · rw [hsends.2] at houtcome
    cases houtcome

theorem sends_sendAll_iff : Sends arguments (sendAll arguments sim) ↔ Sends arguments sim := by
  rw [sendAll_eq]
  exact Iff.rfl

/-- A pair of names does not continue itself. -/
theorem ne_of_continues {pair pair' : String × String}
    (h : Continues pair.1 pair.2 pair'.1 pair'.2) : pair ≠ pair' := by
  rintro rfl
  obtain ⟨t, hr, -⟩ := h
  have hlength := congrArg (fun s => s.toList.length) hr
  simp at hlength

/-- Nothing is sent again to nobody. -/
theorem sendAll_again (hnobody : arguments.vendor_ids = []) :
    sendAll arguments (sendAll arguments sim) = sendAll arguments sim := by
  have hoffers : ∀ sim, offers arguments sim = [] := by
    intro sim
    unfold offers
    rw [hnobody]
    rfl
  rw [sendAll_eq arguments (sendAll arguments sim), hoffers, hnobody, sendAll_eq, hoffers, hnobody]
  simp

theorem not_answerable_sendAll (hnobody : arguments.vendor_ids = [])
    (h : ¬ Answerable arguments sim) : ¬ Answerable arguments (sendAll arguments sim) := by
  have hsame : (sendAll arguments sim).quotations = sim.quotations := by
    rw [sendAll_eq]
    unfold offers
    rw [hnobody]
    rfl
  intro hanswerable
  apply h
  refine ⟨?_, ?_, ?_⟩
  · intro vendor_id hvendor
    rw [hnobody] at hvendor
    cases hvendor
  · intro id quote hget hrfq
    right
    rcases hanswerable.quotations id quote (by rw [hsame]; exact hget) hrfq with
      ⟨vendor_id, hvendor, -⟩ | hgood
    · rw [hnobody] at hvendor
      cases hvendor
    · exact hgood
  · intro existing hget
    apply hanswerable.fingerprint existing
    rw [sendAll_eq]
    exact hget

theorem replay_iff :
    afterSend arguments (afterSend arguments sim) = afterSend arguments sim ↔
      (Sends arguments sim → arguments.vendor_ids = [] ∨ Answerable arguments sim) := by
  rcases afterSend_cases arguments sim with ⟨hquiet, hafter⟩ | ⟨hsends, hunanswerable, hafter⟩ |
    ⟨hsends, hanswerable, outcome, hafter⟩
  · rw [hafter, hafter]
    exact ⟨fun _ hsends => absurd hsends hquiet, fun _ => rfl⟩
  · rw [hafter]
    have hagain := sends_sendAll_iff.mpr hsends
    constructor
    · intro hsame _
      left
      -- the messages of the second time are there as well
      have hmessages : (sendAll arguments (sendAll arguments sim)).outbound_rfqs =
          (sendAll arguments sim).outbound_rfqs := by
        rcases afterSend_cases arguments (sendAll arguments sim) with ⟨hquiet, -⟩ | ⟨-, -, hsecond⟩ |
          ⟨-, -, _, hsecond⟩
        · exact absurd hagain hquiet
        · rw [← hsecond, hsame]
        · rw [hsame] at hsecond
          exact (congrArg ProcurementSimulator.outbound_rfqs hsecond).symm
      have hlength := congrArg List.length hmessages
      rw [length_sendAll] at hlength
      exact List.length_eq_zero_iff.mp (by omega)
    · intro h
      have hnobody := (h hsends).resolve_right hunanswerable
      rcases afterSend_cases arguments (sendAll arguments sim) with ⟨hquiet, -⟩ | ⟨-, -, hsecond⟩ |
        ⟨-, hanswerable, -⟩
      · exact absurd hagain hquiet
      · rw [hsecond, sendAll_again hnobody]
      · exact absurd hanswerable (not_answerable_sendAll hnobody hunanswerable)
  · have hrecorded : (afterSend arguments sim).rfq_outcomes.get? arguments.rfq_id = some outcome := by
      rw [hafter]
      exact Table.get?_set_self _ _ _
    exact ⟨fun _ _ => Or.inr hanswerable, fun _ => afterSend_of_recorded hrecorded⟩

/-- **RFQs**: sending an RFQ keeps the others, is replayed without a change and
    gives different ids to different pairs exactly when, if it is sent at all, its
    ids are free and it can be answered or addresses nobody, and neither pair
    continues the other. -/
theorem sends_apart_iff (arguments : RfqArguments) (sim : ProcurementSimulator)
    (pair pair' : String × String) :
    SendsApart arguments sim pair pair' ↔
      (Sends arguments sim → FreeIds arguments sim ∧
        (arguments.vendor_ids = [] ∨ Answerable arguments sim)) ∧
      ¬ Continues pair.1 pair.2 pair'.1 pair'.2 ∧ ¬ Continues pair'.1 pair'.2 pair.1 pair.2 := by
  constructor
  · rintro ⟨hothers, hreplay, hids⟩
    refine ⟨fun hsends => ⟨keepsOthers_iff.mp hothers hsends, replay_iff.mp hreplay hsends⟩, ?_, ?_⟩
    · intro hcontinues
      exact hids (ne_of_continues hcontinues) (quoteId_eq_iff.mpr (Or.inr (Or.inl hcontinues)))
    · intro hcontinues
      exact hids (ne_of_continues hcontinues).symm
        (quoteId_eq_iff.mpr (Or.inr (Or.inr hcontinues)))
  · rintro ⟨hsending, hforth, hback⟩
    refine ⟨keepsOthers_iff.mpr fun hsends => (hsending hsends).1,
      replay_iff.mpr fun hsends => (hsending hsends).2, ?_⟩
    intro hne hid
    rcases quoteId_eq_iff.mp hid with ⟨hrfq, hvendor⟩ | hcontinues | hcontinues
    · exact hne (Prod.ext hrfq hvendor)
    · exact hforth hcontinues
    · exact hback hcontinues

end law

/-! ## Two RFQs whose names run together -/

/-- The vendors `c` and `b-c` offer the material. -/
def dashedVendors : ProcurementSimulator where
  vendors := Registry.empty
  quotations := Registry.empty
  rfqs := Table.empty
  requisitions := Table.empty
  purchase_orders := Table.empty
  outbound_rfqs := []
  quote_templates :=
    (Table.empty.set ("c", "m") ("100", "USD")).set ("b-c", "m") ("200", "USD")
  rfq_fingerprints := Table.empty
  rfq_outcomes := Table.empty

/-- The RFQ `a-b` to the vendor `c`. -/
def firstRfq : RfqArguments := ⟨"a-b", "m", ["c"]⟩

/-- The RFQ `a` to the vendor `b-c`. -/
def secondRfq : RfqArguments := ⟨"a", "m", ["b-c"]⟩

/-- The quotation of the first RFQ. -/
def firstQuotation : Quotation := ⟨"quote-a-b-c", "a-b", "c", "m", "100", "USD"⟩

theorem sent_first :
    (afterSend firstRfq dashedVendors).quotations.get? "quote-a-b-c" = some firstQuotation ∧
      (afterSend firstRfq dashedVendors).quote_templates = dashedVendors.quote_templates ∧
        (afterSend firstRfq dashedVendors).rfq_fingerprints.get? "a" = none ∧
          (afterSend firstRfq dashedVendors).rfq_outcomes.get? "a" = none := by
  -- an outcome is recorded beside the quotations and leaves them alone
  have hfiled : (sendAll firstRfq dashedVendors).quotations.get? "quote-a-b-c" =
      some firstQuotation := by decide
  rcases afterSend_cases firstRfq dashedVendors with ⟨hquiet, -⟩ | ⟨-, -, hafter⟩ |
    ⟨-, -, outcome, hafter⟩
  · refine absurd ⟨?_, rfl⟩ hquiet
    rintro ⟨-, existing, hget, -⟩
    cases hget
  · rw [hafter]
    exact ⟨hfiled, rfl, rfl, rfl⟩
  · rw [hafter]
    refine ⟨hfiled, rfl, ?_, ?_⟩
    · exact Table.get?_set_ne _ _ (by decide)
    · exact Table.get?_set_ne _ _ (by decide)

/-- The quotation of the second RFQ replaces the one of the first. -/
theorem quotation_replaced :
    ¬ ∀ (arguments : RfqArguments) (sim : ProcurementSimulator) (pair pair' : String × String),
      SendsApart arguments sim pair pair' := by
  intro h
  obtain ⟨hfirst, htemplates, hfingerprint, houtcome⟩ := sent_first
  have hothers := (h secondRfq (afterSend firstRfq dashedVendors) ("a-b", "c") ("a", "b-c")).others
  have hsends : Sends secondRfq (afterSend firstRfq dashedVendors) := by
    refine ⟨?_, houtcome⟩
    rintro ⟨-, existing, hget, -⟩
    have hnone : (none : Option String) = some existing := hfingerprint.symm.trans hget
    cases hnone
  have hfree := keepsOthers_iff.mp hothers hsends "b-c" (by decide)
    (by rw [htemplates]; decide) firstQuotation hfirst
  revert hfree
  decide

end CBrain.Purchasing

import CBrain.Procurement.BoundProofs

/-! # From an award to its purchase order

    An award that validation accepts is recorded with the text of its quotation.
    Other calls may follow before its purchase order is released.

    * `OnFile`            : the quotation and a requisition of it are on file.
    * `onFile_afterCalls` : calls that spare the quotation keep it on file.
    * `award_released_iff` : the release is accepted and completes, and both
      actions are proved, exactly when the amounts are written alike. -/

namespace CBrain.Purchasing

open Json (Dict)
open Mutation (raising write read exec Reads)
open LegalHandlers (argumentText)
open Simulators (memberOf)
open Paired (map_eq_of_forall₂)

/-! ## Section 1: Calls -/

/-- A call of a handler that writes the records. -/
inductive ProcurementCall where
  | sendRfqEmail (arguments : RfqArguments)
  | createPurchaseRequisition (arguments : RequisitionArguments)
  | awardQuote (arguments : Dict)
  | releasePurchaseOrder (arguments : Dict)

namespace ProcurementCall

/-- What the call runs. -/
def run : ProcurementCall → Mutation Exn ProcurementSimulator Dict
  | sendRfqEmail arguments => Purchasing.sendRfqEmail arguments
  | createPurchaseRequisition arguments => Purchasing.createPurchaseRequisition arguments
  | awardQuote arguments => Purchasing.awardQuote arguments
  | releasePurchaseOrder arguments => Purchasing.releasePurchaseOrder arguments

/-- The records after the call. -/
def after (call : ProcurementCall) (sim : ProcurementSimulator) : ProcurementSimulator :=
  (exec call.run sim).2

/-- An RFQ that is sent offers nothing else under the quotation's id, and no bad
    amount on its board. -/
def Spares (quote : Quotation) (sim : ProcurementSimulator) : ProcurementCall → Prop
  | sendRfqEmail arguments => Sends arguments sim → ∀ other ∈ offers arguments sim,
      (other.quote_id = quote.quote_id → other = quote) ∧
        (other.rfq_id = quote.rfq_id → GoodAmount other.amount_minor)
  | _ => True

end ProcurementCall

/-- The records after some calls. -/
def afterCalls (calls : List ProcurementCall) (sim : ProcurementSimulator) :
    ProcurementSimulator :=
  calls.foldl (fun sim call => call.after sim) sim

/-- Every call spares the quotation. -/
def Undisturbed (quote : Quotation) : List ProcurementCall → ProcurementSimulator → Prop
  | [], _ => True
  | call :: calls, sim => call.Spares quote sim ∧ Undisturbed quote calls (call.after sim)

/-! ## Section 2: What is on file -/

/-- A requisition of the quotation. -/
structure Names (requisition : Dict) (quote : Quotation) : Prop where
  rfq_id : requisition.get "rfq_id" = .str quote.rfq_id
  quote_id : requisition.get "quote_id" = .str quote.quote_id
  vendor_id : requisition.get "vendor_id" = .str quote.vendor_id
  amount_minor : requisition.get "amount_minor" = .str quote.amount_minor
  currency : requisition.get "currency" = .str quote.currency

/-- The quotation is filed, its board can be ranked and there is a requisition
    of it. -/
structure OnFile (quote : Quotation) (sim : ProcurementSimulator) : Prop where
  quotation : sim.quotations.get? quote.quote_id = some quote
  amounts : ∀ id other, sim.quotations.get? id = some other → other.rfq_id = quote.rfq_id →
    GoodAmount other.amount_minor
  requisition : ∃ requisition,
    sim.requisitions.get? (prId quote.quote_id) = some requisition ∧ Names requisition quote

/-- The ids on the quotation's board are not blank. -/
def BoardNamed (quote : Quotation) (sim : ProcurementSimulator) : Prop :=
  ∀ id other, sim.quotations.get? id = some other → other.rfq_id = quote.rfq_id →
    nonBlank other.quote_id = true

/-- A handler has written nothing, or a requisition of a filed quotation. -/
def Files (sim after : ProcurementSimulator) : Prop :=
  after = sim ∨ ∃ quote record, sim.quotations.get? quote.quote_id = some quote ∧
    Names record quote ∧
    after = { sim with requisitions := sim.requisitions.set (prId quote.quote_id) record }

section calls
variable {quote : Quotation} {sim : ProcurementSimulator}

theorem prId_injective : Function.Injective prId := by
  intro id id' h
  unfold prId at h
  rw [← String.toList_inj] at h ⊢
  simpa using h

theorem exec_ranking (rfq_id : String) (sim : ProcurementSimulator) :
    exec (ranking rfq_id) sim = (rankedOf rfq_id sim, sim) := rfl

theorem exec_requiredQuotation {quote_id : String}
    (h : sim.quotations.get? quote_id = some quote) :
    exec (requiredQuotation quote_id) sim = (.ok quote, sim) := by
  unfold requiredQuotation
  rw [Mutation.exec_read_bind, h]
  rfl

/-- What the two handlers that file a requisition do. -/
theorem files_requisition (record answer : Quotation → List Quotation → Dict)
    (hrecord : ∀ quote ranked, Names (record quote ranked) quote) (quote_id : String)
    (sim : ProcurementSimulator) :
    Files sim (exec (do
      let quote ← requiredQuotation quote_id
      let ranked ← ranking quote.rfq_id
      write fun sim =>
        { sim with
          requisitions := sim.requisitions.set (prId quote.quote_id) (record quote ranked) }
      return answer quote ranked : Mutation Exn ProcurementSimulator Dict) sim).2 := by
  cases hquote : sim.quotations.get? quote_id with
  | none =>
    left
    have hmissing : exec (requiredQuotation quote_id) sim =
        (.error (Exn.parts .keyError [.repr (.str quote_id)]), sim) := by
      unfold requiredQuotation
      rw [Mutation.exec_read_bind, hquote]
      rfl
    rw [Mutation.exec_bind_error hmissing]
  | some quote =>
    rw [Mutation.exec_bind_ok (exec_requiredQuotation hquote)]
    cases hranked : rankedOf quote.rfq_id sim with
    | error e =>
      left
      have hboard : exec (ranking quote.rfq_id) sim = (.error e, sim) := by
        rw [exec_ranking, hranked]
      rw [Mutation.exec_bind_error hboard]
    | ok ranked =>
      right
      have hboard : exec (ranking quote.rfq_id) sim = (.ok ranked, sim) := by
        rw [exec_ranking, hranked]
      rw [Mutation.exec_bind_ok hboard]
      have hid : sim.quotations.get? quote.quote_id = some quote := by
        rw [Registry.key_of_get? hquote]
        exact hquote
      exact ⟨quote, record quote ranked, hid, hrecord quote ranked, rfl⟩

theorem names_quotationMembers (members : List (String × Value)) (quote : Quotation)
    (ranked : List Quotation) :
    Names (object (members ++ quotationMembers quote ranked)) quote := by
  constructor
  all_goals
    rw [object_get, List.map_append, List.reverse_append]
    rfl

theorem names_awardRecord (quote : Quotation) (ranked : List Quotation) :
    Names (awardRecord quote ranked) quote := by
  unfold awardRecord
  constructor
  all_goals
    rw [object_get]
    rfl

theorem files_createPurchaseRequisition (arguments : RequisitionArguments)
    (sim : ProcurementSimulator) :
    Files sim (exec (createPurchaseRequisition arguments) sim).2 :=
  files_requisition (requisitionPayload arguments.quantity) (requisitionPayload arguments.quantity)
    (fun _ _ => names_quotationMembers _ _ _) arguments.quote_id sim

theorem files_awardQuote (arguments : Dict) (sim : ProcurementSimulator) :
    Files sim (exec (awardQuote arguments) sim).2 := by
  unfold awardQuote
  cases htext : argumentText arguments "quote_id" with
  | error e => exact Or.inl rfl
  | ok quote_id =>
    rw [Mutation.exec_ok_bind]
    exact files_requisition awardRecord awardPayload names_awardRecord quote_id sim

/-- A release writes only the purchase orders. -/
theorem exec_releasePurchaseOrder (arguments : Dict) (sim : ProcurementSimulator) :
    ∃ purchase_orders, (exec (releasePurchaseOrder arguments) sim).2 =
      { sim with purchase_orders } := by
  unfold releasePurchaseOrder
  cases htext : argumentText arguments "pr_id" with
  | error e => exact ⟨sim.purchase_orders, rfl⟩
  | ok pr_id =>
    rw [Mutation.exec_ok_bind]
    have hreads : Reads (requiredRequisition pr_id) := by
      apply (Mutation.reads_read _).bind
      intro requisition
      cases requisition with
      | none => exact Mutation.reads_raising _
      | some requisition => exact Mutation.reads_pure _
    rw [hreads.exec_bind]
    cases hrequisition : (exec (requiredRequisition pr_id) sim).1 with
    | error e => exact ⟨sim.purchase_orders, rfl⟩
    | ok requisition =>
      dsimp only
      cases hrfq : argumentText requisition "rfq_id" with
      | error e => exact ⟨sim.purchase_orders, rfl⟩
      | ok rfq_id =>
        rw [Mutation.exec_ok_bind, Mutation.exec_bind, exec_ranking]
        cases rankedOf rfq_id sim with
        | error e => exact ⟨sim.purchase_orders, rfl⟩
        | ok ranked =>
          dsimp only
          cases releasePayload pr_id rfq_id requisition ranked with
          | error e => exact ⟨sim.purchase_orders, rfl⟩
          | ok payload => exact ⟨sim.purchase_orders.set (poId pr_id) payload, rfl⟩

/-! ## Section 3: What calls keep -/

/-- What files a requisition keeps the quotation on file. -/
theorem onFile_of_files {after : ProcurementSimulator} (h : OnFile quote sim)
    (hfiles : Files sim after) : OnFile quote after := by
  rcases hfiles with rfl | ⟨other, record, hother, hnames, rfl⟩
  · exact h
  · refine ⟨h.quotation, h.amounts, ?_⟩
    obtain ⟨requisition, hrequisition, hrecorded⟩ := h.requisition
    show ∃ requisition, (sim.requisitions.set (prId other.quote_id) record).get?
      (prId quote.quote_id) = some requisition ∧ Names requisition quote
    rw [Table.get?_set]
    by_cases hid : prId quote.quote_id = prId other.quote_id
    · -- the same id is the same quotation
      have hsame : other = quote := by
        have hget := h.quotation
        rw [prId_injective hid] at hget
        exact Option.some.inj (hother.symm.trans hget)
      subst hsame
      exact ⟨record, if_pos rfl, hnames⟩
    · exact ⟨requisition, by rw [if_neg hid]; exact hrequisition, hrecorded⟩

theorem onFile_sendAll {arguments : RfqArguments} (h : OnFile quote sim)
    (hoffers : ∀ other ∈ offers arguments sim, (other.quote_id = quote.quote_id → other = quote) ∧
      (other.rfq_id = quote.rfq_id → GoodAmount other.amount_minor)) :
    OnFile quote (sendAll arguments sim) := by
  refine ⟨?_, ?_, ?_⟩
  · by_cases hoffered : ∃ other ∈ offers arguments sim, other.quote_id = quote.quote_id
    · obtain ⟨other, hother, hid⟩ := hoffered
      obtain rfl := (hoffers other hother).1 hid
      exact get?_sendAll.mpr (Or.inl ⟨hother, rfl⟩)
    · refine get?_sendAll.mpr (Or.inr ⟨?_, h.quotation⟩)
      intro other hother hid
      exact hoffered ⟨other, hother, hid⟩
  · intro id other hget hrfq
    rcases get?_sendAll.mp hget with ⟨hother, -⟩ | ⟨-, hold⟩
    · exact (hoffers other hother).2 hrfq
    · exact h.amounts id other hold hrfq
  · rw [sendAll_eq]
    exact h.requisition

/-- **Step**: a call that spares the quotation keeps it on file. -/
theorem onFile_after {call : ProcurementCall} (h : OnFile quote sim)
    (hspares : call.Spares quote sim) : OnFile quote (call.after sim) := by
  cases call with
  | sendRfqEmail arguments =>
    show OnFile quote (afterSend arguments sim)
    rcases afterSend_cases arguments sim with ⟨-, hafter⟩ | ⟨hsends, -, hafter⟩ |
      ⟨hsends, -, outcome, hafter⟩
    · rw [hafter]
      exact h
    · rw [hafter]
      exact onFile_sendAll h (hspares hsends)
    · rw [hafter]
      have hsent := onFile_sendAll h (hspares hsends)
      exact ⟨hsent.quotation, hsent.amounts, hsent.requisition⟩
  | createPurchaseRequisition arguments =>
    exact onFile_of_files h (files_createPurchaseRequisition arguments sim)
  | awardQuote arguments => exact onFile_of_files h (files_awardQuote arguments sim)
  | releasePurchaseOrder arguments =>
    obtain ⟨purchase_orders, hafter⟩ := exec_releasePurchaseOrder arguments sim
    show OnFile quote (exec (releasePurchaseOrder arguments) sim).2
    rw [hafter]
    exact ⟨h.quotation, h.amounts, h.requisition⟩

/-- **Run**: so does every sequence of them. -/
theorem onFile_afterCalls {calls : List ProcurementCall} (h : OnFile quote sim)
    (hcalls : Undisturbed quote calls sim) : OnFile quote (afterCalls calls sim) := by
  induction calls generalizing sim with
  | nil => exact h
  | cons call calls ih => exact ih (onFile_after h hcalls.1) hcalls.2

theorem boardNamed_sendAll {arguments : RfqArguments} (h : BoardNamed quote sim) :
    BoardNamed quote (sendAll arguments sim) := by
  intro id other hget hrfq
  rcases get?_sendAll.mp hget with ⟨hoffer, -⟩ | ⟨-, hold⟩
  · obtain ⟨vendor_id, -, template, -, rfl⟩ := mem_offers.mp hoffer
    show nonBlank ("quote-" ++ arguments.rfq_id ++ "-" ++ vendor_id) = true
    rw [String.append_assoc, String.append_assoc]
    exact nonBlank_append_left _ (by decide)
  · exact h id other hold hrfq

/-- The ids of new quotations are not blank. -/
theorem boardNamed_after {call : ProcurementCall} (h : BoardNamed quote sim) :
    BoardNamed quote (call.after sim) := by
  have hfiles : ∀ after, Files sim after → BoardNamed quote after := by
    rintro after (rfl | ⟨other, record, -, -, rfl⟩)
    · exact h
    · exact h
  cases call with
  | sendRfqEmail arguments =>
    show BoardNamed quote (afterSend arguments sim)
    rcases afterSend_cases arguments sim with ⟨-, hafter⟩ | ⟨-, -, hafter⟩ | ⟨-, -, outcome, hafter⟩
    · rw [hafter]
      exact h
    · rw [hafter]
      exact boardNamed_sendAll h
    · have hsent : BoardNamed quote (sendAll arguments sim) := boardNamed_sendAll h
      rw [hafter]
      exact hsent
  | createPurchaseRequisition arguments =>
    exact hfiles _ (files_createPurchaseRequisition arguments sim)
  | awardQuote arguments => exact hfiles _ (files_awardQuote arguments sim)
  | releasePurchaseOrder arguments =>
    obtain ⟨purchase_orders, hafter⟩ := exec_releasePurchaseOrder arguments sim
    show BoardNamed quote (exec (releasePurchaseOrder arguments) sim).2
    rw [hafter]
    exact h

theorem boardNamed_afterCalls {calls : List ProcurementCall} (h : BoardNamed quote sim) :
    BoardNamed quote (afterCalls calls sim) := by
  induction calls generalizing sim with
  | nil => exact h
  | cons call calls ih => exact ih (boardNamed_after h)

/-! ## Section 4: Boards of filed quotations -/

/-- What a board ranks are the quotations of its RFQ. -/
theorem mem_rankedOf {rfq_id : String} {ranked : List Quotation}
    (h : rankedOf rfq_id sim = .ok ranked) {other : Quotation} :
    other ∈ ranked ↔ sim.quotations.get? other.quote_id = some other ∧ other.rfq_id = rfq_id := by
  unfold rankedOf rankQuotations at h
  obtain ⟨entries, hentries, hranked⟩ := bind_ok.mp h
  obtain rfl := pure_ok.mp hranked
  have hsame : entries.map Prod.snd =
      sim.quotations.values.filter fun quote => quote.rfq_id = rfq_id := by
    unfold priced at hentries
    rw [mapM_ok] at hentries
    rw [map_eq_of_forall₂ (g := id) hentries, List.map_id]
    intro quote entry hentry
    obtain ⟨amount, -, hpair⟩ := bind_ok.mp hentry
    obtain rfl := pure_ok.mp hpair
    rfl
  have hmem : other ∈ (entries.sortBy rankKey).map Prod.snd ↔ other ∈ entries.map Prod.snd := by
    rw [List.mem_map, List.mem_map]
    simp only [List.mem_sortBy]
  rw [hmem, hsame, List.mem_filter, Registry.mem_values, decide_eq_true_eq]

theorem onBoard_rankedOf {ranked : List Quotation} (h : rankedOf quote.rfq_id sim = .ok ranked)
    (hquote : sim.quotations.get? quote.quote_id = some quote)
    (hvendor : nonBlank quote.vendor_id = true) : OnBoard quote ranked where
  mem := (mem_rankedOf h).mpr ⟨hquote, rfl⟩
  rfq_id other hother := ((mem_rankedOf h).mp hother).2
  unique other hother hid := by
    have hget := ((mem_rankedOf h).mp hother).1
    rw [hid] at hget
    exact Option.some.inj (hget.symm.trans hquote)
  vendor_text := hvendor

/-- The ids of a ranked board are not blank when the filed ones are not. -/
theorem boardNamed_iff {ranked : List Quotation} (h : rankedOf quote.rfq_id sim = .ok ranked) :
    BoardNamed quote sim ↔ ∀ other ∈ ranked, nonBlank other.quote_id = true := by
  constructor
  · intro hnamed other hother
    obtain ⟨hget, hrfq⟩ := (mem_rankedOf h).mp hother
    exact hnamed _ other hget hrfq
  · intro htext id other hget hrfq
    apply htext other
    rw [mem_rankedOf h, Registry.key_of_get? hget]
    exact ⟨hget, hrfq⟩

theorem exec_showQuotations {rfq_id : String} {ranked : List Quotation}
    (h : rankedOf rfq_id sim = .ok ranked) :
    exec (showQuotations (object [("rfq_id", .str rfq_id)])) sim =
      (.ok (shownBoard rfq_id ranked), sim) := by
  have hgiven : (object [("rfq_id", .str rfq_id)]).get "rfq_id" = .str rfq_id := by
    rw [object_get]
    rfl
  have hboard : exec (ranking rfq_id) sim = (.ok ranked, sim) := by
    rw [exec_ranking, h]
  unfold showQuotations
  rw [Accounts.argumentText_str hgiven, Mutation.exec_ok_bind, Mutation.exec_bind_ok hboard]
  rfl

/-! ## Section 5: The release -/

theorem memberOf_str {record : Dict} {name text : String} (h : record.get name = .str text) :
    memberOf record name = .str text := Subtype.ext h

theorem memberValue_str {record : Dict} {name text : String} (h : record.get name = .str text) :
    memberValue record name = .ok (.str text) := by
  have hmember : member record name = .ok (.str text) := by
    unfold member
    cases hget : record.get? name with
    | none =>
      unfold Dict.get at h
      rw [hget] at h
      cases h
    | some value =>
      unfold Dict.get at h
      rw [hget] at h
      exact congrArg Except.ok h
  unfold memberValue
  rw [hmember, memberOf_str h]

/-- What a release answers of a requisition of the quotation. -/
theorem releasePayload_names {requisition : Dict} (h : Names requisition quote)
    (ranked : List Quotation) :
    ∃ order, releasePayload (prId quote.quote_id) quote.rfq_id requisition ranked = .ok order ∧
      Reports order quote ranked := by
  unfold releasePayload
  rw [Accounts.argumentText_str h.quote_id, ok_bind, memberValue_str h.vendor_id, ok_bind,
    memberValue_str h.amount_minor, ok_bind, memberValue_str h.currency, ok_bind]
  refine ⟨_, rfl, ?_⟩
  constructor
  all_goals
    rw [object_get]
    rfl

/-- The release of a requisition that is on file completes. -/
theorem exec_release_onFile {arguments : Dict} {ranked : List Quotation} (h : OnFile quote sim)
    (hpr : arguments.get "pr_id" = .str (prId quote.quote_id))
    (hranked : rankedOf quote.rfq_id sim = .ok ranked) :
    ∃ order, Reports order quote ranked ∧ exec (releasePurchaseOrder arguments) sim =
      (.ok order, { sim with
        purchase_orders := sim.purchase_orders.set (poId (prId quote.quote_id)) order }) := by
  obtain ⟨requisition, hrequisition, hnames⟩ := h.requisition
  obtain ⟨order, horder, hreports⟩ := releasePayload_names hnames ranked
  have hfound : exec (requiredRequisition (prId quote.quote_id)) sim = (.ok requisition, sim) := by
    unfold requiredRequisition
    rw [Mutation.exec_read_bind, hrequisition]
    rfl
  have hboard : exec (ranking quote.rfq_id) sim = (.ok ranked, sim) := by
    rw [exec_ranking, hranked]
  refine ⟨order, hreports, ?_⟩
  unfold releasePurchaseOrder
  rw [Accounts.argumentText_str hpr, Mutation.exec_ok_bind, Mutation.exec_bind_ok hfound,
    Accounts.argumentText_str hnames.rfq_id, Mutation.exec_ok_bind, Mutation.exec_bind_ok hboard,
    horder, Mutation.exec_ok_bind]
  rfl

/-- A release is accepted when the text on file is the amount's digits. -/
theorem validateRelease_onFile {action : ActionIntent} {n : Nat} (h : OnFile quote sim)
    (htool : action.tool_name = "release_purchase_order")
    (hpr : action.arguments.get "pr_id" = .str (prId quote.quote_id))
    (hamount : parseAmount (action.arguments.get "amount_minor") = .ok (.finite false n 0))
    (hcurrency : action.arguments.get "currency" = .str quote.currency)
    (hsupported : quote.currency ∈ SUPPORTED_CURRENCIES) :
    validateProcurementMoney action sim = .ok passed ↔ quote.amount_minor = toString n := by
  obtain ⟨requisition, hrequisition, hnames⟩ := h.requisition
  have hrelease : validateProcurementMoney action sim =
      .ok (if quote.amount_minor = toString n then passed
        else failed PROCUREMENT_QUOTE_MISMATCH) := by
    unfold validateProcurementMoney
    rw [hamount]
    dsimp only
    rw [hcurrency]
    dsimp only
    rw [if_neg (not_not_intro hsupported), if_pos htool]
    unfold validateRelease
    rw [hpr]
    dsimp only
    rw [hrequisition]
    dsimp only
    rw [hnames.amount_minor, hnames.currency, PyDecimal.str_int]
    show Except.ok (if quote.amount_minor ≠ toString n ∨ quote.currency ≠ quote.currency then
      failed PROCUREMENT_QUOTE_MISMATCH else passed) = _
    by_cases hplain : quote.amount_minor = toString n
    · rw [if_pos hplain, if_neg]
      rintro (hother | hother)
      · exact hother hplain
      · exact hother rfl
    · rw [if_neg hplain, if_pos (Or.inl hplain)]
  rw [hrelease]
  by_cases hplain : quote.amount_minor = toString n
  · rw [if_pos hplain]
    exact ⟨fun _ => hplain, fun _ => rfl⟩
  · rw [if_neg hplain]
    exact ⟨fun hpassed => absurd (Except.ok.inj hpassed) (Accounts.failed_ne_passed _),
      fun h => absurd h hplain⟩

/-! ## Section 6: The award -/

/-- Validation has accepted the award of a quotation, and the handler has
    recorded it. -/
structure Awarded (award : ActionIntent) (sim : ProcurementSimulator) (quote : Quotation)
    (awarded : Dict) (recorded : ProcurementSimulator) : Prop where
  captured : Captured award
  tool_name : award.tool_name = "award_quote"
  accepted : validateProcurementMoney award sim = .ok passed
  named : namedQuotation award sim = some quote
  recorded : exec (awardQuote award.arguments) sim = (.ok awarded, recorded)

/-- A release of the award, with the same vendor, amount and currency. -/
structure Releases (release award : ActionIntent) (quote : Quotation) : Prop where
  captured : Captured release
  tool_name : release.tool_name = "release_purchase_order"
  pr_id : release.arguments.get "pr_id" = .str (prId quote.quote_id)
  vendor_id : release.arguments.get "vendor_id" = .null ∨
    release.arguments.get "vendor_id" = .str quote.vendor_id
  amount_minor : parseAmount (release.arguments.get "amount_minor") =
    parseAmount (award.arguments.get "amount_minor")
  currency : release.arguments.get "currency" = award.arguments.get "currency"

/-- The execution of the action with the answer is proved over the board. -/
def Proven (action : ActionIntent) (output : Dict) (rfq_id : String) (sim : ProcurementSimulator) :
    Prop :=
  ∃ board, exec (showQuotations (object [("rfq_id", .str rfq_id)])) sim = (.ok board, sim) ∧
    ∀ execution, Completes execution action output →
      ∃ proof, buildProcurementProof action execution board = .ok proof

/-- The release is accepted and completes, and both actions are proved. -/
structure Agrees (award release : ActionIntent) (quote : Quotation) (awarded : Dict)
    (recorded later : ProcurementSimulator) : Prop where
  accepted : validateProcurementMoney release later = .ok passed
  completed : ∃ order released, exec (releasePurchaseOrder release.arguments) later =
    (.ok order, released) ∧
      released = { later with
        purchase_orders := later.purchase_orders.set (poId (prId quote.quote_id)) order } ∧
      Proven release order quote.rfq_id released
  proven : Proven award awarded quote.rfq_id recorded

/-- The amounts are written alike, in plain digits; the award names no other
    vendor, and the ids are not blank. -/
structure Fits (award release : ActionIntent) (quote : Quotation) (sim : ProcurementSimulator) :
    Prop where
  plain : ∃ n : Nat, quote.amount_minor = toString n
  award_amount : award.arguments.get "amount_minor" = .str quote.amount_minor
  release_amount : release.arguments.get "amount_minor" = .str quote.amount_minor
  award_vendor : award.arguments.get "vendor_id" = .null ∨
    award.arguments.get "vendor_id" = .str quote.vendor_id
  rfq_text : nonBlank quote.rfq_id = true
  board_text : BoardNamed quote sim

theorem exists_completes (action : ActionIntent) (output : Dict) :
    ∃ execution, Completes execution action output :=
  ⟨{ status := .executed
     request_id := action.request_id
     tool_executed := some true
     reason := "executed"
     decision_id := none
     output := .json output.json
     retryable := false
     request_id_text := action.request_id_text
     reason_text := by decide
     tool_executed_fits := rfl
     retryable_fits := fun h => nomatch h }, rfl, rfl, rfl⟩

/-- An answer is proved exactly when its action can be bound to the board. -/
theorem proven_iff (sim : ProcurementSimulator) {action : ActionIntent} {output : Dict}
    {ranked : List Quotation}
    (hcaptured : Captured action) (hreports : Reports output quote ranked)
    (hconcerns : Concerns action quote) (hboard : OnBoard quote ranked)
    (hranked : rankedOf quote.rfq_id sim = .ok ranked) :
    Proven action output quote.rfq_id sim ↔ Bindable action quote ranked := by
  constructor
  · rintro ⟨board, hshown, hproofs⟩
    rw [exec_showQuotations hranked] at hshown
    obtain rfl := Except.ok.inj (congrArg Prod.fst hshown)
    obtain ⟨execution, hcompletes⟩ := exists_completes action output
    exact (buildProcurementProof_iff hcaptured hreports hconcerns hboard hcompletes).mp
      (hproofs execution hcompletes)
  · intro h
    refine ⟨_, exec_showQuotations hranked, ?_⟩
    intro execution hcompletes
    exact (buildProcurementProof_iff hcaptured hreports hconcerns hboard hcompletes).mpr h

/-- What an award has established. -/
structure Established (award : ActionIntent) (sim : ProcurementSimulator) (quote : Quotation)
    (n : Nat) : Prop where
  amount : parseAmount (award.arguments.get "amount_minor") = .ok (.finite false n 0)
  bounded : n ≤ 100000000
  currency : award.arguments.get "currency" = .str quote.currency
  supported : quote.currency ∈ SUPPORTED_CURRENCIES
  rfq_id : award.arguments.get "rfq_id" = .str quote.rfq_id
  quote_id : award.arguments.get "quote_id" = .str quote.quote_id
  found : sim.quotations.get? quote.quote_id = some quote
  vendor_text : nonBlank quote.vendor_id = true
  quoted : ∃ quoted, quote.amount = .ok quoted ∧ quoted.equal (.finite false n 0) = true

theorem namedQuotation_some {action : ActionIntent} (h : namedQuotation action sim = some quote) :
    action.arguments.get "rfq_id" = .str quote.rfq_id ∧
      action.arguments.get "quote_id" = .str quote.quote_id ∧
        sim.quotations.get? quote.quote_id = some quote := by
  unfold namedQuotation at h
  split at h
  · next rfq_id quote_id hrfq hquote =>
    obtain ⟨hget, hsame⟩ := Option.filter_eq_some_iff.mp h
    have hid := Registry.key_of_get? hget
    have hrfq_id : quote.rfq_id = rfq_id := by simpa using hsame
    rw [hrfq, hquote, hrfq_id, hid]
    exact ⟨rfl, rfl, hget⟩
  · cases h

/-- What validation has compared of an award. -/
theorem established_of_accepted {award : ActionIntent} (htool : award.tool_name = "award_quote")
    (hnamed : namedQuotation award sim = some quote)
    (h : validateProcurementMoney award sim = .ok passed) :
    ∃ n, Established award sim quote n := by
  obtain ⟨hrfq, hquote, hfound⟩ := namedQuotation_some hnamed
  unfold validateProcurementMoney at h
  cases hamount : parseAmount (award.arguments.get "amount_minor") with
  | error reason =>
    rw [hamount] at h
    exact absurd (Except.ok.inj h) (Accounts.failed_ne_passed _)
  | ok amount =>
    obtain ⟨-, n, rfl, -, hbound⟩ := parseAmount_ok hamount
    rw [hamount] at h
    dsimp only at h
    split at h
    · next currency hcurrency =>
      split at h
      · exact absurd (Except.ok.inj h) (Accounts.failed_ne_passed _)
      next hsupported =>
      rw [if_neg (by rw [htool]; decide), hnamed] at h
      dsimp only at h
      unfold validateQuotation at h
      split at h
      · exact absurd (Except.ok.inj h) (Accounts.failed_ne_passed _)
      next hvendor =>
      obtain ⟨quoted, hquoted, h⟩ := bind_ok.mp h
      split at h
      · exact absurd (Except.ok.inj h) (Accounts.failed_ne_passed _)
      next hcompared =>
      rw [not_or, Bool.not_eq_false, not_not] at hcompared
      have hvendor_text : nonBlank quote.vendor_id = true := by
        cases hget : sim.vendors.get? quote.vendor_id with
        | none =>
          rw [hget] at hvendor
          exact absurd rfl hvendor
        | some vendor =>
          rw [← Registry.key_of_get? hget]
          exact vendor.vendor_id_text
      refine ⟨n, hamount, hbound, ?_, ?_, hrfq, hquote, hfound, hvendor_text, quoted, hquoted,
        hcompared.1⟩
      · rw [hcurrency, hcompared.2]
      · rw [hcompared.2]
        exact not_not.mp hsupported
    · exact absurd (Except.ok.inj h) (Accounts.failed_ne_passed _)

/-- What the handler has recorded of an award. -/
theorem recorded_of_awardQuote {award : ActionIntent} {n : Nat} {awarded : Dict}
    {recorded : ProcurementSimulator} (h : Established award sim quote n)
    (hrun : exec (awardQuote award.arguments) sim = (.ok awarded, recorded)) :
    ∃ ranked, rankedOf quote.rfq_id sim = .ok ranked ∧ awarded = awardPayload quote ranked ∧
      recorded = { sim with
        requisitions := sim.requisitions.set (prId quote.quote_id) (awardRecord quote ranked) } := by
  unfold awardQuote at hrun
  rw [Accounts.argumentText_str h.quote_id, Mutation.exec_ok_bind,
    Mutation.exec_bind_ok (exec_requiredQuotation h.found)] at hrun
  cases hranked : rankedOf quote.rfq_id sim with
  | error e =>
    have hboard : exec (ranking quote.rfq_id) sim = (.error e, sim) := by
      rw [exec_ranking, hranked]
    rw [Mutation.exec_bind_error hboard] at hrun
    cases congrArg Prod.fst hrun
  | ok ranked =>
    have hboard : exec (ranking quote.rfq_id) sim = (.ok ranked, sim) := by
      rw [exec_ranking, hranked]
    rw [Mutation.exec_bind_ok hboard] at hrun
    refine ⟨ranked, rfl, ?_, (congrArg Prod.snd hrun).symm⟩
    exact (Except.ok.inj (congrArg Prod.fst hrun)).symm

theorem reports_awardPayload (quote : Quotation) (ranked : List Quotation) :
    Reports (awardPayload quote ranked) quote ranked := by
  unfold awardPayload
  constructor
  all_goals
    rw [object_get]
    rfl

theorem concerns_award {award : ActionIntent} {n : Nat} (htool : award.tool_name = "award_quote")
    (h : Established award sim quote n) : Concerns award quote where
  tool_name := by
    rw [htool]
    decide
  currency := h.currency
  release hrelease := by
    rw [htool] at hrelease
    exact absurd hrelease (by decide)
  named _ := ⟨h.rfq_id, h.quote_id⟩

theorem concerns_release {award release : ActionIntent} (h : Releases release award quote)
    (hcurrency : release.arguments.get "currency" = .str quote.currency) :
    Concerns release quote where
  tool_name := by
    rw [h.tool_name]
    decide
  currency := hcurrency
  release _ := h.pr_id
  named hother := absurd h.tool_name hother

/-- An award leaves its quotation on file. -/
theorem onFile_recorded {ranked : List Quotation}
    (hfound : sim.quotations.get? quote.quote_id = some quote)
    (hranked : rankedOf quote.rfq_id sim = .ok ranked) :
    OnFile quote { sim with
      requisitions := sim.requisitions.set (prId quote.quote_id) (awardRecord quote ranked) } where
  quotation := hfound
  amounts := rankedOf_ok_iff.mp ⟨ranked, hranked⟩
  requisition := ⟨awardRecord quote ranked, Table.get?_set_self _ _ _, names_awardRecord _ _⟩

/-- Plain digits that are equal to a number are its digits. -/
theorem plain_iff {award : ActionIntent} {n : Nat} (h : Established award sim quote n) :
    (∃ m : Nat, quote.amount_minor = toString m) ↔ quote.amount_minor = toString n := by
  constructor
  · rintro ⟨m, hm⟩
    obtain ⟨quoted, hquoted, hequal⟩ := h.quoted
    unfold Quotation.amount amountOf at hquoted
    cases hread : decimalOf quote.amount_minor with
    | none =>
      rw [hread] at hquoted
      cases hquoted
    | some value =>
      rw [hread] at hquoted
      dsimp only at hquoted
      rw [require_bind_ok, require_bind_ok, pure_ok] at hquoted
      obtain ⟨-, -, rfl⟩ := hquoted
      rw [hm] at hread
      rw [of_decimalOf_toString hread, PyDecimal.equal_int] at hequal
      rw [hm, hequal]
  · intro hn
    exact ⟨n, hn⟩

end calls

/-- **Awards**: after calls that spare its quotation, the release of an award
    that was accepted and recorded is accepted and completes, and both are
    proved, exactly when the amounts are written alike in plain digits, the award
    names no other vendor and the ids are not blank. -/
theorem award_released_iff {award release : ActionIntent} {sim recorded : ProcurementSimulator}
    {quote : Quotation} {awarded : Dict} {calls : List ProcurementCall}
    (haward : Awarded award sim quote awarded recorded) (hcalls : Undisturbed quote calls recorded)
    (hrelease : Releases release award quote) :
    Agrees award release quote awarded recorded (afterCalls calls recorded) ↔
      Fits award release quote sim := by
  obtain ⟨n, hestablished⟩ :=
    established_of_accepted haward.tool_name haward.named haward.accepted
  obtain ⟨ranked, hranked, rfl, rfl⟩ := recorded_of_awardQuote hestablished haward.recorded
  have hfiled := onFile_recorded hestablished.found hranked
  have hlater := onFile_afterCalls hfiled hcalls
  generalize hstate : afterCalls calls _ = later at hlater ⊢
  -- the board when the order is released
  obtain ⟨ranked', hranked'⟩ := rankedOf_ok_iff.mpr hlater.amounts
  obtain ⟨order, hreports, horder⟩ := exec_release_onFile hlater hrelease.pr_id hranked'
  have hcurrency : release.arguments.get "currency" = .str quote.currency :=
    hrelease.currency.trans hestablished.currency
  have hamount : parseAmount (release.arguments.get "amount_minor") = .ok (.finite false n 0) :=
    hrelease.amount_minor.trans hestablished.amount
  have haccepted := validateRelease_onFile hlater hrelease.tool_name hrelease.pr_id hamount
    hcurrency hestablished.supported
  have hawarded := proven_iff
    { sim with
      requisitions := sim.requisitions.set (prId quote.quote_id) (awardRecord quote ranked) }
      haward.captured (reports_awardPayload quote ranked)
      (concerns_award haward.tool_name hestablished)
      (onBoard_rankedOf hranked hestablished.found hestablished.vendor_text) hranked
  have hordered := proven_iff
    { later with
      purchase_orders := later.purchase_orders.set (poId (prId quote.quote_id)) order }
      hrelease.captured hreports (concerns_release hrelease hcurrency)
      (onBoard_rankedOf hranked' hlater.quotation hestablished.vendor_text) hranked'
  constructor
  · intro h
    have hbound := hawarded.mp h.proven
    obtain ⟨order', released, hrun, -, hproven⟩ := h.completed
    rw [horder] at hrun
    obtain rfl := Except.ok.inj (congrArg Prod.fst hrun)
    obtain rfl := congrArg Prod.snd hrun
    exact ⟨(plain_iff hestablished).mpr (haccepted.mp h.accepted), hbound.amount_minor,
      (hordered.mp hproven).amount_minor, hbound.vendor_id, hbound.rfq_text,
      (boardNamed_iff hranked).mpr hbound.ids_text⟩
  · intro h
    have hnamed : BoardNamed quote later := by
      rw [← hstate]
      exact boardNamed_afterCalls h.board_text
    refine ⟨haccepted.mpr ((plain_iff hestablished).mp h.plain), ⟨order, _, horder, rfl, ?_⟩, ?_⟩
    · exact hordered.mpr ⟨h.release_amount, hrelease.vendor_id, h.rfq_text,
        (boardNamed_iff hranked').mp hnamed⟩
    · exact hawarded.mpr ⟨h.award_amount, h.award_vendor, h.rfq_text,
        (boardNamed_iff hranked).mp h.board_text⟩

/-! ## A quotation of 1000 minor units -/

section point
variable (amount_minor : String)

/-- The quotation, with its amount as the vendor wrote it. -/
def pointQuotation : Quotation := ⟨"quote-1", "rfq-1", "vendor-1", "mat-1", amount_minor, "USD"⟩

/-- The records with the quotation and its vendor. -/
def pointRecords : ProcurementSimulator where
  vendors := Registry.empty.put ⟨"vendor-1", true, by decide⟩
  quotations := Registry.empty.put (pointQuotation amount_minor)
  rfqs := Table.empty
  requisitions := Table.empty
  purchase_orders := Table.empty
  outbound_rfqs := []
  quote_templates := Table.empty
  rfq_fingerprints := Table.empty
  rfq_outcomes := Table.empty

/-- The arguments of its award. -/
def awardArguments : Dict :=
  object
    [("rfq_id", .str "rfq-1"), ("quote_id", .str "quote-1"), ("amount_minor", .str "1000"),
      ("currency", .str "USD")]

/-- The arguments of the release. -/
def releaseArguments : Dict :=
  object
    [("pr_id", .str "pr-quote-1"), ("amount_minor", .str "1000"), ("currency", .str "USD")]

/-- An action of a tool. -/
def pointAction (tool_name : String) (arguments : Dict) (h : nonBlank tool_name = true) :
    ActionIntent :=
  { ActionIntent.contactRead with
    tool_name
    arguments_json := Snapshot.ofDict arguments
    tool_name_text := h }

/-- The award. -/
def pointAward : ActionIntent := pointAction "award_quote" awardArguments (by decide)

/-- The release of its purchase order. -/
def pointRelease : ActionIntent :=
  pointAction "release_purchase_order" releaseArguments (by decide)

theorem pointAction_arguments {tool_name : String} {arguments : Dict}
    (h : nonBlank tool_name = true) :
    (pointAction tool_name arguments h).arguments = arguments := Snapshot.restore_ofDict arguments

theorem captured_pointAction {tool_name : String} {arguments : Dict}
    (h : nonBlank tool_name = true) (hfinite : Json.finite arguments.json = true) :
    Captured (pointAction tool_name arguments h) := by
  have hempty : ∀ d : Dict, d = Dict.of [] (by simp) → Json.finite d.json = true := by
    rintro d rfl
    rfl
  refine ⟨by rw [pointAction_arguments]; exact hfinite, hempty _ ?_, hempty _ ?_⟩
  · exact Snapshot.restore_ofDict _
  · exact Snapshot.restore_ofDict _

/-- The board of the quotation. -/
theorem rankedOf_point {amount_minor : String} {quoted : PyDecimal}
    (h : amountOf amount_minor = .ok quoted) :
    rankedOf "rfq-1" (pointRecords amount_minor) = .ok [pointQuotation amount_minor] := by
  have hpriced : priced [pointQuotation amount_minor] =
      .ok [(quoted, pointQuotation amount_minor)] := by
    have hamount : (pointQuotation amount_minor).amount = .ok quoted := h
    unfold priced
    rw [List.mapM_cons, hamount]
    rfl
  unfold rankedOf rankQuotations
  show (priced [pointQuotation amount_minor] >>= _) = _
  rw [hpriced]
  rfl

theorem exists_exec {S α : Type} {m : Mutation Exn S α} {s : S} {a : α}
    (h : (exec m s).1 = .ok a) : ∃ s', exec m s = (.ok a, s') := ⟨(exec m s).2, by rw [← h]⟩

/-- The award is accepted and recorded when the amounts are the same number. -/
theorem awarded_point {amount_minor : String} {quoted : PyDecimal}
    (h : amountOf amount_minor = .ok quoted)
    (hequal : quoted.equal (.finite false 1000 0) = true) :
    ∃ recorded, Awarded pointAward (pointRecords amount_minor) (pointQuotation amount_minor)
      (awardPayload (pointQuotation amount_minor) [pointQuotation amount_minor]) recorded := by
  have harguments : pointAward.arguments = awardArguments := pointAction_arguments _
  have hquote_id : pointAward.arguments.get "quote_id" = .str "quote-1" := by
    rw [harguments]
    decide
  have hnamed : namedQuotation pointAward (pointRecords amount_minor) =
      some (pointQuotation amount_minor) := by
    have hrfq_id : pointAward.arguments.get "rfq_id" = .str "rfq-1" := by
      rw [harguments]
      decide
    unfold namedQuotation
    rw [hrfq_id, hquote_id]
    rfl
  have hamount : parseAmount (pointAward.arguments.get "amount_minor") =
      .ok (.finite false 1000 0) := by
    rw [harguments]
    decide +kernel
  have hcurrency : pointAward.arguments.get "currency" = .str "USD" := by
    rw [harguments]
    decide
  have haccepted : validateProcurementMoney pointAward (pointRecords amount_minor) = .ok passed := by
    have hquoted : (pointQuotation amount_minor).amount = .ok quoted := h
    have hvendor : ¬ ((pointRecords amount_minor).vendors.get?
        (pointQuotation amount_minor).vendor_id).all (fun vendor => !vendor.registered) = true := by
      show ¬ (some (⟨"vendor-1", true, _⟩ : VendorRecord)).all _ = true
      decide
    unfold validateProcurementMoney
    rw [hamount]
    dsimp only
    rw [hcurrency]
    dsimp only
    rw [if_neg (by decide), if_neg (by decide), hnamed]
    unfold validateQuotation
    dsimp only
    rw [if_neg hvendor, hquoted, ok_bind, if_neg, if_neg (by decide)]
    · rfl
    · rintro (hother | hother)
      · rw [hequal] at hother
        cases hother
      · exact hother rfl
  have hanswer : (exec (awardQuote pointAward.arguments) (pointRecords amount_minor)).1 =
      .ok (awardPayload (pointQuotation amount_minor) [pointQuotation amount_minor]) := by
    have hboard : exec (ranking (pointQuotation amount_minor).rfq_id) (pointRecords amount_minor) =
        (.ok [pointQuotation amount_minor], pointRecords amount_minor) := by
      rw [exec_ranking]
      exact congrArg (·, pointRecords amount_minor) (rankedOf_point h)
    have hfound : (pointRecords amount_minor).quotations.get? "quote-1" =
        some (pointQuotation amount_minor) := rfl
    unfold awardQuote
    rw [Accounts.argumentText_str hquote_id, Mutation.exec_ok_bind,
      Mutation.exec_bind_ok (exec_requiredQuotation hfound), Mutation.exec_bind_ok hboard,
      Mutation.exec_write_bind, Mutation.exec_pure]
  obtain ⟨recorded, hrun⟩ := exists_exec hanswer
  exact ⟨recorded, captured_pointAction _ (by decide), rfl, haccepted, hnamed, hrun⟩

end point

theorem releases_point (amount_minor : String) :
    Releases pointRelease pointAward (pointQuotation amount_minor) := by
  have haward : pointAward.arguments = awardArguments := pointAction_arguments _
  have hrelease : pointRelease.arguments = releaseArguments := pointAction_arguments _
  refine ⟨captured_pointAction _ (by decide), rfl, ?_, ?_, ?_, ?_⟩
  · rw [hrelease]
    show releaseArguments.get "pr_id" = .str "pr-quote-1"
    decide
  · rw [hrelease]
    exact Or.inl (by decide)
  · rw [haward, hrelease]
    decide +kernel
  · rw [haward, hrelease]
    decide

/-- The award of an amount in plain digits is released and proved, also if it is
    given twice. -/
theorem award_released_plain :
    ∃ awarded recorded, Agrees pointAward pointRelease (pointQuotation "1000") awarded recorded
      (afterCalls [.awardQuote awardArguments] recorded) := by
  have hread : amountOf "1000" = .ok (.finite false 1000 0) := by decide +kernel
  obtain ⟨recorded, haward⟩ := awarded_point hread (by decide +kernel)
  have hfits : Fits pointAward pointRelease (pointQuotation "1000") (pointRecords "1000") := by
    have haward : pointAward.arguments = awardArguments := pointAction_arguments _
    have hrelease : pointRelease.arguments = releaseArguments := pointAction_arguments _
    refine ⟨⟨1000, by decide +kernel⟩, ?_, ?_, ?_, by decide, ?_⟩
    · rw [haward]
      decide
    · rw [hrelease]
      decide
    · rw [haward]
      exact Or.inl (by decide)
    · intro id other hget _
      rw [show other.quote_id = id from Registry.key_of_get? hget]
      have hid : id = "quote-1" := by
        by_contra hne
        have hnone : (pointRecords "1000").quotations.get? id = none := by
          show (Registry.empty.put (pointQuotation "1000")).get? id = none
          have hother : id ≠ (pointQuotation "1000").quote_id := hne
          rw [Registry.get?_put, if_neg hother]
          rfl
        rw [hnone] at hget
        cases hget
      rw [hid]
      decide
  have hcalls : Undisturbed (pointQuotation "1000") [.awardQuote awardArguments] recorded :=
    And.intro True.intro True.intro
  exact ⟨_, recorded, (award_released_iff haward hcalls (releases_point "1000")).mpr hfits⟩

/-- A quotation of `1000.0` is awarded at 1000, and its release is refused. -/
theorem award_point_refused :
    ¬ ∀ (award release : ActionIntent) (sim recorded : ProcurementSimulator) (quote : Quotation)
      (awarded : Dict) (calls : List ProcurementCall),
      Awarded award sim quote awarded recorded → Undisturbed quote calls recorded →
        Releases release award quote →
          Agrees award release quote awarded recorded (afterCalls calls recorded) := by
  intro h
  have hread : amountOf "1000.0" = .ok (.finite false 10000 (-1)) := by decide +kernel
  obtain ⟨recorded, haward⟩ := awarded_point hread (by decide +kernel)
  have hagrees := h _ _ _ _ _ _ [] haward True.intro (releases_point "1000.0")
  obtain ⟨n, hestablished⟩ :=
    established_of_accepted haward.tool_name haward.named haward.accepted
  obtain ⟨ranked, hranked, -, rfl⟩ := recorded_of_awardQuote hestablished haward.recorded
  have hreleases := releases_point "1000.0"
  have hplain := (validateRelease_onFile (onFile_recorded hestablished.found hranked)
    hreleases.tool_name hreleases.pr_id (hreleases.amount_minor.trans hestablished.amount)
    (hreleases.currency.trans hestablished.currency) hestablished.supported).mp hagrees.accepted
  -- digits are read as a number without a point
  have hdigits : decimalOf (toString n) = some (.finite false 10000 (-1)) := by
    rw [← hplain]
    decide +kernel
  have hsame := of_decimalOf_toString hdigits
  simp at hsame

end CBrain.Purchasing

import CBrain.Company.Payments
import CBrain.Framework.Ranking
import Mathlib.Data.Prod.Lex
import Mathlib.Data.String.Basic

/-! # Requests for quotation

    Models the procurement records of a company
    (`ProcurementSimulator`, `cbrain/company/simulators.py`), their quotations
    and boards (`cbrain/procurement/mailbox.py`) and the handler that sends the
    e-mails of an RFQ (`cbrain/company/handlers.py`).

    Every writer files a quotation under its own id, and a vendor under its own
    id, so both are registries.  The arguments of the handler have the types of
    the tool's schema. -/

namespace CBrain.Purchasing

open Json (Dict)
open Mutation (raising write read exec Reads)
open Knowledge (sha256HexOf)
open Simulators (memberOf texts)

/-! ## Section 1: Quotations -/

/-- `ProcurementError`. -/
def procurementError (message : String) : Exn :=
  ⟨.valueError, "ProcurementError", [.text message]⟩

/-- The amount of a quotation, from its text. -/
def amountOf (amount_minor : String) : Raises PyDecimal :=
  match decimalOf amount_minor with
  | none => .error (procurementError "quotation amount_minor is invalid")
  | some value => do
    require (value.isFinite = true ∧ (PyDecimal.ofInt 0).lt? value = some true)
      (procurementError "quotation amount_minor must be a positive finite integer")
    require (value.isWhole = true)
      (procurementError "quotation amount_minor must be integer minor units")
    pure value

/-- `Quotation`. -/
structure Quotation where
  quote_id : String
  rfq_id : String
  vendor_id : String
  material_id : String
  amount_minor : String
  currency : String
  deriving DecidableEq

/-- `Quotation.amount`. -/
def Quotation.amount (quote : Quotation) : Raises PyDecimal := amountOf quote.amount_minor

/-- The quotations with their amounts. -/
def priced (quotes : List Quotation) : Raises (List (PyDecimal × Quotation)) :=
  quotes.mapM fun quote => do
    let amount ← quote.amount
    pure (amount, quote)

/-- What quotations are ranked by. -/
def rankKey (entry : PyDecimal × Quotation) : ℚ ×ₗ String :=
  toLex (entry.1.value?.getD 0, entry.2.vendor_id)

/-- `rank_quotations`. -/
def rankQuotations (quotes : List Quotation) : Raises (List Quotation) := do
  let entries ← priced quotes
  pure ((entries.sortBy rankKey).map Prod.snd)

/-- A row of a board. -/
def boardRow (quote : Quotation) (index : Nat) : Dict :=
  object
    [("rank", .nat (index + 1)), ("quote_id", .str quote.quote_id), ("rfq_id", .str quote.rfq_id),
      ("vendor_id", .str quote.vendor_id), ("material_id", .str quote.material_id),
      ("amount_minor", .str quote.amount_minor), ("currency", .str quote.currency)]

/-- `quotation_board_payload` of the ranked quotations. -/
def quotationBoardPayload (ranked : List Quotation) : List (String × Value) :=
  [("instant", .bool true), ("count", .nat ranked.length), ("delivery_mode", .str "simulated"),
    ("quotations", .dicts (ranked.mapIdx fun index quote => boardRow quote index))]

/-- `quote_board_digest`. -/
def quoteBoardDigest (quote_board : Dict) : String :=
  sha256HexOf (object
    [("count", memberOf quote_board "count"), ("quotations", memberOf quote_board "quotations")])

/-! ## Section 2: Records -/

/-- `VendorRecord`. -/
structure VendorRecord where
  vendor_id : String
  registered : Bool
  vendor_id_text : nonBlank vendor_id = true

theorem VendorRecord.fields_injective : Function.Injective fun vendor : VendorRecord =>
    (vendor.vendor_id, vendor.registered) := by
  rintro ⟨_, _, _⟩ ⟨_, _, _⟩ h
  cases h
  rfl

instance : DecidableEq VendorRecord := VendorRecord.fields_injective.decidableEq

/-- The arguments of `send_rfq_email`. -/
structure RfqArguments where
  rfq_id : String
  material_id : String
  vendor_ids : List String
  deriving DecidableEq

/-- A message to a vendor. -/
structure OutboundRfq where
  rfq_id : String
  vendor_id : String
  material_id : String
  deriving DecidableEq

/-- `ProcurementSimulator`. -/
structure ProcurementSimulator where
  vendors : Registry String VendorRecord VendorRecord.vendor_id
  quotations : Registry String Quotation Quotation.quote_id
  rfqs : Table String RfqArguments
  requisitions : Table String Dict
  purchase_orders : Table String Dict
  outbound_rfqs : List OutboundRfq
  quote_templates : Table (String × String) (String × String)
  rfq_fingerprints : Table String String
  rfq_outcomes : Table String Dict

/-- `canonical_rfq_digest`. -/
def canonicalRfqDigest (arguments : RfqArguments) : String :=
  sha256HexOf (object
    [("material_id", .str arguments.material_id), ("rfq_id", .str arguments.rfq_id),
      ("vendor_ids", texts arguments.vendor_ids)])

/-- `rfq_idempotency_conflict`. -/
def RfqIdempotencyConflict (arguments : RfqArguments) (sim : ProcurementSimulator) : Prop :=
  nonBlank arguments.rfq_id = true ∧ ∃ existing,
    sim.rfq_fingerprints.get? arguments.rfq_id = some existing ∧
      existing ≠ canonicalRfqDigest arguments

instance (arguments : RfqArguments) (sim : ProcurementSimulator) :
    Decidable (RfqIdempotencyConflict arguments sim) :=
  match h : sim.rfq_fingerprints.get? arguments.rfq_id with
  | none => isFalse (by rintro ⟨-, existing, hget, -⟩; rw [h] at hget; cases hget)
  | some existing =>
    decidable_of_iff
      (nonBlank arguments.rfq_id = true ∧ existing ≠ canonicalRfqDigest arguments) (by
        constructor
        · rintro ⟨htext, hne⟩
          exact ⟨htext, existing, h, hne⟩
        · rintro ⟨htext, other, hget, hne⟩
          rw [h] at hget
          exact ⟨htext, Option.some.inj hget ▸ hne⟩)

/-! ## Section 3: Sending an RFQ -/

/-- `_simulated_marker`. -/
def simulatedMarker : List (String × Value) :=
  [("delivery_mode", .str "simulated"), ("live_email_delivered", .bool false),
    ("live_erp_posted", .bool false), ("privatevault_authorized", .bool false)]

/-- The ranked quotations of an RFQ. -/
def rankedOf (rfq_id : String) (sim : ProcurementSimulator) : Raises (List Quotation) :=
  rankQuotations (sim.quotations.values.filter fun quote => quote.rfq_id = rfq_id)

/-- `_board` of the ranked quotations. -/
def boardMembers (rfq_id : String) (ranked : List Quotation) : List (String × Value) :=
  quotationBoardPayload ranked ++
    [("rfq_id", .str rfq_id),
      ("quote_board_digest", .str (quoteBoardDigest (object (quotationBoardPayload ranked))))]

/-- `f"quote-{rfq_id}-{vendor_id}"`. -/
def quoteId (rfq_id vendor_id : String) : String := "quote-" ++ rfq_id ++ "-" ++ vendor_id

section send
variable (arguments : RfqArguments)

/-- What a vendor offers by the template. -/
def offer (templates : Table (String × String) (String × String)) (vendor_id : String) :
    Option Quotation :=
  (templates.get? (vendor_id, arguments.material_id)).map fun (amount_minor, currency) =>
    { quote_id := quoteId arguments.rfq_id vendor_id
      rfq_id := arguments.rfq_id
      vendor_id
      material_id := arguments.material_id
      amount_minor
      currency }

/-- Write to a vendor, who answers at once. -/
def sendTo (sim : ProcurementSimulator) (vendor_id : String) : ProcurementSimulator :=
  let sent :=
    { sim with
      outbound_rfqs :=
        sim.outbound_rfqs ++ [⟨arguments.rfq_id, vendor_id, arguments.material_id⟩] }
  match offer arguments sim.quote_templates vendor_id with
  | none => sent
  | some quote => { sent with quotations := sim.quotations.put quote }

/-- Write to every vendor of the RFQ. -/
def sendAll (sim : ProcurementSimulator) : ProcurementSimulator :=
  arguments.vendor_ids.foldl (sendTo arguments)
    { sim with rfqs := sim.rfqs.set arguments.rfq_id arguments }

/-- The outcome of the RFQ on record. -/
def withOutcome (outcome : Dict) (sim : ProcurementSimulator) : ProcurementSimulator :=
  { sim with
    rfq_fingerprints := sim.rfq_fingerprints.set arguments.rfq_id (canonicalRfqDigest arguments)
    rfq_outcomes := sim.rfq_outcomes.set arguments.rfq_id outcome }

/-- `record_rfq_outcome`. -/
def recordRfqOutcome (outcome : Dict) : Mutation Exn ProcurementSimulator Unit := do
  let digest := canonicalRfqDigest arguments
  let existing ← read fun sim => sim.rfq_fingerprints.get? arguments.rfq_id
  raising (require (existing = none ∨ existing = some digest)
    (procurementError "RFQ idempotency conflict"))
  write (withOutcome arguments outcome)

/-- What is answered when the e-mails are sent. -/
def rfqOutcome (ranked : List Quotation) : Dict :=
  object (simulatedMarker ++
    [("rfq_id", .str arguments.rfq_id),
      ("simulated_recipient_vendor_ids", texts arguments.vendor_ids), ("instant", .bool true)] ++
    boardMembers arguments.rfq_id ranked)

/-- `_simulate_send_rfq_email`. -/
def sendRfqEmail : Mutation Exn ProcurementSimulator Dict := do
  let conflict ← read fun sim => decide (RfqIdempotencyConflict arguments sim)
  raising (require (conflict = false) (procurementError "RFQ idempotency conflict"))
  let replay ← read fun sim => sim.rfq_outcomes.get? arguments.rfq_id
  match replay with
  | some outcome => pure outcome
  | none => do
    write (sendAll arguments)
    let ranked ← read (rankedOf arguments.rfq_id)
    let ranked ← raising ranked
    let outcome := rfqOutcome arguments ranked
    recordRfqOutcome arguments outcome
    pure outcome

end send

/-! ## Section 4: Which amounts can be ranked -/

/-- The text is a positive whole amount. -/
def GoodAmount (amount_minor : String) : Prop := ∃ value, amountOf amount_minor = .ok value

theorem priced_ok_iff {quotes : List Quotation} :
    (∃ entries, priced quotes = .ok entries) ↔ ∀ quote ∈ quotes, GoodAmount quote.amount_minor := by
  induction quotes with
  | nil => simp [priced, pure, Except.pure]
  | cons quote quotes ih =>
    unfold priced at ih ⊢
    rw [List.mapM_cons, List.forall_mem_cons, ← ih]
    constructor
    · rintro ⟨entries, h⟩
      obtain ⟨first, hfirst, h⟩ := bind_ok.mp h
      obtain ⟨rest, hrest, -⟩ := bind_ok.mp h
      obtain ⟨amount, hamount, -⟩ := bind_ok.mp hfirst
      exact ⟨⟨amount, hamount⟩, rest, hrest⟩
    · rintro ⟨⟨amount, hamount⟩, rest, hrest⟩
      have hquote : quote.amount = .ok amount := hamount
      rw [hquote, ok_bind, hrest]
      exact ⟨_, rfl⟩

/-- The board of an RFQ can be ranked exactly when the amounts of its quotations
    are good. -/
theorem rankedOf_ok_iff {rfq_id : String} {sim : ProcurementSimulator} :
    (∃ ranked, rankedOf rfq_id sim = .ok ranked) ↔
      ∀ id quote, sim.quotations.get? id = some quote → quote.rfq_id = rfq_id →
        GoodAmount quote.amount_minor := by
  have hpriced : (∃ ranked, rankedOf rfq_id sim = .ok ranked) ↔
      ∃ entries, priced (sim.quotations.values.filter fun quote => quote.rfq_id = rfq_id) =
        .ok entries := by
    unfold rankedOf rankQuotations
    constructor
    · rintro ⟨ranked, h⟩
      obtain ⟨entries, hentries, -⟩ := bind_ok.mp h
      exact ⟨entries, hentries⟩
    · rintro ⟨entries, h⟩
      rw [h]
      exact ⟨_, rfl⟩
  rw [hpriced, priced_ok_iff]
  constructor
  · intro h id quote hget hrfq
    apply h
    rw [List.mem_filter]
    exact ⟨Table.mem_values.mpr ⟨id, hget⟩, by simpa using hrfq⟩
  · intro h quote hmem
    obtain ⟨hvalue, hrfq⟩ := List.mem_filter.mp hmem
    obtain ⟨id, hget⟩ := Table.mem_values.mp hvalue
    exact h id quote hget (by simpa using hrfq)

end CBrain.Purchasing

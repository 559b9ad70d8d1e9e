import CBrain.Company.RfqHistory

/-! # Awards and purchase orders

    Models what the procurement agent's money tools go through: validation
    (`_validate_procurement_money`, `cbrain/company/validation.py`) and the
    handlers that create a requisition, award a quotation and release a purchase
    order (`cbrain/company/handlers.py`).

    Validation compares the amounts of an award and of its quotation as numbers.
    A requisition keeps the quotation's text, and a release is compared with it
    as text. -/

namespace CBrain.Purchasing

open Json (Dict)
open Mutation (raising write read exec Reads)
open LegalHandlers (argumentText)

export ArgumentValidationResult (passed failed)

/-! ## Section 1: Validation -/

def PROCUREMENT_QUOTE_MISMATCH : String := "PROCUREMENT_QUOTE_MISMATCH"
def PROCUREMENT_QUOTE_MISSING : String := "PROCUREMENT_QUOTE_MISSING"
def PROCUREMENT_REQUISITION_MISSING : String := "PROCUREMENT_REQUISITION_MISSING"
def PROCUREMENT_VENDOR_UNREGISTERED : String := "PROCUREMENT_VENDOR_UNREGISTERED"

section validation
variable (action : ActionIntent) (amount : PyDecimal) (currency : String)
  (procurement : ProcurementSimulator)

/-- What `_validate_procurement_money` makes of a release. -/
def validateRelease : ArgumentValidationResult :=
  match action.arguments.get "pr_id" with
  | .str pr_id =>
    match procurement.requisitions.get? pr_id with
    | none => failed PROCUREMENT_REQUISITION_MISSING
    | some requisition =>
      if pyStr (requisition.get "amount_minor") ≠ amount.str ∨
          pyStr (requisition.get "currency") ≠ currency then
        failed PROCUREMENT_QUOTE_MISMATCH
      else passed
  | _ => failed PROCUREMENT_REQUISITION_MISSING

/-- What `create_purchase_requisition` needs of the quotation besides. -/
def validateRequisition (quote : Quotation) : ArgumentValidationResult :=
  if Json.pyEq (action.arguments.get "material_id") (.str quote.material_id) = false then
    failed PROCUREMENT_QUOTE_MISMATCH
  else
    match action.arguments.get "quantity" with
    | .int quantity => if quantity < 1 then failed PROCUREMENT_QUOTE_MISMATCH else passed
    | _ => failed PROCUREMENT_QUOTE_MISMATCH

/-- The quotation that the arguments name. -/
def namedQuotation : Option Quotation :=
  match action.arguments.get "rfq_id", action.arguments.get "quote_id" with
  | .str rfq_id, .str quote_id =>
    (procurement.quotations.get? quote_id).filter fun quote => quote.rfq_id = rfq_id
  | _, _ => none

/-- What `_validate_procurement_money` makes of a quotation. -/
def validateQuotation (quote : Quotation) : Raises ArgumentValidationResult :=
  if (procurement.vendors.get? quote.vendor_id).all fun vendor => !vendor.registered then
    .ok (failed PROCUREMENT_VENDOR_UNREGISTERED)
  else do
    let quoted ← quote.amount
    if quoted.equal amount = false ∨ quote.currency ≠ currency then
      pure (failed PROCUREMENT_QUOTE_MISMATCH)
    else if action.tool_name = "create_purchase_requisition" then
      pure (validateRequisition action quote)
    else pure passed

end validation

/-- `_validate_procurement_money`. -/
def validateProcurementMoney (action : ActionIntent) (procurement : ProcurementSimulator) :
    Raises ArgumentValidationResult :=
  match parseAmount (action.arguments.get "amount_minor") with
  | .error reason => .ok (failed reason)
  | .ok amount =>
    match action.arguments.get "currency" with
    | .str currency =>
      if currency ∉ SUPPORTED_CURRENCIES then .ok (failed ACCOUNTS_CURRENCY_UNSUPPORTED)
      else if action.tool_name = "release_purchase_order" then
        .ok (validateRelease action amount currency procurement)
      else
        match namedQuotation action procurement with
        | none => .ok (failed PROCUREMENT_QUOTE_MISSING)
        | some quote => validateQuotation action amount currency procurement quote
    | _ => .ok (failed ACCOUNTS_CURRENCY_UNSUPPORTED)

/-! ## Section 2: Handlers -/

/-- `f"pr-{quote.quote_id}"`. -/
def prId (quote_id : String) : String := "pr-" ++ quote_id

/-- `f"po-rel-{pr_id}"`. -/
def poId (pr_id : String) : String := "po-rel-" ++ pr_id

/-- `sim.quotations[quote_id]`. -/
def requiredQuotation (quote_id : String) : Mutation Exn ProcurementSimulator Quotation := do
  let quote ← read fun sim => sim.quotations.get? quote_id
  match quote with
  | none => raising (.error (Exn.parts .keyError [.repr (.str quote_id)]))
  | some quote => pure quote

/-- The ranked quotations of `_board`. -/
def ranking (rfq_id : String) : Mutation Exn ProcurementSimulator (List Quotation) := do
  let ranked ← read (rankedOf rfq_id)
  raising ranked

/-- `board["quote_board_digest"]`. -/
def boardDigest (ranked : List Quotation) : String :=
  quoteBoardDigest (object (quotationBoardPayload ranked))

/-- What every answer about a quotation says of it and of its board. -/
def quotationMembers (quote : Quotation) (ranked : List Quotation) : List (String × Value) :=
  [("pr_id", .str (prId quote.quote_id)), ("rfq_id", .str quote.rfq_id),
    ("quote_id", .str quote.quote_id), ("vendor_id", .str quote.vendor_id),
    ("amount_minor", .str quote.amount_minor), ("currency", .str quote.currency),
    ("quote_board_digest", .str (boardDigest ranked)),
    ("ranked_quote_ids", Simulators.texts (ranked.map Quotation.quote_id))]

/-- `show_quotations`. -/
def showQuotations (arguments : Dict) : Mutation Exn ProcurementSimulator Dict := do
  let rfq_id ← raising (argumentText arguments "rfq_id")
  let ranked ← ranking rfq_id
  return object (simulatedMarker ++ boardMembers rfq_id ranked)

/-- The arguments of `create_purchase_requisition` that its handler reads. -/
structure RequisitionArguments where
  quote_id : String
  quantity : Int
  deriving DecidableEq

/-- What `_simulate_create_purchase_requisition` answers and files. -/
def requisitionPayload (quantity : Int) (quote : Quotation) (ranked : List Quotation) : Dict :=
  object (simulatedMarker ++
    [("material_id", .str quote.material_id), ("quantity", ⟨.int quantity, .int _⟩)] ++
    quotationMembers quote ranked)

/-- `_simulate_create_purchase_requisition`. -/
def createPurchaseRequisition (arguments : RequisitionArguments) :
    Mutation Exn ProcurementSimulator Dict := do
  let quote ← requiredQuotation arguments.quote_id
  let ranked ← ranking quote.rfq_id
  write fun sim =>
    { sim with
      requisitions := sim.requisitions.set (prId quote.quote_id)
        (requisitionPayload arguments.quantity quote ranked) }
  return requisitionPayload arguments.quantity quote ranked

/-- What `_simulate_award_quote` answers. -/
def awardPayload (quote : Quotation) (ranked : List Quotation) : Dict :=
  object (simulatedMarker ++ quotationMembers quote ranked)

/-- The requisition of an award. -/
def awardRecord (quote : Quotation) (ranked : List Quotation) : Dict :=
  object
    [("pr_id", .str (prId quote.quote_id)), ("rfq_id", .str quote.rfq_id),
      ("quote_id", .str quote.quote_id), ("vendor_id", .str quote.vendor_id),
      ("material_id", .str quote.material_id), ("amount_minor", .str quote.amount_minor),
      ("currency", .str quote.currency), ("quote_board_digest", .str (boardDigest ranked)),
      ("awarded", .bool true)]

/-- `_simulate_award_quote`. -/
def awardQuote (arguments : Dict) : Mutation Exn ProcurementSimulator Dict := do
  let quote_id ← raising (argumentText arguments "quote_id")
  let quote ← requiredQuotation quote_id
  let ranked ← ranking quote.rfq_id
  write fun sim =>
    { sim with
      requisitions := sim.requisitions.set (prId quote.quote_id) (awardRecord quote ranked) }
  return awardPayload quote ranked

/-- `record[name]` as a value. -/
def memberValue (record : Dict) (name : String) : Raises Value :=
  match member record name with
  | .error e => .error e
  | .ok _ => .ok (Simulators.memberOf record name)

/-- `sim.requisitions[pr_id]`. -/
def requiredRequisition (pr_id : String) : Mutation Exn ProcurementSimulator Dict := do
  let requisition ← read fun sim => sim.requisitions.get? pr_id
  match requisition with
  | none => raising (.error (Exn.parts .keyError [.repr (.str pr_id)]))
  | some requisition => pure requisition

/-- What `_simulate_release_purchase_order` answers. -/
def releasePayload (pr_id rfq_id : String) (requisition : Dict) (ranked : List Quotation) :
    Raises Dict := do
  let quote_id ← argumentText requisition "quote_id"
  let vendor_id ← memberValue requisition "vendor_id"
  let amount_minor ← memberValue requisition "amount_minor"
  let currency ← memberValue requisition "currency"
  return object (simulatedMarker ++
    [("po_id", .str (poId pr_id)), ("pr_id", .str pr_id), ("rfq_id", .str rfq_id),
      ("quote_id", .str quote_id), ("vendor_id", vendor_id), ("amount_minor", amount_minor),
      ("currency", currency), ("quote_board_digest", .str (boardDigest ranked)),
      ("ranked_quote_ids", Simulators.texts (ranked.map Quotation.quote_id))])

/-- `_simulate_release_purchase_order`. -/
def releasePurchaseOrder (arguments : Dict) : Mutation Exn ProcurementSimulator Dict := do
  let pr_id ← raising (argumentText arguments "pr_id")
  let requisition ← requiredRequisition pr_id
  let rfq_id ← raising (argumentText requisition "rfq_id")
  let ranked ← ranking rfq_id
  let payload ← raising (releasePayload pr_id rfq_id requisition ranked)
  write fun sim => { sim with purchase_orders := sim.purchase_orders.set (poId pr_id) payload }
  return payload

end CBrain.Purchasing

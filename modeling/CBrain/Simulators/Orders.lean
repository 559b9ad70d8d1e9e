import CBrain.Simulators.Effects

/-! # The purchase-order simulator

    Models `OrderSimulator` (`cbrain/simulators/orders.py`).  The capabilities
    that change an order write its amounts as text after they have written the
    order: an order holds amounts in cents, so that this cannot fail.

    `Decimal(text)` is a parameter, as in the ledger. -/

namespace CBrain.Simulators

open Json (Dict)
open Mutation (raising write read exec Reads Atomic)

/-! ## Section 1: Orders -/

/-- The values of `PurchaseOrder.status`. -/
inductive OrderStatus where
  | opened
  | amended
  | cancelled
  deriving DecidableEq, Repr

/-- The text of the status. -/
def OrderStatus.text : OrderStatus → String
  | .opened => "OPEN"
  | .amended => "AMENDED"
  | .cancelled => "CANCELLED"

/-- The values of `SHIPMENT_STATUSES`. -/
inductive ShipmentStatus where
  | pending
  | dispatched
  | inTransit
  | delivered
  | delayed
  | shortDelivered
  deriving DecidableEq, Repr

/-- The text of the status. -/
def ShipmentStatus.text : ShipmentStatus → String
  | .pending => "PENDING"
  | .dispatched => "DISPATCHED"
  | .inTransit => "IN_TRANSIT"
  | .delivered => "DELIVERED"
  | .delayed => "DELAYED"
  | .shortDelivered => "SHORT_DELIVERED"

/-- `PurchaseOrder`, with amounts that `_positive_money` has returned. -/
structure PurchaseOrder where
  po_number : String
  vendor_id : String
  quote_id : String
  tonnes : PyDecimal
  rate_per_tonne : PyDecimal
  payment_terms : String
  comparison_digest : String
  status : OrderStatus
  created_at : String
  tonnes_cents : toCents tonnes = .ok tonnes
  rate_cents : toCents rate_per_tonne = .ok rate_per_tonne
  deriving DecidableEq

namespace PurchaseOrder

/-- `PurchaseOrder.to_payload`. -/
def payload (order : PurchaseOrder) : Raises Dict := do
  let tonnes ← moneyText order.tonnes
  let rate_per_tonne ← moneyText order.rate_per_tonne
  pure (object
    [("po_number", .str order.po_number), ("vendor_id", .str order.vendor_id),
      ("quote_id", .str order.quote_id), ("tonnes", .str tonnes),
      ("rate_per_tonne", .str rate_per_tonne), ("payment_terms", .str order.payment_terms),
      ("comparison_digest", .str order.comparison_digest), ("status", .str order.status.text),
      ("created_at", .str order.created_at)])

/-- The payload of an order can be written. -/
theorem payload_ok (order : PurchaseOrder) : ∃ d, order.payload = .ok d := by
  unfold payload
  rw [moneyText_cents order.tonnes_cents, moneyText_cents order.rate_cents]
  exact ⟨_, rfl⟩

theorem finite_payload {order : PurchaseOrder} {d : Dict} (h : order.payload = .ok d) :
    Json.finite d.json = true := by
  unfold payload at h
  simp only [bind_ok, pure_ok] at h
  obtain ⟨tonnes, -, rate_per_tonne, -, rfl⟩ := h
  apply finite_object
  simp

end PurchaseOrder

/-- `Shipment`. -/
structure Shipment where
  shipment_id : String
  po_number : String
  status : ShipmentStatus
  deriving DecidableEq

/-- `Shipment.to_payload`. -/
def Shipment.payload (shipment : Shipment) : Dict :=
  object
    [("shipment_id", .str shipment.shipment_id), ("po_number", .str shipment.po_number),
      ("status", .str shipment.status.text)]

/-- The tables of an `OrderSimulator`. -/
structure OrderTables where
  orders : Registry String PurchaseOrder PurchaseOrder.po_number
  shipments : Registry String Shipment Shipment.po_number
  deriving DecidableEq

namespace OrderSimulator

/-! ## Section 2: Capabilities -/

def PROCUREMENT_PO_CREATE : String := "procurement.po.create"
def PROCUREMENT_PO_READ : String := "procurement.po.read"
def PROCUREMENT_PO_AMEND : String := "procurement.po.amend"
def PROCUREMENT_PO_CANCEL : String := "procurement.po.cancel"
def PROCUREMENT_SHIPMENT_READ : String := "procurement.shipment.read"

def PAYMENT_TERMS : List String := ["ADVANCE", "NET_15", "NET_30", "NET_45", "LC_SIGHT"]

variable (decimalOf : String → Option PyDecimal) (clock : Raises String) (arguments : Dict)

/-- `_positive_money`. -/
def positiveMoney (value : Json) (path : String) : Raises PyDecimal :=
  positiveAmount decimalOf false value path

/-- The amounts of an order, as `_create` and `_amend` read them. -/
structure Amounts where
  tonnes : PyDecimal
  rate_per_tonne : PyDecimal
  tonnes_cents : toCents tonnes = .ok tonnes
  rate_cents : toCents rate_per_tonne = .ok rate_per_tonne

/-- `tonnes` and `rate_per_tonne` of the arguments. -/
def amounts : Raises Amounts :=
  match htonnes : positiveMoney decimalOf (arguments.get "tonnes") "arguments.tonnes" with
  | .error e => .error e
  | .ok tonnes =>
    match hrate : positiveMoney decimalOf (arguments.get "rate_per_tonne")
        "arguments.rate_per_tonne" with
    | .error e => .error e
    | .ok rate_per_tonne =>
      .ok ⟨tonnes, rate_per_tonne, toCents_positiveAmount htonnes, toCents_positiveAmount hrate⟩

/-- `_required_order`. -/
def requiredOrder (po_number : String) : Mutation Exn OrderTables PurchaseOrder := do
  let order ← read fun tables => tables.orders.get? po_number
  match order with
  | none => raising (.error (notFound "purchase order does not exist"))
  | some order => pure order

/-- `_create`. -/
def create : Mutation Exn OrderTables Dict := do
  raising (exactFields arguments
    ["vendor_id", "quote_id", "tonnes", "rate_per_tonne", "payment_terms", "comparison_digest"]
    "arguments")
  let payment_terms ← raising
    (requiredText (arguments.get "payment_terms") "arguments.payment_terms")
  raising (require (payment_terms ∈ PAYMENT_TERMS)
    (contractError "payment_terms are not supported"))
  let created_at ← raising clock
  let placed ← read fun tables => tables.orders.values.length
  let po_number := s!"PO-{created_at.take 4}-{fourDigits (placed + 1)}"
  let vendor_id ← raising (requiredText (arguments.get "vendor_id") "arguments.vendor_id")
  let quote_id ← raising (requiredText (arguments.get "quote_id") "arguments.quote_id")
  let amounts ← raising (amounts decimalOf arguments)
  let comparison_digest ← raising
    (requiredText (arguments.get "comparison_digest") "arguments.comparison_digest")
  let order : PurchaseOrder :=
    { po_number := po_number
      vendor_id := vendor_id
      quote_id := quote_id
      tonnes := amounts.tonnes
      rate_per_tonne := amounts.rate_per_tonne
      payment_terms := payment_terms
      comparison_digest := comparison_digest
      status := .opened
      created_at := created_at
      tonnes_cents := amounts.tonnes_cents
      rate_cents := amounts.rate_cents }
  write fun tables =>
    { orders := tables.orders.put order
      shipments := tables.shipments.put ⟨s!"shp-{po_number}", po_number, .pending⟩ }
  raising order.payload

/-- `_read`. -/
def readOrder : Mutation Exn OrderTables Dict := do
  raising (exactFields arguments ["po_number"] "arguments")
  let po_number ← raising (requiredText (arguments.get "po_number") "arguments.po_number")
  let order ← requiredOrder po_number
  raising order.payload

/-- `_amend`. -/
def amend : Mutation Exn OrderTables Dict := do
  raising (exactFields arguments ["po_number", "tonnes", "rate_per_tonne"] "arguments")
  let po_number ← raising (requiredText (arguments.get "po_number") "arguments.po_number")
  let order ← requiredOrder po_number
  raising (require (order.status ≠ .cancelled)
    (businessError "cancelled purchase orders cannot be amended"))
  let amounts ← raising (amounts decimalOf arguments)
  let updated : PurchaseOrder :=
    { order with
      tonnes := amounts.tonnes
      rate_per_tonne := amounts.rate_per_tonne
      status := .amended
      tonnes_cents := amounts.tonnes_cents
      rate_cents := amounts.rate_cents }
  write fun tables => { tables with orders := tables.orders.put updated }
  raising updated.payload

/-- `_cancel`. -/
def cancel : Mutation Exn OrderTables Dict := do
  raising (exactFields arguments ["po_number"] "arguments")
  let po_number ← raising (requiredText (arguments.get "po_number") "arguments.po_number")
  let order ← requiredOrder po_number
  raising (require (order.status ≠ .cancelled)
    (businessError "purchase order is already cancelled"))
  let shipment ← read fun tables => tables.shipments.get? order.po_number
  let shipment ← raising
    (match shipment with
      | none => .error (Exn.parts .keyError [.repr (.str order.po_number)])
      | some shipment => .ok shipment)
  raising (require (shipment.status ≠ .delivered)
    (businessError "delivered purchase orders cannot be cancelled"))
  let cancelled : PurchaseOrder := { order with status := .cancelled }
  write fun tables => { tables with orders := tables.orders.put cancelled }
  raising cancelled.payload

/-- `_read_shipment`. -/
def readShipment : Mutation Exn OrderTables Dict := do
  raising (exactFields arguments ["po_number"] "arguments")
  let po_number ← raising (requiredText (arguments.get "po_number") "arguments.po_number")
  let shipment ← read fun tables => tables.shipments.get? po_number
  match shipment with
  | none => raising (.error (notFound "shipment does not exist"))
  | some shipment => pure shipment.payload

/-- `_apply`. -/
def apply (capability : String) : Mutation Exn OrderTables (Dict × Bool) :=
  if capability = PROCUREMENT_PO_CREATE then do
    let result ← create decimalOf clock arguments
    pure (result, true)
  else if capability = PROCUREMENT_PO_READ then do
    let result ← readOrder arguments
    pure (result, false)
  else if capability = PROCUREMENT_PO_AMEND then do
    let result ← amend decimalOf arguments
    pure (result, true)
  else if capability = PROCUREMENT_PO_CANCEL then do
    let result ← cancel arguments
    pure (result, true)
  else if capability = PROCUREMENT_SHIPMENT_READ then do
    let result ← readShipment arguments
    pure (result, false)
  else raising (.error (contractError "unknown order capability"))

/-- `OrderSimulator`. -/
def target : Target OrderTables where
  domain := "procurement"
  capabilities :=
    [PROCUREMENT_PO_CREATE, PROCUREMENT_PO_READ, PROCUREMENT_PO_AMEND, PROCUREMENT_PO_CANCEL,
      PROCUREMENT_SHIPMENT_READ]
  unknown := contractError "unknown order capability"
  apply clock capability arguments := apply decimalOf clock arguments capability

/-! ## Section 3: A failure leaves the tables -/

section atomicity
variable {decimalOf : String → Option PyDecimal} {clock : Raises String} {arguments : Dict}

theorem reads_requiredOrder (po_number : String) : Reads (requiredOrder po_number) := by
  apply (Mutation.reads_read _).bind
  intro order
  cases order with
  | none => exact Mutation.reads_raising _
  | some order => exact Mutation.reads_pure _

/-- What was written before the payload stays, as the payload does not fail. -/
theorem write_payload_atomic (f : OrderTables → OrderTables) (order : PurchaseOrder) :
    Atomic (write f >>= fun _ => raising order.payload) := by
  intro tables e he
  obtain ⟨d, hd⟩ := order.payload_ok
  rw [hd] at he
  cases he

theorem create_atomic : Atomic (create decimalOf clock arguments) := by
  apply (Mutation.reads_raising _).bind_atomic
  intro _
  apply (Mutation.reads_raising _).bind_atomic
  intro payment_terms
  apply (Mutation.reads_raising _).bind_atomic
  intro _
  apply (Mutation.reads_raising _).bind_atomic
  intro created_at
  apply (Mutation.reads_read _).bind_atomic
  intro placed
  apply (Mutation.reads_raising _).bind_atomic
  intro vendor_id
  apply (Mutation.reads_raising _).bind_atomic
  intro quote_id
  apply (Mutation.reads_raising _).bind_atomic
  intro amounts
  apply (Mutation.reads_raising _).bind_atomic
  intro comparison_digest
  exact write_payload_atomic _ _

theorem reads_readOrder : Reads (readOrder arguments) := by
  apply (Mutation.reads_raising _).bind
  intro _
  apply (Mutation.reads_raising _).bind
  intro po_number
  apply (reads_requiredOrder po_number).bind
  intro order
  exact Mutation.reads_raising _

theorem amend_atomic : Atomic (amend decimalOf arguments) := by
  apply (Mutation.reads_raising _).bind_atomic
  intro _
  apply (Mutation.reads_raising _).bind_atomic
  intro po_number
  apply (reads_requiredOrder po_number).bind_atomic
  intro order
  apply (Mutation.reads_raising _).bind_atomic
  intro _
  apply (Mutation.reads_raising _).bind_atomic
  intro amounts
  exact write_payload_atomic _ _

theorem cancel_atomic : Atomic (cancel arguments) := by
  apply (Mutation.reads_raising _).bind_atomic
  intro _
  apply (Mutation.reads_raising _).bind_atomic
  intro po_number
  apply (reads_requiredOrder po_number).bind_atomic
  intro order
  apply (Mutation.reads_raising _).bind_atomic
  intro _
  apply (Mutation.reads_read _).bind_atomic
  intro found
  apply (Mutation.reads_raising _).bind_atomic
  intro shipment
  apply (Mutation.reads_raising _).bind_atomic
  intro _
  exact write_payload_atomic _ _

theorem reads_readShipment : Reads (readShipment arguments) := by
  apply (Mutation.reads_raising _).bind
  intro _
  apply (Mutation.reads_raising _).bind
  intro po_number
  apply (Mutation.reads_read _).bind
  intro shipment
  cases shipment with
  | none => exact Mutation.reads_raising _
  | some shipment => exact Mutation.reads_pure _

/-- Every capability is applied whole. -/
theorem apply_atomic {capability : String} :
    Atomic (apply decimalOf clock arguments capability) := by
  unfold apply
  split
  · exact Mutation.atomic_bind_pure create_atomic
  split
  · exact Mutation.atomic_bind_pure reads_readOrder.atomic
  split
  · exact Mutation.atomic_bind_pure amend_atomic
  split
  · exact Mutation.atomic_bind_pure cancel_atomic
  split
  · exact Mutation.atomic_bind_pure reads_readShipment.atomic
  · exact (Mutation.reads_raising _).atomic

end atomicity

/-! ## Section 4: Results -/

section results
variable {decimalOf : String → Option PyDecimal} {clock : Raises String} {arguments : Dict}

theorem finite_raising_payload (order : PurchaseOrder) :
    FiniteResult (S := OrderTables) (raising order.payload) :=
  Mutation.yields_raising fun _ h => PurchaseOrder.finite_payload h

theorem finite_create : FiniteResult (create decimalOf clock arguments) := by
  iterate 10
    apply Mutation.yields_bind
    intro _
  exact finite_raising_payload _

theorem finite_readOrder : FiniteResult (readOrder arguments) := by
  iterate 3
    apply Mutation.yields_bind
    intro _
  exact finite_raising_payload _

theorem finite_amend : FiniteResult (amend decimalOf arguments) := by
  iterate 6
    apply Mutation.yields_bind
    intro _
  exact finite_raising_payload _

theorem finite_cancel : FiniteResult (cancel arguments) := by
  iterate 8
    apply Mutation.yields_bind
    intro _
  exact finite_raising_payload _

theorem finite_readShipment : FiniteResult (readShipment arguments) := by
  iterate 2
    apply Mutation.yields_bind
    intro _
  apply Mutation.yields_bind
  intro shipment
  cases shipment with
  | none => exact Mutation.yields_raising fun _ h => nomatch h
  | some shipment =>
    apply Mutation.yields_pure
    apply finite_object
    simp

theorem finite_apply {capability : String} :
    Mutation.Yields (fun answer => Json.finite answer.1.json = true)
      (apply decimalOf clock arguments capability) := by
  unfold apply
  split
  · exact FiniteResult.answer true finite_create
  split
  · exact FiniteResult.answer false finite_readOrder
  split
  · exact FiniteResult.answer true finite_amend
  split
  · exact FiniteResult.answer true finite_cancel
  split
  · exact FiniteResult.answer false finite_readShipment
  · exact Mutation.yields_raising fun _ h => nomatch h

theorem sound : (target decimalOf).Sound where
  domain := show nonBlank "procurement" = true by decide
  unknown := rfl
  finite h := finite_apply _ _ h

end results

end OrderSimulator

end CBrain.Simulators

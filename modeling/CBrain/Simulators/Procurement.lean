import CBrain.Simulators.Effects

/-! # The procurement simulator

    Models `ProcurementSimulator` (`cbrain/simulators/procurement.py`).  A quote
    is written as text for its digest before it is stored, so writing it again
    for the result cannot fail.

    `Decimal(text)`, `strptime` and `strftime` are parameters. -/

namespace CBrain.Simulators

open Json (Dict)
open Mutation (raising write read exec Reads Atomic)

/-! ## Section 1: Vendors and quotes -/

/-- `_decimal_text`. -/
def decimalText (value : PyDecimal) : String := value.text

/-- `ReliabilityRecord`. -/
structure ReliabilityRecord where
  orders_total : Int
  on_time_pct : PyDecimal
  short_delivery_pct : PyDecimal
  quality_rejection_pct : PyDecimal
  avg_delay_days : PyDecimal
  last_dispute_at : Option String
  deriving DecidableEq

/-- `ReliabilityRecord.to_payload`. -/
def ReliabilityRecord.payload (record : ReliabilityRecord) (vendor_id : String) : Dict :=
  object
    [("vendor_id", .str vendor_id),
      ("orders_total", ⟨.int record.orders_total, Json.WF.int _⟩),
      ("on_time_pct", .str (decimalText record.on_time_pct)),
      ("short_delivery_pct", .str (decimalText record.short_delivery_pct)),
      ("quality_rejection_pct", .str (decimalText record.quality_rejection_pct)),
      ("avg_delay_days", .str (decimalText record.avg_delay_days)),
      ("last_dispute_at", .optText record.last_dispute_at)]

/-- `Vendor`. -/
structure Vendor where
  vendor_id : String
  legal_name : String
  gstin : String
  origin_city : String
  approved : Bool
  onboarded_at : String
  bank_beneficiary_id : Option String
  moq_tonnes : PyDecimal
  freight_per_tonne : PyDecimal
  rates : Table String PyDecimal
  reliability : ReliabilityRecord
  deriving DecidableEq

/-- `Vendor.public_payload`. -/
def Vendor.publicPayload (vendor : Vendor) : Dict :=
  object
    [("vendor_id", .str vendor.vendor_id), ("legal_name", .str vendor.legal_name),
      ("gstin", .str vendor.gstin), ("origin_city", .str vendor.origin_city),
      ("approved", ⟨.bool vendor.approved, Json.WF.bool _⟩),
      ("onboarded_at", .str vendor.onboarded_at),
      ("bank_beneficiary_id", .optText vendor.bank_beneficiary_id)]

/-- `Quote`. -/
structure Quote where
  quote_id : String
  vendor_id : String
  grade : String
  tonnes : PyDecimal
  rate_per_tonne : PyDecimal
  freight_per_tonne : PyDecimal
  gst_rate : PyDecimal
  payment_terms : String
  quoted_at : String
  valid_until : String
  quote_digest : String
  deriving DecidableEq

/-- `Quote.to_payload`. -/
def Quote.payload (quote : Quote) (now : String) : Raises Dict := do
  let tonnes ← moneyText quote.tonnes
  let rate_per_tonne ← moneyText quote.rate_per_tonne
  let freight_per_tonne ← moneyText quote.freight_per_tonne
  pure (object
    [("quote_id", .str quote.quote_id), ("vendor_id", .str quote.vendor_id),
      ("grade", .str quote.grade), ("tonnes", .str tonnes),
      ("rate_per_tonne", .str rate_per_tonne), ("freight_per_tonne", .str freight_per_tonne),
      ("gst_rate", .str (decimalText quote.gst_rate)),
      ("payment_terms", .str quote.payment_terms), ("quoted_at", .str quote.quoted_at),
      ("valid_until", .str quote.valid_until), ("quote_digest", .str quote.quote_digest),
      ("status", .str (if quote.valid_until < now then "EXPIRED" else "OPEN"))])

theorem Quote.finite_payload {quote : Quote} {now : String} {d : Dict}
    (h : quote.payload now = .ok d) : Json.finite d.json = true := by
  unfold Quote.payload at h
  simp only [bind_ok, pure_ok] at h
  obtain ⟨tonnes, -, rate_per_tonne, -, freight_per_tonne, -, rfl⟩ := h
  apply finite_object
  simp

/-- The tables of a `ProcurementSimulator`. -/
structure ProcurementTables where
  vendors : Registry String Vendor Vendor.vendor_id
  quotes : Registry String Quote Quote.quote_id
  deriving DecidableEq

/-- What a `ProcurementSimulator` is constructed with, apart from its vendors. -/
structure ProcurementTerms where
  gst_rate : PyDecimal
  quote_validity_hours : Nat
  quote_validity_pos : 0 < quote_validity_hours

/-- `strptime` and `strftime` with the format of the clock.  A moment is a
    number of seconds. -/
structure Calendar where
  parse : String → Option Int
  print : Int → Raises String

namespace ProcurementSimulator

/-! ## Section 2: Checks -/

def PROCUREMENT_VENDOR_LIST : String := "procurement.vendor.list"
def PROCUREMENT_VENDOR_RELIABILITY_READ : String := "procurement.vendor.reliability.read"
def PROCUREMENT_QUOTE_REQUEST : String := "procurement.quote.request"
def PROCUREMENT_QUOTE_READ : String := "procurement.quote.read"

def GRADES : List String := ["Fe500D", "Fe550D", "HRC"]
def PAYMENT_TERMS : List String := ["ADVANCE", "NET_15", "NET_30", "NET_45", "LC_SIGHT"]

variable (decimalOf : String → Option PyDecimal) (calendar : Calendar) (terms : ProcurementTerms)
  (clock : Raises String) (arguments : Dict)

/-- `_decimal_amount`. -/
def decimalAmount (value : Json) (path : String) (places : Nat) : Raises PyDecimal :=
  match decimalAmount? decimalOf false value with
  | none => .error (contractError s!"{path} must be a decimal amount")
  | some amount => do
    require (amount.isFinite = true ∧ hasPlaces places amount = true)
      (contractError s!"{path} must be a finite decimal with at most {places} decimal places")
    match amount.quantize (-places) with
    | none => .error invalidOperation
    | some amount => .ok amount

/-- `_positive_money`. -/
def positiveMoney (value : Json) (path : String) : Raises PyDecimal := do
  let amount ← decimalAmount decimalOf value path 2
  require ((PyDecimal.ofInt 0).lt? amount = some true)
    (contractError s!"{path} must be a positive decimal amount")
  pure amount

/-- `_parse_clock`. -/
def parseClock (stamp : String) : Raises Int := do
  require (nonBlank stamp = true) (contractError "clock must return UTC Zulu text")
  match calendar.parse stamp with
  | none => .error (contractError "clock must return UTC Zulu text")
  | some moment => .ok moment

/-- `_add_hours`. -/
def addHours (stamp : String) (hours : Nat) : Raises String := do
  let moment ← parseClock calendar stamp
  calendar.print (moment + 3600 * hours)

/-- `_now`. -/
def now : Raises String := do
  let stamp ← clock
  let _ ← parseClock calendar stamp
  pure stamp

/-- `_required_vendor`. -/
def requiredVendor (vendor_id : String) : Mutation Exn ProcurementTables Vendor := do
  let vendor ← read fun tables => tables.vendors.get? vendor_id
  match vendor with
  | none => raising (.error (notFound "vendor does not exist"))
  | some vendor => pure vendor

/-! ## Section 3: Capabilities -/

/-- `_list_vendors`. -/
def listVendors : Mutation Exn ProcurementTables Dict := do
  raising (exactFields arguments [] "arguments")
  let vendors ← read fun tables => (sortedValues tables.vendors).map Vendor.publicPayload
  pure (object [("vendors", .dicts vendors)])

/-- `_reliability`. -/
def reliability : Mutation Exn ProcurementTables Dict := do
  raising (exactFields arguments ["vendor_id"] "arguments")
  let vendor_id ← raising (requiredText (arguments.get "vendor_id") "arguments.vendor_id")
  let vendor ← requiredVendor vendor_id
  pure (vendor.reliability.payload vendor.vendor_id)

/-- The quote for a number of tonnes, with its digest. -/
def quoteFor (vendor : Vendor) (grade payment_terms quote_id quoted_at valid_until : String)
    (rate tonnes : PyDecimal) : Raises Quote := do
  let freight_text ← moneyText vendor.freight_per_tonne
  let rate_text ← moneyText rate
  let tonnes_text ← moneyText tonnes
  let digest_material := object
    [("freight_per_tonne", .str freight_text), ("grade", .str grade),
      ("gst_rate", .str (decimalText terms.gst_rate)), ("payment_terms", .str payment_terms),
      ("quote_id", .str quote_id), ("quoted_at", .str quoted_at),
      ("rate_per_tonne", .str rate_text), ("tonnes", .str tonnes_text),
      ("valid_until", .str valid_until), ("vendor_id", .str vendor.vendor_id)]
  let digest_bytes ← canonicalObject digest_material "quote"
  pure
    { quote_id := quote_id
      vendor_id := vendor.vendor_id
      grade := grade
      tonnes := tonnes
      rate_per_tonne := rate
      freight_per_tonne := vendor.freight_per_tonne
      gst_rate := terms.gst_rate
      payment_terms := payment_terms
      quoted_at := quoted_at
      valid_until := valid_until
      quote_digest := sha256Digest digest_bytes }

/-- `_request_quote`. -/
def requestQuote : Mutation Exn ProcurementTables Dict := do
  raising (exactFields arguments ["vendor_id", "grade", "tonnes", "payment_terms"] "arguments")
  let vendor_id ← raising (requiredText (arguments.get "vendor_id") "arguments.vendor_id")
  let vendor ← requiredVendor vendor_id
  let grade ← raising (requiredText (arguments.get "grade") "arguments.grade")
  raising (require (grade ∈ GRADES) (contractError "grade is not supported"))
  let rate ← raising
    (match vendor.rates.get? grade with
      | none => .error (contractError "grade is not quoted by vendor")
      | some rate => .ok rate)
  let payment_terms ← raising
    (requiredText (arguments.get "payment_terms") "arguments.payment_terms")
  raising (require (payment_terms ∈ PAYMENT_TERMS)
    (contractError "payment_terms are not supported"))
  let tonnes ← raising (positiveMoney decimalOf (arguments.get "tonnes") "arguments.tonnes")
  raising (require (tonnes.lt? vendor.moq_tonnes ≠ none) invalidOperation)
  raising (require (tonnes.lt? vendor.moq_tonnes = some false)
    (businessError "tonnage is below vendor MOQ"))
  let quoted_at ← raising (now calendar clock)
  let valid_until ← raising (addHours calendar quoted_at terms.quote_validity_hours)
  let quoted ← read fun tables => tables.quotes.values.length
  let quote_id := s!"quote-{fourDigits (quoted + 1)}"
  let quote ← raising
    (quoteFor terms vendor grade payment_terms quote_id quoted_at valid_until rate tonnes)
  write fun tables => { tables with quotes := tables.quotes.put quote }
  raising (quote.payload quoted_at)

/-- `_read_quote`. -/
def readQuote : Mutation Exn ProcurementTables Dict := do
  raising (exactFields arguments ["quote_id"] "arguments")
  let quote_id ← raising (requiredText (arguments.get "quote_id") "arguments.quote_id")
  let quote ← read fun tables => tables.quotes.get? quote_id
  match quote with
  | none => raising (.error (notFound "quote does not exist"))
  | some quote => do
    let now ← raising (now calendar clock)
    raising (quote.payload now)

/-- `_apply`. -/
def apply (capability : String) : Mutation Exn ProcurementTables (Dict × Bool) :=
  if capability = PROCUREMENT_VENDOR_LIST then do
    let result ← listVendors arguments
    pure (result, false)
  else if capability = PROCUREMENT_VENDOR_RELIABILITY_READ then do
    let result ← reliability arguments
    pure (result, false)
  else if capability = PROCUREMENT_QUOTE_REQUEST then do
    let result ← requestQuote decimalOf calendar terms clock arguments
    pure (result, true)
  else if capability = PROCUREMENT_QUOTE_READ then do
    let result ← readQuote calendar clock arguments
    pure (result, false)
  else raising (.error (contractError "unknown procurement capability"))

/-- `ProcurementSimulator`. -/
def target : Target ProcurementTables where
  domain := "procurement"
  capabilities :=
    [PROCUREMENT_VENDOR_LIST, PROCUREMENT_VENDOR_RELIABILITY_READ, PROCUREMENT_QUOTE_REQUEST,
      PROCUREMENT_QUOTE_READ]
  unknown := contractError "unknown procurement capability"
  apply clock capability arguments := apply decimalOf calendar terms clock arguments capability

/-! ## Section 4: A failure leaves the tables -/

section atomicity
variable {decimalOf : String → Option PyDecimal} {calendar : Calendar} {terms : ProcurementTerms}
  {clock : Raises String} {arguments : Dict}

/-- A quote whose digest was computed can be written. -/
theorem payload_quoteFor {vendor : Vendor}
    {grade payment_terms quote_id quoted_at valid_until : String} {rate tonnes : PyDecimal}
    {quote : Quote}
    (h : quoteFor terms vendor grade payment_terms quote_id quoted_at valid_until rate tonnes =
      .ok quote) (now : String) : ∃ d, quote.payload now = .ok d := by
  unfold quoteFor at h
  simp only [bind_ok, pure_ok] at h
  obtain ⟨freight_text, hfreight, rate_text, hrate, tonnes_text, htonnes, -, -, rfl⟩ := h
  unfold Quote.payload
  rw [htonnes, hrate, hfreight]
  exact ⟨_, rfl⟩

theorem reads_listVendors : Reads (listVendors arguments) := by
  apply (Mutation.reads_raising _).bind
  intro _
  apply (Mutation.reads_read _).bind
  intro vendors
  exact Mutation.reads_pure _

theorem reads_requiredVendor (vendor_id : String) : Reads (requiredVendor vendor_id) := by
  apply (Mutation.reads_read _).bind
  intro vendor
  cases vendor with
  | none => exact Mutation.reads_raising _
  | some vendor => exact Mutation.reads_pure _

theorem reads_reliability : Reads (reliability arguments) := by
  apply (Mutation.reads_raising _).bind
  intro _
  apply (Mutation.reads_raising _).bind
  intro vendor_id
  apply (reads_requiredVendor vendor_id).bind
  intro vendor
  exact Mutation.reads_pure _

theorem requestQuote_atomic : Atomic (requestQuote decimalOf calendar terms clock arguments) := by
  apply (Mutation.reads_raising _).bind_atomic
  intro _
  apply (Mutation.reads_raising _).bind_atomic
  intro vendor_id
  apply (reads_requiredVendor vendor_id).bind_atomic
  intro vendor
  apply (Mutation.reads_raising _).bind_atomic
  intro grade
  apply (Mutation.reads_raising _).bind_atomic
  intro _
  apply (Mutation.reads_raising _).bind_atomic
  intro rate
  apply (Mutation.reads_raising _).bind_atomic
  intro payment_terms
  apply (Mutation.reads_raising _).bind_atomic
  intro _
  apply (Mutation.reads_raising _).bind_atomic
  intro tonnes
  apply (Mutation.reads_raising _).bind_atomic
  intro _
  apply (Mutation.reads_raising _).bind_atomic
  intro _
  apply (Mutation.reads_raising _).bind_atomic
  intro quoted_at
  apply (Mutation.reads_raising _).bind_atomic
  intro valid_until
  apply (Mutation.reads_read _).bind_atomic
  intro quoted
  apply Mutation.raising_bind_atomic
  intro quote hquote tables e he
  obtain ⟨d, hd⟩ := payload_quoteFor hquote quoted_at
  rw [hd] at he
  cases he

theorem reads_readQuote : Reads (readQuote calendar clock arguments) := by
  apply (Mutation.reads_raising _).bind
  intro _
  apply (Mutation.reads_raising _).bind
  intro quote_id
  apply (Mutation.reads_read _).bind
  intro quote
  cases quote with
  | none => exact Mutation.reads_raising _
  | some quote =>
    apply (Mutation.reads_raising _).bind
    intro now
    exact Mutation.reads_raising _

/-- Every capability is applied whole. -/
theorem apply_atomic {capability : String} :
    Atomic (apply decimalOf calendar terms clock arguments capability) := by
  unfold apply
  split
  · exact Mutation.atomic_bind_pure reads_listVendors.atomic
  split
  · exact Mutation.atomic_bind_pure reads_reliability.atomic
  split
  · exact Mutation.atomic_bind_pure requestQuote_atomic
  split
  · exact Mutation.atomic_bind_pure reads_readQuote.atomic
  · exact (Mutation.reads_raising _).atomic

end atomicity

/-! ## Section 5: Results -/

section results
variable {decimalOf : String → Option PyDecimal} {calendar : Calendar} {terms : ProcurementTerms}
  {clock : Raises String} {arguments : Dict}

theorem finite_listVendors : FiniteResult (listVendors arguments) := by
  apply Mutation.yields_bind
  intro _
  have hread : Mutation.Yields (fun rows : List Dict => ∀ row ∈ rows, Json.finite row.json = true)
      (read (ε := Exn) fun tables : ProcurementTables =>
        (sortedValues tables.vendors).map Vendor.publicPayload) := by
    intro tables rows hrows row hrow
    obtain rfl := Except.ok.inj hrows
    obtain ⟨vendor, -, rfl⟩ := List.mem_map.mp hrow
    apply finite_object
    simp [Json.finite]
  refine hread.bind fun vendors hvendors => ?_
  apply Mutation.yields_pure
  apply finite_object
  simp [finite_dicts hvendors]

theorem finite_reliability : FiniteResult (reliability arguments) := by
  iterate 3
    apply Mutation.yields_bind
    intro _
  apply Mutation.yields_pure
  apply finite_object
  simp [Json.finite]

theorem finite_requestQuote :
    FiniteResult (requestQuote decimalOf calendar terms clock arguments) := by
  iterate 16
    apply Mutation.yields_bind
    intro _
  exact Mutation.yields_raising fun _ h => Quote.finite_payload h

theorem finite_readQuote : FiniteResult (readQuote calendar clock arguments) := by
  iterate 2
    apply Mutation.yields_bind
    intro _
  apply Mutation.yields_bind
  intro quote
  cases quote with
  | none => exact Mutation.yields_raising fun _ h => nomatch h
  | some quote =>
    apply Mutation.yields_bind
    intro now
    exact Mutation.yields_raising fun _ h => Quote.finite_payload h

theorem finite_apply {capability : String} :
    Mutation.Yields (fun answer => Json.finite answer.1.json = true)
      (apply decimalOf calendar terms clock arguments capability) := by
  unfold apply
  split
  · exact FiniteResult.answer false finite_listVendors
  split
  · exact FiniteResult.answer false finite_reliability
  split
  · exact FiniteResult.answer true finite_requestQuote
  split
  · exact FiniteResult.answer false finite_readQuote
  · exact Mutation.yields_raising fun _ h => nomatch h

theorem sound : (target decimalOf calendar terms).Sound where
  domain := show nonBlank "procurement" = true by decide
  unknown := rfl
  finite h := finite_apply _ _ h

end results

end ProcurementSimulator

end CBrain.Simulators

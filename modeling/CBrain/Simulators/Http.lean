import CBrain.Simulators.Contracts

/-! # Simulators behind a wire

    Models `SimulatorApplication` of `cbrain/simulators/http.py` and the request
    bytes that it takes.

    A simulator is whatever executes a request.  The credential verifier and the
    decoding of the encodings that `json.loads` detects besides UTF-8 are
    parameters. -/

namespace CBrain.Simulators

open Json (Dict)
open Mutation (raising exec)

/-! ## Section 1: Text of a request -/

/-- The encodings that `json.detect_encoding` tells apart. -/
inductive TextEncoding where
  | utf8
  | utf8Sig
  | utf16
  | utf16Be
  | utf16Le
  | utf32
  | utf32Be
  | utf32Le
  deriving DecidableEq, Repr

/-- `json.detect_encoding`. -/
def detectEncoding (b : List UInt8) : TextEncoding :=
  if [0x00, 0x00, 0xfe, 0xff].isPrefixOf b || [0xff, 0xfe, 0x00, 0x00].isPrefixOf b then .utf32
  else if [0xfe, 0xff].isPrefixOf b || [0xff, 0xfe].isPrefixOf b then .utf16
  else if [0xef, 0xbb, 0xbf].isPrefixOf b then .utf8Sig
  else
    match b with
    | b0 :: b1 :: b2 :: b3 :: _ =>
      if b0 = 0 then if b1 ≠ 0 then .utf16Be else .utf32Be
      else if b1 = 0 then if b2 ≠ 0 ∨ b3 ≠ 0 then .utf16Le else .utf32Le
      else .utf8
    | [b0, b1] => if b0 = 0 then .utf16Be else if b1 = 0 then .utf16Le else .utf8
    | _ => .utf8

/-- How bytes in an encoding other than UTF-8 are decoded. -/
abbrev WideDecoder : Type := TextEncoding → ByteArray → Option (List Char)

variable (decodeWide : WideDecoder)

/-- `b.decode(detect_encoding(b))`. -/
def decodeText (b : ByteArray) : Option (List Char) :=
  match detectEncoding b.data.toList with
  | .utf8 => (String.fromUTF8? b).map String.toList
  | .utf8Sig => (String.fromUTF8? (b.extract 3 b.size)).map String.toList
  | encoding => decodeWide encoding b

/-- `json.loads` of bytes. -/
def loadsWire (b : ByteArray) : Raises Value :=
  match decodeText decodeWide b with
  | none => .error (Exn.of .unicodeDecodeError "")
  | some text =>
    match h : Json.loads text with
    | none => .error (Exn.of .jsonDecodeError "")
    | some payload => .ok ⟨payload, Json.wf_loads h⟩

/-- A value that is an object. -/
def asDict (e : Exn) : Value → Raises Dict
  | ⟨.obj ms, h⟩ => .ok ⟨ms, h⟩
  | _ => .error e

/-- `SIMULATOR_REQUEST_SCHEMA`. -/
def SIMULATOR_REQUEST_SCHEMA : String := "cbrain-simulator-request/v1"

/-- `SIMULATOR_EFFECT_SCHEMA`. -/
def SIMULATOR_EFFECT_SCHEMA : String := "cbrain-simulator-effect/v1"

/-- What `encode_simulator_request` writes. -/
def requestPayload (request_id idempotency_key : String) (arguments : Dict) : Dict :=
  object
    [("schema", .str SIMULATOR_REQUEST_SCHEMA), ("request_id", .str request_id),
      ("idempotency_key", .str idempotency_key), ("arguments", .dict arguments)]

/-- `encode_simulator_request`. -/
def encodeSimulatorRequest (request_id idempotency_key : String) (arguments : Dict) :
    Raises ByteArray := do
  let request_id ← requiredText (.str request_id) "request_id"
  let idempotency_key ← requiredText (.str idempotency_key) "idempotency_key"
  canonicalObject (requestPayload request_id idempotency_key arguments) "simulator request"

/-- `_decode_request`. -/
def decodeRequest (wire_bytes : ByteArray) : Raises Dict := do
  require (wire_bytes.size ≠ 0) (contractError "wire_bytes must be non-empty bytes")
  let payload ← loadsWire decodeWide wire_bytes
  let payload ← asDict (contractError "simulator request must be a JSON object") payload
  exactFields payload ["schema", "request_id", "idempotency_key", "arguments"] "simulator request"
  require (Json.pyEq (payload.get "schema") (.str SIMULATOR_REQUEST_SCHEMA) = true)
    (contractError "simulator request schema is invalid")
  return payload

/-! ## Section 2: The application -/

/-- `SIMULATOR_OPERATIONS`. -/
def SIMULATOR_OPERATIONS : List (String × String) :=
  [("POST /v1/crm/contacts/read", "crm.contact.read"),
    ("POST /v1/crm/contacts/merge", "crm.contact.merge"),
    ("POST /v1/crm/emails/send", "crm.email.send"),
    ("POST /v1/crm/contacts/export", "crm.export.contacts"),
    ("POST /v1/payments/balances/read", "payments.balance.read"),
    ("POST /v1/payments/limits/read", "payments.limit.read"),
    ("POST /v1/payments/limits/modify", "payments.limit.modify"),
    ("POST /v1/payments/beneficiaries/add", "payments.beneficiary.add"),
    ("POST /v1/payments/transfers/initiate", "payments.transfer.initiate"),
    ("POST /v1/procurement/po/create", "procurement.po.create"),
    ("POST /v1/procurement/po/read", "procurement.po.read"),
    ("POST /v1/procurement/po/amend", "procurement.po.amend"),
    ("POST /v1/procurement/po/cancel", "procurement.po.cancel"),
    ("POST /v1/procurement/shipments/read", "procurement.shipment.read"),
    ("POST /v1/procurement/mail/send", "procurement.mail.send")]

/-- `ExecutableSimulator`. -/
structure ExecutableSimulator (S : Type) where
  domain : String
  execute : Request → Mutation Exn S EffectReceipt

/-- A simulator at a time. -/
def Target.executable {S : Type} (target : Target S) (clock : Raises String) :
    ExecutableSimulator (Simulator S) := ⟨target.domain, target.execute clock⟩

/-- `capability.partition(".")[0]`. -/
def domainOf (capability : String) : String :=
  String.ofList (capability.toList.takeWhile fun c => c ≠ '.')

/-- The headers of a request. -/
abbrev Headers : Type := List (String × String)

/-- `SimulatorApplication`. -/
structure SimulatorApplication {S : Type} (simulator : ExecutableSimulator S) where
  operations : Table String String
  verify : Headers → Bool
  nonempty : operations.rows ≠ []
  canonical : ∀ row ∈ operations.rows,
    row ∈ SIMULATOR_OPERATIONS ∧ domainOf row.2 = simulator.domain

/-- `SimulatorHTTPResponse`. -/
structure SimulatorHTTPResponse where
  status_code : Nat
  body : ByteArray
  deriving DecidableEq

/-- `_error_response`. -/
def errorResponse (status_code : Nat) (reason : String) : SimulatorHTTPResponse where
  status_code := status_code
  body := Json.canonical (object
    [("schema", .str "cbrain-simulator-error/v1"), ("reason", .str reason)]).json

/-- `_header`. -/
def header (headers : Headers) (name : String) : String :=
  ((headers.find? fun h => h.1.toLower == name).map Prod.snd).getD ""

/-- `receipt.to_payload()`. -/
def EffectReceipt.toPayload (receipt : EffectReceipt) : Raises Dict := do
  let result ← restoreObject receipt.result_json "result"
  return object
    [("schema", .str SIMULATOR_EFFECT_SCHEMA), ("domain", .str receipt.domain),
      ("capability", .str receipt.capability), ("request_id", .str receipt.request_id),
      ("idempotency_key", .str receipt.idempotency_key), ("effect_id", .str receipt.effect_id),
      ("state_version", .nat receipt.state_version),
      ("mutated", ⟨.bool receipt.mutated, Json.WF.bool _⟩), ("result", .dict result)]

/-- What an `except` clause of `handle` makes of an exception, if there is one
    for it. -/
def errorOf (e : Exn) : Option SimulatorHTTPResponse :=
  if e.name = "SimulatorNotFound" then some (errorResponse 404 "BUSINESS_OBJECT_NOT_FOUND")
  else if e.name = "SimulatorConflict" then some (errorResponse 409 "BUSINESS_STATE_CONFLICT")
  else if e.name = "SimulatorBusinessError" then
    some (errorResponse 422 "BUSINESS_CONSTRAINT_REJECTED")
  else if e.kind = .simulatorContractError ∨ e.kind = .unicodeDecodeError ∨
      e.kind = .jsonDecodeError then
    some (errorResponse 400 "MALFORMED_SIMULATOR_REQUEST")
  else if e.name = "SimulatorError" then some (errorResponse 500 "SIMULATOR_FAILURE")
  else none

namespace SimulatorApplication

variable {S : Type} {simulator : ExecutableSimulator S} (app : SimulatorApplication simulator)

/-- The body of the `try` in `handle`. -/
def serve (simulator : ExecutableSimulator S) (capability : String) (wire_bytes : ByteArray) :
    Mutation Exn S EffectReceipt := do
  let payload ← raising (decodeRequest decodeWide wire_bytes)
  let arguments ← raising (asDict (contractError "arguments must be a JSON object")
    (memberOf payload "arguments"))
  let request_id ← raising (requiredText (payload.get "request_id") "request_id")
  let idempotency_key ← raising (requiredText (payload.get "idempotency_key") "idempotency_key")
  simulator.execute ⟨capability, request_id, idempotency_key, arguments⟩

/-- What `handle` makes of the outcome of its `try`. -/
def respond : Raises EffectReceipt → Raises SimulatorHTTPResponse
  | .error e =>
    match errorOf e with
    | some response => .ok response
    | none => .error e
  | .ok receipt => do
    let payload ← receipt.toPayload
    let body ← canonicalObject payload "effect receipt"
    return ⟨200, body⟩

/-- `handle`. -/
def handle (operation : String) (headers : Headers) (wire_bytes : ByteArray) :
    Mutation Exn S SimulatorHTTPResponse :=
  if app.verify headers = false then pure (errorResponse 401 "INVALID_TARGET_CREDENTIAL")
  else
    match app.operations.get? operation with
    | none => pure (errorResponse 404 "OPERATION_NOT_FOUND")
    | some capability =>
      if header headers "content-type" ≠ "application/json" then
        pure (errorResponse 415 "CONTENT_TYPE_NOT_SUPPORTED")
      else
        let content_encoding := header headers "content-encoding"
        if content_encoding ≠ "" ∧ content_encoding ≠ "identity" then
          pure (errorResponse 415 "CONTENT_ENCODING_NOT_SUPPORTED")
        else ExceptT.mk fun sim =>
          let (outcome, sim) := exec (serve decodeWide simulator capability wire_bytes) sim
          (respond outcome, sim)

end SimulatorApplication

end CBrain.Simulators

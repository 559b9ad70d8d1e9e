import CBrain.Company.Awards

/-! # The purchasing proof

    Models the offline proof of `cbrain/procurement/proof.py`: an award, a
    requisition or a purchase order that was executed is bound to the board of
    its quotations.  Texts and amounts are compared as JSON values. -/

namespace CBrain.Purchasing

open Json (Dict Members)

/-! ## Section 1: Boards and outputs -/

def PROCUREMENT_PROOF_SCHEMA : String := "cbrain-procurement-proof/v1"
def OFFLINE_AUTHORITY : String := "company_test_gateway"
def SUCCESS_PROOF_TOOLS : List String :=
  ["award_quote", "create_purchase_requisition", "release_purchase_order"]

/-- `item.get(name)`. -/
def itemGet (item : Members) (name : String) : Json := (Json.get? item name).getD .null

/-- The members of a value that is a mapping. -/
def mapping? : Json → Option Members
  | .obj members => some members
  | _ => none

/-- The first value is text, and the second is the same. -/
def sameText : Json → Json → Bool
  | .str expected, found => found == .str expected
  | _, _ => false

/-- `json.dumps(..., allow_nan=False)` refuses the value. -/
def notCompliant : Exn :=
  Exn.of .valueError "Out of range float values are not JSON compliant"

/-- `_quote_entries`. -/
def quoteEntries (quote_board : Dict) : Raises (List Members) :=
  match quote_board.get "quotations" with
  | .arr (item :: items) =>
    (item :: items).mapM fun item =>
      match mapping? item with
      | some members => .ok members
      | none => .error (procurementError "quote board entries must include quote_id")
  | _ => .error (procurementError "quote board must include quotations")

/-- `_ranked_quote_ids`. -/
def rankedQuoteIds (quote_board : Dict) : Raises (List String) := do
  let entries ← quoteEntries quote_board
  entries.mapM fun item =>
    requiredMember (procurementError "quote board entries must include quote_id")
      (itemGet item "quote_id")

/-- `quote_board_digest`, which refuses what is not compliant JSON. -/
def digestOfBoard (quote_board : Dict) : Raises String := do
  require (Json.finite (quote_board.get "count") = true ∧
    Json.finite (quote_board.get "quotations") = true) notCompliant
  return quoteBoardDigest quote_board

/-! ## Section 2: Digests of actions -/

/-- `_MUTABLE_ACTION_CONTEXT_KEYS`. -/
def MUTABLE_ACTION_CONTEXT_KEYS : List String :=
  ["run_id", "tool_call_id", "request_id", "idempotency_key", "timestamp"]

/-- What `canonical_action_intent_digest` hashes. -/
def identityPayload (action : ActionIntent) : Dict :=
  object
    [("agent_id", .str action.agent_id), ("framework", .str action.framework),
      ("tool_name", .str action.tool_name), ("capability", .str action.capability),
      ("arguments", .dict action.arguments),
      ("context", .dict (action.context.filter fun key => key ∉ MUTABLE_ACTION_CONTEXT_KEYS)),
      ("evidence", .dict action.evidence)]

/-- `canonical_action_intent_digest`. -/
def canonicalActionIntentDigest (action : ActionIntent) : Raises String := do
  require (Json.finite (identityPayload action).json = true) notCompliant
  return Sha256.hexdigest (Json.canonical (identityPayload action).json)

/-! ## Section 3: Binding -/

section binding
variable (action : ActionIntent) (output : Members) (quote_board : Dict)

/-- `_bound_text`. -/
def boundText (field_name : String) : Raises String := do
  let from_output := itemGet output field_name
  let from_action :=
    if action.tool_name = "release_purchase_order" ∧ field_name ∈ ["rfq_id", "quote_id"] then
      from_output
    else action.arguments.get field_name
  let text ← requiredMember
    (procurementError s!"{field_name} is missing from the ActionIntent") from_action
  require (Json.pyEq (.str text) from_output = true)
    (procurementError s!"{field_name} does not match verified execution output")
  let board_rfq := quote_board.get "rfq_id"
  require (field_name = "rfq_id" → board_rfq = .null ∨ Json.pyEq board_rfq (.str text) = true)
    (procurementError "quote board rfq_id does not match the ActionIntent")
  return text

/-- `_bound_vendor`. -/
def boundVendor : Raises String := do
  let vendor_id ← requiredMember
    (procurementError "awarded_vendor_id is missing from verified execution output")
    (itemGet output "vendor_id")
  let argument_vendor := action.arguments.get "vendor_id"
  require (argument_vendor = .null ∨ Json.pyEq argument_vendor (.str vendor_id) = true)
    (procurementError "awarded_vendor_id does not match the ActionIntent")
  let quote_id := itemGet output "quote_id"
  let entries ← quoteEntries quote_board
  require (∀ item ∈ entries, Json.pyEq (itemGet item "quote_id") quote_id = true →
      Json.pyEq (itemGet item "vendor_id") (.str vendor_id) = true)
    (procurementError "awarded_vendor_id does not match the quote board")
  return vendor_id

/-- `_bound_money`. -/
def boundMoney (quote_id : String) : Raises Unit := do
  let amount := action.arguments.get "amount_minor"
  let currency := action.arguments.get "currency"
  require (Json.pyEq amount (itemGet output "amount_minor") = true ∧
      Json.pyEq currency (itemGet output "currency") = true)
    (procurementError "amount or currency does not match verified execution output")
  let entries ← quoteEntries quote_board
  match entries.find? fun item => Json.pyEq (itemGet item "quote_id") (.str quote_id) with
  | none =>
    .error (procurementError "awarded quote_id is not on the verified quote board")
  | some item =>
    require (Json.pyEq (itemGet item "amount_minor") amount = true ∧
        Json.pyEq (itemGet item "currency") currency = true)
      (procurementError "amount or currency does not match the quote board")

end binding

/-- `_BoundSuccess`. -/
structure BoundSuccess where
  rfq_id : String
  quote_id : String
  awarded_vendor_id : String
  quote_board_digest : String
  ranked_quote_ids : List String
  deriving DecidableEq

/-- `_bind_success_proof`. -/
def bindSuccessProof (action : ActionIntent) (execution : GovernedExecution) (quote_board : Dict) :
    Raises BoundSuccess := do
  require (action.tool_name ∈ SUCCESS_PROOF_TOOLS)
    (procurementError "procurement success proofs are limited to award, PR, and PO")
  require (execution.status = .executed ∧ execution.tool_executed = some true)
    (procurementError "award proof requires EXECUTED tool execution")
  require (action.request_id = execution.request_id)
    (procurementError "proof action and execution request_id must match")
  match mapping? execution.output.image with
  | none => .error (procurementError "execution output is required for an award proof")
  | some output => do
    let ranked_ids ← rankedQuoteIds quote_board
    let board_digest ← digestOfBoard quote_board
    require (itemGet output "quote_board_digest" = .str board_digest)
      (procurementError "quote-board digest does not match verified execution output")
    require (action.tool_name = "release_purchase_order" →
        sameText (action.arguments.get "pr_id") (itemGet output "pr_id") = true)
      (procurementError "pr_id does not match verified execution output")
    let rfq_id ← boundText action output quote_board "rfq_id"
    let quote_id ← boundText action output quote_board "quote_id"
    let awarded_vendor_id ← boundVendor action output quote_board
    boundMoney action output quote_board quote_id
    require (quote_id ∈ ranked_ids)
      (procurementError "awarded quote_id is not on the verified quote board")
    let entries ← quoteEntries quote_board
    require (∀ item ∈ entries, pyStr (itemGet item "rfq_id") = rfq_id)
      (procurementError "quote board rfq_id does not match the ActionIntent")
    return ⟨rfq_id, quote_id, awarded_vendor_id, board_digest, ranked_ids⟩

/-- `ProcurementProof` of an offline execution. -/
structure ProcurementProof where
  schema : String
  bound : BoundSuccess
  action_intent_digest : String
  execution_status : String
  tool_executed : Option Bool
  decision_authority : String
  decision_id : Option String
  deriving DecidableEq

/-- `build_procurement_proof`. -/
def buildProcurementProof (action : ActionIntent) (execution : GovernedExecution)
    (quote_board : Dict) : Raises ProcurementProof := do
  let bound ← bindSuccessProof action execution quote_board
  let action_intent_digest ← canonicalActionIntentDigest action
  return {
    schema := PROCUREMENT_PROOF_SCHEMA
    bound
    action_intent_digest
    execution_status := execution.status.value
    tool_executed := execution.tool_executed
    decision_authority := OFFLINE_AUTHORITY
    decision_id := execution.decision_id }

end CBrain.Purchasing

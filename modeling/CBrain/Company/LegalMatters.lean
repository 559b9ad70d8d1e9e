import CBrain.Contracts
import CBrain.Framework.Mutation
import CBrain.Framework.Table
import Mathlib.Data.Finset.Sort
import Mathlib.Data.Finset.Union
import Mathlib.Data.String.Basic

/-! # Legal matters

    Models what a legal action goes through in the company gateway: validation
    (`cbrain/company/validation.py`), the decision of
    `CompanyRiskGateway` (`cbrain/evaluation/company_gateway.py`) and the legal
    handlers (`cbrain/company/handlers.py`).  Both look contracts up in the
    same `LegalSimulator`, the only part of a bundle that a legal agent reads.

    * `Agrees`      : two sets of records that differ outside the permitted matters.
    * `CrossMatter` : the test of `_validate_compare` that looks at contracts
      outside the permitted matters. -/

namespace CBrain

open Json (Dict)
open Mutation (raising write read exec Respects)

/-! ## Section 1: Records -/

/-- `ToolRiskLevel`. -/
inductive ToolRiskLevel where
  | allow
  | review
  | block
  deriving DecidableEq, Repr

/-- `LegalSimulator`. -/
structure LegalSimulator where
  matters : Table String (Finset String)
  contracts : Table String Dict
  access_log : List (String × String)
  deriving DecidableEq

/-- `matters.get(matter_id, set())`. -/
def LegalSimulator.matterIds (sim : LegalSimulator) (matter_id : String) : Finset String :=
  (sim.matters.get? matter_id).getD ∅

/-- `CompanyExecutionContext`. -/
structure CompanyExecutionContext where
  permitted_matter_ids : Finset String
  permitted_text : ∀ matter_id ∈ permitted_matter_ids, nonBlank matter_id = true

/-- `str.lower`, and the order in which a set is iterated. -/
structure PyText where
  lower : String → String
  order : Finset String → List String
  mem_order : ∀ s x, x ∈ order s ↔ x ∈ s
  nodup_order : ∀ s, (order s).Nodup

/-- `str(value)`. -/
def pyStr : Json → String
  | .str s => s
  | value => reprJson value

/-- `bool(value)`. -/
def isTruthy : Json → Bool
  | .null => false
  | .bool b => b
  | .int i => i != 0
  | .float (.finite d) => d.coeff != 0
  | .float _ => true
  | .str s => s != ""
  | .arr xs => !xs.isEmpty
  | .obj ms => !ms.isEmpty

/-- `left or right`. -/
def pyOr (left right : Json) : Json := if isTruthy left then left else right

/-- `arguments[name]`. -/
def member (arguments : Dict) (name : String) : Raises Json :=
  match arguments.get? name with
  | some value => .ok value
  | none => .error (Exn.parts .keyError [.repr (.str name)])

/-! ## Section 2: Validation -/

def LEGAL_MATTER_SCOPE_REQUIRED : String := "LEGAL_MATTER_SCOPE_REQUIRED"
def LEGAL_MATTER_SCOPE_MISMATCH : String := "LEGAL_MATTER_SCOPE_MISMATCH"
def LEGAL_CONTRACT_OUTSIDE_SCOPE : String := "LEGAL_CONTRACT_OUTSIDE_SCOPE"
def LEGAL_CROSS_MATTER_AUTHORITY_REQUIRED : String := "LEGAL_CROSS_MATTER_AUTHORITY_REQUIRED"

def LEGAL_SCOPED_TOOLS : List String :=
  ["search_contracts", "extract_clause", "compare_contracts", "identify_deviations",
    "prepare_redline", "draft_legal_summary", "send_commitment", "sign_contract", "file_document",
    "provide_legal_advice"]

def LEGAL_CONTRACT_TOOLS : List String :=
  ["extract_clause", "identify_deviations", "prepare_redline", "draft_legal_summary",
    "sign_contract"]

/-- `ArgumentValidationResult`. -/
structure ArgumentValidationResult where
  ok : Bool
  reason : Option String
  deriving DecidableEq

namespace ArgumentValidationResult

def passed : ArgumentValidationResult := ⟨true, none⟩
def failed (reason : String) : ArgumentValidationResult := ⟨false, some reason⟩

end ArgumentValidationResult

open ArgumentValidationResult (passed failed)

section validation
variable (permitted : Finset String) (bundle : Option LegalSimulator)

/-- `_authorized_contract_ids`. -/
def authorizedContractIds : Finset String :=
  match bundle with
  | none => ∅
  | some legal => permitted.biUnion legal.matterIds

/-- `_contract_matter`. -/
def contractMatter (contract_id : String) : Option String :=
  match bundle with
  | none => none
  | some legal =>
    match legal.contracts.get? contract_id with
    | none => none
    | some contract =>
      match contract.get "matter_id" with
      | .null => none
      | matter => some (pyStr matter)

/-- Both contracts are on file, under different matters that are not both
    permitted. -/
def CrossMatter (left_id right_id : String) : Prop :=
  match contractMatter bundle left_id, contractMatter bundle right_id with
  | some left_matter, some right_matter =>
    left_matter ≠ right_matter ∧ ¬ (left_matter ∈ permitted ∧ right_matter ∈ permitted)
  | _, _ => False

instance (left_id right_id : String) : Decidable (CrossMatter permitted bundle left_id right_id) :=
  match hleft : contractMatter bundle left_id, hright : contractMatter bundle right_id with
  | some left_matter, some right_matter =>
    decidable_of_iff
      (left_matter ≠ right_matter ∧ ¬ (left_matter ∈ permitted ∧ right_matter ∈ permitted))
      (by rw [CrossMatter, hleft, hright])
  | none, _ => isFalse (by rw [CrossMatter, hleft]; exact not_false)
  | some _, none => isFalse (by rw [CrossMatter, hleft, hright]; exact not_false)

variable (arguments : Dict)

/-- `str(arguments.get(name) or "")`. -/
def idText (name : String) : String := pyStr (pyOr (arguments.get name) (.str ""))

/-- `_validate_compare`. -/
def validateCompare : ArgumentValidationResult :=
  let left_id := idText arguments "left_id"
  let right_id := idText arguments "right_id"
  let authorized := authorizedContractIds permitted bundle
  if CrossMatter permitted bundle left_id right_id then
    failed LEGAL_CROSS_MATTER_AUTHORITY_REQUIRED
  else if left_id ∉ authorized ∨ right_id ∉ authorized then failed LEGAL_CONTRACT_OUTSIDE_SCOPE
  else passed

end validation

/-- `_validate_legal`. -/
def validateLegal (action : ActionIntent) (context : Option CompanyExecutionContext)
    (bundle : Option LegalSimulator) : ArgumentValidationResult :=
  match context with
  | none => failed LEGAL_MATTER_SCOPE_REQUIRED
  | some context =>
    let permitted := context.permitted_matter_ids
    let arguments := action.arguments
    let tool := action.tool_name
    if tool ∈ ["search_contracts", "send_commitment", "provide_legal_advice"] then
      match arguments.get "matter_id" with
      | .str matter_id =>
        if matter_id ∈ permitted then passed else failed LEGAL_MATTER_SCOPE_MISMATCH
      | _ => failed LEGAL_MATTER_SCOPE_MISMATCH
    else if tool = "compare_contracts" then validateCompare permitted bundle arguments
    else if tool ∈ LEGAL_CONTRACT_TOOLS ∨ tool = "file_document" then
      let contract_id :=
        pyStr (pyOr (arguments.get "contract_id") (pyOr (arguments.get "document_id") (.str "")))
      if contract_id ∈ authorizedContractIds permitted bundle then passed
      else failed LEGAL_CONTRACT_OUTSIDE_SCOPE
    else passed

/-- `validate_company_action` for the legal agent. -/
def validateCompanyAction (action : ActionIntent) (context : Option CompanyExecutionContext)
    (bundle : Option LegalSimulator) : ArgumentValidationResult :=
  if action.tool_name ∈ LEGAL_SCOPED_TOOLS then validateLegal action context bundle else passed

/-! ## Section 3: Handlers -/

/-- `SimulatorValidationError`. -/
def simulatorValidationError (message : String) : Exn :=
  ⟨.valueError, "SimulatorValidationError", [.text message]⟩

/-- A payload. -/
def payload (members : Json.Members) : Json := .obj (Json.dictOf members)

namespace LegalHandlers

variable (text : PyText) (context : Option CompanyExecutionContext) (arguments : Dict)

/-- `_permitted`. -/
def permitted : Raises (Finset String) :=
  match context with
  | none => .error (simulatorValidationError "legal matter scope required")
  | some context => .ok context.permitted_matter_ids

/-- `_authorized_contracts`. -/
def authorizedContracts : Mutation Exn LegalSimulator (Finset String) := do
  let permitted ← raising (permitted context)
  read fun sim => authorizedContractIds permitted (some sim)

/-- `_require_contract`. -/
def requireContract (contract_id : String) : Mutation Exn LegalSimulator Dict := do
  let authorized ← authorizedContracts context
  raising (require (contract_id ∈ authorized)
    (simulatorValidationError "contract outside authorized matter scope"))
  let contract ← read fun sim => sim.contracts.get? contract_id
  let contract ← raising
    (match contract with
      | none => .error (simulatorValidationError "contract outside authorized matter scope")
      | some contract => .ok contract)
  let matter_id ← raising (member contract "matter_id")
  write fun sim => { sim with access_log := sim.access_log ++ [(pyStr matter_id, contract_id)] }
  pure contract

/-- The text of an argument. -/
def argumentText (name : String) : Raises String := (member arguments name).map pyStr

/-- The contracts of a matter whose text contains the query. -/
def searchMatches (permitted : Finset String) (matter_id query : String) (sim : LegalSimulator) :
    List Json :=
  let allowed := sim.matterIds matter_id ∩ authorizedContractIds permitted (some sim)
  (text.order allowed).filterMap fun contract_id =>
    match sim.contracts.get? contract_id with
    | none => none
    | some contract =>
      if query.toList <:+: (text.lower (pyStr contract.json)).toList then some contract.json
      else none

/-- `search_contracts`. -/
def searchContracts : Mutation Exn LegalSimulator Json := do
  let matter_id ← raising (argumentText arguments "matter_id")
  let permitted ← raising (permitted context)
  raising (require (matter_id ∈ permitted)
    (simulatorValidationError "matter outside authorized scope"))
  let query ← raising (argumentText arguments "query")
  let found ← read (searchMatches text permitted matter_id (text.lower query))
  pure (payload [("matter_id", .str matter_id), ("matches", .arr found)])

/-- `clauses[clause_id]`, if the clause is known. -/
def clauseText (clauses : Json) (clause_id : String) : Raises Json :=
  let unknown := simulatorValidationError "unknown clause"
  let unsupported := Exn.of .typeError "unsupported clauses"
  match clauses with
  | .obj members =>
    match Json.get? members clause_id with
    | none => .error unknown
    | some clause => .ok clause
  -- Membership is tested before the lookup, which only a dictionary supports.
  | .arr items => .error (if .str clause_id ∈ items then unsupported else unknown)
  | .str s => .error (if clause_id.toList <:+: s.toList then unsupported else unknown)
  | _ => .error unsupported

/-- `extract_clause`. -/
def extractClause : Mutation Exn LegalSimulator Json := do
  let contract_id ← raising (argumentText arguments "contract_id")
  let clause_id ← raising (argumentText arguments "clause_id")
  let contract ← requireContract context contract_id
  let clause ← raising (clauseText ((contract.get? "clauses").getD (.obj [])) clause_id)
  pure (payload
    [("contract_id", .str contract_id), ("clause_id", .str clause_id), ("text", clause),
      ("citation", .str s!"{contract_id}:{clause_id}")])

/-- `compare_contracts`. -/
def compareContracts : Mutation Exn LegalSimulator Json := do
  let left_id ← raising (argumentText arguments "left_id")
  let left ← requireContract context left_id
  let right_id ← raising (argumentText arguments "right_id")
  let right ← requireContract context right_id
  let left_contract ← raising (member left "contract_id")
  let right_contract ← raising (member right "contract_id")
  pure (payload
    [("left_id", left_contract), ("right_id", right_contract),
      ("governing_law_match",
        .bool (Json.pyEq (left.get "governing_law") (right.get "governing_law")))])

/-- `identify_deviations`. -/
def identifyDeviations : Mutation Exn LegalSimulator Json := do
  let contract_id ← raising (argumentText arguments "contract_id")
  let _ ← requireContract context contract_id
  let playbook_id ← raising (argumentText arguments "playbook_id")
  pure (payload
    [("contract_id", .str contract_id), ("playbook_id", .str playbook_id),
      ("deviations", .arr [])])

/-- `list(value)`. -/
def pyList : Json → Raises (List Json)
  | .arr items => .ok items
  | .str s => .ok (s.toList.map fun c => .str (String.singleton c))
  | .obj members => .ok (members.map fun m => .str m.1)
  | _ => .error (Exn.of .typeError "object is not iterable")

/-- `prepare_redline`. -/
def prepareRedline : Mutation Exn LegalSimulator Json := do
  let contract_id ← raising (argumentText arguments "contract_id")
  let _ ← requireContract context contract_id
  let changes ← raising (do pyList (← member arguments "changes"))
  pure (payload [("contract_id", .str contract_id), ("changes", .arr changes)])

/-- `draft_legal_summary`. -/
def draftLegalSummary : Mutation Exn LegalSimulator Json := do
  let contract_id ← raising (argumentText arguments "contract_id")
  let _ ← requireContract context contract_id
  pure (payload
    [("contract_id", .str contract_id), ("summary", .str "Source-grounded summary."),
      ("citations", .arr [.str s!"{contract_id}:c1"])])

/-- `sign_contract`. -/
def signContract : Mutation Exn LegalSimulator Json := do
  let contract_id ← raising (argumentText arguments "contract_id")
  let _ ← requireContract context contract_id
  pure (payload [("contract_id", .str contract_id), ("signed", .bool true)])

/-- `file_document`. -/
def fileDocument : Mutation Exn LegalSimulator Json := do
  let document_id ← raising (argumentText arguments "document_id")
  let authorized ← authorizedContracts context
  raising (require (document_id ∈ authorized)
    (simulatorValidationError "document outside authorized matter scope"))
  let court ← raising (argumentText arguments "court")
  pure (payload [("document_id", .str document_id), ("court", .str court), ("filed", .bool true)])

/-- `send_commitment`. -/
def sendCommitment : Mutation Exn LegalSimulator Json := do
  let matter_id ← raising (argumentText arguments "matter_id")
  let permitted ← raising (permitted context)
  raising (require (matter_id ∈ permitted)
    (simulatorValidationError "matter outside authorized scope"))
  pure (payload [("matter_id", .str matter_id), ("sent", .bool true)])

/-- `provide_legal_advice`. -/
def provideLegalAdvice : Mutation Exn LegalSimulator Json := do
  let matter_id ← raising (argumentText arguments "matter_id")
  let permitted ← raising (permitted context)
  raising (require (matter_id ∈ permitted)
    (simulatorValidationError "matter outside authorized scope"))
  let conclusion ← raising (argumentText arguments "conclusion")
  pure (payload [("matter_id", .str matter_id), ("advice", .str conclusion)])

/-- `_legal_handlers(...)[tool_name]`, called. -/
def call (tool_name : String) : Mutation Exn LegalSimulator Json :=
  if tool_name = "search_contracts" then searchContracts text context arguments
  else if tool_name = "extract_clause" then extractClause context arguments
  else if tool_name = "compare_contracts" then compareContracts context arguments
  else if tool_name = "identify_deviations" then identifyDeviations context arguments
  else if tool_name = "prepare_redline" then prepareRedline context arguments
  else if tool_name = "draft_legal_summary" then draftLegalSummary context arguments
  else if tool_name = "sign_contract" then signContract context arguments
  else if tool_name = "file_document" then fileDocument context arguments
  else if tool_name = "send_commitment" then sendCommitment context arguments
  else if tool_name = "provide_legal_advice" then provideLegalAdvice context arguments
  else raising (.error (Exn.parts .keyError [.repr (.str tool_name)]))

end LegalHandlers

/-! ## Section 4: The gateway -/

/-- `_LEGAL_RISKS`. -/
def LEGAL_RISKS : List (String × ToolRiskLevel) :=
  [("search_contracts", .allow), ("extract_clause", .allow), ("compare_contracts", .allow),
    ("identify_deviations", .allow), ("prepare_redline", .allow), ("draft_legal_summary", .allow),
    ("sign_contract", .block), ("file_document", .block), ("send_commitment", .review),
    ("provide_legal_advice", .block)]

/-- `CompanyAgentSpec.decision_for_tool` of the legal agent. -/
def decisionForTool (tool_name : String) : Raises ToolRiskLevel :=
  match LEGAL_RISKS.lookup tool_name with
  | some risk => .ok risk
  | none => .error (Exn.parts .valueError [.text "unknown tool ", .repr (.str tool_name)])

namespace CompanyRiskGateway

/-- A result without execution. -/
def notExecuted (action : ActionIntent) (status : ExecutionStatus) (reason : String) :
    Mutation Exn LegalSimulator GovernedExecution :=
  raising (GovernedExecution.new status action.request_id (some false) reason none .none false)

/-- `decide_and_execute` of a legal agent's gateway, with the agent's handler for
    the tool. -/
def decideAndExecute (text : PyText) (context : Option CompanyExecutionContext)
    (action : ActionIntent) : Mutation Exn LegalSimulator GovernedExecution := do
  let validation ← read fun sim => validateCompanyAction action context (some sim)
  if validation.ok = false then
    notExecuted action .blocked (validation.reason.getD "blocked_by_validation")
  else
    let risk ← raising (decisionForTool action.tool_name)
    match risk with
    | .block => notExecuted action .blocked "blocked_by_policy"
    | .review => notExecuted action .reviewRequired "review_required"
    | .allow => do
      let output ← LegalHandlers.call text context action.arguments action.tool_name
      raising (GovernedExecution.new .executed action.request_id (some true) "allow" none
        (.json output) false)

end CompanyRiskGateway

/-! ## Section 5: Records that differ outside the permitted matters -/

/-- The matters of the acting agent. -/
def permittedMatters : Option CompanyExecutionContext → Finset String
  | none => ∅
  | some context => context.permitted_matter_ids

/-- The records agree on the permitted matters and on every contract of one. -/
structure Agrees (permitted : Finset String) (s t : LegalSimulator) : Prop where
  matters : ∀ matter_id ∈ permitted, s.matterIds matter_id = t.matterIds matter_id
  contracts : ∀ matter_id ∈ permitted, ∀ contract_id ∈ s.matterIds matter_id,
    s.contracts.get? contract_id = t.contracts.get? contract_id

/-- The records agree, and the contracts of the permitted matters are these. -/
def AgreesOn (permitted authorized : Finset String) (s t : LegalSimulator) : Prop :=
  Agrees permitted s t ∧ authorizedContractIds permitted (some s) = authorized

section agreement
variable {permitted authorized : Finset String} {s t : LegalSimulator}

theorem Agrees.authorized_eq (h : Agrees permitted s t) :
    authorizedContractIds permitted (some s) = authorizedContractIds permitted (some t) :=
  Finset.biUnion_congr rfl h.matters

theorem Agrees.contract_eq (h : Agrees permitted s t) {contract_id : String}
    (hid : contract_id ∈ authorizedContractIds permitted (some s)) :
    s.contracts.get? contract_id = t.contracts.get? contract_id := by
  obtain ⟨matter_id, hmatter, hcontract⟩ := Finset.mem_biUnion.mp hid
  exact h.contracts matter_id hmatter contract_id hcontract

theorem AgreesOn.authorized_right (h : AgreesOn permitted authorized s t) :
    authorizedContractIds permitted (some t) = authorized := by
  rw [← h.1.authorized_eq]
  exact h.2

/-- What is written in the access log is not looked at again. -/
theorem AgreesOn.log (h : AgreesOn permitted authorized s t) (entry : String × String) :
    AgreesOn permitted authorized { s with access_log := s.access_log ++ [entry] }
      { t with access_log := t.access_log ++ [entry] } :=
  ⟨⟨h.1.matters, h.1.contracts⟩, h.2⟩

end agreement

/-! ## Section 6: The handlers do not tell the records apart -/

namespace LegalHandlers

section respects
variable {text : PyText} {context : Option CompanyExecutionContext} {arguments : Dict}
  {authorized : Finset String}

/-- The program answers alike on records that agree. -/
abbrev Isolated {α : Type} (context : Option CompanyExecutionContext) (authorized : Finset String)
    (m : Mutation Exn LegalSimulator α) : Prop :=
  Respects (AgreesOn (permittedMatters context) authorized) m

theorem permitted_ok {ids : Finset String} (h : permitted context = .ok ids) :
    ids = permittedMatters context := by
  cases context with
  | none => cases h
  | some context => exact (Except.ok.inj h).symm

theorem authorizedContracts_isolated :
    Isolated context authorized (authorizedContracts context) := by
  apply Mutation.respects_raising_bind
  intro ids hids
  obtain rfl := permitted_ok hids
  apply Mutation.respects_read
  intro s t h
  rw [h.2, h.authorized_right]

theorem authorizedContracts_ok {ids : Finset String} {s t : LegalSimulator}
    (h : AgreesOn (permittedMatters context) authorized s t)
    (hids : (exec (authorizedContracts context) s).1 = .ok ids) : ids = authorized := by
  unfold authorizedContracts at hids
  rw [Mutation.raising_bind_ok] at hids
  obtain ⟨matters, hmatters, hread⟩ := hids
  obtain rfl := permitted_ok hmatters
  rw [← Except.ok.inj hread]
  exact h.2

theorem requireContract_isolated (contract_id : String) :
    Isolated context authorized (requireContract context contract_id) := by
  apply authorizedContracts_isolated.bind_of
  intro ids s t hagrees hids
  obtain rfl := authorizedContracts_ok hagrees hids
  apply Mutation.respects_raising_bind
  intro _ hid
  have hmem := require_ok.mp hid
  have hread : Isolated context ids (read fun sim => sim.contracts.get? contract_id) := by
    apply Mutation.respects_read
    intro s t h
    -- The contract is one of a permitted matter, so both records have it.
    apply h.1.contract_eq
    rw [h.2]
    exact hmem
  apply hread.bind
  intro contract
  apply (Mutation.respects_raising _).bind
  intro contract
  apply (Mutation.respects_raising _).bind
  intro matter_id
  apply (Mutation.respects_write _).bind
  · intro _
    exact Mutation.respects_pure _
  · intro s t h
    exact h.log _

theorem searchMatches_eq {permitted : Finset String} {s t : LegalSimulator}
    (h : Agrees permitted s t) {matter_id : String} (hmatter : matter_id ∈ permitted)
    (query : String) :
    searchMatches text permitted matter_id query s =
      searchMatches text permitted matter_id query t := by
  unfold searchMatches
  rw [← h.matters matter_id hmatter, ← h.authorized_eq]
  apply List.filterMap_congr
  intro contract_id hid
  rw [text.mem_order, Finset.mem_inter] at hid
  rw [h.contract_eq hid.2]

theorem searchContracts_isolated :
    Isolated context authorized (searchContracts text context arguments) := by
  apply (Mutation.respects_raising _).bind
  intro matter_id
  apply Mutation.respects_raising_bind
  intro permitted hpermitted
  obtain rfl := permitted_ok hpermitted
  apply Mutation.respects_raising_bind
  intro _ hmatter
  apply (Mutation.respects_raising _).bind
  intro query
  have hread : Isolated context authorized
      (read (searchMatches text (permittedMatters context) matter_id (text.lower query))) := by
    apply Mutation.respects_read
    intro s t h
    exact searchMatches_eq h.1 (require_ok.mp hmatter) _
  apply hread.bind
  intro found
  exact Mutation.respects_pure _

theorem extractClause_isolated : Isolated context authorized (extractClause context arguments) := by
  apply (Mutation.respects_raising _).bind
  intro contract_id
  apply (Mutation.respects_raising _).bind
  intro clause_id
  apply (requireContract_isolated contract_id).bind
  intro contract
  apply (Mutation.respects_raising _).bind
  intro clause
  exact Mutation.respects_pure _

theorem compareContracts_isolated :
    Isolated context authorized (compareContracts context arguments) := by
  apply (Mutation.respects_raising _).bind
  intro left_id
  apply (requireContract_isolated left_id).bind
  intro left
  apply (Mutation.respects_raising _).bind
  intro right_id
  apply (requireContract_isolated right_id).bind
  intro right
  apply (Mutation.respects_raising _).bind
  intro left_contract
  apply (Mutation.respects_raising _).bind
  intro right_contract
  exact Mutation.respects_pure _

/-- A handler that requires one contract and then looks at its arguments only. -/
theorem requireContract_then_isolated {α : Type} {x : Raises α} {f : String → α → Json} :
    Isolated context authorized (do
      let contract_id ← raising (argumentText arguments "contract_id")
      let _ ← requireContract context contract_id
      let a ← raising x
      pure (f contract_id a)) := by
  apply (Mutation.respects_raising _).bind
  intro contract_id
  apply (requireContract_isolated contract_id).bind
  intro _
  apply (Mutation.respects_raising _).bind
  intro a
  exact Mutation.respects_pure _

/-- A handler that only requires one contract. -/
theorem requireContract_only_isolated {f : String → Json} :
    Isolated context authorized (do
      let contract_id ← raising (argumentText arguments "contract_id")
      let _ ← requireContract context contract_id
      pure (f contract_id)) := by
  apply (Mutation.respects_raising _).bind
  intro contract_id
  apply (requireContract_isolated contract_id).bind
  intro _
  exact Mutation.respects_pure _

theorem fileDocument_isolated : Isolated context authorized (fileDocument context arguments) := by
  apply (Mutation.respects_raising _).bind
  intro document_id
  apply authorizedContracts_isolated.bind
  intro ids
  apply (Mutation.respects_raising _).bind
  intro _
  apply (Mutation.respects_raising _).bind
  intro court
  exact Mutation.respects_pure _

theorem sendCommitment_isolated :
    Isolated context authorized (sendCommitment context arguments) := by
  iterate 3
    apply (Mutation.respects_raising _).bind
    intro _
  exact Mutation.respects_pure _

theorem provideLegalAdvice_isolated :
    Isolated context authorized (provideLegalAdvice context arguments) := by
  iterate 4
    apply (Mutation.respects_raising _).bind
    intro _
  exact Mutation.respects_pure _

/-- **Handlers**: no handler tells records apart that agree. -/
theorem call_isolated (tool_name : String) :
    Isolated context authorized (call text context arguments tool_name) := by
  unfold call
  split
  · exact searchContracts_isolated
  split
  · exact extractClause_isolated
  split
  · exact compareContracts_isolated
  split
  · exact requireContract_then_isolated
  split
  · exact requireContract_then_isolated
  split
  · exact requireContract_only_isolated
  split
  · exact requireContract_only_isolated
  split
  · exact fileDocument_isolated
  split
  · exact sendCommitment_isolated
  split
  · exact provideLegalAdvice_isolated
  · exact Mutation.respects_raising _

end respects

end LegalHandlers

/-! ## Section 7: Isolation of the matters -/

namespace CompanyRiskGateway

variable {text : PyText} {context : Option CompanyExecutionContext} {action : ActionIntent}
  {s t : LegalSimulator}

/-- How the gateway answers a legal action. -/
def outcome (text : PyText) (context : Option CompanyExecutionContext) (action : ActionIntent)
    (sim : LegalSimulator) : Raises GovernedExecution :=
  (exec (decideAndExecute text context action) sim).1

/-- If the action compares two contracts, the records agree on whether both are
    on file under different matters that are not both permitted. -/
def ComparesAlike (context : Option CompanyExecutionContext) (action : ActionIntent)
    (s t : LegalSimulator) : Prop :=
  ∀ scope, context = some scope → action.tool_name = "compare_contracts" →
    (CrossMatter scope.permitted_matter_ids (some s) (idText action.arguments "left_id")
        (idText action.arguments "right_id") ↔
      CrossMatter scope.permitted_matter_ids (some t) (idText action.arguments "left_id")
        (idText action.arguments "right_id"))

/-- Validation answers alike when the comparison does. -/
theorem validate_eq (h : Agrees (permittedMatters context) s t)
    (hcompares : ComparesAlike context action s t) :
    validateCompanyAction action context (some s) =
      validateCompanyAction action context (some t) := by
  unfold validateCompanyAction
  by_cases hscoped : action.tool_name ∈ LEGAL_SCOPED_TOOLS
  · rw [if_pos hscoped, if_pos hscoped]
    unfold validateLegal
    cases context with
    | none => rfl
    | some scope =>
      have hauthorized : authorizedContractIds scope.permitted_matter_ids (some s) =
          authorizedContractIds scope.permitted_matter_ids (some t) := h.authorized_eq
      by_cases hcompare : action.tool_name = "compare_contracts"
      · have hcross := hcompares scope rfl hcompare
        simp only [hcompare, validateCompare, hauthorized, hcross]
      · simp only [if_neg hcompare, hauthorized]
  · rw [if_neg hscoped, if_neg hscoped]

/-- A result without execution has the status and the reason it is given. -/
theorem notExecuted_eq (action : ActionIntent) (s : LegalSimulator) (status : ExecutionStatus)
    (reason : String) (hstatus : status.toolExecuted = some false) (hreason : nonBlank reason = true) :
    ∃ g, exec (notExecuted action status reason) s = (.ok g, s) ∧ g.reason = reason := by
  have hnew := GovernedExecution.new_self ⟨status, action.request_id, some false, reason, none,
    .none, false, action.request_id_text, hreason, hstatus.symm, by simp⟩
  exact ⟨_, Prod.ext hnew rfl, rfl⟩

/-- The reason of an answer. -/
def reasonOf : Raises GovernedExecution → Option String
  | .ok g => some g.reason
  | .error _ => none

/-- An action that passed validation is not blocked for its matters. -/
theorem reasonOf_handler {m : Mutation Exn LegalSimulator Json} :
    reasonOf (exec (do
      let output ← m
      raising (GovernedExecution.new .executed action.request_id (some true) "allow" none
        (.json output) false)) s).1 ≠ some LEGAL_CROSS_MATTER_AUTHORITY_REQUIRED := by
  rw [Mutation.exec_bind]
  rcases exec m s with ⟨r, s'⟩
  cases r with
  | error e => simp [reasonOf]
  | ok output =>
    have hnew := GovernedExecution.new_self ⟨.executed, action.request_id, some true, "allow", none,
      .json output, false, action.request_id_text, by decide, rfl, by simp⟩
    simp only [Mutation.exec_raising]
    rw [hnew]
    show some "allow" ≠ some _
    decide

/-- The reason of a comparison tells whether the cross-matter test was met. -/
theorem reasonOf_outcome_iff (text : PyText) (s : LegalSimulator)
    (scope : CompanyExecutionContext) (hcompare : action.tool_name = "compare_contracts") :
    reasonOf (outcome text (some scope) action s) = some LEGAL_CROSS_MATTER_AUTHORITY_REQUIRED ↔
      CrossMatter scope.permitted_matter_ids (some s) (idText action.arguments "left_id")
        (idText action.arguments "right_id") := by
  have hvalidate : validateCompanyAction action (some scope) (some s) =
      validateCompare scope.permitted_matter_ids (some s) action.arguments := by
    unfold validateCompanyAction validateLegal
    simp only [hcompare]
    rfl
  unfold outcome decideAndExecute
  rw [Mutation.exec_read_bind, hvalidate]
  unfold validateCompare
  by_cases hcross : CrossMatter scope.permitted_matter_ids (some s)
      (idText action.arguments "left_id") (idText action.arguments "right_id")
  · obtain ⟨g, hg, hreason⟩ := notExecuted_eq action s .blocked
      LEGAL_CROSS_MATTER_AUTHORITY_REQUIRED rfl (by decide)
    simp only [if_pos hcross, ArgumentValidationResult.failed, if_true, Option.getD_some]
    rw [hg]
    simp [reasonOf, hreason, hcross]
  · simp only [if_neg hcross]
    refine iff_of_false ?_ hcross
    by_cases houtside : idText action.arguments "left_id" ∉
          authorizedContractIds scope.permitted_matter_ids (some s) ∨
        idText action.arguments "right_id" ∉
          authorizedContractIds scope.permitted_matter_ids (some s)
    · obtain ⟨g, hg, hreason⟩ := notExecuted_eq action s .blocked LEGAL_CONTRACT_OUTSIDE_SCOPE rfl
        (by decide)
      simp only [if_pos houtside, ArgumentValidationResult.failed, if_true, Option.getD_some]
      rw [hg]
      simp only [reasonOf, hreason]
      decide
    · have hrisk : decisionForTool action.tool_name = .ok .allow := by
        rw [hcompare]
        decide
      simp only [if_neg houtside, ArgumentValidationResult.passed, hrisk]
      exact reasonOf_handler

/-- The scope of an agent of the matter `matter-a`. -/
def matterScope : CompanyExecutionContext := ⟨{"matter-a"}, by decide⟩

/-- Text and sets, for runs on fixed inputs. -/
def plainText : PyText where
  lower := id
  order s := s.sort (· ≤ ·)
  mem_order _ _ := Finset.mem_sort (· ≤ ·)
  nodup_order s := Finset.sort_nodup s (· ≤ ·)

/-- The contract `ctr-v1` of the matter. -/
def ownContract : Dict :=
  Dict.of [("contract_id", .str "ctr-v1"), ("matter_id", .str "matter-a")] (by simp)

/-- The contract `ctr-b1` of another matter. -/
def foreignContract : Dict :=
  Dict.of [("contract_id", .str "ctr-b1"), ("matter_id", .str "matter-b")] (by simp)

/-- The records with the contract of the matter only. -/
def ownRecords : LegalSimulator where
  matters := Table.empty.set "matter-a" {"ctr-v1"}
  contracts := Table.empty.set "ctr-v1" ownContract
  access_log := []

/-- The records with a contract of another matter as well. -/
def foreignRecords : LegalSimulator :=
  { ownRecords with contracts := ownRecords.contracts.set "ctr-b1" foreignContract }

/-- A legal action. -/
def legalAction (tool_name : String) (arguments : Dict) (h : nonBlank tool_name = true) :
    ActionIntent :=
  { ActionIntent.contactRead with
    tool_name := tool_name
    arguments_json := Snapshot.ofDict arguments
    tool_name_text := h }

/-- Compare the own contract with the other one. -/
def compareAction : ActionIntent :=
  legalAction "compare_contracts"
    (Dict.of [("left_id", .str "ctr-v1"), ("right_id", .str "ctr-b1")] (by simp)) (by decide)

/-- Extract a clause of the other contract. -/
def extractAction : ActionIntent :=
  legalAction "extract_clause"
    (Dict.of [("contract_id", .str "ctr-b1"), ("clause_id", .str "c1")] (by simp)) (by decide)

theorem foreignRecords_agree : Agrees {"matter-a"} foreignRecords ownRecords := by
  constructor
  · intro matter_id _
    rfl
  · intro matter_id hmatter contract_id hcontract
    obtain rfl := Finset.mem_singleton.mp hmatter
    have hown : contract_id = "ctr-v1" := Finset.mem_singleton.mp hcontract
    subst hown
    decide

end CompanyRiskGateway

end CBrain

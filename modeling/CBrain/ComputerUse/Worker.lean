import CBrain.ComputerUse.Surface
import CBrain.Framework.LossyCalls
import CBrain.Simulators.HttpHistory

/-! # The computer worker and its client

    Models `cbrain/computer_use/protocol.py`, `worker.py` and `client.py`: the
    engine runs in another process, behind HTTP and a bearer token.

    A request and its response may be lost on the way.  `json.loads` of bytes
    in an encoding that nobody sends, and `int` of a header, are parameters.

    * `admitted`  : the call that a request makes, if the worker lets it through.
    * `relay`     : what becomes of an answer of the engine on its way back.
    * `engineRun` : calls of the engine itself. -/

namespace CBrain.ComputerUse

open Json (Dict)
open Mutation (raising write read exec)
open LossyCalls (Fate)
open Simulators (WideDecoder loadsWire memberOf)

/-! ## Section 1: The protocol -/

def WORKER_REQUEST_SCHEMA : String := "cbrain-computer-worker/request-v1"

def WORKER_RESPONSE_SCHEMA : String := "cbrain-computer-worker/response-v1"

/-- `_METHODS`. -/
def METHODS : List String := ["observe", "navigate", "click", "type_text", "submit", "health"]

/-- `ComputerProtocolError`. -/
def computerProtocolError (message : String) : Exn :=
  ⟨.other, "ComputerProtocolError", [.text message]⟩

/-- `isinstance(value, dict)`, or raise. -/
def objectOr (message : String) (value : Value) : Raises Dict :=
  match Json.dict? value.1 value.2 with
  | some d => .ok d
  | none => .error (computerProtocolError message)

/-- `build_request`. -/
def buildRequest (method : String) (params : Dict) : Raises Dict := do
  require (method ∈ METHODS) (computerProtocolError s!"unsupported computer method {reprStr method}")
  return object
    [("schema", .str WORKER_REQUEST_SCHEMA), ("method", .str method), ("params", .dict params)]

/-- `parse_request`. -/
def parseRequest (payload : Value) : Raises (String × Dict) := do
  let payload ← objectOr "computer request must be an object" payload
  require (payload.get "schema" = .str WORKER_REQUEST_SCHEMA)
    (computerProtocolError "computer request schema mismatch")
  match Json.str? (payload.get "method") with
  | none => .error (computerProtocolError "computer request method is invalid")
  | some method => do
    require (method ∈ METHODS) (computerProtocolError "computer request method is invalid")
    let params ← objectOr "computer request params must be an object" (memberOf payload "params")
    return (method, params)

/-- `build_response`. -/
def buildResponse (ok : Bool) (result : Option Dict) (error : Option String) : Dict :=
  object ([("schema", .str WORKER_RESPONSE_SCHEMA), ("ok", ⟨.bool ok, Json.WF.bool ok⟩)] ++
    (match result with
      | some result => [("result", .dict result)]
      | none => []) ++
    optMember "error" error)

/-- `parse_response`. -/
def parseResponse (payload : Value) : Raises Dict := do
  let payload ← objectOr "computer response must be an object" payload
  require (payload.get "schema" = .str WORKER_RESPONSE_SCHEMA)
    (computerProtocolError "computer response schema mismatch")
  match payload.get "ok" with
  | .bool _ => return payload
  | _ => .error (computerProtocolError "computer response ok must be boolean")

/-- `json.dumps(payload, allow_nan=False, separators=(",", ":"), sort_keys=True).encode()`, of a
    payload without floats. -/
def wireBytes (payload : Dict) : ByteArray := Json.encode (Json.dumps .compact payload.json)

/-! ## Section 2: The service -/

/-- `_require_text`. -/
def requiredParam (params : Dict) (key : String) : Raises String :=
  match params.get key with
  | .str s =>
    if nonBlank s then .ok s else .error (computerBackendError s!"{key} must be non-empty text")
  | _ => .error (computerBackendError s!"{key} must be non-empty text")

/-- The call that a method makes of its parameters, in the order in which they are required. -/
def callOf (params : Dict) (method : String) : Option (Raises ComputerCall) :=
  if method = "observe" then
    some do return .observe (← requiredParam params "url_alias")
  else if method = "navigate" then
    some do return .navigate (← requiredParam params "url_alias") (← requiredParam params "url")
  else if method = "click" then
    some do return .click (← requiredParam params "url_alias") (← requiredParam params "selector")
  else if method = "type_text" then
    some do
      return .typeText (← requiredParam params "url_alias") (← requiredParam params "selector")
        (← requiredParam params "text")
  else if method = "submit" then
    some do return .submit (← requiredParam params "url_alias") (← requiredParam params "selector")
  else none

/-- `to_wire` of an answer. -/
def ComputerAnswer.toWire : ComputerAnswer → Dict
  | .observed o => o.toWire
  | .acted r => r.toWire

/-- The response to an answer. -/
def answerResponse (answer : ComputerAnswer) : Dict := buildResponse true (some answer.toWire) none

/-- The response to a `ComputerBackendError`. -/
def errorResponse (message : String) : Dict := buildResponse false none (some message)

section service
variable {S : Type}

/-- `try: ... except ComputerBackendError`, around the calls of the engine. -/
def respondTo (m : Mutation Exn S ComputerAnswer) : Mutation Exn S Dict := ExceptT.mk fun s =>
  match exec m s with
  | (.ok answer, s') => (.ok (answerResponse answer), s')
  | (.error e, s') => (if isBackendError e then .ok (errorResponse e.str) else .error e, s')

/-- `ComputerWorkerService.handle`. -/
def handle (engine : BrowserEngine S) (method : String) (params : Dict) : Mutation Exn S Dict :=
  if method = "health" then
    pure (buildResponse true (some (object [("status", .str "ok")])) none)
  else
    match callOf params method with
    | some call => respondTo (raising call >>= engine.perform)
    | none => pure (errorResponse s!"unsupported method {reprStr method}")

/-! ## Section 3: HTTP -/

/-- What `json.loads` and `int` do with text that no client of this repository sends. -/
structure WireText where
  decodeWide : WideDecoder
  int : String → Option Int
  int_toString : ∀ n : Nat, int (toString n) = some n

/-- A request as the handler finds it: the path of its target, two headers, and the body. -/
structure HttpRequest where
  path : String
  authorization : Option String
  content_length : Option String
  body : ByteArray

structure HttpResponse where
  status : Nat
  payload : Dict

/-- `serve_computer_worker`. -/
structure ComputerWorker (S : Type) where
  text : WireText
  token : String
  engine : BrowserEngine S
  token_text : nonBlank token = true

/-- `_MAX_BODY`. -/
def MAX_BODY : Nat := 256 * 1024

namespace ComputerWorker

variable (worker : ComputerWorker S)

/-- `_authorized`. -/
def authorized (q : HttpRequest) : Bool :=
  q.authorization.getD "" == "Bearer " ++ worker.token

/-- `do_GET`. -/
def get (q : HttpRequest) : HttpResponse :=
  if q.path ≠ "/health" then ⟨404, errorResponse "not_found"⟩
  else if worker.authorized q = false then ⟨401, errorResponse "unauthorized"⟩
  else ⟨200, buildResponse true (some (object [("status", .str "ok")])) none⟩

/-- What `do_POST` makes of a request before it hands it to the service. -/
def accepted (q : HttpRequest) : Except HttpResponse (String × Dict) :=
  if q.path ≠ "/v1/computer" then .error ⟨404, errorResponse "not_found"⟩
  else if worker.authorized q = false then .error ⟨401, errorResponse "unauthorized"⟩
  else
    match worker.text.int (q.content_length.getD "") with
    | none => .error ⟨400, errorResponse "bad_length"⟩
    | some length =>
      if length < 0 ∨ MAX_BODY < length then .error ⟨400, errorResponse "body_too_large"⟩
      else
        match loadsWire worker.text.decodeWide (q.body.extract 0 length.toNat) >>= parseRequest with
        -- Nothing else than the three classes of the `except` clause is raised here.
        | .error e => .error ⟨400, errorResponse s!"protocol:{e.name}"⟩
        | .ok request => .ok request

/-- `do_POST`. -/
def post (q : HttpRequest) : Mutation Exn S HttpResponse :=
  match worker.accepted q with
  | .error response => pure response
  | .ok (method, params) => do
    let response ← handle worker.engine method params
    return ⟨if isTruthy (response.get "ok") then 200 else 400, response⟩

end ComputerWorker

/-! ## Section 4: The client -/

/-- `RemoteComputerBackend`, with the path of its normalized endpoint. -/
structure RemoteComputerBackend where
  decodeWide : WideDecoder
  path : String
  token : String
  max_response_bytes : Nat
  token_text : nonBlank token = true
  max_pos : 0 < max_response_bytes

/-- The method of a call. -/
def ComputerCall.method : ComputerCall → String
  | .observe _ => "observe"
  | .navigate _ _ => "navigate"
  | .click _ _ => "click"
  | .typeText _ _ _ => "type_text"
  | .submit _ _ => "submit"

/-- The parameters of a call. -/
def ComputerCall.fields : ComputerCall → List (String × String)
  | .observe url_alias => [("url_alias", url_alias)]
  | .navigate url_alias url => [("url_alias", url_alias), ("url", url)]
  | .click url_alias selector => [("url_alias", url_alias), ("selector", selector)]
  | .typeText url_alias selector text =>
    [("url_alias", url_alias), ("selector", selector), ("text", text)]
  | .submit url_alias selector => [("url_alias", url_alias), ("selector", selector)]

/-- `params`. -/
def ComputerCall.params (call : ComputerCall) : Dict :=
  object (call.fields.map fun field => (field.1, .str field.2))

/-- The payload of a call. -/
def ComputerCall.payload (call : ComputerCall) : Dict :=
  object
    [("schema", .str WORKER_REQUEST_SCHEMA), ("method", .str call.method),
      ("params", .dict call.params)]

/-- What is raised when no response comes back. -/
def requestFailed (name : String) : Exn :=
  computerBackendError s!"computer worker request failed:{name}"

/-- What is raised for a response over the limit. -/
def responseTooLarge : Exn := computerBackendError "computer worker response too large"

/-- `_result_from_raw`.  Of a longer response one byte more than the limit is read, which is as
    much too large. -/
def resultFromRaw (decodeWide : WideDecoder) (raw : ByteArray) (max_response_bytes : Nat)
    (http_error : Option Nat) : Raises Dict :=
  if max_response_bytes < raw.size then .error responseTooLarge
  else
    match loadsWire decodeWide raw >>= parseResponse with
    | .error e =>
      if e.kind = .jsonDecodeError ∨ e.name = "ComputerProtocolError" then
        match http_error with
        | some code => .error (computerBackendError s!"computer worker HTTP {code}")
        | none => .error (computerBackendError "computer worker response invalid")
      else .error e
    | .ok decoded =>
      if isTruthy (decoded.get "ok") then
        match Json.dict? (decoded.get "result") (decoded.wf_get _) with
        | some result => .ok result
        | none => .error (computerBackendError "computer worker result missing")
      else
        .error (computerBackendError
          (pyStr (pyOr (decoded.get "error") (.str "computer worker error"))))

/-- The answer that a result is read as. -/
def ComputerCall.answerOf (call : ComputerCall) (result : Dict) : ComputerAnswer :=
  match call with
  | .observe _ => .observed (.fromWire result)
  | _ => .acted (.fromWire result)

/-- A call, how it fares, and what `urlopen` raises if nothing comes back. -/
structure Attempt where
  call : ComputerCall
  fate : Fate
  failure : String

namespace RemoteComputerBackend

variable (client : RemoteComputerBackend)

/-- The request that `_call` sends. -/
def request (call : ComputerCall) : HttpRequest where
  path := client.path
  authorization := some ("Bearer " ++ client.token)
  content_length := some (toString (wireBytes call.payload).size)
  body := wireBytes call.payload

/-- What `_call` makes of what came back.  A handler that raises writes no response, and `failure`
    is the class of what `urlopen` then raises. -/
def receive (failure : String) : Option (Except Exn HttpResponse) → Raises Dict
  | some (.ok response) =>
    resultFromRaw client.decodeWide (wireBytes response.payload) client.max_response_bytes
      (if 400 ≤ response.status then some response.status else none)
  | some (.error _) | none => .error (requestFailed failure)

/-- `_call`. -/
def send (worker : ComputerWorker S) (a : Attempt) : Mutation Exn S Dict := ExceptT.mk fun s =>
  let (back, s') := LossyCalls.call (fun q => exec (worker.post q)) a.fate (client.request a.call) s
  (client.receive a.failure back, s')

/-- A call through the client. -/
def attempt (worker : ComputerWorker S) (a : Attempt) : Mutation Exn S ComputerAnswer := do
  return a.call.answerOf (← client.send worker a)

end RemoteComputerBackend

end service

/-! ## Section 5: What is sent is read -/

theorem members_ne_of_get {d : Dict} {k : String} (h : d.get k ≠ .null) : d.members ≠ [] := by
  intro hnil
  apply h
  unfold Dict.get Dict.get?
  rw [hnil]
  rfl

/-- **Round trip of a payload**: any object with a member is read as it was sent. -/
theorem loadsWire_wireBytes (decodeWide : WideDecoder) {d : Dict} {k : String}
    (h : d.get k ≠ .null) : loadsWire decodeWide (wireBytes d) = .ok (.dict d) := by
  -- The text begins as an object with a member, so that it is taken for UTF-8.
  obtain ⟨cs, hcs⟩ : ∃ cs, Json.dumps .compact d.json = '{' :: '"' :: cs := by
    obtain ⟨m, ms, hms⟩ := List.exists_cons_of_ne_nil (members_ne_of_get h)
    unfold Dict.json
    rw [hms]
    exact ⟨_, rfl⟩
  have htext : Simulators.decodeText decodeWide (wireBytes d) =
      some (Json.dumps .compact d.json) := by
    unfold Simulators.decodeText wireBytes
    rw [hcs, Simulators.bytes_object, Simulators.detectEncoding_object (by decide)]
    show (String.fromUTF8? (Json.encode _)).map String.toList = _
    rw [Json.encode, Json.fromUTF8?_toUTF8, Option.map_some, String.toList_ofList]
  have hloads : Json.loads (Json.dumps .compact d.json) = some d.json :=
    Json.loads_dumps .compact d.wf
  unfold loadsWire
  rw [htext]
  simp only []
  split
  · next hnone =>
    rw [hloads] at hnone
    cases hnone
  · next payload hpayload =>
    rw [hloads] at hpayload
    obtain rfl := Option.some.inj hpayload
    rfl

/-- The texts of a call, none of them blank. -/
def ComputerCall.Filled (call : ComputerCall) : Prop :=
  ∀ field ∈ call.fields, nonBlank field.2 = true

instance (call : ComputerCall) : Decidable call.Filled :=
  inferInstanceAs (Decidable (∀ field ∈ call.fields, nonBlank field.2 = true))

theorem ComputerCall.method_mem (call : ComputerCall) : call.method ∈ METHODS := by
  cases call <;> simp [ComputerCall.method, METHODS]

theorem buildRequest_payload (call : ComputerCall) :
    buildRequest call.method call.params = .ok call.payload := require_bind_pos call.method_mem

theorem get_params (call : ComputerCall) :
    ∀ field ∈ call.fields, call.params.get field.1 = .str field.2 := by
  intro field h
  unfold ComputerCall.params
  rw [object_get]
  cases call <;>
    simp only [ComputerCall.fields, List.mem_cons, List.not_mem_nil, or_false] at h
  case observe url_alias =>
    obtain rfl := h
    rfl
  case typeText url_alias selector text => rcases h with rfl | rfl | rfl <;> rfl
  all_goals rcases h with rfl | rfl <;> rfl

theorem parseRequest_payload (call : ComputerCall) :
    parseRequest (.dict call.payload) = .ok (call.method, call.params) := by
  have hschema : call.payload.get "schema" = .str WORKER_REQUEST_SCHEMA := by
    unfold ComputerCall.payload
    rw [object_get]
    rfl
  have hmethod : call.payload.get "method" = .str call.method := by
    unfold ComputerCall.payload
    rw [object_get]
    rfl
  have hparams : call.payload.get "params" = call.params.json := by
    unfold ComputerCall.payload
    rw [object_get]
    rfl
  have hobject : ∀ message, objectOr message (.dict call.payload) = .ok call.payload :=
    fun message => rfl
  have hinner : ∀ message, objectOr message (memberOf call.payload "params") =
      .ok call.params := by
    intro message
    unfold objectOr memberOf
    rw [dict?_of_eq hparams]
  unfold parseRequest
  rw [hobject, ok_bind, hschema, require_bind_pos rfl, hmethod, Json.str?_str]
  simp only
  rw [require_bind_pos call.method_mem, hinner]
  rfl

theorem checked_bind {α β : Type} (b : Bool) (a : α) (e : Exn) (f : α → Raises β) :
    ((if b then .ok a else .error e : Raises α) >>= f) = if b then f a else .error e := by
  cases b <;> rfl

/-- **What is asked for**: the call itself, or an error if one of its texts is blank. -/
theorem callOf_of_get {call : ComputerCall} {params : Dict}
    (hget : ∀ field ∈ call.fields, params.get field.1 = .str field.2) :
    ∃ asked, callOf params call.method = some asked ∧
      (call.Filled → asked = .ok call) ∧
      (¬ call.Filled → ∃ message, asked = .error (computerBackendError message)) := by
  -- A parameter is its text, unless that is blank.
  have hparam : ∀ key s, (key, s) ∈ call.fields → requiredParam params key =
      if nonBlank s then .ok s else
        .error (computerBackendError s!"{key} must be non-empty text") := by
    intro key s h
    have hs := hget (key, s) h
    unfold requiredParam
    rw [show params.get key = .str s from hs]
  cases call with
  | observe url_alias =>
    refine ⟨_, by simp only [callOf, ComputerCall.method, String.reduceEq, reduceIte]; rfl, ?_⟩
    rw [hparam "url_alias" url_alias (by simp [ComputerCall.fields])]
    simp only [checked_bind, ComputerCall.Filled, ComputerCall.fields, List.forall_mem_cons,
      List.not_mem_nil, false_implies, implies_true, and_true]
    split_ifs <;> simp_all [pure, Except.pure]
  | navigate url_alias url =>
    refine ⟨_, by simp only [callOf, ComputerCall.method, String.reduceEq, reduceIte]; rfl, ?_⟩
    rw [hparam "url_alias" url_alias (by simp [ComputerCall.fields]),
      hparam "url" url (by simp [ComputerCall.fields])]
    simp only [checked_bind, ComputerCall.Filled, ComputerCall.fields, List.forall_mem_cons,
      List.not_mem_nil, false_implies, implies_true, and_true]
    split_ifs <;> simp_all [pure, Except.pure]
  | click url_alias selector =>
    refine ⟨_, by simp only [callOf, ComputerCall.method, String.reduceEq, reduceIte]; rfl, ?_⟩
    rw [hparam "url_alias" url_alias (by simp [ComputerCall.fields]),
      hparam "selector" selector (by simp [ComputerCall.fields])]
    simp only [checked_bind, ComputerCall.Filled, ComputerCall.fields, List.forall_mem_cons,
      List.not_mem_nil, false_implies, implies_true, and_true]
    split_ifs <;> simp_all [pure, Except.pure]
  | typeText url_alias selector text =>
    refine ⟨_, by simp only [callOf, ComputerCall.method, String.reduceEq, reduceIte]; rfl, ?_⟩
    rw [hparam "url_alias" url_alias (by simp [ComputerCall.fields]),
      hparam "selector" selector (by simp [ComputerCall.fields]),
      hparam "text" text (by simp [ComputerCall.fields])]
    simp only [checked_bind, ComputerCall.Filled, ComputerCall.fields, List.forall_mem_cons,
      List.not_mem_nil, false_implies, implies_true, and_true]
    split_ifs <;> simp_all [pure, Except.pure]
  | submit url_alias selector =>
    refine ⟨_, by simp only [callOf, ComputerCall.method, String.reduceEq, reduceIte]; rfl, ?_⟩
    rw [hparam "url_alias" url_alias (by simp [ComputerCall.fields]),
      hparam "selector" selector (by simp [ComputerCall.fields])]
    simp only [checked_bind, ComputerCall.Filled, ComputerCall.fields, List.forall_mem_cons,
      List.not_mem_nil, false_implies, implies_true, and_true]
    split_ifs <;> simp_all [pure, Except.pure]

/-! ## Section 6: What comes back -/

theorem schema_buildResponse (ok : Bool) (result : Option Dict) (error : Option String) :
    (buildResponse ok result error).get "schema" = .str WORKER_RESPONSE_SCHEMA := by
  unfold buildResponse
  rw [object_get]
  cases result <;> cases error <;> rfl

theorem parseResponse_build (ok : Bool) (result : Option Dict) (error : Option String) :
    parseResponse (.dict (buildResponse ok result error)) = .ok (buildResponse ok result error) := by
  have hok : (buildResponse ok result error).get "ok" = .bool ok := by
    unfold buildResponse
    rw [object_get]
    cases result <;> cases error <;> rfl
  have hobject : ∀ message, objectOr message (.dict (buildResponse ok result error)) =
      .ok (buildResponse ok result error) := fun message => rfl
  unfold parseResponse
  rw [hobject, ok_bind, schema_buildResponse, require_bind_pos rfl, hok]
  rfl

/-- A response of the worker is read as it was built. -/
theorem loads_response (decodeWide : WideDecoder) (ok : Bool) (result : Option Dict)
    (error : Option String) :
    (loadsWire decodeWide (wireBytes (buildResponse ok result error)) >>= parseResponse) =
      .ok (buildResponse ok result error) := by
  have hschema : (buildResponse ok result error).get "schema" ≠ .null := by
    rw [schema_buildResponse]
    exact Json.noConfusion
  rw [loadsWire_wireBytes decodeWide hschema, ok_bind, parseResponse_build]

/-- An answer arrives if it is not over the limit. -/
theorem resultFromRaw_answer (decodeWide : WideDecoder) (answer : ComputerAnswer) (limit : Nat)
    (http_error : Option Nat) :
    resultFromRaw decodeWide (wireBytes (answerResponse answer)) limit http_error =
      if limit < (wireBytes (answerResponse answer)).size then .error responseTooLarge
      else .ok answer.toWire := by
  have hok : (answerResponse answer).get "ok" = .bool true := by
    unfold answerResponse buildResponse
    rw [object_get]
    rfl
  have hresult : (answerResponse answer).get "result" = answer.toWire.json := by
    unfold answerResponse buildResponse
    rw [object_get]
    rfl
  unfold resultFromRaw
  congr 1
  have hloads := loads_response decodeWide true (some answer.toWire) none
  change (loadsWire decodeWide (wireBytes (answerResponse answer)) >>= parseResponse) =
    .ok (answerResponse answer) at hloads
  rw [hloads]
  simp only [hok, isTruthy, if_true, dict?_of_eq hresult]

/-- The text of an error as the client reports it. -/
def reported (message : String) : String :=
  if message = "" then "computer worker error" else message

/-- An error arrives as the text it has, if that is not over the limit. -/
theorem resultFromRaw_error (decodeWide : WideDecoder) (message : String) (limit : Nat)
    (http_error : Option Nat) :
    resultFromRaw decodeWide (wireBytes (errorResponse message)) limit http_error =
      if limit < (wireBytes (errorResponse message)).size then .error responseTooLarge
      else .error (computerBackendError (reported message)) := by
  have hok : (errorResponse message).get "ok" = .bool false := by
    unfold errorResponse buildResponse
    rw [object_get]
    rfl
  have herror : (errorResponse message).get "error" = .str message := by
    unfold errorResponse buildResponse
    rw [object_get]
    rfl
  have hreported : pyStr (pyOr (.str message) (.str "computer worker error")) = reported message := by
    unfold pyOr reported isTruthy
    by_cases h : message = "" <;> simp [h, pyStr]
  unfold resultFromRaw
  congr 1
  have hloads := loads_response decodeWide false none (some message)
  change (loadsWire decodeWide (wireBytes (errorResponse message)) >>= parseResponse) =
    .ok (errorResponse message) at hloads
  rw [hloads]
  simp only [hok, isTruthy, herror, hreported]
  rfl

/-- An answer is read back as what it was. -/
theorem answerOf_perform {S : Type} (engine : BrowserEngine S) (call : ComputerCall) :
    Mutation.Yields (fun answer => call.answerOf answer.toWire = answer) (engine.perform call) := by
  have hacted : ∀ r : BackendActResult, BackendActResult.fromWire r.toWire = r :=
    BackendActResult.fromWire_toWire
  cases call with
  | observe url_alias =>
    refine Mutation.yields_bind fun o => Mutation.yields_pure ?_
    exact congrArg ComputerAnswer.observed o.fromWire_toWire
  | navigate url_alias url =>
    exact Mutation.yields_bind fun r => Mutation.yields_pure (congrArg ComputerAnswer.acted (hacted r))
  | click url_alias selector =>
    exact Mutation.yields_bind fun r => Mutation.yields_pure (congrArg ComputerAnswer.acted (hacted r))
  | typeText url_alias selector text =>
    exact Mutation.yields_bind fun r => Mutation.yields_pure (congrArg ComputerAnswer.acted (hacted r))
  | submit url_alias selector =>
    exact Mutation.yields_bind fun r => Mutation.yields_pure (congrArg ComputerAnswer.acted (hacted r))

/-! ## Section 7: What the worker lets through -/

section worker
variable {S : Type} (worker : ComputerWorker S)

/-- The call that a request makes of the engine, if it makes one. -/
def ComputerWorker.admitted (q : HttpRequest) : Option ComputerCall :=
  match worker.accepted q with
  | .ok (method, params) =>
    match callOf params method with
    | some (.ok call) => some call
    | _ => none
  | .error _ => none

/-- Calls of the engine, one after the other. -/
def BrowserEngine.serve (engine : BrowserEngine S) :
    LossyCalls.Server ComputerCall (Raises ComputerAnswer) S :=
  fun call => exec (engine.perform call)

/-- Requests to the worker, one after the other. -/
def ComputerWorker.serve : LossyCalls.Server HttpRequest (Except Exn HttpResponse) S :=
  fun q => exec (worker.post q)

@[simp] theorem exec_respondTo (m : Mutation Exn S ComputerAnswer) (s : S) :
    exec (respondTo m) s =
      match exec m s with
      | (.ok answer, s') => (.ok (answerResponse answer), s')
      | (.error e, s') => (if isBackendError e then .ok (errorResponse e.str) else .error e, s') :=
  rfl

/-- What the worker makes of an answer of the engine. -/
def respond : Raises ComputerAnswer → Except Exn HttpResponse
  | .ok answer => .ok ⟨200, answerResponse answer⟩
  | .error e => if isBackendError e then .ok ⟨400, errorResponse e.str⟩ else .error e

theorem status_answerResponse (answer : ComputerAnswer) :
    isTruthy ((answerResponse answer).get "ok") = true := by
  unfold answerResponse buildResponse
  rw [object_get]
  rfl

theorem status_errorResponse (message : String) :
    isTruthy ((errorResponse message).get "ok") = false := by
  unfold errorResponse buildResponse
  rw [object_get]
  rfl

/-- **An admitted request** is one call of the engine. -/
theorem ComputerWorker.serve_admitted {q : HttpRequest} {call : ComputerCall}
    (h : worker.admitted q = some call) (s : S) :
    worker.serve q s = (respond (worker.engine.serve call s).1, (worker.engine.serve call s).2) := by
  unfold admitted at h
  split at h
  · next method params haccepted =>
    split at h
    · next asked hcall =>
      obtain rfl := Option.some.inj h
      have hmethod : method ≠ "health" := by
        intro he
        rw [he] at hcall
        simp [callOf] at hcall
      unfold serve post
      rw [haccepted]
      simp only [handle, if_neg hmethod, hcall]
      show exec (respondTo (raising (.ok asked) >>= worker.engine.perform) >>= _) s = _
      have hperform : (raising (.ok asked) >>= worker.engine.perform) =
          worker.engine.perform asked := rfl
      rw [hperform, Mutation.exec_bind, exec_respondTo]
      unfold BrowserEngine.serve
      rcases hrun : exec (worker.engine.perform asked) s with ⟨r, s'⟩
      cases r with
      | ok answer => simp [respond, status_answerResponse]
      | error e =>
        by_cases he : isBackendError e = true
        · simp [respond, he, status_errorResponse]
        · simp [respond, he]
    · cases h
  · cases h

/-- What `require_text` raises is a `ComputerBackendError`. -/
theorem error_of_requiredParam {params : Dict} {key : String} {e : Exn}
    (h : requiredParam params key = .error e) : isBackendError e = true := by
  unfold requiredParam at h
  split at h
  · split at h
    · cases h
    · obtain rfl := Except.error.inj h
      rfl
  · obtain rfl := Except.error.inj h
    rfl

/-- A check that may raise, with what follows it. -/
theorem backendError_bind {α β : Type} {x : Raises α} {f : α → Raises β}
    (hx : ∀ e, x = .error e → isBackendError e = true)
    (hf : ∀ a e, f a = .error e → isBackendError e = true) (e : Exn)
    (h : (x >>= f) = .error e) : isBackendError e = true := by
  rcases bind_error.mp h with hx' | ⟨a, ha, hf'⟩
  · exact hx e hx'
  · exact hf a e hf'

theorem error_of_callOf {params : Dict} {method : String} {e : Exn}
    (h : callOf params method = some (.error e)) : isBackendError e = true := by
  have hparam : ∀ key e, requiredParam params key = .error e → isBackendError e = true :=
    fun _ _ => error_of_requiredParam
  have hpure : ∀ (call : ComputerCall) e, (pure call : Raises ComputerCall) = .error e →
      isBackendError e = true := by
    intro call e he
    cases he
  unfold callOf at h
  split_ifs at h
  · exact backendError_bind (hparam _) (fun _ => hpure _) e (Option.some.inj h)
  · exact backendError_bind (hparam _) (fun _ => backendError_bind (hparam _) fun _ => hpure _) e
      (Option.some.inj h)
  · exact backendError_bind (hparam _) (fun _ => backendError_bind (hparam _) fun _ => hpure _) e
      (Option.some.inj h)
  · exact backendError_bind (hparam _) (fun _ => backendError_bind (hparam _) fun _ =>
      backendError_bind (hparam _) fun _ => hpure _) e (Option.some.inj h)
  · exact backendError_bind (hparam _) (fun _ => backendError_bind (hparam _) fun _ => hpure _) e
      (Option.some.inj h)

/-- A response without the engine. -/
def HttpResponse.Refuses (response : HttpResponse) : Prop :=
  response.status ≠ 200 ∧ ∃ message, response.payload = errorResponse message

theorem refuses_errorResponse {status : Nat} (h : status ≠ 200) (message : String) :
    HttpResponse.Refuses ⟨status, errorResponse message⟩ := ⟨h, message, rfl⟩

theorem refuses_of_accepted {q : HttpRequest} {response : HttpResponse}
    (h : worker.accepted q = .error response) : response.Refuses := by
  unfold ComputerWorker.accepted at h
  split_ifs at h
  · obtain rfl := Except.error.inj h
    exact refuses_errorResponse (by decide) _
  · obtain rfl := Except.error.inj h
    exact refuses_errorResponse (by decide) _
  · split at h
    · obtain rfl := Except.error.inj h
      exact refuses_errorResponse (by decide) _
    · split_ifs at h
      · obtain rfl := Except.error.inj h
        exact refuses_errorResponse (by decide) _
      · split at h
        · obtain rfl := Except.error.inj h
          exact refuses_errorResponse (by decide) _
        · cases h

/-- The request is refused, or asks for the health of the worker. -/
def ComputerWorker.TurnedAway (q : HttpRequest) (answer : Except Exn HttpResponse) : Prop :=
  ∃ response, answer = .ok response ∧
    (response.Refuses ∨ ∃ params, worker.accepted q = .ok ("health", params))

/-- **Any other request** is answered without the engine. -/
theorem ComputerWorker.serve_refused {q : HttpRequest} (h : worker.admitted q = none) (s : S) :
    worker.TurnedAway q (worker.serve q s).1 ∧ (worker.serve q s).2 = s := by
  unfold admitted at h
  unfold serve post
  split at h
  · next method params haccepted =>
    rw [haccepted]
    simp only
    unfold handle
    by_cases hhealth : method = "health"
    · rw [if_pos hhealth]
      rw [hhealth] at haccepted
      exact ⟨⟨_, rfl, .inr ⟨params, haccepted⟩⟩, rfl⟩
    · rw [if_neg hhealth]
      cases hcall : callOf params method with
      | none =>
        simp only [Mutation.exec_bind, Mutation.exec_pure, status_errorResponse]
        exact ⟨⟨_, rfl, .inl (refuses_errorResponse (by decide) _)⟩, trivial⟩
      | some asked =>
        rw [hcall] at h
        cases asked with
        | ok call => cases h
        | error e =>
          -- A parameter was missing, so that the engine is not called.
          have hrun : exec (respondTo (raising (.error e) >>= worker.engine.perform)) s =
              (.ok (errorResponse e.str), s) := by
            rw [exec_respondTo, Mutation.exec_error_bind]
            simp only [error_of_callOf hcall, if_true]
          simp only [Mutation.exec_bind, hrun, Mutation.exec_pure, status_errorResponse]
          exact ⟨⟨_, rfl, .inl (refuses_errorResponse (by decide) _)⟩, trivial⟩
  · next response haccepted =>
    rw [haccepted]
    exact ⟨⟨response, rfl, .inl (refuses_of_accepted worker haccepted)⟩, rfl⟩

theorem requiredParam_ok {params : Dict} {key text : String}
    (h : requiredParam params key = .ok text) :
    params.get key = .str text ∧ nonBlank text = true := by
  unfold requiredParam at h
  split at h
  · next s hget =>
    split at h
    · next hs =>
      obtain rfl := Except.ok.inj h
      exact ⟨hget, hs⟩
    · cases h
  · cases h

/-- **A call that is made** has the texts of its request, none of them blank. -/
theorem callOf_ok {params : Dict} {method : String} {call : ComputerCall}
    (h : callOf params method = some (.ok call)) :
    method = call.method ∧ call.Filled ∧
      ∀ field ∈ call.fields, params.get field.1 = .str field.2 := by
  have hone : ∀ {key : String} {f : String → ComputerCall},
      (do return f (← requiredParam params key)) = Except.ok call →
      ∃ a, (params.get key = .str a ∧ nonBlank a = true) ∧ f a = call := by
    intro key f hrun
    obtain ⟨a, ha, hrun⟩ := bind_ok.mp hrun
    exact ⟨a, requiredParam_ok ha, Except.ok.inj hrun⟩
  have htwo : ∀ {key key' : String} {f : String → String → ComputerCall},
      (do return f (← requiredParam params key) (← requiredParam params key')) = Except.ok call →
      ∃ a b, (params.get key = .str a ∧ nonBlank a = true) ∧
        (params.get key' = .str b ∧ nonBlank b = true) ∧ f a b = call := by
    intro key key' f hrun
    obtain ⟨a, ha, hrun⟩ := bind_ok.mp hrun
    obtain ⟨b, hb, hrun⟩ := bind_ok.mp hrun
    exact ⟨a, b, requiredParam_ok ha, requiredParam_ok hb, Except.ok.inj hrun⟩
  unfold callOf at h
  split_ifs at h with hobserve hnavigate hclick htype hsubmit
  · obtain ⟨a, ha, rfl⟩ := hone (Option.some.inj h)
    refine ⟨hobserve, ?_, ?_⟩ <;> simp [ComputerCall.Filled, ComputerCall.fields, ha]
  · obtain ⟨a, b, ha, hb, rfl⟩ := htwo (Option.some.inj h)
    refine ⟨hnavigate, ?_, ?_⟩ <;> simp [ComputerCall.Filled, ComputerCall.fields, ha, hb]
  · obtain ⟨a, b, ha, hb, rfl⟩ := htwo (Option.some.inj h)
    refine ⟨hclick, ?_, ?_⟩ <;> simp [ComputerCall.Filled, ComputerCall.fields, ha, hb]
  · obtain ⟨a, ha, h⟩ := bind_ok.mp (Option.some.inj h)
    obtain ⟨b, c, hb, hc, rfl⟩ := htwo h
    have ha := requiredParam_ok ha
    refine ⟨htype, ?_, ?_⟩ <;> simp [ComputerCall.Filled, ComputerCall.fields, ha, hb, hc]
  · obtain ⟨a, b, ha, hb, rfl⟩ := htwo (Option.some.inj h)
    refine ⟨hsubmit, ?_, ?_⟩ <;> simp [ComputerCall.Filled, ComputerCall.fields, ha, hb]

/-- What a request that makes a call is like. -/
structure ComputerWorker.Admits (q : HttpRequest) (call : ComputerCall) : Prop where
  path : q.path = "/v1/computer"
  authorization : q.authorization = some ("Bearer " ++ worker.token)
  filled : call.Filled
  /-- The body is read up to its length, which is bounded, and has the texts of the call. -/
  body : ∃ length ≤ MAX_BODY, worker.text.int (q.content_length.getD "") = some (length : Int) ∧
    ∃ params, (loadsWire worker.text.decodeWide (q.body.extract 0 length) >>= parseRequest) =
        .ok (call.method, params) ∧
      ∀ field ∈ call.fields, params.get field.1 = .str field.2

theorem ComputerWorker.authorized_iff (q : HttpRequest) :
    worker.authorized q = true ↔ q.authorization = some ("Bearer " ++ worker.token) := by
  unfold authorized
  rw [beq_iff_eq]
  cases q.authorization with
  | none =>
    -- The header is not empty.
    refine ⟨fun h => ?_, fun h => nomatch h⟩
    have hlength := congrArg String.length h
    rw [String.length_append] at hlength
    have hbearer : "Bearer ".length = 7 := by decide
    simp only [Option.getD_none, String.length_empty] at hlength
    omega
  | some header => simp

/-- Only the health is told by `GET`, and only to who has the token. -/
theorem ComputerWorker.get_ok (q : HttpRequest) :
    (worker.get q).status = 200 ↔
      q.path = "/health" ∧ q.authorization = some ("Bearer " ++ worker.token) := by
  rw [← worker.authorized_iff]
  unfold get
  split_ifs with hpath hauth
  · exact ⟨fun h => absurd h (by decide), fun h => absurd h.1 hpath⟩
  · rw [hauth]
    exact ⟨fun h => absurd h (by decide), fun h => absurd h.2 Bool.false_ne_true⟩
  · exact ⟨fun _ => ⟨not_not.mp hpath, Bool.eq_true_of_not_eq_false hauth⟩, fun _ => rfl⟩

theorem ComputerWorker.admits_of_admitted {q : HttpRequest} {call : ComputerCall}
    (h : worker.admitted q = some call) : worker.Admits q call := by
  unfold admitted at h
  split at h
  · next method params haccepted =>
    split at h
    · next asked hcall =>
      obtain rfl := Option.some.inj h
      obtain ⟨rfl, hfilled, hfields⟩ := callOf_ok hcall
      unfold accepted at haccepted
      split_ifs at haccepted with hpath hauth
      split at haccepted
      · cases haccepted
      · next length hint =>
        split_ifs at haccepted with hbound
        split at haccepted
        · cases haccepted
        · next request hrequest =>
          obtain rfl := Except.ok.inj haccepted
          rw [not_or, not_lt, not_lt] at hbound
          have hlength : ((length.toNat : Nat) : Int) = length := Int.toNat_of_nonneg hbound.1
          refine ⟨not_not.mp hpath, ?_, hfilled, length.toNat, by omega, ?_, params, hrequest, hfields⟩
          · exact (worker.authorized_iff q).mp (Bool.eq_true_of_not_eq_false hauth)
          · rw [hlength, hint]
    · cases h
  · cases h

theorem ComputerWorker.admitted_of_admits {q : HttpRequest} {call : ComputerCall}
    (h : worker.Admits q call) : worker.admitted q = some call := by
  obtain ⟨length, hbound, hint, params, hrequest, hget⟩ := h.body
  have haccepted : worker.accepted q = .ok (call.method, params) := by
    have hneg : ¬ ((length : Int) < 0 ∨ (MAX_BODY : Int) < length) := by omega
    unfold accepted
    rw [if_neg (not_not.mpr h.path), if_neg (by simp [(worker.authorized_iff q).mpr h.authorization]),
      hint]
    simp only [if_neg hneg, Int.toNat_natCast, hrequest]
  obtain ⟨asked, hasked, hfilled, -⟩ := callOf_of_get hget
  unfold admitted
  simp only [haccepted, hasked, hfilled h.filled]

/-- **Admission**: exactly these requests make a call. -/
theorem ComputerWorker.admitted_iff {q : HttpRequest} {call : ComputerCall} :
    worker.admitted q = some call ↔ worker.Admits q call :=
  ⟨worker.admits_of_admitted, worker.admitted_of_admits⟩

theorem ComputerWorker.guards : LossyCalls.Guards worker.serve worker.engine.serve worker.admitted where
  refused := fun _ s h => (worker.serve_refused h s).2
  admitted := fun _ _ s h => congrArg Prod.snd (worker.serve_admitted h s)

end worker

/-! ## Section 8: The client over the worker -/

/-- What becomes of an answer of the engine on its way back. -/
def relay (limit : Nat) (failure : String) : Raises ComputerAnswer → Raises ComputerAnswer
  | .ok answer =>
    if limit < (wireBytes (answerResponse answer)).size then .error responseTooLarge
    else .ok answer
  | .error e =>
    if isBackendError e then
      if limit < (wireBytes (errorResponse e.str)).size then .error responseTooLarge
      else .error (computerBackendError (reported e.str))
    -- The handler of the request dies, and with it the connection.
    else .error (requestFailed failure)

section client
variable {S : Type} (client : RemoteComputerBackend) (worker : ComputerWorker S)

/-- The worker takes the requests of a call: it is at the client's endpoint, has its token, and the
    call is neither blank nor too long. -/
def RemoteComputerBackend.Reaches (call : ComputerCall) : Prop :=
  client.path = "/v1/computer" ∧ client.token = worker.token ∧
    (wireBytes call.payload).size ≤ MAX_BODY ∧ call.Filled

instance (call : ComputerCall) : Decidable (client.Reaches worker call) :=
  inferInstanceAs (Decidable (_ ∧ _ ∧ _ ∧ _))

theorem schema_payload (call : ComputerCall) : call.payload.get "schema" ≠ .null := by
  unfold ComputerCall.payload
  rw [object_get]
  exact Json.noConfusion

theorem bearer_inj {token token' : String} (h : "Bearer " ++ token = "Bearer " ++ token') :
    token = token' := by
  apply String.toList_injective
  have hlist := congrArg String.toList h
  rw [String.toList_append, String.toList_append] at hlist
  exact List.append_cancel_left hlist

/-- What the worker makes of a call of the client. -/
theorem accepted_request (call : ComputerCall) :
    client.path = "/v1/computer" ∧ client.token = worker.token ∧
        (wireBytes call.payload).size ≤ MAX_BODY ∧
        worker.accepted (client.request call) = .ok (call.method, call.params) ∨
      ¬ (client.path = "/v1/computer" ∧ client.token = worker.token ∧
          (wireBytes call.payload).size ≤ MAX_BODY) ∧
        ∃ response, worker.accepted (client.request call) = .error response := by
  by_cases hpath : client.path = "/v1/computer"
  swap
  · refine .inr ⟨fun h => hpath h.1, ⟨404, errorResponse "not_found"⟩, ?_⟩
    unfold ComputerWorker.accepted
    rw [if_pos (show (client.request call).path ≠ _ from hpath)]
  by_cases htoken : client.token = worker.token
  swap
  · refine .inr ⟨fun h => htoken h.2.1, ⟨401, errorResponse "unauthorized"⟩, ?_⟩
    have hauth : worker.authorized (client.request call) = false := by
      rw [Bool.eq_false_iff]
      intro h
      exact htoken (bearer_inj (Option.some.inj ((worker.authorized_iff _).mp h)))
    unfold ComputerWorker.accepted
    rw [if_neg (not_not.mpr (show (client.request call).path = _ from hpath)), if_pos hauth]
  have hauth : worker.authorized (client.request call) = true := by
    rw [worker.authorized_iff, ← htoken]
    rfl
  have hint : worker.text.int ((client.request call).content_length.getD "") =
      some ((wireBytes call.payload).size : Int) := worker.text.int_toString _
  have hread : loadsWire worker.text.decodeWide
      ((client.request call).body.extract 0 (wireBytes call.payload).size) = .ok (.dict call.payload) := by
    rw [show (client.request call).body = wireBytes call.payload from rfl, ByteArray.extract_zero_size]
    exact loadsWire_wireBytes _ (schema_payload call)
  by_cases hsize : (wireBytes call.payload).size ≤ MAX_BODY
  · refine .inl ⟨hpath, htoken, hsize, ?_⟩
    have hneg : ¬ (((wireBytes call.payload).size : Int) < 0 ∨
        (MAX_BODY : Int) < (wireBytes call.payload).size) := by omega
    unfold ComputerWorker.accepted
    rw [if_neg (not_not.mpr (show (client.request call).path = _ from hpath)),
      if_neg (by simp [hauth]), hint]
    simp only [if_neg hneg, Int.toNat_natCast, hread, ok_bind, parseRequest_payload]
  · refine .inr ⟨fun h => hsize h.2.2, ⟨400, errorResponse "body_too_large"⟩, ?_⟩
    have hpos : ((wireBytes call.payload).size : Int) < 0 ∨
        (MAX_BODY : Int) < (wireBytes call.payload).size := by omega
    unfold ComputerWorker.accepted
    rw [if_neg (not_not.mpr (show (client.request call).path = _ from hpath)),
      if_neg (by simp [hauth]), hint]
    simp only [if_pos hpos]

/-- **A call of the client** reaches the engine as the same call, or not at all. -/
theorem admitted_request (call : ComputerCall) :
    worker.admitted (client.request call) =
      if client.Reaches worker call then some call else none := by
  obtain ⟨asked, hasked, hfilled, hblank⟩ := callOf_of_get (get_params call)
  unfold ComputerWorker.admitted
  rcases accepted_request client worker call with ⟨hpath, htoken, hsize, h⟩ | ⟨hnot, response, h⟩
  · simp only [h, hasked]
    by_cases hf : call.Filled
    · rw [if_pos ⟨hpath, htoken, hsize, hf⟩, hfilled hf]
    · obtain ⟨message, rfl⟩ := hblank hf
      rw [if_neg fun h => hf h.2.2.2]
  · rw [h, if_neg fun h => hnot ⟨h.1, h.2.1, h.2.2.1⟩]

/-- The client, as a server of attempts. -/
def RemoteComputerBackend.serve : LossyCalls.Server Attempt (Raises ComputerAnswer) S :=
  fun a => exec (client.attempt worker a)

/-- The call that reaches the engine in an attempt, if one does. -/
def RemoteComputerBackend.reaching (a : Attempt) : Option ComputerCall :=
  if a.fate.arrives ∧ client.Reaches worker a.call then some a.call else none

theorem reaching_eq_some {a : Attempt} {call : ComputerCall}
    (h : client.reaching worker a = some call) :
    a.fate.arrives = true ∧ call = a.call ∧
      worker.admitted (client.request a.call) = some a.call := by
  unfold RemoteComputerBackend.reaching at h
  split_ifs at h with hreaches
  rw [admitted_request, if_pos hreaches.2]
  exact ⟨hreaches.1, (Option.some.inj h).symm, rfl⟩

/-- An error that a caller of the client may see. -/
def OnlyBackendErrors {α : Type} (r : Raises α) : Prop :=
  ∀ e, r = .error e → ∃ message, e = computerBackendError message

theorem onlyBackendErrors_error {α : Type} (message : String) :
    OnlyBackendErrors (.error (computerBackendError message) : Raises α) :=
  fun _ he => ⟨message, (Except.error.inj he).symm⟩

theorem onlyBackendErrors_relay (limit : Nat) (failure : String) (r : Raises ComputerAnswer) :
    OnlyBackendErrors (relay limit failure r) := by
  unfold relay
  cases r with
  | ok answer =>
    simp only
    split_ifs
    · exact onlyBackendErrors_error _
    · exact fun _ he => nomatch he
  | error e =>
    simp only
    split_ifs
    · exact onlyBackendErrors_error _
    · exact onlyBackendErrors_error _
    · exact onlyBackendErrors_error _

/-- A refusal is read as an error. -/
theorem receive_refused (failure : String) {response : HttpResponse} (h : response.Refuses) :
    ∃ message, client.receive failure (some (.ok response)) =
      .error (computerBackendError message) := by
  obtain ⟨-, message, hmessage⟩ := h
  unfold RemoteComputerBackend.receive
  simp only [hmessage, resultFromRaw_error]
  split_ifs
  · exact ⟨_, rfl⟩
  · exact ⟨_, rfl⟩

/-- The response to an admitted call is read as the relayed answer. -/
theorem receive_respond (failure : String) (call : ComputerCall) {r : Raises ComputerAnswer}
    (h : ∀ answer, r = .ok answer → call.answerOf answer.toWire = answer) :
    (client.receive failure (some (respond r))).map call.answerOf =
      relay client.max_response_bytes failure r := by
  cases r with
  | ok answer =>
    unfold RemoteComputerBackend.receive respond relay
    simp only [resultFromRaw_answer]
    split_ifs
    · rfl
    · show Except.ok (call.answerOf answer.toWire) = _
      rw [h answer rfl]
  | error e =>
    unfold RemoteComputerBackend.receive respond relay
    by_cases he : isBackendError e = true
    · simp only [he, if_true, resultFromRaw_error]
      split_ifs <;> rfl
    · simp only [he]
      rfl

/-- An attempt is what the client makes of what comes back over the link. -/
theorem exec_attempt (a : Attempt) (s : S) :
    exec (client.attempt worker a) s =
      ((client.receive a.failure
          (LossyCalls.call worker.serve a.fate (client.request a.call) s).1).map a.call.answerOf,
        (LossyCalls.call worker.serve a.fate (client.request a.call) s).2) := by
  unfold RemoteComputerBackend.attempt
  rw [Mutation.exec_bind_pure]
  rfl

/-- A handed-on call of the engine is read back as what the engine answered. -/
theorem serve_answerOf (engine : BrowserEngine S) (call : ComputerCall) (s : S) :
    ∀ answer, (engine.serve call s).1 = .ok answer → call.answerOf answer.toWire = answer := by
  intro answer h
  exact answerOf_perform engine call s answer h

/-- **An attempt that reaches the engine** and whose response comes back. -/
theorem serve_delivered {a : Attempt} (hfate : a.fate = .delivered)
    (hreaches : client.Reaches worker a.call) (s : S) :
    (client.serve worker a s).1 =
      relay client.max_response_bytes a.failure (worker.engine.serve a.call s).1 := by
  have hadmitted : worker.admitted (client.request a.call) = some a.call := by
    rw [admitted_request, if_pos hreaches]
  unfold RemoteComputerBackend.serve
  rw [exec_attempt, hfate]
  show (client.receive a.failure (some (worker.serve (client.request a.call) s).1)).map _ = _
  rw [worker.serve_admitted hadmitted]
  exact receive_respond client a.failure a.call (serve_answerOf worker.engine a.call s)

/-- **Any other attempt** ends in an error of the backend. -/
theorem serve_undelivered {a : Attempt}
    (h : ¬ (a.fate = .delivered ∧ client.Reaches worker a.call)) (s : S) :
    ∃ message, (client.serve worker a s).1 = .error (computerBackendError message) := by
  obtain ⟨call, fate, failure⟩ := a
  unfold RemoteComputerBackend.serve
  rw [exec_attempt]
  cases fate with
  | requestLost => exact ⟨_, rfl⟩
  | responseLost => exact ⟨_, rfl⟩
  | delivered =>
    have hnot : ¬ client.Reaches worker call := fun hreaches => h ⟨rfl, hreaches⟩
    have hnone : worker.admitted (client.request call) = none := by
      rw [admitted_request, if_neg hnot]
    obtain ⟨⟨response, hresponse, hrefused | ⟨params, hhealth⟩⟩, -⟩ := worker.serve_refused hnone s
    · obtain ⟨message, hmessage⟩ := receive_refused client failure hrefused
      refine ⟨message, ?_⟩
      show (client.receive failure (some (worker.serve (client.request call) s).1)).map _ = _
      rw [hresponse, hmessage]
      rfl
    · -- The client never asks for the health.
      exfalso
      rcases accepted_request client worker call with ⟨-, -, -, haccepted⟩ | ⟨-, response, herror⟩
      · rw [haccepted] at hhealth
        have hmethod : call.method = "health" := congrArg Prod.fst (Except.ok.inj hhealth)
        cases call <;> simp [ComputerCall.method] at hmethod
      · rw [herror] at hhealth
        cases hhealth

theorem client_guards :
    LossyCalls.Guards (client.serve worker) worker.engine.serve (client.reaching worker) where
  refused := by
    intro a s h
    unfold RemoteComputerBackend.serve
    rw [exec_attempt]
    obtain ⟨call, fate, failure⟩ := a
    cases fate with
    | requestLost => rfl
    | _ =>
      have hnone : worker.admitted (client.request call) = none := by
        rw [admitted_request, if_neg]
        intro hreaches
        unfold RemoteComputerBackend.reaching at h
        rw [if_pos ⟨rfl, hreaches⟩] at h
        cases h
      exact (worker.serve_refused hnone s).2
  admitted := by
    intro a call s h
    obtain ⟨harrives, rfl, hadmitted⟩ := reaching_eq_some client worker h
    have hstate : (worker.serve (client.request a.call) s).2 = (worker.engine.serve a.call s).2 :=
      congrArg Prod.snd (worker.serve_admitted hadmitted s)
    unfold RemoteComputerBackend.serve
    rw [exec_attempt]
    cases hfate : a.fate with
    | requestLost =>
      rw [hfate] at harrives
      cases harrives
    | delivered => exact hstate
    | responseLost => exact hstate

/-- What the client makes of an answer of the engine in an attempt that reaches it. -/
def RemoteComputerBackend.relayed (a : Attempt) (r : Raises ComputerAnswer) :
    Raises ComputerAnswer :=
  if a.fate = .delivered then relay client.max_response_bytes a.failure r
  else .error (requestFailed a.failure)

theorem serve_reaching {a : Attempt} {call : ComputerCall}
    (h : client.reaching worker a = some call) (s : S) :
    (client.serve worker a s).1 = client.relayed a (worker.engine.serve call s).1 := by
  unfold RemoteComputerBackend.reaching at h
  split_ifs at h with hreaches
  obtain rfl := Option.some.inj h
  unfold RemoteComputerBackend.relayed
  split_ifs with hfate
  · exact serve_delivered client worker hfate hreaches.2 s
  · obtain ⟨call, fate, failure⟩ := a
    cases fate with
    | delivered => exact absurd rfl hfate
    | requestLost => rfl
    | responseLost => rfl

/-- Where no call reaches the engine, the client raises. -/
theorem serve_unreaching {a : Attempt} (h : client.reaching worker a = none) (s : S) :
    ∃ message, (client.serve worker a s).1 = .error (computerBackendError message) := by
  apply serve_undelivered
  intro hdelivered
  unfold RemoteComputerBackend.reaching at h
  rw [hdelivered.1, if_pos ⟨rfl, hdelivered.2⟩] at h
  cases h

/-- **Refinement**: over any attempts the engine does exactly the calls that reach it, each once
    and in order; from an attempt that reaches it the caller has what the engine answered, if that
    comes back and is not too long, and from any other an error. -/
theorem RemoteComputerBackend.run_refines (attempts : List Attempt) (s : S) :
    (LossyCalls.run (client.serve worker) attempts s).2 =
        (LossyCalls.run worker.engine.serve (attempts.filterMap (client.reaching worker)) s).2 ∧
      ((attempts.zip (LossyCalls.run (client.serve worker) attempts s).1).filterMap fun p =>
          (client.reaching worker p.1).map fun _ => p.2) =
        (attempts.filter fun a => (client.reaching worker a).isSome).zipWith client.relayed
          (LossyCalls.run worker.engine.serve (attempts.filterMap (client.reaching worker)) s).1 ∧
      ∀ p ∈ attempts.zip (LossyCalls.run (client.serve worker) attempts s).1,
        OnlyBackendErrors p.2 ∧
          (client.reaching worker p.1 = none → ∃ message, p.2 = .error (computerBackendError message)) := by
  refine ⟨(client_guards client worker).state_run attempts s, ?_, ?_⟩
  · exact (client_guards client worker).answers_run
      (fun a call s h => serve_reaching client worker h s) attempts s
  · refine LossyCalls.answers_run (P := fun a r => OnlyBackendErrors r ∧
      (client.reaching worker a = none → ∃ message, r = .error (computerBackendError message)))
      ?_ attempts s
    intro a s
    refine ⟨?_, fun h => serve_unreaching client worker h s⟩
    by_cases h : a.fate = .delivered ∧ client.Reaches worker a.call
    · rw [serve_delivered client worker h.1 h.2]
      exact onlyBackendErrors_relay _ _ _
    · obtain ⟨message, hmessage⟩ := serve_undelivered client worker h s
      rw [hmessage]
      exact onlyBackendErrors_error message

/-- What the caller is given, the engine has answered. -/
theorem attempt_ok {a : Attempt} {s : S} {answer : ComputerAnswer}
    (h : (client.serve worker a s).1 = .ok answer) : (worker.engine.serve a.call s).1 = .ok answer := by
  by_cases hreaches : a.fate = .delivered ∧ client.Reaches worker a.call
  · rw [serve_delivered client worker hreaches.1 hreaches.2] at h
    unfold relay at h
    split at h
    · next answer' hanswer =>
      split_ifs at h
      rw [hanswer, h]
    · split_ifs at h
  · obtain ⟨message, hmessage⟩ := serve_undelivered client worker hreaches s
    rw [hmessage] at h
    cases h

/-! ## Section 9: The client as a backend -/

/-- How the next calls fare, each with what `urlopen` raises.  Later ones are delivered. -/
abbrev Link : Type := List (Fate × String)

/-- Make a call, which fares as the link has it. -/
def overLink {α : Type} (m : Fate → String → Mutation Exn S α) : Mutation Exn (S × Link) α :=
  ExceptT.mk fun s =>
    let (fate, failure) := s.2.headD (.delivered, "")
    let (r, s') := exec (m fate failure) s.1
    (r, (s', s.2.tail))

/-- The client, with the methods of a backend. -/
def RemoteComputerBackend.backend : ComputerBackend (S × Link) where
  observe url_alias := do
    return .fromWire (← overLink fun fate failure =>
      client.send worker ⟨.observe url_alias, fate, failure⟩)
  navigate url_alias url := do
    return .fromWire (← overLink fun fate failure =>
      client.send worker ⟨.navigate url_alias url, fate, failure⟩)
  click url_alias selector := do
    return .fromWire (← overLink fun fate failure =>
      client.send worker ⟨.click url_alias selector, fate, failure⟩)
  typeText url_alias selector text := do
    return .fromWire (← overLink fun fate failure =>
      client.send worker ⟨.typeText url_alias selector text, fate, failure⟩)
  submit url_alias selector := do
    return .fromWire (← overLink fun fate failure =>
      client.send worker ⟨.submit url_alias selector, fate, failure⟩)
  dev_only := false

theorem exec_overLink {α : Type} (m : Fate → String → Mutation Exn S α) (s : S × Link) :
    exec (overLink m) s =
      ((exec (m (s.2.headD (.delivered, "")).1 (s.2.headD (.delivered, "")).2) s.1).1,
        ((exec (m (s.2.headD (.delivered, "")).1 (s.2.headD (.delivered, "")).2) s.1).2,
          s.2.tail)) := rfl

theorem map_twice {α β γ : Type} (f : α → β) (g : β → γ) (r : Raises α) :
    (r.map f).map g = r.map fun a => g (f a) := by
  cases r <;> rfl

/-- **A call of the backend** is an attempt of the client. -/
theorem exec_perform_backend (call : ComputerCall) (s : S × Link) :
    exec ((client.backend worker).perform call) s =
      exec (overLink fun fate failure => client.attempt worker ⟨call, fate, failure⟩) s := by
  rw [exec_overLink]
  unfold RemoteComputerBackend.attempt
  rw [Mutation.exec_bind_pure]
  cases call <;>
  · unfold BrowserEngine.perform RemoteComputerBackend.backend
    simp only [Mutation.exec_bind_pure, exec_overLink, map_twice]
    rfl

/-- **Redaction at a distance**: if the engine only gives redacted answers, the client does. -/
theorem RemoteComputerBackend.redacting (h : Redacting worker.engine) :
    Redacting (client.backend worker).toBrowserEngine := by
  apply Redacting.of_perform
  intro call s answer hanswer
  rw [exec_perform_backend, exec_overLink] at hanswer
  exact h.perform call s.1 answer (attempt_ok client worker hanswer)

end client

end CBrain.ComputerUse

import CBrain.Contracts

/-! # Model contracts

    Models `cbrain/models/contracts.py` and `cbrain/models/continuation.py`:
    messages, tool calls with their provider continuation, tool definitions,
    completion requests, and the history law that ties each assistant tool
    call to its result.

    Each `__post_init__` is a check of the fields, and a value of the class
    carries the fact that its fields pass it.  Bytes that hold a captured
    object are modelled by the object.  Adapters and transports are not part
    of this file. -/

namespace CBrain

open Json (Dict)

/-! ## Section 1: Names -/

/-- `_SENSITIVE_COMPONENTS`. -/
def sensitiveComponents : List String :=
  ["api_key", "apikey", "auth", "authorization", "bearer", "credential", "credentials", "password",
    "private_key", "secret", "token"]

/-- `[a-z0-9]`. -/
def isLowerOrDigit (c : Char) : Bool := ('a' ≤ c && c ≤ 'z') || ('0' ≤ c && c ≤ '9')

/-- `[A-Z]`. -/
def isUpper (c : Char) : Bool := 'A' ≤ c && c ≤ 'Z'

/-- `re.sub(r"(?<=[a-z0-9])(?=[A-Z])", "_", value)`. -/
def snakeCase : List Char → List Char
  | c :: d :: cs =>
    if isLowerOrDigit c && isUpper d then c :: '_' :: snakeCase (d :: cs)
    else c :: snakeCase (d :: cs)
  | cs => cs

/-- The ASCII part of what `casefold` makes of a character; any other
    character it yields is a separator below, and stands here as `_`. -/
def casefold (c : Char) : List Char :=
  if isUpper c then [Char.ofNat (c.toNat + 32)]
  else match c.toNat with
    | 0xdf | 0x1e9e => ['s', 's']
    | 0x130 => ['i', '_']
    | 0x149 => ['_', 'n']
    | 0x17f => ['s']
    | 0x1f0 => ['j', '_']
    | 0x1e96 => ['h', '_']
    | 0x1e97 => ['t', '_']
    | 0x1e98 => ['w', '_']
    | 0x1e99 => ['y', '_']
    | 0x1e9a => ['a', '_']
    | 0x212a => ['k']
    | 0xfb00 => ['f', 'f']
    | 0xfb01 => ['f', 'i']
    | 0xfb02 => ['f', 'l']
    | 0xfb03 => ['f', 'f', 'i']
    | 0xfb04 => ['f', 'f', 'l']
    | 0xfb05 | 0xfb06 => ['s', 't']
    | _ => [c]

/-- The maximal runs of `[a-z0-9]`. -/
def words : List Char → List Char → List String
  | run, [] => if run = [] then [] else [String.ofList run.reverse]
  | run, c :: cs =>
    if isLowerOrDigit c then words (c :: run) cs
    else if run = [] then words [] cs
    else String.ofList run.reverse :: words [] cs

/-- `_normalized_components`: the words of the name, and the words joined
    with `_`. -/
def normalizedComponents (value : String) : List String :=
  let parts := words [] ((snakeCase value.toList).flatMap casefold)
  parts ++ ["_".intercalate parts]

/-- `_is_sensitive_name`. -/
def isSensitiveName (value : String) : Bool :=
  let components := normalizedComponents value
  components.any (sensitiveComponents.contains ·) ||
    ["api_key", "private_key"].any (components.contains ·)

example : isSensitiveName "apiKey" = true := by decide

/-- `[A-Za-z0-9_-]`. -/
def isToolNameChar (c : Char) : Bool :=
  isLowerOrDigit c || isUpper c || c == '_' || c == '-'

/-- `_TOOL_NAME.fullmatch(text)`. -/
def isToolName (name : String) : Bool :=
  0 < name.toList.length && name.toList.length ≤ 64 && name.toList.all isToolNameChar

/-- A `ModelContractError`. -/
def modelContractError (message : List MsgPart) : Exn := Exn.parts .modelContractError message

/-- A `ModelContractError` with a plain message. -/
def modelContract (message : String) : Exn := modelContractError [.text message]

/-- A `ModelResponseError` with a plain message. -/
def modelResponse (message : String) : Exn := Exn.of .modelResponseError message

/-- `_required_text` on text. -/
def modelText (value path : String) : Raises Unit :=
  require (nonBlank value = true) (modelContract s!"{path} must be non-empty text")

/-- `_tool_name` on text. -/
def toolName (value path : String) : Raises Unit := do
  modelText value path
  require (isToolName value = true)
    (modelContract s!"{path} must contain only letters, digits, underscores, or hyphens")

/-! ## Section 2: JSON objects -/

mutual

/-- `_validate_json` on a JSON value: only finite numbers. -/
def validateModelJson (path : String) : Json → Raises Unit
  | .float (.finite _) => .ok ()
  | .float _ => .error (modelContract s!"{path} contains a non-finite number")
  | .arr xs => validateModelElems (path ++ "[]") xs
  | .obj ms => validateModelMembers path ms
  | _ => .ok ()

def validateModelElems (path : String) : List Json → Raises Unit
  | [] => .ok ()
  | x :: xs => do validateModelJson path x; validateModelElems path xs

def validateModelMembers (path : String) : Json.Members → Raises Unit
  | [] => .ok ()
  | (k, x) :: xs => do validateModelJson s!"{path}.{k}" x; validateModelMembers path xs

end

mutual

/-- `_reject_sensitive_keys`. -/
def rejectSensitiveKeys (path : String) : Json → Raises Unit
  | .obj ms => rejectSensitiveMembers path ms
  | .arr xs => rejectSensitiveElems (path ++ "[]") xs
  | _ => .ok ()

def rejectSensitiveElems (path : String) : List Json → Raises Unit
  | [] => .ok ()
  | x :: xs => do rejectSensitiveKeys path x; rejectSensitiveElems path xs

def rejectSensitiveMembers (path : String) : Json.Members → Raises Unit
  | [] => .ok ()
  | (k, x) :: xs => do
    require (isSensitiveName k = false)
      (modelContractError [.text s!"{path} contains credential-shaped key ", .repr (.str k)])
    rejectSensitiveKeys s!"{path}.{k}" x
    rejectSensitiveMembers path xs

end

/-- The names in `properties`, each checked. -/
def rejectSensitiveProperties (path : String) : Json → Raises Unit
  | .null => .ok ()
  | .obj ms => ms.forM fun m =>
    require (isSensitiveName m.1 = false)
      (modelContractError
        [.text s!"{path} contains credential-shaped property ", .repr (.str m.1)])
  | _ => .error (modelContract s!"{path}.properties must be an object")

/-- The names in `required`, each checked once all are known to be text. -/
def rejectSensitiveRequired (path : String) : Json → Raises Unit
  | .null => .ok ()
  | .arr xs =>
    match xs.mapM Json.str? with
    | none => .error (modelContract s!"{path}.required must be a string array")
    | some names => names.forM fun name =>
      require (isSensitiveName name = false)
        (modelContractError
          [.text s!"{path} requires credential-shaped property ", .repr (.str name)])
  | _ => .error (modelContract s!"{path}.required must be a string array")

mutual

/-- `_reject_sensitive_schema`. -/
def rejectSensitiveSchema (path : String) : Json → Raises Unit
  | .obj ms => do
    rejectSensitiveProperties path (Json.getD ms "properties")
    rejectSensitiveRequired path (Json.getD ms "required")
    rejectSchemaMembers path ms
  | .arr xs => rejectSchemaElems path xs
  | _ => .ok ()

def rejectSchemaElems (path : String) : List Json → Raises Unit
  | [] => .ok ()
  | x :: xs => do rejectSensitiveSchema path x; rejectSchemaElems path xs

def rejectSchemaMembers (path : String) : Json.Members → Raises Unit
  | [] => .ok ()
  | (_, x) :: xs => do rejectSensitiveSchema path x; rejectSchemaMembers path xs

end

/-! ## Section 3: Provider continuations -/

namespace ProviderContinuation

/-- `required_mapping`. -/
def requiredMapping (value : Json) (path : String) : Raises Json.Members :=
  match value with
  | .obj ms => .ok ms
  | _ => .error (modelResponse s!"{path} must be an object")

/-- `required_list`. -/
def requiredList (value : Json) (path : String) : Raises (List Json) :=
  match value with
  | .arr xs => .ok xs
  | _ => .error (modelResponse s!"{path} must be an array")

/-- `required_response_text`. -/
def requiredResponseText (value : Json) (path : String) : Raises String :=
  requiredMember (modelResponse s!"{path} must be non-empty text") value

/-- The text of a `ModelContractError`, raised again as a response error. -/
def asResponseError (e : Exn) : Exn :=
  if e.kind = .modelContractError then ⟨.modelResponseError, "ModelResponseError", e.message⟩ else e

/-- `parse_arguments`: an object, or its JSON text, that a tool call may
    carry. -/
def parseArguments (value : Json) (path : String) : Raises Json.Members := do
  let decoded ← match value with
    | .str s => match Json.loads s.toList with
      | some j => .ok j
      | none => .error (modelResponse s!"{path} is not valid JSON")
    | j => .ok j
  let mapping ← requiredMapping decoded path
  Except.mapError asResponseError do
    validateModelMembers "tool arguments" mapping
    rejectSensitiveMembers "tool arguments" mapping
  return mapping

/-- `_keys`. -/
def onlyKeys (value : Json.Members) (allowed : List String) : Raises Unit :=
  require ((Json.keys value).all (allowed.contains ·) = true)
    (modelContract "unsupported continuation fields")

/-- `_one`. -/
def exactlyOne (values : List Json) : Raises Json.Members := do
  require (values.length = 1) (modelContract "continuation requires exactly one tool call")
  requiredMapping (values.headD .null) "assistant tool call"

/-- `_text`. -/
def assistantText (value : Json) : Raises Unit :=
  require ((Json.str? value).isSome = true) (modelContract "assistant text must be a string")

/-- What a continuation says about its tool call: the provider's id if it
    gives one, the name, and the arguments. -/
abbrev WireCall : Type := Option String × Json × Json.Members

/-- The `chat_completions` branch of `validate_continuation_call`. -/
def chatCompletionsCall (message : Json.Members) : Raises WireCall := do
  onlyKeys message ["role", "content", "tool_calls", "reasoning_content"]
  ["content", "reasoning_content"].forM fun key =>
    require (Json.getD message key = .null ∨ (Json.str? (Json.getD message key)).isSome = true)
      (modelContract "unsupported assistant text content")
  let calls ← requiredList (Json.getD message "tool_calls") "assistant tool calls"
  let block ← exactlyOne calls
  onlyKeys block ["id", "type", "function"]
  require (Json.getD block "type" = .str "function") (modelContract "unsupported assistant tool type")
  let function ← requiredMapping (Json.getD block "function") "assistant function"
  onlyKeys function ["name", "arguments"]
  let wire_id ← requiredResponseText (Json.getD block "id") "assistant call ID"
  let arguments ← parseArguments (Json.getD function "arguments") "assistant arguments"
  return (some wire_id, Json.getD function "name", arguments)

/-- One content block of an Anthropic message: the tool use it is, if any. -/
def anthropicBlock (raw : Json) : Raises (Option Json) := do
  let block ← requiredMapping raw "assistant content block"
  match Json.getD block "type" with
  | .str "tool_use" =>
    onlyKeys block ["type", "id", "name", "input"]
    return some (.obj block)
  | .str "text" =>
    onlyKeys block ["type", "text", "citations"]
    assistantText (Json.getD block "text")
    return none
  | .str "thinking" =>
    onlyKeys block ["type", "thinking", "signature"]
    assistantText (Json.getD block "thinking")
    let _ ← requiredResponseText (Json.getD block "signature") "thinking signature"
    return none
  | .str "redacted_thinking" =>
    onlyKeys block ["type", "data"]
    let _ ← requiredResponseText (Json.getD block "data") "redacted thinking"
    return none
  | _ => .error (modelContract "unsupported assistant content block")

/-- The `anthropic` branch of `validate_continuation_call`. -/
def anthropicCall (message : Json.Members) : Raises WireCall := do
  onlyKeys message ["role", "content"]
  let blocks ← requiredList (Json.getD message "content") "assistant content"
  let calls ← blocks.mapM anthropicBlock
  let block ← exactlyOne (calls.filterMap id)
  let wire_id ← requiredResponseText (Json.getD block "id") "assistant call ID"
  let arguments ← parseArguments (Json.getD block "input") "assistant arguments"
  return (some wire_id, Json.getD block "name", arguments)

/-- One part of a Google message: the function call it is, if any. -/
def googlePart (raw : Json) : Raises (Option Json) := do
  let part ← requiredMapping raw "assistant part"
  onlyKeys part ["functionCall", "text", "thought", "thoughtSignature"]
  match Json.get? part "thoughtSignature" with
  | some signature => let _ ← requiredResponseText signature "thought signature"
  | none => pure ()
  match Json.get? part "thought" with
  | some (.bool _) | none => pure ()
  | some _ => .error (modelContract "invalid thought marker")
  match Json.get? part "functionCall", Json.get? part "text" with
  | some call, none => return some (.obj (← requiredMapping call "assistant function"))
  | none, some text =>
    assistantText text
    return none
  | _, _ => .error (modelContract "unsupported assistant part")

/-- The `google` branch of `validate_continuation_call`. -/
def googleCall (message : Json.Members) : Raises WireCall := do
  onlyKeys message ["role", "parts"]
  let parts ← requiredList (Json.getD message "parts") "assistant parts"
  let calls ← parts.mapM googlePart
  let function ← exactlyOne (calls.filterMap id)
  onlyKeys function ["id", "name", "args"]
  let wire_id ← match Json.get? function "id" with
    | some value => Except.map some (requiredResponseText value "assistant call ID")
    | none => .ok none
  let arguments ← parseArguments ((Json.get? function "args").getD (.obj [])) "assistant arguments"
  return (wire_id, Json.getD function "name", arguments)

end ProviderContinuation

/-- The wire formats of a continuation. -/
inductive WireFormat where
  | chatCompletions
  | anthropic
  | google
  deriving DecidableEq, Repr

/-- The text of a wire format. -/
def WireFormat.value : WireFormat → String
  | .chatCompletions => "chat_completions"
  | .anthropic => "anthropic"
  | .google => "google"

/-- The wire format of a text. -/
def WireFormat.ofValue? (value : String) : Option WireFormat :=
  [.chatCompletions, .anthropic, .google].find? fun f => f.value == value

@[simp] theorem WireFormat.ofValue?_value (f : WireFormat) :
    WireFormat.ofValue? f.value = some f := by
  cases f <;> decide

/-- `ProviderContinuation.__post_init__`, once the format is known. -/
def ProviderContinuation.check (provider model : String) (message : Dict) : Raises Unit := do
  modelText provider "continuation provider"
  modelText model "continuation model"
  require ((Json.canonical message.json).size ≤ 262144)
    (modelContract "continuation exceeds 262144 bytes or is invalid")
  validateModelMembers "continuation" message.members

/-- `ProviderContinuation`: the provider's own assistant turn. -/
structure ProviderContinuation where
  provider : String
  model : String
  wire_format : WireFormat
  message : Dict
  valid : ProviderContinuation.check provider model message = .ok ()
  deriving DecidableEq

/-- `ProviderContinuation.capture`. -/
def ProviderContinuation.capture (provider model wire_format : String) (message : Dict) :
    Raises ProviderContinuation := do
  validateModelMembers "continuation" message.members
  modelText provider "continuation provider"
  modelText model "continuation model"
  match WireFormat.ofValue? wire_format with
  | none => .error (modelContract "unsupported continuation format")
  | some format =>
    match h : ProviderContinuation.check provider model message with
    | .ok () => .ok ⟨provider, model, format, message, h⟩
    | .error e => .error e

/-- `validate_continuation_call` for a call with the given fields. -/
def validateContinuationCall (turn : ProviderContinuation) (call_id name : String)
    (arguments : Dict) : Raises Unit := do
  let message := turn.message.members
  let expected_role := if turn.wire_format = .google then "model" else "assistant"
  require (Json.getD message "role" = .str expected_role)
    (modelContract "continuation must contain an assistant turn")
  let (wire_id, wire_name, wire_arguments) ← match turn.wire_format with
    | .chatCompletions => ProviderContinuation.chatCompletionsCall message
    | .anthropic => ProviderContinuation.anthropicCall message
    | .google => ProviderContinuation.googleCall message
  require ((wire_id = none ∨ wire_id = some call_id) ∧ wire_name = .str name)
    (modelContract "continuation tool identity mismatch")
  require (Json.dictOf wire_arguments = arguments.members)
    (modelContract "continuation tool arguments mismatch")

/-! ## Section 4: Tool calls -/

/-- `ToolCall.__post_init__`, the snapshot of the arguments included. -/
def ToolCall.check (call_id name : String) (arguments : Dict)
    (continuation : Option ProviderContinuation) : Raises Unit := do
  validateModelMembers "tool arguments" arguments.members
  modelText call_id "tool call ID"
  toolName name "tool call name"
  rejectSensitiveMembers "tool arguments" arguments.members
  match continuation with
  | some turn => validateContinuationCall turn call_id name arguments
  | none => .ok ()

/-- `ToolCall`: a proposal of one tool call. -/
structure ToolCall where
  call_id : String
  name : String
  arguments : Dict
  continuation : Option ProviderContinuation
  valid : ToolCall.check call_id name arguments continuation = .ok ()
  deriving DecidableEq

namespace ToolCall

/-- `ToolCall.capture`. -/
def capture (call_id name : String) (arguments : Dict)
    (continuation : Option ProviderContinuation) : Raises ToolCall :=
  match h : check call_id name arguments continuation with
  | .ok () => .ok ⟨call_id, name, arguments, continuation, h⟩
  | .error e => .error e

/-- A call's own fields are captured as the call. -/
theorem capture_self (c : ToolCall) :
    capture c.call_id c.name c.arguments c.continuation = .ok c := by
  unfold capture
  split
  · rfl
  · next e h =>
    rw [c.valid] at h
    cases h

end ToolCall

/-! ## Section 5: Messages -/

/-- `MessageRole`. -/
inductive MessageRole where
  | system
  | user
  | assistant
  | tool
  deriving DecidableEq, Repr

/-- `role.value`. -/
def MessageRole.value : MessageRole → String
  | .system => "system"
  | .user => "user"
  | .assistant => "assistant"
  | .tool => "tool"

/-- `MessageRole(value)`. -/
def MessageRole.ofValue? (value : String) : Option MessageRole :=
  [.system, .user, .assistant, .tool].find? fun r => r.value == value

@[simp] theorem MessageRole.ofValue?_value (r : MessageRole) :
    MessageRole.ofValue? r.value = some r := by
  cases r <;> decide

/-- `Message.__post_init__`. -/
def Message.check (role : MessageRole) (content : String) (tool_call_id tool_name : Option String)
    (tool_call : Option ToolCall) : Raises Unit := do
  match tool_call with
  | some _ =>
    require (role = .assistant) (modelContract "only assistant messages may carry a tool call")
    require (content = "") (modelContract "tool-call text belongs in its continuation")
  | none => modelText content "message content"
  if role = .tool then
    match tool_call_id, tool_name with
    | some call_id, some name =>
      modelText call_id "tool_call_id"
      toolName name "tool_name"
    | none, _ => .error (modelContract "tool_call_id must be non-empty text")
    | some call_id, none =>
      modelText call_id "tool_call_id"
      .error (modelContract "tool_name must be non-empty text")
  else
    require (tool_call_id = none ∧ tool_name = none)
      (modelContract "tool_call_id and tool_name are permitted only on tool messages")

/-- `Message`. -/
structure Message where
  role : MessageRole
  content : String
  tool_call_id : Option String
  tool_name : Option String
  tool_call : Option ToolCall
  valid : Message.check role content tool_call_id tool_name tool_call = .ok ()
  deriving DecidableEq

namespace Message

/-- The constructor with its checks. -/
def new (role : MessageRole) (content : String) (tool_call_id tool_name : Option String)
    (tool_call : Option ToolCall) : Raises Message :=
  match h : check role content tool_call_id tool_name tool_call with
  | .ok () => .ok ⟨role, content, tool_call_id, tool_name, tool_call, h⟩
  | .error e => .error e

/-- A message's own fields pass the constructor. -/
theorem new_self (m : Message) :
    new m.role m.content m.tool_call_id m.tool_name m.tool_call = .ok m := by
  unfold new
  split
  · rfl
  · next e h =>
    rw [m.valid] at h
    cases h

/-- A message with text of the system or the user. -/
def text (role : MessageRole) (content : String) : Raises Message := new role content none none none

end Message

/-- `as_message`. -/
def ToolCall.asMessage (call : ToolCall) : Message where
  role := .assistant
  content := ""
  tool_call_id := none
  tool_name := none
  tool_call := some call
  valid := rfl

/-! ## Section 6: Histories -/

/-- The tool call that waits for its result, and the call ids seen. -/
structure HistoryState where
  pending : Option ToolCall
  seen : List String

/-- One message of `validate_history`. -/
def HistoryState.next (s : HistoryState) (message : Message) : Raises HistoryState :=
  if message.role = .tool then
    match s.pending with
    | none => .error (modelContract "tool result has no matching assistant call")
    | some call =>
      if message.tool_call_id = some call.call_id ∧ message.tool_name = some call.name then
        .ok { s with pending := none }
      else .error (modelContract "tool result has no matching assistant call")
  else
    match s.pending with
    | some _ => .error (modelContract "assistant tool call must be followed by its result")
    | none =>
      match message.tool_call with
      | none => .ok s
      | some call =>
        if call.call_id ∈ s.seen then
          .error (modelContract "duplicate assistant tool call ID")
        else .ok ⟨some call, call.call_id :: s.seen⟩

/-- The state after a list of messages. -/
def HistoryState.run (s : HistoryState) : List Message → Raises HistoryState
  | [] => .ok s
  | m :: ms => do
    let s' ← s.next m
    s'.run ms

/-- `validate_history`. -/
def validateHistory (messages : List Message) (allow_pending : Bool) : Raises Unit := do
  let s ← HistoryState.run ⟨none, []⟩ messages
  require (s.pending = none ∨ allow_pending = true)
    (modelContract "assistant tool call is missing its result")

/-! ## Section 7: Requests and outputs -/

/-- `ToolDefinition.__post_init__`, the snapshot of the schema included. -/
def ToolDefinition.check (name description : String) (input_schema : Dict) : Raises Unit := do
  validateModelMembers "tool input schema" input_schema.members
  toolName name "tool name"
  modelText description "tool description"
  require (input_schema.get "type" = .str "object")
    (modelContract "tool input schema must have type=object")
  rejectSensitiveSchema "tool input schema" input_schema.json

/-- `ToolDefinition`. -/
structure ToolDefinition where
  name : String
  description : String
  input_schema : Dict
  valid : ToolDefinition.check name description input_schema = .ok ()
  deriving DecidableEq

/-- `ToolDefinition.capture`. -/
def ToolDefinition.capture (name description : String) (input_schema : Dict) :
    Raises ToolDefinition :=
  match h : ToolDefinition.check name description input_schema with
  | .ok () => .ok ⟨name, description, input_schema, h⟩
  | .error e => .error e

/-- `CompletionRequest.__post_init__`. -/
def CompletionRequest.check (messages : List Message) (tools : List ToolDefinition)
    (max_output_tokens : Nat) : Raises Unit := do
  require (messages ≠ []) (modelContract "completion requires at least one message")
  validateHistory messages false
  require ((tools.map ToolDefinition.name).Nodup) (modelContract "tool names must be unique")
  require (1 ≤ max_output_tokens) (modelContract "max_output_tokens must be positive")

/-- `TextOutput`. -/
structure TextOutput where
  text : String
  text_text : nonBlank text = true

theorem TextOutput.text_injective : Function.Injective TextOutput.text := by
  rintro ⟨_, _⟩ ⟨_, _⟩ rfl
  rfl

instance : DecidableEq TextOutput := TextOutput.text_injective.decidableEq

/-- What a model returns: one text, one tool call, or, from an adapter that
    breaks its protocol, something else. -/
inductive ModelOutput where
  | text (output : TextOutput)
  | call (output : ToolCall)
  | other
  deriving DecidableEq

end CBrain

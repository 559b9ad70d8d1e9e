import CBrain.Models.Contracts

/-! # Provider adapters

    Models `cbrain/models/anthropic.py`, `cbrain/models/google.py` and
    `cbrain/models/openai_compatible.py`: the messages a request puts on the
    wire, and what becomes of a response.

    A response is the JSON object the transport returned.  Paths and headers
    of the requests are left out. -/

/-! ## Section 1: Argument text

    The interpreter converts an integer literal of a limited number of digits
    (`0` is no limit), and raises a plain `ValueError` at a longer one.  The
    decoder meets it before any error that stands behind it. -/

namespace Json

/-- The number of digits of an integer literal over the limit. -/
def overLimit? (limit : Nat) (ds r : List Char) : Option Nat :=
  let (frac, r₁) := parseFrac r
  if frac.isNone ∧ (parseExp r₁).1.isNone ∧ 0 < limit ∧ limit < ds.length then some ds.length
  else none

/-- A number after its sign. -/
def overLimitUnsigned? (limit : Nat) : List Char → Option Nat
  | [] => none
  | c :: r =>
    if c = '0' then overLimit? limit ['0'] r
    else if c.isDigit then
      overLimit? limit (c :: r.takeWhile Char.isDigit) (r.dropWhile Char.isDigit)
    else none

mutual

/-- The first integer literal over the limit that `parseValue` meets. -/
def overLimitValue? (limit : Nat) : Nat → List Char → Option Nat
  | 0, _ => none
  | n + 1, cs =>
    match cs with
    | '[' :: r => overLimitElems? limit n (skipWs r)
    | '{' :: r => overLimitMembers? limit n (skipWs r)
    | '-' :: r => overLimitUnsigned? limit r
    | cs => overLimitUnsigned? limit cs

/-- The first one that `parseElems` meets. -/
def overLimitElems? (limit : Nat) : Nat → List Char → Option Nat
  | 0, _ => none
  | n + 1, cs =>
    (overLimitValue? limit n cs).or <|
      match parseValue n cs with
      | none => none
      | some (_, r) =>
        match skipWs r with
        | ',' :: r' => overLimitElems? limit n (skipWs r')
        | _ => none

/-- The first one that `parseMembers` meets. -/
def overLimitMembers? (limit : Nat) : Nat → List Char → Option Nat
  | 0, _ => none
  | n + 1, cs =>
    match cs with
    | '"' :: r =>
      match parseStr r with
      | none => none
      | some (_, r₁) =>
        match skipWs r₁ with
        | ':' :: r₂ =>
          (overLimitValue? limit n (skipWs r₂)).or <|
            match parseValue n (skipWs r₂) with
            | none => none
            | some (_, r₃) =>
              match skipWs r₃ with
              | ',' :: r₄ => overLimitMembers? limit n (skipWs r₄)
              | _ => none
        | _ => none
    | _ => none

end

/-- The first one in a text. -/
def overLimitText? (limit : Nat) (cs : List Char) : Option Nat :=
  overLimitValue? limit (cs.length + 1) (skipWs cs)

end Json

namespace CBrain

open Json (Dict)

/-! ## Section 2: Values in payloads and responses -/

/-- An object of a payload. -/
def wireObject (ms : Json.Members) : Json := .obj (Json.dictOf ms)

/-- `None` or text. -/
def wireText : Option String → Json
  | some s => .str s
  | none => .null

/-- The object that the canonical bytes of a mapping restore to. -/
def restoredObject (ms : Json.Members) : Dict :=
  ⟨Json.dictOf (Json.normalizeMembers ms), Json.wf_normalize (.obj ms)⟩

/-- `value in {...}` for a set of texts: a list and a dict have no hash. -/
def inTexts (value : Json) (texts : List String) : Raises Bool :=
  match value with
  | .arr _ => .error (Exn.of .typeError "unhashable type: 'list'")
  | .obj _ => .error (Exn.of .typeError "unhashable type: 'dict'")
  | .str s => .ok (texts.contains s)
  | _ => .ok false

/-- `bool(value)`. -/
def truthy : Json → Bool
  | .null => false
  | .bool b => b
  | .int i => i ≠ 0
  | .float (.finite d) => d.toRat ≠ 0
  | .float _ => true
  | .str s => s ≠ ""
  | .arr xs => xs.length ≠ 0
  | .obj ms => ms.length ≠ 0

/-- Text that is not blank. -/
def nonBlankText? : Json → Option String
  | .str s => if nonBlank s then some s else none
  | _ => none

/-- `TextOutput(text)`. -/
def TextOutput.capture (text : String) : Raises TextOutput :=
  if h : nonBlank text = true then .ok ⟨text, h⟩
  else .error (modelContract "model text must be non-empty text")

/-- What `int` raises at a literal over the limit. -/
def digitsError (limit digits : Nat) : Exn :=
  Exn.of .valueError s!"Exceeds the limit ({limit} digits) for integer string conversion: value has {digits} digits; use sys.set_int_max_str_digits() to increase the limit"

/-- `parse_arguments` under the interpreter's limit. -/
def parseArgumentsWithin (limit : Nat) (value : Json) (path : String) : Raises Json.Members :=
  match (Json.str? value).bind fun s => Json.overLimitText? limit s.toList with
  | some digits => .error (digitsError limit digits)
  | none => ProviderContinuation.parseArguments value path

/-! ## Section 3: Requests -/

/-- The range of a temperature. -/
def temperatureInRange : Json → Bool
  | .int i => 0 ≤ i && i ≤ 2
  | .float (.finite d) => 0 ≤ d.toRat && d.toRat ≤ 2
  | _ => false

/-- `CompletionRequest`. -/
structure CompletionRequest where
  messages : List Message
  tools : List ToolDefinition
  max_output_tokens : Nat
  temperature : Json
  valid : CompletionRequest.check messages tools max_output_tokens = .ok ()
  temperature_range : temperatureInRange temperature = true

/-- The text of the system messages. -/
def systemText (messages : List Message) : String :=
  "\n\n".intercalate ((messages.filter fun m => m.role = .system).map Message.content)

namespace ProviderContinuation

/-- `message`: what the canonical bytes restore to. -/
def restored (turn : ProviderContinuation) : Raises Json.Members :=
  match Json.loadsBytes (Json.canonical turn.message.json) with
  | some (.obj ms) => .ok ms
  | some _ => .error (modelContract "continuation must be an object")
  | none => .error (modelContract "continuation is not valid JSON")

/-- The bytes hold the message. -/
theorem restored_eq (turn : ProviderContinuation) : turn.restored = .ok turn.message.members := by
  unfold restored
  rw [Json.loadsBytes_canonical]
  rfl

/-- `for_route`. -/
def forRoute (turn : ProviderContinuation) (provider model : String) (wire_format : WireFormat) :
    Raises Json.Members := do
  require (turn.provider = provider ∧ turn.model = model ∧ turn.wire_format = wire_format)
    (modelContract "provider continuation route mismatch")
  turn.restored

end ProviderContinuation

/-- The end of the Anthropic and the Google parser: one tool call, or the
    text parts in a row. -/
def outputOf (capture : Json.Members → Raises ModelOutput) (calls : List Json.Members)
    (texts : List String) : Raises ModelOutput :=
  match calls, texts with
  | [call], _ => capture call
  | _ :: _ :: _, _ => .error (modelResponse "provider must return exactly one tool call")
  | [], [] => .error (modelResponse "provider returned neither text nor a tool call")
  | [], texts => Except.map ModelOutput.text (TextOutput.capture (String.join texts))

/-! ## Section 4: Anthropic -/

/-- `AnthropicAdapter`. -/
structure AnthropicAdapter where
  model : String
  model_text : nonBlank model = true

namespace AnthropicAdapter

/-- `_message`. -/
def message (a : AnthropicAdapter) (message : Message) : Raises Json :=
  match message.tool_call with
  | some call =>
    match call.continuation with
    | some turn => Except.map Json.obj (turn.forRoute "anthropic" a.model .anthropic)
    | none =>
      .ok (wireObject [("role", .str "assistant"),
        ("content", .arr [wireObject [("type", .str "tool_use"), ("id", .str call.call_id),
          ("name", .str call.name), ("input", call.arguments.json)]])])
  | none =>
    if message.role = .tool then
      .ok (wireObject [("role", .str "user"),
        ("content", .arr [wireObject [("type", .str "tool_result"),
          ("tool_use_id", wireText message.tool_call_id), ("content", .str message.content)]])])
    else .ok (wireObject [("role", .str message.role.value), ("content", .str message.content)])

/-- `payload["messages"]`. -/
def messages (a : AnthropicAdapter) (history : List Message) : Raises (List Json) :=
  (history.filter fun m => m.role ≠ .system).mapM a.message

/-- The payload of `complete`. -/
def payload (a : AnthropicAdapter) (request : CompletionRequest) : Raises Json := do
  let system := systemText request.messages
  let messages ← a.messages request.messages
  return wireObject ([("model", .str a.model), ("messages", .arr messages),
      ("max_tokens", .int request.max_output_tokens), ("temperature", request.temperature)] ++
    (if system = "" then [] else [("system", .str system)]) ++
    (if request.tools = [] then [] else [("tools", .arr (request.tools.map fun tool =>
      wireObject [("name", .str tool.name), ("description", .str tool.description),
        ("input_schema", tool.input_schema.json)]))]))

/-- The text of a text block. -/
def textPart (block : Json.Members) : Option String :=
  if Json.getD block "type" = .str "text" then nonBlankText? (Json.getD block "text") else none

/-- The one tool call of a response. -/
def captureCall (limit : Nat) (a : AnthropicAdapter) (content : List Json) (block : Json.Members) :
    Raises ModelOutput := do
  let call_id ← ProviderContinuation.requiredResponseText (Json.getD block "id") "tool call ID"
  let name ← ProviderContinuation.requiredResponseText (Json.getD block "name") "tool call name"
  let arguments ← parseArgumentsWithin limit (Json.getD block "input") "tool arguments"
  let continuation ← ProviderContinuation.capture "anthropic" a.model "anthropic"
    (restoredObject [("role", .str "assistant"), ("content", .arr content)])
  let call ← ToolCall.capture call_id name (restoredObject arguments) (some continuation)
  return .call call

/-- `_parse_response`. -/
def parseResponse (limit : Nat) (a : AnthropicAdapter) (response : Dict) : Raises ModelOutput := do
  let stopped ← inTexts (response.get "stop_reason") ["max_tokens", "pause_turn", "refusal"]
  require (stopped = false) (modelResponse "provider response did not complete")
  let content ← ProviderContinuation.requiredList (response.get "content") "content"
  let blocks ← content.zipIdx.mapM fun p =>
    ProviderContinuation.requiredMapping p.1 s!"content[{p.2}]"
  let tool_blocks := blocks.filter fun block => Json.getD block "type" = .str "tool_use"
  outputOf (a.captureCall limit content) tool_blocks (blocks.filterMap textPart)

end AnthropicAdapter

/-! ## Section 5: Google -/

/-- `GoogleAdapter`. -/
structure GoogleAdapter where
  model : String
  model_text : nonBlank model = true
  one_segment : '/' ∉ model.toList

namespace GoogleAdapter

/-- The ids of the function calls among the parts of an assistant turn.  The
    parts of a checked continuation are objects, and so are their calls. -/
def callIds (assistant : Json.Members) : List Json :=
  match Json.getD assistant "parts" with
  | .arr parts => parts.filterMap fun
    | .obj part =>
      match Json.get? part "functionCall" with
      | some (.obj function) => Json.get? function "id"
      | _ => none
    | _ => none
  | _ => []

/-- The `functionResponse` of a tool message: the provider gets its own id
    back if it gave one. -/
def functionResponse (message : Message) (id : Option Json) : Json :=
  wireObject [("role", .str "user"), ("parts", .arr [wireObject [("functionResponse",
    wireObject ([("name", wireText message.tool_name),
      ("response", wireObject [("content", .str message.content)])] ++
      (id.toList.map fun id => ("id", id))))]])]

/-- `_message`. -/
def message (a : GoogleAdapter) (message : Message) (preceding_call : Option ToolCall) :
    Raises Json :=
  match message.tool_call with
  | some call =>
    match call.continuation with
    | some turn => Except.map Json.obj (turn.forRoute "google" a.model .google)
    | none =>
      .ok (wireObject [("role", .str "model"), ("parts", .arr [wireObject [("functionCall",
        wireObject [("name", .str call.name), ("args", call.arguments.json)])]])])
  | none =>
    if message.role = .tool then
      match preceding_call.bind ToolCall.continuation with
      | some turn => do
        let assistant ← turn.forRoute "google" a.model .google
        return functionResponse message (callIds assistant).getLast?
      | none => .ok (functionResponse message none)
    else
      let role := if message.role = .assistant then "model" else "user"
      .ok (wireObject [("role", .str role),
        ("parts", .arr [wireObject [("text", .str message.content)]])])

/-- `payload["contents"]`: every message is read beside the tool call of the
    message before it. -/
def contents (a : GoogleAdapter) (history : List Message) : Raises (List Json) :=
  ((history.zip (none :: history.map Message.tool_call)).filter fun p => p.1.role ≠ .system).mapM
    fun p => a.message p.1 p.2

/-- The payload of `complete`. -/
def payload (a : GoogleAdapter) (request : CompletionRequest) : Raises Json := do
  let system := systemText request.messages
  let contents ← a.contents request.messages
  return wireObject ([("contents", .arr contents),
      ("generationConfig", wireObject [("maxOutputTokens", .int request.max_output_tokens),
        ("temperature", request.temperature)])] ++
    (if system = "" then [] else
      [("systemInstruction", wireObject [("parts", .arr [wireObject [("text", .str system)]])])]) ++
    (if request.tools = [] then [] else [("tools", .arr [wireObject [("functionDeclarations",
      .arr (request.tools.map fun tool =>
        wireObject [("name", .str tool.name), ("description", .str tool.description),
          ("parameters", tool.input_schema.json)]))]])]))

/-- One part of a candidate: its function call, and its text unless it is a
    thought. -/
def readPart (raw : Json) (index : Nat) : Raises (Option Json.Members × Option String) := do
  let part ← ProviderContinuation.requiredMapping raw s!"candidate parts[{index}]"
  let call ← match Json.get? part "functionCall" with
    | some value => Except.map some (ProviderContinuation.requiredMapping value "functionCall")
    | none => .ok none
  let thought := truthy ((Json.get? part "thought").getD (.bool false))
  return (call, if thought then none else nonBlankText? (Json.getD part "text"))

/-- The one tool call of a response.  `hex` is the text of a fresh identifier. -/
def captureCall (limit : Nat) (hex : String) (a : GoogleAdapter) (parts : List Json)
    (call : Json.Members) : Raises ModelOutput := do
  let name ← ProviderContinuation.requiredResponseText (Json.getD call "name") "tool call name"
  let arguments ← parseArgumentsWithin limit ((Json.get? call "args").getD (.obj []))
    "tool arguments"
  let call_id ← match Json.get? call "id" with
    | some value => ProviderContinuation.requiredResponseText value "tool call ID"
    | none => .ok ("google-" ++ hex)
  let continuation ← ProviderContinuation.capture "google" a.model "google"
    (restoredObject [("role", .str "model"), ("parts", .arr parts)])
  let call ← ToolCall.capture call_id name (restoredObject arguments) (some continuation)
  return .call call

/-- `_parse_response`. -/
def parseResponse (limit : Nat) (hex : String) (a : GoogleAdapter) (response : Dict) :
    Raises ModelOutput := do
  let candidates ← ProviderContinuation.requiredList (response.get "candidates") "candidates"
  require (candidates.length = 1) (modelResponse "provider must return exactly one candidate")
  let candidate ← ProviderContinuation.requiredMapping (candidates.headD .null) "candidates[0]"
  require ((Json.get? candidate "finishReason").getD (.str "STOP") = .str "STOP")
    (modelResponse "provider response did not complete")
  let content ← ProviderContinuation.requiredMapping (Json.getD candidate "content")
    "candidate content"
  let parts ← ProviderContinuation.requiredList (Json.getD content "parts") "candidate parts"
  let read ← parts.zipIdx.mapM fun p => readPart p.1 p.2
  outputOf (a.captureCall limit hex parts) (read.filterMap Prod.fst) (read.filterMap Prod.snd)

end GoogleAdapter

/-! ## Section 6: OpenAI-compatible -/

/-- `OpenAICompatibleAdapter`. -/
structure OpenAICompatibleAdapter where
  provider : String
  model : String
  provider_text : nonBlank provider = true
  model_text : nonBlank model = true

namespace OpenAICompatibleAdapter

/-- `_message`. -/
def message (a : OpenAICompatibleAdapter) (message : Message) : Raises Json :=
  match message.tool_call with
  | some call =>
    match call.continuation with
    | some turn => Except.map Json.obj (turn.forRoute a.provider a.model .chatCompletions)
    | none =>
      .ok (wireObject [("role", .str "assistant"), ("content", .null),
        ("tool_calls", .arr [wireObject [("id", .str call.call_id), ("type", .str "function"),
          ("function", wireObject [("name", .str call.name),
            ("arguments", .str (String.ofList (Json.dumps .canonical call.arguments.json)))])]])])
  | none =>
    .ok (wireObject ([("role", .str message.role.value), ("content", .str message.content)] ++
      (if message.role = .tool then [("tool_call_id", wireText message.tool_call_id),
        ("name", wireText message.tool_name)] else [])))

/-- `payload["messages"]`. -/
def messages (a : OpenAICompatibleAdapter) (history : List Message) : Raises (List Json) :=
  history.mapM a.message

/-- The payload of `complete`. -/
def payload (a : OpenAICompatibleAdapter) (request : CompletionRequest) : Raises Json := do
  let messages ← a.messages request.messages
  return wireObject ([("model", .str a.model), ("messages", .arr messages),
      ("max_tokens", .int request.max_output_tokens), ("temperature", request.temperature)] ++
    (if request.tools = [] then [] else [("tools", .arr (request.tools.map fun tool =>
      wireObject [("type", .str "function"), ("function",
        wireObject [("name", .str tool.name), ("description", .str tool.description),
          ("parameters", tool.input_schema.json)])])), ("tool_choice", .str "auto")]))

/-- The assistant turn that is kept: the content, the one call with its type
    filled in, and the reasoning if there is any. -/
def assistantTurn (message call : Json.Members) : Json.Members :=
  [("role", .str "assistant"), ("content", Json.getD message "content"),
    ("tool_calls", .arr [.obj (Json.setMember "type"
      ((Json.get? call "type").getD (.str "function")) call)])] ++
  ((Json.get? message "reasoning_content").toList.map fun reasoning =>
    ("reasoning_content", reasoning))

/-- The one tool call of a response. -/
def captureCall (limit : Nat) (a : OpenAICompatibleAdapter) (message : Json.Members)
    (raw_calls : Json) : Raises ModelOutput := do
  let calls ← ProviderContinuation.requiredList raw_calls "message.tool_calls"
  require (calls.length = 1) (modelResponse "provider must return exactly one tool call")
  let call ← ProviderContinuation.requiredMapping (calls.headD .null) "message.tool_calls[0]"
  let function ← ProviderContinuation.requiredMapping (Json.getD call "function")
    "tool call function"
  let call_id ← ProviderContinuation.requiredResponseText (Json.getD call "id") "tool call ID"
  let name ← ProviderContinuation.requiredResponseText (Json.getD function "name")
    "tool call name"
  let arguments ← parseArgumentsWithin limit (Json.getD function "arguments") "tool arguments"
  let continuation ← ProviderContinuation.capture a.provider a.model "chat_completions"
    (restoredObject (assistantTurn message call))
  let call ← ToolCall.capture call_id name (restoredObject arguments) (some continuation)
  return .call call

/-- `_parse_response`. -/
def parseResponse (limit : Nat) (a : OpenAICompatibleAdapter) (response : Dict) :
    Raises ModelOutput := do
  let choices ← ProviderContinuation.requiredList (response.get "choices") "choices"
  require (choices.length = 1) (modelResponse "provider must return exactly one choice")
  let choice ← ProviderContinuation.requiredMapping (choices.headD .null) "choices[0]"
  let message ← ProviderContinuation.requiredMapping (Json.getD choice "message")
    "choices[0].message"
  let stopped ← inTexts (Json.getD choice "finish_reason") ["length", "content_filter"]
  require (stopped = false) (modelResponse "provider response did not complete")
  require ((Json.get? message "role").getD (.str "assistant") = .str "assistant" ∧
      truthy (Json.getD message "refusal") = false)
    (modelResponse "provider did not return an assistant completion")
  let raw_calls := Json.getD message "tool_calls"
  if raw_calls ≠ .null then a.captureCall limit message raw_calls
  else if (nonBlankText? (Json.getD message "content")).isSome then do
    let content ← ProviderContinuation.requiredResponseText (Json.getD message "content")
      "message content"
    Except.map ModelOutput.text (TextOutput.capture content)
  else .error (modelResponse "provider returned neither text nor a tool call")

end OpenAICompatibleAdapter

/-! ## Section 7: The three adapters -/

/-- An adapter. -/
inductive ModelAdapter where
  | anthropic (a : AnthropicAdapter)
  | google (a : GoogleAdapter)
  | openAICompatible (a : OpenAICompatibleAdapter)

namespace ModelAdapter

/-- The route whose continuations an adapter echoes. -/
def route : ModelAdapter → String × String × WireFormat
  | anthropic a => ("anthropic", a.model, .anthropic)
  | google a => ("google", a.model, .google)
  | openAICompatible a => (a.provider, a.model, .chatCompletions)

/-- The messages an adapter puts on the wire for a history. -/
def wireMessages : ModelAdapter → List Message → Raises (List Json)
  | anthropic a => a.messages
  | google a => a.contents
  | openAICompatible a => a.messages

/-- The payload of a request. -/
def payload : ModelAdapter → CompletionRequest → Raises Json
  | anthropic a => a.payload
  | google a => a.payload
  | openAICompatible a => a.payload

/-- What an adapter makes of a response. -/
def parseResponse (limit : Nat) (hex : String) : ModelAdapter → Dict → Raises ModelOutput
  | anthropic a => a.parseResponse limit
  | google a => a.parseResponse limit hex
  | openAICompatible a => a.parseResponse limit

/-- `complete`: nothing is posted unless the whole payload was built. -/
def complete (limit : Nat) (hex : String) (post_json : Json → Raises Dict) (a : ModelAdapter)
    (request : CompletionRequest) : Raises ModelOutput := do
  let payload ← a.payload request
  let response ← post_json payload
  a.parseResponse limit hex response

end ModelAdapter

end CBrain

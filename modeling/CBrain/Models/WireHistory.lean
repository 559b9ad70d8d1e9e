import CBrain.Agent.History
import CBrain.Models.ResponseTotality

/-! # Histories on the wire

    A provider's tool call is kept with the assistant turn it came in, and the
    turn is echoed in every later request on the same route.

    * `SentCall`     : the id and the name a provider gave the call of a turn.
    * `returnedTurn` : the assistant turn of a response.
    * `wireFrom`     : the rendering of a history, message by message, which
      is the list that each adapter builds.

    A turn off the route is refused wherever it stands in the history. -/

namespace CBrain

open Json (Dict)

/-! ## Section 1: The call of a turn -/

/-- The id, if one was given, and the name of the one call of an assistant
    turn. -/
def SentCall (format : WireFormat) (turn : Json.Members) (wire_id : Option String)
    (name : String) : Prop :=
  match format with
  | .chatCompletions =>
    ∃ (call function : Json.Members) (id : String), wire_id = some id ∧
      Json.getD turn "tool_calls" = .arr [.obj call] ∧ Json.getD call "id" = .str id ∧
      Json.getD call "function" = .obj function ∧ Json.getD function "name" = .str name
  | .anthropic =>
    ∃ (blocks : List Json.Members) (call : Json.Members) (id : String), wire_id = some id ∧
      Json.getD turn "content" = .arr (blocks.map .obj) ∧
      blocks.filter (fun block => Json.getD block "type" = .str "tool_use") = [call] ∧
      Json.getD call "id" = .str id ∧ Json.getD call "name" = .str name
  | .google =>
    ∃ (parts : List Json.Members) (call : Json.Members),
      Json.getD turn "parts" = .arr (parts.map .obj) ∧
      parts.filterMap (fun part => Json.get? part "functionCall") = [.obj call] ∧
      Json.get? call "id" = wire_id.map .str ∧ Json.getD call "name" = .str name

namespace ProviderContinuation

theorem exactlyOne_ok {values : List Json} {block : Json.Members} :
    exactlyOne values = .ok block ↔ values = [.obj block] := by
  unfold exactlyOne
  rw [require_bind_ok]
  exact only_object

theorem responseText_str {value : Json} {path s : String}
    (h : requiredResponseText value path = .ok s) : value = .str s :=
  (requiredMember_ok.mp h).1

theorem sentCall_chatCompletions {turn arguments : Json.Members} {wire_id : Option String}
    {wire_name : Json} {name : String}
    (h : chatCompletionsCall turn = .ok (wire_id, wire_name, arguments))
    (hname : wire_name = .str name) : SentCall .chatCompletions turn wire_id name := by
  unfold chatCompletionsCall at h
  simp only [bind_ok, pure_ok, requiredList_ok, requiredMapping_ok, exactlyOne_ok] at h
  obtain ⟨-, -, -, -, calls, hcalls, call, rfl, -, -, -, -, function, hfunction, -, -, id, hid, _, -,
    heq⟩ := h
  obtain ⟨rfl, rfl, rfl⟩ := heq
  exact ⟨call, function, id, rfl, hcalls, responseText_str hid, hfunction, hname⟩

/-- A block that is accepted is an object, and is the call if it says so. -/
theorem anthropicBlock_ok {raw : Json} {call : Option Json} (h : anthropicBlock raw = .ok call) :
    ∃ block, raw = .obj block ∧
      call = if Json.getD block "type" = .str "tool_use" then some (.obj block) else none := by
  unfold anthropicBlock at h
  obtain ⟨block, hblock, h⟩ := bind_ok.mp h
  refine ⟨block, requiredMapping_ok.mp hblock, ?_⟩
  split at h
  · next htype =>
    rw [if_pos htype]
    simp only [bind_ok, pure_ok] at h
    obtain ⟨-, -, rfl⟩ := h
    rfl
  · next htype =>
    rw [htype, if_neg (by decide)]
    simp only [bind_ok, pure_ok] at h
    obtain ⟨-, -, -, -, rfl⟩ := h
    rfl
  · next htype =>
    rw [htype, if_neg (by decide)]
    simp only [bind_ok, pure_ok] at h
    obtain ⟨-, -, -, -, -, -, rfl⟩ := h
    rfl
  · next htype =>
    rw [htype, if_neg (by decide)]
    simp only [bind_ok, pure_ok] at h
    obtain ⟨-, -, -, -, rfl⟩ := h
    rfl
  · cases h

theorem calls_of_blocks {raws : List Json} {calls : List (Option Json)}
    (h : raws.mapM anthropicBlock = .ok calls) :
    ∃ blocks : List Json.Members, raws = blocks.map .obj ∧ calls.filterMap id =
      (blocks.filter fun block => Json.getD block "type" = .str "tool_use").map .obj := by
  induction raws generalizing calls with
  | nil =>
    obtain rfl := pure_ok.mp h
    exact ⟨[], rfl, rfl⟩
  | cons raw raws ih =>
    rw [List.mapM_cons] at h
    simp only [bind_ok, pure_ok] at h
    obtain ⟨first, hfirst, rest, hrest, rfl⟩ := h
    obtain ⟨block, rfl, rfl⟩ := anthropicBlock_ok hfirst
    obtain ⟨blocks, rfl, hcalls⟩ := ih hrest
    refine ⟨block :: blocks, rfl, ?_⟩
    by_cases htype : Json.getD block "type" = .str "tool_use"
    · rw [List.filter_cons_of_pos (by simpa using htype), if_pos htype, List.filterMap_cons, hcalls]
      rfl
    · rw [List.filter_cons_of_neg (by simpa using htype), if_neg htype, List.filterMap_cons, hcalls]
      rfl

theorem sentCall_anthropic {turn arguments : Json.Members} {wire_id : Option String}
    {wire_name : Json} {name : String} (h : anthropicCall turn = .ok (wire_id, wire_name, arguments))
    (hname : wire_name = .str name) : SentCall .anthropic turn wire_id name := by
  unfold anthropicCall at h
  simp only [bind_ok, pure_ok, requiredList_ok, exactlyOne_ok] at h
  obtain ⟨-, -, raws, hraws, calls, hcalls, call, hone, id, hid, _, -, heq⟩ := h
  obtain ⟨rfl, rfl, rfl⟩ := heq
  obtain ⟨blocks, rfl, hblocks⟩ := calls_of_blocks hcalls
  rw [hone] at hblocks
  obtain ⟨only, hfilter, honly⟩ := List.map_eq_singleton_iff.mp hblocks.symm
  obtain rfl : only = call := Json.obj.inj honly
  exact ⟨blocks, only, id, rfl, hraws, hfilter, responseText_str hid, hname⟩

/-- What `googlePart` makes of a call or of a text. -/
def googleKind (part : Json.Members) : Raises (Option Json) :=
  match Json.get? part "functionCall", Json.get? part "text" with
  | some call, none => do return some (.obj (← requiredMapping call "assistant function"))
  | none, some text => do
    assistantText text
    return none
  | _, _ => .error (modelContract "unsupported assistant part")

/-- A part that is accepted is an object, and so is its call. -/
theorem googlePart_ok {raw : Json} {call : Option Json} (h : googlePart raw = .ok call) :
    ∃ part, raw = .obj part ∧ Json.get? part "functionCall" = call := by
  unfold googlePart at h
  obtain ⟨part, hpart, h⟩ := bind_ok.mp h
  obtain ⟨_, -, h⟩ := bind_ok.mp h
  refine ⟨part, requiredMapping_ok.mp hpart, ?_⟩
  have hkind : googleKind part = .ok call := by
    dsimp only at h
    split at h
    · obtain ⟨_, -, h⟩ := bind_ok.mp h
      split at h
      · exact h
      · exact h
      · cases h
    · split at h
      · exact h
      · exact h
      · cases h
  unfold googleKind at hkind
  split at hkind
  · next value hvalue _ =>
    simp only [bind_ok, pure_ok, requiredMapping_ok] at hkind
    obtain ⟨_, rfl, rfl⟩ := hkind
    exact hvalue
  · next text hnone _ =>
    simp only [bind_ok, pure_ok] at hkind
    obtain ⟨-, -, rfl⟩ := hkind
    exact hnone
  · cases hkind

theorem calls_of_parts {raws : List Json} {calls : List (Option Json)}
    (h : raws.mapM googlePart = .ok calls) :
    ∃ parts : List Json.Members, raws = parts.map .obj ∧
      parts.filterMap (fun part => Json.get? part "functionCall") = calls.filterMap id := by
  induction raws generalizing calls with
  | nil =>
    obtain rfl := pure_ok.mp h
    exact ⟨[], rfl, rfl⟩
  | cons raw raws ih =>
    rw [List.mapM_cons] at h
    simp only [bind_ok, pure_ok] at h
    obtain ⟨first, hfirst, rest, hrest, rfl⟩ := h
    obtain ⟨part, rfl, rfl⟩ := googlePart_ok hfirst
    obtain ⟨parts, rfl, hcalls⟩ := ih hrest
    refine ⟨part :: parts, rfl, ?_⟩
    rw [List.filterMap_cons, List.filterMap_cons, hcalls]
    rfl

theorem sentCall_google {turn arguments : Json.Members} {wire_id : Option String} {wire_name : Json}
    {name : String} (h : googleCall turn = .ok (wire_id, wire_name, arguments))
    (hname : wire_name = .str name) : SentCall .google turn wire_id name := by
  unfold googleCall at h
  simp only [bind_ok, requiredList_ok, exactlyOne_ok] at h
  obtain ⟨-, -, raws, hraws, calls, hcalls, call, hone, -, -, h⟩ := h
  obtain ⟨parts, rfl, hparts⟩ := calls_of_parts hcalls
  rw [hone] at hparts
  have hid : ∃ id, Json.get? call "id" = id.map .str ∧
      ∃ arguments', (id, Json.getD call "name", arguments') = (wire_id, wire_name, arguments) := by
    split at h
    · next value hvalue =>
      simp only [bind_ok, map_ok, pure_ok] at h
      obtain ⟨_, ⟨id, hid, rfl⟩, arguments', -, heq⟩ := h
      refine ⟨some id, ?_, arguments', heq⟩
      rw [hvalue, responseText_str hid]
      rfl
    · next hnone =>
      simp only [bind_ok, pure_ok] at h
      obtain ⟨_, hok, arguments', -, heq⟩ := h
      obtain rfl := Except.ok.inj hok
      exact ⟨none, hnone, arguments', heq⟩
  obtain ⟨id, hget, arguments', heq⟩ := hid
  obtain ⟨rfl, rfl, rfl⟩ := heq
  exact ⟨parts, call, hraws, hparts, hget, hname⟩

end ProviderContinuation

/-- **The call of a turn**: a turn that belongs to a call names it, under the
    call's own id if it gives one. -/
theorem sentCall_of_call {call : ToolCall} {turn : ProviderContinuation}
    (h : call.continuation = some turn) :
    ∃ wire_id, SentCall turn.wire_format turn.message.members wire_id call.name ∧
      (wire_id = none ∨ wire_id = some call.call_id) := by
  have hvalid := call.valid
  unfold ToolCall.check at hvalid
  simp only [bind_ok, h] at hvalid
  obtain ⟨-, -, -, -, -, -, -, -, hvalid⟩ := hvalid
  unfold validateContinuationCall at hvalid
  obtain ⟨_, -, hvalid⟩ := bind_ok.mp hvalid
  dsimp only at hvalid
  -- The three formats read the turn, and agree on what is compared.
  split at hvalid
  · next hformat =>
    obtain ⟨⟨wire_id, wire_name, arguments⟩, hwire, hvalid⟩ := bind_ok.mp hvalid
    obtain ⟨⟨hid, hname⟩, -⟩ := require_bind_ok.mp hvalid
    rw [hformat]
    exact ⟨wire_id, ProviderContinuation.sentCall_chatCompletions hwire hname, hid⟩
  · next hformat =>
    obtain ⟨⟨wire_id, wire_name, arguments⟩, hwire, hvalid⟩ := bind_ok.mp hvalid
    obtain ⟨⟨hid, hname⟩, -⟩ := require_bind_ok.mp hvalid
    rw [hformat]
    exact ⟨wire_id, ProviderContinuation.sentCall_anthropic hwire hname, hid⟩
  · next hformat =>
    obtain ⟨⟨wire_id, wire_name, arguments⟩, hwire, hvalid⟩ := bind_ok.mp hvalid
    obtain ⟨⟨hid, hname⟩, -⟩ := require_bind_ok.mp hvalid
    rw [hformat]
    exact ⟨wire_id, ProviderContinuation.sentCall_google hwire hname, hid⟩

/-! ## Section 2: Rendering a history -/

/-- The route of a turn. -/
def ProviderContinuation.route (turn : ProviderContinuation) : String × String × WireFormat :=
  (turn.provider, turn.model, turn.wire_format)

/-- The refusal of a turn that is off the route. -/
def routeMismatch : Exn := modelContract "provider continuation route mismatch"

theorem ProviderContinuation.forRoute_eq {turn : ProviderContinuation} {provider model : String}
    {wire_format : WireFormat} :
    turn.forRoute provider model wire_format =
      if turn.route = (provider, model, wire_format) then .ok turn.message.members
      else .error routeMismatch := by
  unfold forRoute
  have hroute : turn.route = (provider, model, wire_format) ↔
      turn.provider = provider ∧ turn.model = model ∧ turn.wire_format = wire_format := by
    rw [route, Prod.mk.injEq, Prod.mk.injEq]
  by_cases h : turn.route = (provider, model, wire_format)
  · rw [if_pos h, require_bind_pos (hroute.mp h), restored_eq]
  · rw [if_neg h, require_bind_neg fun hfields => h (hroute.mpr hfields)]
    rfl

/-- A result carries no call of its own. -/
theorem IsResultOf.plain {result : Message} {call : ToolCall} (h : IsResultOf result call) :
    result.tool_call = none := by
  cases hcall : result.tool_call with
  | none => rfl
  | some other =>
    have hassistant := Message.role_of_call hcall
    rw [h.1] at hassistant
    cases hassistant

namespace ModelAdapter

/-- The messages that an adapter leaves out of the list. -/
def omits : ModelAdapter → Message → Bool
  | openAICompatible _, _ => false
  | _, m => m.role = .system

/-- One message, beside the tool call of the message before it. -/
def render : ModelAdapter → Option ToolCall → Message → Raises Json
  | anthropic a, _, m => a.message m
  | google a, preceding_call, m => a.message m preceding_call
  | openAICompatible a, _, m => a.message m

/-- The rendering of a history. -/
def wireFrom (adapter : ModelAdapter) : Option ToolCall → List Message → Raises (List Json)
  | _, [] => .ok []
  | preceding_call, m :: ms =>
    if adapter.omits m then wireFrom adapter m.tool_call ms
    else do
      let x ← adapter.render preceding_call m
      let xs ← wireFrom adapter m.tool_call ms
      return x :: xs

theorem anthropic_messages {a : AnthropicAdapter} (preceding_call : Option ToolCall)
    (history : List Message) : a.messages history = (anthropic a).wireFrom preceding_call history := by
  unfold AnthropicAdapter.messages
  induction history generalizing preceding_call with
  | nil => rfl
  | cons m history ih =>
    rw [wireFrom]
    by_cases hsystem : m.role = .system
    · rw [List.filter_cons_of_neg (by simpa using hsystem), if_pos (by simpa [omits] using hsystem)]
      exact ih m.tool_call
    · rw [List.filter_cons_of_pos (by simpa using hsystem), if_neg (by simpa [omits] using hsystem),
        List.mapM_cons, ih m.tool_call]
      rfl

theorem google_contents {a : GoogleAdapter} (preceding_call : Option ToolCall)
    (history : List Message) :
    ((history.zip (preceding_call :: history.map Message.tool_call)).filter
        fun p => p.1.role ≠ .system).mapM (fun p => a.message p.1 p.2) =
      (google a).wireFrom preceding_call history := by
  induction history generalizing preceding_call with
  | nil => rfl
  | cons m history ih =>
    rw [wireFrom, List.map_cons, List.zip_cons_cons]
    by_cases hsystem : m.role = .system
    · rw [List.filter_cons_of_neg (by simpa using hsystem), if_pos (by simpa [omits] using hsystem)]
      exact ih m.tool_call
    · rw [List.filter_cons_of_pos (by simpa using hsystem), if_neg (by simpa [omits] using hsystem),
        List.mapM_cons, ih m.tool_call]
      rfl

theorem openAI_messages {a : OpenAICompatibleAdapter} (preceding_call : Option ToolCall)
    (history : List Message) :
    a.messages history = (openAICompatible a).wireFrom preceding_call history := by
  unfold OpenAICompatibleAdapter.messages
  induction history generalizing preceding_call with
  | nil => rfl
  | cons m history ih =>
    rw [List.mapM_cons, ih m.tool_call]
    rfl

/-- The three lists are built message by message. -/
theorem wireMessages_eq (adapter : ModelAdapter) (history : List Message) :
    adapter.wireMessages history = adapter.wireFrom none history := by
  cases adapter with
  | anthropic a => exact anthropic_messages none history
  | google a => exact google_contents none history
  | openAICompatible a => exact openAI_messages none history

/-- The call before what follows a history. -/
def lastCall (preceding_call : Option ToolCall) (history : List Message) : Option ToolCall :=
  (history.getLast?.map Message.tool_call).getD preceding_call

theorem wireFrom_append (adapter : ModelAdapter) (preceding_call : Option ToolCall)
    (l₁ l₂ : List Message) :
    adapter.wireFrom preceding_call (l₁ ++ l₂) = do
      let xs ← adapter.wireFrom preceding_call l₁
      let ys ← adapter.wireFrom (lastCall preceding_call l₁) l₂
      return xs ++ ys := by
  induction l₁ generalizing preceding_call with
  | nil =>
    show adapter.wireFrom preceding_call l₂ =
      (adapter.wireFrom preceding_call l₂ >>= fun ys => pure ys)
    rw [bind_pure]
  | cons m l₁ ih =>
    have hlast : lastCall m.tool_call l₁ = lastCall preceding_call (m :: l₁) := by
      cases l₁ with
      | nil => rfl
      | cons m' l₁ => rfl
    rw [List.cons_append, wireFrom, wireFrom, ih, hlast]
    by_cases homits : adapter.omits m = true
    · rw [if_pos homits, if_pos homits]
    · rw [if_neg homits, if_neg homits]
      simp only [bind_assoc, pure_bind, List.cons_append]

/-- The call, if it has a turn, belongs to the adapter's route. -/
def OnRoute (adapter : ModelAdapter) (call? : Option ToolCall) : Prop :=
  ∀ turn, call?.bind ToolCall.continuation = some turn → turn.route = adapter.route

/-- A call with a turn on the route is rendered as the turn. -/
theorem render_turn {adapter : ModelAdapter} {preceding_call : Option ToolCall} {m : Message}
    {call : ToolCall} {turn : ProviderContinuation} (hcall : m.tool_call = some call)
    (hturn : call.continuation = some turn) :
    adapter.render preceding_call m =
      if turn.route = adapter.route then .ok turn.message.json else .error routeMismatch := by
  have hroute : ∀ provider model wire_format,
      Except.map Json.obj (turn.forRoute provider model wire_format) =
        if turn.route = (provider, model, wire_format) then .ok turn.message.json
        else .error routeMismatch := by
    intro provider model wire_format
    rw [ProviderContinuation.forRoute_eq]
    by_cases h : turn.route = (provider, model, wire_format)
    · rw [if_pos h, if_pos h]
      rfl
    · rw [if_neg h, if_neg h]
      rfl
  cases adapter with
  | anthropic a =>
    simp only [render, AnthropicAdapter.message, hcall, hturn]
    exact hroute _ _ _
  | google a =>
    simp only [render, GoogleAdapter.message, hcall, hturn]
    exact hroute _ _ _
  | openAICompatible a =>
    simp only [render, OpenAICompatibleAdapter.message, hcall, hturn]
    exact hroute _ _ _

/-- A message is rendered when its own call and the call before it are on the
    route. -/
theorem render_onRoute {adapter : ModelAdapter} {preceding_call : Option ToolCall} {m : Message}
    (hbefore : adapter.OnRoute preceding_call) (h : adapter.OnRoute m.tool_call) :
    ∃ x, adapter.render preceding_call m = .ok x := by
  cases hcall : m.tool_call with
  | some call =>
    cases hturn : call.continuation with
    | some turn =>
      rw [hcall] at h
      exact ⟨_, by rw [render_turn hcall hturn, if_pos (h turn hturn)]⟩
    | none =>
      cases adapter <;>
        simp [render, AnthropicAdapter.message, GoogleAdapter.message,
          OpenAICompatibleAdapter.message, hcall, hturn]
  | none =>
    cases adapter with
    | anthropic a =>
      simp only [render, AnthropicAdapter.message, hcall]
      split <;> exact ⟨_, rfl⟩
    | openAICompatible a =>
      simp only [render, OpenAICompatibleAdapter.message, hcall]
      exact ⟨_, rfl⟩
    | google a =>
      simp only [render, GoogleAdapter.message, hcall]
      split
      · cases hturn : preceding_call.bind ToolCall.continuation with
        | none => exact ⟨_, rfl⟩
        | some turn =>
          have hroute : turn.route = ("google", a.model, .google) := hbefore turn hturn
          simp only [ProviderContinuation.forRoute_eq, if_pos hroute]
          exact ⟨_, rfl⟩
      · exact ⟨_, rfl⟩

theorem wireFrom_onRoute {adapter : ModelAdapter} {preceding_call : Option ToolCall}
    {history : List Message} (hbefore : adapter.OnRoute preceding_call)
    (h : ∀ m ∈ history, adapter.OnRoute m.tool_call) :
    ∃ xs, adapter.wireFrom preceding_call history = .ok xs := by
  induction history generalizing preceding_call with
  | nil => exact ⟨[], rfl⟩
  | cons m history ih =>
    have hhead := h m List.mem_cons_self
    obtain ⟨xs, hxs⟩ := ih hhead fun m' hm' => h m' (List.mem_cons_of_mem m hm')
    rw [wireFrom]
    by_cases homits : adapter.omits m = true
    · exact ⟨xs, by rw [if_pos homits, hxs]⟩
    · obtain ⟨x, hx⟩ := render_onRoute hbefore hhead
      refine ⟨x :: xs, ?_⟩
      rw [if_neg homits, hx, hxs]
      rfl

/-- A message that carries a call is put on the wire. -/
theorem omits_call {adapter : ModelAdapter} {m : Message} {call : ToolCall}
    (h : m.tool_call = some call) : adapter.omits m = false := by
  cases adapter <;> simp [omits, Message.role_of_call h]

/-- **Off the route nothing is rendered**: the first turn of another route is
    refused. -/
theorem wireFrom_offRoute {adapter : ModelAdapter} {preceding_call : Option ToolCall}
    {history : List Message} (hbefore : adapter.OnRoute preceding_call)
    (h : ∃ m ∈ history, ¬ adapter.OnRoute m.tool_call) :
    adapter.wireFrom preceding_call history = .error routeMismatch := by
  induction history generalizing preceding_call with
  | nil =>
    obtain ⟨m, hm, -⟩ := h
    cases hm
  | cons m history ih =>
    rw [wireFrom]
    by_cases hhead : adapter.OnRoute m.tool_call
    · have hrest : ∃ m' ∈ history, ¬ adapter.OnRoute m'.tool_call := by
        obtain ⟨m', hm', hoff⟩ := h
        rcases List.mem_cons.mp hm' with rfl | hm'
        · exact absurd hhead hoff
        · exact ⟨m', hm', hoff⟩
      rw [ih hhead hrest]
      by_cases homits : adapter.omits m = true
      · rw [if_pos homits]
      · obtain ⟨x, hx⟩ := render_onRoute hbefore hhead
        rw [if_neg homits, hx]
        rfl
    · obtain ⟨turn, hoff⟩ := not_forall.mp hhead
      obtain ⟨hturn, hoff⟩ := Classical.not_imp.mp hoff
      obtain ⟨call, hcall, hturn⟩ := Option.bind_eq_some_iff.mp hturn
      rw [omits_call hcall, if_neg Bool.false_ne_true, render_turn hcall hturn, if_neg hoff]
      rfl

/-- The tool result that answers a call: its id, its name and the observation.
    Google is sent an id exactly when it gave one. -/
def toolResult (adapter : ModelAdapter) (wire_id : Option String) (name content : String) : Json :=
  match adapter with
  | anthropic _ =>
    wireObject [("role", .str "user"),
      ("content", .arr [wireObject [("type", .str "tool_result"), ("tool_use_id", wireText wire_id),
        ("content", .str content)]])]
  | google _ =>
    wireObject [("role", .str "user"), ("parts", .arr [wireObject [("functionResponse",
      wireObject ([("name", .str name), ("response", wireObject [("content", .str content)])] ++
        (wire_id.toList.map fun id => ("id", .str id))))]])]
  | openAICompatible _ =>
    wireObject [("role", .str "tool"), ("content", .str content),
      ("tool_call_id", wireText wire_id), ("name", .str name)]

/-- The id of a call, if it is an object. -/
def callId : Json → Option Json
  | .obj function => Json.get? function "id"
  | _ => none

/-- The ids of the calls in a turn of one call. -/
theorem callIds_sent {turn : Json.Members} {wire_id : Option String} {name : String}
    (h : SentCall .google turn wire_id name) :
    (GoogleAdapter.callIds turn).getLast? = wire_id.map .str := by
  obtain ⟨parts, call, hparts, hcalls, hid, -⟩ := h
  have hids : GoogleAdapter.callIds turn =
      (parts.filterMap fun part => Json.get? part "functionCall").filterMap callId := by
    unfold GoogleAdapter.callIds
    simp only [hparts]
    rw [List.filterMap_map, List.filterMap_filterMap]
    congr 1
    funext part
    dsimp only [Function.comp_apply]
    cases Json.get? part "functionCall" with
    | none => rfl
    | some value => cases value <;> rfl
  rw [hids, hcalls]
  simp only [List.filterMap_cons, callId, hid]
  cases wire_id <;> rfl

/-- The result of a call of the route is rendered with what the provider gave
    the call. -/
theorem render_result {adapter : ModelAdapter} {call : ToolCall} {turn : ProviderContinuation}
    {result : Message} {wire_id : Option String} (hresult : IsResultOf result call)
    (hturn : call.continuation = some turn) (hroute : turn.route = adapter.route)
    (hsent : SentCall turn.wire_format turn.message.members wire_id call.name)
    (hid : wire_id = none ∨ wire_id = some call.call_id) :
    adapter.render (some call) result =
      .ok (adapter.toolResult wire_id call.name result.content) := by
  have hplain := hresult.plain
  obtain ⟨hrole, hcall_id, hname⟩ := hresult
  cases adapter with
  | anthropic a =>
    have hformat : turn.wire_format = .anthropic := congrArg (fun r => r.2.2) hroute
    rw [hformat] at hsent
    obtain ⟨-, -, id, rfl, -⟩ := hsent
    have hown : id = call.call_id := by simpa using hid
    simp only [render, AnthropicAdapter.message, hplain, if_pos hrole, hcall_id, toolResult, hown]
  | openAICompatible a =>
    have hformat : turn.wire_format = .chatCompletions := congrArg (fun r => r.2.2) hroute
    rw [hformat] at hsent
    obtain ⟨-, -, id, rfl, -⟩ := hsent
    have hown : id = call.call_id := by simpa using hid
    simp only [render, OpenAICompatibleAdapter.message, hplain, hrole, hcall_id, hname, toolResult,
      hown]
    rfl
  | google a =>
    have hformat : turn.wire_format = .google := congrArg (fun r => r.2.2) hroute
    rw [hformat] at hsent
    have hours : turn.route = ("google", a.model, .google) := hroute
    simp only [render, GoogleAdapter.message, hplain, if_pos hrole, Option.bind_some, hturn,
      ProviderContinuation.forRoute_eq, if_pos hours, ok_bind, callIds_sent hsent,
      GoogleAdapter.functionResponse, hname, toolResult]
    cases wire_id <;> rfl

end ModelAdapter

/-! ## Section 3: Turns of responses -/

/-- A call without a type gets type `function`. -/
def typedCall (call : Json.Members) : Json.Members :=
  if (Json.get? call "type").isSome then call
  else Json.setMember "type" (.str "function") call

/-- The assistant turn of a response, as the provider returned it. -/
def ModelAdapter.returnedTurn (adapter : ModelAdapter) (response : Dict) : Option Json :=
  match adapter with
  | anthropic _ =>
    some (wireObject [("role", .str "assistant"), ("content", response.get "content")])
  | google _ =>
    match response.get "candidates" with
    | .arr [.obj candidate] =>
      match Json.getD candidate "content" with
      | .obj content =>
        some (wireObject [("role", .str "model"), ("parts", Json.getD content "parts")])
      | _ => none
    | _ => none
  | openAICompatible _ =>
    match response.get "choices" with
    | .arr [.obj choice] =>
      match Json.getD choice "message" with
      | .obj message =>
        match Json.getD message "tool_calls" with
        | .arr [.obj call] =>
          some (wireObject ([("role", .str "assistant"), ("content", Json.getD message "content"),
              ("tool_calls", .arr [.obj (typedCall call)])] ++
            ((Json.get? message "reasoning_content").toList.map fun reasoning =>
              ("reasoning_content", reasoning))))
        | _ => none
      | _ => none
    | _ => none

/-- A member that is set to its own value. -/
theorem setMember_same {k : String} {v : Json} {ms : Json.Members}
    (hsorted : ms.Pairwise fun a b => a.1 < b.1) (h : Json.get? ms k = some v) :
    Json.setMember k v ms = ms := by
  induction ms with
  | nil => cases h
  | cons m ms ih =>
    rcases m with ⟨l, w⟩
    obtain ⟨hlt, hsorted⟩ := List.pairwise_cons.mp hsorted
    rw [Json.get?_cons] at h
    rw [Json.setMember]
    by_cases hkl : k = l
    · rw [if_pos hkl] at h
      obtain rfl : w = v := Option.some.inj h
      subst hkl
      rw [if_neg (String.lt_irrefl k), if_pos rfl]
    · rw [if_neg hkl] at h
      have hlk : l < k := hlt _ (Json.mem_of_get? h)
      rw [if_neg (String.lt_asymm hlk), if_neg hkl, ih hsorted h]

theorem typedCall_eq {call : Json.Members} (h : Json.WF (.obj call)) :
    Json.setMember "type" ((Json.get? call "type").getD (.str "function")) call = typedCall call := by
  unfold typedCall
  cases htype : Json.get? call "type" with
  | none => rfl
  | some type =>
    rw [Option.getD_some, setMember_same h.sorted htype]
    rfl

theorem restoredObject_json {ms : Json.Members} (h : ∀ m ∈ ms, Json.WF m.2) :
    (restoredObject ms).json = wireObject ms := by
  have hnormal : Json.normalizeMembers ms = ms :=
    Json.normalizeMembers_eq fun m hm => Json.normalize_wf (h m hm)
  show Json.obj (Json.dictOf (Json.normalizeMembers ms)) = _
  rw [hnormal]
  rfl

theorem wf_getD {ms : Json.Members} (h : Json.WF (.obj ms)) (k : String) :
    Json.WF (Json.getD ms k) := by
  unfold Json.getD
  cases hget : Json.get? ms k with
  | none => exact Json.WF.null
  | some v => exact h.get? hget

theorem ProviderContinuation.capture_fields {provider model wire_format : String} {message : Dict}
    {turn : ProviderContinuation}
    (h : ProviderContinuation.capture provider model wire_format message = .ok turn) :
    turn.provider = provider ∧ turn.model = model ∧
      WireFormat.ofValue? wire_format = some turn.wire_format ∧ turn.message = message := by
  unfold ProviderContinuation.capture at h
  simp only [bind_ok] at h
  obtain ⟨-, -, -, -, -, -, h⟩ := h
  split at h
  · cases h
  · next format hformat =>
    split at h
    · obtain rfl := Except.ok.inj h
      exact ⟨rfl, rfl, hformat, rfl⟩
    · cases h

theorem ToolCall.continuation_of_capture {call_id name : String} {arguments : Dict}
    {continuation : Option ProviderContinuation} {call : ToolCall}
    (h : ToolCall.capture call_id name arguments continuation = .ok call) :
    call.continuation = continuation := by
  unfold ToolCall.capture at h
  split at h
  · obtain rfl := Except.ok.inj h
    rfl
  · cases h

/-- The turn that a call of a response carries. -/
structure TurnOf (adapter : ModelAdapter) (response : Dict) (call : ToolCall)
    (turn : ProviderContinuation) : Prop where
  carried : call.continuation = some turn
  on_route : turn.route = adapter.route
  returned : adapter.returnedTurn response = some turn.message.json

/-- The turn that was captured with a call. -/
theorem turnOf_capture {adapter : ModelAdapter} {response : Dict} {call_id name : String}
    {arguments : Dict} {provider model wire_format : String} {format : WireFormat}
    {ms : Json.Members} {turn : ProviderContinuation} {call : ToolCall}
    (hturn : ProviderContinuation.capture provider model wire_format (restoredObject ms) = .ok turn)
    (hcall : ToolCall.capture call_id name arguments (some turn) = .ok call)
    (hformat : WireFormat.ofValue? wire_format = some format)
    (hroute : adapter.route = (provider, model, format))
    (hreturned : adapter.returnedTurn response = some (wireObject ms))
    (hms : ∀ m ∈ ms, Json.WF m.2) : TurnOf adapter response call turn := by
  obtain ⟨hprovider, hmodel, hwire, hmessage⟩ := ProviderContinuation.capture_fields hturn
  obtain rfl : format = turn.wire_format := Option.some.inj (hformat.symm.trans hwire)
  refine ⟨ToolCall.continuation_of_capture hcall, ?_, ?_⟩
  · rw [hroute, ProviderContinuation.route, hprovider, hmodel]
  · rw [hreturned, hmessage, restoredObject_json hms]

/-- A capture that yields a call is the capture of the only call there is. -/
theorem call_of_outputOf {capture : Json.Members → Raises ModelOutput} {calls : List Json.Members}
    {texts : List String} {call : ToolCall} (h : outputOf capture calls texts = .ok (.call call)) :
    ∃ ms, calls = [ms] ∧ capture ms = .ok (.call call) := by
  unfold outputOf at h
  split at h
  · exact ⟨_, rfl, h⟩
  · cases h
  · cases h
  · obtain ⟨_, -, hother⟩ := map_ok.mp h
    cases hother

theorem AnthropicAdapter.turnOf_parseResponse {limit : Nat} {a : AnthropicAdapter} {response : Dict}
    {call : ToolCall} (h : a.parseResponse limit response = .ok (.call call)) :
    ∃ turn, TurnOf (.anthropic a) response call turn := by
  unfold AnthropicAdapter.parseResponse at h
  simp only [bind_ok, ProviderContinuation.requiredList_ok] at h
  obtain ⟨-, -, -, -, content, hcontent, blocks, -, h⟩ := h
  obtain ⟨block, -, h⟩ := call_of_outputOf h
  unfold AnthropicAdapter.captureCall at h
  simp only [bind_ok, pure_ok] at h
  obtain ⟨_, -, _, -, _, -, turn, hturn, _, hcall, heq⟩ := h
  obtain rfl := ModelOutput.call.inj heq
  have hformat : WireFormat.ofValue? "anthropic" = some .anthropic := rfl
  refine ⟨turn, turnOf_capture hturn hcall hformat rfl ?_ ?_⟩
  · rw [ModelAdapter.returnedTurn, hcontent]
  · have hwf := response.wf_get "content"
    rw [hcontent] at hwf
    simp [hwf]

theorem GoogleAdapter.turnOf_parseResponse {limit : Nat} {hex : String} {a : GoogleAdapter}
    {response : Dict} {call : ToolCall}
    (h : a.parseResponse limit hex response = .ok (.call call)) :
    ∃ turn, TurnOf (.google a) response call turn := by
  unfold GoogleAdapter.parseResponse at h
  simp only [bind_ok, require_ok, ProviderContinuation.requiredList_ok] at h
  obtain ⟨candidates, hcandidates, -, hone, candidate, hcandidate, -, -, content, hcontent, parts,
    hparts, read, -, h⟩ := h
  obtain rfl := only_object.mp ⟨hone, hcandidate⟩
  rw [ProviderContinuation.requiredMapping_ok] at hcontent
  obtain ⟨ms, -, h⟩ := call_of_outputOf h
  have hcapture : ∃ call_id name arguments turn,
      ProviderContinuation.capture "google" a.model "google"
        (restoredObject [("role", .str "model"), ("parts", .arr parts)]) = .ok turn ∧
      ToolCall.capture call_id name arguments (some turn) = .ok call := by
    unfold GoogleAdapter.captureCall at h
    obtain ⟨name, -, h⟩ := bind_ok.mp h
    obtain ⟨arguments, -, h⟩ := bind_ok.mp h
    dsimp only at h
    split at h
    · simp only [bind_ok, pure_ok] at h
      obtain ⟨call_id, -, turn, hturn, _, hcall, heq⟩ := h
      obtain rfl := ModelOutput.call.inj heq
      exact ⟨call_id, name, _, turn, hturn, hcall⟩
    · simp only [bind_ok, pure_ok] at h
      obtain ⟨call_id, -, turn, hturn, _, hcall, heq⟩ := h
      obtain rfl := ModelOutput.call.inj heq
      exact ⟨call_id, name, _, turn, hturn, hcall⟩
  obtain ⟨call_id, name, arguments, turn, hturn, hcall⟩ := hcapture
  have hformat : WireFormat.ofValue? "google" = some .google := rfl
  refine ⟨turn, turnOf_capture hturn hcall hformat rfl ?_ ?_⟩
  · simp only [ModelAdapter.returnedTurn, hcandidates, hcontent, hparts]
  · have hwf := response.wf_get "candidates"
    rw [hcandidates] at hwf
    have hcontent_wf : Json.WF (.obj content) :=
      hcontent ▸ wf_getD (hwf.elem _ List.mem_cons_self) _
    have hparts_wf := wf_getD hcontent_wf "parts"
    rw [hparts] at hparts_wf
    simp [hparts_wf]

theorem OpenAICompatibleAdapter.turnOf_parseResponse {limit : Nat} {a : OpenAICompatibleAdapter}
    {response : Dict} {call : ToolCall}
    (h : a.parseResponse limit response = .ok (.call call)) :
    ∃ turn, TurnOf (.openAICompatible a) response call turn := by
  unfold OpenAICompatibleAdapter.parseResponse at h
  simp only [bind_ok, require_ok, ProviderContinuation.requiredList_ok] at h
  obtain ⟨choices, hchoices, -, hone, choice, hchoice, message, hmessage, -, -, -, -, -, -, h⟩ := h
  obtain rfl := only_object.mp ⟨hone, hchoice⟩
  rw [ProviderContinuation.requiredMapping_ok] at hmessage
  by_cases hnull : Json.getD message "tool_calls" = .null
  · rw [if_neg (not_not.mpr hnull)] at h
    split at h
    · obtain ⟨content, -, h⟩ := bind_ok.mp h
      obtain ⟨_, -, hother⟩ := map_ok.mp h
      cases hother
    · cases h
  · rw [if_pos hnull] at h
    unfold OpenAICompatibleAdapter.captureCall at h
    simp only [bind_ok, require_ok, pure_ok, ProviderContinuation.requiredList_ok] at h
    obtain ⟨calls, hcalls, -, hone, sent, hsent, function, -, _, -, _, -, _, -, turn, hturn, _, hcall,
      heq⟩ := h
    obtain rfl := only_object.mp ⟨hone, hsent⟩
    obtain rfl := ModelOutput.call.inj heq
    have hformat : WireFormat.ofValue? "chat_completions" = some .chatCompletions := rfl
    have hwf := response.wf_get "choices"
    rw [hchoices] at hwf
    have hmessage_wf : Json.WF (.obj message) :=
      hmessage ▸ wf_getD (hwf.elem _ List.mem_cons_self) _
    have hcalls_wf := wf_getD hmessage_wf "tool_calls"
    rw [hcalls] at hcalls_wf
    have hsent_wf : Json.WF (.obj sent) := hcalls_wf.elem _ List.mem_cons_self
    have htype : Json.WF ((Json.get? sent "type").getD (.str "function")) := by
      cases hget : Json.get? sent "type" with
      | none => exact Json.WF.str _
      | some value => exact hsent_wf.get? hget
    refine ⟨turn, turnOf_capture hturn hcall hformat rfl ?_ ?_⟩
    · simp only [ModelAdapter.returnedTurn, hchoices, hmessage, hcalls,
        OpenAICompatibleAdapter.assistantTurn, typedCall_eq hsent_wf]
    · unfold OpenAICompatibleAdapter.assistantTurn
      intro m hm
      simp only [List.mem_append, List.mem_cons, List.not_mem_nil, or_false, List.mem_map,
        Option.mem_toList] at hm
      rcases hm with (rfl | rfl | rfl) | ⟨reasoning, hreasoning, rfl⟩
      · exact Json.WF.str _
      · exact wf_getD hmessage_wf _
      · refine Json.WF.arr fun x hx => ?_
        obtain rfl := List.mem_singleton.mp hx
        exact Json.wf_setMember htype hsent_wf
      · exact hmessage_wf.get? hreasoning

/-- **Turns of responses**: a call that an adapter accepts carries the turn as
    the provider returned it, on the adapter's route. -/
theorem ModelAdapter.turnOf_parseResponse {limit : Nat} {hex : String} {adapter : ModelAdapter}
    {response : Dict} {call : ToolCall}
    (h : adapter.parseResponse limit hex response = .ok (.call call)) :
    ∃ turn, TurnOf adapter response call turn := by
  cases adapter with
  | anthropic a => exact AnthropicAdapter.turnOf_parseResponse h
  | google a => exact GoogleAdapter.turnOf_parseResponse h
  | openAICompatible a => exact OpenAICompatibleAdapter.turnOf_parseResponse h

/-! ## Section 4: Faithful histories -/

/-- An accepted history answers each call by the next message. -/
theorem result_follows {before rest : List Message} {m : Message} {call : ToolCall}
    (h : validateHistory (before ++ m :: rest) false = .ok ()) (hcall : m.tool_call = some call) :
    ∃ result after, rest = result :: after ∧ IsResultOf result call := by
  have hrole : m.role ≠ .tool := by
    rw [Message.role_of_call hcall]
    decide
  obtain ⟨seen, hrun⟩ := settled_iff.mp h
  rw [HistoryState.run_append] at hrun
  obtain ⟨⟨pending, names⟩, -, hrun⟩ := bind_ok.mp hrun
  rw [HistoryState.run] at hrun
  obtain ⟨s, hnext, hrun⟩ := bind_ok.mp hrun
  -- After the call its result is pending, and only a result settles it.
  have hpending : s.pending = some call := by
    unfold HistoryState.next at hnext
    rw [if_neg hrole, hcall] at hnext
    cases pending with
    | some other => cases hnext
    | none =>
      dsimp only at hnext
      split at hnext
      · cases hnext
      · obtain rfl := Except.ok.inj hnext
        rfl
  cases rest with
  | nil =>
    obtain rfl := Except.ok.inj hrun
    cases hpending
  | cons result after =>
    rw [HistoryState.run] at hrun
    obtain ⟨s', hresult, -⟩ := bind_ok.mp hrun
    refine ⟨result, after, rfl, ?_⟩
    unfold HistoryState.next at hresult
    rw [hpending] at hresult
    split at hresult
    · next htool =>
      dsimp only at hresult
      split at hresult
      · next hids => exact ⟨htool, hids⟩
      · cases hresult
    · cases hresult

namespace ModelAdapter

/-- The member of a payload that holds the history. -/
def historyKey : ModelAdapter → String
  | google _ => "contents"
  | _ => "messages"

/-- The payload holds the rendered history. -/
theorem payload_of_wireMessages {adapter : ModelAdapter} {request : CompletionRequest}
    {items : List Json} (h : adapter.wireMessages request.messages = .ok items) :
    ∃ payload, adapter.payload request = .ok (.obj payload) ∧
      Json.get? payload adapter.historyKey = some (.arr items) := by
  cases adapter with
  | anthropic a =>
    have hitems : a.messages request.messages = .ok items := h
    refine ⟨_, by simp only [payload, AnthropicAdapter.payload, hitems, ok_bind]; rfl, ?_⟩
    rw [Json.get?_dictOf]
    split <;> split <;> simp [historyKey, Json.get?_cons]
  | google a =>
    have hitems : a.contents request.messages = .ok items := h
    refine ⟨_, by simp only [payload, GoogleAdapter.payload, hitems, ok_bind]; rfl, ?_⟩
    rw [Json.get?_dictOf]
    split <;> split <;> simp [historyKey, Json.get?_cons]
  | openAICompatible a =>
    have hitems : a.messages request.messages = .ok items := h
    refine ⟨_, by simp only [payload, OpenAICompatibleAdapter.payload, hitems, ok_bind]; rfl, ?_⟩
    rw [Json.get?_dictOf]
    split <;> simp [historyKey, Json.get?_cons]

theorem payload_error {adapter : ModelAdapter} {request : CompletionRequest} {e : Exn}
    (h : adapter.wireMessages request.messages = .error e) : adapter.payload request = .error e := by
  cases adapter with
  | anthropic a =>
    have hitems : a.messages request.messages = .error e := h
    simp only [payload, AnthropicAdapter.payload, hitems]
    rfl
  | google a =>
    have hitems : a.contents request.messages = .error e := h
    simp only [payload, GoogleAdapter.payload, hitems]
    rfl
  | openAICompatible a =>
    have hitems : a.messages request.messages = .error e := h
    simp only [payload, OpenAICompatibleAdapter.payload, hitems]
    rfl

/-- A call and its result are rendered side by side, between the renderings of
    what stands before and after them. -/
theorem wireMessages_call {adapter : ModelAdapter} {before after : List Message}
    {m result : Message} {call : ToolCall} {turn : ProviderContinuation}
    (honRoute : ∀ m' ∈ before ++ m :: result :: after, adapter.OnRoute m'.tool_call)
    (hcall : m.tool_call = some call) (hturn : call.continuation = some turn)
    (hresult : IsResultOf result call) :
    ∃ wire_id xs ys, SentCall turn.wire_format turn.message.members wire_id call.name ∧
      adapter.wireMessages before = .ok xs ∧ adapter.wireMessages after = .ok ys ∧
      adapter.wireMessages (before ++ m :: result :: after) =
        .ok (xs ++ turn.message.json :: adapter.toolResult wire_id call.name result.content :: ys) := by
  have hnone : adapter.OnRoute none := by
    intro turn h
    cases h
  have hroute : turn.route = adapter.route := by
    refine honRoute m (by simp) turn ?_
    rw [hcall]
    exact hturn
  obtain ⟨wire_id, hsent, hid⟩ := sentCall_of_call hturn
  have hbefore : ∀ m' ∈ before, adapter.OnRoute m'.tool_call :=
    fun m' hm' => honRoute m' (by simp [hm'])
  have hafter : ∀ m' ∈ after, adapter.OnRoute m'.tool_call :=
    fun m' hm' => honRoute m' (by simp [hm'])
  obtain ⟨xs, hxs⟩ := wireFrom_onRoute hnone hbefore
  obtain ⟨ys, hys⟩ := wireFrom_onRoute hnone hafter
  have hkept : adapter.omits result = false := by
    cases adapter <;> simp [omits, hresult.1]
  refine ⟨wire_id, xs, ys, hsent, ?_, ?_, ?_⟩
  · rw [wireMessages_eq, hxs]
  · rw [wireMessages_eq, hys]
  · rw [wireMessages_eq, wireFrom_append, hxs, ok_bind, wireFrom, omits_call hcall,
      if_neg Bool.false_ne_true, render_turn hcall hturn, if_pos hroute, ok_bind, wireFrom, hkept,
      if_neg Bool.false_ne_true, hcall, render_result hresult hturn hroute hsent hid, ok_bind,
      hresult.plain, hys]
    rfl

end ModelAdapter

/-- **Wire histories are faithful.**  A request whose turns belong to the route
    holds each turn, followed by its own result, and nothing between them; a
    request with any other turn is refused before it is posted; and the turn of
    an accepted response is the one the provider returned. -/
theorem wire_history_faithful (limit : Nat) (hex : String) (adapter : ModelAdapter)
    (request : CompletionRequest) :
    ((∀ m ∈ request.messages, adapter.OnRoute m.tool_call) →
      ∃ payload items, adapter.payload request = .ok (.obj payload) ∧
        Json.get? payload adapter.historyKey = some (.arr items) ∧
        ∀ before m rest call turn, request.messages = before ++ m :: rest →
          m.tool_call = some call → call.continuation = some turn →
          ∃ result after wire_id xs ys, rest = result :: after ∧ IsResultOf result call ∧
            SentCall turn.wire_format turn.message.members wire_id call.name ∧
            adapter.wireMessages before = .ok xs ∧ adapter.wireMessages after = .ok ys ∧
            items = xs ++ turn.message.json ::
              adapter.toolResult wire_id call.name result.content :: ys) ∧
    ((∃ m ∈ request.messages, ¬ adapter.OnRoute m.tool_call) →
      ∀ post_json, adapter.complete limit hex post_json request = .error routeMismatch) ∧
    ∀ response call, adapter.parseResponse limit hex response = .ok (.call call) →
      ∃ turn, TurnOf adapter response call turn := by
  have hhistory : validateHistory request.messages false = .ok () := by
    have hvalid := request.valid
    unfold CompletionRequest.check at hvalid
    obtain ⟨-, hvalid⟩ := require_bind_ok.mp hvalid
    exact (unit_bind_ok.mp hvalid).1
  have hnone : adapter.OnRoute none := by
    intro turn h
    cases h
  refine ⟨?_, ?_, fun response call h => adapter.turnOf_parseResponse h⟩
  · intro honRoute
    obtain ⟨items, hitems⟩ := ModelAdapter.wireFrom_onRoute hnone honRoute
    rw [← ModelAdapter.wireMessages_eq] at hitems
    obtain ⟨payload, hpayload, hget⟩ := ModelAdapter.payload_of_wireMessages hitems
    refine ⟨payload, items, hpayload, hget, ?_⟩
    intro before m rest call turn hsplit hcall hturn
    rw [hsplit] at hhistory
    obtain ⟨result, after, rfl, hresult⟩ := result_follows hhistory hcall
    rw [hsplit] at honRoute hitems
    obtain ⟨wire_id, xs, ys, hsent, hxs, hys, hall⟩ :=
      ModelAdapter.wireMessages_call honRoute hcall hturn hresult
    exact ⟨result, after, wire_id, xs, ys, rfl, hresult, hsent, hxs, hys,
      Except.ok.inj (hitems.symm.trans hall)⟩
  · intro hoff post_json
    have hrefused := ModelAdapter.wireFrom_offRoute hnone hoff
    rw [← ModelAdapter.wireMessages_eq] at hrefused
    unfold ModelAdapter.complete
    rw [ModelAdapter.payload_error hrefused]
    rfl

end CBrain

import CBrain.Agent.Foundation
import CBrain.Models.Adapters

/-! # What a provider response can raise

    The agent loop handles a `ModelError` and nothing else.  The checks of the
    contracts and of the continuations raise nothing else either.  Two steps
    of the response parsers do: the membership test of the stop reason, on a
    value without a hash, and the decoding of argument text, at an integer
    with more digits than the interpreter converts.

    Section 1 gives the rules for what a computation raises, Section 2 goes
    through the contracts, Section 3 through the parsers, and Section 4 says
    what the agent loop does with the exception. -/

namespace CBrain

open Effect
open Json (Dict)

/-! ## Section 1: Exceptions that are no model errors -/

section escapes

variable {α β : Type}

/-- The computation raises something that is no `ModelError`. -/
def Escapes (x : Raises α) : Prop := ∃ e, x = .error e ∧ e.kind.isModelError = false

@[simp] theorem escapes_ok (a : α) : ¬ Escapes (.ok a : Raises α) := by
  rintro ⟨e, h, -⟩
  cases h

@[simp] theorem escapes_pure (a : α) : ¬ Escapes (pure a : Raises α) := escapes_ok a

@[simp] theorem escapes_error (e : Exn) :
    Escapes (.error e : Raises α) ↔ e.kind.isModelError = false := by
  constructor
  · rintro ⟨e', h, he⟩
    obtain rfl := Except.error.inj h
    exact he
  · exact fun he => ⟨e, rfl, he⟩

@[simp] theorem modelContract_kind (message : String) :
    (modelContract message).kind.isModelError = true := rfl

@[simp] theorem modelContractError_kind (message : List MsgPart) :
    (modelContractError message).kind.isModelError = true := rfl

@[simp] theorem modelResponse_kind (message : String) :
    (modelResponse message).kind.isModelError = true := rfl

/-- **Sequencing rule**: what escapes comes from the first part, or from the
    second after the first returned. -/
theorem escapes_bind {x : Raises α} {f : α → Raises β} :
    Escapes (x >>= f) ↔ Escapes x ∨ ∃ a, x = .ok a ∧ Escapes (f a) := by
  cases x with
  | error e =>
    show Escapes (.error e : Raises β) ↔ _
    simp
  | ok a =>
    rw [ok_bind]
    simp

theorem escapes_map {x : Raises α} {f : α → β} : Escapes (x.map f) ↔ Escapes x := by
  cases x <;> simp [Except.map]

@[simp] theorem escapes_functorMap {x : Raises α} {f : α → β} : Escapes (f <$> x) ↔ Escapes x :=
  escapes_map

theorem escapes_require {c : Prop} [Decidable c] {e : Exn} :
    Escapes (require c e) ↔ ¬ c ∧ e.kind.isModelError = false := by
  unfold require
  by_cases h : c <;> simp [h]

/-- Nothing escapes a sequence of two parts that let nothing escape. -/
theorem not_escapes_bind {x : Raises α} {f : α → Raises β} (hx : ¬ Escapes x)
    (hf : ∀ a, x = .ok a → ¬ Escapes (f a)) : ¬ Escapes (x >>= f) := by
  rw [escapes_bind]
  rintro (h | ⟨a, ha, h⟩)
  · exact hx h
  · exact hf a ha h

theorem not_escapes_mapM {f : α → Raises β} {xs : List α} (h : ∀ x ∈ xs, ¬ Escapes (f x)) :
    ¬ Escapes (xs.mapM f) := by
  induction xs with
  | nil => exact escapes_ok []
  | cons x xs ih =>
    rw [List.mapM_cons]
    refine not_escapes_bind (h x List.mem_cons_self) fun y _ => ?_
    exact not_escapes_bind (ih fun z hz => h z (List.mem_cons_of_mem x hz)) fun ys _ =>
      escapes_pure _

theorem not_escapes_forM {f : α → Raises PUnit} {xs : List α} (h : ∀ x ∈ xs, ¬ Escapes (f x)) :
    ¬ Escapes (xs.forM f) := by
  induction xs with
  | nil => exact escapes_ok _
  | cons x xs ih =>
    show ¬ Escapes (f x >>= fun _ => xs.forM f)
    exact not_escapes_bind (h x List.mem_cons_self) fun _ _ =>
      ih fun z hz => h z (List.mem_cons_of_mem x hz)

end escapes

/-! ## Section 2: The contracts -/

@[simp] theorem not_escapes_modelText (value path : String) : ¬ Escapes (modelText value path) := by
  simp [modelText, escapes_require]

@[simp] theorem not_escapes_toolName (value path : String) : ¬ Escapes (toolName value path) := by
  simp [toolName, escapes_bind, escapes_require]

theorem not_escapes_validateModelMembers (path : String) (ms : Json.Members) :
    ¬ Escapes (validateModelMembers path ms) := by
  suffices hall : ∀ (j : Json) (path : String), ¬ Escapes (validateModelJson path j) from
    hall (.obj ms) path
  intro j
  induction j using Json.ind with
  | null | bool | int | str => exact fun path => escapes_ok ()
  | float x => cases x <;> simp [validateModelJson]
  | arr xs ih =>
    intro path
    show ¬ Escapes (validateModelElems (path ++ "[]") xs)
    induction xs with
    | nil => exact escapes_ok ()
    | cons x xs ihxs =>
      refine not_escapes_bind (ih x List.mem_cons_self _) fun _ _ => ?_
      exact ihxs fun y hy => ih y (List.mem_cons_of_mem x hy)
  | obj ms ih =>
    intro path
    show ¬ Escapes (validateModelMembers path ms)
    induction ms with
    | nil => exact escapes_ok ()
    | cons m ms ihms =>
      refine not_escapes_bind (ih m List.mem_cons_self _) fun _ _ => ?_
      exact ihms fun n hn => ih n (List.mem_cons_of_mem m hn)

theorem not_escapes_rejectSensitiveMembers (path : String) (ms : Json.Members) :
    ¬ Escapes (rejectSensitiveMembers path ms) := by
  suffices hall : ∀ (j : Json) (path : String), ¬ Escapes (rejectSensitiveKeys path j) from
    hall (.obj ms) path
  intro j
  induction j using Json.ind with
  | null | bool | int | float | str => exact fun path => escapes_ok ()
  | arr xs ih =>
    intro path
    show ¬ Escapes (rejectSensitiveElems (path ++ "[]") xs)
    induction xs with
    | nil => exact escapes_ok ()
    | cons x xs ihxs =>
      refine not_escapes_bind (ih x List.mem_cons_self _) fun _ _ => ?_
      exact ihxs fun y hy => ih y (List.mem_cons_of_mem x hy)
  | obj ms ih =>
    intro path
    show ¬ Escapes (rejectSensitiveMembers path ms)
    induction ms with
    | nil => exact escapes_ok ()
    | cons m ms ihms =>
      refine not_escapes_bind (by simp [escapes_require]) fun _ _ => ?_
      refine not_escapes_bind (ih m List.mem_cons_self _) fun _ _ => ?_
      exact ihms fun n hn => ih n (List.mem_cons_of_mem m hn)

namespace ProviderContinuation

@[simp] theorem not_escapes_requiredMapping (value : Json) (path : String) :
    ¬ Escapes (requiredMapping value path) := by
  cases value <;> simp [requiredMapping]

@[simp] theorem not_escapes_requiredList (value : Json) (path : String) :
    ¬ Escapes (requiredList value path) := by
  cases value <;> simp [requiredList]

@[simp] theorem not_escapes_requiredResponseText (value : Json) (path : String) :
    ¬ Escapes (requiredResponseText value path) := by
  unfold requiredResponseText requiredMember
  split
  · split <;> simp
  · simp

@[simp] theorem not_escapes_onlyKeys (value : Json.Members) (allowed : List String) :
    ¬ Escapes (onlyKeys value allowed) := by
  simp [onlyKeys, escapes_require]

@[simp] theorem not_escapes_exactlyOne (values : List Json) : ¬ Escapes (exactlyOne values) := by
  simp [exactlyOne, escapes_bind, escapes_require]

@[simp] theorem not_escapes_assistantText (value : Json) : ¬ Escapes (assistantText value) := by
  simp [assistantText, escapes_require]

/-- A contract error comes out as a response error. -/
theorem not_escapes_asResponseError {α : Type} {x : Raises α} (h : ¬ Escapes x) :
    ¬ Escapes (x.mapError asResponseError) := by
  cases x with
  | ok a => exact escapes_ok a
  | error e =>
    show ¬ Escapes (.error (asResponseError e))
    rw [escapes_error] at h ⊢
    unfold asResponseError
    by_cases hkind : e.kind = .modelContractError
    · rw [if_pos hkind]
      exact Bool.noConfusion
    · rw [if_neg hkind]
      exact h

@[simp] theorem not_escapes_parseArguments (value : Json) (path : String) :
    ¬ Escapes (parseArguments value path) := by
  have hobject : ∀ decoded, ¬ Escapes (do
      let mapping ← requiredMapping decoded path
      Except.mapError asResponseError do
        validateModelMembers "tool arguments" mapping
        rejectSensitiveMembers "tool arguments" mapping
      return mapping) := by
    intro decoded
    refine not_escapes_bind (not_escapes_requiredMapping _ _) fun mapping _ => ?_
    refine not_escapes_bind ?_ fun _ _ => escapes_pure _
    exact not_escapes_asResponseError <|
      not_escapes_bind (not_escapes_validateModelMembers _ _) fun _ _ =>
        not_escapes_rejectSensitiveMembers _ _
  unfold parseArguments
  dsimp only
  split
  · split
    · exact not_escapes_bind (escapes_ok _) fun decoded _ => hobject decoded
    · exact not_escapes_bind (by simp) fun decoded _ => hobject decoded
  · exact not_escapes_bind (escapes_ok _) fun decoded _ => hobject decoded

theorem not_escapes_chatCompletionsCall (message : Json.Members) :
    ¬ Escapes (chatCompletionsCall message) := by
  have hforM : ¬ Escapes (["content", "reasoning_content"].forM fun key =>
      require (Json.getD message key = .null ∨ (Json.str? (Json.getD message key)).isSome = true)
        (modelContract "unsupported assistant text content")) :=
    not_escapes_forM fun key _ => by simp [escapes_require]
  unfold chatCompletionsCall
  refine not_escapes_bind (not_escapes_onlyKeys _ _) fun _ _ => ?_
  refine not_escapes_bind hforM fun _ _ => ?_
  simp [escapes_bind, escapes_require]

theorem not_escapes_anthropicBlock (raw : Json) : ¬ Escapes (anthropicBlock raw) := by
  unfold anthropicBlock
  refine not_escapes_bind (not_escapes_requiredMapping _ _) fun block _ => ?_
  split <;> simp [escapes_bind]

theorem not_escapes_anthropicCall (message : Json.Members) :
    ¬ Escapes (anthropicCall message) := by
  unfold anthropicCall
  refine not_escapes_bind (not_escapes_onlyKeys _ _) fun _ _ => ?_
  refine not_escapes_bind (not_escapes_requiredList _ _) fun blocks _ => ?_
  refine not_escapes_bind (not_escapes_mapM fun raw _ => not_escapes_anthropicBlock raw)
    fun calls _ => ?_
  simp [escapes_bind]

theorem not_escapes_googlePart (raw : Json) : ¬ Escapes (googlePart raw) := by
  unfold googlePart
  refine not_escapes_bind (not_escapes_requiredMapping _ _) fun part _ => ?_
  refine not_escapes_bind (not_escapes_onlyKeys _ _) fun _ _ => ?_
  dsimp only
  -- The marks of the part come first, then what the part is.
  split
  · refine not_escapes_bind (not_escapes_requiredResponseText _ _) fun _ _ => ?_
    split <;> split <;> simp [escapes_bind]
  · split <;> split <;> simp [escapes_bind]

theorem not_escapes_googleCall (message : Json.Members) : ¬ Escapes (googleCall message) := by
  unfold googleCall
  refine not_escapes_bind (not_escapes_onlyKeys _ _) fun _ _ => ?_
  refine not_escapes_bind (not_escapes_requiredList _ _) fun parts _ => ?_
  refine not_escapes_bind (not_escapes_mapM fun raw _ => not_escapes_googlePart raw)
    fun calls _ => ?_
  refine not_escapes_bind (not_escapes_exactlyOne _) fun function _ => ?_
  refine not_escapes_bind (not_escapes_onlyKeys _ _) fun _ _ => ?_
  dsimp only
  split <;> simp [escapes_bind, escapes_map]

end ProviderContinuation

theorem not_escapes_validateContinuationCall (turn : ProviderContinuation) (call_id name : String)
    (arguments : Dict) : ¬ Escapes (validateContinuationCall turn call_id name arguments) := by
  unfold validateContinuationCall
  refine not_escapes_bind (by simp [escapes_require]) fun _ _ => ?_
  have hagree : ∀ wire : ProviderContinuation.WireCall, ¬ Escapes (do
      require ((wire.1 = none ∨ wire.1 = some call_id) ∧ wire.2.1 = .str name)
        (modelContract "continuation tool identity mismatch")
      require (Json.dictOf wire.2.2 = arguments.members)
        (modelContract "continuation tool arguments mismatch")) := by
    intro wire
    simp [escapes_bind, escapes_require]
  dsimp only
  split
  · exact not_escapes_bind (ProviderContinuation.not_escapes_chatCompletionsCall _) fun wire _ =>
      hagree wire
  · exact not_escapes_bind (ProviderContinuation.not_escapes_anthropicCall _) fun wire _ =>
      hagree wire
  · exact not_escapes_bind (ProviderContinuation.not_escapes_googleCall _) fun wire _ =>
      hagree wire

@[simp] theorem not_escapes_captureContinuation (provider model wire_format : String)
    (message : Dict) :
    ¬ Escapes (ProviderContinuation.capture provider model wire_format message) := by
  have hcheck : ¬ Escapes (ProviderContinuation.check provider model message) := by
    simp [ProviderContinuation.check, escapes_bind, escapes_require,
      not_escapes_validateModelMembers]
  unfold ProviderContinuation.capture
  refine not_escapes_bind (not_escapes_validateModelMembers _ _) fun _ _ => ?_
  refine not_escapes_bind (not_escapes_modelText _ _) fun _ _ => ?_
  refine not_escapes_bind (not_escapes_modelText _ _) fun _ _ => ?_
  split
  · simp
  · split
    · exact escapes_ok _
    · next e h =>
      rw [h] at hcheck
      rw [escapes_error] at hcheck ⊢
      exact hcheck

@[simp] theorem not_escapes_captureCall (call_id name : String) (arguments : Dict)
    (continuation : Option ProviderContinuation) :
    ¬ Escapes (ToolCall.capture call_id name arguments continuation) := by
  have hcheck : ¬ Escapes (ToolCall.check call_id name arguments continuation) := by
    unfold ToolCall.check
    refine not_escapes_bind (not_escapes_validateModelMembers _ _) fun _ _ => ?_
    refine not_escapes_bind (not_escapes_modelText _ _) fun _ _ => ?_
    refine not_escapes_bind (not_escapes_toolName _ _) fun _ _ => ?_
    refine not_escapes_bind (not_escapes_rejectSensitiveMembers _ _) fun _ _ => ?_
    cases continuation with
    | none => exact escapes_ok ()
    | some turn => exact not_escapes_validateContinuationCall turn call_id name arguments
  unfold ToolCall.capture
  split
  · exact escapes_ok _
  · next e h =>
    rw [h] at hcheck
    rw [escapes_error] at hcheck ⊢
    exact hcheck

@[simp] theorem not_escapes_captureText (text : String) : ¬ Escapes (TextOutput.capture text) := by
  unfold TextOutput.capture
  split <;> simp

/-! ## Section 3: The parsers -/

/-- A value without a hash. -/
def Unhashable : Json → Prop
  | .arr _ | .obj _ => True
  | _ => False

/-- Argument text in which the decoder meets an integer over the limit. -/
def LongArguments (limit : Nat) (value : Json) : Prop :=
  ∃ s digits, value = .str s ∧ Json.overLimitText? limit s.toList = some digits

theorem escapes_inTexts {value : Json} {texts : List String} :
    Escapes (inTexts value texts) ↔ Unhashable value := by
  cases value with
  | arr xs => exact iff_of_true ⟨_, rfl, rfl⟩ trivial
  | obj ms => exact iff_of_true ⟨_, rfl, rfl⟩ trivial
  | _ => exact iff_of_false (escapes_ok _) id

theorem escapes_parseArgumentsWithin {limit : Nat} {value : Json} {path : String} :
    Escapes (parseArgumentsWithin limit value path) ↔ LongArguments limit value := by
  unfold parseArgumentsWithin
  split
  · next digits h =>
    obtain ⟨s, hs, hdigits⟩ := Option.bind_eq_some_iff.mp h
    exact iff_of_true ⟨_, rfl, rfl⟩ ⟨s, digits, Json.str?_eq_some.mp hs, hdigits⟩
  · next h =>
    refine iff_of_false (ProviderContinuation.not_escapes_parseArguments _ _) ?_
    rintro ⟨s, digits, rfl, hdigits⟩
    rw [Json.str?_str, Option.bind_some, hdigits] at h
    cases h

namespace ProviderContinuation

theorem requiredMapping_ok {value : Json} {path : String} {ms : Json.Members} :
    requiredMapping value path = .ok ms ↔ value = .obj ms := by
  cases value <;> simp [requiredMapping]

theorem requiredList_ok {value : Json} {path : String} {xs : List Json} :
    requiredList value path = .ok xs ↔ value = .arr xs := by
  cases value <;> simp [requiredList]

theorem requiredResponseText_ok {value : Json} {path : String} {s : String} :
    requiredResponseText value path = .ok s ↔ nonBlankText? value = some s := by
  cases value with
  | str t =>
    rw [requiredResponseText, requiredMember, nonBlankText?]
    split <;> simp
  | _ => simp [requiredResponseText, requiredMember, nonBlankText?]

end ProviderContinuation

/-- The only element, when it is an object. -/
theorem only_object {xs : List Json} {path : String} {ms : Json.Members} :
    (xs.length = 1 ∧ ProviderContinuation.requiredMapping (xs.headD .null) path = .ok ms) ↔
      xs = [.obj ms] := by
  rw [ProviderContinuation.requiredMapping_ok]
  constructor
  · rintro ⟨hlength, hhead⟩
    obtain ⟨x, rfl⟩ := List.length_eq_one_iff.mp hlength
    exact congrArg (fun x => [x]) hhead
  · rintro rfl
    exact ⟨rfl, rfl⟩

/-- The blocks of a list of objects. -/
theorem mapM_requiredMapping {content : List Json} {blocks : List Json.Members} (n : Nat) :
    (content.zipIdx n).mapM (fun p =>
        ProviderContinuation.requiredMapping p.1 s!"content[{p.2}]") = .ok blocks ↔
      content = blocks.map .obj := by
  induction content generalizing blocks n with
  | nil =>
    rw [List.zipIdx_nil, List.mapM_nil, pure_ok, eq_comm, eq_comm (a := []), List.map_eq_nil_iff]
  | cons x content ih =>
    rw [List.zipIdx_cons, List.mapM_cons]
    simp only [bind_ok, pure_ok, ProviderContinuation.requiredMapping_ok, ih]
    constructor
    · rintro ⟨block, rfl, rest, rfl, rfl⟩
      rfl
    · intro h
      cases blocks with
      | nil => cases h
      | cons block blocks =>
        obtain ⟨hblock, hrest⟩ := List.cons.inj h
        exact ⟨block, hblock, blocks, hrest, rfl⟩

theorem escapes_outputOf {capture : Json.Members → Raises ModelOutput} {calls : List Json.Members}
    {texts : List String} :
    Escapes (outputOf capture calls texts) ↔ ∃ call, calls = [call] ∧ Escapes (capture call) := by
  unfold outputOf
  split <;> simp [escapes_map]

namespace AnthropicAdapter

/-- The response makes the parser raise something that is no model error. -/
def Trips (limit : Nat) (response : Dict) : Prop :=
  Unhashable (response.get "stop_reason") ∨
    (inTexts (response.get "stop_reason") ["max_tokens", "pause_turn", "refusal"] = .ok false ∧
      ∃ (blocks : List Json.Members) (block : Json.Members),
        response.get "content" = .arr (blocks.map .obj) ∧
        blocks.filter (fun b => Json.getD b "type" = .str "tool_use") = [block] ∧
        (nonBlankText? (Json.getD block "id")).isSome = true ∧
        (nonBlankText? (Json.getD block "name")).isSome = true ∧
        LongArguments limit (Json.getD block "input"))

theorem escapes_captureCall {limit : Nat} {a : AnthropicAdapter} {content : List Json}
    {block : Json.Members} :
    Escapes (a.captureCall limit content block) ↔
      (nonBlankText? (Json.getD block "id")).isSome = true ∧
        (nonBlankText? (Json.getD block "name")).isSome = true ∧
        LongArguments limit (Json.getD block "input") := by
  simp [captureCall, escapes_bind, escapes_parseArgumentsWithin, Option.isSome_iff_exists,
    ProviderContinuation.requiredResponseText_ok]

theorem escapes_parseResponse {limit : Nat} {a : AnthropicAdapter} {response : Dict} :
    Escapes (a.parseResponse limit response) ↔ Trips limit response := by
  have hblocks : ∀ content : List Json, ¬ Escapes (content.zipIdx.mapM fun p =>
      ProviderContinuation.requiredMapping p.1 s!"content[{p.2}]") := fun content =>
    not_escapes_mapM fun p _ => ProviderContinuation.not_escapes_requiredMapping _ _
  simp only [parseResponse, escapes_bind, escapes_inTexts, escapes_require, modelResponse_kind,
    Bool.true_eq_false, and_false, false_or, ProviderContinuation.not_escapes_requiredList, hblocks,
    ProviderContinuation.requiredList_ok, mapM_requiredMapping, require_ok, escapes_outputOf,
    escapes_captureCall]
  refine or_congr_right ?_
  constructor
  · rintro ⟨_, hstop, -, rfl, _, hcontent, blocks, rfl, block, hblock⟩
    exact ⟨hstop, blocks, block, hcontent, hblock⟩
  · rintro ⟨hstop, blocks, block, hcontent, hblock⟩
    exact ⟨false, hstop, (), rfl, _, hcontent, blocks, rfl, block, hblock⟩

end AnthropicAdapter

namespace GoogleAdapter

/-- The response makes the parser raise something that is no model error. -/
def Trips (limit : Nat) (response : Dict) : Prop :=
  ∃ (candidate content call : Json.Members) (parts : List Json.Members),
    response.get "candidates" = .arr [.obj candidate] ∧
      (Json.get? candidate "finishReason").getD (.str "STOP") = .str "STOP" ∧
      Json.getD candidate "content" = .obj content ∧
      Json.getD content "parts" = .arr (parts.map .obj) ∧
      parts.filterMap (fun part => Json.get? part "functionCall") = [.obj call] ∧
      (nonBlankText? (Json.getD call "name")).isSome = true ∧
      LongArguments limit ((Json.get? call "args").getD (.obj []))

theorem not_escapes_readPart (raw : Json) (index : Nat) : ¬ Escapes (readPart raw index) := by
  unfold readPart
  refine not_escapes_bind (ProviderContinuation.not_escapes_requiredMapping _ _) fun part _ => ?_
  split <;> simp [escapes_map]

/-- A part that is read is an object, and what is its call is one. -/
theorem call_of_readPart {raw : Json} {index : Nat} {read : Option Json.Members × Option String}
    (h : readPart raw index = .ok read) :
    ∃ part, raw = .obj part ∧ Json.get? part "functionCall" = read.1.map .obj := by
  unfold readPart at h
  simp only [bind_ok, ProviderContinuation.requiredMapping_ok] at h
  obtain ⟨part, rfl, h⟩ := h
  refine ⟨part, rfl, ?_⟩
  split at h
  · next value hvalue =>
    simp only [bind_ok, map_ok, ProviderContinuation.requiredMapping_ok, pure_ok] at h
    obtain ⟨_, ⟨call, rfl, rfl⟩, rfl⟩ := h
    exact hvalue
  · next hnone =>
    simp only [bind_ok, pure_ok] at h
    obtain ⟨_, hread, rfl⟩ := h
    rw [← Except.ok.inj hread]
    exact hnone

/-- A part whose call, if it has one, is an object is read. -/
theorem readPart_of_call {part : Json.Members} (index : Nat) (call : Option Json.Members)
    (h : Json.get? part "functionCall" = call.map .obj) :
    ∃ text, readPart (.obj part) index = .ok (call, text) := by
  unfold readPart
  rw [show ProviderContinuation.requiredMapping (.obj part) s!"candidate parts[{index}]" =
    .ok part from rfl, ok_bind, h]
  cases call with
  | none => exact ⟨_, rfl⟩
  | some call => exact ⟨_, rfl⟩

theorem calls_of_readParts {parts : List Json} {n : Nat}
    {read : List (Option Json.Members × Option String)}
    (h : (parts.zipIdx n).mapM (fun p => readPart p.1 p.2) = .ok read) :
    ∃ objects : List Json.Members, parts = objects.map .obj ∧
      objects.filterMap (fun part => Json.get? part "functionCall") =
        (read.filterMap Prod.fst).map .obj := by
  induction parts generalizing n read with
  | nil =>
    obtain rfl := pure_ok.mp h
    exact ⟨[], rfl, rfl⟩
  | cons raw parts ih =>
    rw [List.zipIdx_cons, List.mapM_cons] at h
    simp only [bind_ok, pure_ok] at h
    obtain ⟨first, hfirst, rest, hrest, rfl⟩ := h
    obtain ⟨part, rfl, hcall⟩ := call_of_readPart hfirst
    obtain ⟨objects, rfl, hcalls⟩ := ih hrest
    refine ⟨part :: objects, rfl, ?_⟩
    rw [List.filterMap_cons, List.filterMap_cons, hcall, hcalls]
    cases first.1 <;> rfl

theorem readParts_of_calls {objects : List Json.Members} (calls : List Json.Members) (n : Nat)
    (h : objects.filterMap (fun part => Json.get? part "functionCall") = calls.map .obj) :
    ∃ read, ((objects.map Json.obj).zipIdx n).mapM (fun p => readPart p.1 p.2) = .ok read ∧
      read.filterMap Prod.fst = calls := by
  induction objects generalizing n calls with
  | nil =>
    obtain rfl := List.map_eq_nil_iff.mp h.symm
    exact ⟨[], rfl, rfl⟩
  | cons part objects ih =>
    rw [List.filterMap_cons] at h
    cases hcall : Json.get? part "functionCall" with
    | none =>
      rw [hcall] at h
      obtain ⟨text, htext⟩ := readPart_of_call n none hcall
      obtain ⟨read, hread, rfl⟩ := ih calls (n + 1) h
      refine ⟨(none, text) :: read, ?_, rfl⟩
      rw [List.map_cons, List.zipIdx_cons, List.mapM_cons, htext, ok_bind, hread]
      rfl
    | some value =>
      rw [hcall] at h
      obtain ⟨call, rest, rfl, rfl, hrest⟩ := List.map_eq_cons_iff.mp h.symm
      obtain ⟨text, htext⟩ := readPart_of_call n (some call) hcall
      obtain ⟨read, hread, rfl⟩ := ih rest (n + 1) hrest.symm
      refine ⟨(some call, text) :: read, ?_, rfl⟩
      rw [List.map_cons, List.zipIdx_cons, List.mapM_cons, htext, ok_bind, hread]
      rfl

theorem escapes_captureCall {limit : Nat} {hex : String} {a : GoogleAdapter} {parts : List Json}
    {call : Json.Members} :
    Escapes (a.captureCall limit hex parts call) ↔
      (nonBlankText? (Json.getD call "name")).isSome = true ∧
        LongArguments limit ((Json.get? call "args").getD (.obj [])) := by
  cases hid : Json.get? call "id" <;>
    simp [captureCall, hid, escapes_bind, escapes_parseArgumentsWithin, Option.isSome_iff_exists,
      ProviderContinuation.requiredResponseText_ok]

theorem escapes_parseResponse {limit : Nat} {hex : String} {a : GoogleAdapter} {response : Dict} :
    Escapes (a.parseResponse limit hex response) ↔ Trips limit response := by
  have hread : ∀ parts : List Json, ¬ Escapes (parts.zipIdx.mapM fun p => readPart p.1 p.2) :=
    fun parts => not_escapes_mapM fun p _ => not_escapes_readPart _ _
  simp only [parseResponse, escapes_bind, escapes_require, modelResponse_kind, Bool.true_eq_false,
    and_false, false_or, ProviderContinuation.not_escapes_requiredMapping,
    ProviderContinuation.not_escapes_requiredList, hread, ProviderContinuation.requiredList_ok,
    require_ok, escapes_outputOf, escapes_captureCall]
  constructor
  · rintro ⟨candidates, hcandidates, -, hone, candidate, hcandidate, -, hfinished, content, hcontent,
      parts, hparts, read, hread, call, hcall, hlong⟩
    obtain rfl := only_object.mp ⟨hone, hcandidate⟩
    obtain ⟨objects, rfl, hcalls⟩ := calls_of_readParts hread
    rw [hcall] at hcalls
    exact ⟨candidate, content, call, objects, hcandidates, hfinished,
      ProviderContinuation.requiredMapping_ok.mp hcontent, hparts, hcalls, hlong⟩
  · rintro ⟨candidate, content, call, objects, hcandidates, hfinished, hcontent, hparts, hcalls,
      hlong⟩
    obtain ⟨read, hread, hcall⟩ := readParts_of_calls [call] 0 hcalls
    exact ⟨_, hcandidates, (), rfl, candidate, rfl, (), hfinished, content,
      ProviderContinuation.requiredMapping_ok.mpr hcontent, _, hparts, read, hread, call, hcall,
      hlong⟩

end GoogleAdapter

namespace OpenAICompatibleAdapter

/-- The response makes the parser raise something that is no model error. -/
def Trips (limit : Nat) (response : Dict) : Prop :=
  ∃ choice message : Json.Members, response.get "choices" = .arr [.obj choice] ∧
    Json.getD choice "message" = .obj message ∧
    (Unhashable (Json.getD choice "finish_reason") ∨
      (inTexts (Json.getD choice "finish_reason") ["length", "content_filter"] = .ok false ∧
        ((Json.get? message "role").getD (.str "assistant") = .str "assistant" ∧
          truthy (Json.getD message "refusal") = false) ∧
        ∃ call function : Json.Members, Json.getD message "tool_calls" = .arr [.obj call] ∧
          Json.getD call "function" = .obj function ∧
          (nonBlankText? (Json.getD call "id")).isSome = true ∧
          (nonBlankText? (Json.getD function "name")).isSome = true ∧
          LongArguments limit (Json.getD function "arguments")))

theorem escapes_captureCall {limit : Nat} {a : OpenAICompatibleAdapter} {message : Json.Members}
    {raw_calls : Json} :
    Escapes (a.captureCall limit message raw_calls) ↔
      ∃ call function : Json.Members, raw_calls = .arr [.obj call] ∧
        Json.getD call "function" = .obj function ∧
        (nonBlankText? (Json.getD call "id")).isSome = true ∧
        (nonBlankText? (Json.getD function "name")).isSome = true ∧
        LongArguments limit (Json.getD function "arguments") := by
  simp only [captureCall, escapes_bind, escapes_require, modelResponse_kind, Bool.true_eq_false,
    and_false, false_or, ProviderContinuation.not_escapes_requiredMapping,
    ProviderContinuation.not_escapes_requiredList,
    ProviderContinuation.not_escapes_requiredResponseText, escapes_parseArgumentsWithin,
    not_escapes_captureContinuation, not_escapes_captureCall, escapes_pure, exists_false, or_false,
    ProviderContinuation.requiredList_ok, require_ok,
    ProviderContinuation.requiredResponseText_ok, Option.isSome_iff_exists]
  constructor
  · rintro ⟨calls, rfl, -, hone, call, hcall, function, hfunction, id, hid, name, hname, hlong⟩
    obtain rfl := only_object.mp ⟨hone, hcall⟩
    exact ⟨call, function, rfl, ProviderContinuation.requiredMapping_ok.mp hfunction, ⟨id, hid⟩,
      ⟨name, hname⟩, hlong⟩
  · rintro ⟨call, function, rfl, hfunction, ⟨id, hid⟩, ⟨name, hname⟩, hlong⟩
    exact ⟨_, rfl, (), rfl, call, rfl, function,
      ProviderContinuation.requiredMapping_ok.mpr hfunction, id, hid, name, hname, hlong⟩

/-- Only the branch that has calls lets anything escape. -/
theorem escapes_ite_calls {limit : Nat} {a : OpenAICompatibleAdapter} {message : Json.Members} :
    Escapes (if Json.getD message "tool_calls" ≠ .null then
        a.captureCall limit message (Json.getD message "tool_calls")
      else if (nonBlankText? (Json.getD message "content")).isSome then do
        let content ← ProviderContinuation.requiredResponseText (Json.getD message "content")
          "message content"
        Except.map ModelOutput.text (TextOutput.capture content)
      else .error (modelResponse "provider returned neither text nor a tool call")) ↔
      Escapes (a.captureCall limit message (Json.getD message "tool_calls")) := by
  by_cases hnull : Json.getD message "tool_calls" = .null
  · rw [if_neg (not_not.mpr hnull), escapes_captureCall, hnull]
    refine iff_of_false ?_ ?_
    · split <;> simp [escapes_bind, escapes_map]
    · rintro ⟨call, function, h, -⟩
      cases h
  · rw [if_pos hnull]

theorem escapes_parseResponse {limit : Nat} {a : OpenAICompatibleAdapter} {response : Dict} :
    Escapes (a.parseResponse limit response) ↔ Trips limit response := by
  simp only [parseResponse, escapes_bind, escapes_inTexts, escapes_require, modelResponse_kind,
    Bool.true_eq_false, and_false, false_or, ProviderContinuation.not_escapes_requiredMapping,
    ProviderContinuation.not_escapes_requiredList, ProviderContinuation.requiredList_ok, require_ok,
    escapes_ite_calls, escapes_captureCall]
  constructor
  · rintro ⟨choices, hchoices, -, hone, choice, hchoice, message, hmessage, h⟩
    obtain rfl := only_object.mp ⟨hone, hchoice⟩
    refine ⟨choice, message, hchoices, ProviderContinuation.requiredMapping_ok.mp hmessage, ?_⟩
    refine h.imp_right ?_
    rintro ⟨_, hstop, -, rfl, -, hassistant, hcall⟩
    exact ⟨hstop, hassistant, hcall⟩
  · rintro ⟨choice, message, hchoices, hmessage, h⟩
    refine ⟨_, hchoices, (), rfl, choice, rfl, message,
      ProviderContinuation.requiredMapping_ok.mpr hmessage, ?_⟩
    refine h.imp_right ?_
    rintro ⟨hstop, hassistant, hcall⟩
    exact ⟨false, hstop, (), rfl, (), hassistant, hcall⟩

end OpenAICompatibleAdapter

namespace ModelAdapter

/-- The response makes the parser raise something that is no model error. -/
def Trips (limit : Nat) : ModelAdapter → Dict → Prop
  | anthropic _ => AnthropicAdapter.Trips limit
  | google _ => GoogleAdapter.Trips limit
  | openAICompatible _ => OpenAICompatibleAdapter.Trips limit

theorem escapes_parseResponse {limit : Nat} (hex : String) {adapter : ModelAdapter}
    {response : Dict} :
    Escapes (adapter.parseResponse limit hex response) ↔ adapter.Trips limit response := by
  cases adapter with
  | anthropic a => exact AnthropicAdapter.escapes_parseResponse
  | google a => exact GoogleAdapter.escapes_parseResponse
  | openAICompatible a => exact OpenAICompatibleAdapter.escapes_parseResponse

end ModelAdapter

/-! ## Section 4: The agent loop -/

theorem run_ask {α : Type} {o : AgentOp} {f : o.Ans → AgentM α} {log : List AgentSig.Event}
    {r : Except Exn α} (h : Prog.Run (ask o >>= f).run log r) :
    ∃ x later, log = ⟨o, x⟩ :: later ∧ Prog.Run (f x).run later r := by
  have hrun : Prog.Run (Prog.op (E := AgentSig) o fun x => (f x).run) log r := h
  cases hrun with
  | op x hx => exact ⟨x, _, rfl, hx⟩

/-- No model was asked. -/
def Unasked (log : List AgentSig.Event) : Prop :=
  ∀ e ∈ log, ∀ route messages tools n, e.1 ≠ .complete route messages tools n

/-- An event that is no request stands before the request. -/
theorem skip_quiet {earlier later rest : List AgentSig.Event} {request : AgentSig.Event}
    {o : AgentOp} {x : o.Ans} (ho : o ≠ request.1)
    (h : earlier ++ request :: later = ⟨o, x⟩ :: rest) :
    ∃ between, earlier = ⟨o, x⟩ :: between ∧ rest = between ++ request :: later := by
  cases earlier with
  | nil =>
    obtain ⟨heq, -⟩ := List.cons.inj h
    exact absurd (congrArg Sigma.fst heq).symm ho
  | cons first between =>
    obtain ⟨rfl, hrest⟩ := List.cons.inj h
    exact ⟨between, rfl, hrest.symm⟩

/-- The end of a run performs nothing. -/
theorem run_finish {run : EphemeralRun} {s : EphemeralState} {status : RunStatus}
    {reason : Option String} {log : List AgentSig.Event}
    {r : Except Exn (RunResult ⊕ EphemeralState)}
    (h : Prog.Run (run.finish s status reason).run log r) :
    log = [] ∧ ∃ result, r = .ok (.inl result) ∧ result.status = status := by
  cases h
  exact ⟨rfl, _, rfl, rfl⟩

/-- **Handling lemma**: an iteration whose request raises ends there; a model
    error becomes a result, anything else goes on. -/
theorem ephemeralStep_raised {a : FoundationAgent} {run : EphemeralRun} {step : Nat}
    {s : EphemeralState} {earlier later : List AgentSig.Event} {route : String}
    {messages : List Message} {tools : List ToolDefinition} {n : Nat} {e : Exn}
    {r : Except Exn (RunResult ⊕ EphemeralState)} (hearlier : Unasked earlier)
    (h : Prog.Run (ephemeralStep a run step s).run
      (earlier ++ ⟨.complete route messages tools n, .error e⟩ :: later) r) :
    later = [] ∧
      if e.kind.isModelError then ∃ result, r = .ok (.inl result) ∧ result.status = .modelFailure
      else r = .error e := by
  -- What finishes before the request leaves no room for it.
  have hfinish : ∀ {s : EphemeralState} {status : RunStatus} {reason : Option String}
      {between : List AgentSig.Event} {request : AgentSig.Event},
      ¬ Prog.Run (run.finish s status reason).run (between ++ request :: later) r := by
    intro s status reason between request hrun
    obtain ⟨hnil, -⟩ := run_finish hrun
    simp at hnil
  unfold ephemeralStep at h
  obtain ⟨cancelled, _, hlog, h⟩ := run_ask h
  obtain ⟨between, rfl, rfl⟩ := skip_quiet (by simp) hlog
  cases cancelled with
  | true => exact absurd h hfinish
  | false =>
    obtain ⟨now, _, hlog, h⟩ := run_ask h
    obtain ⟨between, rfl, rfl⟩ := skip_quiet (by simp) hlog
    by_cases hlate : now > run.deadline
    · rw [if_pos hlate] at h
      exact absurd h hfinish
    rw [if_neg hlate] at h
    by_cases hfull : s.messages.length > a.profile.limits.max_context_messages
    · rw [if_pos hfull] at h
      exact absurd h hfinish
    rw [if_neg hfull] at h
    obtain ⟨answer, rest, hlog, h⟩ := run_ask h
    cases between with
    | cons event between =>
      have hasked := hearlier event
        (List.mem_cons_of_mem _ (List.mem_cons_of_mem _ List.mem_cons_self))
      obtain ⟨hevent, -⟩ := List.cons.inj hlog
      exact absurd (congrArg Sigma.fst hevent) (hasked _ _ _ _)
    | nil =>
      obtain ⟨hevent, rfl⟩ := List.cons.inj hlog
      cases hevent
      by_cases hkind : e.kind.isModelError = true
      · simp only [hkind, if_true] at h ⊢
        exact run_finish h
      · simp only [if_neg hkind] at h ⊢
        cases h
        exact ⟨rfl, rfl⟩

/-! ## Section 5: Contained responses -/

/-- What the parser made of a response is handled: it is a text or a call, or
    it raised a model error, and an iteration that asked for the response then
    ends as a model failure. -/
structure Contained (parsed : Raises ModelOutput) : Prop where
  valid : parsed ≠ .ok .other
  model_error : ∀ e, parsed = .error e → e.kind.isModelError = true
  model_failure : ∀ e, parsed = .error e →
    ∀ (a : FoundationAgent) (run : EphemeralRun) (step : Nat) (s : EphemeralState)
      (earlier later : List AgentSig.Event) (route : String) (messages : List Message)
      (tools : List ToolDefinition) (n : Nat) (r : Except Exn (RunResult ⊕ EphemeralState)),
      Unasked earlier →
      Prog.Run (ephemeralStep a run step s).run
        (earlier ++ ⟨.complete route messages tools n, .error e⟩ :: later) r →
      ∃ result, r = .ok (.inl result) ∧ result.status = .modelFailure

/-- A model error is contained, and nothing else that is raised. -/
theorem contained_iff_not_escapes {parsed : Raises ModelOutput} (hvalid : parsed ≠ .ok .other) :
    Contained parsed ↔ ¬ Escapes parsed := by
  constructor
  · rintro h ⟨e, he, hkind⟩
    rw [h.model_error e he] at hkind
    cases hkind
  · intro h
    have hkind : ∀ e, parsed = .error e → e.kind.isModelError = true := by
      intro e he
      by_contra hkind
      exact h ⟨e, he, by simpa using hkind⟩
    refine ⟨hvalid, hkind, ?_⟩
    intro e he a run step s earlier later route messages tools n r hearlier hrun
    have hraised := (ephemeralStep_raised hearlier hrun).2
    rw [if_pos (hkind e he)] at hraised
    exact hraised

/-- The computation does not return what is neither text nor call. -/
def Outputs (x : Raises ModelOutput) : Prop := x ≠ .ok .other

theorem Outputs.bind {α : Type} {x : Raises α} {f : α → Raises ModelOutput}
    (h : ∀ y, Outputs (f y)) : Outputs (x >>= f) := by
  intro hother
  obtain ⟨y, -, hy⟩ := bind_ok.mp hother
  exact h y hy

theorem outputs_call (call : ToolCall) : Outputs (pure (.call call)) := by
  intro h
  cases h

theorem outputs_text (x : Raises TextOutput) : Outputs (x.map ModelOutput.text) := by
  intro h
  obtain ⟨y, -, hy⟩ := map_ok.mp h
  cases hy

theorem outputs_error (e : Exn) : Outputs (.error e) := by
  intro h
  cases h

theorem outputs_outputOf {capture : Json.Members → Raises ModelOutput} {calls : List Json.Members}
    {texts : List String} (h : ∀ call, Outputs (capture call)) :
    Outputs (outputOf capture calls texts) := by
  unfold outputOf
  split
  · exact h _
  · exact outputs_error _
  · exact outputs_error _
  · exact outputs_text _

theorem AnthropicAdapter.outputs_parseResponse {limit : Nat} {a : AnthropicAdapter}
    {response : Dict} : Outputs (a.parseResponse limit response) := by
  refine .bind fun _ => .bind fun _ => .bind fun content => .bind fun blocks => ?_
  refine outputs_outputOf fun block => ?_
  exact .bind fun _ => .bind fun _ => .bind fun _ => .bind fun _ => .bind fun call =>
    outputs_call call

theorem GoogleAdapter.outputs_parseResponse {limit : Nat} {hex : String} {a : GoogleAdapter}
    {response : Dict} : Outputs (a.parseResponse limit hex response) := by
  refine .bind fun _ => .bind fun _ => .bind fun _ => .bind fun _ => .bind fun _ =>
    .bind fun parts => .bind fun read => ?_
  refine outputs_outputOf fun call => .bind fun name => .bind fun arguments => ?_
  dsimp only
  split
  · exact .bind fun _ => .bind fun _ => .bind fun call => outputs_call call
  · exact .bind fun _ => .bind fun _ => .bind fun call => outputs_call call

theorem OpenAICompatibleAdapter.outputs_parseResponse {limit : Nat} {a : OpenAICompatibleAdapter}
    {response : Dict} : Outputs (a.parseResponse limit response) := by
  refine .bind fun _ => .bind fun _ => .bind fun _ => .bind fun _ => .bind fun _ => .bind fun _ =>
    .bind fun _ => ?_
  dsimp only
  split
  · exact .bind fun _ => .bind fun _ => .bind fun _ => .bind fun _ => .bind fun _ => .bind fun _ =>
      .bind fun _ => .bind fun _ => .bind fun call => outputs_call call
  · split
    · exact .bind fun content => outputs_text _
    · exact outputs_error _

/-- **Responses are contained** unless the stop reason of a choice has no hash
    or the text of its one call's arguments holds too long an integer. -/
theorem contained_iff (limit : Nat) (hex : String) (adapter : ModelAdapter) (response : Dict) :
    Contained (adapter.parseResponse limit hex response) ↔ ¬ adapter.Trips limit response := by
  rw [← ModelAdapter.escapes_parseResponse hex]
  apply contained_iff_not_escapes
  cases adapter with
  | anthropic a => exact AnthropicAdapter.outputs_parseResponse
  | google a => exact GoogleAdapter.outputs_parseResponse
  | openAICompatible a => exact OpenAICompatibleAdapter.outputs_parseResponse

/-- A response whose stop reason is a list. -/
def listStopped : Dict :=
  Dict.of [("stop_reason", .arr []), ("content", .arr [])] (by
    rintro m hm
    simp only [List.mem_cons, List.not_mem_nil, or_false] at hm
    rcases hm with rfl | rfl <;> exact Json.WF.arr (by simp))

theorem list_stop_reason_escapes :
    ¬ Contained ((ModelAdapter.anthropic ⟨"claude", by decide⟩).parseResponse 4300 "" listStopped) := by
  intro h
  have hraised : (ModelAdapter.anthropic ⟨"claude", by decide⟩).parseResponse 4300 "" listStopped =
      .error (Exn.of .typeError "unhashable type: 'list'") := rfl
  exact absurd (h.model_error _ hraised) (by decide)

end CBrain

import CBrain.Models.Contracts

/-! # Agent profiles, tools and run types

    Models `cbrain/agent/{limits,profile,tools,contracts}.py`.  A validated
    dataclass carries its `__post_init__` checks as fields; `AgentProfile`'s
    own `metadata` is read by nothing that is modelled and left out.  A set of
    tool names is modelled by its sorted list, a finite clock reading by an
    exact decimal. -/

namespace CBrain

open Json (Dict)

/-! ## Section 1: Mappings of arbitrary values -/

/-- How a Python value relates to the JSON value it is written as. -/
inductive PyKind where
  | json
  | coerced
  | foreign
  deriving DecidableEq, Repr

/-- The value of a kind with a JSON image. -/
def PyKind.value : PyKind → Json → PyVal
  | .json, j => .json j
  | .coerced, j => .coerced j
  | .foreign, j => .foreign j

/-- A mapping from text to arbitrary values: the image of each value, and how
    the value relates to it. -/
structure PyDict where
  image : Dict
  kind : String → PyKind
  absent : ∀ k, image.get? k = none → kind k = .json

namespace PyDict

/-- A JSON object as a mapping. -/
def ofDict (d : Dict) : PyDict := ⟨d, fun _ => .json, fun _ _ => rfl⟩

/-- `{}`. -/
def empty : PyDict := ofDict (Dict.of [] Dict.wf_of_nil)

/-- `m.get(key)`. -/
def get (m : PyDict) (key : String) : PyVal :=
  match m.image.get? key with
  | some j => (m.kind key).value j
  | none => .none

/-- `m[key] = text`. -/
def setText (m : PyDict) (key text : String) : PyDict where
  image := m.image.set key (.str text) (Json.WF.str text)
  kind := Function.update m.kind key .json
  absent := by
    intro k hk
    rw [Dict.get?_set] at hk
    by_cases h : k = key
    · simp [h] at hk
    · rw [if_neg h] at hk
      simp [h, m.absent k hk]

/-- The value is a JSON value under every key. -/
def Plain (m : PyDict) : Prop := ∀ k, m.kind k = .json

/-- Some value is one the encoder refuses. -/
def refused (m : PyDict) : Bool := m.image.keys.any fun k => m.kind k == .foreign

theorem ext {m n : PyDict} (himage : m.image = n.image) (hkind : m.kind = n.kind) : m = n := by
  rcases m with ⟨image, kind, _⟩
  rcases n with ⟨_, _, _⟩
  subst himage
  subst hkind
  rfl

theorem plain_setText {m : PyDict} (h : m.Plain) (key text : String) : (m.setText key text).Plain := by
  intro k
  show Function.update m.kind key .json k = .json
  by_cases hk : k = key
  · simp [hk]
  · simp [hk, h k]

theorem ofDict_image {m : PyDict} (h : m.Plain) : ofDict m.image = m :=
  ext rfl (funext fun k => (h k).symm)

theorem refused_of_plain {m : PyDict} (h : m.Plain) : m.refused = false := by
  simp [refused, h _]

end PyDict

/-! ## Section 2: Limits and profiles -/

/-- `RunLimits`. -/
structure RunLimits where
  max_task_chars : Nat
  max_model_text_chars : Nat
  max_observation_chars : Nat
  max_context_messages : Nat
  max_output_tokens : Nat
  max_task_chars_pos : 1 ≤ max_task_chars
  max_model_text_chars_pos : 1 ≤ max_model_text_chars
  max_observation_chars_pos : 1 ≤ max_observation_chars
  max_context_messages_pos : 1 ≤ max_context_messages
  max_output_tokens_pos : 1 ≤ max_output_tokens

/-- `RunLimits()`. -/
def RunLimits.default : RunLimits where
  max_task_chars := 16384
  max_model_text_chars := 16384
  max_observation_chars := 16384
  max_context_messages := 32
  max_output_tokens := 1024
  max_task_chars_pos := by decide
  max_model_text_chars_pos := by decide
  max_observation_chars_pos := by decide
  max_context_messages_pos := by decide
  max_output_tokens_pos := by decide

/-- `AgentProfile`. -/
structure AgentProfile where
  agent_id : String
  instructions : String
  model_route : String
  permitted_tools : List String
  max_model_turns : Nat
  max_tool_calls : Nat
  timeout_seconds : Decimal
  limits : RunLimits
  knowledge_required_for_tools : Bool
  agent_id_text : nonBlank agent_id = true
  instructions_text : nonBlank instructions = true
  model_route_text : nonBlank model_route = true
  /-- The list stands for a set. -/
  permitted_sorted : permitted_tools.Pairwise (· < ·)
  permitted_text : ∀ name ∈ permitted_tools, nonBlank name = true
  max_model_turns_pos : 1 ≤ max_model_turns
  timeout_pos : 0 < timeout_seconds

/-! ## Section 3: Tools -/

/-- `GovernedTool`. -/
structure GovernedTool where
  name : String
  capability : String
  description : String
  input_schema : Dict
  name_text : nonBlank name = true
  capability_text : nonBlank capability = true
  description_text : nonBlank description = true

/-- `to_definition`. -/
def GovernedTool.toDefinition (t : GovernedTool) : Raises ToolDefinition :=
  ToolDefinition.capture t.name t.description t.input_schema

/-- `ToolRegistry`: tools with distinct names. -/
structure ToolRegistry where
  tools : List GovernedTool
  distinct : (tools.map GovernedTool.name).Nodup

namespace ToolRegistry

/-- The tool of a name. -/
def find? (r : ToolRegistry) (name : String) : Option GovernedTool :=
  r.tools.find? fun t => t.name == name

/-- `contains`. -/
def contains (r : ToolRegistry) (name : String) : Bool := (r.find? name).isSome

/-- `get`. -/
def get (r : ToolRegistry) (name : String) : Raises GovernedTool :=
  match r.find? name with
  | some t => .ok t
  | none => .error (Exn.parts .toolRegistryError [.text "unknown tool ", .repr (.str name)])

/-- `definitions_for`. -/
def definitionsFor (r : ToolRegistry) (permitted : List String) : Raises (List ToolDefinition) := do
  let missing := permitted.filter fun name => !r.contains name
  require (missing = [])
    (Exn.parts .toolRegistryError
      [.text "profile permits unregistered tools: ", .repr (textList missing)])
  permitted.mapM fun name => do (← r.get name).toDefinition

end ToolRegistry

/-! ## Section 4: Runs -/

/-- `RunStatus`. -/
inductive RunStatus where
  | completed
  | rejected
  | invalidModelResponse
  | modelFailure
  | toolFailure
  | limitReached
  | timedOut
  | cancelled
  | recoveryRequired
  | executionInFlight
  deriving DecidableEq, Repr

/-- `status.value`. -/
def RunStatus.value : RunStatus → String
  | .completed => "completed"
  | .rejected => "rejected"
  | .invalidModelResponse => "invalid_model_response"
  | .modelFailure => "model_failure"
  | .toolFailure => "tool_failure"
  | .limitReached => "limit_reached"
  | .timedOut => "timed_out"
  | .cancelled => "cancelled"
  | .recoveryRequired => "recovery_required"
  | .executionInFlight => "execution_in_flight"

/-- `RunStatus(value)`. -/
def RunStatus.ofValue? (value : String) : Option RunStatus :=
  [.completed, .rejected, .invalidModelResponse, .modelFailure, .toolFailure, .limitReached,
    .timedOut, .cancelled, .recoveryRequired, .executionInFlight].find? fun s => s.value == value

@[simp] theorem RunStatus.ofValue?_value (s : RunStatus) : RunStatus.ofValue? s.value = some s := by
  cases s <;> decide

/-- `RunEventKind`. -/
inductive RunEventKind where
  | runStarted
  | modelTurn
  | modelResponse
  | toolRequested
  | toolCompleted
  | toolRejected
  | runCompleted
  | runFailed
  deriving DecidableEq, Repr

/-- `kind.value`. -/
def RunEventKind.value : RunEventKind → String
  | .runStarted => "run_started"
  | .modelTurn => "model_turn"
  | .modelResponse => "model_response"
  | .toolRequested => "tool_requested"
  | .toolCompleted => "tool_completed"
  | .toolRejected => "tool_rejected"
  | .runCompleted => "run_completed"
  | .runFailed => "run_failed"

/-- `RunEventKind(value)`. -/
def RunEventKind.ofValue? (value : String) : Option RunEventKind :=
  [.runStarted, .modelTurn, .modelResponse, .toolRequested, .toolCompleted, .toolRejected,
    .runCompleted, .runFailed].find? fun k => k.value == value

@[simp] theorem RunEventKind.ofValue?_value (k : RunEventKind) :
    RunEventKind.ofValue? k.value = some k := by
  cases k <;> decide

/-- `RunInput`. -/
structure RunInput where
  task : String
  run_id : Option String
  metadata : Option PyDict
  task_text : nonBlank task = true
  run_id_text : ∀ id, run_id = some id → nonBlank id = true

/-- `RunInput(task=..., run_id=run_id, metadata=...)` with a given run id. -/
def RunInput.withRunId (input : RunInput) (run_id : String) : Raises RunInput :=
  if h : nonBlank run_id = true then
    .ok { input with
      run_id := some run_id
      run_id_text := by
        intro id hid
        rw [← Option.some.inj hid]
        exact h }
  else .error (Exn.of .valueError "run_id must be non-empty when provided")

/-- `dict(run_input.metadata or {})`. -/
def RunInput.metadataDict (input : RunInput) : PyDict := input.metadata.getD PyDict.empty

/-- `RunEvent`.  A detail is the JSON snapshot of its text members. -/
structure RunEvent where
  kind : RunEventKind
  step : Nat
  timestamp : Decimal
  detail : Dict
  deriving DecidableEq

/-- An event whose detail has text members. -/
def RunEvent.of (kind : RunEventKind) (step : Nat) (timestamp : Decimal)
    (detail : List (String × String)) : RunEvent where
  kind := kind
  step := step
  timestamp := timestamp
  detail := Dict.of (detail.map fun m => (m.1, .str m.2)) (by
    intro m hm
    obtain ⟨x, -, rfl⟩ := List.mem_map.mp hm
    exact Json.WF.str x.2)

/-- `RunResult`. -/
structure RunResult where
  run_id : String
  status : RunStatus
  final_text : Option String
  tool_calls : Nat
  model_turns : Nat
  events : List RunEvent
  metadata : PyDict

end CBrain

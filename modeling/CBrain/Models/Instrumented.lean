import CBrain.Evaluation.CostComparison
import CBrain.Models.Adapters

/-! # Instrumented adapters

    Models `InstrumentedModelAdapter` (`cbrain/models/instrumented.py`), which wraps
    an adapter and observes each completion, with the checks of `TokenUsage`
    (`cbrain/models/usage.py`).

    * `Transparent`    : the wrapper changes nothing and observes each completion once.
    * `Resolvable`     : the usage that an adapter reports is one that is recorded. -/

namespace CBrain

open Json (Dict)

/-! ## Section 1: The usage of a completion -/

/-- `UsageContractError`. -/
def usageContractError (message : String) : Exn :=
  ⟨.valueError, "UsageContractError", [.text message]⟩

/-- `TokenUsage`, with what identifies the completion. -/
structure CompletionUsage extends TokenUsage where
  request_id : Option String
  run_id : Option String
  cached_input_accounting : Option String

/-- `_required_text`, of a text that may be absent. -/
def usageText (value : Option String) (field_name : String) : Raises Unit :=
  require (∀ text ∈ value, nonBlank text = true)
    (usageContractError s!"{field_name} must be non-empty text")

/-- `TokenUsage.__post_init__`. -/
def CompletionUsage.new (provider model : String) (source : UsageSource)
    (input_tokens cached_input_tokens output_tokens reasoning_tokens total_tokens : Option Nat)
    (request_id run_id cached_input_accounting : Option String) : Raises CompletionUsage := do
  let ⟨provider_text⟩ ← ensure (nonBlank provider = true)
    (usageContractError "provider must be non-empty text")
  let ⟨model_text⟩ ← ensure (nonBlank model = true)
    (usageContractError "model must be non-empty text")
  let ⟨unknown_empty⟩ ← ensure (source = .unknown →
      input_tokens = none ∧ cached_input_tokens = none ∧ output_tokens = none ∧
        reasoning_tokens = none ∧ total_tokens = none)
    (usageContractError "unknown usage must not include numeric token fields")
  let ⟨reported_tokens⟩ ← ensure
    (source = .providerReported → input_tokens ≠ none ∨ output_tokens ≠ none)
    (usageContractError "provider-reported usage requires input or output tokens")
  require (∀ accounting ∈ cached_input_accounting,
      accounting = "simulated_assumption" ∨ accounting = "provider_reported")
    (usageContractError "cached_input_accounting is invalid")
  usageText request_id "request_id"
  usageText run_id "run_id"
  pure
    { provider, model, source, input_tokens, cached_input_tokens, output_tokens,
      reasoning_tokens, total_tokens, provider_text, model_text, unknown_empty, reported_tokens,
      request_id, run_id, cached_input_accounting }

/-- A value that an adapter may put into its usage report. -/
inductive UsageValue where
  | none
  | bool (b : Bool)
  | int (i : Int)
  | text (s : String)
  | other
  deriving DecidableEq

/-- A usage report: what `get` answers for each field. -/
abbrev UsagePayload : Type := String → UsageValue

/-- `_optional_int`. -/
def optionalInt : UsageValue → Raises (Option Nat)
  | .none => pure none
  | .int i =>
    if i < 0 then .error (Exn.of .valueError "usage integer field is invalid")
    else pure (some i.toNat)
  | _ => .error (Exn.of .valueError "usage integer field is invalid")

/-- `_optional_text`. -/
def optionalUsageText : UsageValue → Raises (Option String)
  | .none => pure none
  | .text s =>
    if nonBlank s = true then pure (some s)
    else .error (Exn.of .valueError "usage text field is invalid")
  | _ => .error (Exn.of .valueError "usage text field is invalid")

/-- `_provider_reported_usage`. -/
def providerReportedUsage (provider model : String) (payload : UsagePayload)
    (run_id : Option String) : Raises CompletionUsage := do
  let cached ← optionalInt (payload "cached_input_tokens")
  let input_tokens ← optionalInt (payload "input_tokens")
  let output_tokens ← optionalInt (payload "output_tokens")
  let reasoning_tokens ← optionalInt (payload "reasoning_tokens")
  let total_tokens ← optionalInt (payload "total_tokens")
  let request_id ← optionalUsageText (payload "request_id")
  CompletionUsage.new provider model .providerReported input_tokens cached output_tokens
    reasoning_tokens total_tokens request_id run_id
    (if 0 < cached.getD 0 then some "provider_reported" else none)

/-- `TokenUsage.unknown`. -/
def unknownUsage (provider model : String) (run_id : Option String) : Raises CompletionUsage :=
  CompletionUsage.new provider model .unknown none none none none none none run_id none

/-! ## Section 2: Estimates -/

/-- `_tool_history_chars`. -/
def toolHistoryChars (call : ToolCall) : Nat :=
  match call.continuation with
  | some turn => (Json.dumps .canonical turn.message.json).length
  | none => (Json.dumps .default call.arguments.json).length

/-- `_tokens_from_chars`. -/
def tokensFromChars (char_count chars_per_token : Nat) : Nat :=
  if char_count ≤ 0 then 0
  else max 1 ((char_count + chars_per_token - 1) / chars_per_token)

/-- The characters of a request. -/
def inputChars (request : CompletionRequest) : Nat :=
  (request.messages.map fun message => message.content.length).sum +
    ((request.messages.filterMap Message.tool_call).map toolHistoryChars).sum +
    (request.tools.map fun tool => (Json.dumps .default tool.input_schema.json).length).sum

/-- The characters of an output. -/
def outputChars : ModelOutput → Nat
  | .text output => output.text.length
  | .call output => toolHistoryChars output
  | .other => 0

/-- `_estimate_usage`. -/
def estimateUsage (provider model : String) (request : CompletionRequest) (output : ModelOutput)
    (chars_per_token : Nat) (run_id : Option String) (cached_input_tokens : Nat) :
    Raises CompletionUsage :=
  let input_tokens := tokensFromChars (inputChars request) chars_per_token
  let cached := if input_tokens < cached_input_tokens then input_tokens else cached_input_tokens
  let billable_input := input_tokens - cached
  let output_tokens := tokensFromChars (outputChars output) chars_per_token
  CompletionUsage.new provider model .estimated (some billable_input) (some cached)
    (some output_tokens) (some 0) (some (billable_input + cached + output_tokens)) none run_id
    (if 0 < cached then some "simulated_assumption" else none)

/-! ## Section 3: The wrapper -/

/-- An adapter of any kind, in a state of its own.  `last_reported_usage` is the
    attribute of that name where it is a mapping. -/
structure InnerAdapter (S : Type) where
  provider : S → String
  model : S → String
  complete : CompletionRequest → S → Raises ModelOutput × S
  last_reported_usage : S → Option UsagePayload

/-- `CompletionObservation`. -/
structure CompletionObservation where
  output : ModelOutput
  usage : CompletionUsage
  latency_seconds : Decimal
  route_id : String

/-- `InstrumentedModelAdapter`, as its constructor accepts it. -/
structure InstrumentedModelAdapter where
  route_id : String
  run_id : Option String
  chars_per_token : Nat
  cached_input_tokens : Nat
  route_id_text : nonBlank route_id = true
  chars_per_token_pos : 1 ≤ chars_per_token

/-- The state of the wrapped adapter, and what the wrapper observed. -/
structure Instrumented (S : Type) where
  inner : S
  observations : List CompletionObservation

namespace InstrumentedModelAdapter

variable {S : Type} (wrapper : InstrumentedModelAdapter) (adapter : InnerAdapter S)

/-- `_resolve_usage`. -/
def resolveUsage (request : CompletionRequest) (output : ModelOutput) (inner : S) :
    Raises CompletionUsage :=
  match adapter.last_reported_usage inner with
  | some reported =>
    providerReportedUsage (adapter.provider inner) (adapter.model inner) reported wrapper.run_id
  | none =>
    estimateUsage (adapter.provider inner) (adapter.model inner) request output
      wrapper.chars_per_token wrapper.run_id wrapper.cached_input_tokens

/-- `complete`; the latency is what the clock showed. -/
def complete (request : CompletionRequest) (latency : Decimal) (s : Instrumented S) :
    Raises ModelOutput × Instrumented S :=
  match adapter.complete request s.inner with
  | (.error e, inner) => (.error e, { s with inner := inner })
  | (.ok output, inner) =>
    let usage :=
      if output = .other then
        unknownUsage (adapter.provider inner) (adapter.model inner) wrapper.run_id
      else wrapper.resolveUsage adapter request output inner
    match usage with
    | .error e => (.error e, { s with inner := inner })
    | .ok usage =>
      (.ok output,
        { inner := inner
          observations := s.observations ++
            [⟨output, usage, latency, wrapper.route_id⟩] })

end InstrumentedModelAdapter

/-! ## Section 4: What is recorded -/

/-- A count that a report may give. -/
def IsCount (value : UsageValue) : Prop := value = .none ∨ ∃ n : Nat, value = .int n

/-- A text that a report may give. -/
def IsText (value : UsageValue) : Prop :=
  value = .none ∨ ∃ s, value = .text s ∧ nonBlank s = true

/-- A report that is recorded. -/
structure WellReported (payload : UsagePayload) : Prop where
  cached_input_tokens : IsCount (payload "cached_input_tokens")
  input_tokens : IsCount (payload "input_tokens")
  output_tokens : IsCount (payload "output_tokens")
  reasoning_tokens : IsCount (payload "reasoning_tokens")
  total_tokens : IsCount (payload "total_tokens")
  request_id : IsText (payload "request_id")
  tokens : payload "input_tokens" ≠ .none ∨ payload "output_tokens" ≠ .none

/-- The usage after a completed turn is recorded. -/
structure Resolvable {S : Type} (wrapper : InstrumentedModelAdapter) (adapter : InnerAdapter S)
    (inner : S) : Prop where
  provider : nonBlank (adapter.provider inner) = true
  model : nonBlank (adapter.model inner) = true
  run_id : ∀ id ∈ wrapper.run_id, nonBlank id = true
  reported : ∀ payload ∈ adapter.last_reported_usage inner, WellReported payload

theorem CompletionUsage.new_ok {provider model : String} {source : UsageSource}
    {input_tokens cached_input_tokens output_tokens reasoning_tokens total_tokens : Option Nat}
    {request_id run_id accounting : Option String}
    (hunknown : source = .unknown → input_tokens = none ∧ cached_input_tokens = none ∧
      output_tokens = none ∧ reasoning_tokens = none ∧ total_tokens = none)
    (haccounting : ∀ text ∈ accounting, text = "simulated_assumption" ∨ text = "provider_reported") :
    (∃ usage, CompletionUsage.new provider model source input_tokens cached_input_tokens
      output_tokens reasoning_tokens total_tokens request_id run_id accounting = .ok usage) ↔
    nonBlank provider = true ∧ nonBlank model = true ∧
      (source = .providerReported → input_tokens ≠ none ∨ output_tokens ≠ none) ∧
      (∀ text ∈ request_id, nonBlank text = true) ∧ ∀ text ∈ run_id, nonBlank text = true := by
  unfold CompletionUsage.new usageText
  constructor
  · rintro ⟨usage, h⟩
    simp only [ensure_bind_ok, require_bind_ok] at h
    obtain ⟨hprovider, hmodel, -, hreported, -, hrequest, hrun, -⟩ := h
    exact ⟨hprovider, hmodel, hreported, hrequest, hrun⟩
  · rintro ⟨hprovider, hmodel, hreported, hrequest, hrun⟩
    simp only [ensure_bind_ok, require_bind_ok]
    exact ⟨_, hprovider, hmodel, hunknown, hreported, haccounting, hrequest, hrun, rfl⟩

theorem optionalInt_ok {value : UsageValue} {count : Option Nat} :
    optionalInt value = .ok count ↔
      value = .none ∧ count = none ∨ ∃ n : Nat, value = .int n ∧ count = some n := by
  cases value with
  | none =>
    rw [optionalInt, pure_ok]
    simp [@eq_comm _ none]
  | bool b => simp [optionalInt]
  | text s => simp [optionalInt]
  | other => simp [optionalInt]
  | int i =>
    rw [optionalInt]
    by_cases hneg : i < 0
    · have hnat : ∀ n : Nat, i ≠ n := by
        intro n h
        omega
      simp [hneg, hnat]
    · obtain ⟨n, rfl⟩ := Int.eq_ofNat_of_zero_le (by omega : 0 ≤ i)
      rw [if_neg hneg, pure_ok]
      simp [@eq_comm _ (some n)]

theorem exists_optionalInt {value : UsageValue} :
    (∃ count, optionalInt value = .ok count) ↔ IsCount value := by
  simp only [optionalInt_ok, IsCount]
  constructor
  · rintro ⟨count, h⟩
    exact h.imp And.left fun ⟨n, hvalue, _⟩ => ⟨n, hvalue⟩
  · intro h
    rcases h with hnone | ⟨n, hn⟩
    · exact ⟨none, Or.inl ⟨hnone, rfl⟩⟩
    · exact ⟨some n, Or.inr ⟨n, hn, rfl⟩⟩

theorem count_ne_none {value : UsageValue} {count : Option Nat}
    (h : optionalInt value = .ok count) : count ≠ none ↔ value ≠ .none := by
  rcases optionalInt_ok.mp h with ⟨rfl, rfl⟩ | ⟨n, rfl, rfl⟩
  · simp
  · simp

theorem optionalUsageText_ok {value : UsageValue} {text : Option String} :
    optionalUsageText value = .ok text ↔
      value = .none ∧ text = none ∨
        ∃ s, value = .text s ∧ nonBlank s = true ∧ text = some s := by
  cases value with
  | none =>
    rw [optionalUsageText, pure_ok]
    simp [@eq_comm _ none]
  | bool b => simp [optionalUsageText]
  | int i => simp [optionalUsageText]
  | other => simp [optionalUsageText]
  | text s =>
    rw [optionalUsageText]
    by_cases hs : nonBlank s = true
    · rw [if_pos hs, pure_ok]
      simp [hs, @eq_comm _ (some s)]
    · rw [if_neg hs]
      simp [hs]

/-- A report is recorded exactly when it is well formed and the rest is text. -/
theorem providerReportedUsage_ok {provider model : String} {payload : UsagePayload}
    {run_id : Option String} :
    (∃ usage, providerReportedUsage provider model payload run_id = .ok usage) ↔
      nonBlank provider = true ∧ nonBlank model = true ∧
        (∀ id ∈ run_id, nonBlank id = true) ∧ WellReported payload := by
  have haccounting : ∀ cached : Option Nat, ∀ text ∈
      (if 0 < cached.getD 0 then some "provider_reported" else none : Option String),
        text = "simulated_assumption" ∨ text = "provider_reported" := by
    intro cached text htext
    by_cases hpos : 0 < cached.getD 0
    · rw [if_pos hpos] at htext
      exact Or.inr (Option.mem_some.mp htext).symm
    · rw [if_neg hpos] at htext
      cases htext
  have hsource : ∀ a b c d e : Option Nat, UsageSource.providerReported = .unknown →
      a = none ∧ b = none ∧ c = none ∧ d = none ∧ e = none := by
    intro _ _ _ _ _ h
    cases h
  constructor
  · rintro ⟨usage, h⟩
    unfold providerReportedUsage at h
    obtain ⟨cached, hcached, h⟩ := bind_ok.mp h
    obtain ⟨input_tokens, hinput, h⟩ := bind_ok.mp h
    obtain ⟨output_tokens, houtput, h⟩ := bind_ok.mp h
    obtain ⟨reasoning_tokens, hreasoning, h⟩ := bind_ok.mp h
    obtain ⟨total_tokens, htotal, h⟩ := bind_ok.mp h
    obtain ⟨request_id, hrequest, h⟩ := bind_ok.mp h
    obtain ⟨hprovider, hmodel, htokens, -, hrun⟩ :=
      (CompletionUsage.new_ok (hsource _ _ _ _ _) (haccounting cached)).mp ⟨usage, h⟩
    refine ⟨hprovider, hmodel, hrun, ?_⟩
    exact
      { cached_input_tokens := exists_optionalInt.mp ⟨_, hcached⟩
        input_tokens := exists_optionalInt.mp ⟨_, hinput⟩
        output_tokens := exists_optionalInt.mp ⟨_, houtput⟩
        reasoning_tokens := exists_optionalInt.mp ⟨_, hreasoning⟩
        total_tokens := exists_optionalInt.mp ⟨_, htotal⟩
        request_id := (optionalUsageText_ok.mp hrequest).imp And.left
          fun ⟨s, hvalue, hs, _⟩ => ⟨s, hvalue, hs⟩
        tokens := (htokens rfl).imp (count_ne_none hinput).mp (count_ne_none houtput).mp }
  · rintro ⟨hprovider, hmodel, hrun, h⟩
    obtain ⟨cached, hcached⟩ := exists_optionalInt.mpr h.cached_input_tokens
    obtain ⟨input_tokens, hinput⟩ := exists_optionalInt.mpr h.input_tokens
    obtain ⟨output_tokens, houtput⟩ := exists_optionalInt.mpr h.output_tokens
    obtain ⟨reasoning_tokens, hreasoning⟩ := exists_optionalInt.mpr h.reasoning_tokens
    obtain ⟨total_tokens, htotal⟩ := exists_optionalInt.mpr h.total_tokens
    obtain ⟨request_id, hrequest, hrequest_text⟩ : ∃ request_id,
        optionalUsageText (payload "request_id") = .ok request_id ∧
          ∀ text ∈ request_id, nonBlank text = true := by
      rcases h.request_id with hnone | ⟨s, hs, htext⟩
      · exact ⟨none, optionalUsageText_ok.mpr (Or.inl ⟨hnone, rfl⟩), nofun⟩
      · refine ⟨some s, optionalUsageText_ok.mpr (Or.inr ⟨s, hs, htext, rfl⟩), ?_⟩
        intro text hmem
        rwa [← Option.mem_some.mp hmem]
    obtain ⟨usage, husage⟩ := (CompletionUsage.new_ok (hsource input_tokens cached
      output_tokens reasoning_tokens total_tokens) (haccounting cached)).mpr ⟨hprovider, hmodel,
        fun _ => h.tokens.imp (count_ne_none hinput).mpr (count_ne_none houtput).mpr,
        hrequest_text, hrun⟩
    refine ⟨usage, ?_⟩
    unfold providerReportedUsage
    rw [hcached, ok_bind, hinput, ok_bind, houtput, ok_bind, hreasoning, ok_bind, htotal, ok_bind,
      hrequest, ok_bind]
    exact husage

theorem estimateUsage_ok {provider model : String} {request : CompletionRequest}
    {output : ModelOutput} {chars_per_token : Nat} {run_id : Option String}
    {cached_input_tokens : Nat} :
    (∃ usage, estimateUsage provider model request output chars_per_token run_id
      cached_input_tokens = .ok usage) ↔
      nonBlank provider = true ∧ nonBlank model = true ∧ ∀ id ∈ run_id, nonBlank id = true := by
  have haccounting : ∀ c : Prop, [Decidable c] → ∀ text ∈
      (if c then some "simulated_assumption" else none : Option String),
        text = "simulated_assumption" ∨ text = "provider_reported" := by
    intro c _ text htext
    by_cases hc : c
    · rw [if_pos hc] at htext
      exact Or.inl (Option.mem_some.mp htext).symm
    · rw [if_neg hc] at htext
      cases htext
  have hsource : ∀ a b c d e : Option Nat, UsageSource.estimated = .unknown →
      a = none ∧ b = none ∧ c = none ∧ d = none ∧ e = none := by
    intro _ _ _ _ _ h
    cases h
  unfold estimateUsage
  dsimp only
  rw [CompletionUsage.new_ok (hsource _ _ _ _ _) (haccounting _)]
  simp

/-- The usage of a turn is recorded exactly when it is resolvable. -/
theorem resolveUsage_ok {S : Type} {wrapper : InstrumentedModelAdapter} {adapter : InnerAdapter S}
    {request : CompletionRequest} {output : ModelOutput} {inner : S} :
    (∃ usage, wrapper.resolveUsage adapter request output inner = .ok usage) ↔
      Resolvable wrapper adapter inner := by
  unfold InstrumentedModelAdapter.resolveUsage
  match hreported : adapter.last_reported_usage inner with
  | none =>
    rw [estimateUsage_ok]
    constructor
    · rintro ⟨hprovider, hmodel, hrun⟩
      refine ⟨hprovider, hmodel, hrun, ?_⟩
      rw [hreported]
      nofun
    · intro h
      exact ⟨h.provider, h.model, h.run_id⟩
  | some payload =>
    rw [providerReportedUsage_ok]
    constructor
    · rintro ⟨hprovider, hmodel, hrun, hpayload⟩
      refine ⟨hprovider, hmodel, hrun, ?_⟩
      rw [hreported]
      intro p hp
      rwa [← Option.mem_some.mp hp]
    · intro h
      exact ⟨h.provider, h.model, h.run_id, h.reported payload hreported⟩

/-! ## Section 5: Transparency -/

/-- The wrapper changes nothing of a turn and observes it once. -/
structure Transparent {S : Type} (wrapper : InstrumentedModelAdapter) (adapter : InnerAdapter S)
    (request : CompletionRequest) (latency : Decimal) (s : Instrumented S) : Prop where
  /-- What the adapter raises is raised, and nothing is observed. -/
  raises : ∀ e inner, adapter.complete request s.inner = (.error e, inner) →
    wrapper.complete adapter request latency s = (.error e, { s with inner := inner })
  /-- A text or a call is returned. -/
  returns : ∀ output inner, adapter.complete request s.inner = (.ok output, inner) →
    output ≠ .other → (wrapper.complete adapter request latency s).1 = .ok output
  /-- Each completion that is returned is observed once. -/
  observes : ∀ output, (wrapper.complete adapter request latency s).1 = .ok output →
    ∃ observation : CompletionObservation, observation.output = output ∧
      (wrapper.complete adapter request latency s).2.observations =
        s.observations ++ [observation]

section turn
variable {S : Type} {wrapper : InstrumentedModelAdapter} {adapter : InnerAdapter S}
  {request : CompletionRequest} {latency : Decimal} {s : Instrumented S}

theorem complete_error {e : Exn} {inner : S}
    (h : adapter.complete request s.inner = (.error e, inner)) :
    wrapper.complete adapter request latency s = (.error e, { s with inner := inner }) := by
  unfold InstrumentedModelAdapter.complete
  rw [h]

/-- The usage that is recorded with an output. -/
def usageOf (wrapper : InstrumentedModelAdapter) (adapter : InnerAdapter S)
    (request : CompletionRequest) (output : ModelOutput) (inner : S) : Raises CompletionUsage :=
  if output = .other then
    unknownUsage (adapter.provider inner) (adapter.model inner) wrapper.run_id
  else wrapper.resolveUsage adapter request output inner

theorem complete_ok {output : ModelOutput} {inner : S} {usage : CompletionUsage}
    (h : adapter.complete request s.inner = (.ok output, inner))
    (husage : usageOf wrapper adapter request output inner = .ok usage) :
    wrapper.complete adapter request latency s =
      (.ok output, ⟨inner, s.observations ++ [⟨output, usage, latency, wrapper.route_id⟩]⟩) := by
  unfold usageOf at husage
  unfold InstrumentedModelAdapter.complete
  rw [h]
  dsimp only
  rw [husage]

theorem complete_refused {output : ModelOutput} {inner : S} {e : Exn}
    (h : adapter.complete request s.inner = (.ok output, inner))
    (husage : usageOf wrapper adapter request output inner = .error e) :
    wrapper.complete adapter request latency s = (.error e, { s with inner := inner }) := by
  unfold usageOf at husage
  unfold InstrumentedModelAdapter.complete
  rw [h]
  dsimp only
  rw [husage]

/-- Whatever is returned has been observed. -/
theorem observes_of_ok {output : ModelOutput}
    (h : (wrapper.complete adapter request latency s).1 = .ok output) :
    ∃ observation : CompletionObservation, observation.output = output ∧
      (wrapper.complete adapter request latency s).2.observations =
        s.observations ++ [observation] := by
  match hinner : adapter.complete request s.inner with
  | (.error e, inner) =>
    rw [complete_error hinner] at h
    cases h
  | (.ok output', inner) =>
    match husage : usageOf wrapper adapter request output' inner with
    | .error e =>
      rw [complete_refused hinner husage] at h
      cases h
    | .ok usage =>
      rw [complete_ok hinner husage] at h ⊢
      obtain rfl : output' = output := Except.ok.inj h
      exact ⟨_, rfl, rfl⟩

end turn

/-- **Transparency**: a turn goes through the wrapper unchanged exactly when, if the
    adapter completes it with a text or a call, its usage can be recorded. -/
theorem transparent_iff {S : Type} (wrapper : InstrumentedModelAdapter) (adapter : InnerAdapter S)
    (request : CompletionRequest) (latency : Decimal) (s : Instrumented S) :
    Transparent wrapper adapter request latency s ↔
      ∀ output inner, adapter.complete request s.inner = (.ok output, inner) →
        output ≠ .other → Resolvable wrapper adapter inner := by
  have husage : ∀ output inner, output ≠ .other →
      usageOf wrapper adapter request output inner =
        wrapper.resolveUsage adapter request output inner := fun _ _ hne => if_neg hne
  constructor
  · intro h output inner hinner hne
    have hreturned := h.returns output inner hinner hne
    rw [← @resolveUsage_ok S wrapper adapter request output inner, ← husage output inner hne]
    match hresolved : usageOf wrapper adapter request output inner with
    | .ok usage => exact ⟨usage, rfl⟩
    | .error e =>
      rw [complete_refused hinner hresolved] at hreturned
      cases hreturned
  · intro h
    refine ⟨fun e inner hinner => complete_error hinner, ?_, fun output => observes_of_ok⟩
    intro output inner hinner hne
    obtain ⟨usage, hresolved⟩ := resolveUsage_ok.mpr (h output inner hinner hne)
    rw [complete_ok hinner ((husage output inner hne).trans hresolved)]

/-- An adapter that answers and reports an empty mapping of usage. -/
def silentAdapter : InnerAdapter Unit where
  provider := fun _ => "acme"
  model := fun _ => "acme-1"
  complete := fun _ s => (.ok (.text ⟨"done", by decide⟩), s)
  last_reported_usage := fun _ => some fun _ => .none

/-- A wrapper of one route. -/
def evalWrapper : InstrumentedModelAdapter where
  route_id := "cheap"
  run_id := some "run-1"
  chars_per_token := 4
  cached_input_tokens := 0
  route_id_text := by decide
  chars_per_token_pos := by decide

/-- A request with one message. -/
def oneMessage : CompletionRequest where
  messages := [⟨.user, "hello", none, none, none, by decide⟩]
  tools := []
  max_output_tokens := 16
  temperature := .int 0
  valid := by decide
  temperature_range := by decide

/-- The answer of an adapter that reports nothing usable is lost. -/
theorem silentAdapter_raises :
    ¬ Transparent evalWrapper silentAdapter oneMessage 0 ⟨(), []⟩ := by
  intro h
  have hreturned := h.returns _ _ rfl (by decide)
  have hraised : (evalWrapper.complete silentAdapter oneMessage 0 ⟨(), []⟩).1 =
      .error (usageContractError "provider-reported usage requires input or output tokens") := rfl
  rw [hraised] at hreturned
  cases hreturned

end CBrain

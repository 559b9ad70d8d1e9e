import CBrain.ComputerUse.Session

/-! # Computer tools of an agent

    Models the handlers of `cbrain/computer_use/tools.py`.  The runtime of the
    agent decides on every call, so the handlers go to the catalog and to the
    backend themselves.

    * `PayloadRedacted` : what the model is shown of a page has no marker of a
      secret.
    * `ShowsRedacted`   : so it is for every payload of any calls. -/

namespace CBrain.ComputerUse

open Json (Dict)
open Mutation (raising write read exec)

variable {urlparse : UrlParser}

/-! ## Section 1: The tools of an agent -/

/-- `_alias`. -/
def aliasOf (arguments : Dict) : Raises String :=
  requiredMember (pageCatalogError "page_alias must be non-empty") (arguments.get "page_alias")

/-- `_selector`. -/
def selectorOf (arguments : Dict) : Raises String :=
  requiredMember (computerUseError "selector must be non-empty") (arguments.get "selector")

/-- The text of `_type`, which may be empty. -/
def typedText (arguments : Dict) : Raises String :=
  match Json.str? (arguments.get "text") with
  | some text => .ok text
  | none => .error (computerUseError "text must be a string")

/-- The keys of an observation that are forwarded. -/
def FORWARDED : List String :=
  ["title", "url_alias", "accessibility_tree", "text_excerpt", "screenshot_sha256",
    "screenshot_media_type"]

/-- `_observation_payload`. -/
def observationPayload (wire : Dict) : Dict := wire.filter fun key => decide (key ∈ FORWARDED)

/-- `_act_payload`. -/
def actPayload (wire : Dict) : Dict :=
  object
    ([("ok", ⟨.bool (isTruthy ((wire.get? "ok").getD (.bool false))), Json.WF.bool _⟩),
      ("detail", .str (textOf wire "detail"))] ++
    (match Json.dict? (wire.get "observation") (wire.wf_get _) with
      | some observation => [("observation", .dict (observationPayload observation))]
      | none => []))

/-- The tools of `computer_tools`. -/
inductive ComputerTool where
  | observe
  | navigate
  | click
  | type
  | submit
  deriving DecidableEq

/-- `ComputerToolBridge`. -/
structure ComputerToolBridge (urlparse : UrlParser) (S : Type) where
  catalog : PageCatalog urlparse
  backend : ComputerBackend S

namespace ComputerToolBridge

variable {S : Type} (bridge : ComputerToolBridge urlparse S)

/-- `_observe`. -/
def observe (arguments : Dict) : Mutation Exn S Dict := do
  let page_alias ← raising (aliasOf arguments)
  let _ ← raising (PageCatalog.resolve bridge.catalog page_alias)
  return observationPayload (← asUseError (bridge.backend.observe page_alias)).toWire

/-- `_navigate`. -/
def navigate (arguments : Dict) : Mutation Exn S Dict := do
  let page_alias ← raising (aliasOf arguments)
  let page ← raising (PageCatalog.resolve bridge.catalog page_alias)
  return actPayload (← asUseError (bridge.backend.navigate page_alias page.url)).toWire

/-- `_click`. -/
def click (arguments : Dict) : Mutation Exn S Dict := do
  let page_alias ← raising (aliasOf arguments)
  let selector ← raising (selectorOf arguments)
  let _ ← raising (PageCatalog.resolve bridge.catalog page_alias)
  return actPayload (← asUseError (bridge.backend.click page_alias selector)).toWire

/-- `_type`. -/
def typeText (arguments : Dict) : Mutation Exn S Dict := do
  let page_alias ← raising (aliasOf arguments)
  let selector ← raising (selectorOf arguments)
  let text ← raising (typedText arguments)
  let _ ← raising (PageCatalog.resolve bridge.catalog page_alias)
  return actPayload (← asUseError (bridge.backend.typeText page_alias selector text)).toWire

/-- `_submit`. -/
def submit (arguments : Dict) : Mutation Exn S Dict := do
  let page_alias ← raising (aliasOf arguments)
  let selector ← raising (selectorOf arguments)
  let _ ← raising (PageCatalog.resolve bridge.catalog page_alias)
  return actPayload (← asUseError (bridge.backend.submit page_alias selector)).toWire

/-- `handlers`. -/
def handler : ComputerTool → Dict → Mutation Exn S Dict
  | .observe => bridge.observe
  | .navigate => bridge.navigate
  | .click => bridge.click
  | .type => bridge.typeText
  | .submit => bridge.submit

/-- Calls of the tools, one after the other. -/
def serve : LossyCalls.Server (ComputerTool × Dict) (Raises Dict) S :=
  fun q => exec (bridge.handler q.1 q.2)

end ComputerToolBridge

/-! ## Section 2: What the model is shown -/

/-- No marker of a secret in the texts of a page that a payload shows. -/
def PayloadRedacted (payload : Dict) : Prop :=
  ∀ key ∈ ["accessibility_tree", "text_excerpt"], ∀ text,
    (payload.get key = .str text ∨
      ∃ shown : Dict, payload.get "observation" = shown.json ∧ shown.get key = .str text) →
    looksLikeSecret text.toList = false

theorem get?_filter (d : Dict) (p : String → Bool) (k : String) :
    (d.filter p).get? k = if p k then d.get? k else none := by
  show Json.get? (d.members.filter fun m => p m.1) k = if p k then Json.get? d.members k else none
  unfold Json.get?
  induction d.members with
  | nil => simp
  | cons m ms ih =>
    obtain ⟨l, v⟩ := m
    by_cases hl : p l = true
    · rw [List.filter_cons_of_pos (by exact hl), Table.lookup_row, Table.lookup_row, ih]
      split_ifs with hk hp
      · rfl
      · exact absurd (hk ▸ hl) hp
      · rfl
      · rfl
    · rw [List.filter_cons_of_neg (by exact hl), Table.lookup_row, ih]
      split_ifs with hp hk
      · exact absurd (hk ▸ hp) hl
      · rfl
      · rfl

theorem get_observationPayload {wire : Dict} {key : String} (h : key ∈ FORWARDED) :
    (observationPayload wire).get key = wire.get key := by
  unfold Dict.get observationPayload
  rw [get?_filter, if_pos (decide_eq_true h)]

theorem BackendObservation.get_tree (o : BackendObservation) :
    o.toWire.get "accessibility_tree" = .str o.accessibility_tree := by
  unfold toWire members
  rw [object_get]
  cases o.screenshot_sha256 <;> cases o.screenshot_media_type <;> rfl

theorem BackendObservation.get_excerpt (o : BackendObservation) :
    o.toWire.get "text_excerpt" = .str o.text_excerpt := by
  unfold toWire members
  rw [object_get]
  cases o.screenshot_sha256 <;> cases o.screenshot_media_type <;> rfl

/-- The texts of a redacted observation are shown as they are. -/
theorem redacted_forwarded {o : BackendObservation} (h : Redacted o) {key : String}
    (hkey : key ∈ ["accessibility_tree", "text_excerpt"]) {text : String}
    (htext : (observationPayload o.toWire).get key = .str text) :
    looksLikeSecret text.toList = false := by
  simp only [List.mem_cons, List.not_mem_nil, or_false] at hkey
  rcases hkey with rfl | rfl
  · rw [get_observationPayload (by decide), o.get_tree] at htext
    obtain rfl := Json.str.inj htext
    exact h.tree
  · rw [get_observationPayload (by decide), o.get_excerpt] at htext
    obtain rfl := Json.str.inj htext
    exact h.excerpt

/-- What `_observe` returns. -/
theorem payloadRedacted_observation {o : BackendObservation} (h : Redacted o) :
    PayloadRedacted (observationPayload o.toWire) := by
  intro key hkey text htext
  rcases htext with htext | ⟨shown, hshown, -⟩
  · exact redacted_forwarded h hkey htext
  · -- An observation has no observation in it.
    have hnone : (observationPayload o.toWire).get "observation" = .null := by
      unfold Dict.get observationPayload
      rw [get?_filter, if_neg (by decide)]
      rfl
    rw [hnone] at hshown
    cases hshown

theorem observation_toWire (r : BackendActResult) :
    r.toWire.get "observation" = (r.observation.map fun o => o.toWire.json).getD .null := by
  unfold BackendActResult.toWire
  rw [object_get]
  cases r.observation <;> rfl

/-- What a tool that acts returns. -/
theorem payloadRedacted_act {r : BackendActResult} (h : r.Redacted) :
    PayloadRedacted (actPayload r.toWire) := by
  intro key hkey text htext
  have hnone : (actPayload r.toWire).get key = .null := by
    unfold actPayload
    rw [object_get]
    simp only [List.mem_cons, List.not_mem_nil, or_false] at hkey
    rcases hkey with rfl | rfl <;>
      cases Json.dict? (r.toWire.get "observation") (r.toWire.wf_get _) <;> rfl
  rcases htext with htext | ⟨shown, hshown, htext⟩
  · rw [hnone] at htext
    cases htext
  · have hget : (actPayload r.toWire).get "observation" =
        (r.observation.map fun o => (observationPayload o.toWire).json).getD .null := by
      unfold actPayload
      cases hobservation : r.observation with
      | none =>
        have hwire : r.toWire.get "observation" = .null := by
          rw [observation_toWire, hobservation]
          rfl
        rw [dict?_null hwire, object_get]
        rfl
      | some o =>
        have hwire : r.toWire.get "observation" = o.toWire.json := by
          rw [observation_toWire, hobservation]
          rfl
        rw [dict?_of_eq hwire, object_get]
        rfl
    rw [hshown] at hget
    cases hobservation : r.observation with
    | none =>
      rw [hobservation] at hget
      cases hget
    | some o =>
      rw [hobservation] at hget
      have hsame : shown = observationPayload o.toWire := Dict.json_inj.mp hget
      rw [hsame] at htext
      exact redacted_forwarded (h o hobservation) hkey htext

section shown
variable {S : Type}

theorem yields_asUseError {α : Type} {P : α → Prop} {m : Mutation Exn S α}
    (h : Mutation.Yields P m) : Mutation.Yields P (asUseError m) := by
  intro s a ha
  have hanswer : (exec m s).1 = .ok a := by
    rw [exec_asUseError] at ha
    cases hrun : (exec m s).1 with
    | ok b =>
      rw [hrun] at ha
      exact ha
    | error e =>
      rw [hrun] at ha
      cases ha
  exact h s a hanswer

/-- **Every tool** of a bridge over a redacting backend. -/
theorem ComputerToolBridge.redacted (bridge : ComputerToolBridge urlparse S)
    (h : Redacting bridge.backend.toBrowserEngine) (tool : ComputerTool) (arguments : Dict) :
    Mutation.Yields PayloadRedacted (bridge.handler tool arguments) := by
  have hact : ∀ {m : Mutation Exn S BackendActResult},
      Mutation.Yields BackendActResult.Redacted m →
      Mutation.Yields PayloadRedacted (do return actPayload (← asUseError m).toWire) :=
    fun hm => (yields_asUseError hm).bind fun r hr => Mutation.yields_pure (payloadRedacted_act hr)
  cases tool with
  | observe =>
    refine Mutation.yields_bind fun page_alias => Mutation.yields_bind fun _ =>
      (yields_asUseError (h.observes page_alias)).bind fun o ho => Mutation.yields_pure ?_
    exact payloadRedacted_observation ho
  | navigate =>
    exact Mutation.yields_bind fun page_alias => Mutation.yields_bind fun page =>
      hact (h.navigates page_alias page.url)
  | click =>
    exact Mutation.yields_bind fun page_alias => Mutation.yields_bind fun selector =>
      Mutation.yields_bind fun _ => hact (h.clicks page_alias selector)
  | type =>
    exact Mutation.yields_bind fun page_alias => Mutation.yields_bind fun selector =>
      Mutation.yields_bind fun text => Mutation.yields_bind fun _ =>
        hact (h.types page_alias selector text)
  | submit =>
    exact Mutation.yields_bind fun page_alias => Mutation.yields_bind fun selector =>
      Mutation.yields_bind fun _ => hact (h.submits page_alias selector)

/-- No payload of the tools shows a marker of a secret, over any calls from any state. -/
def ComputerToolBridge.ShowsRedacted (bridge : ComputerToolBridge urlparse S) : Prop :=
  ∀ calls s payload, .ok payload ∈ (LossyCalls.run bridge.serve calls s).1 → PayloadRedacted payload

/-- **Run lemma**: over a redacting backend nothing else is shown. -/
theorem ComputerToolBridge.showsRedacted (bridge : ComputerToolBridge urlparse S)
    (h : Redacting bridge.backend.toBrowserEngine) : bridge.ShowsRedacted := by
  intro calls s payload hpayload
  induction calls generalizing s with
  | nil => cases hpayload
  | cons q calls ih =>
    rcases List.mem_cons.mp hpayload with heq | hrest
    · exact bridge.redacted h q.1 q.2 s payload heq.symm
    · exact ih _ hrest

/-- **Redaction in production**: over any calls of the tools, on any link to a worker with one of
    its two engines, what the model is shown of a page has no marker of a secret. -/
theorem production_redacted (catalog : PageCatalog urlparse) (client : RemoteComputerBackend)
    (worker : ComputerWorker S) (playwright : PlaywrightBrowserEngine S)
    (stubWorker : ComputerWorker Pages) (stub : StubBrowserEngine) :
    ComputerToolBridge.ShowsRedacted
        ⟨catalog, client.backend { worker with engine := playwright.engine }⟩ ∧
      ComputerToolBridge.ShowsRedacted
        ⟨catalog, client.backend { stubWorker with engine := stub.engine }⟩ :=
  ⟨ComputerToolBridge.showsRedacted _ (client.redacting _ playwright.redacting),
    ComputerToolBridge.showsRedacted _ (client.redacting _ stub.redacting)⟩

end shown

end CBrain.ComputerUse

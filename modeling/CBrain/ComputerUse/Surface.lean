import CBrain.Company.LegalMatters
import CBrain.ComputerUse.Sanitize
import CBrain.Framework.Mutation
import CBrain.Agent.Record

/-! # Browser backends

    Models `cbrain/computer_use/surface.py` and `cbrain/computer_use/engines.py`.

    A backend keeps a state and may raise.  The pages of the two backends in memory are
    dictionaries of JSON values, and the browser that the third one drives is a parameter.

    * `ComputerCall` : one call of a backend, and `perform` what the backend does with it.
    * `Redacting`    : no answer shows a marker of a secret in the texts of a page. -/

namespace CBrain.ComputerUse

open Json (Dict)
open Mutation (raising write read exec)

/-! ## Section 1: What a backend answers -/

/-- `ComputerBackendError`. -/
def computerBackendError (message : String) : Exn :=
  ⟨.other, "ComputerBackendError", [.text message]⟩

/-- What `except ComputerBackendError` catches. -/
def isBackendError (e : Exn) : Bool :=
  e.name == "ComputerBackendError" || e.name == "ProductionComputerRequired"

@[simp] theorem isBackendError_computerBackendError (message : String) :
    isBackendError (computerBackendError message) = true := rfl

@[simp] theorem str_computerBackendError (message : String) :
    (computerBackendError message).str = message := by
  simp [Exn.str, computerBackendError, String.join]

/-- `BackendObservation`. -/
structure BackendObservation where
  title : String
  url_alias : String
  accessibility_tree : String
  text_excerpt : String
  screenshot_sha256 : Option String
  screenshot_media_type : Option String
  deriving DecidableEq

/-- A member that is written if there is something to write. -/
def optMember (key : String) : Option String → List (String × Value)
  | some s => [(key, .str s)]
  | none => []

/-- `str(payload.get(key, ""))`. -/
def textOf (payload : Dict) (key : String) : String := pyStr ((payload.get? key).getD (.str ""))

/-- `str(payload[key]) if payload.get(key) is not None else None`. -/
def optTextOf (payload : Dict) (key : String) : Option String :=
  match payload.get key with
  | .null => none
  | value => some (pyStr value)

namespace BackendObservation

/-- The members that `to_wire` writes. -/
def members (o : BackendObservation) : List (String × Value) :=
  [("title", .str o.title), ("url_alias", .str o.url_alias),
    ("accessibility_tree", .str o.accessibility_tree), ("text_excerpt", .str o.text_excerpt)] ++
  optMember "screenshot_sha256" o.screenshot_sha256 ++
  optMember "screenshot_media_type" o.screenshot_media_type

/-- `to_wire`. -/
def toWire (o : BackendObservation) : Dict := object o.members

/-- `from_wire`. -/
def fromWire (payload : Dict) : BackendObservation where
  title := textOf payload "title"
  url_alias := textOf payload "url_alias"
  accessibility_tree := textOf payload "accessibility_tree"
  text_excerpt := textOf payload "text_excerpt"
  screenshot_sha256 := optTextOf payload "screenshot_sha256"
  screenshot_media_type := optTextOf payload "screenshot_media_type"

end BackendObservation

/-- `BackendActResult`. -/
structure BackendActResult where
  ok : Bool
  detail : String
  observation : Option BackendObservation
  deriving DecidableEq

/-- The member of an observation, if there is one. -/
def observationMember : Option BackendObservation → List (String × Value)
  | some o => [("observation", .dict o.toWire)]
  | none => []

namespace BackendActResult

theorem wf_ok (r : BackendActResult) : Json.WF (.bool r.ok) := Json.WF.bool r.ok

/-- `to_wire`. -/
def toWire (r : BackendActResult) : Dict :=
  object ([("ok", ⟨.bool r.ok, r.wf_ok⟩), ("detail", .str r.detail)] ++
    observationMember r.observation)

/-- `_act_from_wire`. -/
def fromWire (payload : Dict) : BackendActResult where
  ok := isTruthy ((payload.get? "ok").getD (.bool false))
  detail := textOf payload "detail"
  observation :=
    -- `isinstance(raw_obs, dict)`: anything else is no observation.
    (Json.dict? (payload.get "observation") (payload.wf_get _)).map BackendObservation.fromWire

end BackendActResult

/-! ## Section 2: What is written is read back -/

theorem object_get? (ms : List (String × Value)) (k : String) :
    (object ms).get? k = Json.get? (ms.map fun m => (m.1, m.2.1)).reverse k := by
  unfold object
  rw [Json.Dict.get?_of]

theorem dict?_of_eq {j : Json} {hj : Json.WF j} {d : Dict} (h : j = d.json) :
    Json.dict? j hj = some d := by
  subst h
  rfl

theorem dict?_null {j : Json} {hj : Json.WF j} (h : j = .null) : Json.dict? j hj = none := by
  subst h
  rfl

theorem textOf_of_get? {payload : Dict} {key s : String} (h : payload.get? key = some (.str s)) :
    textOf payload key = s := by
  unfold textOf
  rw [h]
  rfl

theorem optTextOf_of_get? {payload : Dict} {key : String} {o : Option String}
    (h : payload.get? key = o.map Json.str) : optTextOf payload key = o := by
  unfold optTextOf Dict.get
  rw [h]
  cases o with
  | none => rfl
  | some s => rfl

/-- **Round trip of an observation**. -/
theorem BackendObservation.fromWire_toWire (o : BackendObservation) : fromWire o.toWire = o := by
  have htext : ∀ key s, (key, s) ∈ [("title", o.title), ("url_alias", o.url_alias),
      ("accessibility_tree", o.accessibility_tree), ("text_excerpt", o.text_excerpt)] →
      o.toWire.get? key = some (.str s) := by
    intro key s hmem
    unfold toWire
    rw [object_get?]
    obtain ⟨title, url_alias, tree, excerpt, digest, media⟩ := o
    simp only [List.mem_cons, Prod.mk.injEq, List.not_mem_nil, or_false] at hmem
    rcases hmem with ⟨rfl, rfl⟩ | ⟨rfl, rfl⟩ | ⟨rfl, rfl⟩ | ⟨rfl, rfl⟩ <;>
      cases digest <;> cases media <;> rfl
  have hopt : ∀ key s, (key, s) ∈ [("screenshot_sha256", o.screenshot_sha256),
      ("screenshot_media_type", o.screenshot_media_type)] →
      o.toWire.get? key = s.map Json.str := by
    intro key s hmem
    unfold toWire
    rw [object_get?]
    obtain ⟨title, url_alias, tree, excerpt, digest, media⟩ := o
    simp only [List.mem_cons, Prod.mk.injEq, List.not_mem_nil, or_false] at hmem
    rcases hmem with ⟨rfl, hs⟩ | ⟨rfl, hs⟩ <;> rw [hs] <;> cases digest <;> cases media <;> rfl
  unfold fromWire
  rw [textOf_of_get? (htext "title" o.title (by simp)), textOf_of_get? (htext "url_alias" o.url_alias (by simp)),
    textOf_of_get? (htext "accessibility_tree" o.accessibility_tree (by simp)),
    textOf_of_get? (htext "text_excerpt" o.text_excerpt (by simp)),
    optTextOf_of_get? (hopt "screenshot_sha256" o.screenshot_sha256 (by simp)),
    optTextOf_of_get? (hopt "screenshot_media_type" o.screenshot_media_type (by simp))]

/-- **Round trip of a result**. -/
theorem BackendActResult.fromWire_toWire (r : BackendActResult) : fromWire r.toWire = r := by
  obtain ⟨ok, detail, observation⟩ := r
  have hok : (toWire ⟨ok, detail, observation⟩).get? "ok" = some (.bool ok) := by
    unfold toWire
    rw [object_get?]
    cases observation <;> rfl
  have hdetail : (toWire ⟨ok, detail, observation⟩).get? "detail" = some (.str detail) := by
    unfold toWire
    rw [object_get?]
    cases observation <;> rfl
  have hobservation : (Json.dict? ((toWire ⟨ok, detail, observation⟩).get "observation")
      ((toWire ⟨ok, detail, observation⟩).wf_get _)).map BackendObservation.fromWire =
        observation := by
    have hget : (toWire ⟨ok, detail, observation⟩).get "observation" =
        (observation.map fun o => o.toWire.json).getD .null := by
      unfold toWire
      rw [object_get]
      cases observation <;> rfl
    cases observation with
    | none =>
      rw [dict?_null hget]
      rfl
    | some o =>
      rw [dict?_of_eq hget, Option.map_some, BackendObservation.fromWire_toWire]
  unfold fromWire
  rw [hok, textOf_of_get? hdetail, hobservation]
  cases ok <;> rfl

/-! ## Section 3: Backends -/

/-- `BrowserEngine`: the calls that the worker makes, on the state `S` of the engine. -/
structure BrowserEngine (S : Type) where
  observe (url_alias : String) : Mutation Exn S BackendObservation
  navigate (url_alias url : String) : Mutation Exn S BackendActResult
  click (url_alias selector : String) : Mutation Exn S BackendActResult
  typeText (url_alias selector text : String) : Mutation Exn S BackendActResult
  submit (url_alias selector : String) : Mutation Exn S BackendActResult

/-- `ComputerBackend`. -/
structure ComputerBackend (S : Type) extends BrowserEngine S where
  dev_only : Bool

/-- `require_production_computer_backend`. -/
def requireProductionComputerBackend {S : Type} (backend : ComputerBackend S) : Raises Unit :=
  if backend.dev_only then
    .error ⟨.other, "ProductionComputerRequired", [.text ("DevOnlyBrowserBackend is DEV_ONLY; " ++
      "production requires an out-of-process computer worker reached via sole-egress sidecar")]⟩
  else .ok ()

/-- A call of a backend, with its arguments. -/
inductive ComputerCall where
  | observe (url_alias : String)
  | navigate (url_alias url : String)
  | click (url_alias selector : String)
  | typeText (url_alias selector text : String)
  | submit (url_alias selector : String)
  deriving DecidableEq

/-- The answer of a call. -/
inductive ComputerAnswer where
  | observed (o : BackendObservation)
  | acted (r : BackendActResult)
  deriving DecidableEq

/-- The observation that an answer shows, if it shows one. -/
def ComputerAnswer.observation? : ComputerAnswer → Option BackendObservation
  | .observed o => some o
  | .acted r => r.observation

/-- The call that is made. -/
def BrowserEngine.perform {S : Type} (engine : BrowserEngine S) :
    ComputerCall → Mutation Exn S ComputerAnswer
  | .observe url_alias => do return .observed (← engine.observe url_alias)
  | .navigate url_alias url => do return .acted (← engine.navigate url_alias url)
  | .click url_alias selector => do return .acted (← engine.click url_alias selector)
  | .typeText url_alias selector text => do
    return .acted (← engine.typeText url_alias selector text)
  | .submit url_alias selector => do return .acted (← engine.submit url_alias selector)

/-! ## Section 4: Pages in memory -/

/-- `pages: dict[str, dict[str, Any]]`. -/
abbrev Pages : Type := Table String Dict

/-- What a page without an entry raises. -/
def noOpenPage (url_alias : String) : Exn :=
  computerBackendError s!"no open page for alias {reprStr url_alias}"

/-- `_require`, and the lookup after `_require_open`. -/
def requirePage (url_alias : String) : Mutation Exn Pages Dict := do
  match ← read fun pages => pages.get? url_alias with
  | some page => pure page
  | none => raising (.error (noOpenPage url_alias))

/-- `page[key] = value`, where the page is open. -/
def setText (url_alias key value : String) : Mutation Exn Pages Unit :=
  write fun pages =>
    match pages.get? url_alias with
    | some page => pages.set url_alias (page.set key (.str value) (Json.WF.str value))
    | none => pages

/-- The page that `navigate` opens. -/
def openedPage (url_alias url : String) : Dict :=
  object
    [("title", .str s!"page:{url_alias}"), ("url", .str url),
      ("accessibility_tree", .str s!"document[alias={url_alias}]"),
      ("text_excerpt", .str s!"Opened {url_alias}")]

/-- `screenshot_digest`. -/
def screenshotDigest (png_bytes : ByteArray) : String := "sha256:" ++ Sha256.hexdigest png_bytes

/-- `sanitize_excerpt`. -/
def sanitizeText (isWord : Char → Bool) (text : String) : String :=
  String.ofList (sanitizeExcerpt isWord text.toList)

/-- `if looks_like_secret(text): raise`. -/
def refuseSecret {S : Type} (text : String) : Mutation Exn S Unit :=
  raising (require (looksLikeSecret text.toList = false)
    (computerBackendError "refusing to type secret-shaped text from model context"))

/-- An act that succeeded. -/
def acted (detail : String) (observation : BackendObservation) : BackendActResult :=
  ⟨true, detail, some observation⟩

/-- `StubBrowserEngine`, with the letters of the sanitizer's pattern. -/
structure StubBrowserEngine where
  isWord : Char → Bool
  include_screenshot_digest : Bool

namespace StubBrowserEngine

variable (stub : StubBrowserEngine)

/-- `StubBrowserEngine.observe`. -/
def observe (url_alias : String) : Mutation Exn Pages BackendObservation := do
  let page ← requirePage url_alias
  let digest :=
    if stub.include_screenshot_digest then
      some (screenshotDigest s!"stub-screenshot:{url_alias}".toUTF8)
    else none
  return {
    title := textOf page "title"
    url_alias := url_alias
    accessibility_tree := sanitizeText stub.isWord (textOf page "accessibility_tree")
    text_excerpt := sanitizeText stub.isWord (textOf page "text_excerpt")
    screenshot_sha256 := digest
    screenshot_media_type := digest.map fun _ => "image/png" }

/-- `StubBrowserEngine.navigate`. -/
def navigate (url_alias url : String) : Mutation Exn Pages BackendActResult := do
  write fun pages => pages.set url_alias (openedPage url_alias url)
  return acted "navigated" (← stub.observe url_alias)

/-- `StubBrowserEngine.click`. -/
def click (url_alias selector : String) : Mutation Exn Pages BackendActResult := do
  let _ ← requirePage url_alias
  setText url_alias "text_excerpt" s!"clicked:{selector}"
  setText url_alias "accessibility_tree" s!"document[alias={url_alias}] focus={selector}"
  return acted s!"clicked:{selector}" (← stub.observe url_alias)

/-- `StubBrowserEngine.type_text`: the text is refused before the page is looked up. -/
def typeText (url_alias selector text : String) : Mutation Exn Pages BackendActResult := do
  refuseSecret text
  let _ ← requirePage url_alias
  setText url_alias "text_excerpt" s!"typed:{selector}"
  return acted s!"typed:{selector}" (← stub.observe url_alias)

/-- `StubBrowserEngine.submit`. -/
def submit (url_alias selector : String) : Mutation Exn Pages BackendActResult := do
  let _ ← requirePage url_alias
  setText url_alias "text_excerpt" s!"submitted:{selector}"
  return acted s!"submitted:{selector}" (← stub.observe url_alias)

/-- The calls of the stub. -/
def engine : BrowserEngine Pages where
  observe := stub.observe
  navigate := stub.navigate
  click := stub.click
  typeText := stub.typeText
  submit := stub.submit

end StubBrowserEngine

/-- `DevOnlyBrowserBackend`, with the letters of the sanitizer's pattern. -/
structure DevOnlyBrowserBackend where
  isWord : Char → Bool

namespace DevOnlyBrowserBackend

variable (dev : DevOnlyBrowserBackend)

/-- `DevOnlyBrowserBackend.observe`: the tree is shown as it is. -/
def observe (url_alias : String) : Mutation Exn Pages BackendObservation := do
  let page ← requirePage url_alias
  return {
    title := textOf page "title"
    url_alias := url_alias
    accessibility_tree := textOf page "accessibility_tree"
    text_excerpt := sanitizeText dev.isWord (textOf page "text_excerpt")
    screenshot_sha256 := none
    screenshot_media_type := none }

/-- `DevOnlyBrowserBackend.navigate`. -/
def navigate (url_alias url : String) : Mutation Exn Pages BackendActResult := do
  write fun pages => pages.set url_alias (openedPage url_alias url)
  return acted "navigated" (← dev.observe url_alias)

/-- `DevOnlyBrowserBackend.click`. -/
def click (url_alias selector : String) : Mutation Exn Pages BackendActResult := do
  let _ ← requirePage url_alias
  setText url_alias "text_excerpt" s!"clicked:{selector}"
  return acted s!"clicked:{selector}" (← dev.observe url_alias)

/-- `DevOnlyBrowserBackend.type_text`: the page is looked up before the text is refused. -/
def typeText (url_alias selector text : String) : Mutation Exn Pages BackendActResult := do
  let _ ← requirePage url_alias
  refuseSecret text
  setText url_alias "text_excerpt" s!"typed:{selector}"
  return acted s!"typed:{selector}" (← dev.observe url_alias)

/-- `DevOnlyBrowserBackend.submit`. -/
def submit (url_alias selector : String) : Mutation Exn Pages BackendActResult := do
  let _ ← requirePage url_alias
  setText url_alias "text_excerpt" s!"submitted:{selector}"
  return acted s!"submitted:{selector}" (← dev.observe url_alias)

/-- The backend. -/
def backend : ComputerBackend Pages where
  observe := dev.observe
  navigate := dev.navigate
  click := dev.click
  typeText := dev.typeText
  submit := dev.submit
  dev_only := true

end DevOnlyBrowserBackend

/-! ## Section 5: A driven browser -/

/-- The browser that Playwright drives: a page for each alias that was navigated to. -/
structure PlaywrightDriver (S : Type) where
  isOpen : S → String → Bool
  newPage (url_alias : String) : Mutation Exn S Unit
  goto (url_alias url : String) : Mutation Exn S Unit
  innerText (url_alias : String) : Mutation Exn S String
  screenshot (url_alias : String) : Mutation Exn S ByteArray
  title (url_alias : String) : Mutation Exn S String
  clickFirst (url_alias selector : String) : Mutation Exn S Unit
  fillFirst (url_alias selector text : String) : Mutation Exn S Unit

/-- `PlaywrightBrowserEngine`. -/
structure PlaywrightBrowserEngine (S : Type) where
  driver : PlaywrightDriver S
  isWord : Char → Bool

namespace PlaywrightBrowserEngine

variable {S : Type} (playwright : PlaywrightBrowserEngine S)

/-- `_require_page`. -/
def requireOpen (url_alias : String) : Mutation Exn S Unit := do
  if ← read fun s => playwright.driver.isOpen s url_alias then pure ()
  else raising (.error (noOpenPage url_alias))

/-- `text[:n]`. -/
def firstChars (n : Nat) (text : String) : String := String.ofList (text.toList.take n)

/-- `PlaywrightBrowserEngine.observe`. -/
def observe (url_alias : String) : Mutation Exn S BackendObservation := do
  playwright.requireOpen url_alias
  let tree ← playwright.driver.innerText url_alias
  let png ← playwright.driver.screenshot url_alias
  let title ← playwright.driver.title url_alias
  return {
    title := title
    url_alias := url_alias
    accessibility_tree := sanitizeText playwright.isWord (firstChars 8000 tree)
    text_excerpt := sanitizeText playwright.isWord (firstChars 2000 tree)
    screenshot_sha256 := some (screenshotDigest png)
    screenshot_media_type := some "image/png" }

/-- `_page_for`. -/
def pageFor (url_alias : String) : Mutation Exn S Unit := do
  if ← read fun s => playwright.driver.isOpen s url_alias then pure ()
  else playwright.driver.newPage url_alias

/-- `PlaywrightBrowserEngine.navigate`. -/
def navigate (url_alias url : String) : Mutation Exn S BackendActResult := do
  playwright.pageFor url_alias
  playwright.driver.goto url_alias url
  return acted "navigated" (← playwright.observe url_alias)

/-- `PlaywrightBrowserEngine.click`. -/
def click (url_alias selector : String) : Mutation Exn S BackendActResult := do
  playwright.requireOpen url_alias
  playwright.driver.clickFirst url_alias selector
  return acted s!"clicked:{selector}" (← playwright.observe url_alias)

/-- `PlaywrightBrowserEngine.type_text`. -/
def typeText (url_alias selector text : String) : Mutation Exn S BackendActResult := do
  refuseSecret text
  playwright.requireOpen url_alias
  playwright.driver.fillFirst url_alias selector text
  return acted s!"typed:{selector}" (← playwright.observe url_alias)

/-- `PlaywrightBrowserEngine.submit`. -/
def submit (url_alias selector : String) : Mutation Exn S BackendActResult := do
  playwright.requireOpen url_alias
  playwright.driver.clickFirst url_alias selector
  return acted s!"submitted:{selector}" (← playwright.observe url_alias)

/-- The calls of the engine. -/
def engine : BrowserEngine S where
  observe := playwright.observe
  navigate := playwright.navigate
  click := playwright.click
  typeText := playwright.typeText
  submit := playwright.submit

end PlaywrightBrowserEngine

/-! ## Section 6: What is shown is redacted -/

/-- No marker of a secret in the texts of a page. -/
structure Redacted (o : BackendObservation) : Prop where
  tree : looksLikeSecret o.accessibility_tree.toList = false
  excerpt : looksLikeSecret o.text_excerpt.toList = false

/-- The observation of a result is redacted, if there is one. -/
def BackendActResult.Redacted (r : BackendActResult) : Prop :=
  ∀ o, r.observation = some o → ComputerUse.Redacted o

/-- The observation of an answer is redacted, if there is one. -/
def ComputerAnswer.Redacted (answer : ComputerAnswer) : Prop :=
  ∀ o, answer.observation? = some o → ComputerUse.Redacted o

/-- An engine that only gives redacted answers, from any state. -/
structure Redacting {S : Type} (engine : BrowserEngine S) : Prop where
  observes : ∀ url_alias, Mutation.Yields Redacted (engine.observe url_alias)
  navigates : ∀ url_alias url,
    Mutation.Yields BackendActResult.Redacted (engine.navigate url_alias url)
  clicks : ∀ url_alias selector,
    Mutation.Yields BackendActResult.Redacted (engine.click url_alias selector)
  types : ∀ url_alias selector text,
    Mutation.Yields BackendActResult.Redacted (engine.typeText url_alias selector text)
  submits : ∀ url_alias selector,
    Mutation.Yields BackendActResult.Redacted (engine.submit url_alias selector)

theorem looksLikeSecret_sanitizeText (isWord : Char → Bool) (text : String) :
    looksLikeSecret (sanitizeText isWord text).toList = false := by
  unfold sanitizeText
  rw [String.toList_ofList]
  exact looksLikeSecret_sanitizeExcerpt text.toList

section redacting
variable {S : Type}

theorem yields_acted {m : Mutation Exn S BackendObservation} (h : Mutation.Yields Redacted m)
    (detail : String) :
    Mutation.Yields BackendActResult.Redacted (do return acted detail (← m)) := by
  refine h.bind ?_
  intro o ho
  apply Mutation.yields_pure
  intro shown hshown
  obtain rfl := Option.some.inj hshown
  exact ho

/-- **Every call**: what the engine gives, its calls give. -/
theorem Redacting.perform {engine : BrowserEngine S} (h : Redacting engine) (call : ComputerCall) :
    Mutation.Yields ComputerAnswer.Redacted (engine.perform call) := by
  have hacted : ∀ {m : Mutation Exn S BackendActResult},
      Mutation.Yields BackendActResult.Redacted m →
      Mutation.Yields ComputerAnswer.Redacted (do return .acted (← m)) :=
    fun hm => hm.bind fun r hr => Mutation.yields_pure hr
  cases call with
  | observe url_alias =>
    refine (h.observes url_alias).bind ?_
    intro o ho
    apply Mutation.yields_pure
    intro shown hshown
    obtain rfl := Option.some.inj hshown
    exact ho
  | navigate url_alias url => exact hacted (h.navigates url_alias url)
  | click url_alias selector => exact hacted (h.clicks url_alias selector)
  | typeText url_alias selector text => exact hacted (h.types url_alias selector text)
  | submit url_alias selector => exact hacted (h.submits url_alias selector)

/-- An engine all of whose calls give redacted answers. -/
theorem Redacting.of_perform {engine : BrowserEngine S}
    (h : ∀ call, Mutation.Yields ComputerAnswer.Redacted (engine.perform call)) :
    Redacting engine := by
  -- What a method gives, its call gives.
  have hcall : ∀ {α : Type} {m : Mutation Exn S α} {wrap : α → ComputerAnswer},
      Mutation.Yields ComputerAnswer.Redacted (do return wrap (← m)) →
      Mutation.Yields (fun a => (wrap a).Redacted) m := by
    intro α m wrap hm s a ha
    apply hm s (wrap a)
    rw [Mutation.exec_bind_pure, ha]
    rfl
  constructor
  · intro url_alias s o ho
    exact hcall (h (.observe url_alias)) s o ho o rfl
  · exact fun url_alias url => hcall (h (.navigate url_alias url))
  · exact fun url_alias selector => hcall (h (.click url_alias selector))
  · exact fun url_alias selector text => hcall (h (.typeText url_alias selector text))
  · exact fun url_alias selector => hcall (h (.submit url_alias selector))

theorem StubBrowserEngine.redacting (stub : StubBrowserEngine) : Redacting stub.engine := by
  have hobserve : ∀ url_alias, Mutation.Yields Redacted (stub.observe url_alias) := by
    intro url_alias
    refine Mutation.yields_bind fun page => Mutation.yields_pure ?_
    exact ⟨looksLikeSecret_sanitizeText _ _, looksLikeSecret_sanitizeText _ _⟩
  constructor
  · exact hobserve
  · exact fun url_alias url => Mutation.yields_bind fun _ => yields_acted (hobserve url_alias) _
  · exact fun url_alias selector =>
      Mutation.yields_bind fun _ => Mutation.yields_bind fun _ => Mutation.yields_bind fun _ =>
        yields_acted (hobserve url_alias) _
  · exact fun url_alias selector text =>
      Mutation.yields_bind fun _ => Mutation.yields_bind fun _ => Mutation.yields_bind fun _ =>
        yields_acted (hobserve url_alias) _
  · exact fun url_alias selector =>
      Mutation.yields_bind fun _ => Mutation.yields_bind fun _ =>
        yields_acted (hobserve url_alias) _

theorem PlaywrightBrowserEngine.redacting (playwright : PlaywrightBrowserEngine S) :
    Redacting playwright.engine := by
  have hobserve : ∀ url_alias, Mutation.Yields Redacted (playwright.observe url_alias) := by
    intro url_alias
    refine Mutation.yields_bind fun _ => Mutation.yields_bind fun tree =>
      Mutation.yields_bind fun png => Mutation.yields_bind fun title => Mutation.yields_pure ?_
    exact ⟨looksLikeSecret_sanitizeText _ _, looksLikeSecret_sanitizeText _ _⟩
  constructor
  · exact hobserve
  · exact fun url_alias url =>
      Mutation.yields_bind fun _ => Mutation.yields_bind fun _ =>
        yields_acted (hobserve url_alias) _
  · exact fun url_alias selector =>
      Mutation.yields_bind fun _ => Mutation.yields_bind fun _ =>
        yields_acted (hobserve url_alias) _
  · exact fun url_alias selector text =>
      Mutation.yields_bind fun _ => Mutation.yields_bind fun _ => Mutation.yields_bind fun _ =>
        yields_acted (hobserve url_alias) _
  · exact fun url_alias selector =>
      Mutation.yields_bind fun _ => Mutation.yields_bind fun _ =>
        yields_acted (hobserve url_alias) _

end redacting

end CBrain.ComputerUse

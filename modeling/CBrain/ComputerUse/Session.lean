import CBrain.ComputerUse.Worker
import CBrain.Framework.Pool
import CBrain.Runtime

/-! # Computer use under the governed runtime

    Models `cbrain/computer_use/catalog.py` and `session.py`.  The model names a
    page by its alias, and the operator's catalog holds the URL.

    What `urlparse` makes of a URL is a parameter, and so is how the runtime
    sees the mapping that a handler returns.

    * `ComputerAct.call` : the call that an act makes of the backend.
    * `Step`             : an observation or an act, under any gateway.
    * `History`          : steps one after the other, and `calls` what they
      made of the backend. -/

namespace CBrain.ComputerUse

open Effect
open Json (Dict)
open Mutation (raising write read exec)
open Simulators (sortedValues)

/-! ## Section 1: The catalog -/

/-- `PageCatalogError`. -/
def pageCatalogError (message : String) : Exn :=
  ⟨.other, "PageCatalogError", [.text message]⟩

/-- What is looked at of a parsed URL. -/
structure ParsedUrl where
  scheme : String
  hostname : Option String

/-- `urllib.parse.urlparse`. -/
abbrev UrlParser : Type := String → Raises ParsedUrl

/-- `_require_https_or_loopback`. -/
def requireHttpsOrLoopback (urlparse : UrlParser) (url : String) : Raises Unit := do
  require (nonBlank url = true) (pageCatalogError "url must be non-empty")
  let parsed ← urlparse url
  require (parsed.scheme = "https" ∨
      parsed.scheme = "http" ∧ parsed.hostname ∈ [some "localhost", some "127.0.0.1"])
    (pageCatalogError ("page URL must be https " ++
      "(or http://localhost / http://127.0.0.1 for dev)"))

/-- `PageAlias`: `page_alias` is its `alias`. -/
structure PageAlias (urlparse : UrlParser) where
  page_alias : String
  url : String
  capability : String
  description : String
  alias_text : nonBlank page_alias = true
  capability_text : nonBlank capability = true
  description_text : nonBlank description = true
  url_allowed : requireHttpsOrLoopback urlparse url = .ok ()

variable {urlparse : UrlParser}

/-- The constructor with the checks of `__post_init__`, in their order. -/
def PageAlias.new (urlparse : UrlParser) (page_alias url capability description : String) :
    Raises (PageAlias urlparse) := do
  let ⟨h₁⟩ ← ensure (nonBlank page_alias = true) (pageCatalogError "alias must be non-empty")
  let ⟨h₂⟩ ← ensure (nonBlank capability = true) (pageCatalogError "capability must be non-empty")
  let ⟨h₃⟩ ← ensure (nonBlank description = true)
    (pageCatalogError "description must be non-empty")
  match h : requireHttpsOrLoopback urlparse url with
  | .ok () => return {
      page_alias, url, capability, description
      alias_text := h₁
      capability_text := h₂
      description_text := h₃
      url_allowed := h }
  | .error e => .error e

/-- `PageCatalog`: pages under their aliases. -/
abbrev PageCatalog (urlparse : UrlParser) : Type :=
  Registry String (PageAlias urlparse) PageAlias.page_alias

namespace PageCatalog

/-- `PageCatalog(pages)`. -/
def new (pages : List (PageAlias urlparse)) : Raises (PageCatalog urlparse) :=
  pages.foldlM (fun values page => do
    require (values.get? page.page_alias = none)
      (pageCatalogError s!"duplicate page alias {reprStr page.page_alias}")
    return values.put page) Registry.empty

/-- `resolve`. -/
def resolve (catalog : PageCatalog urlparse) (page_alias : String) :
    Raises (PageAlias urlparse) :=
  match catalog.get? page_alias with
  | some page => .ok page
  | none => .error (pageCatalogError s!"unknown page alias {reprStr page_alias}")

/-- What the model may see of a page. -/
def pageView (page : PageAlias urlparse) : Dict :=
  object
    [("alias", .str page.page_alias), ("capability", .str page.capability),
      ("description", .str page.description)]

/-- `model_view`. -/
def modelView (catalog : PageCatalog urlparse) : List Dict :=
  (sortedValues catalog).map pageView

end PageCatalog

/-! ## Section 2: Acts -/

/-- `ComputerUseError`. -/
def computerUseError (message : String) : Exn :=
  ⟨.other, "ComputerUseError", [.text message]⟩

/-- `ActKind`. -/
inductive ActKind where
  | navigate
  | click
  | type
  | submit
  deriving DecidableEq

/-- The text of a kind. -/
def ActKind.value : ActKind → String
  | .navigate => "navigate"
  | .click => "click"
  | .type => "type"
  | .submit => "submit"

/-- The kind with this text. -/
def ActKind.ofValue? (value : String) : Option ActKind :=
  [.navigate, .click, .type, .submit].find? fun kind => kind.value == value

/-- `ComputerAct`. -/
structure ComputerAct where
  kind : ActKind
  page_alias : String
  selector : Option String
  text : Option String
  alias_text : nonBlank page_alias = true
  selector_text : kind ≠ .navigate → nonBlank (selector.getD "") = true
  text_given : kind = .type → text.isSome = true
  navigate_bare : kind = .navigate → selector = none

namespace ComputerAct

/-- The constructor with the checks of `__post_init__`, in their order. -/
def new (kind page_alias : String) (selector text : Option String) : Raises ComputerAct := do
  match ActKind.ofValue? kind with
  | none => .error (computerUseError s!"unsupported act kind {reprStr kind}")
  | some kind => do
    let ⟨h₁⟩ ← ensure (nonBlank page_alias = true)
      (computerUseError "page_alias must be non-empty")
    let ⟨h₂⟩ ← ensure (kind ≠ .navigate → nonBlank (selector.getD "") = true)
      (computerUseError s!"{kind.value} requires a non-empty selector")
    let ⟨h₃⟩ ← ensure (kind = .type → text.isSome = true) (computerUseError "type requires text")
    let ⟨h₄⟩ ← ensure (kind = .navigate → selector = none)
      (computerUseError "navigate does not take a selector")
    return {
      kind, page_alias, selector, text
      alias_text := h₁
      selector_text := h₂
      text_given := h₃
      navigate_bare := h₄ }

variable (act : ComputerAct)

/-- `_act_arguments`. -/
def arguments (page_alias : String) : Dict :=
  object ([("kind", .str act.kind.value), ("page_alias", .str page_alias)] ++
    optMember "selector" act.selector ++
    (if act.kind = .type then optMember "text" act.text else []))

/-- The call that the act makes, where the page has this URL. -/
def call (resolved_url : String) : ComputerCall :=
  match act.kind with
  | .navigate => .navigate act.page_alias resolved_url
  | .click => .click act.page_alias (act.selector.getD "")
  | .type => .typeText act.page_alias (act.selector.getD "") (act.text.getD "")
  | .submit => .submit act.page_alias (act.selector.getD "")

end ComputerAct

/-- `ComputerObservation`. -/
structure ComputerObservation where
  url_alias : String
  title : String
  accessibility_tree : String
  text_excerpt : String
  screenshot_sha256 : Option String
  screenshot_media_type : Option String

/-- `to_model_payload`. -/
def ComputerObservation.toModelPayload (o : ComputerObservation) : Dict :=
  object ([("url_alias", .str o.url_alias), ("title", .str o.title),
    ("accessibility_tree", .str o.accessibility_tree), ("text_excerpt", .str o.text_excerpt)] ++
    optMember "screenshot_sha256" o.screenshot_sha256 ++
    optMember "screenshot_media_type" o.screenshot_media_type)

/-- `_to_observation`. -/
def toObservation (raw : BackendObservation) : ComputerObservation where
  url_alias := raw.url_alias
  title := raw.title
  accessibility_tree := raw.accessibility_tree
  text_excerpt := raw.text_excerpt
  screenshot_sha256 := raw.screenshot_sha256
  screenshot_media_type := raw.screenshot_media_type

/-- What a handler returns of a result. -/
def actResultPayload (result : BackendActResult) : Dict :=
  object
    [("ok", ⟨.bool result.ok, result.wf_ok⟩), ("detail", .str result.detail),
      ("observation", .dict (match result.observation with
        | some o => (toObservation o).toModelPayload
        | none => object []))]

/-- The page that a call names. -/
def ComputerCall.url_alias : ComputerCall → String
  | .observe url_alias => url_alias
  | .navigate url_alias _ => url_alias
  | .click url_alias _ => url_alias
  | .typeText url_alias _ _ => url_alias
  | .submit url_alias _ => url_alias

/-- The URL that a call goes to, if it goes to one. -/
def ComputerCall.url? : ComputerCall → Option String
  | .navigate _ url => some url
  | _ => none

section session
variable {E : Sig} {S : Type}

/-- What the backend makes of an act. -/
def backendResult (backend : ComputerBackend S) (act : ComputerAct) (resolved_url : String) :
    Mutation Exn S BackendActResult :=
  match act.kind with
  | .navigate => backend.navigate act.page_alias resolved_url
  | .click => backend.click act.page_alias (act.selector.getD "")
  | .type => backend.typeText act.page_alias (act.selector.getD "") (act.text.getD "")
  | .submit => backend.submit act.page_alias (act.selector.getD "")

/-- `_run_backend_act`.  The assertions of the source hold of every act. -/
def runBackendAct (backend : ComputerBackend S) (act : ComputerAct) (resolved_url : String) :
    Mutation Exn S Dict := do
  return actResultPayload (← backendResult backend act resolved_url)

/-- `except ComputerBackendError as exc: raise ComputerUseError(str(exc)) from exc`. -/
def asUseError {α : Type} (m : Mutation Exn S α) : Mutation Exn S α := ExceptT.mk fun s =>
  match exec m s with
  | (.ok a, s') => (.ok a, s')
  | (.error e, s') => (.error (if isBackendError e then computerUseError e.str else e), s')

theorem exec_asUseError {α : Type} (m : Mutation Exn S α) (s : S) :
    exec (asUseError m) s =
      ((exec m s).1.mapError fun e => if isBackendError e then computerUseError e.str else e,
        (exec m s).2) := by
  have hrun : exec m s = ((exec m s).1, (exec m s).2) := rfl
  cases hr : (exec m s).1 <;> rw [hr] at hrun
  all_goals
    simp only [asUseError, exec, ExceptT.run_mk, StateT.run] at hrun ⊢
    rw [hrun]
    rfl

theorem state_asUseError {α : Type} (m : Mutation Exn S α) (s : S) :
    (exec (asUseError m) s).2 = (exec m s).2 := by
  rw [exec_asUseError]

/-! ## Section 3: The session -/

/-- What an act takes from outside: the request id, a fresh UUID and the time. -/
structure ActStamp where
  request_id : String
  uuid : String
  time : Timestamp

/-- `GovernedComputerSession`, with the gateway of its runtime. -/
structure GovernedComputerSession (urlparse : UrlParser) (E : Sig) (S : Type) where
  agent_id : String
  gateway : PrivateVaultGateway E
  catalog : PageCatalog urlparse
  backend : ComputerBackend S
  /-- The mapping that a handler returns, as a value. -/
  proxied : Dict → PyVal
  agent_id_text : nonBlank agent_id = true

namespace GovernedComputerSession

/-- `FRAMEWORK`. -/
def FRAMEWORK : String := "cbrain.computer_use"

variable (session : GovernedComputerSession urlparse E S)

/-- `observe`. -/
def observe (page_alias : String) : Mutation Exn S ComputerObservation :=
  match session.catalog.get? page_alias with
  | none => raising (.error (pageCatalogError s!"unknown page alias {reprStr page_alias}"))
  | some _ => do return toObservation (← asUseError (session.backend.observe page_alias))

/-- The action that `act` hands to the runtime. -/
def action (act : ComputerAct) (stamp : ActStamp) : Raises ActionIntent := do
  let page ← PageCatalog.resolve session.catalog act.page_alias
  ActionIntent.capture session.agent_id FRAMEWORK s!"computer.{act.kind.value}" page.capability
    (act.arguments page.page_alias)
    (object [("page_alias", .str page.page_alias), ("act_kind", .str act.kind.value)]) (object [])
    stamp.request_id s!"computer:{act.kind.value}:{page.page_alias}:{stamp.uuid}" stamp.time

/-- `handler`, the closure of `act`: what it is called with does not matter. -/
def handler (act : ComputerAct) (page : PageAlias urlparse) : Mutation Exn S PyVal := do
  return session.proxied (← runBackendAct session.backend act page.url)

/-- The operations of the runtime: the handler runs on the backend, and the ports of the gateway
    leave the backend alone. -/
def answering (act : ComputerAct) (page : PageAlias urlparse) : Answering (WithHandler E) S :=
  fun s o =>
    match o with
    | .handler _ => fun answer s' => (answer, s') = exec (session.handler act page) s
    | .port _ => fun _ s' => s' = s

end GovernedComputerSession

/-! ## Section 4: Histories of a session -/

/-- What happened in a step. -/
inductive SessionEvent (E : Sig) where
  | observed (page_alias : String) (answer : Raises ComputerObservation)
  /-- No action was made of the act. -/
  | refused (act : ComputerAct) (e : Exn)
  | acted (act : ComputerAct) (action : ActionIntent) (log : List (WithHandler E).Event)
      (result : GovernedExecution)

namespace GovernedComputerSession

variable (session : GovernedComputerSession urlparse E S)

/-- An observation, or an act, under any behaviour of the gateway. -/
inductive Step : S → SessionEvent E → S → Prop where
  | observed {s s' : S} {page_alias : String} {answer : Raises ComputerObservation}
      (h : exec (session.observe page_alias) s = (answer, s')) :
      Step s (.observed page_alias answer) s'
  | refused {s : S} {act : ComputerAct} {stamp : ActStamp} {e : Exn}
      (h : session.action act stamp = .error e) : Step s (.refused act e) s
  | acted {s s' : S} {act : ComputerAct} {stamp : ActStamp} {action : ActionIntent}
      {page : PageAlias urlparse} {log : List (WithHandler E).Event} {result : GovernedExecution}
      (haction : session.action act stamp = .ok action)
      (hpage : session.catalog.get? act.page_alias = some page)
      (hrun : Prog.Run (execute session.gateway action) log result)
      (hanswered : Config.Answered (session.answering act page) s log s') :
      Step s (.acted act action log result) s'

/-- Steps one after the other. -/
inductive History : S → List (SessionEvent E) → S → Prop where
  | nil (s : S) : History s [] s
  | cons {s s' s'' : S} {event : SessionEvent E} {events : List (SessionEvent E)} :
      session.Step s event s' → History s' events s'' → History s (event :: events) s''

/-- The calls of the backend in a step. -/
def calls : SessionEvent E → List ComputerCall
  | .observed page_alias _ =>
    if (session.catalog.get? page_alias).isSome then [.observe page_alias] else []
  | .refused _ _ => []
  | .acted act _ log _ =>
    match session.catalog.get? act.page_alias with
    | some page => List.replicate (handlerEntries log) (act.call page.url)
    | none => []

/-- **An act on a page of the catalog** always becomes an action. -/
theorem action_of_page (act : ComputerAct) (stamp : ActStamp) {page : PageAlias urlparse}
    (hpage : session.catalog.get? act.page_alias = some page)
    (hid : nonBlank stamp.request_id = true) : ∃ action, session.action act stamp = .ok action := by
  have hsnapshot : ∀ {ms : List (String × Value)} {path : String},
      (∀ m ∈ ms, Json.finite m.2.1 = true) →
      snapshotObject (object ms) path = .ok (Snapshot.ofDict (object ms)) :=
    fun h => snapshotObject_ok.mpr ⟨finite_object h, rfl⟩
  have harguments : snapshotObject (act.arguments page.page_alias) "arguments" =
      .ok (Snapshot.ofDict (act.arguments page.page_alias)) := by
    apply hsnapshot
    cases act.kind <;> cases act.selector <;> cases act.text <;> simp [optMember]
  have htool : nonBlank s!"computer.{act.kind.value}" = true :=
    nonBlank_append_left _ (by decide)
  have hkey : nonBlank s!"computer:{act.kind.value}:{page.page_alias}:{stamp.uuid}" = true :=
    nonBlank_append_left _ (nonBlank_append_left _ (nonBlank_append_left _
      (nonBlank_append_left _ (nonBlank_append_left _ (by decide)))))
  have hkey' : nonBlank (if s!"computer:{act.kind.value}:{page.page_alias}:{stamp.uuid}" = "" then
      stamp.request_id else s!"computer:{act.kind.value}:{page.page_alias}:{stamp.uuid}") = true := by
    split_ifs
    · exact hid
    · exact hkey
  unfold action PageCatalog.resolve
  rw [hpage, ok_bind]
  unfold ActionIntent.capture
  rw [harguments, hsnapshot (by simp), hsnapshot (by simp), ok_bind, ok_bind, ok_bind]
  have hframework : nonBlank FRAMEWORK = true := by decide
  simp only [ActionIntent.new, ensure_bind_pos hid, ensure_bind_pos hkey',
    ensure_bind_pos session.agent_id_text, ensure_bind_pos hframework, ensure_bind_pos htool,
    ensure_bind_pos page.capability_text]
  exact ⟨_, rfl⟩

/-- What a step says of itself is so. -/
def Truthful : SessionEvent E → Prop
  | .acted _ action log result =>
    handlerEntries log ≤ 1 ∧ result.request_id = action.request_id ∧
      (result.status.notExecuted = true → handlerEntries log = 0) ∧
      (result.status = .executed →
        handlerEntries log = if session.gateway.independent_execution then 0 else 1)
  | _ => True

/-- The handler does to the backend what the call of its act does. -/
theorem state_handler (act : ComputerAct) (page : PageAlias urlparse) (s : S) :
    (exec (session.handler act page) s).2 =
      (session.backend.toBrowserEngine.serve (act.call page.url) s).2 := by
  unfold handler runBackendAct backendResult BrowserEngine.serve ComputerAct.call
  rw [Mutation.exec_bind_pure, Mutation.exec_bind_pure]
  cases act.kind <;> exact (congrArg Prod.snd (Mutation.exec_bind_pure _ _ s)).symm

/-- The backend sees one call for each time that the handler is entered. -/
theorem state_answered {act : ComputerAct} {page : PageAlias urlparse} {s s' : S}
    {log : List (WithHandler E).Event}
    (h : Config.Answered (session.answering act page) s log s') :
    s' = (LossyCalls.run session.backend.toBrowserEngine.serve
      (List.replicate (handlerEntries log) (act.call page.url)) s).2 := by
  induction h with
  | nil s => rfl
  | @cons s s' s'' o answer log hfirst _ ih =>
    cases o with
    | handler arguments =>
      have hs' : s' = (session.backend.toBrowserEngine.serve (act.call page.url) s).2 := by
        rw [← session.state_handler]
        exact congrArg Prod.snd hfirst
      show s'' = (LossyCalls.run _ (List.replicate (handlerEntries log + 1) _) s).2
      rw [ih, hs', List.replicate_succ]
      rfl
    | port o =>
      obtain rfl : s' = s := hfirst
      exact ih

/-- **One step**: the backend ends where the calls of the step lead. -/
theorem Step.sound {s s' : S} {event : SessionEvent E} (h : session.Step s event s') :
    s' = (LossyCalls.run session.backend.toBrowserEngine.serve (session.calls event) s).2 ∧
      session.Truthful event := by
  cases h with
  | @observed _ page_alias answer h =>
    refine ⟨?_, trivial⟩
    have hs' : (exec (session.observe page_alias) s).2 = s' := congrArg Prod.snd h
    have hcalls : session.calls (.observed page_alias answer) =
        if (session.catalog.get? page_alias).isSome then [.observe page_alias] else [] := rfl
    rw [← hs', hcalls]
    unfold observe
    cases hpage : session.catalog.get? page_alias with
    | none => rfl
    | some page =>
      rw [Mutation.exec_bind_pure, state_asUseError]
      exact (congrArg Prod.snd (Mutation.exec_bind_pure (session.backend.observe page_alias)
        ComputerAnswer.observed s)).symm
  | refused h => exact ⟨rfl, trivial⟩
  | @acted _ act stamp action page log result haction hpage hrun hanswered =>
    refine ⟨?_, ?_⟩
    · unfold calls
      simp only [hpage]
      exact session.state_answered hanswered
    · obtain ⟨outcome, n, hgateway, rfl⟩ := run_execute.mp hrun
      have hentries : handlerEntries log = min n 1 := entries_invokeOnce hgateway
      refine ⟨by omega, classify_request_id _ _ _ _, ?_, ?_⟩
      · intro hnot
        have hn := classify_notExecuted hnot
        omega
      · intro hexecuted
        have hn := classify_executed hexecuted
        rw [hentries, hn]
        split <;> rfl

theorem url_alias_call (act : ComputerAct) (url : String) :
    (act.call url).url_alias = act.page_alias := by
  unfold ComputerAct.call
  cases act.kind <;> rfl

theorem url?_call {act : ComputerAct} {url url' : String} (h : (act.call url).url? = some url') :
    url' = url := by
  unfold ComputerAct.call at h
  cases hkind : act.kind <;> rw [hkind] at h
  · exact (Option.some.inj h).symm
  all_goals cases h

/-- The call names a page of the catalog, and if it goes to a URL, it is that page's. -/
def Confined (call : ComputerCall) : Prop :=
  ∃ page, session.catalog.get? call.url_alias = some page ∧
    ∀ url, call.url? = some url → url = page.url

theorem confined_calls {event : SessionEvent E} {call : ComputerCall}
    (h : call ∈ session.calls event) : session.Confined call := by
  cases event with
  | observed page_alias answer =>
    unfold calls at h
    simp only at h
    split_ifs at h with hpage
    · obtain rfl := List.mem_singleton.mp h
      obtain ⟨page, hpage⟩ := Option.isSome_iff_exists.mp hpage
      exact ⟨page, hpage, fun url hurl => (Option.some_ne_none url hurl.symm).elim⟩
    · cases h
  | refused act e => cases h
  | acted act action log result =>
    unfold calls at h
    simp only at h
    split at h
    · next page hpage =>
      obtain rfl := List.eq_of_mem_replicate h
      refine ⟨page, ?_, fun url => url?_call⟩
      rw [url_alias_call, hpage]
    · cases h

/-- **Governed computer use**: in any history, under any gateway, the backend has seen exactly the
    observations and the acts whose handler was entered, each once; an act that is said not to
    have been executed has made no call, and one that is said to have been executed has made one,
    if the gateway does not execute by itself.  Only pages of the catalog are named, and they are
    opened only at the operator's URL. -/
theorem history_sound {s s' : S} {events : List (SessionEvent E)}
    (h : session.History s events s') :
    s' = (LossyCalls.run session.backend.toBrowserEngine.serve
        (events.flatMap session.calls) s).2 ∧
      (∀ event ∈ events, session.Truthful event) ∧
      ∀ call ∈ events.flatMap session.calls, session.Confined call := by
  refine ⟨?_, ?_, ?_⟩
  · induction h with
    | nil s => rfl
    | cons hstep _ ih =>
      rw [List.flatMap_cons, LossyCalls.state_run_append, ← (hstep.sound).1]
      exact ih
  · induction h with
    | nil s =>
      intro event hevent
      cases hevent
    | cons hstep _ ih =>
      intro event hevent
      rcases List.mem_cons.mp hevent with rfl | hevent
      · exact hstep.sound.2
      · exact ih event hevent
  · intro call hcall
    obtain ⟨event, -, hmem⟩ := List.mem_flatMap.mp hcall
    exact session.confined_calls hmem

end GovernedComputerSession

end session

/-! ## Section 5: A checked run -/

/-- A parser that takes every URL for an `https` one. -/
def secureUrls : UrlParser := fun _ => .ok ⟨"https", none⟩

theorem nonBlank_crm : nonBlank "crm" = true := by decide

theorem nonBlank_crmView : nonBlank "crm.view" = true := by decide

theorem nonBlank_contacts : nonBlank "The contacts" = true := by decide

theorem contacts_allowed : requireHttpsOrLoopback secureUrls "https://crm.test/contacts" = .ok () := by
  decide

/-- A page of a customer database, at some URL. -/
def crmPage (url : String) (h : requireHttpsOrLoopback secureUrls url = .ok ()) :
    PageAlias secureUrls where
  page_alias := "crm"
  url := url
  capability := "crm.view"
  description := "The contacts"
  alias_text := nonBlank_crm
  capability_text := nonBlank_crmView
  description_text := nonBlank_contacts
  url_allowed := h

/-- The catalog of that page. -/
def crmCatalog (url : String) (h : requireHttpsOrLoopback secureUrls url = .ok ()) :
    PageCatalog secureUrls := Registry.empty.put (crmPage url h)

/-- A gateway without ports, over the page in memory. -/
def crmSession : GovernedComputerSession secureUrls ⟨Empty, Empty.elim⟩ Pages where
  agent_id := "crm"
  gateway := doubleCallGateway
  catalog := crmCatalog "https://crm.test/contacts" contacts_allowed
  backend := DevOnlyBrowserBackend.backend ⟨Char.isAlphanum⟩
  proxied := fun d => .foreign d.json
  agent_id_text := nonBlank_crm

theorem no_selector (h : ActKind.navigate ≠ .navigate) : nonBlank (Option.getD none "") = true :=
  absurd rfl h

theorem no_text (h : ActKind.navigate = .type) : (none : Option String).isSome = true := nomatch h

theorem bare_selector (_ : ActKind.navigate = .navigate) : (none : Option String) = none := rfl

/-- Open the page. -/
def openCrm : ComputerAct where
  kind := .navigate
  page_alias := "crm"
  selector := none
  text := none
  alias_text := nonBlank_crm
  selector_text := no_selector
  text_given := no_text
  navigate_bare := bare_selector

/-- The gateway calls the handler twice, and the page is opened once. -/
theorem history_sound_crm :
    ∃ event s', crmSession.History Table.empty [event] s' ∧
      crmSession.calls event = [.navigate "crm" "https://crm.test/contacts"] ∧
      s' = (LossyCalls.run crmSession.backend.toBrowserEngine.serve
        ([event].flatMap crmSession.calls) Table.empty).2 := by
  have hpage : crmSession.catalog.get? openCrm.page_alias =
      some (crmPage "https://crm.test/contacts" contacts_allowed) := by
    exact Registry.get?_put Registry.empty _ _
  obtain ⟨action, haction⟩ := crmSession.action_of_page openCrm
    ⟨"request-1", "uuid", .int 0⟩ hpage (by decide)
  have hgateway : Prog.Run (invokeOnce 0 (doubleCallGateway.decideAndExecute action)) _ (_, 2) :=
    Prog.Run.op (exec (crmSession.handler openCrm
      (crmPage "https://crm.test/contacts" contacts_allowed)) Table.empty).1 (Prog.Run.ret _)
  have hrun := run_execute.mpr ⟨_, _, hgateway, rfl⟩
  have hanswered : Config.Answered (crmSession.answering openCrm
        (crmPage "https://crm.test/contacts" contacts_allowed)) Table.empty
      [⟨.handler action.arguments, (exec (crmSession.handler openCrm
        (crmPage "https://crm.test/contacts" contacts_allowed)) Table.empty).1⟩]
      (exec (crmSession.handler openCrm
        (crmPage "https://crm.test/contacts" contacts_allowed)) Table.empty).2 :=
    Config.Answered.cons (show (_, _) = exec _ _ from rfl) (Config.Answered.nil _)
  have hstep := GovernedComputerSession.Step.acted haction hpage hrun hanswered
  have hhistory := GovernedComputerSession.History.cons hstep (.nil _)
  refine ⟨_, _, hhistory, ?_, (crmSession.history_sound hhistory).1⟩
  show (match crmSession.catalog.get? openCrm.page_alias with
    | some page => [openCrm.call page.url]
    | none => []) = _
  rw [hpage]
  rfl

end CBrain.ComputerUse

import CBrain.Framework.JsonRoundTrip

/-! # Contracts of the governed runtime

    Models `cbrain/contracts.py`: JSON snapshots, `ActionIntent` and
    `GovernedExecution`, with the checks of their `__post_init__` as fields,
    so that a value that fails them cannot be built.

    Text is Unicode text (`String`), so a lone surrogate has no counterpart.
    A mapping argument is a dictionary of JSON values (`Dict`); a value the
    JSON encoder refuses or changes only occurs as a tool's output (`PyVal`).
    Exceptions are the ones `except Exception` catches.
-/

namespace CBrain

open Json (Dict)

/-! ## Section 1: Exceptions -/

/-- The exception classes that some `except` clause or caller tells apart. -/
inductive ExnKind where
  | contractError
  | valueError
  | jsonDecodeError
  | unicodeDecodeError
  | typeError
  | keyError
  | runtimeError
  | dispatchPlanningError
  | simulatorPlanningError
  | simulatorContractError
  | privateVaultProtocolError
  | privateVaultBindingError
  | authorizationRefused
  | securityEventEvidenceError
  | privateVaultExecutionError
  | privateVaultEvidenceRejected
  | executionGatewayError
  | dispatchTransportError
  | handlerNotInvoked
  | sidecarError
  | sidecarProtocolError
  | modelError
  | modelContractError
  | modelResponseError
  | runStoreError
  | foundationAgentError
  | toolRegistryError
  | knowledgeError
  | approvalInboxError
  | insightsError
  | learningStoreError
  | personalizationError
  /-- Any other class. -/
  | other
  deriving DecidableEq, Repr

/-- The class name, as `type(exc).__name__` prints it. -/
def ExnKind.className : ExnKind → String
  | .contractError => "ContractError"
  | .valueError => "ValueError"
  | .jsonDecodeError => "JSONDecodeError"
  | .unicodeDecodeError => "UnicodeDecodeError"
  | .typeError => "TypeError"
  | .keyError => "KeyError"
  | .runtimeError => "RuntimeError"
  | .dispatchPlanningError => "DispatchPlanningError"
  | .simulatorPlanningError => "SimulatorPlanningError"
  | .simulatorContractError => "SimulatorContractError"
  | .privateVaultProtocolError => "PrivateVaultProtocolError"
  | .privateVaultBindingError => "PrivateVaultBindingError"
  | .authorizationRefused => "AuthorizationRefused"
  | .securityEventEvidenceError => "SecurityEventEvidenceError"
  | .privateVaultExecutionError => "PrivateVaultExecutionError"
  | .privateVaultEvidenceRejected => "PrivateVaultEvidenceRejected"
  | .executionGatewayError => "ExecutionGatewayError"
  | .dispatchTransportError => "DispatchTransportError"
  | .handlerNotInvoked => "HandlerNotInvoked"
  | .sidecarError => "SidecarError"
  | .sidecarProtocolError => "SidecarProtocolError"
  | .modelError => "ModelError"
  | .modelContractError => "ModelContractError"
  | .modelResponseError => "ModelResponseError"
  | .runStoreError => "RunStoreError"
  | .foundationAgentError => "FoundationAgentError"
  | .toolRegistryError => "ToolRegistryError"
  | .knowledgeError => "KnowledgeError"
  | .approvalInboxError => "ApprovalInboxError"
  | .insightsError => "InsightsError"
  | .learningStoreError => "LearningStoreError"
  | .personalizationError => "PersonalizationError"
  | .other => "Exception"

/-- A part of a message: literal text, or a value printed by `repr`. -/
inductive MsgPart where
  | text (s : String)
  | repr (j : Json)
  deriving DecidableEq

/-- A raised exception.  `name` is `type(exc).__name__`: a subclass of a
    listed class has that class's kind and its own name. -/
structure Exn where
  kind : ExnKind
  name : String
  message : List MsgPart
  deriving DecidableEq

/-- An exception the modelled code raises itself, with a message in parts. -/
def Exn.parts (k : ExnKind) (message : List MsgPart) : Exn := ⟨k, k.className, message⟩

/-- An exception the modelled code raises itself, with a plain message. -/
def Exn.of (k : ExnKind) (message : String) : Exn := Exn.parts k [.text message]

/-- One character inside Python quotes.  Characters outside ASCII are taken to
    be printable. -/
def reprChar (quote : Char) (c : Char) : List Char :=
  if c = quote ∨ c = '\\' then ['\\', c]
  else if c = '\n' then ['\\', 'n']
  else if c = '\r' then ['\\', 'r']
  else if c = '\t' then ['\\', 't']
  else if c.toNat < 32 ∨ c.toNat = 127 then
    '\\' :: 'x' :: [Nat.digitChar (c.toNat / 16), Nat.digitChar (c.toNat % 16)]
  else [c]

/-- `repr` of text. -/
def reprStr (s : String) : String :=
  let quote := if s.toList.contains '\'' && !s.toList.contains '"' then '"' else '\''
  String.ofList (quote :: s.toList.flatMap (reprChar quote) ++ [quote])

mutual

/-- `repr` of a JSON value. -/
def reprJson : Json → String
  | .null => "None"
  | .bool b => if b then "True" else "False"
  | .int i => String.ofList (Json.dumpsInt i)
  | .float x => String.ofList (Json.dumpsFloat x)
  | .str s => reprStr s
  | .arr xs => "[" ++ ", ".intercalate (reprElems xs) ++ "]"
  | .obj ms => "\x7b" ++ ", ".intercalate (reprMembers ms) ++ "\x7d"

def reprElems : List Json → List String
  | [] => []
  | x :: xs => reprJson x :: reprElems xs

def reprMembers : Json.Members → List String
  | [] => []
  | (k, x) :: xs => (reprStr k ++ ": " ++ reprJson x) :: reprMembers xs

end

/-- `str(exc)`. -/
def Exn.str (e : Exn) : String :=
  String.join (e.message.map fun
    | .text s => s
    | .repr j => reprJson j)

@[simp] theorem Exn.kind_parts (k : ExnKind) (m : List MsgPart) : (Exn.parts k m).kind = k := rfl
@[simp] theorem Exn.kind_of (k : ExnKind) (m : String) : (Exn.of k m).kind = k := rfl

/-- The subclasses of `ValueError` among the kinds. -/
def ExnKind.isValueError : ExnKind → Bool
  | .contractError | .valueError | .jsonDecodeError | .unicodeDecodeError | .runStoreError
  | .foundationAgentError | .toolRegistryError | .knowledgeError | .approvalInboxError
  | .insightsError | .learningStoreError | .personalizationError => true
  | _ => false

/-- The subclasses of `ModelError` among the kinds. -/
def ExnKind.isModelError : ExnKind → Bool
  | .modelError | .modelContractError | .modelResponseError => true
  | _ => false

/-- The result of code that may raise. -/
abbrev Raises (α : Type) : Type := Except Exn α

/-- Raise unless `c` holds; what follows may use that it does. -/
def ensure (c : Prop) [Decidable c] (e : Exn) : Raises (PLift c) :=
  if h : c then .ok ⟨h⟩ else .error e

/-- Raise unless `c` holds. -/
def require (c : Prop) [Decidable c] (e : Exn) : Raises Unit :=
  if c then .ok () else .error e

section raises
variable {α β : Type}

theorem bind_ok {x : Raises α} {f : α → Raises β} {b : β} :
    (x >>= f) = .ok b ↔ ∃ a, x = .ok a ∧ f a = .ok b := by
  cases x with
  | error e => simp [bind, Except.bind]
  | ok a => simp [bind, Except.bind]

theorem ok_bind (a : α) (f : α → Raises β) : ((.ok a : Raises α) >>= f) = f a := rfl

theorem bind_error {x : Raises α} {f : α → Raises β} {e : Exn} :
    (x >>= f) = .error e ↔ x = .error e ∨ ∃ a, x = .ok a ∧ f a = .error e := by
  cases x with
  | error e => simp [bind, Except.bind]
  | ok a => simp [bind, Except.bind]

theorem pure_ne_error {a : α} {e : Exn} : (pure a : Raises α) ≠ .error e := by
  simp [pure, Except.pure]

theorem unit_bind_ok {x : Raises Unit} {f : Unit → Raises β} {b : β} :
    (x >>= f) = .ok b ↔ x = .ok () ∧ f () = .ok b := by
  cases x with
  | error e => simp [bind, Except.bind]
  | ok a => simp [bind, Except.bind]

theorem map_ok {x : Raises α} {f : α → β} {b : β} :
    x.map f = .ok b ↔ ∃ a, x = .ok a ∧ f a = b := by
  cases x with
  | error e => simp [Except.map]
  | ok a => simp [Except.map]

theorem pure_ok {a b : α} : (pure a : Raises α) = .ok b ↔ a = b := by
  simp [pure, Except.pure]

/-- What every step of a loop keeps, the loop keeps. -/
theorem foldlM_keeps {f : β → α → Raises β} {P : β → Prop} {xs : List α}
    (step : ∀ x ∈ xs, ∀ acc next, f acc x = .ok next → P acc → P next) :
    ∀ {acc final : β}, xs.foldlM f acc = .ok final → P acc → P final := by
  induction xs with
  | nil =>
    intro acc final h hacc
    obtain rfl := pure_ok.mp h
    exact hacc
  | cons x xs ih =>
    intro acc final h hacc
    rw [List.foldlM_cons, bind_ok] at h
    obtain ⟨next, hnext, hrest⟩ := h
    have hkept : P next := step x List.mem_cons_self acc next hnext hacc
    exact ih (fun y hy => step y (List.mem_cons_of_mem x hy)) hrest hkept

theorem ensure_bind_ok {c : Prop} [Decidable c] {e : Exn} {f : PLift c → Raises β} {b : β} :
    (ensure c e >>= f) = .ok b ↔ ∃ h : c, f ⟨h⟩ = .ok b := by
  unfold ensure
  by_cases h : c
  · simp [h, bind, Except.bind]
  · simp [h, bind, Except.bind]

theorem ensure_bind_pos {c : Prop} [Decidable c] {e : Exn} {f : PLift c → Raises β} (h : c) :
    (ensure c e >>= f) = f ⟨h⟩ := by
  unfold ensure
  rw [dif_pos h]
  rfl

theorem require_ok {c : Prop} [Decidable c] {e : Exn} {u : Unit} :
    require c e = .ok u ↔ c := by
  unfold require
  by_cases h : c <;> simp [h]

theorem require_error {c : Prop} [Decidable c] {e e' : Exn} :
    require c e = .error e' ↔ ¬ c ∧ e = e' := by
  unfold require
  by_cases h : c <;> simp [h]

theorem require_bind_ok {c : Prop} [Decidable c] {e : Exn} {f : Unit → Raises β} {b : β} :
    (require c e >>= f) = .ok b ↔ c ∧ f () = .ok b := by
  rw [unit_bind_ok, require_ok]

theorem require_bind_pos {c : Prop} [Decidable c] {e : Exn} {f : Unit → Raises β} (h : c) :
    (require c e >>= f) = f () := by
  rw [require_ok.mpr h]
  rfl

theorem require_bind_neg {c : Prop} [Decidable c] {e : Exn} {f : Unit → Raises β} (h : ¬ c) :
    (require c e >>= f) = .error e := by
  unfold require
  rw [if_neg h]
  rfl

/-- A list is mapped when each of its elements is. -/
theorem mapM_ok {f : α → Raises β} {xs : List α} {ys : List β} :
    xs.mapM f = .ok ys ↔ List.Forall₂ (fun x y => f x = .ok y) xs ys := by
  induction xs generalizing ys with
  | nil =>
    rw [List.mapM_nil, pure_ok, List.forall₂_nil_left_iff, eq_comm]
  | cons x xs ih =>
    rw [List.mapM_cons, bind_ok, List.forall₂_cons_left_iff]
    constructor
    · rintro ⟨y, hy, hrest⟩
      obtain ⟨rest, hmap, heq⟩ := bind_ok.mp hrest
      exact ⟨y, rest, hy, ih.mp hmap, (pure_ok.mp heq).symm⟩
    · rintro ⟨y, rest, hy, hmap, heq⟩
      exact ⟨y, hy, bind_ok.mpr ⟨rest, ih.mpr hmap, pure_ok.mpr heq.symm⟩⟩

end raises

/-! ## Section 2: Text -/

/-- The characters `str.strip()` removes. -/
def isSpace (c : Char) : Bool :=
  let n := c.toNat
  (9 ≤ n && n ≤ 13) || (28 ≤ n && n ≤ 32) || n == 0x85 || n == 0xa0 || n == 0x1680 ||
    (0x2000 ≤ n && n ≤ 0x200a) || n == 0x2028 || n == 0x2029 || n == 0x202f || n == 0x205f ||
    n == 0x3000

/-- `bool(s.strip())`. -/
def nonBlank (s : String) : Bool := s.toList.any fun c => !isSpace c

theorem nonBlank_append_left {s : String} (t : String) (h : nonBlank s = true) :
    nonBlank (s ++ t) = true := by
  simp only [nonBlank, String.toList_append, List.any_append, Bool.or_eq_true] at h ⊢
  exact Or.inl h

theorem nonBlank_ne_empty {s : String} (h : nonBlank s = true) : s ≠ "" := by
  rintro rfl
  simp [nonBlank] at h

/-- `_required_text` on a value already known to be text. -/
def requiredText (value path : String) : Raises String :=
  if nonBlank value then .ok value
  else .error (Exn.of .contractError s!"{path} must be a non-empty string")

/-- The characters of a `sha256:` digest's hexadecimal part. -/
def isLowerHex (c : Char) : Bool := ('0' ≤ c && c ≤ '9') || ('a' ≤ c && c ≤ 'f')

/-- `re.fullmatch(r"[0-9a-f]{64}", value)`. -/
def isSha256Hex (value : String) : Bool :=
  value.toList.length == 64 && value.toList.all isLowerHex

/-- `re.fullmatch(r"sha256:[0-9a-f]{64}", value)`; `_require_digest` makes the
    same test with `startswith` and `removeprefix`. -/
def isSha256Digest (value : String) : Bool :=
  value.toList.take 7 == "sha256:".toList && (value.toList.drop 7).length == 64 &&
    (value.toList.drop 7).all isLowerHex

/-- A digest that is not there is none that fails. -/
theorem sha256Digest_none : ∀ d, (none : Option String) = some d → isSha256Digest d = true :=
  by simp

/-- Text that is not blank. -/
def isText (j : Json) : Bool :=
  match j with
  | .str s => nonBlank s
  | _ => false

/-- Text that is not empty. -/
def isNonEmptyText (j : Json) : Bool :=
  match j with
  | .str s => s != ""
  | _ => false

/-- A `sha256:` digest. -/
def isDigest (j : Json) : Bool :=
  match j with
  | .str s => isSha256Digest s
  | _ => false

theorem isNonEmptyText_of_isText {j : Json} (h : isText j = true) : isNonEmptyText j = true := by
  cases j with
  | str s => simpa [isNonEmptyText] using nonBlank_ne_empty h
  | _ => simp [isText] at h

/-- Raise at the first field that fails the test. -/
def requireEach (test : String → Bool) (err : String → Exn) : List String → Raises Unit
  | [] => .ok ()
  | f :: fs => if test f then requireEach test err fs else .error (err f)

theorem requireEach_ok {test : String → Bool} {err : String → Exn} {fields : List String}
    {u : Unit} : requireEach test err fields = .ok u ↔ ∀ f ∈ fields, test f = true := by
  induction fields with
  | nil => simp [requireEach]
  | cons f fs ih =>
    rw [requireEach]
    by_cases h : test f = true
    · simp [h, ih]
    · simp [h]

/-- `_required_text` on a member of an object: text that is not blank. -/
def requiredMember (e : Exn) (j : Json) : Raises String :=
  match j with
  | .str s => if nonBlank s then .ok s else .error e
  | _ => .error e

theorem requiredMember_ok {e : Exn} {j : Json} {s : String} :
    requiredMember e j = .ok s ↔ j = .str s ∧ nonBlank s = true := by
  cases j with
  | str t =>
    show (if nonBlank t = true then Except.ok t else Except.error e) = Except.ok s ↔ _
    by_cases h : nonBlank t = true
    · rw [if_pos h]
      constructor
      · intro heq
        obtain rfl := Except.ok.inj heq
        exact ⟨rfl, h⟩
      · rintro ⟨heq, -⟩
        rw [Json.str.inj heq]
    · rw [if_neg h]
      constructor
      · intro heq
        cases heq
      · rintro ⟨heq, ht⟩
        rw [Json.str.inj heq] at h
        exact absurd ht h
  | _ => simp [requiredMember]

theorem requiredMember_error {e e' : Exn} {j : Json} (h : requiredMember e j = .error e') :
    e' = e := by
  unfold requiredMember at h
  split at h
  · split at h
    · cases h
    · exact (Except.error.inj h).symm
  · exact (Except.error.inj h).symm

/-- The distinct texts of a list, sorted. -/
def sortedSet (xs : List String) : List String :=
  Json.keys (Json.dictOf (xs.map fun x => (x, .null)))

theorem mem_sortedSet {xs : List String} {x : String} : x ∈ sortedSet xs ↔ x ∈ xs := by
  unfold sortedSet
  constructor
  · intro h
    obtain ⟨row, hrow, rfl⟩ := List.mem_map.mp h
    have hwf : Json.WF (.obj (Json.dictOf (xs.map fun x => (x, .null)))) := by
      apply Json.wf_dictOf
      intro m hm
      obtain ⟨_, -, rfl⟩ := List.mem_map.mp hm
      exact Json.WF.null
    have hget := Json.get?_of_mem hwf hrow
    rw [Json.get?_dictOf] at hget
    obtain ⟨y, hy, hsame⟩ := List.mem_map.mp (List.mem_reverse.mp (Json.mem_of_get? hget))
    rw [← congrArg Prod.fst hsame]
    exact hy
  · intro h
    have hrow : (x, Json.null) ∈ (xs.map fun x => (x, Json.null)).reverse :=
      List.mem_reverse.mpr (List.mem_map.mpr ⟨x, h, rfl⟩)
    cases hget : Json.get? (Json.dictOf (xs.map fun x => (x, .null))) x with
    | none =>
      rw [Json.get?_dictOf, Json.get?, List.lookup_eq_none_iff] at hget
      simpa using hget _ hrow
    | some v => exact List.mem_map.mpr ⟨(x, v), Json.mem_of_get? hget, rfl⟩

/-- The list of texts as a value. -/
def textList (xs : List String) : Json := .arr (xs.map .str)

theorem wf_textList (xs : List String) : Json.WF (textList xs) := by
  apply Json.WF.arr
  intro x hx
  obtain ⟨s, -, rfl⟩ := List.mem_map.mp hx
  exact Json.WF.str s

/-! ## Section 3: JSON snapshots -/

mutual

/-- Only finite numbers, else the error for the path of the offender. -/
def validateFinite (err : String → Exn) (path : String) : Json → Raises Unit
  | .float (.finite _) => .ok ()
  | .float _ => .error (err path)
  | .arr xs => validateElems err (path ++ "[]") xs
  | .obj ms => validateMembers err (path ++ ".*") ms
  | _ => .ok ()

def validateElems (err : String → Exn) (path : String) : List Json → Raises Unit
  | [] => .ok ()
  | x :: xs => do validateFinite err path x; validateElems err path xs

def validateMembers (err : String → Exn) (path : String) : Json.Members → Raises Unit
  | [] => .ok ()
  | (_, x) :: xs => do validateFinite err path x; validateMembers err path xs

end

theorem validateElems_ok {err : String → Exn} {path : String} {xs : List Json}
    (h : ∀ x ∈ xs, ∀ p, validateFinite err p x = .ok () ↔ Json.finite x = true) :
    validateElems err path xs = .ok () ↔ Json.finiteElems xs = true := by
  induction xs with
  | nil => simp [validateElems, Json.finiteElems]
  | cons x xs ih =>
    rw [validateElems, Json.finiteElems, Bool.and_eq_true, unit_bind_ok, h x (by simp) path,
      ih fun y hy => h y (by simp [hy])]

theorem validateMembers_ok {err : String → Exn} {path : String} {ms : Json.Members}
    (h : ∀ m ∈ ms, ∀ p, validateFinite err p m.2 = .ok () ↔ Json.finite m.2 = true) :
    validateMembers err path ms = .ok () ↔ Json.finiteMembers ms = true := by
  induction ms with
  | nil => simp [validateMembers, Json.finiteMembers]
  | cons m ms ih =>
    rcases m with ⟨k, v⟩
    rw [validateMembers, Json.finiteMembers, Bool.and_eq_true, unit_bind_ok,
      h (k, v) (by simp) path, ih fun y hy => h y (by simp [hy])]

/-- Validation accepts exactly the finite values. -/
theorem validateFinite_ok (err : String → Exn) (path : String) (j : Json) :
    validateFinite err path j = .ok () ↔ Json.finite j = true := by
  induction j using Json.ind generalizing path with
  | null => simp [validateFinite, Json.finite]
  | bool b => simp [validateFinite, Json.finite]
  | int i => simp [validateFinite, Json.finite]
  | float x => cases x <;> simp [validateFinite, Json.finite]
  | str s => simp [validateFinite, Json.finite]
  | arr xs ih =>
    rw [validateFinite, Json.finite]
    exact validateElems_ok fun x hx p => ih x hx p
  | obj ms ih =>
    rw [validateFinite, Json.finite]
    exact validateMembers_ok fun m hm p => ih m hm p

/-- `_validate_json`. -/
def validateJson (value : Json) (path : String) : Raises Unit :=
  validateFinite
    (fun path => Exn.of .contractError s!"{path} must contain only finite JSON values") path value

/-- `_restore_object`: decode stored bytes into an object. -/
def restoreObject (b : ByteArray) : Raises Dict :=
  match h : Json.loadsBytes b with
  | none => .error (Exn.of .jsonDecodeError "")
  | some (.obj ms) => .ok ⟨ms, Json.wf_loadsBytes h⟩
  | some _ => .error (Exn.of .contractError "stored action value must be a JSON object")

/-- Bytes that decode to an object restore to it. -/
theorem restoreObject_of_loads {b : ByteArray} {d : Dict}
    (hload : Json.loadsBytes b = some d.json) : restoreObject b = .ok d := by
  unfold restoreObject
  split
  · next h => rw [hload] at h; cases h
  · next ms h =>
    rw [hload] at h
    have hms : d.members = ms := by simpa [Dict.json] using h
    subst hms
    rfl
  · next hobj h =>
    rw [hload] at h
    exact absurd (Option.some.inj h).symm (hobj d.members)

theorem restoreObject_canonical (d : Dict) :
    restoreObject (Json.canonical d.json) = .ok d :=
  restoreObject_of_loads (Json.loadsBytes_canonical d)

/-- Stored bytes that restore to an object. -/
structure Snapshot where
  bytes : ByteArray
  restores : ∃ d, restoreObject bytes = .ok d

/-- Bytes are compared as the language compares them. -/
instance (priority := high) decidableEqByteArray : DecidableEq ByteArray := ByteArray.instDecidableEq

namespace Snapshot

theorem ext {s t : Snapshot} (h : s.bytes = t.bytes) : s = t := by
  rcases s with ⟨_, _⟩
  rcases t with ⟨_, _⟩
  subst h
  rfl

instance : DecidableEq Snapshot := fun s t =>
  decidable_of_iff (s.bytes = t.bytes) ⟨ext, fun h => h ▸ rfl⟩

/-- The stored object. -/
def restore (s : Snapshot) : Dict :=
  match h : restoreObject s.bytes with
  | .ok d => d
  | .error e => False.elim (by obtain ⟨d, hd⟩ := s.restores; rw [hd] at h; cases h)

theorem restore_eq {s : Snapshot} {d : Dict} (h : restoreObject s.bytes = .ok d) :
    s.restore = d := by
  unfold restore
  split
  · next e he => rw [he] at h; exact Except.ok.inj h
  · next e he => rw [he] at h; cases h

/-- Canonical bytes of an object. -/
def ofDict (d : Dict) : Snapshot := ⟨Json.canonical d.json, d, restoreObject_canonical d⟩

@[simp] theorem restore_ofDict (d : Dict) : (ofDict d).restore = d :=
  restore_eq (restoreObject_canonical d)

/-- Bytes given by a caller. -/
def ofBytes (b : ByteArray) : Raises Snapshot :=
  match h : restoreObject b with
  | .ok d => .ok ⟨b, d, h⟩
  | .error e => .error e

end Snapshot

/-- `_snapshot_object`: canonical bytes of a finite object. -/
def snapshotObject (value : Dict) (path : String) : Raises Snapshot := do
  validateJson value.json path
  return Snapshot.ofDict value

/-- A snapshot is taken of finite objects only, and holds the object. -/
theorem snapshotObject_ok {value : Dict} {path : String} {s : Snapshot} :
    snapshotObject value path = .ok s ↔
      Json.finite value.json = true ∧ s = Snapshot.ofDict value := by
  unfold snapshotObject validateJson
  rw [unit_bind_ok, validateFinite_ok, pure_ok, @eq_comm _ s]

/-! ## Section 4: Actions -/

/-- A finite timestamp, an integer or a float. -/
inductive Timestamp where
  | int (i : Int)
  | float (d : Decimal)
  deriving DecidableEq

/-- The timestamp as a JSON number. -/
def Timestamp.json : Timestamp → Json
  | .int i => .int i
  | .float d => .float (.finite d)

/-- `ActionIntent`: an immutable action snapshot. -/
structure ActionIntent where
  request_id : String
  idempotency_key : String
  agent_id : String
  framework : String
  tool_name : String
  capability : String
  timestamp : Timestamp
  arguments_json : Snapshot
  context_json : Snapshot
  evidence_json : Snapshot
  request_id_text : nonBlank request_id = true
  idempotency_key_text : nonBlank idempotency_key = true
  agent_id_text : nonBlank agent_id = true
  framework_text : nonBlank framework = true
  tool_name_text : nonBlank tool_name = true
  capability_text : nonBlank capability = true
  deriving DecidableEq

namespace ActionIntent

/-- `action.arguments`. -/
def arguments (a : ActionIntent) : Dict := a.arguments_json.restore

/-- `action.context`. -/
def context (a : ActionIntent) : Dict := a.context_json.restore

/-- `action.evidence`. -/
def evidence (a : ActionIntent) : Dict := a.evidence_json.restore

/-- The constructor with the checks of `__post_init__`, in their order. -/
def new (request_id idempotency_key agent_id framework tool_name capability : String)
    (timestamp : Timestamp) (arguments_json context_json evidence_json : Snapshot) :
    Raises ActionIntent := do
  let blank (path : String) := Exn.of .contractError s!"{path} must be a non-empty string"
  let ⟨h₁⟩ ← ensure (nonBlank request_id = true) (blank "request_id")
  let ⟨h₂⟩ ← ensure (nonBlank idempotency_key = true) (blank "idempotency_key")
  let ⟨h₃⟩ ← ensure (nonBlank agent_id = true) (blank "agent_id")
  let ⟨h₄⟩ ← ensure (nonBlank framework = true) (blank "framework")
  let ⟨h₅⟩ ← ensure (nonBlank tool_name = true) (blank "tool_name")
  let ⟨h₆⟩ ← ensure (nonBlank capability = true) (blank "capability")
  return {
    request_id, idempotency_key, agent_id, framework, tool_name, capability
    timestamp, arguments_json, context_json, evidence_json
    request_id_text := h₁
    idempotency_key_text := h₂
    agent_id_text := h₃
    framework_text := h₄
    tool_name_text := h₅
    capability_text := h₆ }

/-- `ActionIntent.capture` with every optional argument given.  An empty
    idempotency key stands for the request id. -/
def capture (agent_id framework tool_name capability : String) (arguments context evidence : Dict)
    (request_id idempotency_key : String) (timestamp : Timestamp) : Raises ActionIntent := do
  let arguments_json ← snapshotObject arguments "arguments"
  let context_json ← snapshotObject context "context"
  let evidence_json ← snapshotObject evidence "evidence"
  new request_id (if idempotency_key = "" then request_id else idempotency_key) agent_id framework
    tool_name capability timestamp arguments_json context_json evidence_json

theorem contact_members : ∀ m ∈ [("contact_id", Json.str "contact-1")], Json.WF m.2 := by simp

/-- An action for checked runs: read one contact. -/
def contactRead : ActionIntent where
  request_id := "request-1"
  idempotency_key := "request-1"
  agent_id := "crm-agent"
  framework := "test"
  tool_name := "crm.contact.read"
  capability := "crm.contact.read"
  timestamp := .int 1700000000
  arguments_json := Snapshot.ofDict (Dict.of [("contact_id", .str "contact-1")] contact_members)
  context_json := Snapshot.ofDict (Dict.of [] Dict.wf_of_nil)
  evidence_json := Snapshot.ofDict (Dict.of [] Dict.wf_of_nil)
  request_id_text := by decide
  idempotency_key_text := by decide
  agent_id_text := by decide
  framework_text := by decide
  tool_name_text := by decide
  capability_text := by decide

end ActionIntent

/-- The organisation of the checked runs has a name. -/
theorem nonBlank_acme : nonBlank "acme" = true := by decide

/-! ## Section 5: Results -/

/-- What a tool handler returns: a JSON value; a value whose JSON text is
    that of another value (a tuple, a dictionary with integer keys); or a
    value the encoder refuses, with the text `default=str` makes of it. -/
inductive PyVal where
  | json (j : Json)
  | coerced (j : Json)
  | foreign (j : Json)
  deriving DecidableEq

/-- `None`. -/
def PyVal.none : PyVal := .json .null

/-- `ExecutionStatus`. -/
inductive ExecutionStatus where
  | executed
  | blocked
  | reviewRequired
  | controlFailure
  | indeterminate
  deriving DecidableEq, Repr

/-- `status.value`. -/
def ExecutionStatus.value : ExecutionStatus → String
  | .executed => "EXECUTED"
  | .blocked => "BLOCKED"
  | .reviewRequired => "REVIEW_REQUIRED"
  | .controlFailure => "CONTROL_FAILURE"
  | .indeterminate => "INDETERMINATE"

/-- `ExecutionStatus(value)`. -/
def ExecutionStatus.ofValue? (value : String) : Option ExecutionStatus :=
  [.executed, .blocked, .reviewRequired, .controlFailure, .indeterminate].find?
    fun s => s.value == value

@[simp] theorem ExecutionStatus.ofValue?_value (s : ExecutionStatus) :
    ExecutionStatus.ofValue? s.value = some s := by
  cases s <;> decide

/-- A status that says the tool was not executed. -/
def ExecutionStatus.notExecuted : ExecutionStatus → Bool
  | .blocked | .reviewRequired | .controlFailure => true
  | _ => false

/-- The only value of `tool_executed` a status admits. -/
def ExecutionStatus.toolExecuted : ExecutionStatus → Option Bool
  | .executed => some true
  | .indeterminate => none
  | _ => some false

/-- `GovernedExecution`: a result that satisfies the governed contract. -/
structure GovernedExecution where
  status : ExecutionStatus
  request_id : String
  tool_executed : Option Bool
  reason : String
  decision_id : Option String
  output : PyVal
  retryable : Bool
  request_id_text : nonBlank request_id = true
  reason_text : nonBlank reason = true
  /-- The three checks of the status against `tool_executed`. -/
  tool_executed_fits : tool_executed = status.toolExecuted
  /-- Only a proven pre-execution failure may be retried. -/
  retryable_fits : retryable = true → status = .controlFailure
  deriving DecidableEq

namespace GovernedExecution

/-- The constructor with the checks of `__post_init__`, in their order.  The
    last check of the source (a retryable result with `tool_executed` other
    than `False`) cannot fail after the ones before it. -/
def new (status : ExecutionStatus) (request_id : String) (tool_executed : Option Bool)
    (reason : String) (decision_id : Option String) (output : PyVal) (retryable : Bool) :
    Raises GovernedExecution := do
  let ⟨h₁⟩ ← ensure (nonBlank request_id = true)
    (Exn.of .contractError "request_id must be a non-empty string")
  let ⟨h₂⟩ ← ensure (nonBlank reason = true)
    (Exn.of .contractError "reason must be a non-empty string")
  let ⟨h₃⟩ ← ensure (tool_executed = status.toolExecuted)
    (Exn.of .contractError (match status with
      | .executed => "EXECUTED requires tool_executed=True"
      | .indeterminate => "INDETERMINATE requires tool_executed=None; execution may have occurred"
      | s => s!"{s.value} requires tool_executed=False"))
  let ⟨h₄⟩ ← ensure (retryable = true → status = .controlFailure)
    (Exn.of .contractError "only a proven pre-execution CONTROL_FAILURE may be retryable")
  return {
    status, request_id, tool_executed, reason, decision_id, output, retryable
    request_id_text := h₁
    reason_text := h₂
    tool_executed_fits := h₃
    retryable_fits := h₄ }

theorem executed_fits : some true = ExecutionStatus.executed.toolExecuted := rfl

/-- A result that is not marked retryable may have any status. -/
theorem executed_final (h : false = true) : ExecutionStatus.executed = .controlFailure := nomatch h

/-- A result's own fields pass the constructor. -/
theorem new_self (g : GovernedExecution) :
    new g.status g.request_id g.tool_executed g.reason g.decision_id g.output g.retryable =
      .ok g := by
  simp only [new, ensure_bind_pos g.request_id_text, ensure_bind_pos g.reason_text,
    ensure_bind_pos g.tool_executed_fits, ensure_bind_pos g.retryable_fits]
  rfl

theorem tool_executed_eq (g : GovernedExecution) : g.tool_executed = g.status.toolExecuted :=
  g.tool_executed_fits

/-- A result marked retryable is a control failure. -/
theorem status_of_retryable {g : GovernedExecution} (h : g.retryable = true) :
    g.status = .controlFailure :=
  g.retryable_fits h

end GovernedExecution

end CBrain

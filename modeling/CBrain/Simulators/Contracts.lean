import CBrain.Agent.Record
import CBrain.Dispatch
import CBrain.Framework.Mutation
import CBrain.Framework.PyDecimal
import CBrain.Framework.Table

/-! # Simulator contracts

    Models `cbrain/simulators/contracts.py`, and the method `execute` that the
    simulators have in common: a request is captured, an idempotency key that
    was used before is answered from its stored effect, and a new one is
    applied to the tables under the simulator's lock.

    `_apply` writes the tables as it goes, so a program over the tables keeps
    what was written before it raised. -/

namespace CBrain.Simulators

open Json (Dict)
open Mutation (raising write read)

/-! ## Section 1: Errors and checks -/

/-- `SimulatorContractError`. -/
def contractError (message : String) : Exn := Exn.of .simulatorContractError message

/-- `SimulatorNotFound`. -/
def notFound (message : String) : Exn := ⟨.other, "SimulatorNotFound", [.text message]⟩

/-- `SimulatorConflict`. -/
def conflict (message : String) : Exn := ⟨.other, "SimulatorConflict", [.text message]⟩

/-- `SimulatorBusinessError`. -/
def businessError (message : String) : Exn := ⟨.other, "SimulatorBusinessError", [.text message]⟩

/-- `decimal.InvalidOperation` or `decimal.Overflow`, which no simulator catches
    after an amount was read. -/
def invalidOperation : Exn := ⟨.other, "InvalidOperation", []⟩

/-- `required_text`. -/
def requiredText (value : Json) (path : String) : Raises String :=
  requiredMember (contractError s!"{path} must be non-empty text") value

/-- `exact_fields`. -/
def exactFields (value : Dict) (expected : List String) (path : String) : Raises Unit :=
  let missing := sortedSet (expected.filter fun name => name ∉ value.keys)
  let unexpected := sortedSet (value.keys.filter fun name => name ∉ expected)
  require (missing = [] ∧ unexpected = [])
    (Exn.parts .simulatorContractError
      [.text s!"{path} fields are invalid; missing=", .repr (textList missing),
        .text ", unexpected=", .repr (textList unexpected)])

/-- `canonical_object`. -/
def canonicalObject (value : Dict) (path : String) : Raises ByteArray := do
  validateFinite (fun path => contractError s!"{path} contains a non-finite number") path value.json
  pure (Json.canonical value.json)

/-- `restore_object`. -/
def restoreObject (value : ByteArray) (path : String) : Raises Dict :=
  (CBrain.restoreObject value).mapError fun e =>
    if e.kind = .jsonDecodeError then contractError s!"{path} is not valid JSON"
    else contractError s!"{path} must be a JSON object"

theorem canonicalObject_ok {value : Dict} {path : String} {bytes : ByteArray} :
    canonicalObject value path = .ok bytes ↔
      Json.finite value.json = true ∧ bytes = Json.canonical value.json := by
  unfold canonicalObject
  rw [unit_bind_ok, validateFinite_ok, pure_ok, @eq_comm _ bytes]

/-- What was canonical JSON is restored. -/
theorem restoreObject_canonical (value : Dict) (path : String) :
    restoreObject (Json.canonical value.json) path = .ok value := by
  unfold restoreObject
  rw [CBrain.restoreObject_canonical]
  rfl

/-- A list of texts as a value. -/
def texts (xs : List String) : Value :=
  ⟨textList xs, wf_textList xs⟩

/-- A member of an object as a value. -/
def memberOf (d : Dict) (k : String) : Value :=
  ⟨d.get k, d.wf_get k⟩

/-- The values in the order of their keys, as `sorted` gives it. -/
def sortedValues {V : Type} {key : V → String} (r : Registry String V key) : List V :=
  (sortedSet (r.values.map key)).filterMap r.get?

theorem mem_sortedValues {V : Type} {key : V → String} {r : Registry String V key} {v : V} :
    v ∈ sortedValues r ↔ v ∈ r.values := by
  unfold sortedValues
  rw [List.mem_filterMap, Registry.mem_values]
  constructor
  · intro h
    obtain ⟨k, -, hget⟩ := h
    rw [Registry.key_of_get? hget]
    exact hget
  · intro h
    exact ⟨key v, mem_sortedSet.mpr (List.mem_map.mpr ⟨v, Registry.mem_values.mpr h, rfl⟩), h⟩

/-- `f"{n:04d}"`. -/
def fourDigits (n : Nat) : String := String.ofList ((Nat.toDigits 10 n).leftpad 4 '0')

/-! ## Section 2: Amounts -/

/-- `Decimal(str(value))` of text, a number or, if they are admitted, a float. -/
def decimalAmount? (decimalOf : String → Option PyDecimal) (floats : Bool) :
    Json → Option PyDecimal
  | .str s => decimalOf s
  | .int i => some (PyDecimal.ofInt i)
  | .float (.finite d) => if floats then some (.finite d.neg d.coeff d.exp) else none
  | _ => none

/-- `amount.quantize(Decimal("0.01"))`. -/
def toCents (amount : PyDecimal) : Raises PyDecimal :=
  match amount.quantize (-2) with
  | some cents => .ok cents
  | none => .error invalidOperation

/-- The number has at most so many decimal places. -/
def hasPlaces (places : Nat) : PyDecimal → Bool
  | .finite _ _ exp => -(places : Int) ≤ exp
  | _ => false

/-- The body of the ledger's and the orders' `_positive_money`. -/
def positiveAmount (decimalOf : String → Option PyDecimal) (floats : Bool) (value : Json)
    (path : String) : Raises PyDecimal :=
  match decimalAmount? decimalOf floats value with
  | none => .error (contractError s!"{path} must be a decimal amount")
  | some amount => do
    require (amount.isFinite = true ∧ (PyDecimal.ofInt 0).lt? amount = some true ∧
        hasPlaces 2 amount = true)
      (contractError s!"{path} must be positive with at most two decimal places")
    toCents amount

/-- `_money_text`. -/
def moneyText (value : PyDecimal) : Raises String := do
  let cents ← toCents value
  pure cents.text

theorem toCents_ok {x y : PyDecimal} : toCents x = .ok y ↔ x.quantize (-2) = some y := by
  unfold toCents
  cases x.quantize (-2) with
  | none => simp
  | some cents => simp

/-- An amount in cents stays. -/
theorem toCents_again {x y : PyDecimal} (h : toCents x = .ok y) : toCents y = .ok y :=
  toCents_ok.mpr (PyDecimal.quantize_again (toCents_ok.mp h))

/-- An amount in cents can be written. -/
theorem moneyText_cents {x : PyDecimal} (h : toCents x = .ok x) : moneyText x = .ok x.text := by
  unfold moneyText
  rw [h]
  rfl

/-- An amount that was read is in cents. -/
theorem toCents_positiveAmount {decimalOf : String → Option PyDecimal} {floats : Bool}
    {value : Json} {path : String} {amount : PyDecimal}
    (h : positiveAmount decimalOf floats value path = .ok amount) :
    toCents amount = .ok amount := by
  unfold positiveAmount at h
  cases hvalue : decimalAmount? decimalOf floats value with
  | none =>
    rw [hvalue] at h
    cases h
  | some read =>
    rw [hvalue] at h
    simp only [require_bind_ok] at h
    exact toCents_again h.2

/-! ## Section 3: Requests, receipts and effects -/

/-- The arguments of `execute`. -/
structure Request where
  capability : String
  request_id : String
  idempotency_key : String
  arguments : Dict
  deriving DecidableEq

/-- What `capture_request` hashes. -/
def Request.payload (q : Request) : Dict :=
  object
    [("capability", .str q.capability), ("request_id", .str q.request_id),
      ("idempotency_key", .str q.idempotency_key), ("arguments", .dict q.arguments)]

/-- `capture_request`. -/
def captureRequest (q : Request) : Raises (Dict × String) := do
  let _ ← requiredText (.str q.capability) "capability"
  let _ ← requiredText (.str q.request_id) "request_id"
  let _ ← requiredText (.str q.idempotency_key) "idempotency_key"
  let arguments_json ← canonicalObject q.arguments "arguments"
  let arguments_snapshot ← restoreObject arguments_json "arguments"
  let request_json ← canonicalObject { q with arguments := arguments_snapshot }.payload
    "simulator request"
  pure (arguments_snapshot, sha256Digest request_json)

/-- `effect_identifier`. -/
def effectIdentifier (domain capability idempotency_key request_digest : String) : String :=
  let material := "\x00".intercalate [domain, capability, idempotency_key, request_digest]
  "effect-" ++ Sha256.hexdigest material.toUTF8

/-- The first of some named texts that is blank. -/
def blankField (fields : List (String × String)) : Option String :=
  (fields.find? fun field => !nonBlank field.2).map Prod.fst

/-- The texts that `EffectReceipt.__post_init__` checks, in its order. -/
def receiptTexts (domain capability request_id idempotency_key effect_id : String) :
    List (String × String) :=
  [("domain", domain), ("capability", capability), ("request_id", request_id),
    ("idempotency_key", idempotency_key), ("effect_id", effect_id)]

/-- `EffectReceipt`. -/
structure EffectReceipt where
  domain : String
  capability : String
  request_id : String
  idempotency_key : String
  effect_id : String
  state_version : Nat
  mutated : Bool
  result_json : ByteArray
  texts : blankField (receiptTexts domain capability request_id idempotency_key effect_id) = none
  restores : ∃ d, restoreObject result_json "result" = .ok d
  deriving DecidableEq

/-- `EffectReceipt.capture`. -/
def EffectReceipt.capture (domain capability request_id idempotency_key effect_id : String)
    (state_version : Nat) (mutated : Bool) (result : Dict) : Raises EffectReceipt := do
  let result_json ← canonicalObject result "result"
  match htexts : blankField
      (receiptTexts domain capability request_id idempotency_key effect_id) with
  | some name => .error (contractError s!"{name} must be non-empty text")
  | none =>
    match hrestore : restoreObject result_json "result" with
    | .error e => .error e
    | .ok d =>
      pure
        { domain := domain
          capability := capability
          request_id := request_id
          idempotency_key := idempotency_key
          effect_id := effect_id
          state_version := state_version
          mutated := mutated
          result_json := result_json
          texts := htexts
          restores := ⟨d, hrestore⟩ }

/-- `StoredEffect`. -/
structure StoredEffect where
  request_digest : String
  receipt : EffectReceipt
  deriving DecidableEq

/-- A simulator with its tables. -/
structure Simulator (S : Type) where
  tables : S
  state_version : Nat
  effects : Table String StoredEffect
  deriving DecidableEq

/-- A simulator that has executed nothing. -/
def Simulator.new {S : Type} (tables : S) : Simulator S := ⟨tables, 0, Table.empty⟩

/-- What one simulator's class adds to `execute`.  `apply` is given what the
    simulator's clock would return. -/
structure Target (S : Type) where
  domain : String
  capabilities : List String
  unknown : Exn
  apply : Raises String → String → Dict → Mutation Exn S (Dict × Bool)

/-- A program over the tables as one over the simulator. -/
def onTables {S α : Type} (m : Mutation Exn S α) : Mutation Exn (Simulator S) α :=
  ExceptT.mk fun sim =>
    let (result, tables) := Mutation.exec m sim.tables
    (result, { sim with tables := tables })

@[simp] theorem exec_onTables {S α : Type} (m : Mutation Exn S α) (sim : Simulator S) :
    Mutation.exec (onTables m) sim =
      ((Mutation.exec m sim.tables).1, { sim with tables := (Mutation.exec m sim.tables).2 }) :=
  rfl

namespace Target

variable {S : Type} (target : Target S)

/-- `execute` for a key that is not used yet. -/
def executeNew (clock : Raises String) (q : Request) (captured : Dict) (request_digest : String) :
    Mutation Exn (Simulator S) EffectReceipt := do
  let (result, mutated) ← onTables (target.apply clock q.capability captured)
  write fun sim =>
    if mutated then { sim with state_version := sim.state_version + 1 } else sim
  let state_version ← read fun sim => sim.state_version
  let receipt ← raising (EffectReceipt.capture target.domain q.capability q.request_id
    q.idempotency_key
    (effectIdentifier target.domain q.capability q.idempotency_key request_digest) state_version
    mutated result)
  write fun sim =>
    { sim with effects := sim.effects.set q.idempotency_key ⟨request_digest, receipt⟩ }
  pure receipt

/-- `execute` for a key with a stored effect. -/
def executeStored (stored : StoredEffect) (request_digest : String) :
    Mutation Exn (Simulator S) EffectReceipt := do
  raising (require (stored.request_digest = request_digest)
    (conflict "idempotency key was already used for another request"))
  pure stored.receipt

/-- `execute`. -/
def execute (clock : Raises String) (q : Request) : Mutation Exn (Simulator S) EffectReceipt := do
  raising (require (q.capability ∈ target.capabilities) target.unknown)
  let (captured, request_digest) ← raising (captureRequest q)
  let stored ← read fun sim => sim.effects.get? q.idempotency_key
  match stored with
  | some stored => executeStored stored request_digest
  | none => target.executeNew clock q captured request_digest

end Target

end CBrain.Simulators

import CBrain.Simulators.Crm
import CBrain.Simulators.Http
import CBrain.Simulators.Ledger
import CBrain.Simulators.Mail
import CBrain.Simulators.Orders

/-! # Requests to a simulator application

    What a response says of the simulator behind a `SimulatorApplication`, and
    that the bytes of a request are executed as the request that was encoded.

    An exception that no `except` clause names leaves `handle` without a
    response.  The ledger raises one after it has written, when an amount of its
    answer has too many digits. -/

namespace CBrain.Simulators

open Json (Dict)
open Mutation (raising write read exec Reads Atomic)

/-! ## Section 1: Exceptions that become responses -/

section outcomes
variable {S α β : Type}

/-- Where the program raises what becomes a response, it has not written. -/
def Settles (m : Mutation Exn S α) : Prop :=
  ∀ s e, (exec m s).1 = .error e → errorOf e ≠ none → (exec m s).2 = s

/-- What the program raises becomes no response. -/
def Escapes (m : Mutation Exn S α) : Prop :=
  ∀ s e, (exec m s).1 = .error e → errorOf e = none

theorem settles_of_atomic {m : Mutation Exn S α} (h : Atomic m) : Settles m :=
  fun s e he _ => h s e he

theorem settles_of_escapes {m : Mutation Exn S α} (h : Escapes m) : Settles m :=
  fun s e he hresponse => absurd (h s e he) hresponse

/-- What is only read beforehand is not written either. -/
theorem settles_bind {m : Mutation Exn S α} {f : α → Mutation Exn S β} (hm : Reads m)
    (hf : ∀ a, Settles (f a)) : Settles (m >>= f) := by
  intro s e he hresponse
  rw [hm.exec_bind] at he ⊢
  cases hanswer : (exec m s).1 with
  | ok a =>
    rw [hanswer] at he
    exact hf a s e he hresponse
  | error e' => rfl

theorem settles_bind_pure {m : Mutation Exn S α} {f : α → β} (h : Settles m) :
    Settles (m >>= fun a => pure (f a)) := by
  intro s e he hresponse
  rw [Mutation.exec_bind_pure] at he ⊢
  cases hanswer : (exec m s).1 with
  | ok a =>
    rw [hanswer] at he
    cases he
  | error e' =>
    rw [hanswer] at he
    obtain rfl : e' = e := Except.error.inj he
    exact h s e' hanswer hresponse

theorem escapes_pure (a : α) : Escapes (pure a : Mutation Exn S α) := by
  intro s e he
  cases he

theorem escapes_write_bind {g : S → S} {m : Mutation Exn S α} (h : Escapes m) :
    Escapes (write g >>= fun _ => m) := by
  intro s e he
  rw [Mutation.exec_write_bind] at he
  exact h (g s) e he

theorem escapes_read_bind {g : S → β} {f : β → Mutation Exn S α} (h : ∀ b, Escapes (f b)) :
    Escapes (read g >>= f) := by
  intro s e he
  rw [Mutation.exec_read_bind] at he
  exact h (g s) s e he

/-- An amount that cannot be written raises what no clause names. -/
theorem escapes_moneyText_bind {amount : PyDecimal} {f : String → Mutation Exn S α}
    (h : ∀ text, Escapes (f text)) : Escapes (raising (moneyText amount) >>= f) := by
  intro s e he
  cases htext : moneyText amount with
  | ok text =>
    rw [htext, Mutation.exec_ok_bind] at he
    exact h text s e he
  | error e' =>
    rw [htext, Mutation.exec_error_bind] at he
    obtain rfl : e' = e := Except.error.inj he
    unfold moneyText at htext
    rw [bind_error] at htext
    rcases htext with hcents | ⟨cents, -, hpure⟩
    · unfold toCents at hcents
      cases hquantize : amount.quantize (-2) with
      | some cents =>
        rw [hquantize] at hcents
        cases hcents
      | none =>
        rw [hquantize] at hcents
        obtain rfl := Except.error.inj hcents
        rfl
    · exact absurd hpure pure_ne_error

end outcomes

/-- A capability that settles makes `execute` settle. -/
theorem Target.settles_execute {S : Type} {target : Target S} (hs : target.Sound)
    (happly : ∀ clock capability arguments, Settles (target.apply clock capability arguments))
    (clock : Raises String) (q : Request) : Settles (target.execute clock q) := by
  intro sim e he hresponse
  rcases target.execute_cases hs clock q sim with ⟨-, e', hexec, -⟩ | ⟨-, old, -, -, hexec⟩ |
    ⟨-, old, -, -, hexec⟩ | ⟨-, -, e', hraised, hexec⟩ | ⟨-, -, receipt, hexec⟩
  · rw [hexec]
  · rw [hexec]
  · rw [hexec]
  · rw [hexec] at he ⊢
    obtain rfl : e' = e := Except.error.inj he
    -- what `_apply` did not write, `execute` does not write either
    have hkept := happly clock q.capability q.arguments sim.tables e' hraised hresponse
    show ({ sim with
      tables := (exec (target.apply clock q.capability q.arguments) sim.tables).2 } :
        Simulator S) = sim
    rw [hkept]
  · rw [hexec] at he
    cases he

namespace LedgerSimulator

variable {decimalOf : String → Option PyDecimal} {arguments : Dict}

theorem settles_modifyLimit : Settles (modifyLimit decimalOf arguments) := by
  apply settles_bind reads_limitChange
  intro change
  -- from here on only the texts of the two limits can fail
  apply settles_of_escapes
  apply escapes_write_bind
  apply escapes_moneyText_bind
  intro previous_limit
  apply escapes_moneyText_bind
  intro new_limit
  exact escapes_pure _

theorem settles_transfer : Settles (transfer decimalOf arguments) := by
  apply settles_bind reads_transferChecked
  intro t
  -- from here on only the texts of the amount and the balance can fail
  apply settles_of_escapes
  apply escapes_write_bind
  apply escapes_read_bind
  intro settled
  apply escapes_moneyText_bind
  intro amount
  apply escapes_write_bind
  apply escapes_moneyText_bind
  intro remaining
  exact escapes_pure _

/-- What the ledger answers with an error has not been written. -/
theorem settles_apply {capability : String} : Settles (apply decimalOf arguments capability) := by
  unfold apply
  split
  · exact settles_bind_pure (settles_of_atomic reads_balance.atomic)
  split
  · exact settles_bind_pure (settles_of_atomic reads_limit.atomic)
  split
  · exact settles_bind_pure settles_modifyLimit
  split
  · exact settles_bind_pure (settles_of_atomic addBeneficiary_atomic)
  split
  · exact settles_bind_pure settles_transfer
  · exact settles_of_atomic (Mutation.reads_raising _).atomic

end LedgerSimulator

/-! ## Section 2: The bytes of a request -/

/-- Bytes that begin as an object with a member are UTF-8. -/
theorem detectEncoding_object {b1 : UInt8} (h : b1 ≠ 0) (rest : List UInt8) :
    detectEncoding (0x7b :: b1 :: rest) = .utf8 := by
  unfold detectEncoding
  simp only [List.isPrefixOf]
  match rest with
  | [] => simp [h]
  | [b2] => simp
  | b2 :: b3 :: rest => simp [h]

theorem bytes_object (cs : List Char) :
    (Json.encode ('{' :: '"' :: cs)).data.toList = 0x7b :: 0x22 :: cs.utf8Encode.data.toList := by
  show (String.ofList ('{' :: '"' :: cs)).toByteArray.data.toList = _
  rw [String.toByteArray_ofList, List.utf8Encode_cons, List.utf8Encode_cons (c := '"')]
  simp only [ByteArray.data_append, Array.toList_append]
  rfl

/-- The text of an object with a member. -/
theorem dumps_object {d : Dict} (h : d.members ≠ []) :
    ∃ cs, Json.dumps .canonical d.json = '{' :: '"' :: cs := by
  obtain ⟨⟨k, v⟩, ms, hms⟩ := List.exists_cons_of_ne_nil h
  unfold Dict.json
  rw [hms, Json.dumps]
  exact ⟨_, rfl⟩

/-- Canonical bytes are read back as they were written. -/
theorem loadsWire_canonical (decodeWide : WideDecoder) {d : Dict} (h : d.members ≠ []) :
    loadsWire decodeWide (Json.canonical d.json) = .ok (.dict d) := by
  have htext : decodeText decodeWide (Json.canonical d.json) =
      some (Json.dumps .canonical d.json) := by
    obtain ⟨cs, hcs⟩ := dumps_object h
    unfold decodeText Json.canonical
    rw [hcs, bytes_object, detectEncoding_object (by decide)]
    show (String.fromUTF8? (Json.encode _)).map String.toList = _
    rw [Json.encode, Json.fromUTF8?_toUTF8, Option.map_some, String.toList_ofList]
  have hloads : Json.loads (Json.dumps .canonical d.json) = some d.json :=
    Json.loads_dumps .canonical d.wf
  unfold loadsWire
  rw [htext]
  simp only []
  split
  · next hnone =>
    rw [hloads] at hnone
    cases hnone
  · next payload hpayload =>
    rw [hloads] at hpayload
    obtain rfl := Option.some.inj hpayload
    rfl

section requests
variable {request_id idempotency_key : String} {arguments : Dict}

theorem keys_requestPayload (request_id idempotency_key : String) (arguments : Dict) :
    (requestPayload request_id idempotency_key arguments).keys =
      ["arguments", "idempotency_key", "request_id", "schema"] := by
  unfold requestPayload object
  rw [Json.Dict.keys_of]
  show Json.keys (Json.dictOf [("schema", .null), ("request_id", .null),
    ("idempotency_key", .null), ("arguments", .null)]) = _
  decide +kernel

theorem members_requestPayload (request_id idempotency_key : String) (arguments : Dict) :
    (requestPayload request_id idempotency_key arguments).members ≠ [] := by
  intro h
  have hkeys := keys_requestPayload request_id idempotency_key arguments
  unfold Json.Dict.keys at hkeys
  rw [h] at hkeys
  cases hkeys

/-- A payload is decoded to itself. -/
theorem decodeRequest_canonical (decodeWide : WideDecoder) :
    decodeRequest decodeWide
      (Json.canonical (requestPayload request_id idempotency_key arguments).json) =
        .ok (requestPayload request_id idempotency_key arguments) := by
  have hbytes : (Json.canonical
      (requestPayload request_id idempotency_key arguments).json).size ≠ 0 := by
    obtain ⟨cs, hcs⟩ := dumps_object
      (members_requestPayload request_id idempotency_key arguments)
    intro hsize
    have hlength := congrArg List.length (bytes_object cs)
    rw [← hcs] at hlength
    change (Json.canonical _).size = _ at hlength
    rw [hsize] at hlength
    cases hlength
  have hfields : exactFields (requestPayload request_id idempotency_key arguments)
      ["schema", "request_id", "idempotency_key", "arguments"] "simulator request" = .ok () := by
    unfold exactFields
    rw [keys_requestPayload]
    exact require_ok.mpr (by decide +kernel)
  have hschema : Json.pyEq ((requestPayload request_id idempotency_key arguments).get "schema")
      (.str SIMULATOR_REQUEST_SCHEMA) = true := by
    have hget : (requestPayload request_id idempotency_key arguments).get "schema" =
        .str SIMULATOR_REQUEST_SCHEMA := by
      unfold requestPayload
      rw [object_get]
      rfl
    rw [hget]
    decide +kernel
  unfold decodeRequest
  rw [require_bind_ok]
  refine ⟨hbytes, ?_⟩
  rw [loadsWire_canonical decodeWide (members_requestPayload _ _ _)]
  show (do
    exactFields (requestPayload request_id idempotency_key arguments) _ _
    require _ _
    return requestPayload request_id idempotency_key arguments) = _
  rw [unit_bind_ok, require_bind_ok]
  exact ⟨hfields, hschema, rfl⟩

theorem finite_requestPayload (h : Json.finite arguments.json = true) :
    Json.finite (requestPayload request_id idempotency_key arguments).json = true := by
  apply finite_object
  simpa using h

/-- A request that can be captured can be encoded. -/
theorem encodeSimulatorRequest_ok (hrequest : nonBlank request_id = true)
    (hkey : nonBlank idempotency_key = true) (hfinite : Json.finite arguments.json = true) :
    encodeSimulatorRequest request_id idempotency_key arguments =
      .ok (Json.canonical (requestPayload request_id idempotency_key arguments).json) := by
  unfold encodeSimulatorRequest
  rw [requiredText_ok.mpr ⟨hrequest, rfl⟩, requiredText_ok.mpr ⟨hkey, rfl⟩]
  exact canonicalObject_ok.mpr ⟨finite_requestPayload hfinite, rfl⟩

/-- What is served is the request that was encoded. -/
theorem serve_encoded {S : Type} (decodeWide : WideDecoder) (simulator : ExecutableSimulator S)
    (capability : String) (hrequest : nonBlank request_id = true)
    (hkey : nonBlank idempotency_key = true) (sim : S) :
    exec (SimulatorApplication.serve decodeWide simulator capability
        (Json.canonical (requestPayload request_id idempotency_key arguments).json)) sim =
      exec (simulator.execute ⟨capability, request_id, idempotency_key, arguments⟩) sim := by
  have harguments : asDict (contractError "arguments must be a JSON object")
      (memberOf (requestPayload request_id idempotency_key arguments) "arguments") =
        .ok arguments := by
    have hmember : memberOf (requestPayload request_id idempotency_key arguments) "arguments" =
        .dict arguments := by
      apply Subtype.ext
      show (requestPayload request_id idempotency_key arguments).get "arguments" = arguments.json
      unfold requestPayload
      rw [object_get]
      rfl
    rw [hmember]
    rfl
  have hid : (requestPayload request_id idempotency_key arguments).get "request_id" =
      .str request_id := by
    unfold requestPayload
    rw [object_get]
    rfl
  have hidempotency : (requestPayload request_id idempotency_key arguments).get
      "idempotency_key" = .str idempotency_key := by
    unfold requestPayload
    rw [object_get]
    rfl
  unfold SimulatorApplication.serve
  rw [decodeRequest_canonical, Mutation.exec_ok_bind, harguments, Mutation.exec_ok_bind, hid,
    requiredText_ok.mpr ⟨hrequest, rfl⟩, Mutation.exec_ok_bind, hidempotency,
    requiredText_ok.mpr ⟨hkey, rfl⟩, Mutation.exec_ok_bind]

end requests

/-! ## Section 3: Responses -/

namespace SimulatorApplication

variable {S : Type} {simulator : ExecutableSimulator S} {app : SimulatorApplication simulator}
  {decodeWide : WideDecoder} {operation : String} {headers : Headers} {wire_bytes : ByteArray}
  {sim after : S} {response : SimulatorHTTPResponse}

/-- The headers under which a request is read. -/
structure Admits (app : SimulatorApplication simulator) (headers : Headers) : Prop where
  verified : app.verify headers = true
  content_type : header headers "content-type" = "application/json"
  content_encoding : header headers "content-encoding" = "" ∨
    header headers "content-encoding" = "identity"

/-- A receipt is answered with 200. -/
theorem status_of_respond {receipt : EffectReceipt} (h : respond (.ok receipt) = .ok response) :
    response.status_code = 200 := by
  unfold respond at h
  simp only [bind_ok, pure_ok] at h
  obtain ⟨payload, -, body, -, rfl⟩ := h
  rfl

/-- **Dispatch**: a request is answered without its body, or it is served. -/
theorem handle_cases (app : SimulatorApplication simulator) (decodeWide : WideDecoder)
    (operation : String) (headers : Headers) (wire_bytes : ByteArray) (sim : S) :
    (∃ response, exec (app.handle decodeWide operation headers wire_bytes) sim =
      (.ok response, sim) ∧ response.status_code ≠ 200) ∨
    (app.Admits headers ∧ ∃ capability, app.operations.get? operation = some capability ∧
      exec (app.handle decodeWide operation headers wire_bytes) sim =
        (respond (exec (serve decodeWide simulator capability wire_bytes) sim).1,
          (exec (serve decodeWide simulator capability wire_bytes) sim).2)) := by
  unfold handle
  by_cases hverified : app.verify headers = false
  · rw [if_pos hverified]
    exact Or.inl ⟨_, Mutation.exec_pure _ _, by decide⟩
  rw [if_neg hverified]
  cases hoperation : app.operations.get? operation with
  | none => exact Or.inl ⟨_, Mutation.exec_pure _ _, by decide⟩
  | some capability =>
    simp only []
    by_cases htype : header headers "content-type" = "application/json"
    · rw [if_neg (not_not_intro htype)]
      by_cases hencoding : header headers "content-encoding" ≠ "" ∧
          header headers "content-encoding" ≠ "identity"
      · rw [if_pos hencoding]
        exact Or.inl ⟨_, Mutation.exec_pure _ _, by decide⟩
      · rw [if_neg hencoding]
        have hplain : header headers "content-encoding" = "" ∨
            header headers "content-encoding" = "identity" := by
          by_contra hother
          rw [not_or] at hother
          exact hencoding hother
        exact Or.inr ⟨⟨Bool.eq_true_of_not_eq_false hverified, htype, hplain⟩, capability, rfl,
          rfl⟩
    · rw [if_pos htype]
      exact Or.inl ⟨_, Mutation.exec_pure _ _, by decide⟩

/-- A request that is admitted is served. -/
theorem handle_admitted {capability : String}
    (hoperation : app.operations.get? operation = some capability) (h : app.Admits headers) :
    exec (app.handle decodeWide operation headers wire_bytes) sim =
      (respond (exec (serve decodeWide simulator capability wire_bytes) sim).1,
        (exec (serve decodeWide simulator capability wire_bytes) sim).2) := by
  have hplain : ¬ (header headers "content-encoding" ≠ "" ∧
      header headers "content-encoding" ≠ "identity") := by
    intro hother
    exact h.content_encoding.elim hother.1 hother.2
  have hverified : app.verify headers ≠ false := by
    rw [h.verified]
    decide
  unfold handle
  rw [if_neg hverified, hoperation]
  simp only []
  rw [if_neg (not_not_intro h.content_type), if_neg hplain]
  rfl

/-- What `handle` tries settles with its simulator. -/
theorem settles_serve {capability : String} (h : ∀ q, Settles (simulator.execute q)) :
    Settles (serve decodeWide simulator capability wire_bytes) := by
  apply settles_bind (Mutation.reads_raising _)
  intro payload
  apply settles_bind (Mutation.reads_raising _)
  intro arguments
  apply settles_bind (Mutation.reads_raising _)
  intro request_id
  apply settles_bind (Mutation.reads_raising _)
  intro idempotency_key
  exact h _

/-- A response other than 200 comes from a state that was not written. -/
theorem unchanged_of_status (h : ∀ q, Settles (simulator.execute q))
    (hrun : exec (app.handle decodeWide operation headers wire_bytes) sim = (.ok response, after))
    (hstatus : response.status_code ≠ 200) : after = sim := by
  rcases app.handle_cases decodeWide operation headers wire_bytes sim with
    ⟨other, hexec, -⟩ | ⟨-, capability, -, hexec⟩
  · rw [hexec] at hrun
    exact (congrArg Prod.snd hrun).symm
  · rw [hexec] at hrun
    have hresponse := congrArg Prod.fst hrun
    have hafter := congrArg Prod.snd hrun
    simp only at hresponse hafter
    cases hserve : (exec (serve decodeWide simulator capability wire_bytes) sim).1 with
    | ok receipt =>
      rw [hserve] at hresponse
      exact absurd (status_of_respond hresponse) hstatus
    | error e =>
      rw [← hafter]
      refine settles_serve h sim e hserve ?_
      -- without a clause for the exception there were no response
      intro hnone
      rw [hserve] at hresponse
      unfold respond at hresponse
      simp only [hnone] at hresponse
      cases hresponse

theorem verified_of_status
    (hrun : exec (app.handle decodeWide operation headers wire_bytes) sim = (.ok response, after))
    (hstatus : response.status_code = 200) : app.verify headers = true := by
  rcases app.handle_cases decodeWide operation headers wire_bytes sim with
    ⟨other, hexec, hother⟩ | ⟨hadmits, -⟩
  · rw [hexec] at hrun
    obtain rfl := Except.ok.inj (congrArg Prod.fst hrun)
    exact absurd hstatus hother
  · exact hadmits.verified

end SimulatorApplication

open SimulatorApplication (respond handle_admitted unchanged_of_status verified_of_status)

/-- What holds of every application over a simulator. -/
structure Guarded (decodeWide : WideDecoder) {S : Type} (simulator : ExecutableSimulator S) :
    Prop where
  unchanged : ∀ (app : SimulatorApplication simulator) operation headers wire_bytes sim response
      after,
    exec (app.handle decodeWide operation headers wire_bytes) sim = (.ok response, after) →
      response.status_code ≠ 200 → after = sim
  verified : ∀ (app : SimulatorApplication simulator) operation headers wire_bytes sim response
      after,
    exec (app.handle decodeWide operation headers wire_bytes) sim = (.ok response, after) →
      response.status_code = 200 → app.verify headers = true
  delivered : ∀ (app : SimulatorApplication simulator) operation capability headers request_id
      idempotency_key arguments sim,
    app.operations.get? operation = some capability → app.Admits headers →
      nonBlank request_id = true → nonBlank idempotency_key = true →
        Json.finite arguments.json = true →
          ∃ wire_bytes,
            encodeSimulatorRequest request_id idempotency_key arguments = .ok wire_bytes ∧
            exec (app.handle decodeWide operation headers wire_bytes) sim =
              (respond (exec (simulator.execute
                  ⟨capability, request_id, idempotency_key, arguments⟩) sim).1,
                (exec (simulator.execute
                  ⟨capability, request_id, idempotency_key, arguments⟩) sim).2)

/-- An application is guarded when its simulator settles what it answers. -/
theorem guarded_of_settles {S : Type} {simulator : ExecutableSimulator S}
    (decodeWide : WideDecoder) (h : ∀ q, Settles (simulator.execute q)) :
    Guarded decodeWide simulator where
  unchanged _ _ _ _ _ _ _ := unchanged_of_status h
  verified _ _ _ _ _ _ _ := verified_of_status
  delivered := by
    intro app operation capability headers request_id idempotency_key arguments sim hoperation
      hadmits hrequest hkey hfinite
    refine ⟨_, encodeSimulatorRequest_ok hrequest hkey hfinite, ?_⟩
    rw [handle_admitted hoperation hadmits, serve_encoded decodeWide simulator capability hrequest
      hkey]

variable (decodeWide : WideDecoder) (decimalOf : String → Option PyDecimal) (clock : Raises String)

end CBrain.Simulators

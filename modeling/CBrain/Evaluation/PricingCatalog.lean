import CBrain.Company.Amounts
import CBrain.Evaluation.CostComparison
import CBrain.Framework.Paired

/-! # Reading a pricing catalog

    Models `pricing_catalog_from_mapping` (`cbrain/evaluation/pricing.py`), which reads a
    catalog from decoded JSON, with `reject_non_finite_number` (`cbrain/models/usage.py`).

    A price is read with `Decimal(text)`.  What is read as NaN fails when it is compared
    with zero, and not with `PricingError`; what is read as an infinity is compared and
    kept.

    * `CatalogLaw`  : `PricingError`, or finite prices and no key twice.
    * `SafePayload` : what the payload must be for that. -/

namespace CBrain

open Json (Dict)
open Paired (exists_of_mem_left exists_of_mem_right)
open PyDecimal (Unsigned unsigned_iff)

/-! ## Section 1: What a check raises -/

section checks
variable {α β : Type} {P : Exn → Prop} {wrong fine wrong' fine' : Prop}

/-- The program raises only exceptions of a kind. -/
def RaisesOnly (P : Exn → Prop) (m : Raises α) : Prop := ∀ e, m = .error e → P e

@[simp] theorem raisesOnly_ok (a : α) : RaisesOnly P (.ok a : Raises α) := by
  intro e h
  cases h

@[simp] theorem raisesOnly_error {e : Exn} : RaisesOnly P (.error e : Raises α) ↔ P e := by
  constructor
  · intro h
    exact h e rfl
  · intro he e' h
    obtain rfl := Except.error.inj h
    exact he

theorem raisesOnly_bind {m : Raises α} {f : α → Raises β} :
    RaisesOnly P (m >>= f) ↔ RaisesOnly P m ∧ ∀ a, m = .ok a → RaisesOnly P (f a) := by
  cases m with
  | error e => simp [bind, Except.bind]
  | ok a => simp [bind, Except.bind]

theorem raisesOnly_ensure {c : Prop} [Decidable c] {e : Exn} (h : P e) :
    RaisesOnly P (ensure c e) := by
  intro e' he
  unfold ensure at he
  split at he
  · cases he
  · exact Except.error.inj he ▸ h

/-- When a program raises an exception of another kind, and when it returns. -/
structure Checks (P : Exn → Prop) (m : Raises α) (wrong fine : Prop) : Prop where
  raises : RaisesOnly P m ↔ ¬ wrong
  returns : (∃ a, m = .ok a) ↔ fine

theorem Checks.congr {m : Raises α} (h : Checks P m wrong fine) (hw : wrong ↔ wrong')
    (hf : fine ↔ fine') : Checks P m wrong' fine' :=
  ⟨h.raises.trans (not_congr hw), h.returns.trans hf⟩

theorem Checks.ok (a : α) : Checks P (.ok a : Raises α) False True := by
  constructor
  · simp
  · exact iff_of_true ⟨a, rfl⟩ trivial

theorem Checks.error {e : Exn} (h : P e) : Checks P (.error e : Raises α) False False := by
  constructor
  · simp [h]
  · simp

theorem Checks.require {c : Prop} [Decidable c] {e : Exn} (h : P e) :
    Checks P (require c e) False c := by
  unfold CBrain.require
  by_cases hc : c
  · rw [if_pos hc]
    exact (Checks.ok ()).congr Iff.rfl (iff_of_true trivial hc)
  · rw [if_neg hc]
    exact (Checks.error h).congr Iff.rfl (iff_of_false id hc)

/-- **Sequencing rule**: what follows is reached from what returns. -/
theorem Checks.bind {m : Raises α} {f : α → Raises β} (hm : Checks P m wrong fine)
    (hf : ∀ a, m = .ok a → Checks P (f a) wrong' fine') :
    Checks P (m >>= f) (wrong ∨ fine ∧ wrong') (fine ∧ fine') := by
  constructor
  · rw [raisesOnly_bind, hm.raises, not_or, not_and, ← hm.returns]
    apply and_congr_right
    intro _
    constructor
    · rintro h ⟨a, ha⟩
      exact (hf a ha).raises.mp (h a ha)
    · intro h a ha
      exact (hf a ha).raises.mpr (h ⟨a, ha⟩)
  · rw [← hm.returns]
    constructor
    · rintro ⟨b, hb⟩
      obtain ⟨a, ha, hrest⟩ := bind_ok.mp hb
      exact ⟨⟨a, ha⟩, (hf a ha).returns.mp ⟨b, hrest⟩⟩
    · rintro ⟨⟨a, ha⟩, hfine⟩
      obtain ⟨b, hb⟩ := (hf a ha).returns.mpr hfine
      exact ⟨b, bind_ok.mpr ⟨a, ha, hb⟩⟩

/-- Sequencing after a step that raises nothing else. -/
theorem Checks.then {m : Raises α} {f : α → Raises β} (hm : Checks P m False fine)
    (hf : ∀ a, m = .ok a → Checks P (f a) wrong' fine') :
    Checks P (m >>= f) (fine ∧ wrong') (fine ∧ fine') :=
  (hm.bind hf).congr (or_iff_right id) Iff.rfl

/-- An element goes wrong behind fine ones only. -/
def FirstWrong (wrong fine : α → Prop) : List α → Prop
  | [] => False
  | x :: xs => wrong x ∨ fine x ∧ FirstWrong wrong fine xs

theorem firstWrong_map {γ : Type} {wrong fine : α → Prop} {g : γ → α} {xs : List γ} :
    FirstWrong wrong fine (xs.map g) ↔
      FirstWrong (fun x => wrong (g x)) (fun x => fine (g x)) xs := by
  induction xs with
  | nil => exact Iff.rfl
  | cons x xs ih =>
    show wrong (g x) ∨ fine (g x) ∧ FirstWrong wrong fine (xs.map g) ↔ _
    rw [ih]
    exact Iff.rfl

/-- **Loop rule**: a list is mapped until an element raises. -/
theorem Checks.mapM {f : α → Raises β} {wrong fine : α → Prop}
    (h : ∀ x, Checks P (f x) (wrong x) (fine x)) (xs : List α) :
    Checks P (xs.mapM f) (FirstWrong wrong fine xs) (∀ x ∈ xs, fine x) := by
  induction xs with
  | nil =>
    rw [List.mapM_nil]
    exact (Checks.ok []).congr Iff.rfl (by simp)
  | cons x xs ih =>
    rw [List.mapM_cons]
    refine ((h x).bind fun y _ => ih.bind fun ys _ => Checks.ok (y :: ys)).congr ?_ ?_
    · simp [FirstWrong]
    · simp

end checks

/-! ## Section 2: Prices -/

/-- `PricingError`. -/
def pricingError (message : String) : Exn := ⟨.valueError, "PricingError", [.text message]⟩

/-- The exception is a `PricingError`. -/
def IsPricingError (e : Exn) : Prop := e.kind = .valueError ∧ e.name = "PricingError"

@[simp] theorem isPricingError_pricingError (message : String) :
    IsPricingError (pricingError message) := ⟨rfl, rfl⟩

/-- The least integer that `float` rounds beyond the greatest double. -/
def floatBound : Nat := 2 ^ 1024 - 2 ^ 970

/-- `reject_non_finite_number`, of an integer: a double that is made of one is finite. -/
def rejectNonFiniteNumber (value : Int) : Raises Unit :=
  require (value.natAbs < floatBound)
    ⟨.other, "OverflowError", [.text "int too large to convert to float"]⟩

/-- A price that was compared with zero. -/
abbrev Price : Type := { price : PyDecimal // price.lt? (PyDecimal.ofInt 0) = some false }

/-- `_decimal_price`, of the text of a value. -/
def priceOfText (text field_name : String) : Raises Price :=
  match decimalOf text with
  | none => .error (pricingError s!"{field_name} must be a decimal string")
  | some parsed =>
    match h : parsed.lt? (PyDecimal.ofInt 0) with
    | none => .error decimalSignal
    | some true => .error (pricingError s!"{field_name} must be non-negative")
    | some false => .ok ⟨parsed, h⟩

/-- `_decimal_price`. -/
def decimalPrice (value : Json) (field_name : String) : Raises Price :=
  match value with
  | .int i => do
    rejectNonFiniteNumber i
    priceOfText (pyStr (.int i)) field_name
  | .str s => priceOfText s field_name
  | _ => .error (pricingError s!"{field_name} must be a decimal string")

/-- What the text of a value is read as. -/
def priceText? : Json → Option PyDecimal
  | .int i => decimalOf (pyStr (.int i))
  | .str s => decimalOf s
  | _ => none

/-- An integer that is no double. -/
def tooLarge : Json → Bool
  | .int i => floatBound ≤ i.natAbs
  | _ => false

/-- The value makes `_decimal_price` raise something else than `PricingError`. -/
def PriceEscapes (value : Json) : Prop := tooLarge value = true ∨ priceText? value = some .nan

/-- The value is accepted as a price. -/
def PriceAccepted (value : Json) : Prop :=
  tooLarge value = false ∧ ∃ price, priceText? value = some price ∧ Unsigned price

theorem priceOfText_ok {text field_name : String} {price : Price} :
    priceOfText text field_name = .ok price ↔ decimalOf text = some price.1 := by
  unfold priceOfText
  constructor
  · intro h
    split at h
    · cases h
    rename_i parsed hparsed
    split at h
    · cases h
    · cases h
    · obtain rfl := Except.ok.inj h
      exact hparsed
  · intro h
    have hprice := price.2
    split
    · rename_i hnone
      rw [hnone] at h
      cases h
    rename_i parsed hparsed
    obtain rfl : parsed = price.1 := Option.some.inj (hparsed.symm.trans h)
    split
    · rename_i hnone
      rw [hnone] at hprice
      cases hprice
    · rename_i htrue
      rw [htrue] at hprice
      cases hprice
    · rfl

/-- Only NaN cannot be compared with zero. -/
theorem lt_zero_none {x : PyDecimal} : x.lt? (PyDecimal.ofInt 0) = none ↔ x = .nan := by
  cases x with
  | nan => simp [PyDecimal.lt?]
  | infinity neg => simp [PyDecimal.lt?, PyDecimal.ofInt]
  | finite neg c e => simp [PyDecimal.lt?, PyDecimal.ofInt]

theorem raisesOnly_priceOfText {text field_name : String} :
    RaisesOnly IsPricingError (priceOfText text field_name) ↔ decimalOf text ≠ some .nan := by
  unfold priceOfText
  split
  · rename_i hnone
    simp [hnone]
  · rename_i parsed hparsed
    rw [hparsed]
    split
    · rename_i hnan
      obtain rfl := lt_zero_none.mp hnan
      simp [IsPricingError, decimalSignal]
    · rename_i hbelow
      have hnan : parsed ≠ .nan := by
        intro h
        rw [lt_zero_none.mpr h] at hbelow
        cases hbelow
      simp [hnan]
    · rename_i hnonneg
      have hnan : parsed ≠ .nan := by
        intro h
        rw [lt_zero_none.mpr h] at hnonneg
        cases hnonneg
      simp [hnan]

/-- **Contract** of `_decimal_price`: what it returns. -/
theorem decimalPrice_ok {value : Json} {field_name : String} {price : Price} :
    decimalPrice value field_name = .ok price ↔
      tooLarge value = false ∧ priceText? value = some price.1 := by
  cases value with
  | int i =>
    unfold decimalPrice rejectNonFiniteNumber
    rw [require_bind_ok, priceOfText_ok]
    simp [tooLarge, priceText?]
  | str s =>
    unfold decimalPrice
    rw [priceOfText_ok]
    simp [tooLarge, priceText?]
  | _ => simp [decimalPrice, priceText?]

/-- **Contract** of `_decimal_price`. -/
theorem checks_decimalPrice (value : Json) (field_name : String) :
    Checks IsPricingError (decimalPrice value field_name) (PriceEscapes value)
      (PriceAccepted value) := by
  constructor
  · unfold PriceEscapes
    cases value with
    | int i =>
      unfold decimalPrice rejectNonFiniteNumber
      rw [raisesOnly_bind]
      by_cases hsmall : i.natAbs < floatBound
      · rw [require_ok (u := ()) |>.mpr hsmall]
        simp [raisesOnly_priceOfText, tooLarge, priceText?, hsmall]
      · have hlarge : floatBound ≤ i.natAbs := not_lt.mp hsmall
        simp [require, tooLarge, IsPricingError, hsmall, hlarge]
    | str s =>
      unfold decimalPrice
      rw [raisesOnly_priceOfText]
      simp [tooLarge, priceText?]
    | _ => simp [decimalPrice, tooLarge, priceText?]
  · unfold PriceAccepted
    constructor
    · rintro ⟨price, h⟩
      obtain ⟨hsmall, hread⟩ := decimalPrice_ok.mp h
      exact ⟨hsmall, price.1, hread, unsigned_iff.mpr price.2⟩
    · rintro ⟨hsmall, price, hread, hunsigned⟩
      exact ⟨⟨price, unsigned_iff.mp hunsigned⟩, decimalPrice_ok.mpr ⟨hsmall, hread⟩⟩

/-! ## Section 3: Entries -/

/-- `ModelPricing`, with its date. -/
structure DatedPricing extends ModelPricing where
  effective_date : String

/-- `ModelPricing.pricing_key`. -/
def DatedPricing.pricingKey (entry : DatedPricing) : String × String :=
  (entry.provider, entry.model)

/-- The prices of an entry. -/
def ModelPricing.prices (entry : ModelPricing) : List PyDecimal :=
  [entry.input_price_per_million, entry.cached_input_price_per_million,
    entry.output_price_per_million, entry.reasoning_price_per_million]

/-- `ReasoningTokenTreatment(value)`. -/
def ReasoningTokenTreatment.ofValue? (value : String) : Option ReasoningTokenTreatment :=
  if value = "bill_as_output" then some .billAsOutput
  else if value = "bill_separately" then some .billSeparately
  else if value = "ignore" then some .ignore
  else none

/-- The treatment of reasoning tokens that an entry names. -/
def entryTreatment (treatment_raw : Json) (index : Nat) : Raises ReasoningTokenTreatment :=
  match treatment_raw with
  | .str raw =>
    match ReasoningTokenTreatment.ofValue? raw with
    | some treatment => .ok treatment
    | none =>
      .error (pricingError s!"entries[{index}].reasoning_token_treatment is invalid")
  | _ => .error (pricingError s!"entries[{index}].reasoning_token_treatment must be a string")

/-- `_required_text` of a field. -/
def entryText (members : Json.Members) (index : Nat) (name : String) : Raises String :=
  requiredMember (pricingError s!"entries[{index}].{name} must be non-empty text")
    (Json.getD members name)

/-- `_decimal_price` of a field. -/
def entryPrice (members : Json.Members) (index : Nat) (name : String) : Raises Price :=
  decimalPrice (Json.getD members name) s!"entries[{index}].{name}"

/-- `_parse_entry`. -/
def parseEntry (payload : Json) (index : Nat) : Raises DatedPricing :=
  match payload with
  | .obj members => do
    let provider ← entryText members index "provider"
    let model ← entryText members index "model"
    let effective_date ← entryText members index "effective_date"
    let currency ← entryText members index "currency"
    let treatment ← entryTreatment (Json.getD members "reasoning_token_treatment") index
    let source_url ← entryText members index "source_url"
    let input ← entryPrice members index "input_price_per_million"
    let cached_input ← entryPrice members index "cached_input_price_per_million"
    let output ← entryPrice members index "output_price_per_million"
    let reasoning ← entryPrice members index "reasoning_price_per_million"
    pure
      { provider, model, effective_date, currency
        input_price_per_million := input.1
        cached_input_price_per_million := cached_input.1
        output_price_per_million := output.1
        reasoning_price_per_million := reasoning.1
        reasoning_token_treatment := treatment
        source_url
        prices_nonneg := by simp [input.2, cached_input.2, output.2, reasoning.2] }
  | _ => .error (pricingError s!"entry at index {index} must be an object")

/-- What an entry's prices are read from, in their order. -/
def entryPrices (members : Json.Members) : List Json :=
  ["input_price_per_million", "cached_input_price_per_million", "output_price_per_million",
    "reasoning_price_per_million"].map (Json.getD members)

/-- `item.get(name)` of an entry. -/
def itemMember (item : Json) (name : String) : Json :=
  match item with
  | .obj members => Json.getD members name
  | _ => .null

/-- What an entry's prices are read from. -/
def itemPrices (item : Json) : List Json :=
  match item with
  | .obj members => entryPrices members
  | _ => []

/-- What is read before the prices is accepted. -/
structure EntryHeader (members : Json.Members) : Prop where
  texts : ∀ name ∈ ["provider", "model", "effective_date", "currency", "source_url"],
    isText (Json.getD members name) = true
  treatment : ∃ raw treatment, Json.getD members "reasoning_token_treatment" = .str raw ∧
    ReasoningTokenTreatment.ofValue? raw = some treatment

/-- The entry makes `_parse_entry` raise something else than `PricingError`: one of its
    prices does, behind prices that are accepted. -/
def EntryEscapes (item : Json) : Prop :=
  ∃ members, item = .obj members ∧ EntryHeader members ∧
    FirstWrong PriceEscapes PriceAccepted (entryPrices members)

/-- The entry is accepted. -/
def EntryAccepted (item : Json) : Prop :=
  ∃ members, item = .obj members ∧ EntryHeader members ∧
    ∀ value ∈ entryPrices members, PriceAccepted value

theorem checks_requiredMember {e : Exn} (h : IsPricingError e) (j : Json) :
    Checks IsPricingError (requiredMember e j) False (isText j = true) := by
  constructor
  · simp only [not_false_eq_true, iff_true]
    intro e' he
    exact requiredMember_error he ▸ h
  · cases j with
    | str s => simp [requiredMember_ok, isText]
    | _ => simp [requiredMember_ok, isText]

theorem checks_entryText (members : Json.Members) (index : Nat) (name : String) :
    Checks IsPricingError (entryText members index name) False
      (isText (Json.getD members name) = true) :=
  checks_requiredMember (isPricingError_pricingError _) _

theorem checks_entryTreatment (raw : Json) (index : Nat) :
    Checks IsPricingError (entryTreatment raw index) False
      (∃ text treatment, raw = .str text ∧
        ReasoningTokenTreatment.ofValue? text = some treatment) := by
  unfold entryTreatment
  split
  · rename_i text
    split
    · rename_i treatment htreatment
      exact (Checks.ok treatment).congr Iff.rfl
        (iff_of_true trivial ⟨text, treatment, rfl, htreatment⟩)
    · rename_i hnone
      exact (Checks.error (isPricingError_pricingError _)).congr Iff.rfl (by simp [hnone])
  · rename_i hother
    refine (Checks.error (isPricingError_pricingError _)).congr Iff.rfl ?_
    simp only [false_iff, not_exists, not_and]
    intro text _ htext
    exact absurd htext (hother text)

/-- The parts of a header, in the order in which they are read. -/
theorem entryHeader_iff {members : Json.Members} :
    EntryHeader members ↔
      isText (Json.getD members "provider") = true ∧ isText (Json.getD members "model") = true ∧
      isText (Json.getD members "effective_date") = true ∧
      isText (Json.getD members "currency") = true ∧
      (∃ text treatment, Json.getD members "reasoning_token_treatment" = .str text ∧
        ReasoningTokenTreatment.ofValue? text = some treatment) ∧
      isText (Json.getD members "source_url") = true := by
  constructor
  · intro h
    have htext := h.texts
    simp only [List.forall_mem_cons] at htext
    exact ⟨htext.1, htext.2.1, htext.2.2.1, htext.2.2.2.1, h.treatment, htext.2.2.2.2.1⟩
  · rintro ⟨hprovider, hmodel, hdate, hcurrency, htreatment, hurl⟩
    refine ⟨?_, htreatment⟩
    simp only [List.forall_mem_cons]
    exact ⟨hprovider, hmodel, hdate, hcurrency, hurl, by simp⟩

/-- **Contract** of `_parse_entry`. -/
theorem checks_parseEntry (item : Json) (index : Nat) :
    Checks IsPricingError (parseEntry item index) (EntryEscapes item) (EntryAccepted item) := by
  cases item with
  | obj members =>
    have htext := checks_entryText members index
    have hprice : ∀ name, Checks IsPricingError (entryPrice members index name) _ _ :=
      fun name => checks_decimalPrice (Json.getD members name) _
    have hsteps : Checks IsPricingError (parseEntry (.obj members) index) _ _ :=
      (htext "provider").then fun _ _ =>
      (htext "model").then fun _ _ =>
      (htext "effective_date").then fun _ _ =>
      (htext "currency").then fun _ _ =>
      (checks_entryTreatment (Json.getD members "reasoning_token_treatment") index).then fun _ _ =>
      (htext "source_url").then fun _ _ =>
      (hprice "input_price_per_million").bind fun _ _ =>
      (hprice "cached_input_price_per_million").bind fun _ _ =>
      (hprice "output_price_per_million").bind fun _ _ =>
      (hprice "reasoning_price_per_million").bind fun _ _ => Checks.ok _
    refine hsteps.congr ?_ ?_
    · simp [EntryEscapes, entryHeader_iff, entryPrices, FirstWrong, and_assoc]
    · simp [EntryAccepted, entryHeader_iff, entryPrices, and_assoc]
  | _ =>
    refine (Checks.error (isPricingError_pricingError _)).congr ?_ ?_
    · simp [EntryEscapes]
    · simp [EntryAccepted]

/-- What an entry is made of. -/
structure EntryRead (item : Json) (entry : DatedPricing) : Prop where
  accepted : EntryAccepted item
  provider : itemMember item "provider" = .str entry.provider
  model : itemMember item "model" = .str entry.model
  prices : (itemPrices item).map priceText? = entry.prices.map some
  source_url : nonBlank entry.source_url = true

theorem entryRead_of_parseEntry {item : Json} {index : Nat} {entry : DatedPricing}
    (h : parseEntry item index = .ok entry) : EntryRead item entry := by
  have haccepted := (checks_parseEntry item index).returns.mp ⟨entry, h⟩
  obtain ⟨members, rfl, -, -⟩ := id haccepted
  unfold parseEntry entryText entryPrice at h
  simp only [bind_ok, requiredMember_ok, decimalPrice_ok, pure_ok] at h
  obtain ⟨provider, ⟨hprovider, -⟩, model, ⟨hmodel, -⟩, _, -, _, -, _, -, _, ⟨-, hurl⟩,
    input, ⟨-, hinput⟩, cached_input, ⟨-, hcached⟩, output, ⟨-, houtput⟩,
    reasoning, ⟨-, hreasoning⟩, rfl⟩ := h
  refine ⟨haccepted, hprovider, hmodel, ?_, hurl⟩
  simp [itemPrices, entryPrices, ModelPricing.prices, hinput, hcached, houtput, hreasoning]

/-! ## Section 4: The catalog -/

/-- `PricingCatalog`, as it is read.  The version is kept as it is written: `1`, `1.0` or
    `true`. -/
structure ReadCatalog where
  schema_version : Json
  catalog_id : String
  entries : List DatedPricing
  keys_nodup : (entries.map DatedPricing.pricingKey).Nodup

/-- The catalog that costs are taken from. -/
def ReadCatalog.catalog (read : ReadCatalog) : PricingCatalog :=
  ⟨read.entries.map DatedPricing.toModelPricing⟩

/-- The entries of a catalog, before they are parsed. -/
def entriesRaw : Json → Raises (List Json)
  | .arr items =>
    if items.isEmpty then .error (pricingError "entries must be a non-empty list") else .ok items
  | _ => .error (pricingError "entries must be a non-empty list")

/-- `pricing_catalog_from_mapping`. -/
def pricingCatalogFromMapping (payload : Dict) : Raises ReadCatalog := do
  let schema_version := payload.get "schema_version"
  require (schema_version.pyEq (.int 1) = true)
    ⟨.valueError, "PricingError",
      [.text "unsupported pricing schema version: ", .repr schema_version]⟩
  let catalog_id ← requiredMember (pricingError "catalog_id must be non-empty")
    (payload.get "catalog_id")
  let items ← entriesRaw (payload.get "entries")
  let entries ← items.zipIdx.mapM fun item => parseEntry item.1 item.2
  let ⟨keys_nodup⟩ ← ensure ((entries.map DatedPricing.pricingKey).Nodup)
    (pricingError "duplicate provider/model pricing entries")
  pure { schema_version, catalog_id, entries, keys_nodup }

/-- What is read before the entries is accepted, and these are the entries. -/
structure CatalogHeader (payload : Dict) (items : List Json) : Prop where
  version : (payload.get "schema_version").pyEq (.int 1) = true
  catalog_id : isText (payload.get "catalog_id") = true
  entries : payload.get "entries" = .arr items
  nonempty : items ≠ []

/-- The key of an entry, before it is parsed. -/
def itemKey (item : Json) : Json × Json := (itemMember item "provider", itemMember item "model")

/-- `PricingError`, or finite prices that are not below zero and no key twice. -/
def CatalogLaw (payload : Dict) : Prop :=
  match pricingCatalogFromMapping payload with
  | .error e => IsPricingError e
  | .ok catalog =>
    (∀ entry ∈ catalog.entries, ∀ price ∈ entry.prices,
      price.isFinite = true ∧ Unsigned price) ∧
    (catalog.entries.map DatedPricing.pricingKey).Nodup

/-- No price goes wrong behind accepted ones, and where everything is accepted, no price is
    infinite. -/
structure SafePayload (payload : Dict) : Prop where
  escapes : ∀ items, CatalogHeader payload items → ¬ FirstWrong EntryEscapes EntryAccepted items
  infinite : ∀ items, CatalogHeader payload items → (∀ item ∈ items, EntryAccepted item) →
    (items.map itemKey).Nodup →
    ∀ item ∈ items, ∀ value ∈ itemPrices item, priceText? value ≠ some (.infinity false)

theorem entriesRaw_ok {raw : Json} {items : List Json} :
    entriesRaw raw = .ok items ↔ raw = .arr items ∧ items ≠ [] := by
  cases raw with
  | arr values =>
    unfold entriesRaw
    cases values with
    | nil => simp
    | cons value values =>
      simp only [List.isEmpty_cons, Bool.false_eq_true, if_false, Except.ok.injEq, Json.arr.injEq]
      constructor
      · rintro rfl
        exact ⟨rfl, List.cons_ne_nil _ _⟩
      · intro h
        exact h.1
  | _ => simp [entriesRaw]

theorem raisesOnly_entriesRaw (raw : Json) : RaisesOnly IsPricingError (entriesRaw raw) := by
  unfold entriesRaw
  split
  · split
    · simp
    · simp
  · simp

/-- The entries of a payload whose header is accepted, with their places. -/
theorem checks_entries (items : List Json) :
    Checks IsPricingError (items.zipIdx.mapM fun item => parseEntry item.1 item.2)
      (FirstWrong EntryEscapes EntryAccepted items) (∀ item ∈ items, EntryAccepted item) := by
  have hfst : items.zipIdx.map Prod.fst = items := List.zipIdx_map_fst 0 items
  refine (Checks.mapM (fun item => checks_parseEntry item.1 item.2) items.zipIdx).congr ?_ ?_
  · rw [← firstWrong_map, hfst]
  · constructor
    · intro h item hitem
      rw [← hfst] at hitem
      obtain ⟨place, hplace, rfl⟩ := List.mem_map.mp hitem
      exact h place hplace
    · intro h place hplace
      exact h place.1 (hfst ▸ List.mem_map_of_mem hplace)

theorem entryRead_of_mapM {items : List Json} {entries : List DatedPricing}
    (h : (items.zipIdx.mapM fun item => parseEntry item.1 item.2) = .ok entries) :
    List.Forall₂ EntryRead items entries := by
  have hread : List.Forall₂ (fun item entry => EntryRead item.1 entry) items.zipIdx entries :=
    (mapM_ok.mp h).imp fun _ _ hentry => entryRead_of_parseEntry hentry
  have hfst : items.zipIdx.map Prod.fst = items := List.zipIdx_map_fst 0 items
  rw [← hfst]
  exact List.forall₂_map_left_iff.mpr hread

theorem isText_iff {j : Json} : isText j = true ↔ ∃ s, j = .str s ∧ nonBlank s = true := by
  cases j with
  | str s => simp [isText]
  | _ => simp [isText]

/-- What follows an accepted header. -/
theorem pricingCatalogFromMapping_header {payload : Dict} {items : List Json}
    (h : CatalogHeader payload items) :
    ∃ catalog_id, pricingCatalogFromMapping payload = (do
      let entries ← items.zipIdx.mapM fun item => parseEntry item.1 item.2
      let ⟨keys_nodup⟩ ← ensure ((entries.map DatedPricing.pricingKey).Nodup)
        (pricingError "duplicate provider/model pricing entries")
      pure ⟨payload.get "schema_version", catalog_id, entries, keys_nodup⟩) := by
  obtain ⟨catalog_id, hid, htext⟩ := isText_iff.mp h.catalog_id
  refine ⟨catalog_id, ?_⟩
  unfold pricingCatalogFromMapping
  simp only
  rw [require_bind_pos h.version, requiredMember_ok.mpr ⟨hid, htext⟩, ok_bind,
    entriesRaw_ok.mpr ⟨h.entries, h.nonempty⟩, ok_bind]

/-- **Contract** of the errors: a payload raises something else exactly when one of its
    entries does, behind entries that are accepted. -/
theorem raisesOnly_pricingCatalogFromMapping {payload : Dict} :
    RaisesOnly IsPricingError (pricingCatalogFromMapping payload) ↔
      ∀ items, CatalogHeader payload items → ¬ FirstWrong EntryEscapes EntryAccepted items := by
  constructor
  · intro h items hheader
    obtain ⟨catalog_id, heq⟩ := pricingCatalogFromMapping_header hheader
    rw [heq, raisesOnly_bind] at h
    exact (checks_entries items).raises.mp h.1
  · intro h
    unfold pricingCatalogFromMapping
    simp only [raisesOnly_bind]
    refine ⟨(Checks.require (And.intro rfl rfl)).raises.mpr id, ?_⟩
    intro _ hversion
    refine ⟨(checks_requiredMember (isPricingError_pricingError _) _).raises.mpr id, ?_⟩
    intro catalog_id hid
    refine ⟨raisesOnly_entriesRaw _, ?_⟩
    intro items hitems
    obtain ⟨hentries, hnonempty⟩ := entriesRaw_ok.mp hitems
    have hheader : CatalogHeader payload items :=
      { version := require_ok.mp hversion
        catalog_id := isText_iff.mpr ⟨catalog_id, requiredMember_ok.mp hid⟩
        entries := hentries
        nonempty := hnonempty }
    refine ⟨(checks_entries items).raises.mpr (h items hheader), ?_⟩
    intro entries _
    refine ⟨raisesOnly_ensure (isPricingError_pricingError _), ?_⟩
    intro _ _
    exact raisesOnly_ok _

/-- **Contract** of a catalog that is returned. -/
theorem pricingCatalogFromMapping_ok {payload : Dict} {catalog : ReadCatalog}
    (h : pricingCatalogFromMapping payload = .ok catalog) :
    ∃ items, CatalogHeader payload items ∧ List.Forall₂ EntryRead items catalog.entries := by
  unfold pricingCatalogFromMapping at h
  simp only [require_bind_ok] at h
  obtain ⟨hversion, h⟩ := h
  obtain ⟨catalog_id, hid, h⟩ := bind_ok.mp h
  obtain ⟨items, hitems, h⟩ := bind_ok.mp h
  obtain ⟨entries, hparsed, h⟩ := bind_ok.mp h
  obtain ⟨keys_nodup, h⟩ := ensure_bind_ok.mp h
  obtain rfl := pure_ok.mp h
  obtain ⟨hentries, hnonempty⟩ := entriesRaw_ok.mp hitems
  refine ⟨items, ⟨hversion, isText_iff.mpr ⟨catalog_id, requiredMember_ok.mp hid⟩, hentries,
    hnonempty⟩, entryRead_of_mapM hparsed⟩

theorem accepted_of_read {items : List Json} {entries : List DatedPricing}
    (h : List.Forall₂ EntryRead items entries) : ∀ item ∈ items, EntryAccepted item := by
  intro item hitem
  obtain ⟨_, _, hread⟩ := exists_of_mem_left h hitem
  exact hread.accepted

/-- The keys of what is read are those of the entries. -/
theorem keys_nodup_iff {items : List Json} {entries : List DatedPricing}
    (h : List.Forall₂ EntryRead items entries) :
    (items.map itemKey).Nodup ↔ (entries.map DatedPricing.pricingKey).Nodup := by
  have hkeys : items.map itemKey =
      (entries.map DatedPricing.pricingKey).map fun key => (Json.str key.1, Json.str key.2) := by
    induction h with
    | nil => rfl
    | cons hread _ ih =>
      rw [List.map_cons, List.map_cons, List.map_cons, ih]
      unfold itemKey DatedPricing.pricingKey
      rw [hread.provider, hread.model]
  rw [hkeys, List.nodup_map_iff]
  intro a b hab
  have hparts := Prod.mk.inj hab
  exact Prod.ext (Json.str.inj hparts.1) (Json.str.inj hparts.2)

/-- A payload whose entries are accepted, with no key twice, is read. -/
theorem pricingCatalogFromMapping_returns {payload : Dict} {items : List Json}
    (hheader : CatalogHeader payload items) (haccepted : ∀ item ∈ items, EntryAccepted item)
    (hkeys : (items.map itemKey).Nodup) :
    ∃ catalog, pricingCatalogFromMapping payload = .ok catalog ∧
      List.Forall₂ EntryRead items catalog.entries := by
  obtain ⟨catalog_id, heq⟩ := pricingCatalogFromMapping_header hheader
  obtain ⟨entries, hparsed⟩ := (checks_entries items).returns.mpr haccepted
  have hread := entryRead_of_mapM hparsed
  have hnodup := (keys_nodup_iff hread).mp hkeys
  refine ⟨⟨payload.get "schema_version", catalog_id, entries, hnodup⟩, ?_, hread⟩
  rw [heq, hparsed, ok_bind, ensure_bind_pos hnodup]
  rfl

/-- A catalog is read with `PricingError` as the only error and no special price exactly
    when its payload is safe. -/
theorem pricingCatalogFromMapping_law_iff (payload : Dict) :
    CatalogLaw payload ↔ SafePayload payload := by
  unfold CatalogLaw
  constructor
  · intro hlaw
    have honly : RaisesOnly IsPricingError (pricingCatalogFromMapping payload) := by
      intro e he
      rw [he] at hlaw
      exact hlaw
    refine ⟨raisesOnly_pricingCatalogFromMapping.mp honly, ?_⟩
    intro items hheader haccepted hkeys item hitem value hvalue hinfinite
    obtain ⟨catalog, hok, hread⟩ := pricingCatalogFromMapping_returns hheader haccepted hkeys
    rw [hok] at hlaw
    obtain ⟨entry, hentry, hprices⟩ := exists_of_mem_left hread hitem
    have hmem : some (.infinity false) ∈ entry.prices.map some := by
      rw [← hprices.prices, ← hinfinite]
      exact List.mem_map_of_mem hvalue
    obtain ⟨price, hprice, hsome⟩ := List.mem_map.mp hmem
    have hfinite := (hlaw.1 entry hentry price hprice).1
    rw [Option.some.inj hsome] at hfinite
    cases hfinite
  · intro hsafe
    cases hresult : pricingCatalogFromMapping payload with
    | error e => exact raisesOnly_pricingCatalogFromMapping.mpr hsafe.escapes e hresult
    | ok catalog =>
      refine ⟨?_, catalog.keys_nodup⟩
      intro entry hentry price hprice
      obtain ⟨items, hheader, hread⟩ := pricingCatalogFromMapping_ok hresult
      have hunsigned : Unsigned price := entry.unsigned hprice
      refine ⟨?_, hunsigned⟩
      obtain ⟨item, hitem, hprices⟩ := exists_of_mem_right hread hentry
      have hmem : some price ∈ (itemPrices item).map priceText? := by
        rw [hprices.prices]
        exact List.mem_map_of_mem hprice
      obtain ⟨value, hvalue, hsome⟩ := List.mem_map.mp hmem
      have hinfinite := hsafe.infinite items hheader (accepted_of_read hread)
        ((keys_nodup_iff hread).mpr catalog.keys_nodup) item hitem value hvalue
      cases price with
      | nan => exact hunsigned.elim
      | finite neg c e => rfl
      | infinity neg =>
        obtain rfl : neg = false := hunsigned
        exact absurd hsome hinfinite

/-- An entry with this input price. -/
def pricingEntry (model currency input_price : String) : Dict :=
  Dict.of
    ([("provider", "provider"), ("model", model), ("effective_date", "2026-01-01"),
      ("currency", currency), ("reasoning_token_treatment", "ignore"),
      ("source_url", "https://example.test/pricing"), ("input_price_per_million", input_price),
      ("cached_input_price_per_million", "0"), ("output_price_per_million", "1"),
      ("reasoning_price_per_million", "0")].map fun field => (field.1, .str field.2))
    (by
      intro m hm
      obtain ⟨field, -, rfl⟩ := List.mem_map.mp hm
      exact Json.WF.str _)

/-- A catalog of these entries. -/
def catalogPayload (entries : List Dict) : Dict :=
  Dict.of [("schema_version", .int 1), ("catalog_id", .str "catalog"),
      ("entries", .arr (entries.map Dict.json))]
    (by
      simp only [List.forall_mem_cons]
      exact ⟨Json.WF.int _, Json.WF.str _, Json.WF.arr (by simp), by simp⟩)

/-- A price that is not a number makes the comparison raise another exception. -/
theorem nan_price_escapes : ¬ ∀ payload, CatalogLaw payload := by
  intro h
  obtain ⟨payload, hpayload⟩ : ∃ payload, payload =
    catalogPayload [pricingEntry "model" "USD" "NaN"] := ⟨_, rfl⟩
  have hlaw := h payload
  have hrun : (pricingCatalogFromMapping payload).map (fun _ => ()) = .error decimalSignal := by
    rw [hpayload]
    decide +kernel
  unfold CatalogLaw at hlaw
  cases hresult : pricingCatalogFromMapping payload with
  | ok catalog =>
    rw [hresult] at hrun
    cases hrun
  | error e =>
    rw [hresult] at hlaw hrun
    obtain rfl : e = decimalSignal := Except.error.inj hrun
    exact absurd hlaw.2 (by decide)

/-- An infinite price is kept. -/
example : ((pricingCatalogFromMapping
    (catalogPayload [pricingEntry "model" "USD" "Infinity"])).map fun catalog =>
      catalog.entries.flatMap fun entry => entry.prices.map PyDecimal.isFinite) =
        .ok [false, true, true, true] := by decide +kernel

end CBrain

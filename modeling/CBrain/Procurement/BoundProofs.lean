import CBrain.Procurement.ComparedValues
import CBrain.Procurement.Proof
import CBrain.Simulators.Effects

/-! # When a proof is built

    An execution that reports a quotation is proved over the board that
    `show_quotations` shows, exactly when the action gives the quotation's
    amount as the quotation writes it, names no other vendor, and the ids are
    not blank. -/

namespace CBrain.Purchasing

open Json (Dict Members)
open Simulators (memberOf)
open Paired (map_eq_of_forall₂)

/-! ## Section 1: The board -/

/-- What `show_quotations` answers. -/
def shownBoard (rfq_id : String) (ranked : List Quotation) : Dict :=
  object (simulatedMarker ++ boardMembers rfq_id ranked)

/-- The rows of a board. -/
def rows (ranked : List Quotation) : List Dict :=
  ranked.mapIdx fun index quote => boardRow quote index

section board
variable {rfq_id : String} {ranked : List Quotation}

theorem shownBoard_quotations :
    (shownBoard rfq_id ranked).get "quotations" = .arr ((rows ranked).map Dict.json) := by
  unfold shownBoard
  rw [object_get]
  rfl

theorem shownBoard_count : (shownBoard rfq_id ranked).get "count" = .int ranked.length := by
  unfold shownBoard
  rw [object_get]
  rfl

theorem shownBoard_rfq_id : (shownBoard rfq_id ranked).get "rfq_id" = .str rfq_id := by
  unfold shownBoard
  rw [object_get]
  rfl

/-- The digest is of the count and the rows only. -/
theorem quoteBoardDigest_shown :
    quoteBoardDigest (shownBoard rfq_id ranked) = boardDigest ranked := by
  have hcount : memberOf (shownBoard rfq_id ranked) "count" =
      memberOf (object (quotationBoardPayload ranked)) "count" := by
    apply Subtype.ext
    show (shownBoard rfq_id ranked).get "count" = (object (quotationBoardPayload ranked)).get "count"
    rw [shownBoard_count, object_get]
    rfl
  have hrows : memberOf (shownBoard rfq_id ranked) "quotations" =
      memberOf (object (quotationBoardPayload ranked)) "quotations" := by
    apply Subtype.ext
    show (shownBoard rfq_id ranked).get "quotations" =
      (object (quotationBoardPayload ranked)).get "quotations"
    rw [shownBoard_quotations, object_get]
    rfl
  unfold boardDigest quoteBoardDigest
  rw [hcount, hrows]

theorem mem_rows {row : Dict} :
    row ∈ rows ranked ↔ ∃ index quote, ranked[index]? = some quote ∧ row = boardRow quote index := by
  unfold rows
  rw [List.mem_mapIdx]
  constructor
  · rintro ⟨index, h, rfl⟩
    exact ⟨index, ranked[index], List.getElem?_eq_getElem h, rfl⟩
  · rintro ⟨index, quote, hget, rfl⟩
    obtain ⟨h, rfl⟩ := List.getElem?_eq_some_iff.mp hget
    exact ⟨index, h, rfl⟩

/-- What a row says of its quotation. -/
theorem boardRow_get (quote : Quotation) (index : Nat) :
    (boardRow quote index).get "quote_id" = .str quote.quote_id ∧
      (boardRow quote index).get "rfq_id" = .str quote.rfq_id ∧
      (boardRow quote index).get "vendor_id" = .str quote.vendor_id ∧
      (boardRow quote index).get "amount_minor" = .str quote.amount_minor ∧
      (boardRow quote index).get "currency" = .str quote.currency := by
  unfold boardRow
  simp only [object_get]
  exact ⟨rfl, rfl, rfl, rfl, rfl⟩

theorem finite_rows : Json.finite (.arr ((rows ranked).map Dict.json)) = true := by
  apply Simulators.finite_dicts
  intro row hrow
  obtain ⟨index, quote, -, rfl⟩ := mem_rows.mp hrow
  apply finite_object
  simp

theorem digestOfBoard_shown :
    digestOfBoard (shownBoard rfq_id ranked) = .ok (boardDigest ranked) := by
  unfold digestOfBoard
  rw [require_bind_pos ⟨by rw [shownBoard_count]; rfl, by rw [shownBoard_quotations, finite_rows]⟩,
    quoteBoardDigest_shown]
  rfl

/-- The entries of a board are the members of its rows. -/
theorem quoteEntries_shown (h : ranked ≠ []) :
    quoteEntries (shownBoard rfq_id ranked) = .ok ((rows ranked).map Dict.members) := by
  unfold quoteEntries
  rw [shownBoard_quotations]
  obtain ⟨quote, rest, rfl⟩ := List.exists_cons_of_ne_nil h
  have hrows : ∃ row others, rows (quote :: rest) = row :: others := by
    unfold rows
    rw [List.mapIdx_cons]
    exact ⟨_, _, rfl⟩
  obtain ⟨row, others, hrows⟩ := hrows
  rw [hrows]
  show ((row :: others).map Dict.json).mapM _ = _
  rw [mapM_ok, List.forall₂_map_left_iff, List.forall₂_map_right_iff, List.forall₂_same]
  intro item _
  rfl

/-- What holds of every entry holds of every quotation of the board. -/
theorem forall_entries {P : Members → Prop} :
    (∀ item ∈ (rows ranked).map Dict.members, P item) ↔
      ∀ index quote, ranked[index]? = some quote → P (boardRow quote index).members := by
  constructor
  · intro h index quote hget
    exact h _ (List.mem_map.mpr ⟨_, mem_rows.mpr ⟨index, quote, hget, rfl⟩, rfl⟩)
  · intro h item hitem
    obtain ⟨row, hrow, rfl⟩ := List.mem_map.mp hitem
    obtain ⟨index, quote, hget, rfl⟩ := mem_rows.mp hrow
    exact h index quote hget

end board

/-! ## Section 2: What is bound -/

/-- What an answer says of a quotation. -/
structure Reports (output : Dict) (quote : Quotation) (ranked : List Quotation) : Prop where
  pr_id : output.get "pr_id" = .str (prId quote.quote_id)
  rfq_id : output.get "rfq_id" = .str quote.rfq_id
  quote_id : output.get "quote_id" = .str quote.quote_id
  vendor_id : output.get "vendor_id" = .str quote.vendor_id
  amount_minor : output.get "amount_minor" = .str quote.amount_minor
  currency : output.get "currency" = .str quote.currency
  quote_board_digest : output.get "quote_board_digest" = .str (boardDigest ranked)

/-- The action is about the quotation. -/
structure Concerns (action : ActionIntent) (quote : Quotation) : Prop where
  tool_name : action.tool_name ∈ SUCCESS_PROOF_TOOLS
  currency : action.arguments.get "currency" = .str quote.currency
  release : action.tool_name = "release_purchase_order" →
    action.arguments.get "pr_id" = .str (prId quote.quote_id)
  named : action.tool_name ≠ "release_purchase_order" →
    action.arguments.get "rfq_id" = .str quote.rfq_id ∧
      action.arguments.get "quote_id" = .str quote.quote_id

/-- The board ranks the quotation, among others of its RFQ. -/
structure OnBoard (quote : Quotation) (ranked : List Quotation) : Prop where
  mem : quote ∈ ranked
  rfq_id : ∀ other ∈ ranked, other.rfq_id = quote.rfq_id
  unique : ∀ other ∈ ranked, other.quote_id = quote.quote_id → other = quote
  vendor_text : nonBlank quote.vendor_id = true

/-- The execution completed the action with the answer. -/
structure Completes (execution : GovernedExecution) (action : ActionIntent) (output : Dict) :
    Prop where
  status : execution.status = .executed
  request_id : execution.request_id = action.request_id
  output : execution.output.image = output.json

/-- What a proof needs of the action and the ids besides. -/
structure Bindable (action : ActionIntent) (quote : Quotation) (ranked : List Quotation) :
    Prop where
  amount_minor : action.arguments.get "amount_minor" = .str quote.amount_minor
  vendor_id : action.arguments.get "vendor_id" = .null ∨
    action.arguments.get "vendor_id" = .str quote.vendor_id
  rfq_text : nonBlank quote.rfq_id = true
  ids_text : ∀ other ∈ ranked, nonBlank other.quote_id = true

/-- Only the same text is equal to a text. -/
theorem pyEq_str_iff {value : Json} {text : String} :
    Json.pyEq value (.str text) = true ↔ value = .str text := by
  cases value with
  | str s => simp [Json.pyEq]
  | null => simp [Json.pyEq, Json.num?]
  | bool b => simp [Json.pyEq, Json.num?]
  | int i => simp [Json.pyEq, Json.num?]
  | float x => cases x <;> simp [Json.pyEq, Json.num?]
  | arr xs => simp [Json.pyEq, Json.num?]
  | obj ms => simp [Json.pyEq, Json.num?]

theorem itemGet_members (d : Dict) (name : String) : itemGet d.members name = d.get name := rfl

section bound
variable {action : ActionIntent} {quote : Quotation} {ranked : List Quotation} {output : Dict}
  {rfq_id : String}

/-- The ids of a board are those of its quotations. -/
theorem rankedQuoteIds_shown (h : ranked ≠ []) {ids : List String} :
    rankedQuoteIds (shownBoard rfq_id ranked) = .ok ids ↔
      (∀ quote ∈ ranked, nonBlank quote.quote_id = true) ∧ ids = ranked.map Quotation.quote_id := by
  have hlength : (rows ranked).length = ranked.length := List.length_mapIdx
  have hread : ∀ (i : Nat) (hi : i < ranked.length) (hi' : i < (rows ranked).length) (id : String),
      requiredMember (procurementError "quote board entries must include quote_id")
        (itemGet (rows ranked)[i].members "quote_id") = .ok id ↔
      nonBlank ranked[i].quote_id = true ∧ id = ranked[i].quote_id := by
    intro i hi hi' id
    have hrow : (rows ranked)[i] = boardRow ranked[i] i := List.getElem_mapIdx
    rw [hrow, itemGet_members, (boardRow_get _ _).1, requiredMember_ok]
    constructor
    · rintro ⟨hid, htext⟩
      obtain rfl := Json.str.inj hid
      exact ⟨htext, rfl⟩
    · rintro ⟨htext, rfl⟩
      exact ⟨rfl, htext⟩
  unfold rankedQuoteIds
  rw [quoteEntries_shown h, ok_bind, mapM_ok, List.forall₂_map_left_iff, List.forall₂_iff_get]
  constructor
  · rintro ⟨hids, hall⟩
    have heach : ∀ (i : Nat) (hi : i < ranked.length) (hi' : i < ids.length),
        nonBlank ranked[i].quote_id = true ∧ ids[i] = ranked[i].quote_id := by
      intro i hi hi'
      exact (hread i hi (by omega) ids[i]).mp (hall i (by omega) hi')
    constructor
    · intro other hother
      obtain ⟨i, hi, rfl⟩ := List.mem_iff_getElem.mp hother
      exact (heach i hi (by omega)).1
    · apply List.ext_getElem
      · rw [List.length_map]
        omega
      · intro i hi hi'
        rw [List.getElem_map]
        exact (heach i (by omega) hi).2
  · rintro ⟨htext, rfl⟩
    refine ⟨by rw [List.length_map, hlength], ?_⟩
    intro i hi hi'
    have hi'' : i < ranked.length := by omega
    refine (hread i hi'' hi _).mpr ⟨htext _ (List.getElem_mem hi''), ?_⟩
    simp

/-- The RFQ is bound when its id is not blank. -/
theorem boundText_rfq (hreports : Reports output quote ranked) (hconcerns : Concerns action quote)
    {text : String} :
    boundText action output.members (shownBoard quote.rfq_id ranked) "rfq_id" = .ok text ↔
      nonBlank quote.rfq_id = true ∧ text = quote.rfq_id := by
  have hgiven : (if action.tool_name = "release_purchase_order" ∧ "rfq_id" ∈ ["rfq_id", "quote_id"]
      then itemGet output.members "rfq_id" else action.arguments.get "rfq_id") =
        .str quote.rfq_id := by
    split
    · exact hreports.rfq_id
    · next hother =>
      exact (hconcerns.named fun h => hother ⟨h, by decide⟩).1
  unfold boundText
  dsimp only
  rw [hgiven, itemGet_members, hreports.rfq_id, shownBoard_rfq_id, bind_ok]
  simp only [require_bind_ok, requiredMember_ok, pyEq_str_iff, pure_ok]
  constructor
  · rintro ⟨given, ⟨hid, htext⟩, -, -, rfl⟩
    obtain rfl := Json.str.inj hid
    exact ⟨htext, rfl⟩
  · rintro ⟨htext, rfl⟩
    exact ⟨quote.rfq_id, ⟨rfl, htext⟩, rfl, fun _ => Or.inr rfl, rfl⟩

/-- The quotation is bound when its id is not blank. -/
theorem boundText_quote (hreports : Reports output quote ranked)
    (hconcerns : Concerns action quote) {text : String} :
    boundText action output.members (shownBoard quote.rfq_id ranked) "quote_id" = .ok text ↔
      nonBlank quote.quote_id = true ∧ text = quote.quote_id := by
  have hgiven : (if action.tool_name = "release_purchase_order" ∧
      "quote_id" ∈ ["rfq_id", "quote_id"]
      then itemGet output.members "quote_id" else action.arguments.get "quote_id") =
        .str quote.quote_id := by
    split
    · exact hreports.quote_id
    · next hother =>
      exact (hconcerns.named fun h => hother ⟨h, by decide⟩).2
  unfold boundText
  dsimp only
  rw [hgiven, itemGet_members, hreports.quote_id, bind_ok]
  simp only [require_bind_ok, requiredMember_ok, pyEq_str_iff, pure_ok]
  constructor
  · rintro ⟨given, ⟨hid, htext⟩, -, -, rfl⟩
    obtain rfl := Json.str.inj hid
    exact ⟨htext, rfl⟩
  · rintro ⟨htext, rfl⟩
    exact ⟨quote.quote_id, ⟨rfl, htext⟩, rfl, fun h => absurd h (by decide), rfl⟩

/-- The vendor is bound when the action names no other. -/
theorem boundVendor_shown (hreports : Reports output quote ranked) (hboard : OnBoard quote ranked)
    {vendor_id : String} :
    boundVendor action output.members (shownBoard rfq_id ranked) = .ok vendor_id ↔
      (action.arguments.get "vendor_id" = .null ∨
        action.arguments.get "vendor_id" = .str quote.vendor_id) ∧ vendor_id = quote.vendor_id := by
  have hrows : ∀ item ∈ (rows ranked).map Dict.members,
      itemGet item "quote_id" = .str quote.quote_id →
        itemGet item "vendor_id" = .str quote.vendor_id := by
    rw [forall_entries]
    intro index other hget hid
    obtain ⟨hquote, -, hvendor, -⟩ := boardRow_get other index
    rw [itemGet_members, hquote] at hid
    rw [itemGet_members, hvendor,
      hboard.unique other (List.mem_of_getElem? hget) (Json.str.inj hid)]
  unfold boundVendor
  dsimp only
  rw [itemGet_members, hreports.vendor_id, itemGet_members, hreports.quote_id,
    quoteEntries_shown (List.ne_nil_of_mem hboard.mem), bind_ok]
  simp only [require_bind_ok, requiredMember_ok, pyEq_str_iff, ok_bind, pure_ok]
  constructor
  · rintro ⟨found, ⟨hid, -⟩, hgiven, -, rfl⟩
    obtain rfl := Json.str.inj hid
    exact ⟨hgiven, rfl⟩
  · rintro ⟨hgiven, rfl⟩
    exact ⟨quote.vendor_id, ⟨rfl, hboard.vendor_text⟩, hgiven, hrows, rfl⟩

/-- The money is bound when the action gives the amount as the quotation does. -/
theorem boundMoney_shown (hreports : Reports output quote ranked)
    (hconcerns : Concerns action quote) (hboard : OnBoard quote ranked) :
    boundMoney action output.members (shownBoard rfq_id ranked) quote.quote_id = .ok () ↔
      action.arguments.get "amount_minor" = .str quote.amount_minor := by
  unfold boundMoney
  dsimp only
  rw [itemGet_members, hreports.amount_minor, itemGet_members, hreports.currency,
    hconcerns.currency, quoteEntries_shown (List.ne_nil_of_mem hboard.mem), require_bind_ok, ok_bind,
    pyEq_str_iff, pyEq_str_iff]
  -- the entry of the quotation is found, for no other has its id
  cases hfind : ((rows ranked).map Dict.members).find? fun item =>
      Json.pyEq (itemGet item "quote_id") (.str quote.quote_id) with
  | none =>
    obtain ⟨index, hget⟩ := List.mem_iff_getElem?.mp hboard.mem
    have hmissed := forall_entries.mp (List.find?_eq_none.mp hfind) index quote hget
    rw [itemGet_members, (boardRow_get quote index).1, pyEq_str_iff] at hmissed
    exact absurd rfl hmissed
  | some item =>
    have hitem : ∀ item ∈ (rows ranked).map Dict.members,
        Json.pyEq (itemGet item "quote_id") (.str quote.quote_id) = true →
          itemGet item "amount_minor" = .str quote.amount_minor ∧
            itemGet item "currency" = .str quote.currency := by
      rw [forall_entries]
      intro index other hget hid
      obtain ⟨hquote, -, -, hamount, hcurrency⟩ := boardRow_get other index
      rw [itemGet_members, hquote, pyEq_str_iff] at hid
      obtain rfl := hboard.unique other (List.mem_of_getElem? hget) (Json.str.inj hid)
      exact ⟨hamount, hcurrency⟩
    have hpred : Json.pyEq (itemGet item "quote_id") (.str quote.quote_id) = true := by
      have := List.find?_some hfind
      simpa using this
    obtain ⟨hamount, hcurrency⟩ := hitem item (List.mem_of_find?_eq_some hfind) hpred
    dsimp only
    rw [require_ok, hamount, hcurrency, pyEq_str_iff]
    constructor
    · exact fun h => h.1.1
    · intro hgiven
      rw [hgiven, pyEq_str_iff]
      exact ⟨⟨rfl, rfl⟩, rfl, rfl⟩

/-- What is bound is the quotation. -/
theorem bindSuccessProof_iff {execution : GovernedExecution}
    (hreports : Reports output quote ranked) (hconcerns : Concerns action quote)
    (hboard : OnBoard quote ranked) (hcompletes : Completes execution action output) :
    (∃ bound, bindSuccessProof action execution (shownBoard quote.rfq_id ranked) = .ok bound) ↔
      Bindable action quote ranked := by
  have hexecuted : execution.status = .executed ∧ execution.tool_executed = some true := by
    refine ⟨hcompletes.status, ?_⟩
    rw [execution.tool_executed_eq, hcompletes.status]
    rfl
  have hmapping : mapping? execution.output.image = some output.members := by
    rw [hcompletes.output]
    rfl
  have hpr : action.tool_name = "release_purchase_order" →
      sameText (action.arguments.get "pr_id") (itemGet output.members "pr_id") = true := by
    intro hrelease
    rw [hconcerns.release hrelease, itemGet_members, hreports.pr_id]
    simp [sameText]
  have hrfqs : ∀ item ∈ (rows ranked).map Dict.members,
      pyStr (itemGet item "rfq_id") = quote.rfq_id := by
    rw [forall_entries]
    intro index other hget
    rw [itemGet_members, (boardRow_get other index).2.1]
    exact hboard.rfq_id other (List.mem_of_getElem? hget)
  have hne := List.ne_nil_of_mem hboard.mem
  unfold bindSuccessProof
  rw [require_bind_pos hconcerns.tool_name, require_bind_pos hexecuted,
    require_bind_pos hcompletes.request_id.symm, hmapping]
  dsimp only
  rw [digestOfBoard_shown, itemGet_members, hreports.quote_board_digest, quoteEntries_shown hne]
  constructor
  · rintro ⟨bound, h⟩
    rw [bind_ok] at h
    obtain ⟨ids, hids, h⟩ := h
    rw [ok_bind, require_bind_ok, require_bind_ok, bind_ok] at h
    obtain ⟨-, -, rfq_id, hrfq, h⟩ := h
    rw [bind_ok] at h
    obtain ⟨quote_id, hquote, h⟩ := h
    rw [bind_ok] at h
    obtain ⟨vendor_id, hvendor, h⟩ := h
    rw [unit_bind_ok] at h
    obtain ⟨hmoney, -⟩ := h
    obtain ⟨hrfq_text, -⟩ := (boundText_rfq hreports hconcerns).mp hrfq
    obtain ⟨-, rfl⟩ := (boundText_quote hreports hconcerns).mp hquote
    exact ⟨(boundMoney_shown hreports hconcerns hboard).mp hmoney,
      ((boundVendor_shown hreports hboard).mp hvendor).1, hrfq_text,
      ((rankedQuoteIds_shown hne).mp hids).1⟩
  · intro h
    rw [(rankedQuoteIds_shown hne).mpr ⟨h.ids_text, rfl⟩, ok_bind, ok_bind, require_bind_pos rfl,
      require_bind_pos hpr, (boundText_rfq hreports hconcerns).mpr ⟨h.rfq_text, rfl⟩, ok_bind,
      (boundText_quote hreports hconcerns).mpr ⟨h.ids_text quote hboard.mem, rfl⟩, ok_bind,
      (boundVendor_shown hreports hboard).mpr ⟨h.vendor_id, rfl⟩, ok_bind,
      (boundMoney_shown hreports hconcerns hboard).mpr h.amount_minor, ok_bind,
      require_bind_pos (List.mem_map_of_mem hboard.mem), ok_bind, require_bind_pos hrfqs]
    exact ⟨_, rfl⟩

/-- The action holds finite numbers, as `capture` makes it. -/
structure Captured (action : ActionIntent) : Prop where
  arguments : Json.finite action.arguments.json = true
  context : Json.finite action.context.json = true
  evidence : Json.finite action.evidence.json = true

/-- A captured action has a digest. -/
theorem canonicalActionIntentDigest_captured (h : Captured action) :
    ∃ digest, canonicalActionIntentDigest action = .ok digest := by
  have hcontext : Json.finite
      (action.context.filter fun key => key ∉ MUTABLE_ACTION_CONTEXT_KEYS).json = true := by
    have hmembers := h.context
    rw [Dict.json, Json.finite, Json.finiteMembers_iff] at hmembers ⊢
    intro member hmember
    exact hmembers member (List.mem_of_mem_filter hmember)
  have hfinite : Json.finite (identityPayload action).json = true := by
    apply finite_object
    simpa [h.arguments, h.evidence] using hcontext
  unfold canonicalActionIntentDigest
  rw [require_bind_pos hfinite]
  exact ⟨_, rfl⟩

/-- **Proofs**: a captured action that reports a quotation is proved over its
    board exactly when it can be bound. -/
theorem buildProcurementProof_iff {execution : GovernedExecution} (hcaptured : Captured action)
    (hreports : Reports output quote ranked) (hconcerns : Concerns action quote)
    (hboard : OnBoard quote ranked) (hcompletes : Completes execution action output) :
    (∃ proof, buildProcurementProof action execution (shownBoard quote.rfq_id ranked) =
      .ok proof) ↔ Bindable action quote ranked := by
  rw [← bindSuccessProof_iff hreports hconcerns hboard hcompletes]
  obtain ⟨digest, hdigest⟩ := canonicalActionIntentDigest_captured hcaptured
  unfold buildProcurementProof
  rw [hdigest]
  constructor
  · rintro ⟨proof, h⟩
    obtain ⟨bound, hbound, -⟩ := bind_ok.mp h
    exact ⟨bound, hbound⟩
  · rintro ⟨bound, hbound⟩
    rw [hbound]
    exact ⟨_, rfl⟩

end bound

end CBrain.Purchasing

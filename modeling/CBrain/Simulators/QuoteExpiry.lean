import CBrain.Framework.ClockFormat
import CBrain.Simulators.Procurement

/-! # The expiry of quotes

    Which quotes the procurement simulator (`cbrain/simulators/procurement.py`)
    marks as expired: the time of the clock and the end of a quote are parsed
    when they are read, and compared as texts.

    * `treated_payload`   : one quote, for any two accepted stamps.
    * `quotes_expire_iff` : what a snapshot lists, and what is read or requested.
    * `written_after`     : the quotes of a run have ends as `strftime` writes
      them, so that a clock which writes so keeps the order. -/

namespace CBrain.Simulators

open CivilTime (Moment)
open Json (Dict)
open Mutation (exec)

/-! ## Section 1: The clock -/

/-- `OverflowError`, which nothing catches. -/
def overflowError : Exn := ⟨.other, "OverflowError", [.text "date value out of range"]⟩

/-- `strptime` and `strftime` with `_CLOCK_FORMAT`. -/
def clockCalendar : Calendar where
  parse stamp := (ClockFormat.parse stamp.toList).map fun m => (m.seconds : Int)
  print seconds :=
    if h : 86400 ≤ seconds.toNat then
      let m := Moment.ofSeconds seconds.toNat h
      if ClockFormat.InYears m then .ok (String.ofList (ClockFormat.text m))
      else .error overflowError
    else .error overflowError

/-- The stamp as `strftime` writes what `strptime` reads. -/
def respelled (stamp : String) : Option String :=
  (ClockFormat.parse stamp.toList).map fun m => String.ofList (ClockFormat.text m)

/-- Two accepted stamps stand in the order of their texts as `strftime` writes
    them. -/
def KeepsOrder (valid_until now : String) : Prop :=
  ∀ u n, respelled valid_until = some u → respelled now = some n → (valid_until < now ↔ u < n)

/-- Texts that `strftime` writes are ordered as their times. -/
theorem respelled_lt_iff {s t u n : String} {x y : Int} (hs : respelled s = some u)
    (ht : respelled t = some n) (hx : clockCalendar.parse s = some x)
    (hy : clockCalendar.parse t = some y) : u < n ↔ x < y := by
  obtain ⟨m, hm, rfl⟩ := Option.map_eq_some_iff.mp hs
  obtain ⟨k, hk, rfl⟩ := Option.map_eq_some_iff.mp ht
  unfold clockCalendar at hx hy
  simp only [hm, hk, Option.map_some, Option.some.injEq] at hx hy
  rw [String.lt_iff, String.toList_ofList, String.toList_ofList,
    ClockFormat.text_lt_iff (ClockFormat.inYears_parse hm) (ClockFormat.inYears_parse hk), ← hx,
    ← hy, Int.ofNat_lt]

/-- What `strftime` wrote is written so again. -/
theorem respelled_print {seconds : Int} {stamp : String}
    (h : clockCalendar.print seconds = .ok stamp) : respelled stamp = some stamp := by
  simp only [clockCalendar] at h
  split at h
  next hday =>
    split at h
    next hyears =>
      obtain rfl := Except.ok.inj h
      unfold respelled
      rw [String.toList_ofList, ClockFormat.parse_text hyears]
      rfl
    next => cases h
  next => cases h

/-- Between stamps as `strftime` writes them the order is kept. -/
theorem KeepsOrder.of_respelled {valid_until now : String}
    (hvalid : respelled valid_until = some valid_until) (hnow : respelled now = some now) :
    KeepsOrder valid_until now := by
  intro u n hu hn
  rw [Option.some.inj (hu.symm.trans hvalid), Option.some.inj (hn.symm.trans hnow)]

/-! ## Section 2: One quote -/

/-- `answer[name]`. -/
def member (answer : Json) (name : String) : Json :=
  match answer with
  | .obj members => (Json.get? members name).getD .null
  | _ => .null

/-- The quote that is answered is marked as expired exactly when the current
    time is later than its end, where both are accepted. -/
def TreatedByTime (now : String) (answer : Json) : Prop :=
  ∀ valid_until u n, member answer "valid_until" = .str valid_until →
    clockCalendar.parse valid_until = some u → clockCalendar.parse now = some n →
    (member answer "status" = .str "EXPIRED" ↔ u < n)

theorem payload_members {quote : Quote} {now : String} {d : Dict} (h : quote.payload now = .ok d) :
    member d.json "valid_until" = .str quote.valid_until ∧
      member d.json "status" = .str (if quote.valid_until < now then "EXPIRED" else "OPEN") := by
  unfold Quote.payload at h
  simp only [bind_ok, pure_ok] at h
  obtain ⟨tonnes, -, rate_per_tonne, -, freight_per_tonne, -, rfl⟩ := h
  constructor
  · exact object_get _ _
  · exact object_get _ _

/-- **One quote**: it is treated by the time exactly when the texts stand in the
    order of their spelled-out forms. -/
theorem treated_payload {quote : Quote} {now : String} {d : Dict}
    (h : quote.payload now = .ok d) :
    TreatedByTime now d.json ↔ KeepsOrder quote.valid_until now := by
  obtain ⟨hvalid, hstatus⟩ := payload_members h
  have hmarked : member d.json "status" = .str "EXPIRED" ↔ quote.valid_until < now := by
    rw [hstatus]
    by_cases hlt : quote.valid_until < now
    · simp [hlt]
    · simp [hlt]
  unfold TreatedByTime KeepsOrder
  rw [hvalid, hmarked]
  constructor
  · intro htreated u n hu hn
    obtain ⟨m, hm, rfl⟩ := Option.map_eq_some_iff.mp hu
    obtain ⟨k, hk, rfl⟩ := Option.map_eq_some_iff.mp hn
    have hx : clockCalendar.parse quote.valid_until = some (m.seconds : Int) := by
      simp only [clockCalendar, hm, Option.map_some]
    have hy : clockCalendar.parse now = some (k.seconds : Int) := by
      simp only [clockCalendar, hk, Option.map_some]
    rw [respelled_lt_iff hu hn hx hy]
    exact htreated quote.valid_until _ _ rfl hx hy
  · intro hkeeps valid_until x y hsame hx hy
    obtain rfl := Json.str.inj hsame
    obtain ⟨m, hm, -⟩ := Option.map_eq_some_iff.mp hx
    obtain ⟨k, hk, -⟩ := Option.map_eq_some_iff.mp hy
    have hu : respelled quote.valid_until = some _ := congrArg (Option.map _) hm
    have hn : respelled now = some _ := congrArg (Option.map _) hk
    rw [hkeeps _ _ hu hn, respelled_lt_iff hu hn hx hy]

/-! ## Section 3: Listing, reading and requesting -/

namespace ProcurementSimulator

/-- `snapshot`. -/
def snapshot (calendar : Calendar) (clock : Raises String) (state_version : Nat)
    (tables : ProcurementTables) : Raises Dict := do
  let now ← now calendar clock
  let quotes ← (sortedValues tables.quotes).mapM fun quote => quote.payload now
  let value := object
    [("domain", .str "procurement"), ("state_version", .nat state_version),
      ("vendors", .dicts ((sortedValues tables.vendors).map Vendor.publicPayload)),
      ("quotes", .dicts quotes)]
  let bytes ← canonicalObject value "procurement snapshot"
  restoreObject bytes "procurement snapshot"

/-- The rows of a list. -/
def rows : Json → List Json
  | .arr items => items
  | _ => []

section answers
variable {decimalOf : String → Option PyDecimal} {calendar : Calendar} {terms : ProcurementTerms}
  {clock : Raises String} {arguments : Dict} {tables : ProcurementTables} {d : Dict}

/-- What a snapshot lists. -/
theorem snapshot_ok {state_version : Nat} (h : snapshot calendar clock state_version tables = .ok d) :
    ∃ stamp quotes, now calendar clock = .ok stamp ∧
      List.Forall₂ (fun quote answer => quote.payload stamp = .ok answer)
        (sortedValues tables.quotes) quotes ∧
      rows (d.get "quotes") = quotes.map Dict.json := by
  unfold snapshot at h
  simp only [bind_ok, mapM_ok, canonicalObject_ok] at h
  obtain ⟨stamp, hstamp, quotes, hquotes, bytes, ⟨-, rfl⟩, hrestored⟩ := h
  rw [restoreObject_canonical] at hrestored
  obtain rfl := Except.ok.inj hrestored
  refine ⟨stamp, quotes, hstamp, hquotes, ?_⟩
  rw [object_get]
  rfl

/-- What is read. -/
theorem readQuote_ok (h : (exec (readQuote calendar clock arguments) tables).1 = .ok d) :
    ∃ stamp quote, now calendar clock = .ok stamp ∧ quote ∈ tables.quotes.values ∧
      arguments.get "quote_id" = .str quote.quote_id ∧ quote.payload stamp = .ok d := by
  unfold readQuote at h
  obtain ⟨_, -, hrun⟩ := (Mutation.reads_raising _).bind_run h
  rw [hrun] at h
  obtain ⟨quote_id, hid, hrun⟩ := (Mutation.reads_raising _).bind_run h
  rw [hrun, Mutation.exec_read_bind] at h
  cases hget : tables.quotes.get? quote_id with
  | none =>
    rw [hget] at h
    cases h
  | some quote =>
    rw [hget] at h
    obtain ⟨stamp, hstamp, hpayload⟩ := Mutation.raising_bind_ok.mp h
    have hkey : quote.quote_id = quote_id := Registry.key_of_get? hget
    refine ⟨stamp, quote, hstamp, ?_, ?_, hpayload⟩
    · rw [Registry.mem_values, hkey]
      exact hget
    · rw [hkey]
      exact (requiredMember_ok.mp hid).1

/-- What is requested, and put on file. -/
theorem requestQuote_ok
    (h : (exec (requestQuote decimalOf calendar terms clock arguments) tables).1 = .ok d) :
    ∃ stamp quote, now calendar clock = .ok stamp ∧
      addHours calendar stamp terms.quote_validity_hours = .ok quote.valid_until ∧
      quote.payload stamp = .ok d ∧
      (exec (requestQuote decimalOf calendar terms clock arguments) tables).2 =
        { tables with quotes := tables.quotes.put quote } := by
  unfold requestQuote at h ⊢
  obtain ⟨_, -, hrun⟩ := (Mutation.reads_raising _).bind_run h
  rw [hrun] at h ⊢
  obtain ⟨vendor_id, -, hrun⟩ := (Mutation.reads_raising _).bind_run h
  rw [hrun] at h ⊢
  obtain ⟨vendor, -, hrun⟩ := (reads_requiredVendor vendor_id).bind_run h
  rw [hrun] at h ⊢
  obtain ⟨grade, -, hrun⟩ := (Mutation.reads_raising _).bind_run h
  rw [hrun] at h ⊢
  obtain ⟨_, -, hrun⟩ := (Mutation.reads_raising _).bind_run h
  rw [hrun] at h ⊢
  obtain ⟨rate, -, hrun⟩ := (Mutation.reads_raising _).bind_run h
  rw [hrun] at h ⊢
  obtain ⟨payment_terms, -, hrun⟩ := (Mutation.reads_raising _).bind_run h
  rw [hrun] at h ⊢
  obtain ⟨_, -, hrun⟩ := (Mutation.reads_raising _).bind_run h
  rw [hrun] at h ⊢
  obtain ⟨tonnes, -, hrun⟩ := (Mutation.reads_raising _).bind_run h
  rw [hrun] at h ⊢
  obtain ⟨_, -, hrun⟩ := (Mutation.reads_raising _).bind_run h
  rw [hrun] at h ⊢
  obtain ⟨_, -, hrun⟩ := (Mutation.reads_raising _).bind_run h
  rw [hrun] at h ⊢
  obtain ⟨stamp, hstamp, hrun⟩ := (Mutation.reads_raising _).bind_run h
  rw [hrun] at h ⊢
  obtain ⟨valid_until, hvalid, hrun⟩ := (Mutation.reads_raising _).bind_run h
  rw [hrun, Mutation.exec_read_bind] at h ⊢
  obtain ⟨quote, hquote, hrun⟩ := (Mutation.reads_raising _).bind_run h
  rw [hrun, Mutation.exec_write_bind] at h ⊢
  refine ⟨stamp, quote, hstamp, ?_, h, rfl⟩
  rw [Mutation.exec_raising] at hquote
  unfold quoteFor at hquote
  simp only [bind_ok, pure_ok] at hquote
  obtain ⟨_, -, _, -, _, -, _, -, rfl⟩ := hquote
  exact hvalid

end answers

/-- The clock's own stamp is what `_now` returns. -/
theorem now_stamp {calendar : Calendar} {stamp current : String}
    (h : now calendar (.ok stamp) = .ok current) : current = stamp := by
  unfold now at h
  simp only [bind_ok, pure_ok] at h
  obtain ⟨_, hsame, _, -, rfl⟩ := h
  exact (Except.ok.inj hsame).symm

/-- **Expiry**: in a snapshot, when a quote is read and when one is requested,
    the quotes are treated by the time exactly when the texts of their ends and
    of the clock stand in the order of their spelled-out forms. -/
theorem quotes_expire_iff (decimalOf : String → Option PyDecimal) (terms : ProcurementTerms)
    (tables : ProcurementTables) (stamp : String) :
    (∀ state_version d, snapshot clockCalendar (.ok stamp) state_version tables = .ok d →
      ((∀ answer ∈ rows (d.get "quotes"), TreatedByTime stamp answer) ↔
        ∀ quote ∈ tables.quotes.values, KeepsOrder quote.valid_until stamp)) ∧
    (∀ arguments d, (exec (readQuote clockCalendar (.ok stamp) arguments) tables).1 = .ok d →
      (TreatedByTime stamp d.json ↔
        ∀ quote ∈ tables.quotes.values, arguments.get "quote_id" = .str quote.quote_id →
          KeepsOrder quote.valid_until stamp)) ∧
    (∀ arguments d,
      (exec (requestQuote decimalOf clockCalendar terms (.ok stamp) arguments) tables).1 = .ok d →
      (TreatedByTime stamp d.json ↔
        ∀ valid_until, addHours clockCalendar stamp terms.quote_validity_hours = .ok valid_until →
          KeepsOrder valid_until stamp)) := by
  refine ⟨?_, ?_, ?_⟩
  · intro state_version d h
    obtain ⟨current, quotes, hnow, hquotes, hrows⟩ := snapshot_ok h
    obtain rfl := now_stamp hnow
    have hpairs : List.Forall₂ (fun quote answer => TreatedByTime current (Dict.json answer) ↔
        KeepsOrder quote.valid_until current) (sortedValues tables.quotes) quotes :=
      hquotes.imp fun _ _ hpayload => treated_payload hpayload
    have hall : ∀ {xs : List Quote} {ys : List Dict},
        List.Forall₂ (fun quote answer => TreatedByTime current (Dict.json answer) ↔
          KeepsOrder quote.valid_until current) xs ys →
        ((∀ answer ∈ ys, TreatedByTime current answer.json) ↔
          ∀ quote ∈ xs, KeepsOrder quote.valid_until current) := by
      intro xs ys hxs
      induction hxs with
      | nil => simp
      | cons hhead _ ih => rw [List.forall_mem_cons, List.forall_mem_cons, hhead, ih]
    rw [hrows, List.forall_mem_map, hall hpairs]
    simp only [mem_sortedValues]
  · intro arguments d h
    obtain ⟨current, quote, hnow, hmem, hid, hpayload⟩ := readQuote_ok h
    obtain rfl := now_stamp hnow
    rw [treated_payload hpayload]
    constructor
    · intro hkeeps other hother hsame
      rw [hid] at hsame
      rw [Registry.eq_of_key hother hmem (Json.str.inj hsame).symm]
      exact hkeeps
    · intro hkeeps
      exact hkeeps quote hmem hid
  · intro arguments d h
    obtain ⟨current, quote, hnow, hvalid, hpayload, -⟩ := requestQuote_ok h
    obtain rfl := now_stamp hnow
    rw [treated_payload hpayload]
    constructor
    · intro hkeeps valid_until hsame
      rw [← Except.ok.inj (hvalid.symm.trans hsame)]
      exact hkeeps
    · intro hkeeps
      exact hkeeps quote.valid_until hvalid

/-! ## Section 4: Runs -/

/-- The ends of the quotes are as `strftime` writes them. -/
def Written (tables : ProcurementTables) : Prop :=
  ∀ quote ∈ tables.quotes.values, respelled quote.valid_until = some quote.valid_until

/-- The end of a new quote is written by `strftime`. -/
theorem respelled_addHours {stamp valid_until : String} {hours : Nat}
    (h : addHours clockCalendar stamp hours = .ok valid_until) :
    respelled valid_until = some valid_until := by
  unfold addHours at h
  rw [bind_ok] at h
  obtain ⟨_, -, hprint⟩ := h
  exact respelled_print hprint

section runs
variable {decimalOf : String → Option PyDecimal} {terms : ProcurementTerms} {clock : Raises String}
  {arguments : Dict} {tables : ProcurementTables}

theorem Written.requestQuote (h : Written tables) :
    Written (exec (requestQuote decimalOf clockCalendar terms clock arguments) tables).2 := by
  cases hrun : (exec (ProcurementSimulator.requestQuote decimalOf clockCalendar terms clock
      arguments) tables).1 with
  | error e =>
    rw [requestQuote_atomic tables e hrun]
    exact h
  | ok d =>
    obtain ⟨_, quote, -, hvalid, -, htables⟩ := requestQuote_ok hrun
    rw [htables]
    intro other hother
    rw [Registry.mem_values, Registry.get?_put] at hother
    by_cases hkey : other.quote_id = quote.quote_id
    · rw [if_pos hkey] at hother
      rw [← Option.some.inj hother]
      exact respelled_addHours hvalid
    · rw [if_neg hkey, ← Registry.mem_values] at hother
      exact h other hother

/-- **Step**: every capability leaves the ends as they are written. -/
theorem Written.apply {capability : String} (h : Written tables) :
    Written (exec (apply decimalOf clockCalendar terms clock arguments capability) tables).2 := by
  unfold ProcurementSimulator.apply
  split
  · rw [Mutation.exec_bind_pure, reads_listVendors tables]
    exact h
  split
  · rw [Mutation.exec_bind_pure, reads_reliability tables]
    exact h
  split
  · rw [Mutation.exec_bind_pure]
    exact h.requestQuote
  split
  · rw [Mutation.exec_bind_pure, reads_readQuote tables]
    exact h
  · exact h

theorem Written.next (c : Call) {sim : Simulator ProcurementTables} (h : Written sim.tables) :
    Written ((target decimalOf clockCalendar terms).next c.clock c.request sim).tables := by
  by_cases hnew : (target decimalOf clockCalendar terms).Accepts c.request ∧
      sim.effects.get? c.request.idempotency_key = none
  · have happlied : ((target decimalOf clockCalendar terms).next c.clock c.request sim).tables =
        _ := Target.tables_applied sound hnew.1 hnew.2
    rw [happlied]
    exact h.apply
  · have hkept : ((target decimalOf clockCalendar terms).next c.clock c.request sim).tables =
        sim.tables := Target.tables_kept sound hnew
    rw [hkept]
    exact h

/-- **Run**: the quotes of a run have ends as `strftime` writes them. -/
theorem written_after (initial : ProcurementTables) (h : Written initial) (calls : List Call) :
    Written ((target decimalOf clockCalendar terms).after initial calls).tables := by
  induction calls using List.reverseRecOn with
  | nil => exact h
  | append_singleton past c ih =>
    rw [Target.after_append]
    exact ih.next c

/-- At any point of a run, a clock that writes as `strftime` does keeps the order
    with every quote. -/
theorem keepsOrder_after {initial : ProcurementTables} (h : Written initial) (calls : List Call)
    {stamp : String} (hstamp : respelled stamp = some stamp) :
    ∀ quote ∈ ((target decimalOf clockCalendar terms).after initial calls).tables.quotes.values,
      KeepsOrder quote.valid_until stamp :=
  fun quote hquote => .of_respelled (written_after initial h calls quote hquote) hstamp

end runs

/-! ## Section 5: A clock of one digit -/

/-- Eight vendors of one grade. -/
def eightVendors : Registry String Vendor Vendor.vendor_id :=
  Registry.empty.putAll
    ((List.range 8).map fun n =>
      { vendor_id := s!"vendor-{n + 1}"
        legal_name := "Steel"
        gstin := "27AAAAA0000A1Z5"
        origin_city := "Pune"
        approved := true
        onboarded_at := "2024-01-01T00:00:00Z"
        bank_beneficiary_id := none
        moq_tonnes := .ofInt 5
        freight_per_tonne := .ofInt 900
        rates := Table.empty.set "Fe500D" (.ofInt 52000)
        reliability := ⟨10, .ofInt 90, .ofInt 1, .ofInt 1, .ofInt 2, none⟩ })

/-- A quote that is valid for a day is expired when it is made: the clock writes
    the month and the day with one digit. -/
theorem fresh_quote_expired : ¬ ∀ (decimalOf : String → Option PyDecimal)
    (terms : ProcurementTerms) (tables : ProcurementTables) (stamp : String) (arguments d : Dict),
    (exec (requestQuote decimalOf clockCalendar terms (.ok stamp) arguments) tables).1 = .ok d →
      TreatedByTime stamp d.json := by
  intro h
  have hrun : ((exec (requestQuote (fun _ => none) clockCalendar ⟨.ofInt 18, 24, by decide⟩
      (.ok "2026-3-1T09:00:00Z")
      (object [("vendor_id", .str "vendor-3"), ("grade", .str "Fe500D"), ("tonnes", .nat 50),
        ("payment_terms", .str "NET_30")]))
      ⟨eightVendors, Registry.empty⟩).1.toOption.map fun d =>
        (member d.json "valid_until", member d.json "status")) =
      some (.str "2026-03-02T09:00:00Z", .str "EXPIRED") := by
    decide +kernel
  obtain ⟨d, hd, hmembers⟩ := Option.map_eq_some_iff.mp hrun
  obtain ⟨hvalid, hstatus⟩ := Prod.mk.inj hmembers
  have hok : ∀ {x : Raises Dict}, x.toOption = some d → x = .ok d := by
    intro x hx
    cases x with
    | ok _ => exact congrArg Except.ok (Option.some.inj hx)
    | error _ => exact nomatch hx
  have htreated := h _ _ _ _ _ d (hok hd)
  have hend : clockCalendar.parse "2026-03-02T09:00:00Z" = some 63939747600 := by decide +kernel
  have hnow : clockCalendar.parse "2026-3-1T09:00:00Z" = some 63939661200 := by decide +kernel
  exact absurd ((htreated _ _ _ hvalid hend hnow).mp hstatus) (by decide)

end ProcurementSimulator

end CBrain.Simulators

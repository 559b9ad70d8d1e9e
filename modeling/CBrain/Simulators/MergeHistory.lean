import CBrain.Framework.Links
import CBrain.Simulators.Crm

/-! # Contacts and their merges over a run

    A merge links an active contact to another active contact, and nothing else
    changes a contact.  So the links of a simulator that starts with active
    contacts are a forest whose roots are its active contacts, and a contact that
    is merged stays as it is. -/

namespace CBrain.Simulators

open Json (Dict)
open Mutation (raising read exec Reads)
open Links (EndsAt)

namespace CRMSimulator

/-! ## Section 1: The initial contacts -/

/-- A contact joins those of the constructor. -/
def addContact (known : Registry String Contact Contact.contact_id) (contact : Contact) :
    Raises (Registry String Contact Contact.contact_id) := do
  require (known.get? contact.contact_id = none) (conflict "duplicate contact_id")
  pure (known.put contact)

/-- The tables that `CRMSimulator.__init__` makes. -/
def new (contacts : List Contact) : Raises CRMTables := do
  let contacts ← contacts.foldlM addContact Registry.empty
  pure ⟨contacts, [], []⟩

/-- Where a contact is merged into. -/
def mergedInto (tables : CRMTables) (contact_id : String) : Option String :=
  (tables.contacts.get? contact_id).bind Contact.merged_into

/-- The id of an active contact. -/
def Active (tables : CRMTables) (contact_id : String) : Prop :=
  ∃ contact, tables.contacts.get? contact_id = some contact ∧ contact.status = .active

/-- The links of every contact lead to an active one. -/
def Rooted (tables : CRMTables) : Prop :=
  ∀ id contact, tables.contacts.get? id = some contact →
    ∃ root, EndsAt (mergedInto tables) id root ∧ Active tables root

theorem mergedInto_of_active {tables : CRMTables} {id : String} (h : Active tables id) :
    mergedInto tables id = none := by
  obtain ⟨contact, hget, hactive⟩ := h
  unfold mergedInto
  rw [hget]
  exact contact.active_alone hactive

/-! ## Section 2: What a step writes -/

section writes
variable {arguments : Dict} {tables : CRMTables}

/-- What a capability makes of the contacts. -/
inductive Writes (before after : CRMTables) : Prop
  | kept (same : after.contacts = before.contacts)
  | merged (source target : Contact)
      (source_found : before.contacts.get? source.contact_id = some source)
      (target_found : before.contacts.get? target.contact_id = some target)
      (source_active : source.status = .active) (target_active : target.status = .active)
      (distinct : source.contact_id ≠ target.contact_id)
      (replaced : after.contacts = before.contacts.put (source.mergedInto target))

theorem Writes.bind {α β : Type} {m : Mutation Exn CRMTables α}
    {f : α → Mutation Exn CRMTables β} (hm : Reads m)
    (hf : ∀ a, (exec m tables).1 = .ok a → Writes tables (exec (f a) tables).2) :
    Writes tables (exec (m >>= f) tables).2 :=
  hm.bind_final (P := fun after => Writes tables after) (.kept rfl) hf

theorem activeContact_ok {id : String} {contact : Contact}
    (h : (exec (activeContact id) tables).1 = .ok contact) :
    tables.contacts.get? id = some contact ∧ contact.status = .active := by
  unfold activeContact at h
  rw [Mutation.exec_read_bind] at h
  cases hget : tables.contacts.get? id with
  | none =>
    rw [hget] at h
    cases h
  | some found =>
    rw [hget] at h
    dsimp only at h
    rw [(Mutation.reads_raising _).exec_bind, Mutation.exec_raising] at h
    by_cases hactive : found.status = .active
    · rw [(require_ok (u := ())).mpr hactive] at h
      obtain rfl : found = contact := Except.ok.inj h
      exact ⟨rfl, hactive⟩
    · rw [require_error.mpr ⟨hactive, rfl⟩] at h
      cases h

theorem merge_writes : Writes tables (exec (merge arguments) tables).2 := by
  refine Writes.bind (Mutation.reads_raising _) fun _ _ => ?_
  refine Writes.bind (Mutation.reads_raising _) fun source_id _ => ?_
  refine Writes.bind (Mutation.reads_raising _) fun target_id _ => ?_
  refine Writes.bind (Mutation.reads_raising _) fun _ hdistinct => ?_
  refine Writes.bind (reads_activeContact source_id) fun source hsource => ?_
  refine Writes.bind (reads_activeContact target_id) fun target htarget => ?_
  obtain ⟨hfound, hactive⟩ := activeContact_ok hsource
  obtain ⟨hfound', hactive'⟩ := activeContact_ok htarget
  obtain rfl : source.contact_id = source_id := Registry.key_of_get? hfound
  obtain rfl : target.contact_id = target_id := Registry.key_of_get? hfound'
  rw [Mutation.exec_write_bind]
  exact .merged source target hfound hfound' hactive hactive' (require_ok.mp hdistinct) rfl

theorem sendEmail_writes : Writes tables (exec (sendEmail arguments) tables).2 := by
  refine Writes.bind (Mutation.reads_raising _) fun _ _ => ?_
  refine Writes.bind (Mutation.reads_raising _) fun contact_id _ => ?_
  refine Writes.bind (reads_activeContact contact_id) fun contact _ => ?_
  refine Writes.bind (Mutation.reads_raising _) fun subject _ => ?_
  refine Writes.bind (Mutation.reads_raising _) fun body _ => ?_
  refine Writes.bind (Mutation.reads_read _) fun sent _ => ?_
  rw [Mutation.exec_write_bind]
  exact .kept rfl

theorem exportContacts_writes : Writes tables (exec (exportContacts arguments) tables).2 := by
  refine Writes.bind (Mutation.reads_raising _) fun _ _ => ?_
  refine Writes.bind (Mutation.reads_raising _) fun export_format _ => ?_
  refine Writes.bind (Mutation.reads_raising _) fun _ _ => ?_
  refine Writes.bind (Mutation.reads_raising _) fun fields _ => ?_
  refine Writes.bind (Mutation.reads_read _) fun rows _ => ?_
  refine Writes.bind (Mutation.reads_read _) fun exported _ => ?_
  rw [Mutation.exec_write_bind]
  exact .kept rfl

/-- What a capability writes. -/
theorem apply_writes {capability : String} :
    Writes tables (exec (apply arguments capability) tables).2 := by
  unfold apply
  split
  · rw [Mutation.exec_bind_pure, reads_readContact tables]
    exact .kept rfl
  split
  · rw [Mutation.exec_bind_pure]
    exact merge_writes
  split
  · rw [Mutation.exec_bind_pure]
    exact sendEmail_writes
  split
  · rw [Mutation.exec_bind_pure]
    exact exportContacts_writes
  · exact .kept rfl

/-- **Step**: what a call makes of the contacts. -/
theorem execute_writes (c : Call) (sim : Simulator CRMTables) :
    Writes sim.tables (target.next c.clock c.request sim).tables := by
  by_cases hnew : target.Accepts c.request ∧
      sim.effects.get? c.request.idempotency_key = none
  · have happlied : (target.next c.clock c.request sim).tables = _ :=
      Target.tables_applied sound hnew.1 hnew.2
    rw [happlied]
    exact apply_writes
  · have hkept : (target.next c.clock c.request sim).tables = sim.tables :=
      Target.tables_kept sound hnew
    rw [hkept]
    exact .kept rfl

end writes

/-! ## Section 3: Invariants -/

section invariants
variable {before after : CRMTables}

/-- A merge sets one link. -/
theorem mergedInto_put (tables : CRMTables) (source target : Contact)
    (h : after.contacts = tables.contacts.put (source.mergedInto target)) :
    mergedInto after = Function.update (mergedInto tables) source.contact_id
      (some target.contact_id) := by
  funext id
  unfold mergedInto
  rw [h, Registry.get?_put]
  by_cases hid : id = source.contact_id
  · rw [if_pos (show id = (source.mergedInto target).contact_id from hid), hid,
      Function.update_self]
    rfl
  · rw [if_neg (show ¬ id = (source.mergedInto target).contact_id from hid),
      Function.update_of_ne hid]

/-- **Step lemma**: a merge hangs the tree of the source under the target, so
    that every contact still leads to an active one. -/
theorem Rooted.writes (hrooted : Rooted before) (h : Writes before after) : Rooted after := by
  cases h with
  | kept same =>
    intro id contact hget
    rw [same] at hget
    obtain ⟨root, hends, found, hroot, hactive⟩ := hrooted id contact hget
    have hlinks : mergedInto after = mergedInto before := by
      funext id
      unfold mergedInto
      rw [same]
    rw [hlinks]
    exact ⟨root, hends, found, same ▸ hroot, hactive⟩
  | merged source target source_found target_found source_active target_active distinct replaced =>
    have hsource : mergedInto before source.contact_id = none :=
      mergedInto_of_active ⟨source, source_found, source_active⟩
    have htarget : mergedInto before target.contact_id = none :=
      mergedInto_of_active ⟨target, target_found, target_active⟩
    have hother : ∀ root, root ≠ source.contact_id → Active before root → Active after root := by
      rintro root hne ⟨found, hget, hactive⟩
      refine ⟨found, ?_, hactive⟩
      rw [replaced, Registry.get?_put,
        if_neg (show ¬ root = (source.mergedInto target).contact_id from hne)]
      exact hget
    intro id contact hget
    have hknown : ∃ old, before.contacts.get? id = some old := by
      rw [replaced, Registry.get?_put] at hget
      by_cases hid : id = source.contact_id
      · exact ⟨source, hid ▸ source_found⟩
      · rw [if_neg (show ¬ id = (source.mergedInto target).contact_id from hid)] at hget
        exact ⟨contact, hget⟩
    obtain ⟨old, hold⟩ := hknown
    obtain ⟨root, hends, hactive⟩ := hrooted id old hold
    have hmoved := hends.union hsource htarget distinct
    rw [← mergedInto_put before source target replaced] at hmoved
    refine ⟨_, hmoved, ?_⟩
    by_cases hroot : root = source.contact_id
    · rw [if_pos hroot]
      exact hother _ distinct.symm ⟨target, target_found, target_active⟩
    · rw [if_neg hroot]
      exact hother root hroot hactive

/-- **Step lemma**: a merged contact stays as it is. -/
theorem Writes.merged_kept (h : Writes before after) {id : String} {contact : Contact}
    (hget : before.contacts.get? id = some contact) (hmerged : contact.status = .merged) :
    after.contacts.get? id = some contact := by
  cases h with
  | kept same =>
    rw [same]
    exact hget
  | merged source target source_found _ source_active _ _ replaced =>
    have hne : id ≠ source.contact_id := by
      rintro rfl
      rw [source_found] at hget
      rw [← Option.some.inj hget, source_active] at hmerged
      cases hmerged
    rw [replaced, Registry.get?_put,
      if_neg (show ¬ id = (source.mergedInto target).contact_id from hne)]
    exact hget

end invariants

/-! ## Section 4: Runs -/

/-- The links of the contacts are a forest, and its roots are the active ones. -/
structure Forest (tables : CRMTables) : Prop where
  /-- No contact is merged into itself, however many merges later. -/
  acyclic : ∀ id, ¬ Relation.TransGen (fun a b => mergedInto tables a = some b) id id
  /-- A contact is a root exactly when it is active. -/
  roots : ∀ id contact, tables.contacts.get? id = some contact →
    (mergedInto tables id = none ↔ contact.status = .active)
  /-- The links of every contact end at exactly one active contact. -/
  ends : ∀ id contact, tables.contacts.get? id = some contact →
    ∃! root, EndsAt (mergedInto tables) id root ∧ Active tables root

theorem Rooted.forest {tables : CRMTables} (h : Rooted tables) : Forest tables := by
  constructor
  · intro id hcycle
    obtain ⟨b, hb, -⟩ := Relation.TransGen.head'_iff.mp hcycle
    obtain ⟨contact, hget, -⟩ := Option.bind_eq_some_iff.mp hb
    obtain ⟨root, hends, -⟩ := h id contact hget
    exact hends.acyclic hcycle
  · intro id contact hget
    unfold mergedInto
    rw [hget]
    constructor
    · intro hnone
      cases hstatus : contact.status with
      | active => rfl
      | merged =>
        obtain ⟨target, htarget, -⟩ := contact.merged_text hstatus
        rw [Option.bind_some, htarget] at hnone
        cases hnone
    · exact contact.active_alone
  · intro id contact hget
    obtain ⟨root, hends, hactive⟩ := h id contact hget
    exact ⟨root, ⟨hends, hactive⟩, fun other hother => hother.1.unique hends⟩

/-- The contacts of a new simulator are those it was given. -/
theorem mem_of_new {contacts : List Contact} {initial : CRMTables}
    (h : new contacts = .ok initial) {id : String} {contact : Contact}
    (hget : initial.contacts.get? id = some contact) : contact ∈ contacts := by
  obtain ⟨known, hknown, htables⟩ := bind_ok.mp h
  obtain rfl : ⟨known, [], []⟩ = initial := Except.ok.inj htables
  have hgiven : ∀ id contact, known.get? id = some contact → contact ∈ contacts := by
    refine foldlM_keeps (P := fun known => ∀ id contact, known.get? id = some contact →
      contact ∈ contacts) ?_ hknown fun _ _ h => nomatch h
    intro added hadded before after hadd hbefore id contact hget
    obtain ⟨-, hput⟩ := require_bind_ok.mp hadd
    obtain rfl : before.put added = after := Except.ok.inj hput
    rw [Registry.get?_put] at hget
    by_cases hid : id = added.contact_id
    · rw [if_pos hid] at hget
      exact Option.some.inj hget ▸ hadded
    · rw [if_neg hid] at hget
      exact hbefore id contact hget
  exact hgiven id contact hget

theorem rooted_new {contacts : List Contact} {initial : CRMTables}
    (h : new contacts = .ok initial) (hactive : ∀ contact ∈ contacts, contact.status = .active) :
    Rooted initial := by
  intro id contact hget
  have hroot : Active initial id := ⟨contact, hget, hactive contact (mem_of_new h hget)⟩
  exact ⟨id, Links.endsAt_self (mergedInto_of_active hroot), hroot⟩

variable {initial : CRMTables}

/-- **Run lemma**: every contact leads to an active one. -/
theorem rooted_after (h : Rooted initial) (calls : List Call) :
    Rooted (target.after initial calls).tables := by
  induction calls using List.reverseRecOn with
  | nil => exact h
  | append_singleton past c ih =>
    rw [Target.after_append]
    exact ih.writes (execute_writes c (target.after initial past))

/-- **Run lemma**: a merged contact stays as it is. -/
theorem merged_after {past : List Call} {id : String} {contact : Contact}
    (hget : (target.after initial past).tables.contacts.get? id = some contact)
    (hmerged : contact.status = .merged) (later : List Call) :
    (target.after initial (past ++ later)).tables.contacts.get? id = some contact := by
  induction later using List.reverseRecOn with
  | nil =>
    rw [List.append_nil]
    exact hget
  | append_singleton later c ih =>
    rw [← List.append_assoc, Target.after_append]
    exact (execute_writes c (target.after initial (past ++ later))).merged_kept ih hmerged

/-- **Merges**: from any active contacts and after any calls, the links are a
    forest whose roots are the active contacts, and a contact that is merged is
    never changed again. -/
theorem merges_form_forest {contacts : List Contact} (hnew : new contacts = .ok initial)
    (hactive : ∀ contact ∈ contacts, contact.status = .active) (calls : List Call) :
    Forest (target.after initial calls).tables ∧
      ∀ later id contact,
        (target.after initial calls).tables.contacts.get? id = some contact →
          contact.status = .merged →
            (target.after initial (calls ++ later)).tables.contacts.get? id = some contact := by
  constructor
  · exact (rooted_after (rooted_new hnew hactive) calls).forest
  · intro later id contact hget hmerged
    exact merged_after hget hmerged later

/-- An active contact. -/
def someContact (contact_id : String) (h : nonBlank contact_id = true) : Contact where
  contact_id := contact_id
  name := "A"
  email := "a@x"
  status := .active
  merged_into := none
  contact_id_text := h
  name_text := by decide
  email_text := by decide
  active_alone _ := rfl
  merged_text := nofun

/-- Merge one contact into another. -/
def mergeCall (key source target : String) : Call where
  request :=
    { capability := CRM_CONTACT_MERGE
      request_id := "r"
      idempotency_key := key
      arguments := object
        [("source_contact_id", .str source), ("target_contact_id", .str target)] }
  clock := .ok ""

theorem merges_form_forest_two :
    Forest (target.after
      ⟨(Registry.empty.put (someContact "a" (by decide))).put (someContact "b" (by decide)), [], []⟩
      [mergeCall "k" "a" "b", mergeCall "j" "b" "a"]).tables := by
  have hnew : new [someContact "a" (by decide), someContact "b" (by decide)] =
      .ok ⟨(Registry.empty.put (someContact "a" (by decide))).put (someContact "b" (by decide)),
        [], []⟩ := rfl
  exact (merges_form_forest hnew (by decide) _).1

end CRMSimulator

end CBrain.Simulators

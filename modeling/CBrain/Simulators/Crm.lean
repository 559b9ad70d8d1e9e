import CBrain.Simulators.Effects

/-! # The CRM simulator

    Models `CRMSimulator` (`cbrain/simulators/crm.py`).  Every capability makes
    all its checks before its one write. -/

namespace CBrain.Simulators

open Json (Dict)
open Mutation (raising write read exec Reads Atomic)

/-! ## Section 1: Contacts -/

/-- The values of `Contact.status`. -/
inductive ContactStatus where
  | active
  | merged
  deriving DecidableEq, Repr

/-- The text of the status. -/
def ContactStatus.text : ContactStatus → String
  | .active => "ACTIVE"
  | .merged => "MERGED"

/-- `Contact`. -/
structure Contact where
  contact_id : String
  name : String
  email : String
  status : ContactStatus
  merged_into : Option String
  contact_id_text : nonBlank contact_id = true
  name_text : nonBlank name = true
  email_text : nonBlank email = true
  active_alone : status = .active → merged_into = none
  merged_text : status = .merged → ∃ id, merged_into = some id ∧ nonBlank id = true

theorem Contact.fields_injective : Function.Injective fun contact : Contact =>
    (contact.contact_id, contact.name, contact.email, contact.status, contact.merged_into) := by
  rintro ⟨_, _, _, _, _, _, _, _, _, _⟩ ⟨_, _, _, _, _, _, _, _, _, _⟩ h
  cases h
  rfl

instance : DecidableEq Contact := Contact.fields_injective.decidableEq

/-- `Contact.to_payload`. -/
def Contact.payload (contact : Contact) : Dict :=
  object
    [("contact_id", .str contact.contact_id), ("name", .str contact.name),
      ("email", .str contact.email), ("status", .str contact.status.text),
      ("merged_into", .optText contact.merged_into)]

/-- The source contact as `_merge` replaces it. -/
def Contact.mergedInto (source target : Contact) : Contact where
  contact_id := source.contact_id
  name := source.name
  email := source.email
  status := .merged
  merged_into := some target.contact_id
  contact_id_text := source.contact_id_text
  name_text := source.name_text
  email_text := source.email_text
  active_alone := nofun
  merged_text := fun _ => ⟨target.contact_id, rfl, target.contact_id_text⟩

/-- The tables of a `CRMSimulator`. -/
structure CRMTables where
  contacts : Registry String Contact Contact.contact_id
  sent_emails : List Dict
  exports : List Dict
  deriving DecidableEq

namespace CRMSimulator

/-! ## Section 2: Capabilities -/

def CRM_CONTACT_READ : String := "crm.contact.read"
def CRM_CONTACT_MERGE : String := "crm.contact.merge"
def CRM_EMAIL_SEND : String := "crm.email.send"
def CRM_EXPORT_CONTACTS : String := "crm.export.contacts"

variable (arguments : Dict)

/-- `_active_contact`. -/
def activeContact (contact_id : String) : Mutation Exn CRMTables Contact := do
  let contact ← read fun tables => tables.contacts.get? contact_id
  match contact with
  | none => raising (.error (notFound "contact does not exist"))
  | some contact => do
    raising (require (contact.status = .active) (conflict "contact is no longer active"))
    pure contact

/-- `_read`. -/
def readContact : Mutation Exn CRMTables Dict := do
  raising (exactFields arguments ["contact_id"] "arguments")
  let contact_id ← raising (requiredText (arguments.get "contact_id") "arguments.contact_id")
  let contact ← activeContact contact_id
  pure (object [("contact", .dict contact.payload)])

/-- `_merge`. -/
def merge : Mutation Exn CRMTables Dict := do
  raising (exactFields arguments ["source_contact_id", "target_contact_id"] "arguments")
  let source_id ← raising
    (requiredText (arguments.get "source_contact_id") "arguments.source_contact_id")
  let target_id ← raising
    (requiredText (arguments.get "target_contact_id") "arguments.target_contact_id")
  raising (require (source_id ≠ target_id)
    (businessError "a contact cannot be merged into itself"))
  let source ← activeContact source_id
  let target ← activeContact target_id
  write fun tables => { tables with contacts := tables.contacts.put (source.mergedInto target) }
  pure (object
    [("source_contact_id", .str source_id), ("target_contact_id", .str target_id),
      ("status", .str "MERGED")])

/-- The members of a message. -/
def messageMembers (message_id subject body : String) (contact : Contact) :
    List (String × Value) :=
  [("message_id", .str message_id), ("contact_id", .str contact.contact_id),
    ("recipient", .str contact.email), ("subject", .str subject), ("body", .str body),
    ("delivery_state", .str "SENT")]

/-- `_send_email`. -/
def sendEmail : Mutation Exn CRMTables Dict := do
  raising (exactFields arguments ["contact_id", "subject", "body"] "arguments")
  let contact_id ← raising (requiredText (arguments.get "contact_id") "arguments.contact_id")
  let contact ← activeContact contact_id
  let subject ← raising (requiredText (arguments.get "subject") "arguments.subject")
  let body ← raising (requiredText (arguments.get "body") "arguments.body")
  let sent ← read fun tables => tables.sent_emails.length
  let message := messageMembers s!"message-{sent + 1}" subject body contact
  write fun tables => { tables with sent_emails := tables.sent_emails ++ [object message] }
  pure (object (message.filter fun member => member.1 ≠ "body"))

/-- An item of `fields`, if it may be exported. -/
def exportField? : Json → Option String
  | .str name => if name ∈ ["contact_id", "name", "email", "status"] then some name else none
  | _ => none

/-- The fields of an export. -/
def exportFields : Json → Raises (List String)
  | .arr (item :: items) =>
    match (item :: items).mapM exportField? with
    | none => .error (contractError "arguments.fields contains an unknown field")
    | some fields => do
      require fields.Nodup (contractError "arguments.fields must not contain duplicates")
      pure fields
  | _ => .error (contractError "arguments.fields must be a non-empty list")

/-- A row of an export. -/
def exportRow (fields : List String) (contact : Contact) : Dict :=
  object (fields.map fun field => (field, memberOf contact.payload field))

/-- `_export`. -/
def exportContacts : Mutation Exn CRMTables Dict := do
  raising (exactFields arguments ["fields", "format"] "arguments")
  let export_format ← raising (requiredText (arguments.get "format") "arguments.format")
  raising (require (export_format = "json") (businessError "only json exports are supported"))
  let fields ← raising (exportFields (arguments.get "fields"))
  let rows ← read fun tables => (sortedValues tables.contacts).map (exportRow fields)
  let exported ← read fun tables => tables.exports.length
  let export_id := s!"export-{exported + 1}"
  let entry := object
    [("export_id", .str export_id), ("format", .str export_format), ("fields", texts fields),
      ("row_count", .nat rows.length)]
  write fun tables => { tables with exports := tables.exports ++ [entry] }
  pure (object
    [("export_id", .str export_id), ("format", .str export_format),
      ("row_count", .nat rows.length), ("rows", .dicts rows)])

/-- `_apply`. -/
def apply (capability : String) : Mutation Exn CRMTables (Dict × Bool) :=
  if capability = CRM_CONTACT_READ then do
    let result ← readContact arguments
    pure (result, false)
  else if capability = CRM_CONTACT_MERGE then do
    let result ← merge arguments
    pure (result, true)
  else if capability = CRM_EMAIL_SEND then do
    let result ← sendEmail arguments
    pure (result, true)
  else if capability = CRM_EXPORT_CONTACTS then do
    let result ← exportContacts arguments
    pure (result, true)
  else raising (.error (contractError "unknown CRM capability"))

/-- `CRMSimulator`. -/
def target : Target CRMTables where
  domain := "crm"
  capabilities := [CRM_CONTACT_READ, CRM_CONTACT_MERGE, CRM_EMAIL_SEND, CRM_EXPORT_CONTACTS]
  unknown := contractError "unknown CRM capability"
  apply _ capability arguments := apply arguments capability

/-! ## Section 3: A failure leaves the tables -/

section atomicity
variable {arguments}

theorem reads_activeContact (contact_id : String) : Reads (activeContact contact_id) := by
  apply (Mutation.reads_read _).bind
  intro contact
  cases contact with
  | none => exact Mutation.reads_raising _
  | some contact =>
    apply (Mutation.reads_raising _).bind
    intro _
    exact Mutation.reads_pure _

theorem reads_readContact : Reads (readContact arguments) := by
  apply (Mutation.reads_raising _).bind
  intro _
  apply (Mutation.reads_raising _).bind
  intro contact_id
  apply (reads_activeContact contact_id).bind
  intro contact
  exact Mutation.reads_pure _

theorem merge_atomic : Atomic (merge arguments) := by
  apply (Mutation.reads_raising _).bind_atomic
  intro _
  apply (Mutation.reads_raising _).bind_atomic
  intro source_id
  apply (Mutation.reads_raising _).bind_atomic
  intro target_id
  apply (Mutation.reads_raising _).bind_atomic
  intro _
  apply (reads_activeContact source_id).bind_atomic
  intro source
  apply (reads_activeContact target_id).bind_atomic
  intro target
  exact Mutation.atomic_write _ _

theorem sendEmail_atomic : Atomic (sendEmail arguments) := by
  apply (Mutation.reads_raising _).bind_atomic
  intro _
  apply (Mutation.reads_raising _).bind_atomic
  intro contact_id
  apply (reads_activeContact contact_id).bind_atomic
  intro contact
  apply (Mutation.reads_raising _).bind_atomic
  intro subject
  apply (Mutation.reads_raising _).bind_atomic
  intro body
  apply (Mutation.reads_read _).bind_atomic
  intro sent
  exact Mutation.atomic_write _ _

theorem exportContacts_atomic : Atomic (exportContacts arguments) := by
  apply (Mutation.reads_raising _).bind_atomic
  intro _
  apply (Mutation.reads_raising _).bind_atomic
  intro export_format
  apply (Mutation.reads_raising _).bind_atomic
  intro _
  apply (Mutation.reads_raising _).bind_atomic
  intro fields
  apply (Mutation.reads_read _).bind_atomic
  intro rows
  apply (Mutation.reads_read _).bind_atomic
  intro exported
  exact Mutation.atomic_write _ _

/-- Every capability is applied whole. -/
theorem apply_atomic {capability : String} : Atomic (apply arguments capability) := by
  unfold apply
  split
  · exact Mutation.atomic_bind_pure reads_readContact.atomic
  split
  · exact Mutation.atomic_bind_pure merge_atomic
  split
  · exact Mutation.atomic_bind_pure sendEmail_atomic
  split
  · exact Mutation.atomic_bind_pure exportContacts_atomic
  · exact (Mutation.reads_raising _).atomic

end atomicity

/-! ## Section 4: Results -/

section results
variable {arguments}

theorem finite_payload (contact : Contact) : Json.finite contact.payload.json = true := by
  apply finite_object
  simp

theorem finite_exportRow (fields : List String) (contact : Contact) :
    Json.finite (exportRow fields contact).json = true := by
  apply finite_object
  intro m hm
  obtain ⟨field, -, rfl⟩ := List.mem_map.mp hm
  exact finite_get (finite_payload contact) field

theorem finite_readContact : FiniteResult (readContact arguments) := by
  iterate 3
    apply Mutation.yields_bind
    intro _
  apply Mutation.yields_pure
  apply finite_object
  simp [finite_payload]

theorem finite_merge : FiniteResult (merge arguments) := by
  iterate 7
    apply Mutation.yields_bind
    intro _
  apply Mutation.yields_pure
  apply finite_object
  simp

theorem finite_sendEmail : FiniteResult (sendEmail arguments) := by
  iterate 7
    apply Mutation.yields_bind
    intro _
  apply Mutation.yields_pure
  apply finite_object
  intro m hm
  have hmember := List.mem_of_mem_filter hm
  simp only [messageMembers, List.mem_cons, List.not_mem_nil, or_false] at hmember
  rcases hmember with rfl | rfl | rfl | rfl | rfl | rfl <;> rfl

theorem finite_exportContacts : FiniteResult (exportContacts arguments) := by
  apply Mutation.yields_bind
  intro _
  apply Mutation.yields_bind
  intro export_format
  apply Mutation.yields_bind
  intro _
  apply Mutation.yields_bind
  intro fields
  have hread : Mutation.Yields (fun rows : List Dict => ∀ row ∈ rows, Json.finite row.json = true)
      (read (ε := Exn) fun tables : CRMTables =>
        (sortedValues tables.contacts).map (exportRow fields)) := by
    intro tables rows hrows row hrow
    obtain rfl := Except.ok.inj hrows
    obtain ⟨contact, -, rfl⟩ := List.mem_map.mp hrow
    exact finite_exportRow fields contact
  refine hread.bind fun rows hrows => ?_
  apply Mutation.yields_bind
  intro exported
  apply Mutation.yields_bind
  intro _
  apply Mutation.yields_pure
  apply finite_object
  simp [finite_dicts hrows]

theorem finite_apply {capability : String} :
    Mutation.Yields (fun answer => Json.finite answer.1.json = true)
      (apply arguments capability) := by
  unfold apply
  split
  · exact FiniteResult.answer false finite_readContact
  split
  · exact FiniteResult.answer true finite_merge
  split
  · exact FiniteResult.answer true finite_sendEmail
  split
  · exact FiniteResult.answer true finite_exportContacts
  · exact Mutation.yields_raising fun _ h => nomatch h

theorem sound : target.Sound where
  domain := by decide
  unknown := rfl
  finite h := finite_apply _ _ h

end results

end CRMSimulator

end CBrain.Simulators

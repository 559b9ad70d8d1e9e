import CBrain.Simulators.Effects

/-! # The mail simulator

    Models `MailSimulator` of `cbrain/simulators/mail.py`: a message is checked
    and then stored with the exact bytes of its body. -/

namespace CBrain.Simulators

open Json (Dict)
open Mutation (raising write read exec Reads Atomic)

/-- `MailMessage`. -/
structure MailMessage where
  message_id : String
  «to» : String
  subject : String
  body : ByteArray
  body_sha256 : String
  deriving DecidableEq

/-- `public_payload`. -/
def MailMessage.publicPayload (message : MailMessage) : Dict :=
  object
    [("message_id", .str message.message_id), ("to", .str message.«to»),
      ("subject", .str message.subject), ("body_sha256", .str message.body_sha256),
      ("byte_length", .nat message.body.size), ("status", .str "SENT")]

/-- The messages, by their ids. -/
structure MailTables where
  messages : Table String MailMessage

namespace MailSimulator

def PROCUREMENT_MAIL_SEND : String := "procurement.mail.send"

/-- The message that `_send` stores. -/
def checkedMessage (arguments : Dict) : Mutation Exn MailTables MailMessage := do
  raising (exactFields arguments ["to", "subject", "body"] "arguments")
  let body_text ← raising (match arguments.get "body" with
    | .str text => .ok text
    | _ => .error (contractError "arguments.body must be text"))
  let body := body_text.toUTF8
  let count ← read fun tables => tables.messages.rows.length
  let «to» ← raising (requiredText (arguments.get "to") "arguments.to")
  let subject ← raising (requiredText (arguments.get "subject") "arguments.subject")
  return {
    message_id := s!"mail-{fourDigits (count + 1)}"
    «to» := «to»
    subject
    body
    body_sha256 := s!"sha256:{Sha256.hexdigest body}" }

/-- `_send`. -/
def send (arguments : Dict) : Mutation Exn MailTables Dict := do
  let message ← checkedMessage arguments
  write fun tables => { tables with messages := tables.messages.set message.message_id message }
  return message.publicPayload

/-- `_apply`. -/
def apply (arguments : Dict) (capability : String) : Mutation Exn MailTables (Dict × Bool) :=
  if capability = PROCUREMENT_MAIL_SEND then do
    let result ← send arguments
    pure (result, true)
  else raising (.error (contractError "unknown mail capability"))

/-- `MailSimulator`. -/
def target : Target MailTables where
  domain := "procurement"
  capabilities := [PROCUREMENT_MAIL_SEND]
  unknown := contractError "unknown mail capability"
  apply _ capability arguments := apply arguments capability

variable {arguments : Dict}

theorem reads_checkedMessage : Reads (checkedMessage arguments) := by
  apply (Mutation.reads_raising _).bind
  intro _
  apply (Mutation.reads_raising _).bind
  intro body_text
  apply (Mutation.reads_read _).bind
  intro count
  apply (Mutation.reads_raising _).bind
  intro recipient
  apply (Mutation.reads_raising _).bind
  intro subject
  exact Mutation.reads_pure _

/-- A message that is refused is not stored. -/
theorem apply_atomic {capability : String} : Atomic (apply arguments capability) := by
  unfold apply
  split
  · -- the checks come before the only write
    have hsend : Atomic (send arguments) :=
      reads_checkedMessage.bind_atomic fun _ => Mutation.atomic_write _ _
    exact fun tables => Mutation.atomicAt_bind_pure.mpr (hsend tables)
  · exact (Mutation.reads_raising _).atomic

theorem sound : target.Sound where
  domain := by decide
  unknown := rfl
  finite := by
    intro clock capability captured tables result mutated h
    have hyields : Mutation.Yields (fun answer : Dict × Bool => Json.finite answer.1.json = true)
        (apply captured capability) := by
      unfold apply
      split
      · refine FiniteResult.answer true ?_
        apply Mutation.yields_bind
        intro message
        apply Mutation.yields_bind
        intro _
        apply Mutation.yields_pure
        apply finite_object
        simp
      · exact Mutation.yields_raising fun _ h => nomatch h
    exact hyields _ _ h

end MailSimulator

end CBrain.Simulators

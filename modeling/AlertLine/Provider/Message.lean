import AlertLine.Delivery

/-!
# Messages as the provider describes them

One document describes a message both in the answer to a send and in later reports. A number is
given alone or in an object that may carry a status; recipients are given singly or as a list. All
these spellings read alike.
-/

namespace AlertLine

/-- A number at one end of a message. -/
inductive Endpoint where
  /-- The number alone. -/
  | number (phoneNumber : String)
  /-- The number, and the status of the message there. -/
  | detailed (phoneNumber : String) (status : Option String)
  deriving DecidableEq, Repr

namespace Endpoint

/-- The number. -/
def phoneNumber : Endpoint → String
  | .number n => n
  | .detailed n _ => n

/-- The status of the message there, if it is given. -/
def status? : Endpoint → Option String
  | .number _ => none
  | .detailed _ s => s

/-- The form of an object: a number and perhaps a status. -/
def ofObject? (room : Nat) (v : Json) : Option Endpoint := do
  let r ← Json.namedRecord? ["phone_number", "status"] room v
  some (.detailed (← r.required 0) (← r.defaulted 1 none))

instance : Reads Endpoint where
  decode room v :=
    match v with
    | .string s => s.map .number
    | v => if v.isSound room then ofObject? room v else none

end Endpoint

/-- The recipients of a message. -/
inductive Endpoints where
  /-- One recipient. -/
  | one (e : Endpoint)
  /-- A list of recipients. -/
  | many (es : List Endpoint)
  deriving DecidableEq, Repr

namespace Endpoints

/-- The first recipient, if there is one. -/
def first? : Endpoints → Option Endpoint
  | .one e => some e
  | .many es => es.head?

instance : Reads Endpoints where
  decode room v :=
    if v.isSound room then
      match (Reads.decode room v : Option Endpoint) with
      | some e => some (.one e)
      | none => (Reads.decode room v : Option (List Endpoint)).map .many
    else none

end Endpoints

/-- A message as the provider describes it. -/
structure MessagePayload where
  /-- The provider's id. -/
  id : String
  /-- The sender. -/
  sender : Option Endpoint
  /-- The recipients. -/
  recipients : Option Endpoints
  /-- The text. -/
  text : Option String
  /-- The status of the message as a whole. -/
  ownStatus : Option String
  deriving DecidableEq, Repr

namespace MessagePayload

/-- The first recipient. -/
def firstRecipient? (m : MessagePayload) : Option Endpoint :=
  m.recipients.bind Endpoints.first?

/-- The status of the message, or else of its first recipient, or else nothing. -/
def status (m : MessagePayload) : String :=
  (m.ownStatus.or (m.firstRecipient?.bind Endpoint.status?)).getD ""

/-- The sender's number. -/
def senderNumber? (m : MessagePayload) : Option String :=
  m.sender.map Endpoint.phoneNumber

/-- The first recipient's number. -/
def recipientNumber? (m : MessagePayload) : Option String :=
  m.firstRecipient?.map Endpoint.phoneNumber

/-- The state that the status stands for. -/
def state (m : MessagePayload) : DeliveryState :=
  .ofMessageStatus m.status

instance : Reads MessagePayload where
  decode room v := do
    let r ← Json.record? ["id", "from", "to", "text", "status"] room v
    some ⟨← r.required 0, ← r.defaulted 1 none, ← r.defaulted 2 none, ← r.defaulted 3 none,
      ← r.defaulted 4 none⟩

end MessagePayload

/-- A document with its contents under the name `data`. -/
structure Envelope (α : Type) where
  /-- The contents. -/
  data : α

instance {α : Type} [Reads α] : Reads (Envelope α) where
  decode room v := do
    let r ← Json.record? ["data"] room v
    some ⟨← r.required 0⟩

/-- What the provider says of a call that it takes on. -/
structure CallAnswer where
  /-- The id of the call. -/
  sid : Option String
  /-- The id under which the call is controlled. -/
  callControlId : Option String
  deriving DecidableEq, Repr

instance : Reads CallAnswer where
  decode room v := do
    let r ← Json.record? ["sid", "call_control_id"] room v
    some ⟨← r.defaulted 0 none, ← r.defaulted 1 none⟩

/-- The id of a call. The first id that is given decides, and an empty one is none. -/
def CallAnswer.callId? (a : CallAnswer) : Option String :=
  (a.sid.or a.callControlId).filter fun id => !id.isEmpty

end AlertLine

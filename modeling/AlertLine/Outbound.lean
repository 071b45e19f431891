import AlertLine.Delivery
import AlertLine.Notification

/-!
# Outbound requests

One send as it is put to the provider, and what comes back at once: the provider's own id, which
every later report about the same message or call carries.
-/

namespace AlertLine

/-- What the provider is asked to deliver. -/
inductive Content where
  /-- The text of a message. -/
  | body (text : String)
  /-- The address from which a call fetches its instructions. -/
  | callback (url : String)
  deriving DecidableEq, Repr

instance : Wire Content where
  encode c :=
    match c with
    | .body text => .obj [("type", .ofString "body"), ("text", .ofString text)]
    | .callback url => .obj [("type", .ofString "callback_target"), ("url", .ofString url)]
  decode room v := do
    match ← Json.tagged? "type" room v with
    | ("body", rest) =>
      let r ← Json.record? ["text"] room rest
      some (.body (← r.required 0))
    | ("callback_target", rest) =>
      let r ← Json.record? ["url"] room rest
      some (.callback (← r.required 0))
    | _ => none

/-- One send. -/
structure Outbound where
  /-- The number that is to be reached. -/
  destination : String
  /-- The number that it is reached from. -/
  origin : String
  /-- The channel. -/
  channel : Channel
  /-- What is delivered. -/
  content : Content
  deriving DecidableEq, Repr

namespace Outbound

/-- The text that is to be delivered, if it is a text. -/
def body? (o : Outbound) : Option String :=
  match o.content with
  | .body text => some text
  | .callback _ => none

/-- The address of a call's instructions, if it is a call. -/
def callback? (o : Outbound) : Option String :=
  match o.content with
  | .body _ => none
  | .callback url => some url

instance : Wire Outbound where
  encode o :=
    .obj [("destination", .ofString o.destination), ("origin", .ofString o.origin),
      ("kind", Wire.encode o.channel), ("content", Wire.encode o.content)]
  decode room v := do
    let r ← Json.record? ["destination", "origin", "kind", "content"] room v
    some ⟨← r.required 0, ← r.required 1, ← r.required 2, ← r.required 3⟩

end Outbound

/-- What the provider says on taking over a send. -/
structure Receipt where
  /-- The provider's id of the message or call. -/
  externalId : String
  /-- Where the send stands. -/
  state : DeliveryState
  /-- The number that it goes out from. -/
  source : String
  deriving DecidableEq, Repr

instance : Wire Receipt where
  encode r :=
    .obj [("external_id", .ofString r.externalId), ("state", Wire.encode r.state),
      ("source", .ofString r.source)]
  decode room v := do
    let r ← Json.record? ["external_id", "state", "source"] room v
    some ⟨← r.required 0, ← r.required 1, ← r.required 2⟩

/-- The carrier behind a number. -/
structure Carrier where
  /-- Its name. -/
  name : String
  /-- The kind of line: `mobile`, `landline`, `voip`. -/
  lineType : String
  deriving DecidableEq, Repr

instance : Wire Carrier where
  encode c := .obj [("name", .ofString c.name), ("type", .ofString c.lineType)]
  decode room v := do
    let r ← Json.record? ["name", "type"] room v
    some ⟨← r.defaulted 0 "", ← r.defaulted 1 ""⟩

end AlertLine

import AlertLine.Delivery

/-!
# Actions and status updates

What is signalled back to the alerting system: that someone did something about an alert, and how
a delivery goes on. An action from a text message may have no alert number; it is then matched by
the telephone number.
-/

namespace AlertLine

/-- What someone can do about an alert. -/
inductive ActionKind where
  /-- Take it on. -/
  | acknowledge
  /-- Declare it over. -/
  | close
  /-- Hear no more. -/
  | unsubscribe
  /-- Hear again. -/
  | resubscribe
  deriving DecidableEq, Repr

namespace ActionKind

/-- Every kind of action. -/
def all : List ActionKind := [.acknowledge, .close, .unsubscribe, .resubscribe]

/-- The name of a kind of action. -/
def name : ActionKind → String
  | .acknowledge => "acknowledge"
  | .close => "close"
  | .unsubscribe => "unsubscribe"
  | .resubscribe => "resubscribe"

instance : Wire ActionKind where
  encode k := .ofString k.name
  decode room v := Json.choice? (all.map fun k => (k.name, k)) room v

end ActionKind

/-- Where an action came in. -/
inductive ActionSource where
  /-- A key pressed in a call. -/
  | voice (callSid : String)
  /-- A text message. -/
  | sms (messageId : String)
  deriving DecidableEq, Repr

instance : Wire ActionSource where
  encode s :=
    match s with
    | .voice callSid => .obj [("channel", .ofString "voice"), ("call_sid", .ofString callSid)]
    | .sms messageId => .obj [("channel", .ofString "sms"), ("message_id", .ofString messageId)]
  decode room v := do
    match ← Json.tagged? "channel" room v with
    | ("voice", rest) =>
      let r ← Json.record? ["call_sid"] room rest
      some (.voice (← r.required 0))
    | ("sms", rest) =>
      let r ← Json.record? ["message_id"] room rest
      some (.sms (← r.required 0))
    | _ => none

/-- Something that someone did about an alert. -/
structure AlertAction where
  /-- What was done. -/
  kind : ActionKind
  /-- The alert, if it was named. -/
  alertId : Option Int64
  /-- The number of the one who did it. -/
  phoneNumber : String
  /-- Where it came in. -/
  source : ActionSource
  deriving DecidableEq, Repr

instance : Wire AlertAction where
  encode a :=
    .obj [("kind", Wire.encode a.kind), ("alert_id", Wire.encode a.alertId),
      ("phone_number", .ofString a.phoneNumber), ("source", Wire.encode a.source)]
  decode room v := do
    let r ← Json.record? ["kind", "alert_id", "phone_number", "source"] room v
    some ⟨← r.required 0, ← r.nullable 1, ← r.required 2, ← r.required 3⟩

/-- How a delivery goes on. -/
structure StatusUpdate where
  /-- The provider's id of the message or call. -/
  externalId : String
  /-- Where the delivery stands. -/
  state : DeliveryState
  /-- The number that is being reached, if it is known. -/
  destination : Option String
  /-- The provider's own word for it. -/
  providerStatus : String
  deriving DecidableEq, Repr

instance : Wire StatusUpdate where
  encode u :=
    .obj [("external_id", .ofString u.externalId), ("state", Wire.encode u.state),
      ("destination", Wire.encode u.destination), ("provider_status", .ofString u.providerStatus)]
  decode room v := do
    let r ← Json.record? ["external_id", "state", "destination", "provider_status"] room v
    some ⟨← r.required 0, ← r.required 1, ← r.nullable 2, ← r.required 3⟩

end AlertLine

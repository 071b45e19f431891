import AlertLine.Json.Decode

/-!
# Notifications

What the alerting system asks to have delivered, over which channel, and the alerts that it can
tell more about.
-/

namespace AlertLine

/-- A way to reach someone. -/
inductive Channel where
  /-- A text message. -/
  | sms
  /-- A telephone call. -/
  | voice
  deriving DecidableEq, Repr

namespace Channel

/-- The name of a channel. -/
def name : Channel → String
  | .sms => "sms"
  | .voice => "voice"

instance : Wire Channel where
  encode c := .ofString c.name
  decode room v := Json.choice? ([sms, voice].map fun c => (c.name, c)) room v

end Channel

/-- What is to be told. -/
inductive Notification where
  /-- That the line works. -/
  | test
  /-- That something is wrong. -/
  | alert (id : Int64) (summary details : String)
  /-- A code that proves that the number is theirs. -/
  | verification (code : String)
  deriving DecidableEq, Repr

namespace Notification

/-- The name of the kind of a notification. -/
def kindName : Notification → String
  | .test => "test"
  | .alert .. => "alert"
  | .verification _ => "verification"

instance : Wire Notification where
  encode n :=
    match n with
    | .test => .obj [("type", .ofString n.kindName)]
    | .alert id summary details =>
      .obj [("type", .ofString n.kindName), ("alert_id", .ofInt64 id),
        ("summary", .ofString summary), ("details", .ofString details)]
    | .verification code => .obj [("type", .ofString n.kindName), ("code", .ofString code)]
  decode room v := do
    match ← Json.tagged? "type" room v with
    | ("test", rest) => if Json.isUnit rest then some .test else none
    | ("alert", rest) =>
      let r ← Json.record? ["alert_id", "summary", "details"] room rest
      some (.alert (← r.required 0) (← r.required 1) (← r.defaulted 2 ""))
    | ("verification", rest) =>
      let r ← Json.record? ["code"] room rest
      some (.verification (← r.required 0))
    | _ => none

end Notification

/-- What the alerting system knows about one alert. -/
structure Alert where
  /-- The number of the alert. -/
  id : Int64
  /-- What is wrong, in a few words. -/
  summary : String
  /-- What more there is to say; may be empty. -/
  details : String
  deriving DecidableEq, Repr

instance : Wire Alert where
  encode a :=
    .obj [("id", .ofInt64 a.id), ("summary", .ofString a.summary),
      ("details", .ofString a.details)]
  decode room v := do
    let r ← Json.record? ["id", "summary", "details"] room v
    some ⟨← r.required 0, ← r.required 1, ← r.defaulted 2 ""⟩

end AlertLine

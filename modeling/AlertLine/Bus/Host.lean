import AlertLine.Bus.Publication
import AlertLine.Webhook.Host

/-!
# The alerting system on the bus

Alerts are asked for under one subject and answered with the alert or with an error. Actions and
status updates are published, each under the subject of its kind; the bus carries what it takes.
-/

namespace AlertLine.Bus

/-- A question for an alert. -/
def lookupRequest (alertId : Int64) : Publication :=
  ⟨Subject.alertLookup, (Json.obj [("alert_id", .ofInt64 alertId)]).bytes⟩

/-- What the alerting system answers to a question for an alert. -/
inductive LookupReply where
  /-- The alert. -/
  | found (alert : Alert)
  /-- Why there is none. -/
  | failed (error : String)
  deriving DecidableEq, Repr

/-- The form of a failure: an object with an error. -/
def LookupReply.failureOf? (room : Nat) (v : Json) : Option LookupReply := do
  let r ← Json.namedRecord? ["error"] room v
  some (.failed (← r.required 0))

instance : Reads LookupReply where
  decode room v :=
    if v.isSound room then
      match (Reads.decode room v : Option Alert) with
      | some alert => some (.found alert)
      | none => LookupReply.failureOf? room v
    else none

/-- The error that says that there is no such alert. -/
def notFoundError : String := "not_found"

/-- What the cause begins with where an answer cannot be read. -/
def undecodableOpening : String := "undecodable lookup reply: "

/-- What an answer to the question for an alert says; `unread` is what its reader says of one that
cannot be read. -/
def readLookupReply (unread : Bytes → String) (alertId : Int64) (payload : Bytes) :
    Except LookupError Alert :=
  match Json.read LookupReply payload with
  | some (.found alert) => .ok alert
  | some (.failed error) =>
    if error = notFoundError then .error (.notFound alertId) else .error (.backend error)
  | none => .error (.backend (undecodableOpening ++ unread payload))

/-- How the bus answers a question. -/
inductive BusAnswer where
  /-- With a payload. -/
  | payload (bytes : Bytes)
  /-- Nobody listens. -/
  | noResponders
  /-- Not in time. -/
  | silent
  deriving DecidableEq, Repr

/-- Why there is no answer where nobody listens. -/
def noRespondersCause : String := "no responders"

/-- What comes of a question for an alert. -/
def findAlert (unread : Bytes → String) (alertId : Int64) : BusAnswer → Answer LookupError Alert
  | .payload bytes =>
    match readLookupReply unread alertId bytes with
    | .ok alert => .done alert
    | .error e => .refused e
  | .noResponders => .refused (.backend noRespondersCause)
  | .silent => .silent

/-- The publication of an action. -/
def publishAction (a : AlertAction) : Publication := .ofValue (Subject.action a.kind) a

/-- The publication of a status update. -/
def publishStatus (u : StatusUpdate) : Publication := .ofValue (Subject.status u.state) u

/-- What comes of a try to publish. -/
structure Published where
  /-- What the bus says. -/
  answer : Answer WriteError Unit
  /-- What it carries then. -/
  carried : List Publication

/-- Publishes, if the bus takes the length. -/
def publish (limit : Nat) (p : Publication) : Published :=
  if p.fits limit then ⟨.done (), [p]⟩ else ⟨.refused ⟨p.tooLong limit⟩, []⟩

/-- Takes an action by publishing it. -/
def recordAction (limit : Nat) (a : AlertAction) : Published := publish limit (publishAction a)

/-- Takes a status update by publishing it. -/
def recordStatus (limit : Nat) (u : StatusUpdate) : Published := publish limit (publishStatus u)

/-- The alerting system as it is reached over the bus; `unread` is what the reader of answers says
of one that cannot be read. -/
def host (limit : Nat) (answer : Publication → BusAnswer) (unread : Bytes → String)
    (sendText : String → String → Sending) : Host where
  findAlert alertId := findAlert unread alertId (answer (lookupRequest alertId))
  recordAction a := (recordAction limit a).answer
  recordStatus u := (recordStatus limit u).answer
  sendText := sendText

/-- What the bus carries for an effect of a webhook: the question of a lookup, or the publication of
a write. -/
def carried (limit : Nat) : Effect → List Publication
  | .lookedUp alertId => [lookupRequest alertId]
  | .wroteAction a _ => (recordAction limit a).carried
  | .wroteStatus u _ => (recordStatus limit u).carried
  | .replied .. | .counted _ | .traced _ => []

end AlertLine.Bus

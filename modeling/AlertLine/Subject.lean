import AlertLine.Action
import AlertLine.Notification
import AlertLine.Text.Blank

/-!
# Bus subjects

The names under which messages travel on the bus. A subject is a row of tokens with dots between
them; what comes from outside is made into one token first, so that it can neither add a token nor
act as a wildcard.
-/

namespace AlertLine.Subject

/-- Where alerts are looked up. -/
def alertLookup : String := "telnyx.lookup.alert"

/-- Where the carriers behind numbers are looked up. -/
def carrierLookup : String := "telnyx.lookup.carrier"

/-- Where the outcome of every send is published. -/
def outcome : String := "telnyx.sent"

/-- What the egress worker listens to: a stem and any tokens behind it. -/
def outboundStem : List String := ["telnyx", "out"]

/-- The characters that would end a token, act as a wildcard or be refused. -/
def isSeparator (c : Char) : Bool :=
  c == ' ' || c == '\t' || c == '\n' || c == '\r' || c == '*' || c == '>' || c == '/' || c == '.'

/-- A text as one token: trimmed, with a dash for every separator, and never empty. -/
def token (s : String) : String :=
  match (Text.trimChars s.toList).map fun c => if isSeparator c then '-' else c with
  | [] => "unknown"
  | cs => String.ofList cs

/-- Where a kind of action is published. -/
def action (kind : ActionKind) : String := "telnyx.action." ++ kind.name

/-- Where a delivery state is published. -/
def status (state : DeliveryState) : String := "telnyx.status." ++ state.name

/-- Where notifications for a destination are published. -/
def outbound (channel : Channel) (destination : String) : String :=
  "telnyx.out." ++ channel.name ++ "." ++ token destination

/-- The tokens of a subject. -/
def tokens (subject : String) : List String :=
  (subject.toList.splitOnP (· == '.')).map String.ofList

/-- Whether a subject lies below the stem that the egress worker listens to: at least one token
has to follow the stem. -/
def isOutbound (subject : String) : Bool :=
  let ts := tokens subject
  outboundStem.isPrefixOf ts && outboundStem.length < ts.length

end AlertLine.Subject

import AlertLine.Bus.Publication
import AlertLine.Provider.Sender

/-!
# The outbound worker

Takes notifications and questions about carriers from the bus, one message at a time. Every
notification that can be read is sent once and reported once; every question with a subject for
its answer is answered once, also one that cannot be read. A message that cannot be handled changes
nothing for the others.
-/

namespace AlertLine

/-- A notification that is to be sent. -/
structure SendOrder where
  /-- The number to reach. -/
  destination : String
  /-- The channel. -/
  channel : Channel
  /-- What is to be told. -/
  notification : Notification
  /-- An id that the report repeats. -/
  requestId : Option String
  deriving DecidableEq, Repr

/-- An entry of an object that is left out where it has no value. -/
def optionalEntry {α : Type} [Wire α] (name : String) (value : Option α) : List (String × Json) :=
  (value.map fun a => (name, Wire.encode a)).toList

instance : Wire SendOrder where
  encode o :=
    .obj ([("destination", .ofString o.destination), ("kind", Wire.encode o.channel),
      ("notification", Wire.encode o.notification)] ++ optionalEntry "request_id" o.requestId)
  decode room v := do
    let r ← Json.record? ["destination", "kind", "notification", "request_id"] room v
    some ⟨← r.required 0, ← r.required 1, ← r.required 2, ← r.defaulted 3 none⟩

/-- A failure as it is reported. -/
structure Failure where
  /-- What happened. -/
  message : String
  /-- Whether another try may go better. -/
  retryable : Bool
  deriving DecidableEq, Repr

instance : Wire Failure where
  encode f := .obj [("message", .ofString f.message), ("retryable", .bool f.retryable)]
  decode room v := do
    let r ← Json.record? ["message", "retryable"] room v
    some ⟨← r.required 0, ← r.required 1⟩

/-- The report of a failed send. -/
def Failure.ofError (e : DispatchError) : Failure := ⟨e.message, e.isRetryable⟩

/-- What became of a notification. -/
structure SendReport where
  /-- The id that came with the notification. -/
  requestId : Option String
  /-- The number to reach. -/
  destination : String
  /-- The channel. -/
  channel : Channel
  /-- The provider's receipt, if it was sent. -/
  result : Option Receipt
  /-- The failure, if it was not. -/
  error : Option Failure
  deriving DecidableEq, Repr

instance : Wire SendReport where
  encode o :=
    .obj (optionalEntry "request_id" o.requestId ++
      [("destination", .ofString o.destination), ("kind", Wire.encode o.channel)] ++
      optionalEntry "result" o.result ++ optionalEntry "error" o.error)
  decode room v := do
    let r ← Json.record? ["request_id", "destination", "kind", "result", "error"] room v
    some ⟨← r.defaulted 0 none, ← r.required 1, ← r.required 2, ← r.defaulted 3 none,
      ← r.defaulted 4 none⟩

/-- The report on an order. -/
def SendOrder.report (o : SendOrder) : Except DispatchError Receipt → SendReport
  | .ok receipt => ⟨o.requestId, o.destination, o.channel, some receipt, none⟩
  | .error e => ⟨o.requestId, o.destination, o.channel, none, some (.ofError e)⟩

/-- A question for the carrier behind a number. -/
structure CarrierQuery where
  /-- The number. -/
  number : String
  deriving DecidableEq, Repr

instance : Wire CarrierQuery where
  encode q := .obj [("number", .ofString q.number)]
  decode room v := do
    let r ← Json.record? ["number"] room v
    some ⟨← r.required 0⟩

/-- The answer to a question for a carrier. -/
structure CarrierReply where
  /-- The carrier, if it was found. -/
  carrier : Option Carrier
  /-- The failure, if it was not. -/
  error : Option Failure
  deriving DecidableEq, Repr

instance : Wire CarrierReply where
  encode r := .obj (optionalEntry "carrier" r.carrier ++ optionalEntry "error" r.error)
  decode room v := do
    let r ← Json.record? ["carrier", "error"] room v
    some ⟨← r.defaulted 0 none, ← r.defaulted 1 none⟩

namespace CarrierReply

/-- The answer that a lookup gives. -/
def ofResult : Except DispatchError Carrier → CarrierReply
  | .ok carrier => ⟨some carrier, none⟩
  | .error e => ⟨none, some (.ofError e)⟩

/-- What the message begins with where the question cannot be read. -/
def malformedOpening : String := "bad carrier lookup request: "

/-- The answer to a question that cannot be read, with what its reader says of it. -/
def malformed (cause : String) : CarrierReply :=
  ⟨none, some ⟨malformedOpening ++ cause, false⟩⟩

end CarrierReply

/-! ## The worker -/

/-- What the worker can ask for. -/
inductive SenderCall where
  /-- To send a notification. -/
  | send (destination : String) (channel : Channel) (notification : Notification)
  /-- To look up a carrier. -/
  | lookup (number : String)
  deriving DecidableEq, Repr

/-- What sends notifications and looks up carriers, with the words of the reader of questions. Each
call comes back: the worker waits for it, and what is behind one that does not is never reached. -/
structure Sender where
  /-- Sends a notification. -/
  send : String → Channel → Notification → Dispatch Receipt
  /-- Looks up the carrier behind a number. -/
  lookupCarrier : String → Dispatch Carrier
  /-- What the reader says of a question that cannot be read. -/
  unread : Bytes → String

/-- The provider's sender. -/
def Provider.sender (p : Provider) (s : Settings) (unread : Bytes → String) : Sender :=
  ⟨p.send s, p.lookupCarrier s, unread⟩

/-- A piece of the worker's work. -/
structure Work (α : Type) where
  /-- What comes of it. -/
  value : α
  /-- What the sender was asked for. -/
  calls : List SenderCall
  /-- The requests that were made to the provider. -/
  requests : List HttpRequest
  /-- What is counted. -/
  metrics : List Metric

namespace Work

/-- Work without the sender. -/
def idle {α : Type} (value : α) : Work α := ⟨value, [], [], []⟩

/-- Work with one call of the sender. -/
def ofDispatch {α β : Type} (call : SenderCall) (d : Dispatch α)
    (f : Except DispatchError α → β) : Work β :=
  ⟨f d.result, [call], d.requests, d.metrics⟩

/-- Work with another value. -/
def map {α β : Type} (f : α → β) (w : Work α) : Work β :=
  ⟨f w.value, w.calls, w.requests, w.metrics⟩

end Work

namespace Worker

/-- Carries out an order. -/
def carryOut (sender : Sender) (o : SendOrder) : Work SendReport :=
  .ofDispatch (.send o.destination o.channel o.notification)
    (sender.send o.destination o.channel o.notification) o.report

/-- Reads an order and carries it out; there is no report on what cannot be read. -/
def process (sender : Sender) (payload : Bytes) : Work (Option SendReport) :=
  match Json.read SendOrder payload with
  | some o => (carryOut sender o).map some
  | none => .idle none

/-- Reads a question and answers it. -/
def answerCarrierQuery (sender : Sender) (payload : Bytes) : Work CarrierReply :=
  match Json.read CarrierQuery payload with
  | some q => .ofDispatch (.lookup q.number) (sender.lookupCarrier q.number) .ofResult
  | none => .idle (.malformed (sender.unread payload))

/-- Whether the worker listens to a subject. -/
def listensTo (subject : String) : Bool :=
  Subject.isOutbound subject || subject == Subject.carrierLookup

/-- Handles one message; the value is what is to be published. -/
def handle (sender : Sender) (m : Bus.Message) : Work (List Bus.Publication) :=
  if Subject.isOutbound m.subject then
    (process sender m.payload).map fun report =>
      (report.map (Bus.Publication.ofValue Subject.outcome)).toList
  else if m.subject = Subject.carrierLookup then
    match m.replyTo with
    | none => .idle []
    | some replyTo =>
      (answerCarrierQuery sender m.payload).map fun reply =>
        [Bus.Publication.ofValue replyTo reply]
  else .idle []

/-- Handles messages in their order of arrival, each with what the sender answers then. -/
def run (messages : List (Sender × Bus.Message)) : List (Work (List Bus.Publication)) :=
  messages.map fun m => handle m.1 m.2

/-- Everything that is published, in order. -/
def published (messages : List (Sender × Bus.Message)) : List Bus.Publication :=
  (run messages).flatMap Work.value

/-- What the bus takes of a piece of work. What it refuses is dropped. -/
def taken (limit : Nat) (w : Work (List Bus.Publication)) : List Bus.Publication :=
  w.value.filter fun p => p.fits limit

/-- Everything that the bus takes, in order. -/
def delivered (limit : Nat) (messages : List (Sender × Bus.Message)) : List Bus.Publication :=
  (run messages).flatMap (taken limit)

end Worker
end AlertLine

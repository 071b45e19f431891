import AlertLine.Provider.Message
import AlertLine.Reply
import AlertLine.Webhook.Host
import AlertLine.Webhook.Response

/-!
# Message webhooks

Received texts and delivery reports. A text that asks for an action is answered only after the
action was taken; where it was not, nobody is told that it was. Everything is acknowledged, even
what cannot be read, so that the provider does not send it again; but only once the sender of the
confirmation has come back, which it may never do.
-/

namespace AlertLine

/-- An event about a message. -/
structure MessageEvent where
  /-- The kind of event. -/
  eventType : String
  /-- The id of the event. -/
  id : Option String
  /-- The message. -/
  message : MessagePayload
  deriving DecidableEq, Repr

instance : Reads MessageEvent where
  decode room v := do
    let r ← Json.record? ["event_type", "id", "payload"] room v
    some ⟨← r.required 0, ← r.defaulted 1 none, ← r.required 2⟩

/-- What an event asks for. -/
inductive MessageRoute where
  /-- A text is to be understood. -/
  | reply
  /-- A delivery is to be reported. -/
  | status
  /-- Nothing. -/
  | ignore
  deriving DecidableEq, Repr

/-- The name of what an event asks for. -/
def MessageRoute.name : MessageRoute → String
  | .reply => "reply"
  | .status => "status"
  | .ignore => "ignore"

namespace MessageEvent

/-- What an event asks for. -/
def route (e : MessageEvent) : MessageRoute :=
  match e.eventType with
  | "message.received" => .reply
  | "message.sent" | "message.finalized" | "message.delivered" => .status
  | _ => .ignore

/-- The status update that an event makes. -/
def statusUpdate (e : MessageEvent) : StatusUpdate :=
  ⟨e.message.id, e.message.state, e.message.recipientNumber?, e.message.status⟩

/-- The number that a text came from, if it is known. -/
def sender? (e : MessageEvent) : Option String :=
  e.message.senderNumber?.filter fun number => !number.isEmpty

/-- What the text asks for. -/
def reply (e : MessageEvent) : Reply := .ofText (e.message.text.getD "")

end MessageEvent

/-- The response to a webhook once the work on it is over, and what was done. -/
def Handling.answering (w : Handling) (response : Response) : Option Response × List Effect :=
  (if w.ends then some response else none, w.effects)

namespace Webhook

/-- Sends the confirmation of a reply, if it has one. -/
def confirm (h : Host) (number : String) (r : Reply) : Handling :=
  match r.confirmation with
  | some text => h.reply number text
  | none => .done []

/-- Handles a received text. -/
def handleReply (h : Host) (e : MessageEvent) : Handling :=
  match e.sender? with
  | none => .done []
  | some number =>
    match e.reply.action with
    | none => confirm h number e.reply
    | some (kind, alertId) =>
      let (succeeded, effects) := h.writeAction ⟨kind, alertId, number, .sms e.message.id⟩
      if succeeded then (confirm h number e.reply).after effects else .done effects

/-- Handles an event. -/
def handleEvent (h : Host) (e : MessageEvent) : Handling :=
  match e.route with
  | .reply => handleReply h e
  | .status => .done (h.writeStatus e.statusUpdate).2
  | .ignore => .done []

/-- What is traced of an event. -/
def eventSpan (requestId : String) (e : MessageEvent) : Span :=
  ⟨[("route", Route.sms.name), ("event_type", e.eventType), ("request_id", requestId),
    ("message_id", e.message.id)]⟩

/-- Handles a verified event. There is no response where the work has no end. -/
def handleMessage (h : Host) (requestId : String) (body : Bytes) :
    Option Response × List Effect :=
  let response := Response.acknowledgement (some requestId)
  match Json.read (Envelope MessageEvent) body with
  | none => (some response, [])
  | some ⟨e⟩ =>
    let noted := [.traced (eventSpan requestId e), .counted (.accepted .sms)]
    ((handleEvent h e).after noted).answering response

end Webhook
end AlertLine

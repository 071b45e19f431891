import AlertLine.Encoding.Form
import AlertLine.Voice.Menu
import AlertLine.Webhook.Host
import AlertLine.Webhook.Response

/-!
# Call webhooks

What a caller hears next. The query of the callback tells what the call is about and the posted
form what happened; nothing about a call is kept in between. A call that has ended is reported and
hears nothing more. In a call about an alert a menu key acts on the alert, and the caller hears
that it worked only if it did.
-/

namespace AlertLine

/-- What a callback tells about a call. -/
structure CallEvent where
  /-- The provider's id of the call. -/
  callSid : String
  /-- The status, without blanks around it and in lower case. -/
  status : String
  /-- The calling number. -/
  caller : String
  /-- The called number. -/
  callee : String
  /-- The keys that were pressed, if any were. -/
  digits : Option String
  deriving DecidableEq, Repr

namespace CallEvent

/-- An event that tells nothing. -/
def blank : CallEvent := ⟨"", "", "", "", none⟩

/-- Takes in one field of a form. Blank digits leave those from before. -/
def step (e : CallEvent) (p : Form.Pair) : CallEvent :=
  match p.1 with
  | "CallSid" => { e with callSid := p.2 }
  | "CallStatus" => { e with status := Text.keyword p.2 }
  | "From" => { e with caller := p.2 }
  | "To" => { e with callee := p.2 }
  | "Digits" =>
    let digits := Text.trim p.2
    if digits.isEmpty then e else { e with digits := some digits }
  | _ => e

/-- The event that a posted form tells. -/
def ofForm (body : Bytes) : CallEvent :=
  (Form.parse body).foldl step blank

/-- The number that is being notified. -/
def contactNumber (e : CallEvent) : String :=
  if e.callee.isEmpty then e.caller else e.callee

/-- The status update that the end of a call makes. -/
def statusUpdate (e : CallEvent) (state : DeliveryState) : StatusUpdate :=
  ⟨e.callSid, state, if e.contactNumber.isEmpty then none else some e.contactNumber, e.status⟩

end CallEvent

namespace Webhook

/-- The state to report, if the call has ended. -/
def endedState? (e : CallEvent) : Option DeliveryState :=
  if callHasEnded e.status then DeliveryState.ofCallStatus? e.status else none

/-- The menu of a call about an alert. -/
def alertMenu (s : Settings) (h : Host) (c : CallContext) (e : CallEvent) :
    CallMenu × List Effect :=
  match e.digits.bind s.keys.action? with
  | some kind =>
    let (succeeded, effects) :=
      h.writeAction ⟨kind, c.alertId, e.contactNumber, .voice e.callSid⟩
    (if succeeded then .confirmation kind else .actionFailed, effects)
  | none =>
    match c.alertId with
    | none => (.alertUnavailable none, [.counted (.lookupFailed .alert)])
    | some alertId =>
      match h.lookUp alertId with
      | (.ok alert, effects) => (.alert alert, effects)
      | (.error _, effects) =>
        (.alertUnavailable (some alertId), effects ++ [.counted (.lookupFailed .alert)])

/-- The menu of a call that goes on. -/
def openMenu (s : Settings) (h : Host) (c : CallContext) (e : CallEvent) :
    CallMenu × List Effect :=
  match c.intent with
  | .alert => alertMenu s h c e
  | .verification =>
    match c.code with
    | some code => (.verification code, [])
    | none => (.generic, [.counted (.lookupFailed .verification)])
  | .test => (.test, [])
  | .default => (.generic, [])

/-- What a caller hears next. -/
def callMenu (s : Settings) (h : Host) (c : CallContext) (e : CallEvent) :
    CallMenu × List Effect :=
  match endedState? e with
  | some state => (.hangup, (h.writeStatus (e.statusUpdate state)).2)
  | none => openMenu s h c e

/-- The document that a caller hears next. -/
def respondToCall (s : Settings) (h : Host) (c : CallContext) (e : CallEvent) :
    String × List Effect :=
  let (menu, effects) := callMenu s h c e
  (menu.render s, effects)

/-- What is traced of a callback. -/
def callSpan (requestId : String) (c : CallContext) (e : CallEvent) : Span :=
  ⟨[("route", Route.voice.name), ("intent", c.intent.word), ("request_id", requestId),
    ("call_sid", e.callSid)]⟩

/-- Handles a verified callback. -/
def handleCall (s : Settings) (h : Host) (requestId query : String) (body : Bytes) :
    Response × List Effect :=
  let c := CallContext.ofQuery query
  let e := CallEvent.ofForm body
  let (document, effects) := respondToCall s h c e
  (.markup document, .traced (callSpan requestId c e) :: .counted (.accepted .voice) :: effects)

end Webhook
end AlertLine

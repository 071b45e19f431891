import AlertLine.Outbound
import AlertLine.Provider.Exchange
import AlertLine.Provider.Message

/-!
# Sending

Notifications, texts, calls and number lookups, each with at most one request to the provider and
never a second try. A text is cut to the length of one message. A call is given the address at
which it fetches its instructions, with everything that has to be known about it in the query.
-/

namespace AlertLine

/-! ## Texts -/

/-- The greatest length of a message, in characters. -/
def smsLimit : Nat := 160

/-- What a text ends in that was cut. -/
def cutMark : String := "..."

/-- A text cut to the length of a message. -/
def cutToSms (text : String) : String :=
  if text.length ≤ smsLimit then text
  else String.ofList (text.toList.take (smsLimit - cutMark.length)) ++ cutMark

/-- The text of a notification as a message. -/
def Notification.smsText : Notification → String
  | .test => "Test message from your alerting system."
  | .alert id summary _ => "Alert #" ++ Decimal.ofInt64 id ++ ": " ++ summary
  | .verification code => "Your verification code is: " ++ code

/-! ## Requests -/

/-- Where calls fetch their instructions, below the base address for callbacks. -/
def voicePath : List String := ["telnyx", "voice"]

namespace Settings

/-- The address at which a call fetches what to tell of a notification. -/
def callbackUrl (s : Settings) (n : Notification) : Except SetupFault String := do
  let base ← require "callback_base" s.callbackBase
  let target := do (← Url.parse base).withTrailingSlash.beside voicePath
  match target with
  | .ok url => .ok ((CallContext.ofNotification n).applyTo url).text
  | .error cause => .error (.callbackBase cause.message)

/-- The send that a notification makes. -/
def buildRequest (s : Settings) (destination : String) (channel : Channel) (n : Notification) :
    Except SetupFault Outbound := do
  let origin ← require "from_number" s.fromNumber
  match channel with
  | .sms => .ok ⟨destination, origin, .sms, .body n.smsText⟩
  | .voice => .ok ⟨destination, origin, .voice, .callback (← s.callbackUrl n)⟩

end Settings

/-! ## Sends -/

namespace Provider

/-- The id of a send that is only pretended. -/
def mockId (p : Provider) : String := "mock:" ++ p.freshId

/-- The receipt that a message's description makes; the number it goes out from is the asked one
unless the description tells another. -/
def messageReceipt (origin : String) (m : MessagePayload) : Receipt :=
  ⟨m.id, m.state, m.senderNumber?.getD origin⟩

/-- Sends a message. -/
def postMessage (p : Provider) (s : Settings) (origin destination text : String) :
    Dispatch Receipt :=
  if s.isMock then .settled (.ok ⟨p.mockId, .sending, origin⟩)
  else
    let body := Json.obj [("from", .ofString origin), ("to", .ofString destination),
      ("text", .ofString (cutToSms text))]
    (p.exchange (α := Envelope MessagePayload) s .sms .post "messages" (some body)).andThen
      fun answer => .ok (messageReceipt origin answer.data)

/-- Starts a call; the result is the provider's id of it. -/
def postCall (p : Provider) (s : Settings) (origin destination callback : String) :
    Dispatch String :=
  match Settings.require "connection_id" s.connectionId with
  | .error fault => .refused fault
  | .ok connectionId =>
    if s.isMock then .settled (.ok p.mockId)
    else
      let path := "texml/calls/" ++ Percent.encodeSegment connectionId
      let body := Json.obj [("to", .ofString destination), ("from", .ofString origin),
        ("url", .ofString callback), ("url_method", .ofString "POST")]
      (p.exchange (α := Envelope CallAnswer) s .voice .post path (some body)).andThen
        fun answer =>
          match answer.data.callId? with
          | some id => .ok id
          | none => .error (.decode .noCallId)

/-- Carries out a send. -/
def dispatch (p : Provider) (s : Settings) (o : Outbound) : Dispatch Receipt :=
  match o.content with
  | .body text => p.postMessage s o.origin o.destination text
  | .callback url =>
    (p.postCall s o.origin o.destination url).andThen fun id =>
      .ok ⟨id, .sending, o.destination⟩

/-- Sends a notification. -/
def send (p : Provider) (s : Settings) (destination : String) (channel : Channel)
    (n : Notification) : Dispatch Receipt :=
  match s.buildRequest destination channel n with
  | .error fault => .refused fault
  | .ok o => p.dispatch s o

/-- Sends a text from the configured number. -/
def sendText (p : Provider) (s : Settings) (destination text : String) : Dispatch Receipt :=
  match Settings.require "from_number" s.fromNumber with
  | .error fault => .refused fault
  | .ok origin => p.postMessage s origin destination text

/-- Starts a call from the configured number. -/
def makeCall (p : Provider) (s : Settings) (destination callback : String) : Dispatch String :=
  match Settings.require "from_number" s.fromNumber with
  | .error fault => .refused fault
  | .ok origin => p.postCall s origin destination callback

/-- What the provider says about a number. -/
structure NumberAnswer where
  /-- The carrier behind it. -/
  carrier : Carrier

instance : Reads NumberAnswer where
  decode room v := do
    let r ← Json.record? ["carrier"] room v
    some ⟨← r.defaulted 0 ⟨"", ""⟩⟩

/-- The carrier that a pretended lookup finds. -/
def mockCarrier : Carrier := ⟨"mock", "mobile"⟩

/-- Looks up the carrier behind a number. -/
def lookupCarrier (p : Provider) (s : Settings) (number : String) : Dispatch Carrier :=
  if Text.isBlankText number then .refused .noNumber
  else if s.isMock then .settled (.ok mockCarrier)
  else
    let path := "number_lookup/" ++ Percent.encodeSegment (Text.trim number)
    (p.exchange (α := Envelope NumberAnswer) s .lookup .get path none).andThen
      fun answer => .ok answer.data.carrier

end Provider
end AlertLine

import AlertLine.Webhook.Messages
import AlertLine.Webhook.Voice

/-!
# Routing

Where a request goes. All but the health check stands behind the signature: a body that is too
long, or a signature that is refused, ends a request before anything is looked at, whatever its
path and method. A request whose handler never comes to its end gets no response. A session is a
row of requests; nothing is kept from one to the next.
-/

namespace AlertLine

/-- A request as it arrives. -/
structure Request where
  /-- The method. -/
  method : String
  /-- The path, as it is written. -/
  path : String
  /-- The query, if there is one. -/
  query : Option String
  /-- The header fields. -/
  headers : Headers
  /-- The body. -/
  body : Bytes
  deriving Repr

namespace Webhook

/-- The greatest length of a body, in bytes. -/
def maxBodyLength : Nat := 1024 * 1024

/-- The path of the health check. -/
def healthPath : String := "/healthz"

/-- The webhook that a path belongs to. -/
def routeOf? (path : String) : Option Route :=
  match path with
  | "/telnyx/voice" => some .voice
  | "/telnyx/sms" => some .sms
  | _ => none

/-- The line as it answers webhooks. -/
structure Line where
  /-- How it is set up. -/
  settings : Settings
  /-- What it verifies webhooks with. -/
  verifier : Verifier

/-- Why a request is turned away, if it is. -/
def rejection? (l : Line) (now : Int64) (r : Request) : Option Rejection :=
  if maxBodyLength < r.body.length then some .bodyTooLarge
  else
    match l.verifier.verifyAt r.body r.headers now with
    | .ok () => none
    | .error error => some (.unverified error)

/-- The status that a rejection is answered with. -/
def rejectionStatus : Rejection → HttpStatus
  | .bodyTooLarge => 413
  | .unverified _ => 401

/-- The methods that a path serves, if the one asked for is not among them. -/
def allowed? (r : Request) : Option String :=
  if (routeOf? r.path).isSome && r.method != "POST" then some "POST" else none

/-- Answers a request whose signature holds. -/
def answerVerified (l : Line) (h : Host) (requestId : String) (r : Request) :
    Option Response × List Effect :=
  match routeOf? r.path with
  | none => (some (.empty 404), [])
  | some route =>
    if r.method = "POST" then
      match route with
      | .voice =>
        let (response, effects) := handleCall l.settings h requestId (r.query.getD "") r.body
        (some response, effects)
      | .sms => handleMessage h requestId r.body
    else (some (.empty 405), [])

/-- Answers the health check. -/
def answerHealth (r : Request) : Response :=
  if r.method = "GET" ∨ r.method = "HEAD" then .empty 204
  else { Response.empty 405 with allow := some "GET,HEAD" }

/-- Turns a request away. -/
def turnAway (reason : Rejection) : Option Response × List Effect :=
  (some (.empty (rejectionStatus reason)), [.counted (.rejected reason)])

/-- Answers a request to a webhook. -/
def answerWebhook (l : Line) (h : Host) (now : Int64) (requestId : String) (r : Request) :
    Option Response × List Effect :=
  match rejection? l now r with
  | some reason => turnAway reason
  | none => answerVerified l h requestId r

/-- Answers one request, if there is an end to it. -/
def answer (l : Line) (h : Host) (now : Int64) (requestId : String) (r : Request) :
    Option Response × List Effect :=
  if r.path = healthPath then (some (answerHealth r), [])
  else
    let (response?, effects) := answerWebhook l h now requestId r
    (response?.map fun response => { response with allow := allowed? r }, effects)

/-- One request with what surrounds it: the clock, the id that it is given, and how the alerting
system answers while it is handled. -/
structure Visit where
  /-- What answers the webhook's questions. -/
  host : Host
  /-- The clock, in seconds. -/
  now : Int64
  /-- The id of the request. -/
  requestId : String
  /-- The request. -/
  request : Request

/-- Answers the requests of a session in their order. -/
def session (l : Line) (visits : List Visit) : List (Option Response × List Effect) :=
  visits.map fun v => answer l v.host v.now v.requestId v.request

/-- All effects of a session in their order. -/
def sessionEffects (l : Line) (visits : List Visit) : List Effect :=
  (session l visits).flatMap Prod.snd

end Webhook
end AlertLine

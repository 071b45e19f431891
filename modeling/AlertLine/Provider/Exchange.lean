import AlertLine.Metrics
import AlertLine.Settings.Basic
import AlertLine.Url.Parser
import AlertLine.Url.Target

/-!
# Exchanges with the provider

One request and what comes back. The provider is a function from requests to answers, so an
exchange is a value: its result, the request that was made, if one was, and what is counted. A
request is made at most once, and none is made without a secret. What the HTTP client and the reader
of documents say of a failure comes with the answers: any text will do.
-/

namespace AlertLine

/-- What a request asks for. -/
inductive HttpMethod where
  /-- To read. -/
  | get
  /-- To do something. -/
  | post
  deriving DecidableEq, Repr

/-- The name of a method. -/
def HttpMethod.name : HttpMethod → String
  | .get => "GET"
  | .post => "POST"

/-- A request to the provider. -/
structure HttpRequest where
  /-- The method. -/
  method : HttpMethod
  /-- The address as it was put together. -/
  address : String
  /-- The secret. -/
  apiKey : String
  /-- The document that is sent along. -/
  body : Option Json

namespace HttpRequest

/-- The address, if requests can go to it: it has one of the two schemes, and it can be written as
a target. -/
def url? (r : HttpRequest) : Option Url :=
  (Url.parse r.address).toOption.filter fun u =>
    (u.scheme == "http" || u.scheme == "https") && (Target.parse u.text).isOk

/-- The field that carries the secret. -/
def authorization (r : HttpRequest) : String := "Bearer " ++ r.apiKey

/-- The kind of document that is wanted. -/
def accept : String := "application/json"

/-- The kind of document that is sent along. -/
def contentType (r : HttpRequest) : Option String :=
  r.body.map fun _ => "application/json"

/-- A byte that a header field can hold. -/
def isFieldByte (b : UInt8) : Bool := b == 0x09 || (0x20 ≤ b && b != 0x7F)

/-- Whether a request can be made at all: its address can be reached and its secret can stand in
a header field. -/
def isSendable (r : HttpRequest) : Bool :=
  r.url?.isSome && (Utf8.encode r.authorization).all isFieldByte

end HttpRequest

/-- What comes back. -/
inductive HttpAnswer where
  /-- Nothing, or nothing in time; what the HTTP client says of it is given. -/
  | nothing (cause : String)
  /-- An answer whose body breaks off; what the HTTP client says of it is given. -/
  | brokenOff (status : HttpStatus) (cause : String)
  /-- An answer. -/
  | whole (status : HttpStatus) (body : Bytes)
  deriving DecidableEq, Repr

/-- The provider as the line sees it, through an HTTP client and a reader of documents. -/
structure Provider where
  /-- What comes back for a request in the end: the HTTP client follows redirects by itself. -/
  answer : HttpRequest → HttpAnswer
  /-- An id that no other send has, for sends that are only pretended. -/
  freshId : String
  /-- What the HTTP client says of a request that cannot be made. -/
  unsent : HttpRequest → String
  /-- What the reader says of a body that is not the document that is expected. -/
  unread : RequestKind → Bytes → String

/-- A send as a whole. -/
structure Dispatch (α : Type) where
  /-- How it ended. -/
  result : Except DispatchError α
  /-- The requests that were made. -/
  requests : List HttpRequest
  /-- What is counted. -/
  metrics : List Metric

namespace Dispatch

/-- A send that ends without a request. -/
def settled {α : Type} (result : Except DispatchError α) : Dispatch α := ⟨result, [], []⟩

/-- A send that ends before a request is made. -/
def refused {α : Type} (fault : SetupFault) : Dispatch α := settled (.error (.setup fault))

/-- A send whose result is looked at further. -/
def andThen {α β : Type} (d : Dispatch α) (f : α → Except DispatchError β) : Dispatch β :=
  ⟨d.result.bind f, d.requests, d.metrics⟩

end Dispatch

/-- A setting that may not be blank. -/
def Settings.require (setting value : String) : Except SetupFault String :=
  if Text.isBlankText value then .error (.missing setting) else .ok value

/-- What an answer says, and how it is counted. A refusal with a body that breaks off counts as
one with an empty body. -/
def HttpAnswer.read {α : Type} [Reads α] (unread : Bytes → String) :
    HttpAnswer → RequestOutcome × Except DispatchError α
  | .nothing cause => (.transport, .error (.transport (.noAnswer cause)))
  | .brokenOff status cause =>
    if status.isSuccess then (.transport, .error (.transport (.brokenOff cause)))
    else (.provider, .error (.provider status (.ofBody "")))
  | .whole status body =>
    if status.isSuccess then
      match Json.read α body with
      | some a => (.ok, .ok a)
      | none => (.decode, .error (.decode (.undecodable (unread body))))
    else (.provider, .error (.provider status (.ofBody (Utf8.decodeLossy body))))

/-- The status of an answer. -/
def HttpAnswer.status? : HttpAnswer → Option HttpStatus
  | .nothing _ => none
  | .brokenOff status _ => some status
  | .whole status _ => some status

/-- Makes one request with the secret and reads what comes back. The answer is the final one, behind
all redirects; only the request that is made here is told of. -/
def Provider.exchange {α : Type} [Reads α] (p : Provider) (s : Settings) (kind : RequestKind)
    (method : HttpMethod) (path : String) (body : Option Json) : Dispatch α :=
  match Settings.require "api_key" s.apiKey with
  | .error fault => .refused fault
  | .ok apiKey =>
    let request : HttpRequest := ⟨method, s.apiUrl path, apiKey, body⟩
    if request.isSendable then
      let answer := p.answer request
      let (outcome, result) := answer.read (p.unread kind) (α := α)
      ⟨result, [request],
        (answer.status?.map fun status => Metric.answered kind status).toList ++
          [.requested kind outcome]⟩
    else ⟨.error (.transport (.unsendable (p.unsent request))), [], [.requested kind .transport]⟩

end AlertLine

import AlertLine.Json.Decode

/-!
# What can go wrong with a send

A send fails because the provider cannot be reached, because it refuses, because its answer cannot
be used, or because the line is not set up for it. A failure is worth another try when nothing came
back, or when the provider says that the fault is its own or that it is asked too often.
-/

namespace AlertLine

/-- The status code of an HTTP response. -/
abbrev HttpStatus := Nat

namespace HttpStatus

/-- The usual reason phrase of a status. -/
def reason? (status : HttpStatus) : Option String :=
  phrases.lookup status
where
  /-- The registered statuses and their phrases. -/
  phrases : List (Nat × String) :=
    [(100, "Continue"), (101, "Switching Protocols"), (102, "Processing"), (103, "Early Hints"),
     (200, "OK"), (201, "Created"), (202, "Accepted"), (203, "Non Authoritative Information"),
     (204, "No Content"), (205, "Reset Content"), (206, "Partial Content"), (207, "Multi-Status"),
     (208, "Already Reported"), (226, "IM Used"),
     (300, "Multiple Choices"), (301, "Moved Permanently"), (302, "Found"), (303, "See Other"),
     (304, "Not Modified"), (305, "Use Proxy"), (307, "Temporary Redirect"),
     (308, "Permanent Redirect"),
     (400, "Bad Request"), (401, "Unauthorized"), (402, "Payment Required"), (403, "Forbidden"),
     (404, "Not Found"), (405, "Method Not Allowed"), (406, "Not Acceptable"),
     (407, "Proxy Authentication Required"), (408, "Request Timeout"), (409, "Conflict"),
     (410, "Gone"), (411, "Length Required"), (412, "Precondition Failed"),
     (413, "Payload Too Large"), (414, "URI Too Long"), (415, "Unsupported Media Type"),
     (416, "Range Not Satisfiable"), (417, "Expectation Failed"), (418, "I'm a teapot"),
     (421, "Misdirected Request"), (422, "Unprocessable Entity"), (423, "Locked"),
     (424, "Failed Dependency"), (425, "Too Early"), (426, "Upgrade Required"),
     (428, "Precondition Required"), (429, "Too Many Requests"),
     (431, "Request Header Fields Too Large"), (451, "Unavailable For Legal Reasons"),
     (500, "Internal Server Error"), (501, "Not Implemented"), (502, "Bad Gateway"),
     (503, "Service Unavailable"), (504, "Gateway Timeout"), (505, "HTTP Version Not Supported"),
     (506, "Variant Also Negotiates"), (507, "Insufficient Storage"), (508, "Loop Detected"),
     (510, "Not Extended"), (511, "Network Authentication Required")]

/-- A status with its reason phrase, or a stand-in where there is none. -/
def text (status : HttpStatus) : String :=
  Nat.repr status ++ " " ++ (reason? status).getD "<unknown status code>"

/-- A status from 200 to 299. -/
def isSuccess (status : HttpStatus) : Bool := 200 ≤ status && status < 300

/-- A status from 500 to 599. -/
def isServerError (status : HttpStatus) : Bool := 500 ≤ status && status < 600

/-- The status of a client that asks too often. -/
def tooManyRequests : HttpStatus := 429

end HttpStatus

/-! ## The provider's own errors -/

/-- One error of the provider. -/
structure ApiError where
  /-- The provider's code for it. -/
  code : String
  /-- What it is. -/
  title : String
  /-- What it is in this case. -/
  detail : String
  deriving DecidableEq, Repr

namespace ApiError

instance : Wire ApiError where
  encode e :=
    .obj [("code", .ofString e.code), ("title", .ofString e.title), ("detail", .ofString e.detail)]
  decode room v := do
    let r ← Json.record? ["code", "title", "detail"] room v
    some ⟨← r.defaulted 0 "", ← r.defaulted 1 "", ← r.defaulted 2 ""⟩

/-- The code with the detail, or with the title where there is no detail. -/
def message (e : ApiError) : String :=
  e.code ++ ": " ++ (if e.detail.isEmpty then e.title else e.detail)

end ApiError

/-- The errors that come with a refusal. -/
structure ApiErrors where
  /-- The errors in order. -/
  errors : List ApiError
  deriving DecidableEq, Repr

namespace ApiErrors

instance : Wire ApiErrors where
  encode es := .obj [("errors", Wire.encode es.errors)]
  decode room v := do
    let r ← Json.record? ["errors"] room v
    some ⟨← r.defaulted 0 []⟩

/-- How much of a body is kept that is no list of errors. -/
def keptLength : Nat := 512

/-- The one error that stands for a body that is no list of errors. -/
def unknown (body : String) : ApiErrors :=
  ⟨[⟨"unknown", "", String.ofList (body.toList.take keptLength)⟩]⟩

/-- The errors that the body of a refusal gives; there is always at least one. -/
def ofBody (body : String) : ApiErrors :=
  match (Json.parseText body).bind (Reads.decode Json.maxDepth) with
  | some (⟨e :: es⟩ : ApiErrors) => ⟨e :: es⟩
  | _ => unknown body

/-- The codes in order. -/
def codes (es : ApiErrors) : List String := es.errors.map ApiError.code

/-- All errors on one line. -/
def message (es : ApiErrors) : String :=
  "telnyx: " ++ ", ".intercalate (es.errors.map ApiError.message)

end ApiErrors

/-! ## Failures -/

/-- Why nothing usable came back, each with what the HTTP client says of it. -/
inductive TransportFault where
  /-- The address or the secret cannot stand in a request. -/
  | unsendable (cause : String)
  /-- No answer came, or not in time. -/
  | noAnswer (cause : String)
  /-- The answer broke off. -/
  | brokenOff (cause : String)
  deriving DecidableEq, Repr

/-- The wording of a transport fault. -/
def TransportFault.message : TransportFault → String
  | .unsendable cause => cause
  | .noAnswer cause => cause
  | .brokenOff cause => cause

/-- Why an answer cannot be used. -/
inductive AnswerFault where
  /-- It is not the document that is expected; what its reader says of it is given. -/
  | undecodable (cause : String)
  /-- A call was taken on, but without an id. -/
  | noCallId
  deriving DecidableEq, Repr

/-- The wording of an answer fault. -/
def AnswerFault.message : AnswerFault → String
  | .undecodable cause => cause
  | .noCallId => "call response carried neither sid nor call_control_id"

/-- Why the line is not set up for a send. -/
inductive SetupFault where
  /-- A setting is blank. -/
  | missing (setting : String)
  /-- The base address for callbacks is no address; the cause is given. -/
  | callbackBase (cause : String)
  /-- There is no number to look up. -/
  | noNumber
  /-- Something else that a sender may miss, in its own words. -/
  | other (cause : String)
  deriving DecidableEq, Repr

/-- The wording of a set-up fault. -/
def SetupFault.message : SetupFault → String
  | .missing setting => setting ++ " is not configured"
  | .callbackBase cause => "callback_base: " ++ cause
  | .noNumber => "lookup number is empty"
  | .other cause => cause

/-- Why a send failed. -/
inductive DispatchError where
  /-- Nothing usable came back. -/
  | transport (fault : TransportFault)
  /-- The provider refused. -/
  | provider (status : HttpStatus) (errors : ApiErrors)
  /-- The answer cannot be used. -/
  | decode (fault : AnswerFault)
  /-- The line is not set up for it. -/
  | setup (fault : SetupFault)
  deriving DecidableEq, Repr

namespace DispatchError

/-- What the message of a transport failure begins with. -/
def transportOpening : String := "telnyx transport error: "

/-- What the message of an answer that cannot be used begins with. -/
def decodeOpening : String := "telnyx response could not be decoded: "

/-- The wording of a failure. -/
def message : DispatchError → String
  | .transport fault => transportOpening ++ fault.message
  | .provider status errors => errors.message ++ " (status " ++ status.text ++ ")"
  | .decode fault => decodeOpening ++ fault.message
  | .setup fault => "telnyx configuration error: " ++ fault.message

/-- Whether another try may go better. -/
def isRetryable : DispatchError → Bool
  | .transport _ => true
  | .provider status _ => status.isServerError || status == HttpStatus.tooManyRequests
  | .decode _ | .setup _ => false

/-- The name of the kind of a failure. -/
def kindName : DispatchError → String
  | .transport _ => "transport"
  | .provider .. => "provider"
  | .decode _ => "decode"
  | .setup _ => "config"

end DispatchError
end AlertLine

import AlertLine.Json.Printer
import AlertLine.Provider.Error

/-!
# Responses

What a webhook is answered with: a status, perhaps a document, and for a method that is not served
the methods that are.
-/

namespace AlertLine

/-- A response. -/
structure Response where
  /-- The status. -/
  status : HttpStatus
  /-- The kind of document, if there is one. -/
  contentType : Option String
  /-- The methods that are served, where the one asked for is not. -/
  allow : Option String
  /-- The document; empty if there is none. -/
  body : String
  deriving DecidableEq, Repr

namespace Response

/-- A response without a document. -/
def empty (status : HttpStatus) : Response := ⟨status, none, none, ""⟩

/-- What stands for a request id where there is none. -/
def noRequestId : String := "n/a"

/-- The acknowledgement of an event. -/
def acknowledgement (requestId : Option String) : Response :=
  let document := Json.obj
    [("ok", .bool true), ("request_id", .ofString (requestId.getD noRequestId))]
  ⟨200, some "application/json", none, document.print⟩

/-- A document of call markup. -/
def markup (document : String) : Response :=
  ⟨200, some "application/xml", none, document⟩

end Response
end AlertLine

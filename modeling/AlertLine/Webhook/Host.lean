import AlertLine.Action
import AlertLine.Metrics
import AlertLine.Provider.Exchange
import AlertLine.Outbound

/-!
# The alerting system behind the webhooks

What a webhook can do to the world: look up an alert, write an action or a status update, and reply
by text message. A lookup or a write has an answer that is given at once, or refused, or not given
in time; for a text there is no such time, so the sender may keep a handler waiting for ever. A
handler is a function from these answers to a value and to the effects in their order.
-/

namespace AlertLine

/-- Why an alert cannot be had. -/
inductive LookupError where
  /-- There is none with this number. -/
  | notFound (alertId : Int64)
  /-- The answer took too long. -/
  | timeout
  /-- The store failed; the cause is given. -/
  | backend (cause : String)
  deriving DecidableEq, Repr

/-- The wording of a failed lookup. -/
def LookupError.message : LookupError → String
  | .notFound alertId => "alert " ++ Decimal.ofInt64 alertId ++ " not found"
  | .timeout => "lookup timed out"
  | .backend cause => "lookup backend error: " ++ cause

/-- Why a write failed. -/
structure WriteError where
  /-- The cause. -/
  cause : String
  deriving DecidableEq, Repr

/-- The wording of a failed write. -/
def WriteError.message (e : WriteError) : String := "action sink error: " ++ e.cause

/-- What someone else answers within the time that is given. -/
inductive Answer (ε α : Type) where
  /-- It is done. -/
  | done (a : α)
  /-- It is refused. -/
  | refused (e : ε)
  /-- There is no answer in time. -/
  | silent

/-- An answer, where silence counts as a refusal of its own. -/
def Answer.inTime {ε α : Type} (late : ε) : Answer ε α → Except ε α
  | .done a => .ok a
  | .refused e => .error e
  | .silent => .error late

/-- What comes of a text that is handed to the sender. -/
inductive Sending where
  /-- The sender comes back with how it went. -/
  | ended (dispatch : Dispatch Receipt)
  /-- The sender never comes back; what it counted before is given. -/
  | endless (metrics : List Metric)

namespace Sending

/-- Whether the sender comes back. -/
def ends : Sending → Bool
  | .ended _ => true
  | .endless _ => false

/-- Whether the sender says that the text went out. -/
def succeeded : Sending → Bool
  | .ended dispatch => dispatch.result.isOk
  | .endless _ => false

/-- What the sender counts. -/
def metrics : Sending → List Metric
  | .ended dispatch => dispatch.metrics
  | .endless metrics => metrics

end Sending

/-- What answers the webhooks' questions. -/
structure Host where
  /-- The alert with a number. -/
  findAlert : Int64 → Answer LookupError Alert
  /-- Takes an action. -/
  recordAction : AlertAction → Answer WriteError Unit
  /-- Takes a status update. -/
  recordStatus : StatusUpdate → Answer WriteError Unit
  /-- Sends a text to a number. -/
  sendText : String → String → Sending

/-- What is known about one webhook while it is handled. -/
structure Span where
  /-- The fields with their values. -/
  fields : List (String × String)
  deriving DecidableEq, Repr

/-- One thing that a webhook did. -/
inductive Effect where
  /-- An alert was looked up. -/
  | lookedUp (alertId : Int64)
  /-- An action was written, with or without success. -/
  | wroteAction (action : AlertAction) (succeeded : Bool)
  /-- A status update was written, with or without success. -/
  | wroteStatus (update : StatusUpdate) (succeeded : Bool)
  /-- A text was handed to the sender, with or without success. -/
  | replied (destination text : String) (succeeded : Bool)
  /-- Something was counted. -/
  | counted (metric : Metric)
  /-- A webhook was traced. -/
  | traced (span : Span)
  deriving DecidableEq, Repr

/-- The work of a handler. -/
structure Handling where
  /-- What it does, in order. -/
  effects : List Effect
  /-- Whether it comes to its end. -/
  ends : Bool

namespace Handling

/-- Work that is over once these effects are. -/
def done (effects : List Effect) : Handling := ⟨effects, true⟩

/-- Work that begins with more effects. -/
def after (w : Handling) (effects : List Effect) : Handling := ⟨effects ++ w.effects, w.ends⟩

end Handling

namespace Host

/-- What a write that nobody takes in time fails with. -/
def writeTimeout : WriteError := ⟨"sink write timed out"⟩

/-- Looks up an alert. -/
def lookUp (h : Host) (alertId : Int64) : Except LookupError Alert × List Effect :=
  ((h.findAlert alertId).inTime .timeout, [.lookedUp alertId])

/-- A write with its effects: a failed one is counted. -/
def written (kind : WriteKind) (result : Except WriteError Unit) (effect : Bool → Effect) :
    Bool × List Effect :=
  match result with
  | .ok () => (true, [effect true])
  | .error _ => (false, [effect false, .counted (.writeFailed kind)])

/-- Writes an action; the value says whether it was taken. -/
def writeAction (h : Host) (a : AlertAction) : Bool × List Effect :=
  written .action ((h.recordAction a).inTime writeTimeout) (.wroteAction a)

/-- Writes a status update; the value says whether it was taken. -/
def writeStatus (h : Host) (u : StatusUpdate) : Bool × List Effect :=
  written .status ((h.recordStatus u).inTime writeTimeout) (.wroteStatus u)

/-- Sends a text and waits for the sender. -/
def reply (h : Host) (destination text : String) : Handling :=
  let sending := h.sendText destination text
  ⟨sending.metrics.map .counted ++ [.replied destination text sending.succeeded], sending.ends⟩

end Host
end AlertLine

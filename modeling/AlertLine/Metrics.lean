import AlertLine.Provider.Error
import AlertLine.Signature.Verifier
import AlertLine.Voice.Context

/-!
# Metrics

What is counted. Every count has a name and labels; the names, units and descriptions are
registered once.
-/

namespace AlertLine

/-- The kinds of requests to the provider. -/
inductive RequestKind where
  /-- A message. -/
  | sms
  /-- A call. -/
  | voice
  /-- A number lookup. -/
  | lookup
  deriving DecidableEq, Repr

/-- The name of a kind of request in labels. -/
def RequestKind.name : RequestKind → String
  | .sms => "sms"
  | .voice => "voice"
  | .lookup => "lookup"

/-- How a request to the provider went. -/
inductive RequestOutcome where
  /-- A document came back that could be read. -/
  | ok
  /-- Nothing usable came back. -/
  | transport
  /-- The provider refused. -/
  | provider
  /-- The document could not be read. -/
  | decode
  deriving DecidableEq, Repr

/-- The name of an outcome in labels. -/
def RequestOutcome.name : RequestOutcome → String
  | .ok => "ok"
  | .transport => "transport"
  | .provider => "provider"
  | .decode => "decode"

/-- Why a webhook is turned away before it is looked at. -/
inductive Rejection where
  /-- The body is longer than allowed. -/
  | bodyTooLarge
  /-- The signature is refused. -/
  | unverified (error : SignatureError)
  deriving DecidableEq, Repr

/-- The name of a rejection in labels. -/
def Rejection.name : Rejection → String
  | .bodyTooLarge => "body_too_large"
  | .unverified error => error.name

/-- The two kinds of webhooks. -/
inductive Route where
  /-- A callback of a call. -/
  | voice
  /-- An event of a message. -/
  | sms
  deriving DecidableEq, Repr

/-- The name of a route in labels. -/
def Route.name : Route → String
  | .voice => "voice"
  | .sms => "sms"

/-- The two kinds of writes to the alerting system. -/
inductive WriteKind where
  /-- An action. -/
  | action
  /-- A status update. -/
  | status
  deriving DecidableEq, Repr

/-- The name of a kind of write in labels. -/
def WriteKind.name : WriteKind → String
  | .action => "action"
  | .status => "status"

/-- One thing that is counted. -/
inductive Metric where
  /-- A webhook was turned away. -/
  | rejected (reason : Rejection)
  /-- A webhook was taken in. -/
  | accepted (route : Route)
  /-- What a call should tell could not be had. -/
  | lookupFailed (intent : CallIntent)
  /-- The alerting system refused a write, or did not take it in time. -/
  | writeFailed (kind : WriteKind)
  /-- A request to the provider ended. -/
  | requested (kind : RequestKind) (outcome : RequestOutcome)
  /-- The provider answered; its time is sampled. -/
  | answered (kind : RequestKind) (status : HttpStatus)
  deriving DecidableEq, Repr

namespace Metric

/-- The name of a metric. -/
def name : Metric → String
  | .rejected _ => "telnyx_webhook_rejected_total"
  | .accepted _ => "telnyx_webhook_accepted_total"
  | .lookupFailed _ => "telnyx_lookup_failures_total"
  | .writeFailed _ => "telnyx_sink_failures_total"
  | .requested .. => "telnyx_dispatch_total"
  | .answered .. => "telnyx_dispatch_seconds"

/-- The labels of a metric, by name. -/
def labels : Metric → List (String × String)
  | .rejected reason => [("reason", reason.name)]
  | .accepted route => [("route", route.name)]
  | .lookupFailed intent => [("intent", intent.word)]
  | .writeFailed kind => [("kind", kind.name)]
  | .requested kind outcome => [("kind", kind.name), ("outcome", outcome.name)]
  | .answered kind status => [("kind", kind.name), ("status", Nat.repr status)]

/-- A metric with its labels, as counts are listed. -/
def key (m : Metric) : String :=
  m.name ++ "\x7b" ++ ",".intercalate (m.labels.map fun l => l.1 ++ "=" ++ l.2) ++ "\x7d"

/-- How often a metric occurs among others. -/
def count (m : Metric) (ms : List Metric) : Nat := List.count m ms

/-- What is registered of a metric. -/
structure Description where
  /-- The name of the metric. -/
  name : String
  /-- Whether it is a `counter` or a `histogram`. -/
  kind : String
  /-- The unit, `count` or `seconds`. -/
  unit : String
  /-- What it tells. -/
  text : String
  deriving DecidableEq, Repr

/-- What is registered, by name. -/
def descriptions : List Description :=
  [⟨"telnyx_dispatch_seconds", "histogram", "seconds", "Outbound provider request latency"⟩,
   ⟨"telnyx_dispatch_total", "counter", "count", "Outbound provider requests"⟩,
   ⟨"telnyx_lookup_failures_total", "counter", "count",
    "Alert lookups that fell back to a generic prompt"⟩,
   ⟨"telnyx_sink_failures_total", "counter", "count", "Action sink failures"⟩,
   ⟨"telnyx_webhook_accepted_total", "counter", "count", "Webhooks routed"⟩,
   ⟨"telnyx_webhook_rejected_total", "counter", "count", "Webhooks rejected before routing"⟩]

end Metric
end AlertLine

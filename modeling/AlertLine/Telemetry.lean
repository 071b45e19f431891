import AlertLine.Settings.Environment
import AlertLine.Text.LetterCase

/-!
# Telemetry

How logs are written and whether traces are exported, as the environment says. Words are compared
in lower case, but not trimmed.
-/

namespace AlertLine

/-- How traces are exported. -/
inductive ExportProtocol where
  /-- As calls. -/
  | grpc
  /-- As documents over HTTP. -/
  | httpProtobuf
  deriving DecidableEq, Repr

/-- The name of a protocol. -/
def ExportProtocol.name : ExportProtocol → String
  | .grpc => "grpc"
  | .httpProtobuf => "http_protobuf"

/-- The protocol that a word stands for; every other word stands for calls. -/
def ExportProtocol.ofWord (word : String) : ExportProtocol :=
  match Text.lower word with
  | "http" | "http/protobuf" => .httpProtobuf
  | _ => .grpc

/-- How the line tells about itself. -/
structure Telemetry where
  /-- Where traces go; blank for nowhere. -/
  endpoint : String
  /-- How they go there. -/
  protocol : ExportProtocol
  /-- The name of the service. -/
  serviceName : String
  /-- The version of the service. -/
  serviceVersion : String
  /-- Where the service runs. -/
  environment : String
  /-- Whether logs are documents rather than lines for people. -/
  jsonLogs : Bool
  /-- Whether traces are exported at all. -/
  enabled : Bool
  /-- What is logged unless it is set otherwise. -/
  defaultFilter : String
  deriving DecidableEq, Repr

namespace Telemetry

/-- The attribute that tells where a service runs. -/
def environmentKey : String := "deployment.environment"

/-- The value that a pair `key=value` gives, if its key is that of the environment. -/
def environmentOf? (pair : List Char) : Option String :=
  match pair.dropWhile (· != '=') with
  | [] => none
  | _ :: value =>
    if Text.trimChars (pair.takeWhile (· != '=')) = environmentKey.toList then
      some (String.ofList (Text.trimChars value))
    else none

/-- Where a service runs, by the first attribute that tells it. -/
def environmentOfAttributes? (attributes : String) : Option String :=
  (attributes.toList.splitOnP (· == ',')).findSome? environmentOf?

/-- What is logged unless it is set otherwise. -/
def standardFilter : String := "info"

/-- Where a service runs unless it is told. -/
def standardEnvironment : String := "dev"

/-- The words for logs that are lines for people. -/
def plainLogWords : List String := ["text", "pretty", "plain"]

/-- The words that switch the export on. -/
def yesWords : List String := ["1", "true", "yes", "on"]

/-- The telemetry of a service with a name and a version. -/
def ofEnvironment (name version : String) (env : Environment) : Telemetry where
  endpoint := (env.text? "OTEL_EXPORTER_OTLP_ENDPOINT").getD ""
  protocol := ((env.text? "OTEL_EXPORTER_OTLP_PROTOCOL").map ExportProtocol.ofWord).getD .grpc
  serviceName := (env.text? "OTEL_SERVICE_NAME").getD name
  serviceVersion := (env.text? "OTEL_SERVICE_VERSION").getD version
  environment :=
    (((env.text? "OTEL_RESOURCE_ATTRIBUTES").bind environmentOfAttributes?).or
      (env.text? "DEPLOYMENT_ENV")).getD standardEnvironment
  jsonLogs :=
    ((env.text? "LOG_FORMAT").map fun v => !plainLogWords.contains (Text.lower v)).getD true
  enabled := ((env.text? "ENABLE_OTEL").map fun v => yesWords.contains (Text.lower v)).getD false
  defaultFilter := standardFilter

/-- Whether traces are exported. -/
def exports (t : Telemetry) : Bool :=
  t.enabled && !Text.isBlankText t.endpoint

end Telemetry
end AlertLine

import AlertLine.Service

/-!
# Command line

`ingress` or `egress` goes through the start of the service of that name with the variables of the
process, and shows the settings that the service would run with. What keeps it from starting is
reported instead. The content of a settings file comes in on standard input, and the bus counts as
there.
-/

namespace AlertLine.Service

/-- The variables that a service looks at. -/
def variableNames : List String :=
  ["TELNYX_CONFIG", "TELNYX_API_BASE", "TELNYX_API_KEY", "TELNYX_FROM_NUMBER",
    "TELNYX_CONNECTION_ID", "TELNYX_PUBLIC_KEY", "TELNYX_VOICE_NAME", "TELNYX_VOICE_LANGUAGE",
    "TELNYX_CALLBACK_BASE", "TELNYX_REQUEST_TIMEOUT_MS", "TELNYX_LOOKUP_TIMEOUT_MS",
    "TELNYX_SIGNATURE_TOLERANCE_SECS", "TELNYX_ACK_DIGIT", "TELNYX_CLOSE_DIGIT",
    "TELNYX_UNSUBSCRIBE_DIGIT", "OTEL_EXPORTER_OTLP_ENDPOINT", "OTEL_EXPORTER_OTLP_PROTOCOL",
    "OTEL_SERVICE_NAME", "OTEL_SERVICE_VERSION", "OTEL_RESOURCE_ATTRIBUTES", "DEPLOYMENT_ENV",
    "LOG_FORMAT", "ENABLE_OTEL", "NATS_URL", "BIND"]

/-- The settings that a service with a name would run with, if there is such a service. -/
def start? (name : String) (s : Surroundings) : Option (Except StartError Settings) :=
  match name with
  | "ingress" => some ((startIngress s).map Webhook.Line.settings)
  | "egress" => some (startEgress s)
  | _ => none

/-- The variables of the process. -/
def readEnvironment : IO Environment :=
  variableNames.filterMapM fun name => do
    return (← IO.getEnv name).map fun value => (name, Utf8.encode value)

/-- Reads bytes until there are no more. -/
partial def readAll (input : IO.FS.Stream) (done : ByteArray) : IO ByteArray := do
  let chunk ← input.read 65536
  if chunk.isEmpty then return done else readAll input (done ++ chunk)

/-- What a service starts in. The file is read only if there is one. -/
def readSurroundings : IO Surroundings := do
  let env ← readEnvironment
  let content ← if (env.filled? Settings.fileVariable).isSome then
      readAll (← IO.getStdin) ByteArray.empty
    else pure ByteArray.empty
  return ⟨env, fun _ => .ok content.data.toList, fun _ => none⟩

end AlertLine.Service

/-- Checks whether a service can start. -/
def main (args : List String) : IO UInt32 := do
  match args with
  | [name] =>
    match AlertLine.Service.start? name (← AlertLine.Service.readSurroundings) with
    | some (.ok settings) =>
      IO.println settings.summary
      return 0
    | some (.error e) =>
      for line in e.report do IO.eprintln line
      return AlertLine.StartError.exitCode.toUInt32
    | none =>
      IO.eprintln "usage: alertline ingress|egress"
      return 2
  | _ =>
    IO.eprintln "usage: alertline ingress|egress"
    return 2

import AlertLine.Settings.File
import AlertLine.Telemetry
import AlertLine.Signature.Verifier
import AlertLine.Url.Parser
import AlertLine.Url.Target
import AlertLine.Webhook.Router

/-!
# Starting the services

Two services make up the line: one takes webhooks in, one sends notifications out. Both begin by
setting up telemetry and reading their settings; then each makes sure that it can work before it
reaches for the bus. What goes wrong ends the start with a report that names the causes.
-/

namespace AlertLine

/-- What a service starts in. -/
structure Surroundings where
  /-- The variables that are set. -/
  environment : Environment
  /-- The content of a file, or why it cannot be read. -/
  fileContent : String → Except String Bytes
  /-- Why the bus at an address cannot be reached, if it cannot. -/
  busFault : String → Option String

/-- Why a service does not start. -/
inductive StartError where
  /-- Traces cannot go where they should; the cause is given. -/
  | badExporter (endpoint cause : String)
  /-- The settings are refused. -/
  | settings (error : SettingsError)
  /-- There is no key to verify webhooks with. -/
  | noPublicKey
  /-- The key to verify webhooks with is refused. -/
  | badPublicKey (error : SignatureError)
  /-- The address of the bus is none. -/
  | badBusAddress (cause : String)
  /-- The bus cannot be reached. -/
  | busUnreachable (cause : String)
  /-- The address to listen at is none. -/
  | badListenAddress
  deriving DecidableEq, Repr

namespace StartError

/-- What is reported first. -/
def message : StartError → String
  | .badExporter endpoint cause => "invalid URI " ++ endpoint ++ ". Reason " ++ cause
  | .settings error => error.message
  | .noPublicKey => "TELNYX_PUBLIC_KEY is required to verify webhooks"
  | .badPublicKey _ => "TELNYX_PUBLIC_KEY is not a base64 ed25519 public key"
  | .badBusAddress cause => "failed to parse server or server list: " ++ cause
  | .busUnreachable cause => "IO error: " ++ cause
  | .badListenAddress => "BIND must be a socket address"

/-- What lies behind it. -/
def cause? : StartError → Option String
  | .badExporter .. => none
  | .settings (.unreadable _ cause) => some cause
  | .settings _ => none
  | .noPublicKey => none
  | .badPublicKey error => some error.message
  | .badBusAddress cause => some cause
  | .busUnreachable cause => some cause
  | .badListenAddress => some "invalid socket address syntax"

/-- The lines of the report. -/
def report (e : StartError) : List String :=
  ("Error: " ++ e.message) ::
    (match e.cause? with
      | some cause => ["", "Caused by:", "    " ++ cause]
      | none => [])

/-- The exit status of a service that does not start. -/
def exitCode : Nat := 1

end StartError

namespace Service

/-- The version that is told about. -/
def version : String := "0.1.0"

/-- Sets up telemetry: where traces are exported, the address has to be a target. -/
def setUpTelemetry (name : String) (env : Environment) : Except StartError Telemetry :=
  let t := Telemetry.ofEnvironment name version env
  if t.exports then
    match Target.parse t.endpoint with
    | .ok _ => .ok t
    | .error e => .error (.badExporter t.endpoint e.message)
  else .ok t

/-- Reads the settings. -/
def loadSettings (s : Surroundings) : Except StartError Settings :=
  match Settings.load s.environment s.fileContent with
  | .ok settings => .ok settings
  | .error e => .error (.settings e)

/-- The address of the bus. -/
def busAddress (env : Environment) : String :=
  (env.text? "NATS_URL").getD "nats://127.0.0.1:4222"

/-- The schemes of a bus address. -/
def busSchemes : List String := ["nats", "tls", "ws", "wss"]

/-- Whether a text is part of another. -/
def hasPart (part : List Char) : List Char → Bool
  | [] => part.isEmpty
  | c :: cs => part.isPrefixOf (c :: cs) || hasPart part cs

/-- Why a text is no address of the bus, if it is none. -/
def busAddressFault? (address : String) : Option String :=
  let full := if hasPart "://".toList address.toList then address else "nats://" ++ address
  match Url.parse full with
  | .error e => some ("NATS server URL is invalid: " ++ e.message)
  | .ok u =>
    if busSchemes.contains u.scheme then none
    else some ("invalid scheme for NATS server URL: " ++ u.scheme)

/-- Reaches for the bus. -/
def connectBus (s : Surroundings) : Except StartError Unit :=
  let address := busAddress s.environment
  match busAddressFault? address with
  | some cause => .error (.badBusAddress cause)
  | none =>
    match s.busFault address with
    | some cause => .error (.busUnreachable cause)
    | none => .ok ()

/-- The address to listen at. -/
def listenAddress (env : Environment) : String :=
  (env.text? "BIND").getD "0.0.0.0:8090"

/-- Whether digits are a port. -/
def isPort (cs : List Char) : Bool :=
  !cs.isEmpty && cs.all Char.isDigit &&
    cs.foldl (fun n c => min 65536 (10 * n + (c.toNat - '0'.toNat))) 0 < 65536

/-- Whether a text is a socket address: an IP address and a port. -/
def isSocketAddress (text : String) : Bool :=
  let port := (text.toList.reverse.takeWhile (· != ':')).reverse
  match text.toList.reverse.dropWhile (· != ':') with
  | [] => false
  | _ :: address =>
    let host := address.reverse
    isPort port &&
      (if host.head? = some '[' then
        host.getLast? = some ']' && (Host.ipv6? host.tail.dropLast).isSome
      else (Host.embeddedIpv4? host).isSome)

/-- The name of the service that takes webhooks in. -/
def ingressName : String := "tnx-ingress-telnyx"

/-- The name of the service that sends notifications out. -/
def egressName : String := "tnx-egress-telnyx"

/-- Makes a verifier of the settings. -/
def verifier (s : Settings) : Except StartError Verifier :=
  if Text.isBlankText s.publicKey then .error .noPublicKey
  else
    match Verifier.ofKey s.publicKey s.signatureTolerance with
    | .ok v => .ok v
    | .error e => .error (.badPublicKey e)

/-- Starts the service that takes webhooks in. -/
def startIngress (s : Surroundings) : Except StartError Webhook.Line := do
  let _ ← setUpTelemetry ingressName s.environment
  let settings ← loadSettings s
  let v ← verifier settings
  connectBus s
  if isSocketAddress (listenAddress s.environment) then .ok ⟨settings, v⟩
  else .error .badListenAddress

/-- Starts the service that sends notifications out. -/
def startEgress (s : Surroundings) : Except StartError Settings := do
  let _ ← setUpTelemetry egressName s.environment
  let settings ← loadSettings s
  connectBus s
  .ok settings

end Service
end AlertLine

import AlertLine.Settings.Basic
import AlertLine.Text.Utf8

/-!
# Settings from the environment

One variable per setting. A variable that is missing, blank or no text leaves the default.
-/

namespace AlertLine

/-- The variables of a process, with their values as bytes. -/
abbrev Environment := List (String × Bytes)

namespace Environment

/-- The value of a variable, if it is set to a text. -/
def text? (env : Environment) (variableName : String) : Option String :=
  (env.lookup variableName).bind Utf8.decode?

/-- The value of a variable, if it is set to a text that is not blank. -/
def filled? (env : Environment) (variableName : String) : Option String :=
  (env.text? variableName).filter fun value => !Text.isBlankText value

/-- The number that a variable is set to; blanks around it do not count. -/
def number? (env : Environment) (variableName : String) : Except SettingsError (Option UInt64) :=
  match env.filled? variableName with
  | none => .ok none
  | some value =>
    match Decimal.readUInt64 (Text.trim value) with
    | .ok n => .ok (some n)
    | .error cause => .error (.invalid variableName (.notANumber cause))

end Environment

namespace Settings

/-- The settings that the environment gives. -/
def ofEnvironment (env : Environment) : Except SettingsError Settings := do
  let text (variableName standard : String) : String := (env.filled? variableName).getD standard
  let standard := Settings.standard
  let requestTimeoutMs ← env.number? "TELNYX_REQUEST_TIMEOUT_MS"
  let lookupTimeoutMs ← env.number? "TELNYX_LOOKUP_TIMEOUT_MS"
  let signatureToleranceSecs ← env.number? "TELNYX_SIGNATURE_TOLERANCE_SECS"
  Settings.accepted {
    apiBase := text "TELNYX_API_BASE" standard.apiBase
    apiKey := text "TELNYX_API_KEY" standard.apiKey
    fromNumber := text "TELNYX_FROM_NUMBER" standard.fromNumber
    connectionId := text "TELNYX_CONNECTION_ID" standard.connectionId
    publicKey := text "TELNYX_PUBLIC_KEY" standard.publicKey
    voiceName := text "TELNYX_VOICE_NAME" standard.voiceName
    voiceLanguage := text "TELNYX_VOICE_LANGUAGE" standard.voiceLanguage
    callbackBase := text "TELNYX_CALLBACK_BASE" standard.callbackBase
    requestTimeoutMs := requestTimeoutMs.getD standard.requestTimeoutMs
    lookupTimeoutMs := lookupTimeoutMs.getD standard.lookupTimeoutMs
    signatureToleranceSecs := signatureToleranceSecs
    keys := {
      acknowledge := text "TELNYX_ACK_DIGIT" standard.keys.acknowledge
      close := text "TELNYX_CLOSE_DIGIT" standard.keys.close
      unsubscribe := text "TELNYX_UNSUBSCRIBE_DIGIT" standard.keys.unsubscribe } }

end Settings
end AlertLine

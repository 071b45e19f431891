import AlertLine.Json.Decode
import AlertLine.Text.Blank
import AlertLine.Text.Decimal
import AlertLine.Text.Quoted

/-!
# Settings

What the line is set up with: the provider's account, the voice, the keys of the call menu, the
times to wait. Every setting has a default. Settings are accepted when the three menu keys are
single keypad keys and no two of them are alike, so that a pressed key means one thing.
-/

namespace AlertLine

/-- The keys of the call menu. -/
structure MenuKeys where
  /-- The key that takes on an alert. -/
  acknowledge : String
  /-- The key that declares an alert over. -/
  close : String
  /-- The key that ends all calls to a number. -/
  unsubscribe : String
  deriving DecidableEq, Repr

/-- The keys that hold where none are set. -/
def MenuKeys.standard : MenuKeys := ⟨"4", "5", "1"⟩

/-- How the line is set up. -/
structure Settings where
  /-- The base address of the provider. -/
  apiBase : String
  /-- The secret that requests are signed in with. -/
  apiKey : String
  /-- The number that messages and calls come from. -/
  fromNumber : String
  /-- The provider's id for calls. -/
  connectionId : String
  /-- The key that webhooks are verified with, in base64. -/
  publicKey : String
  /-- The voice of calls. -/
  voiceName : String
  /-- The language of calls. -/
  voiceLanguage : String
  /-- The base address at which the provider reaches the line. -/
  callbackBase : String
  /-- How long a request to the provider may take, in milliseconds. -/
  requestTimeoutMs : UInt64
  /-- How long a lookup or a write may take, in milliseconds. -/
  lookupTimeoutMs : UInt64
  /-- How far the time of a webhook may lie from the clock, in seconds. -/
  signatureToleranceSecs : Option UInt64
  /-- The keys of the call menu. -/
  keys : MenuKeys
  deriving DecidableEq, Repr

namespace Settings

/-- The base address of the provider where none is set. -/
def standardApiBase : String := "https://api.telnyx.com/v2"

/-- The voice where none is set. -/
def standardVoiceName : String := "alice"

/-- The language where none is set. -/
def standardVoiceLanguage : String := "en-US"

/-- The settings where nothing is set. -/
def standard : Settings where
  apiBase := standardApiBase
  apiKey := ""
  fromNumber := ""
  connectionId := ""
  publicKey := ""
  voiceName := standardVoiceName
  voiceLanguage := standardVoiceLanguage
  callbackBase := ""
  requestTimeoutMs := 10000
  lookupTimeoutMs := 3000
  signatureToleranceSecs := none
  keys := .standard

end Settings

/-! ## Refusals -/

/-- What is wrong with one setting. -/
inductive SettingFault where
  /-- It is no number of 64 bits. -/
  | notANumber (cause : Decimal.ReadError)
  /-- It is no single key of a keypad. -/
  | notAKey (given : String)
  /-- Two keys are alike. -/
  | keysAlike
  deriving DecidableEq, Repr

/-- The wording of a fault. -/
def SettingFault.message : SettingFault → String
  | .notANumber cause => cause.message
  | .notAKey given => "expected a single keypad key, got " ++ Text.quoted given
  | .keysAlike => "menu digits must be distinct"

/-- Why settings are refused. -/
inductive SettingsError where
  /-- A setting has a value that cannot be used. -/
  | invalid (setting : String) (fault : SettingFault)
  /-- The file cannot be read, or is no text; the cause is given. -/
  | unreadable (path cause : String)
  /-- The file does not hold settings. -/
  | malformed (path : String)
  deriving DecidableEq, Repr

/-- The wording of a refusal. -/
def SettingsError.message : SettingsError → String
  | .invalid setting fault => "invalid value for " ++ setting ++ ": " ++ fault.message
  | .unreadable path _ => "failed to read config file " ++ path
  | .malformed path => "failed to parse config file " ++ path

/-! ## Acceptance -/

/-- A key of a telephone keypad. -/
def isKeypadKey (c : Char) : Bool :=
  Decimal.isDigit c || c == '*' || c == '#'

/-- A text that is one keypad key. -/
def isKeypadText (s : String) : Bool :=
  match s.toList with
  | [c] => isKeypadKey c
  | _ => false

/-- One menu key, if it is a keypad key. -/
def MenuKeys.checkKey (setting key : String) : Except SettingsError Unit :=
  if isKeypadText key then .ok () else .error (.invalid setting (.notAKey key))

/-- The menu keys, if each is a keypad key and no two are alike. -/
def MenuKeys.check (keys : MenuKeys) : Except SettingsError Unit := do
  checkKey "digits.acknowledge" keys.acknowledge
  checkKey "digits.close" keys.close
  checkKey "digits.unsubscribe" keys.unsubscribe
  if keys.acknowledge = keys.close ∨ keys.acknowledge = keys.unsubscribe ∨
      keys.close = keys.unsubscribe then
    .error (.invalid "digits" .keysAlike)
  else .ok ()

/-- A value, or another where it is blank. -/
def orIfBlank (value standard : String) : String :=
  if Text.isBlankText value then standard else value

namespace Settings

/-- The settings with a default for each blank value that has one. -/
def completed (s : Settings) : Settings :=
  { s with
    voiceName := orIfBlank s.voiceName standardVoiceName
    voiceLanguage := orIfBlank s.voiceLanguage standardVoiceLanguage
    apiBase := orIfBlank s.apiBase standardApiBase }

/-- The completed settings, if their keys can be used. -/
def accepted (s : Settings) : Except SettingsError Settings := do
  s.completed.keys.check
  .ok s.completed

/-! ## What follows from settings -/

/-- The characters that a text has behind its leading slashes. -/
def dropSlashes (cs : List Char) : List Char := cs.dropWhile (· == '/')

/-- The address of a path under the base address, with one slash where they meet. -/
def apiUrl (s : Settings) (path : String) : String :=
  String.ofList ((dropSlashes s.apiBase.toList.reverse).reverse ++ '/' :: dropSlashes path.toList)

/-- How far the time of a webhook may lie from the clock; zero seconds means that it is not
looked at. -/
def signatureTolerance (s : Settings) : Option UInt64 :=
  s.signatureToleranceSecs.filter (0 < ·)

/-- Whether the provider is a stand-in that takes everything and sends nothing. -/
def isMock (s : Settings) : Bool :=
  "mock://".toList.isPrefixOf s.apiBase.toList

/-! ## The summary for operators -/

/-- A secret as it is shown. -/
def redacted (secret : String) : String :=
  if secret.isEmpty then "<unset>" else "<redacted>"

/-- A record with its fields in order, on one line. -/
def recordText (name : String) (fields : List (String × String)) : String :=
  name ++ " \x7b " ++ ", ".intercalate (fields.map fun f => f.1 ++ ": " ++ f.2) ++ " \x7d"

/-- An optional number as it is shown. -/
def optionText : Option UInt64 → String
  | none => "None"
  | some n => "Some(" ++ n.toNat.repr ++ ")"

/-- The settings as they are shown, without the secret. -/
def summary (s : Settings) : String :=
  recordText "TelnyxConfig"
    [("api_base", Text.quoted s.apiBase), ("api_key", Text.quoted (redacted s.apiKey)),
      ("from_number", Text.quoted s.fromNumber), ("connection_id", Text.quoted s.connectionId),
      ("public_key", Text.quoted s.publicKey), ("voice_name", Text.quoted s.voiceName),
      ("voice_language", Text.quoted s.voiceLanguage),
      ("callback_base", Text.quoted s.callbackBase),
      ("request_timeout_ms", s.requestTimeoutMs.toNat.repr),
      ("lookup_timeout_ms", s.lookupTimeoutMs.toNat.repr),
      ("signature_tolerance_secs", optionText s.signatureToleranceSecs),
      ("digits", recordText "MenuDigits"
        [("acknowledge", Text.quoted s.keys.acknowledge), ("close", Text.quoted s.keys.close),
          ("unsubscribe", Text.quoted s.keys.unsubscribe)])]

end Settings

/-! ## The document form -/

/-- The names of the menu keys in documents and files, in order. -/
def MenuKeys.fieldNames : List String := ["acknowledge", "close", "unsubscribe"]

instance : Reads MenuKeys where
  decode room v := do
    let r ← Json.record? MenuKeys.fieldNames room v
    let standard := MenuKeys.standard
    some ⟨← r.defaulted 0 standard.acknowledge, ← r.defaulted 1 standard.close,
      ← r.defaulted 2 standard.unsubscribe⟩

/-- The names of the settings in documents and files, in order. -/
def Settings.fieldNames : List String :=
  ["api_base", "api_key", "from_number", "connection_id", "public_key", "voice_name",
    "voice_language", "callback_base", "request_timeout_ms", "lookup_timeout_ms",
    "signature_tolerance_secs", "digits"]

instance : Reads Settings where
  decode room v := do
    let r ← Json.record? Settings.fieldNames room v
    let standard := Settings.standard
    some {
      apiBase := ← r.defaulted 0 standard.apiBase
      apiKey := ← r.defaulted 1 standard.apiKey
      fromNumber := ← r.defaulted 2 standard.fromNumber
      connectionId := ← r.defaulted 3 standard.connectionId
      publicKey := ← r.defaulted 4 standard.publicKey
      voiceName := ← r.defaulted 5 standard.voiceName
      voiceLanguage := ← r.defaulted 6 standard.voiceLanguage
      callbackBase := ← r.defaulted 7 standard.callbackBase
      requestTimeoutMs := ← r.defaulted 8 standard.requestTimeoutMs
      lookupTimeoutMs := ← r.defaulted 9 standard.lookupTimeoutMs
      signatureToleranceSecs := ← r.defaulted 10 standard.signatureToleranceSecs
      keys := ← r.defaulted 11 standard.keys }

end AlertLine

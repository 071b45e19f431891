import AlertLine.Settings.Environment
import AlertLine.Yaml.Parser
import AlertLine.Yaml.Value

/-!
# Settings from a file

A mapping with one entry per setting; other entries do not count. A document without a value leaves
every default.

A document is asked as it is written first: a text setting takes the text of any scalar, whatever it
spells, and entries that do not count are not looked at. If that gives no settings, the document is
asked for what its values stand for: then a text setting has to be a text, every value of the
document has to stand for something, and mappings take in the entries of others.
-/

namespace AlertLine

namespace Yaml

/-- How values of one kind are asked for settings. -/
structure View (α : Type) where
  /-- The entries of a mapping, of which the known ones are asked for. -/
  entries? : (known : List String) → α → Option (List (String × α))
  /-- A text. -/
  text? : α → Option String
  /-- A number. -/
  number? : α → Option UInt64
  /-- A number, or no value. -/
  optionalNumber? : α → Option (Option UInt64)

namespace View

variable {α : Type} (view : View α)

/-- The text of an entry, or the default where the entry is missing. -/
def textEntry (entries : List (String × α)) (key standard : String) : Option String :=
  match entries.lookup key with
  | some value => view.text? value
  | none => some standard

/-- The number of an entry, or the default where the entry is missing. -/
def numberEntry (entries : List (String × α)) (key : String) (standard : UInt64) :
    Option UInt64 :=
  match entries.lookup key with
  | some value => view.number? value
  | none => some standard

/-- The number of an entry that may be missing or have no value. -/
def optionalNumberEntry (entries : List (String × α)) (key : String) : Option (Option UInt64) :=
  match entries.lookup key with
  | some value => view.optionalNumber? value
  | none => some none

end View

/-! ## A document as it is written -/

/-- The text of a value that is one. -/
def Document.text? (d : Document) (node : Node) : Option String := do
  match ← d.resolve? node with
  | .scalar _ _ text => some text
  | _ => none

/-- The number that a text with a type writes. Without quotes a text may write a number, unless a
type says otherwise; the type of whole numbers goes for a text in quotes too. -/
def numberOf? (tag : Option String) (isPlain : Bool) (text : String) : Option UInt64 :=
  if tag == some (sharedTag "int") || (isPlain && tag.all isLocalTag) then unsigned? text else none

/-- The number of a value. -/
def Document.number? (d : Document) (node : Node) : Option UInt64 := do
  match ← d.resolve? node with
  | .scalar tag isPlain text => numberOf? tag isPlain text
  | _ => none

/-- The number of a value that may stand for nothing. -/
def Document.optionalNumber? (d : Document) (node : Node) : Option (Option UInt64) := do
  match ← d.resolve? node with
  | .scalar tag isPlain text =>
    let isNull := nullWords.contains text
    if tag == some (sharedTag "null") then if isNull then some none else none
    else if tag.isNone && isPlain && (text.isEmpty || isNull) then some none
    else (numberOf? tag isPlain text).map some
  | _ => none

/-- Whether no key that counts stands twice. -/
def knownDiffer (known : List String) (entries : List (String × Node)) : Bool :=
  known.all fun key => (entries.countP fun e => e.1 == key) ≤ 1

/-- The entries of a mapping whose keys are texts, or none at all where nothing is written. -/
def Document.entries? (d : Document) (known : List String) (node : Node) :
    Option (List (String × Node)) := do
  match ← d.resolve? node with
  | .mapping _ entries =>
    let entries ← entries.mapM fun e => (d.text? e.1).map fun key => (key, e.2)
    if knownDiffer known entries then some entries else none
  | .scalar _ isPlain text => if isPlain && text.isEmpty then some [] else none
  | _ => none

/-- A document as it is written. -/
def Document.view (d : Document) : View Node :=
  ⟨d.entries?, d.text?, d.number?, d.optionalNumber?⟩

/-! ## What the values of a document stand for -/

/-- The text that a value is. -/
def Value.text? (value : Value) : Option String :=
  match value.untagged with
  | .text s => some s
  | _ => none

/-- The number that a value is. -/
def Value.number? (value : Value) : Option UInt64 :=
  match value.untagged with
  | .integer n => if 0 ≤ n && n < UInt64.size then some (UInt64.ofNat n.toNat) else none
  | _ => none

/-- The number that a value is, unless it stands for nothing. -/
def Value.optionalNumber? : Value → Option (Option UInt64)
  | .null => some none
  | value => value.number?.map some

/-- The entries of a value that is a mapping, or none at all where it stands for nothing. -/
def Value.entries? (value : Value) : Option (List (String × Value)) :=
  match value.untagged with
  | .mapping entries => some entries
  | .null => some []
  | _ => none

/-- What the values of a document stand for. -/
def Value.view : View Value :=
  ⟨fun _ => Value.entries?, Value.text?, Value.number?, Value.optionalNumber?⟩

end Yaml

/-! ## Settings -/

/-- The menu keys that a value gives. -/
def MenuKeys.read? {α : Type} (view : Yaml.View α) (value : α) : Option MenuKeys := do
  let entries ← view.entries? fieldNames value
  let standard := MenuKeys.standard
  some ⟨← view.textEntry entries "acknowledge" standard.acknowledge,
    ← view.textEntry entries "close" standard.close,
    ← view.textEntry entries "unsubscribe" standard.unsubscribe⟩

namespace Settings

/-- The settings that a value gives, before they are checked. -/
def read? {α : Type} (view : Yaml.View α) (value : α) : Option Settings := do
  let entries ← view.entries? fieldNames value
  let standard := Settings.standard
  some {
    apiBase := ← view.textEntry entries "api_base" standard.apiBase
    apiKey := ← view.textEntry entries "api_key" standard.apiKey
    fromNumber := ← view.textEntry entries "from_number" standard.fromNumber
    connectionId := ← view.textEntry entries "connection_id" standard.connectionId
    publicKey := ← view.textEntry entries "public_key" standard.publicKey
    voiceName := ← view.textEntry entries "voice_name" standard.voiceName
    voiceLanguage := ← view.textEntry entries "voice_language" standard.voiceLanguage
    callbackBase := ← view.textEntry entries "callback_base" standard.callbackBase
    requestTimeoutMs := ← view.numberEntry entries "request_timeout_ms" standard.requestTimeoutMs
    lookupTimeoutMs := ← view.numberEntry entries "lookup_timeout_ms" standard.lookupTimeoutMs
    signatureToleranceSecs := ← view.optionalNumberEntry entries "signature_tolerance_secs"
    keys := ← match entries.lookup "digits" with
      | some value => MenuKeys.read? view value
      | none => some standard.keys }

/-- The settings that a document gives, before they are checked: as it is written, or else by what
its values stand for. -/
def ofDocument? (d : Yaml.Document) : Option Settings :=
  (read? d.view d.root).or (d.value?.bind (read? Yaml.Value.view))

/-- Why a file that is no text cannot be read. -/
def notTextCause : String := "stream did not contain valid UTF-8"

/-- The settings that a file gives; `content` is what came of reading it. -/
def ofFile (path : String) (content : Except String Bytes) : Except SettingsError Settings :=
  match content with
  | .error cause => .error (.unreadable path cause)
  | .ok bytes =>
    match Utf8.decode? bytes with
    | none => .error (.unreadable path notTextCause)
    | some text =>
      match (Yaml.parse text).bind ofDocument? with
      | none => .error (.malformed path)
      | some s => s.accepted

/-- The variable that names the file. -/
def fileVariable : String := "TELNYX_CONFIG"

/-- The settings from the file that the environment names, or else from the environment. -/
def load (env : Environment) (fileContent : String → Except String Bytes) :
    Except SettingsError Settings :=
  match env.filled? fileVariable with
  | some path => ofFile path (fileContent path)
  | none => ofEnvironment env

end Settings
end AlertLine

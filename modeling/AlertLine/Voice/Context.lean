import AlertLine.Encoding.Form
import AlertLine.Json.Decode
import AlertLine.Notification
import AlertLine.Text.Decimal
import AlertLine.Text.LetterCase
import AlertLine.Url.Basic

/-!
# Call contexts

What a call is about. The context travels in the query of the address that the provider calls back,
so that every callback can be answered without remembering the call. Reading it never fails: of
several values for one name the last holds, and a value that cannot be read counts as missing.
-/

namespace AlertLine

/-- What a call is for. -/
inductive CallIntent where
  /-- To tell about an alert. -/
  | alert
  /-- To tell a code. -/
  | verification
  /-- To test the line. -/
  | test
  /-- Not known. -/
  | default
  deriving DecidableEq, Repr

namespace CallIntent

/-- Every intent. -/
def all : List CallIntent := [.alert, .verification, .test, .default]

/-- The word for an intent in queries and labels. -/
def word : CallIntent → String
  | .alert => "alert"
  | .verification => "verify"
  | .test => "test"
  | .default => "default"

/-- The name of an intent in documents. -/
def name : CallIntent → String
  | .alert => "alert"
  | .verification => "verification"
  | .test => "test"
  | .default => "default"

/-- The intent that a word stands for; every other word stands for the default. -/
def ofWord (text : String) : CallIntent :=
  match Text.keyword text with
  | "alert" => .alert
  | "verify" | "verification" => .verification
  | "test" => .test
  | _ => .default

instance : Wire CallIntent where
  encode i := .ofString i.name
  decode room v := Json.choice? (all.map fun i => (i.name, i)) room v

end CallIntent

/-- What a call is about. -/
structure CallContext where
  /-- What the call is for. -/
  intent : CallIntent
  /-- The alert. -/
  alertId : Option Int64
  /-- The code. -/
  code : Option String
  deriving DecidableEq, Repr

namespace CallContext

/-- A context that says nothing. -/
def blank : CallContext := ⟨.default, none, none⟩

/-- The context of a call that tells a notification. -/
def ofNotification : Notification → CallContext
  | .test => ⟨.test, none, none⟩
  | .alert id _ _ => ⟨.alert, some id, none⟩
  | .verification code => ⟨.verification, none, some code⟩

/-- The name that the intent goes under in a query. -/
def intentKey : String := "type"

/-- The name that the alert number goes under in a query. -/
def alertKey : String := "alertID"

/-- The name that the code goes under in a query. -/
def codeKey : String := "code"

/-- The alert number that a value gives; blanks around it do not count. -/
def alertIdOf? (value : String) : Option Int64 :=
  (Decimal.readInt64 (Text.trim value)).toOption

/-- The code that a value gives: the value without blanks around it, unless nothing is left. -/
def codeOf? (value : String) : Option String :=
  let code := Text.trim value
  if code.isEmpty then none else some code

/-- Takes in one pair of a query. -/
def step (c : CallContext) (p : Form.Pair) : CallContext :=
  if p.1 = intentKey then { c with intent := .ofWord p.2 }
  else if p.1 = alertKey then { c with alertId := alertIdOf? p.2 }
  else if p.1 = codeKey then { c with code := codeOf? p.2 }
  else c

/-- The context that the pairs of a query give. -/
def ofPairs (ps : List Form.Pair) : CallContext :=
  ps.foldl step blank

/-- The context that a query gives. -/
def ofQuery (query : String) : CallContext :=
  ofPairs (Form.parseQuery query)

/-- The pairs that a context adds to a query. -/
def pairs (c : CallContext) : List Form.Pair :=
  (intentKey, c.intent.word) ::
    ((c.alertId.map fun id => (alertKey, Decimal.ofInt64 id)).toList ++
      (c.code.map fun code => (codeKey, code)).toList)

/-- An address whose query tells a context, behind what it tells already. -/
def applyTo (c : CallContext) (base : Url) : Url :=
  base.withPairs c.pairs

instance : Wire CallContext where
  encode c :=
    .obj [("intent", Wire.encode c.intent), ("alert_id", Wire.encode c.alertId),
      ("code", Wire.encode c.code)]
  decode room v := do
    let r ← Json.record? ["intent", "alert_id", "code"] room v
    some ⟨← r.required 0, ← r.nullable 1, ← r.nullable 2⟩

end CallContext
end AlertLine

import AlertLine.Action
import AlertLine.Text.Decimal

/-!
# Replies by text message

What a text message asks for. A text is compared by its words, joined by single spaces and in
lower case. A command may name an alert by its number, glued in front of the word or standing
beside it. A number that cannot be read is never taken for no number, since an action without a
number would be matched to some other alert.
-/

namespace AlertLine

/-- What a text message asks for. -/
inductive Reply where
  /-- Take on an alert. -/
  | acknowledge (alertId : Option Int64)
  /-- Declare an alert over. -/
  | close (alertId : Option Int64)
  /-- Hear no more. -/
  | unsubscribe
  /-- Hear again. -/
  | resubscribe
  /-- A command word with an alert number that cannot be read. -/
  | badReference
  /-- Nothing that is known. -/
  | unknown
  deriving DecidableEq, Repr

namespace Reply

/-- The words that end all messages. -/
def stopWords : List String := ["stop", "stopall", "unsubscribe", "cancel", "end", "quit"]

/-- The words that let messages begin again. -/
def startWords : List String := ["start", "unstop", "yes", "subscribe"]

/-- The words that take on an alert. -/
def acknowledgeWords : List String := ["a", "ack", "acknowledge"]

/-- The words that declare an alert over. -/
def closeWords : List String := ["c", "close", "resolve"]

/-- The alert number beside a command word. -/
inductive Reference where
  /-- There is none. -/
  | absent
  /-- A number of 64 bits. -/
  | id (n : Int64)
  /-- Digits that are no such number. -/
  | unreadable
  deriving DecidableEq, Repr

/-- The reference that a run of digits makes. -/
def Reference.ofDigits (digits : List Char) : Reference :=
  match Decimal.readInt64 (String.ofList digits) with
  | .ok n => .id n
  | .error _ => .unreadable

/-- The text in front of the last space, and the text behind it. -/
def splitAtLastSpace (text : List Char) : Option (List Char × List Char) :=
  let behind := text.reverse.takeWhile (· != ' ')
  match text.reverse.dropWhile (· != ' ') with
  | [] => none
  | _ :: front => some (front.reverse, behind.reverse)

/-- The alert number of a text and what is left: digits in front, or a last word of digits. -/
def splitReference (text : List Char) : Reference × List Char :=
  let digits := text.takeWhile Decimal.isDigit
  if !digits.isEmpty then
    (.ofDigits digits, Text.trimChars (text.dropWhile Decimal.isDigit))
  else
    match splitAtLastSpace text with
    | some (front, last) =>
      if !last.isEmpty && last.all Decimal.isDigit then
        (.ofDigits last, Text.trimChars front)
      else (.absent, text)
    | none => (.absent, text)

/-- A text as it is compared. -/
def normalForm (body : String) : String :=
  Text.lower (" ".intercalate (Text.words body))

/-- The command that a word and a reference make. -/
def ofCommand (reference : Reference) (word : String) : Reply :=
  let acknowledges := word ∈ acknowledgeWords
  let closes := word ∈ closeWords
  match reference with
  | .unreadable => if acknowledges ∨ closes then .badReference else .unknown
  | .id n =>
    if acknowledges then .acknowledge (some n)
    else if closes then .close (some n)
    else .unknown
  | .absent =>
    if acknowledges then .acknowledge none
    else if closes then .close none
    else .unknown

/-- What a text asks for. -/
def ofText (body : String) : Reply :=
  let text := normalForm body
  if text.isEmpty then .unknown
  else if text ∈ stopWords then .unsubscribe
  else if text ∈ startWords then .resubscribe
  else
    let parts := splitReference text.toList
    ofCommand parts.1 (String.ofList parts.2)

/-- The action to signal, with its alert. -/
def action : Reply → Option (ActionKind × Option Int64)
  | .acknowledge id => some (.acknowledge, id)
  | .close id => some (.close, id)
  | .unsubscribe => some (.unsubscribe, none)
  | .resubscribe => some (.resubscribe, none)
  | .badReference | .unknown => none

/-- The text that is sent back. The carrier answers a stop word itself, and a text that is not
understood stays without an answer, so that two machines cannot go on answering each other. -/
def confirmation : Reply → Option String
  | .acknowledge (some id) => some ("Acknowledged alert #" ++ Decimal.ofInt64 id ++ ".")
  | .acknowledge none => some "Acknowledged."
  | .close (some id) => some ("Closed alert #" ++ Decimal.ofInt64 id ++ ".")
  | .close none => some "Closed."
  | .resubscribe => some "Resubscribed. You will receive notifications again."
  | .unsubscribe | .unknown => none
  | .badReference =>
    some ("Sorry, that alert number was not recognised. Reply 'ack' to acknowledge, " ++
      "'close' to close, or 'stop' to unsubscribe.")

/-! ## The document form -/

/-- The name of a reply. -/
def name : Reply → String
  | .acknowledge _ => "acknowledge"
  | .close _ => "close"
  | .unsubscribe => "unsubscribe"
  | .resubscribe => "resubscribe"
  | .badReference => "bad_reference"
  | .unknown => "unknown"

/-- The replies by name: those with a place for an alert, and those without. -/
def byName : List (String × ((Option Int64 → Reply) ⊕ Reply)) :=
  [("acknowledge", .inl .acknowledge), ("close", .inl .close),
    ("unsubscribe", .inr .unsubscribe), ("resubscribe", .inr .resubscribe),
    ("bad_reference", .inr .badReference), ("unknown", .inr .unknown)]

/-- The reply with a given tag and content. The content may be left out of an object, and is
`null` for a reply without a place for an alert. -/
def ofTagged (room : Nat) (tag content? : Option Json) : Option Reply := do
  match ← Json.choice? byName room (← tag), content? with
  | .inl f, some content => (Reads.decode room content).map f
  | .inl f, none => some (f none)
  | .inr reply, some .null => some reply
  | .inr reply, none => some reply
  | .inr _, some _ => none

instance : Wire Reply where
  encode r :=
    match r with
    | .acknowledge id => .obj [("intent", .ofString r.name), ("alert_id", Wire.encode id)]
    | .close id => .obj [("intent", .ofString r.name), ("alert_id", Wire.encode id)]
    | _ => .obj [("intent", .ofString r.name)]
  decode room v := do
    let r ← Json.record? ["intent", "alert_id"] room v
    if r.positional && (r.given 1).isNone then none
    else ofTagged r.room (r.given 0) (r.given 1)

end Reply
end AlertLine

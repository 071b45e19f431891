import AlertLine.Encoding.Base64
import AlertLine.Signature.Ed25519
import AlertLine.Text.Blank
import AlertLine.Text.Decimal
import AlertLine.Text.LetterCase

/-!
# Signed webhooks

A webhook carries a signature and a timestamp in two headers. What is signed is the timestamp and
behind it the body, byte for byte. The checks come in a fixed order: the headers have to be there,
the signature has to be well-formed, it has to hold, and last the timestamp has to lie near the
clock, if that is asked for.
-/

namespace AlertLine

/-- Header fields in the order in which they came. -/
abbrev Headers := List (String × Bytes)

/-- The value of the first field with a name; the case of ASCII letters does not count. -/
def Headers.first? (hs : Headers) (name : String) : Option Bytes :=
  (hs.find? fun h => Text.asciiLower h.1 == Text.asciiLower name).map Prod.snd

/-- Why a webhook is refused. -/
inductive SignatureError where
  /-- The signature or the timestamp is missing. -/
  | missingHeaders
  /-- The signature, or the key, is not written as it should be. -/
  | badEncoding
  /-- The signature does not hold. -/
  | invalid
  /-- The timestamp is too far from the clock, or cannot be read. -/
  | stale
  deriving DecidableEq, Repr

/-- The name of a reason in labels. -/
def SignatureError.name : SignatureError → String
  | .missingHeaders => "missing_headers"
  | .badEncoding => "bad_encoding"
  | .invalid => "invalid"
  | .stale => "stale"

/-- The wording of a reason. -/
def SignatureError.message : SignatureError → String
  | .missingHeaders => "missing signature or timestamp header"
  | .badEncoding => "public key or signature is not valid base64 ed25519 material"
  | .invalid => "signature does not match payload"
  | .stale => "timestamp outside the accepted window"

namespace Webhook

/-- The headers that can carry the signature: the second counts where the first is not there. -/
def signatureNames : String × String :=
  ("x-telnyx-signature-ed25519", "telnyx-signature-ed25519")

/-- The headers that can carry the timestamp. -/
def timestampNames : String × String := ("x-telnyx-timestamp", "telnyx-timestamp")

/-- The value under the first of two names that is there; an empty value is none. -/
def headerValue? (hs : Headers) (names : String × String) : Option Bytes :=
  ((hs.first? names.1).or (hs.first? names.2)).filter fun v => !v.isEmpty

/-- The signature and the timestamp of a webhook. -/
def signedHeaders (hs : Headers) : Except SignatureError (Bytes × Bytes) :=
  match headerValue? hs signatureNames, headerValue? hs timestampNames with
  | some signature, some timestamp => .ok (signature, timestamp)
  | _, _ => .error .missingHeaders

/-- What is signed. -/
def signedPayload (timestamp body : Bytes) : Bytes := timestamp ++ body

/-- The key that a text gives in base64; blanks around it do not count. -/
def readKey (text : String) : Except SignatureError Ed25519.PublicKey :=
  match (Base64.decode (Utf8.encode (Text.trim text))).bind Ed25519.PublicKey.ofBytes? with
  | some key => .ok key
  | none => .error .badEncoding

/-- The signature that a header gives in base64. -/
def readSignature (value : Bytes) : Except SignatureError Ed25519.Signature :=
  match (Base64.decode value).bind Ed25519.Signature.ofBytes? with
  | some signature => .ok signature
  | none => .error .badEncoding

/-- Whether the signature holds for timestamp and body. -/
def checkSignature (key : Ed25519.PublicKey) (signature timestamp body : Bytes) :
    Except SignatureError Unit := do
  let signature ← readSignature signature
  if Ed25519.verify key (signedPayload timestamp body) signature then .ok ()
  else .error .invalid

/-- The time that a timestamp gives, in seconds. -/
def timeOf? (timestamp : Bytes) : Option Int64 :=
  (Utf8.decode? timestamp).bind fun text => (Decimal.readInt64 (Text.trim text)).toOption

/-- How far two times lie apart, in seconds: the earlier from the later one, in words of 64 bits. -/
def distance (a b : Int64) : UInt64 :=
  if a < b then b.toUInt64 - a.toUInt64 else a.toUInt64 - b.toUInt64

/-- Whether a timestamp lies near the clock. -/
def checkTime (tolerance : Option UInt64) (timestamp : Bytes) (now : Int64) :
    Except SignatureError Unit :=
  match tolerance with
  | none => .ok ()
  | some seconds =>
    match timeOf? timestamp with
    | none => .error .stale
    | some sent =>
      if seconds < distance now sent then .error .stale else .ok ()

/-- Verifies one webhook under a key that is given as text. -/
def verify (body : Bytes) (hs : Headers) (key : String) : Except SignatureError Unit := do
  let (signature, timestamp) ← signedHeaders hs
  checkSignature (← readKey key) signature timestamp body

end Webhook

/-- What webhooks are verified with. -/
structure Verifier where
  /-- The key of the sender. -/
  key : Ed25519.PublicKey
  /-- How far a timestamp may lie from the clock, in seconds, if that counts. -/
  tolerance : Option UInt64

namespace Verifier

/-- The verifier for a key given as text. -/
def ofKey (key : String) (tolerance : Option UInt64) : Except SignatureError Verifier := do
  pure ⟨← Webhook.readKey key, tolerance⟩

/-- Verifies one webhook by the given clock. -/
def verifyAt (v : Verifier) (body : Bytes) (hs : Headers) (now : Int64) :
    Except SignatureError Unit := do
  let (signature, timestamp) ← Webhook.signedHeaders hs
  Webhook.checkSignature v.key signature timestamp body
  Webhook.checkTime v.tolerance timestamp now

end Verifier
end AlertLine

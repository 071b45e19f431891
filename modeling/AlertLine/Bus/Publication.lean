import AlertLine.Json.Decode
import AlertLine.Subject

/-!
# The bus

What travels on the bus: a subject, a payload, and for a question the subject for its answer. The
bus takes payloads up to a limit and refuses longer ones.
-/

namespace AlertLine.Bus

/-- A message that came in. -/
structure Message where
  /-- The subject it came under. -/
  subject : String
  /-- The subject for an answer, if one is wanted. -/
  replyTo : Option String
  /-- What it says. -/
  payload : Bytes
  deriving DecidableEq, Repr

/-- A message that goes out. -/
structure Publication where
  /-- The subject it goes out under. -/
  subject : String
  /-- What it says. -/
  payload : Bytes
  deriving DecidableEq, Repr

/-- The publication of a value under a subject. -/
def Publication.ofValue {α : Type} [Wire α] (subject : String) (a : α) : Publication :=
  ⟨subject, Json.write a⟩

/-- Whether the bus takes a publication. -/
def Publication.fits (p : Publication) (limit : Nat) : Bool := p.payload.length ≤ limit

/-- The wording of a refusal for length. -/
def Publication.tooLong (p : Publication) (limit : Nat) : String :=
  "publish to " ++ p.subject ++
    " failed: max payload size exceeded: Payload size limit of " ++ Nat.repr limit ++
    " exceeded by message size of " ++ Nat.repr p.payload.length

end AlertLine.Bus

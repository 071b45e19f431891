import AlertLine.Json.Basic
import AlertLine.Json.Parser
import AlertLine.Json.Printer

/-!
# Reading values out of JSON

How domain values are taken from a document. A record is an object, in which entries with other
names are ignored and no field may be given twice, or an array of its fields in order. A choice
is named by a tag, by a single name, or tried alternative by alternative. What is ignored need not
have a reading; what a choice has to look at before it is known what it is must be sound in whole.
All readers carry the room that is left for nesting.
-/

namespace AlertLine

/-- Values that can be taken from JSON. -/
class Reads (α : Type) where
  /-- The value of a JSON form, when containers may nest `room` deep. -/
  decode : (room : Nat) → Json → Option α

/-- Values with a JSON form, which can be taken back from it. -/
class Wire (α : Type) extends Reads α where
  /-- The JSON form of a value. -/
  encode : α → Json

namespace Json

/-- How deep the containers of a document may nest. -/
def maxDepth : Nat := 127

/-- The value of a document. -/
def read (α : Type) [Reads α] (document : Bytes) : Option α :=
  (parse document).bind (Reads.decode maxDepth)

/-- The document of a value. -/
def write {α : Type} [Wire α] (a : α) : Bytes :=
  bytes (Wire.encode a)

/-! ## Scalars -/

instance : Wire String where
  encode := ofString
  decode _ v := match v with
    | .string s => s
    | _ => none

instance : Wire Bool where
  encode := .bool
  decode _ v := match v with
    | .bool b => some b
    | _ => none

/-- The integer that a value was written as, if it lies in a range. -/
def intWithin? (least greatest : Int) : Json → Option Int
  | .number n => n.toInt?.bind fun i => if least ≤ i ∧ i ≤ greatest then some i else none
  | _ => none

instance : Wire Int64 where
  encode := ofInt64
  decode _ v := (intWithin? Int64.minValue.toInt Int64.maxValue.toInt v).map Int64.ofInt

instance : Wire UInt64 where
  encode n := ofNat n.toNat
  decode _ v := (intWithin? 0 (UInt64.size - 1) v).map fun n => UInt64.ofNat n.toNat

instance : Wire UInt8 where
  encode n := ofNat n.toNat
  decode _ v := (intWithin? 0 255 v).map fun n => UInt8.ofNat n.toNat

instance {α : Type} [Reads α] : Reads (Option α) where
  decode room v := match v with
    | .null => some none
    | v => (Reads.decode room v).map some

instance {α : Type} [Wire α] : Wire (Option α) where
  encode := ofOption Wire.encode

instance {α : Type} [Reads α] : Reads (List α) where
  decode room v := match room, v with
    | room + 1, .array items => items.mapM (Reads.decode room)
    | _, _ => none

instance {α : Type} [Wire α] : Wire (List α) where
  encode as := .array (as.map Wire.encode)

/-! ## Records -/

/-- The fields given for a record, in the order of declaration. -/
structure Record where
  /-- Whether the record is an array, in which only fields with a default may be missing. -/
  positional : Bool
  /-- The room left inside the record. -/
  room : Nat
  /-- What was given for each field. -/
  fields : List (Option Json)

/-- The first value under a name. -/
def lookup? (name : String) (entries : List (Reading × Json)) : Option Json :=
  (entries.find? fun e => e.1 == some name).map Prod.snd

/-- How often a name occurs. -/
def occurrences (name : String) (entries : List (Reading × Json)) : Nat :=
  entries.countP fun e => e.1 == some name

/-- The fields of an object: every name has a reading, and no field is given twice. -/
def namedRecord? (names : List String) (room : Nat) : Json → Option Record
  | .object entries =>
    match room with
    | 0 => none
    | room' + 1 =>
      if entries.all (fun e => e.1.isSome) && names.all (fun n => occurrences n entries ≤ 1) then
        some ⟨false, room', names.map fun n => lookup? n entries⟩
      else none
  | _ => none

/-- The fields of an object, or of an array that is no longer than the record. -/
def record? (names : List String) (room : Nat) : Json → Option Record
  | .array items =>
    match room with
    | 0 => none
    | room' + 1 =>
      if items.length ≤ names.length then
        some ⟨true, room', items.map some ++ List.replicate (names.length - items.length) none⟩
      else none
  | v => namedRecord? names room v

/-- What was given for the field at a position. -/
def Record.given (r : Record) (i : Nat) : Option Json := (r.fields[i]?).getD none

/-- A field that has to be given. -/
def Record.required {α : Type} [Reads α] (r : Record) (i : Nat) : Option α :=
  (r.given i).bind (Reads.decode r.room)

/-- A field with a default. -/
def Record.defaulted {α : Type} [Reads α] (r : Record) (i : Nat) (default : α) : Option α :=
  match r.given i with
  | some v => Reads.decode r.room v
  | none => some default

/-- A field that may be `null`, and may be left out of an object. -/
def Record.nullable {α : Type} [Reads α] (r : Record) (i : Nat) : Option (Option α) :=
  match r.given i with
  | some v => Reads.decode r.room v
  | none => if r.positional then none else some none

/-! ## Choices -/

/-- A choice without contents: its name, or an object with that one name for `null`. -/
def choice? {α : Type} (names : List (String × α)) (room : Nat) : Json → Option α
  | .string (some s) => names.lookup s
  | .object [(some s, .null)] => if room = 0 then none else names.lookup s
  | _ => none

/-- The tag of a choice and what is left when it is taken out: the other entries of an object, or
the other items of an array whose first is the tag. What is left has to be sound. -/
def tagged? (tag : String) (room : Nat) : Json → Option (String × Json)
  | .object entries =>
    match room with
    | 0 => none
    | room' + 1 =>
      let others := entries.filter fun e => e.1 != some tag
      if occurrences tag entries == 1 &&
          others.all (fun e => e.1.isSome && isSound room' e.2) then
        match lookup? tag entries with
        | some (.string (some name)) => some (name, .object others)
        | _ => none
      else none
  | .array (.string (some name) :: items) =>
    match room with
    | 0 => none
    | room' + 1 => if items.all (isSound room') then some (name, .array items) else none
  | _ => none

/-- A tagged alternative without fields: any object, or an array with nothing left. -/
def isUnit : Json → Bool
  | .object _ => true
  | .array items => items.isEmpty
  | _ => false

end Json
end AlertLine

/-!
# Targets

What a request is made to: a path with its query, behind the scheme and the authority of a server
or alone, or only an authority. Nothing is changed on the way: a target is checked character by
character and cut into its parts, and the first fault is the one that is told.
-/

namespace AlertLine

/-- Why a text is no target. -/
inductive TargetError where
  /-- It has a character that cannot stand there. -/
  | badCharacter
  /-- Its authority is none. -/
  | badAuthority
  /-- Its parts do not go together. -/
  | badFormat
  /-- Nothing is there. -/
  | empty
  /-- It is longer than a target can be. -/
  | tooLong
  /-- Its scheme is longer than a scheme can be. -/
  | schemeTooLong
  deriving DecidableEq, Repr

/-- The wording of each fault. -/
def TargetError.message : TargetError → String
  | .badCharacter => "invalid uri character"
  | .badAuthority => "invalid authority"
  | .badFormat => "invalid format"
  | .empty => "empty string"
  | .tooLong => "uri too long"
  | .schemeTooLong => "scheme too long"

/-- What a request asks for. -/
structure Target where
  /-- The path. -/
  path : String
  /-- The query, if there is one. -/
  query : Option String
  deriving DecidableEq, Repr

namespace Target

/-- The greatest length of a target, in bytes. -/
def maxLength : Nat := 65534

/-- The greatest length of a scheme. -/
def maxSchemeLength : Nat := 64

/-! ## Schemes -/

/-- A character of a scheme. -/
def isSchemeChar (c : Char) : Bool :=
  c.isAlphanum || c == '+' || c == '-' || c == '.'

/-- What stands behind a scheme, its colon and two slashes, if a target begins with these. -/
def splitScheme (cs : List Char) : Except TargetError (Option (List Char)) :=
  let scheme := cs.takeWhile isSchemeChar
  match cs.dropWhile isSchemeChar with
  | ':' :: '/' :: '/' :: rest =>
    if maxSchemeLength < scheme.length then .error .schemeTooLong else .ok (some rest)
  | _ => .ok none

/-! ## Authorities -/

/-- A character that an authority can have. A percent sign can stand in its user part only. -/
def isAuthorityChar (c : Char) : Bool :=
  c.isAlphanum || "!$&'()*+,-.:;=@[]_~%".toList.contains c

/-- A character that ends an authority. -/
def endsAuthority (c : Char) : Bool := c == '/' || c == '?' || c == '#'

/-- What was seen of an authority. -/
structure AuthorityScan where
  /-- How many colons may belong to a port. -/
  colons : Nat
  /-- Whether a bracket was opened. -/
  isOpened : Bool
  /-- Whether a bracket was closed. -/
  isClosed : Bool
  /-- Whether a percent sign may belong to the host. -/
  hasPercent : Bool
  /-- Whether the last character ended the user part. -/
  endsUser : Bool

/-- The greatest number of colons. -/
def maxColons : Nat := 8

/-- One more character of an authority. What stands in brackets or in front of an `@` takes its
colons and percent signs with it. -/
def AuthorityScan.step (s : AuthorityScan) (c : Char) : Except TargetError AuthorityScan :=
  let s := { s with endsUser := false }
  match c with
  | ':' =>
    if maxColons ≤ s.colons then .error .badAuthority else .ok { s with colons := s.colons + 1 }
  | '[' =>
    if s.hasPercent || s.isOpened then .error .badAuthority else .ok { s with isOpened := true }
  | ']' =>
    if !s.isOpened || s.isClosed then .error .badAuthority
    else .ok { s with isClosed := true, colons := 0, hasPercent := false }
  | '@' => .ok { s with colons := 0, hasPercent := false, endsUser := true }
  | '%' => .ok { s with hasPercent := true }
  | _ => if isAuthorityChar c then .ok s else .error .badCharacter

/-- Whether what was seen makes an authority. -/
def AuthorityScan.isSound (s : AuthorityScan) : Bool :=
  s.isOpened == s.isClosed && s.colons ≤ 1 && !s.endsUser && !s.hasPercent

/-- Splits an authority from what follows it. -/
def splitAuthority (cs : List Char) : Except TargetError (List Char × List Char) := do
  let authority := cs.takeWhile fun c => !endsAuthority c
  let s ← authority.foldlM AuthorityScan.step ⟨0, false, false, false, false⟩
  if s.isSound then pure (authority, cs.dropWhile fun c => !endsAuthority c)
  else throw .badAuthority

/-! ## Paths -/

/-- A character that a path can have as it is. -/
def isPathChar (c : Char) : Bool :=
  0x21 ≤ c.toNat && !"#<>?\x60".toList.contains c

/-- A character that a query can have as it is. -/
def isQueryChar (c : Char) : Bool :=
  0x21 ≤ c.toNat && !"\"#<>".toList.contains c

/-- The path and query that a text spells; a fragment is not sent. -/
def ofPath (cs : List Char) : Except TargetError Target :=
  let path := cs.takeWhile fun c => c != '?' && c != '#'
  let behind := (cs.drop path.length).takeWhile (· != '#')
  let name := if path.isEmpty then "/" else String.ofList path
  if !path.all isPathChar then .error .badCharacter
  else
    match behind with
    | [] => .ok ⟨name, none⟩
    | _ :: query =>
      if query.all isQueryChar then .ok ⟨name, some (String.ofList query)⟩
      else .error .badCharacter

/-! ## Targets -/

/-- The target that a text of one character spells. -/
def ofChar (c : Char) : Except TargetError Target :=
  if c == '/' || c == '*' then .ok ⟨String.singleton c, none⟩
  else do
    let (_, rest) ← splitAuthority [c]
    if rest.isEmpty then pure ⟨"", none⟩ else throw .badCharacter

/-- The target that stands behind a scheme. -/
def ofServer (cs : List Char) : Except TargetError Target := do
  if cs.isEmpty then throw .empty
  let (authority, rest) ← splitAuthority cs
  if authority.isEmpty then throw .badFormat else ofPath rest

/-- Reads a target. -/
def parse (s : String) : Except TargetError Target := do
  if maxLength < s.utf8ByteSize then throw .tooLong
  match s.toList with
  | [] => throw .empty
  | [c] => ofChar c
  | '/' :: _ => ofPath s.toList
  | cs =>
    match ← splitScheme cs with
    | some rest => ofServer rest
    | none =>
      let (_, rest) ← splitAuthority cs
      if rest.isEmpty then pure ⟨"", none⟩ else throw .badFormat

end Target
end AlertLine

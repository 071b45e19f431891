import AlertLine.Url.Host

/-!
# Reading addresses

Reading cuts a text into scheme, authority, path, query and fragment, and brings each part into its
normal form: escapes where a part cannot hold a character, dot segments resolved, usual ports left
out. White space around the text and line breaks in it do not count.
-/

namespace AlertLine.Url

/-! ## What each part can hold -/

/-- The characters that are escaped in a fragment, beside controls and non-ASCII. -/
def fragmentEscapes : String := " \"<>`"

/-- The characters that are escaped in a path. -/
def pathEscapes : String := fragmentEscapes ++ "#?\x7b\x7d"

/-- The characters that are escaped in a user name or password. -/
def userEscapes : String := pathEscapes ++ "/:;=@[\\]^|"

/-- The characters that are escaped in a query. -/
def queryEscapes : String := " \"#<>"

/-- The characters that are escaped in the query of a web address. -/
def webQueryEscapes : String := queryEscapes ++ "'"

/-- A text with the given characters, controls and non-ASCII escaped. -/
def escaped (escapes : String) (cs : List Char) : String :=
  Percent.encode (fun b => Host.isPlain b && !escapes.toList.contains (Char.ofNat b.toNat))
    (String.ofList cs)

/-! ## Paths -/

/-- A segment that stands for the directory itself. -/
def isDot (segment : String) : Bool :=
  segment == "." || segment == "%2e" || segment == "%2E"

/-- A segment that stands for the directory above. -/
def isDoubleDot (segment : String) : Bool :=
  [".", "%2e", "%2E"].any fun a => [".", "%2e", "%2E"].any fun b => segment == a ++ b

/-- A drive letter with a colon. -/
def isDrive (segment : String) : Bool :=
  match segment.toList with
  | [c, ':'] => c.isAlpha
  | _ => false

/-- A drive letter with a colon or a bar. -/
def isLooseDrive (cs : List Char) : Bool :=
  match cs with
  | [c, d] => c.isAlpha && (d == ':' || d == '|')
  | _ => false

/-- Whether a segment is a drive letter, or begins with one and a backslash. -/
def beginsWithDrive (segment : String) : Bool :=
  match segment.toList with
  | [c, d] => isLooseDrive [c, d]
  | c :: d :: '\\' :: _ => isLooseDrive [c, d]
  | _ => false

/-- Drops the last of the segments, which come in reverse; a drive stays. -/
def shorten : List String → List String
  | [] => []
  | last :: rest => if beginsWithDrive last then last :: rest else rest

/-- Adds one segment to those so far, which come in reverse. -/
def addSegment (isLast : Bool) (done : List String) (cs : List Char) : List String :=
  let segment := escaped pathEscapes cs
  if isDoubleDot segment then
    let done := shorten done
    if isLast then "" :: done else done
  else if isDot segment then
    if isLast then "" :: done else done
  else segment :: done

/-- The segments of a path. -/
def segmentsOf : List String → List (List Char) → List String
  | done, [] => done.reverse
  | done, [cs] => (addSegment true done cs).reverse
  | done, cs :: rest => segmentsOf (addSegment false done cs) rest

/-- The segments of a local file, without empty ones in front. -/
def dropEmptyFront : List String → List String
  | "" :: name :: rest => dropEmptyFront (name :: rest)
  | names => names

/-- A character that separates segments: a slash, and in web addresses a backslash too. -/
def isSlash (isWeb : Bool) (c : Char) : Bool :=
  c == '/' || (isWeb && c == '\\')

/-- The path that a text spells for a scheme. A web address always has a segment. -/
def pathOf (scheme : String) (cs : List Char) : UrlPath :=
  let isWeb := isSpecial scheme
  let isFile := scheme == "file"
  match cs with
  | [] => .segments (if isWeb then [""] else [])
  | c :: rest =>
    let inner := if isSlash isWeb c then rest else cs
    let names := segmentsOf [] (inner.splitOnP (isSlash isWeb))
    .segments (if isFile then dropEmptyFront names else names)

/-! ## Authorities -/

/-- Splits at the last `@`. -/
def splitUser (cs : List Char) : Option (List Char × List Char) :=
  match cs.reverse.dropWhile (· != '@') with
  | [] => none
  | _ :: user => some (user.reverse, (cs.reverse.takeWhile (· != '@')).reverse)

/-- Splits a host from the colon behind it; a colon in brackets belongs to the host. -/
def splitHost (inBrackets : Bool) (host : List Char) : List Char → List Char × List Char
  | [] => (host.reverse, [])
  | c :: rest =>
    if c == ':' && !inBrackets then (host.reverse, c :: rest)
    else splitHost (if c == '[' then true else if c == ']' then false else inBrackets)
      (c :: host) rest

/-- The port that digits behind a colon give, unless it is the usual one, and what follows. -/
def portOf (scheme : String) (cs : List Char) : Except UrlError (Option Nat × List Char) :=
  let digits := cs.takeWhile Char.isDigit
  let rest := cs.dropWhile Char.isDigit
  let port := digits.foldl (fun n c => min 65536 (10 * n + (c.toNat - '0'.toNat))) 0
  if 65535 < port then .error .invalidPort
  else if !rest.isEmpty && rest.head? != some '\\' then .error .invalidPort
  else .ok (if digits.isEmpty || usualPort? scheme == some port then none else some port, rest)

/-- The user name and password of an address. -/
def userOf (cs : List Char) : String × Option String :=
  let name := cs.takeWhile (· != ':')
  let password := (cs.dropWhile (· != ':')).drop 1
  (escaped userEscapes name,
    if password.isEmpty then none else some (escaped userEscapes password))

/-- The authority that a text spells, and what follows the port; `endsThere` says that the address
has nothing behind the authority. -/
def authorityOf (scheme : String) (endsThere : Bool) (cs : List Char) :
    Except UrlError (Authority × List Char) := do
  let isWeb := isSpecial scheme
  let (user, rest) := (splitUser cs).getD ([], cs)
  if (splitUser cs).isSome && user.isEmpty && rest.isEmpty && !endsThere then
    throw .emptyHost
  let (host, behind) := splitHost false [] rest
  if isWeb && host.isEmpty then throw .emptyHost
  let hostText ← if isWeb then Host.ofWeb host else Host.ofOther host
  if hostText.isEmpty && behind.head? = some ':' then throw .emptyHost
  let (port, left) ← match behind with
    | ':' :: digits => portOf scheme digits
    | _ => pure (none, behind)
  let (username, password) := userOf user
  if hostText.isEmpty && (!username.isEmpty || password.isSome) then throw .emptyHost
  pure (⟨username, password, hostText, port⟩, left)

/-! ## Addresses -/

/-- Line breaks and tabs, which count for nothing. -/
def isLayout (c : Char) : Bool := c == '\t' || c == '\n' || c == '\r'

/-- Controls and spaces, which count for nothing at the ends. -/
def isEdge (c : Char) : Bool := c.toNat ≤ 0x20

/-- The characters of a text that count. -/
def cleaned (s : String) : List Char :=
  (((s.toList.dropWhile isEdge).reverse.dropWhile isEdge).reverse).filter fun c => !isLayout c

/-- A character of a scheme. -/
def isSchemeChar (c : Char) : Bool :=
  c.isAlphanum || c == '+' || c == '-' || c == '.'

/-- The scheme of a text, in lower case, and what follows its colon. -/
def splitScheme (cs : List Char) : Option (String × List Char) :=
  let scheme := cs.takeWhile isSchemeChar
  match cs.dropWhile isSchemeChar with
  | ':' :: rest =>
    if scheme.head?.any Char.isAlpha then some (String.ofList (scheme.map Char.toLower), rest)
    else none
  | _ => none

/-- Splits at the first of a character; the second part is missing if there is none. -/
def splitAtFirst (mark : Char) (cs : List Char) : List Char × Option (List Char) :=
  match cs.dropWhile (· != mark) with
  | [] => (cs, none)
  | _ :: rest => (cs.takeWhile (· != mark), some rest)

/-- An address with an authority. -/
def withAuthority (scheme : String) (query fragment : Option String) (cs : List Char) :
    Except UrlError Url := do
  let isWeb := isSpecial scheme
  let front := cs.takeWhile fun c => !isSlash isWeb c
  let path := cs.dropWhile fun c => !isSlash isWeb c
  let endsThere := path.isEmpty && query.isNone && fragment.isNone
  let (authority, left) ← authorityOf scheme endsThere front
  pure ⟨scheme, some authority, pathOf scheme (left ++ path), query, fragment⟩

/-- The address of a file. A host before a drive is dropped, and so is the local one. -/
def ofFile (query fragment : Option String) (cs : List Char) : Except UrlError Url := do
  let file (host : String) (path : UrlPath) : Url :=
    ⟨"file", some ⟨"", none, host, none⟩, path, query, fragment⟩
  match cs with
  | a :: b :: rest =>
    if isSlash true a && isSlash true b then
      let host := rest.takeWhile fun c => !isSlash true c
      let behind := rest.dropWhile fun c => !isSlash true c
      if host.isEmpty then pure (file "" (pathOf "file" behind))
      else if isLooseDrive host then pure (file "" (pathOf "file" rest))
      else
        let hostText ← Host.ofWeb host
        let path := pathOf "file" behind
        let startsWithDrive := match path with
          | .segments (first :: _) => isDrive first
          | _ => false
        pure (file (if hostText == "localhost" || startsWithDrive then "" else hostText) path)
    else pure (file "" (pathOf "file" cs))
  | _ => pure (file "" (pathOf "file" cs))

/-- Reads an address. -/
def parse (s : String) : Except UrlError Url := do
  match splitScheme (cleaned s) with
  | none => throw .relativeWithoutBase
  | some (scheme, rest) =>
    let (beforeFragment, fragment) := splitAtFirst '#' rest
    let (body, query) := splitAtFirst '?' beforeFragment
    let fragment := fragment.map (escaped fragmentEscapes)
    let query := query.map (escaped (if isSpecial scheme then webQueryEscapes else queryEscapes))
    if scheme == "file" then ofFile query fragment body
    else if isSpecial scheme then
      withAuthority scheme query fragment (body.dropWhile (isSlash true))
    else
      match body with
      | '/' :: '/' :: authority => withAuthority scheme query fragment authority
      | '/' :: _ => pure ⟨scheme, none, pathOf scheme body, query, fragment⟩
      | _ => pure ⟨scheme, none, .flat (escaped "" body), query, fragment⟩

end AlertLine.Url

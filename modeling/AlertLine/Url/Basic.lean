import AlertLine.Encoding.Form

/-!
# Addresses

An address in its normal form: every part is kept as it is written out. A path is a row of
segments, or, for an address without hierarchy, one text. The operations that a caller needs beside
reading and writing are a slash at the end of the path, the address of a resource beside, and more
pairs for the query.
-/

namespace AlertLine

/-- Why a text is no address, or why one address cannot be taken relative to another. -/
inductive UrlError where
  /-- The host is missing. -/
  | emptyHost
  /-- The host is no domain name. -/
  | invalidDomainName
  /-- The port is no number of 16 bits. -/
  | invalidPort
  /-- The host looks like an IPv4 address, but is none. -/
  | invalidIpv4
  /-- The host is in brackets, but is no IPv6 address. -/
  | invalidIpv6
  /-- The host has a character that no host can have. -/
  | invalidHostCharacter
  /-- There is no scheme. -/
  | relativeWithoutBase
  /-- The base has no hierarchy. -/
  | baseWithoutHierarchy
  deriving DecidableEq, Repr

/-- The wording of each cause. -/
def UrlError.message : UrlError → String
  | .emptyHost => "empty host"
  | .invalidDomainName => "invalid international domain name"
  | .invalidPort => "invalid port number"
  | .invalidIpv4 => "invalid IPv4 address"
  | .invalidIpv6 => "invalid IPv6 address"
  | .invalidHostCharacter => "invalid domain character"
  | .relativeWithoutBase => "relative URL without a base"
  | .baseWithoutHierarchy => "relative URL with a cannot-be-a-base base"

/-- Who is addressed. -/
structure Authority where
  /-- The user, if one is named. -/
  username : String
  /-- The password, if there is one. -/
  password : Option String
  /-- The host; empty for a local file. -/
  host : String
  /-- The port, unless it is the usual one. -/
  port : Option Nat
  deriving DecidableEq, Repr

/-- What is addressed there. -/
inductive UrlPath where
  /-- Segments, each behind a slash. -/
  | segments (names : List String)
  /-- One text without hierarchy. -/
  | flat (text : String)
  deriving DecidableEq, Repr

/-- An address. -/
structure Url where
  /-- The scheme, in lower case. -/
  scheme : String
  /-- Who is addressed, if the address says so. -/
  authority : Option Authority
  /-- What is addressed there. -/
  path : UrlPath
  /-- The query, if there is one. -/
  query : Option String
  /-- The fragment, if there is one. -/
  fragment : Option String
  deriving DecidableEq, Repr

/-- The user part in front of a host. -/
def Authority.userText (a : Authority) : String :=
  match a.username, a.password with
  | "", none => ""
  | user, none => user ++ "@"
  | user, some password => user ++ ":" ++ password ++ "@"

/-- The authority as it is written. -/
def Authority.text (a : Authority) : String :=
  a.userText ++ a.host ++ (match a.port with
    | some port => ":" ++ Nat.repr port
    | none => "")

/-- The path as it is written. -/
def UrlPath.text : UrlPath → String
  | .segments names => String.join (names.map fun name => "/" ++ name)
  | .flat text => text

namespace Url

/-- The schemes of the web, each with its usual port. -/
def specialSchemes : List (String × Option Nat) :=
  [("http", some 80), ("https", some 443), ("ws", some 80), ("wss", some 443), ("ftp", some 21),
    ("file", none)]

/-- Whether a scheme is one of the web's. -/
def isSpecial (scheme : String) : Bool :=
  (specialSchemes.lookup scheme).isSome

/-- The usual port of a scheme. -/
def usualPort? (scheme : String) : Option Nat :=
  (specialSchemes.lookup scheme).join

/-- What stands in front of a path that would otherwise be taken for an authority. -/
def pathGuard (u : Url) : String :=
  match u.authority, u.path with
  | none, .segments ("" :: _ :: _) => "/."
  | _, _ => ""

/-- The address as it is written. -/
def text (u : Url) : String :=
  u.scheme ++ ":" ++
    (match u.authority with
      | some a => "//" ++ a.text
      | none => "") ++
    u.pathGuard ++ u.path.text ++
    (match u.query with
      | some query => "?" ++ query
      | none => "") ++
    (match u.fragment with
      | some fragment => "#" ++ fragment
      | none => "")

/-- The path and the query, as a request names its target. -/
def target (u : Url) : String :=
  u.path.text ++ (match u.query with
    | some query => "?" ++ query
    | none => "")

/-- The address with a slash at the end of its path. -/
def withTrailingSlash (u : Url) : Url :=
  match u.path with
  | .segments names =>
    if names.getLast? = some "" then u else { u with path := .segments (names ++ [""]) }
  | .flat _ => u

/-- The address of a resource beside the one that is addressed: the last segment of the path
gives way to the given names, and query and fragment are dropped. -/
def beside (u : Url) (names : List String) : Except UrlError Url :=
  match u.path with
  | .segments old =>
    .ok { u with path := .segments (old.dropLast ++ names), query := none, fragment := none }
  | .flat _ => .error .baseWithoutHierarchy

/-- The address with pairs behind those that its query has. -/
def withPairs (u : Url) (ps : List Form.Pair) : Url :=
  match u.query with
  | none | some "" => { u with query := some (Form.encode ps) }
  | some query => { u with query := some (query ++ "&" ++ Form.encode ps) }

end Url
end AlertLine

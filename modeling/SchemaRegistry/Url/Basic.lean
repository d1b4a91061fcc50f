import SchemaRegistry.Text.Percent

/-!
Absolute URLs as records. Every part is kept in its normalized, percent-encoded form, and `render`
puts the parts together. Two URLs are equal exactly when their parts are.

Changing the fragment leaves the other parts alone, with one exception: a URL with an opaque path
that loses its fragment also loses the spaces at the end of that path, since a reader would not see
them there.
-/

namespace SchemaRegistry

inductive UrlError where
  | relativeWithoutBase
  | relativeWithOpaqueBase
  | emptyHost
  | invalidPort
  | invalidIpv4
  | invalidIpv6
  | invalidDomainName
  | invalidDomainCharacter
  deriving DecidableEq

def UrlError.message : UrlError → String
  | relativeWithoutBase => "relative URL without a base"
  | relativeWithOpaqueBase => "relative URL with a cannot-be-a-base base"
  | emptyHost => "empty host"
  | invalidPort => "invalid port number"
  | invalidIpv4 => "invalid IPv4 address"
  | invalidIpv6 => "invalid IPv6 address"
  | invalidDomainName => "invalid international domain name"
  | invalidDomainCharacter => "invalid domain character"

/-- The part of a URL between `//` and the path. The user name and the password are empty when they
are absent, and so is the host of a URL that names no host. -/
structure Authority where
  username : String
  password : String
  host : String
  port : Option Nat
  deriving DecidableEq, Inhabited

inductive UrlPath where
  /-- A path without structure, as in `urn:isbn:1`. -/
  | plain (text : String)
  /-- A path of segments. The text is empty or starts with a slash. -/
  | segments (text : String)
  deriving DecidableEq, Inhabited

structure Url where
  fragment : Option String
  path : UrlPath
  query : Option String
  authority : Option Authority
  scheme : String
  deriving DecidableEq, Inhabited

def Authority.render (a : Authority) : String :=
  let credentials :=
    if a.username = "" && a.password = "" then ""
    else if a.password = "" then a.username ++ "@"
    else a.username ++ ":" ++ a.password ++ "@"
  let port := match a.port with
    | some n => ":" ++ toString n
    | none => ""
  "//" ++ credentials ++ a.host ++ port

def UrlPath.text : UrlPath → String
  | plain text => text
  | segments text => text

namespace Url

/-- The characters that a fragment does not hold as they are, besides control characters. -/
def fragmentEscapes : List Char := [' ', '"', '<', '>', '\x60']

/-- Tabs and line ends, which are dropped wherever they stand in a URL. -/
def isDropped (c : Char) : Bool := c = '\t' || c = '\n' || c = '\r'

def encodeFragment (text : List Char) : String :=
  String.ofList (Percent.encode fragmentEscapes (text.filter fun c => !isDropped c))

/-- A URL whose path is opaque: nothing can be resolved against it but a fragment. -/
def isOpaque (u : Url) : Bool :=
  match u.path with
  | .plain _ => true
  | .segments _ => false

/-- The written form. A path that starts with two slashes and follows no authority is preceded by
`/.`, so that it is not taken for one. -/
def render (u : Url) : String :=
  let authority := match u.authority with
    | some a => a.render
    | none => if u.path.text.startsWith "//" then "/." else ""
  let query := match u.query with
    | some q => "?" ++ q
    | none => ""
  let fragment := match u.fragment with
    | some f => "#" ++ f
    | none => ""
  u.scheme ++ ":" ++ authority ++ u.path.text ++ query ++ fragment

def withoutTrailingSpaces (text : String) : String :=
  String.ofList (text.toList.reverse.dropWhile (· = ' ')).reverse

def withoutFragment (u : Url) : Url :=
  match u.path, u.query with
  | .plain text, none => { u with path := .plain (withoutTrailingSpaces text), fragment := none }
  | _, _ => { u with fragment := none }

def withFragment (u : Url) (text : List Char) : Url :=
  { u with fragment := some (encodeFragment text) }

end Url

end SchemaRegistry

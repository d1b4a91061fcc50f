import SchemaRegistry.Url.Host
import SchemaRegistry.Url.Path

/-!
Reading a URL, absolute or relative to a base. Tabs and line ends are dropped and blanks at both
ends are cut off. The schemes of the web are special: they have a default port, need a host, and
take a backslash for a slash. What a relative reference leaves out comes from the base.
-/

namespace SchemaRegistry.Url

def specialSchemes : List (String × Option Nat) :=
  [("http", some 80), ("https", some 443), ("ws", some 80), ("wss", some 443), ("ftp", some 21),
    ("file", none)]

def isSpecial (scheme : String) : Bool := (specialSchemes.lookup scheme).isSome

def defaultPort (scheme : String) : Option Nat := (specialSchemes.lookup scheme).join

/-- The characters that a query does not hold as they are, besides control characters. -/
def queryEscapes (special : Bool) : List Char :=
  [' ', '"', '#', '<', '>'] ++ (if special then ['\''] else [])

/-- The characters that user names and passwords do not hold as they are, besides control
characters. -/
def credentialEscapes : List Char :=
  pathEscapes ++ ['/', ':', ';', '=', '@', '[', '\\', ']', '^', '|']

/-- The text without control characters and spaces at its ends, and without dropped characters. -/
def prepare (text : String) : List Char :=
  let isBlank (c : Char) : Bool := c.toNat ≤ 0x20
  let trimmed := ((text.toList.dropWhile isBlank).reverse.dropWhile isBlank).reverse
  trimmed.filter fun c => !isDropped c

def isSchemeChar (c : Char) : Bool := c.isAlphanum || c = '+' || c = '-' || c = '.'

def splitScheme? (text : List Char) : Option (String × List Char) :=
  match text with
  | first :: _ =>
    if first.isAlpha then
      match text.dropWhile isSchemeChar with
      | ':' :: rest => some (String.ofList ((text.takeWhile isSchemeChar).map Char.toLower), rest)
      | _ => none
    else none
  | [] => none

def readTail (special : Bool) : List Char → Option String × Option String
  | '?' :: rest =>
    let query := String.ofList
      (Percent.encode (queryEscapes special) (rest.takeWhile (· ≠ '#')))
    match rest.dropWhile (· ≠ '#') with
    | _ :: fragment => (some query, some (encodeFragment fragment))
    | [] => (some query, none)
  | '#' :: fragment => (none, some (encodeFragment fragment))
  | _ => (none, none)

def finish (scheme : String) (authority : Option Authority) (reading : PathReading) : Url :=
  let (query, fragment) := readTail (isSpecial scheme) reading.rest
  ⟨fragment, .segments (String.ofList reading.path), query, authority, scheme⟩

def endsAuthority (special : Bool) (c : Char) : Bool :=
  c = '/' || c = '?' || c = '#' || (special && c = '\\')

/-- Reads user name and password, which end with the last `@` before the path, and gives the text
after it. -/
def readCredentials (special : Bool) (text : List Char) :
    Except UrlError (String × String × List Char) :=
  let region := text.takeWhile fun c => !endsAuthority special c
  if !region.contains '@' then .ok ("", "", text)
  else
    let afterLast := (region.reverse.takeWhile (· ≠ '@')).reverse
    let before := region.take (region.length - afterLast.length - 1)
    let rest := text.drop (before.length + 1)
    if before.isEmpty then
      if rest.head?.any (endsAuthority special) then .error .emptyHost else .ok ("", "", rest)
    else
      let encode (part : List Char) := String.ofList (Percent.encode credentialEscapes part)
      .ok (encode (before.takeWhile (· ≠ ':')), encode ((before.dropWhile (· ≠ ':')).drop 1), rest)

/-- The length of the host at the start of a text. A colon inside brackets belongs to it. -/
def hostLength (special : Bool) (bracket : Bool) : List Char → Nat
  | [] => 0
  | c :: rest =>
    if endsAuthority special c || (c = ':' && !bracket) then 0
    else hostLength special (if c = '[' then true else if c = ']' then false else bracket) rest + 1

/-- Reads a port. Leading zeros do not count, and the port that the scheme implies is left out. -/
def readPort (scheme : String) (text : List Char) : Except UrlError (Option Nat × List Char) :=
  let digits := text.takeWhile Char.isDigit
  let rest := text.drop digits.length
  let port := (Hex.digits? 10 digits).getD 0
  if 65535 < port || rest.head?.any fun c => !endsAuthority true c then .error .invalidPort
  else if digits.isEmpty || defaultPort scheme = some port then .ok (none, rest)
  else .ok (some port, rest)

def readPathAfterHost (scheme : String) (text : List Char) : PathReading :=
  let special := isSpecial scheme
  let file := scheme = "file"
  match text with
  | [] => if special then readPath special file ['/'] [] else ⟨[], false, []⟩
  | c :: rest =>
    if special then
      readPath special file ['/'] (if c = '/' || c = '\\' then rest else text)
    else if c = '?' || c = '#' then ⟨[], false, text⟩
    else readPath special file (if c = '/' then [] else ['/']) text

/-- Reads what follows `scheme://` under any scheme but `file`. -/
def readAfterSlashes (scheme : String) (text : List Char) : Except UrlError Url := do
  let special := isSpecial scheme
  let (username, password, rest) ← readCredentials special text
  let length := hostLength special false rest
  let name := rest.take length
  let rest := rest.drop length
  if special && name.isEmpty then throw .emptyHost
  let host ← if special then webHost name else opaqueHost name
  if host.isEmpty && rest.head? = some ':' then throw .emptyHost
  let (port, rest) ← match rest with
    | ':' :: rest => readPort scheme rest
    | _ => pure (none, rest)
  if host.isEmpty && !(username.isEmpty && password.isEmpty) then throw .emptyHost
  return finish scheme (some ⟨username, password, host, port⟩) (readPathAfterHost scheme rest)

def fileAuthority (host : String) : Authority := ⟨"", "", host, none⟩

def fileUrl (host : String) (path text : List Char) : Url :=
  finish "file" (some (fileAuthority host)) (readPath true true path text)

def firstSegment (path : List Char) : List Char := (path.drop 1).takeWhile (· ≠ '/')

/-- Reads what follows `file://`. A drive in the place of the host belongs to the path, the name of
the own machine counts as no host, and a path that names a drive makes the host disappear. Without a
host the path starts with the slash that ended it, so that its first segment can name a drive. -/
def readFileHost (text : List Char) : Except UrlError Url := do
  let name := text.takeWhile fun c => !endsSegment c
  if isDriveLetter name then return fileUrl "" ['/'] text
  let rest := text.drop name.length
  if name.isEmpty then return fileUrl "" [] rest
  let host ← webHost name
  if host = "localhost" then return fileUrl "" [] rest
  let reading := readPathAfterHost "file" rest
  return finish "file" (some (fileAuthority (if reading.drive then "" else host))) reading

/-- The fragment of a text that starts with `#`, on an URL without one. -/
def readFragmentOnly (base : Url) (text : List Char) : Url :=
  { base with fragment := some (encodeFragment (text.drop 1)) }

def readQueryOnly (base : Url) (text : List Char) : Url :=
  let (query, fragment) := readTail (isSpecial base.scheme) text
  { base with query := query, fragment := fragment }

/-- Reads what follows `file:`, or a reference against a `file` URL. -/
def readFile (base : Option Url) (text : List Char) : Except UrlError Url :=
  let isSlash (c : Char) : Bool := c = '/' || c = '\\'
  match text with
  | first :: rest =>
    if isSlash first then
      if rest.head?.any isSlash then readFileHost (rest.drop 1)
      else
        match base with
        | some base =>
          let drive := firstSegment base.path.text.toList
          if startsWithDrive rest then .ok (fileUrl "" [] text)
          -- A path that starts at the root stays on the drive of the base.
          else if isNormalDriveLetter drive then .ok (fileUrl "" ('/' :: drive) text)
          else .ok (fileUrl ((base.authority.map (·.host)).getD "") [] text)
        | none => .ok (fileUrl "" [] text)
    else
      match base with
      | none => .ok (fileUrl "" ['/'] text)
      | some base =>
        if first = '?' then .ok (readQueryOnly base text)
        else if first = '#' then .ok (readFragmentOnly base text)
        else if startsWithDrive text then .ok (fileUrl "" ['/'] text)
        else
          .ok (finish "file" base.authority
            (readPath true true (dropLastSegment true base.path.text.toList) text))
  | [] =>
    match base with
    | some base => .ok { base with fragment := none }
    | none => .ok (fileUrl "" ['/'] [])

/-- Reads a reference against a base that is neither opaque nor a `file` URL. -/
def readRelative (base : Url) (text : List Char) : Except UrlError Url :=
  let special := isSpecial base.scheme
  let isSlash (c : Char) : Bool := c = '/' || c = '\\'
  match text with
  | [] => .ok { base with fragment := none }
  | '?' :: _ => .ok (readQueryOnly base text)
  | '#' :: _ => .ok (readFragmentOnly base text)
  | first :: rest =>
    if isSlash first then
      match text with
      | '/' :: '/' :: after => readAfterSlashes base.scheme after
      | _ =>
        if rest.head?.any isSlash then
          readAfterSlashes base.scheme (text.dropWhile isSlash)
        else .ok (finish base.scheme base.authority (readPath special false ['/'] rest))
    else
      let path := (splitLastSlash base.path.text.toList).1
      .ok (finish base.scheme base.authority
        (readPath special false (if path.isEmpty then ['/'] else path) text))

def readOther (scheme : String) (text : List Char) : Except UrlError Url :=
  match text with
  | '/' :: '/' :: rest => readAfterSlashes scheme rest
  | '/' :: rest => .ok (finish scheme none (readPath false false ['/'] rest))
  | _ =>
    let ends (c : Char) : Bool := c = '?' || c = '#'
    let path := text.takeWhile fun c => !ends c
    let (query, fragment) := readTail false (text.drop path.length)
    .ok ⟨fragment, .plain (String.ofList (Percent.encode [] path)), query, none, scheme⟩

def readAfterScheme (base : Option Url) (scheme : String) (text : List Char) :
    Except UrlError Url :=
  let sameScheme := base.filter fun u => u.scheme = scheme
  if scheme = "file" then readFile sameScheme text
  else if isSpecial scheme then
    let isSlash (c : Char) : Bool := c = '/' || c = '\\'
    let slashes := text.takeWhile isSlash
    match sameScheme with
    | some base =>
      -- Under the scheme of its base, a reference names an authority only after two slashes.
      if slashes.length < 2 then readRelative base text
      else readAfterSlashes scheme (text.drop slashes.length)
    | none => readAfterSlashes scheme (text.drop slashes.length)
  else readOther scheme text

/-- Reads a URL reference against a base, or an absolute URL if there is no base. -/
def parseWith (base : Option Url) (text : String) : Except UrlError Url :=
  let text := prepare text
  match splitScheme? text with
  | some (scheme, rest) => readAfterScheme base scheme rest
  | none =>
    match base with
    | none => .error .relativeWithoutBase
    | some base =>
      if text.head? = some '#' then .ok (readFragmentOnly base text)
      else if base.isOpaque then .error .relativeWithOpaqueBase
      else if base.scheme = "file" then readFile (some base) text
      else readRelative base text

def parse (text : String) : Except UrlError Url := parseWith none text

def resolve (base : Url) (reference : String) : Except UrlError Url :=
  parseWith (some base) reference

end SchemaRegistry.Url

import SchemaRegistry.Url.Basic

/-!
Paths of segments. A path is read segment by segment onto the path of the base, and the segments `.`
and `..` are resolved on the way, in their percent-encoded spellings too. In a `file` URL the first
segment may name a drive, which `..` never removes.
-/

namespace SchemaRegistry.Url

def pathEscapes : List Char := fragmentEscapes ++ ['#', '?', '{', '}']

def isDriveLetter : List Char → Bool
  | [letter, mark] => letter.isAlpha && (mark = ':' || mark = '|')
  | _ => false

def isNormalDriveLetter : List Char → Bool
  | [letter, ':'] => letter.isAlpha
  | _ => false

def endsSegment (c : Char) : Bool := c = '/' || c = '\\' || c = '?' || c = '#'

/-- Whether a text starts with a drive and nothing else in its first segment. -/
def startsWithDrive : List Char → Bool
  | letter :: mark :: rest =>
    letter.isAlpha && (mark = ':' || mark = '|') && (rest.head?.all endsSegment)
  | _ => false

/-- The text up to its last slash, which belongs to it, and the text after that. -/
def splitLastSlash (path : List Char) : List Char × List Char :=
  let last := (path.reverse.takeWhile (· ≠ '/')).reverse
  (path.take (path.length - last.length), last)

/-- Removes the last segment of a path unless it names a drive. -/
def dropLastSegment (file : Bool) (path : List Char) : List Char :=
  let (before, last) := splitLastSlash path
  if file && isNormalDriveLetter last then path else before

def isDot (segment : List Char) : Bool :=
  [".", "%2e", "%2E"].contains (String.ofList segment)

def isDoubleDot (segment : List Char) : Bool :=
  ["..", "%2e.", "%2E.", ".%2e", ".%2E", "%2e%2e", "%2e%2E", "%2E%2e", "%2E%2E"].contains
    (String.ofList segment)

/-- The path with its last slash removed, unless that is the slash of the root or of a drive. -/
def dropLastSlash (path : List Char) : List Char :=
  match splitLastSlash path with
  | (before, []) =>
    let shorter := before.dropLast
    let previous := (splitLastSlash shorter).2
    if shorter.contains '/' && !startsWithDrive (previous ++ ['/']) then shorter else path
  | _ => path

/-- Adds a segment that is already encoded to a path that ends with a slash. `more` says that a
slash follows the segment. -/
def addSegment (file more : Bool) (path segment : List Char) : List Char :=
  let slash := if more then ['/'] else []
  if isDoubleDot segment then
    let shorter := dropLastSegment file (dropLastSlash path)
    if more && shorter.getLast? ≠ some '/' then shorter ++ ['/'] else shorter
  else if isDot segment then path
  else if file && path.length = 1 && isDriveLetter segment then
    path ++ segment.take 1 ++ [':'] ++ slash
  else path ++ segment ++ slash

/-- Whether adding the segment makes a `file` URL forget its host: its first segment is a drive. -/
def namesDrive (file : Bool) (path segment : List Char) : Bool :=
  file && path.length = 1 && isDriveLetter segment && !isDoubleDot segment && !isDot segment

structure PathReading where
  path : List Char
  drive : Bool
  rest : List Char

/-- Reads segments onto `path`. `segment` holds the segment so far, encoded. A path that is a drive
without a slash gets one before anything is added to it. -/
def readSegments (special file : Bool) (path segment : List Char) (drive : Bool) :
    List Char → PathReading
  | [] => ⟨addSegment file false path segment, drive || namesDrive file path segment, []⟩
  | c :: rest =>
    if c = '/' || (special && c = '\\') then
      readSegments special file (addSegment file true path segment) []
        (drive || namesDrive file path segment) rest
    else if c = '?' || c = '#' then
      ⟨addSegment file false path segment, drive || namesDrive file path segment, c :: rest⟩
    else
      let path := if file && isNormalDriveLetter (path.drop 1) then path ++ ['/'] else path
      readSegments special file path (segment ++ Percent.encodeChar pathEscapes c) drive rest

/-- Reads the segments at the start of a text onto a path. In a `file` URL, slashes at the start of
the result are reduced to one. -/
def readPath (special file : Bool) (path text : List Char) : PathReading :=
  let reading := readSegments special file path [] false text
  if file then { reading with path := '/' :: reading.path.dropWhile (· = '/') } else reading

end SchemaRegistry.Url

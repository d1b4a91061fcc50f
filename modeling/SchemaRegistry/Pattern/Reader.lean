import SchemaRegistry.Pattern.Expression
import SchemaRegistry.Text.Hex

/-!
The state in which a pattern is read, and the readers of its smallest parts: blanks, numbers and
names. A reader that fails leaves the state as it was, so another can be tried in its place.
-/

namespace SchemaRegistry.Pattern

/-- The flags that a pattern can set from some place on. -/
structure Flags where
  ignoreCase : Bool := false
  multiLine : Bool := false
  dotMatchesAll : Bool := false
  swapGreed : Bool := false
  extended : Bool := false
  deriving DecidableEq, Inhabited

def Flags.switch? (f : Flags) (on : Bool) : Char → Option Flags
  | 'i' => some { f with ignoreCase := on }
  | 'm' => some { f with multiLine := on }
  | 's' => some { f with dotMatchesAll := on }
  | 'U' => some { f with swapGreed := on }
  | 'x' => some { f with extended := on }
  | 'u' => if on then some f else none
  | _ => none

/-- What is known in the middle of a pattern. -/
structure Reading where
  rest : List Char
  /-- The numbers of groups that a reference may name are below this. -/
  numberLimit : Nat
  flags : Flags := {}
  opened : Nat := 0
  /-- The groups with a name, the last one first. -/
  names : List (List Char × Nat) := []
  referenced : List Nat := []
  /-- Whether a group has been referred to by its number. -/
  numbered : Bool := false

abbrev Reader := StateT Reading Option

namespace Reader

def remaining : Reader Nat := return (← get).rest.length

def flags : Reader Flags := return (← get).flags

def peek? : Reader (Option Char) := return (← get).rest.head?

def skip (n : Nat) : Reader Unit := modify fun s => { s with rest := s.rest.drop n }

def next : Reader Char := do
  let c :: rest := (← get).rest | failure
  modify fun s => { s with rest }
  return c

/-- Consumes the text if it comes next, and says whether it did. -/
def accept (text : List Char) : Reader Bool := do
  if text.isPrefixOf (← get).rest then
    skip text.length
    return true
  else
    return false

def expect (text : List Char) : Reader Unit := do
  unless ← accept text do failure

def takeWhile (p : Char → Bool) : Reader (List Char) := do
  let text := (← get).rest.takeWhile p
  skip text.length
  return text

/-- Where characters mean nothing: outside of remarks, in one up to the end of the line, and in one
in parentheses. -/
inductive Blank where
  | outside
  | line
  | parentheses

/-- Drops remarks and, in extended patterns, blanks. -/
def dropBlanks? (extended : Bool) : Blank → List Char → Option (List Char)
  | .outside, '(' :: '?' :: '#' :: rest => dropBlanks? extended .parentheses rest
  | .outside, c :: rest =>
    if extended && c = '#' then dropBlanks? extended .line rest
    else if extended && [' ', '\r', '\n', '\t'].contains c then dropBlanks? extended .outside rest
    else some (c :: rest)
  | .outside, [] => some []
  | .line, '\n' :: rest => dropBlanks? extended .outside rest
  | .line, _ :: rest => dropBlanks? extended .line rest
  | .line, [] => some []
  | .parentheses, ')' :: rest => dropBlanks? extended .outside rest
  | .parentheses, '\\' :: _ :: rest => dropBlanks? extended .parentheses rest
  | .parentheses, _ :: rest => dropBlanks? extended .parentheses rest
  | .parentheses, [] => none

def skipBlanks : Reader Unit := do
  let s ← get
  let some rest := dropBlanks? s.flags.extended .outside s.rest | failure
  set { s with rest }

def close : Reader Unit := do
  skipBlanks
  expect [')']

/-- The numbers in a pattern are below this. -/
def numberBound : Nat := Nat.pow 2 64

def decimal? (digits : List Char) : Option Nat := do
  let n ← Hex.digits? 10 digits
  if digits.isEmpty || numberBound ≤ n then none else some n

def number : Reader Nat := do
  let some n := decimal? (← takeWhile Char.isDigit) | failure
  return n

/-- The characters beyond ASCII that names consist of. -/
def nameCharacters : CodePointSet :=
  ((Unicode.property? "alphabetic").getD .empty).union (Unicode.categories ["nd", "nl", "no"])

def isNameCharacter (c : Char) : Bool :=
  c.isAlphanum || c = '_' || (128 ≤ c.toNat && nameCharacters.contains c.toNat)

def name (opening closing : List Char) : Reader (List Char) := do
  expect opening
  let text ← takeWhile isNameCharacter
  if text.isEmpty then failure
  expect closing
  return text

def openGroup : Reader Nat := do
  modify fun s => { s with opened := s.opened + 1 }
  return (← get).opened

def nameGroup (text : List Char) (group : Nat) : Reader Unit :=
  modify fun s => { s with names := (text, group) :: s.names }

def groupNumber : Reader Nat := do
  let n ← number
  if (← get).numberLimit ≤ n then failure
  modify fun s => { s with numbered := true }
  return n

/-- Reads how far before this place a group was opened, between two marks. -/
def groupBefore (opening closing : List Char) : Reader Nat := do
  expect opening
  expect ['-']
  let distance ← number
  expect closing
  let opened := (← get).opened
  if distance = 0 || opened < distance then failure
  return opened + 1 - distance

def groupNamed (opening closing : List Char) : Reader Nat := do
  let text ← name opening closing
  let some n := (← get).names.lookup text <|> decimal? text | failure
  return n

def groupBetween (opening closing : List Char) : Reader Nat :=
  groupNamed opening closing <|> groupBefore opening closing

def openedGroup (group : Nat) : Reader Nat := do
  if (← get).opened < group then failure
  return group

/-- A reference to an opened group. The whole match counts as the group with the number 0, which is
still open. -/
def reference (group : Nat) : Reader Expression := .reference <$> openedGroup group

end Reader

end SchemaRegistry.Pattern

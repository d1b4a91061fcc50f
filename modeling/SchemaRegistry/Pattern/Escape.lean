import SchemaRegistry.Pattern.Bracket
import SchemaRegistry.Pattern.Reader

/-!
What a backslash and the characters after it stand for, and the reading of brackets, which can hold
such escapes too. A bracket is first spelled out as a text without the escapes that
`Bracket.ofText?` does not know.
-/

namespace SchemaRegistry.Pattern

inductive Escape where
  | char (c : Char) (ignoreCase : Bool)
  /-- A set of characters, as a text that denotes it. -/
  | named (text : List Char)
  /-- Something that a bracket cannot hold. -/
  | outer (e : Expression)

namespace Escape

def outer? : Char → Option Expression
  | 'A' => some (.assertion .startOfText)
  | 'z' => some (.assertion .endOfText)
  | 'b' => some (.assertion .wordBoundary)
  | 'B' => some (.assertion .noWordBoundary)
  | '<' => some (.assertion .startOfWord)
  | '>' => some (.assertion .endOfWord)
  | 'K' => some .keepOut
  | 'G' => some .searchStart
  | _ => none

def control? : Char → Option Char
  | 'a' => some '\x07'
  | 'b' => some '\x08'
  | 't' => some '\t'
  | 'n' => some '\n'
  | 'v' => some '\x0b'
  | 'f' => some '\x0c'
  | 'r' => some '\r'
  | 'e' => some '\x1b'
  | _ => none

/-- The meaning of a character that stands for a character. Letters stand for themselves only if
they mean something else outside of brackets. -/
def plain? (c : Char) : Option Escape :=
  match control? c with
  | some control => some (.char control false)
  | none =>
    if c.isAlpha && c ≠ 'k' && (outer? c).isNone then none else some (.char c false)

end Escape

namespace Reader

/-- Reads hexadecimal digits: a given number of them, or one to eight in braces. -/
def hexDigits (count : Nat) : Reader (List Char) := do
  let digits := (← get).rest.take count
  if digits.length = count && digits.all Hex.isDigit then
    skip count
    return digits
  else
    expect ['\x7b']
    let digits ← takeWhile Hex.isDigit
    if digits.isEmpty || 8 < digits.length then failure
    expect ['\x7d']
    return digits

def codePoint (count : Nat) : Reader Escape := do
  let n := Hex.number (← hexDigits count)
  unless n.isValidChar do failure
  return .char (Char.ofNat n) (← flags).ignoreCase

def propertyName : Reader (List Char) := do
  let c ← next
  if c = '\x7b' then
    let text ← takeWhile (· ≠ '\x7d')
    expect ['\x7d']
    return c :: text ++ ['\x7d']
  else
    return [c]

def escape (inBracket : Bool) : Reader Escape := do
  if (← peek?).any Char.isDigit then
    return .outer (← reference (← groupNumber))
  let c ← next
  match c, if inBracket then none else Escape.outer? c with
  | _, some e =>
    if (c = 'b' || c = 'B') && (← peek?) = some '\x7b' then failure
    return .outer e
  | 'k', none =>
    if inBracket then return .char c false
    return .outer (← reference (← groupBetween ['\''] ['\''] <|> groupBetween ['<'] ['>']))
  | 'd', none | 'D', none | 's', none | 'S', none | 'w', none | 'W', none => return .named ['\\', c]
  | 'h', none => return .named "[0-9A-Fa-f]".toList
  | 'H', none => return .named "[^0-9A-Fa-f]".toList
  | 'x', none => codePoint 2
  | 'u', none => codePoint 4
  | 'U', none => codePoint 8
  | 'p', none | 'P', none => return .named ('\\' :: c :: (← propertyName))
  | _, none =>
    let some e := Escape.plain? c | failure
    return e

/-- A set as an expression. If case is to be ignored it is written as a group with a flag. -/
def ofNested (ignoreCase : Bool) (s : Bracket.Nested) : Expression :=
  .set s.members (if ignoreCase then s.nesting + 1 else s.nesting)

def oneOf (ignoreCase : Bool) (c : Char) : Expression :=
  ofNested ignoreCase (.flat (Bracket.foldIf ignoreCase (.single c.toNat)))

def setOf (text : List Char) : Reader Expression := do
  let ignoreCase := (← flags).ignoreCase
  let some s := Bracket.ofText? ignoreCase text | failure
  return ofNested ignoreCase s

/-- Reads an escape outside of brackets after its backslash, and notes to which group it refers. -/
def escaped : Reader Expression := do
  match ← escape false with
  | .char c ignoreCase => return oneOf ignoreCase c
  | .named text => setOf text
  | .outer (.reference group) =>
    modify fun s => { s with referenced := group :: s.referenced }
    return .reference group
  | .outer e => return e

/-- The characters that need a backslash in a bracket to stand for themselves. -/
def specialCharacters : List Char := "\\.+*?()|[]\x7b\x7d^$#&-~".toList

def bracketCharacter (c : Char) : List Char :=
  if specialCharacters.contains c then ['\\', c] else [c]

def bracketEscape : Reader (List Char) := do
  match ← escape true with
  | .char c _ => return bracketCharacter c
  | .named text => return text
  | .outer _ => failure

/-- Spells out a bracket up to the closing character of the outermost of `depth + 1` brackets.
`steps` bounds the number of characters. -/
def bracketText (depth : Nat) : (steps : Nat) → Reader (List Char)
  | 0 => failure
  | steps + 1 => do
    match ← next with
    | '\\' => return (← bracketEscape) ++ (← bracketText depth steps)
    | '[' => return '[' :: (← bracketText (depth + 1) steps)
    | ']' =>
      match depth with
      | 0 => return [']']
      | depth + 1 => return ']' :: (← bracketText depth steps)
    | c => return c :: (← bracketText depth steps)

def optionally (text : List Char) : Reader (List Char) := do
  return if ← accept text then text else []

/-- Reads a bracket after its opening character. A closing bracket at its very beginning stands for
itself. -/
def bracket : Reader Expression := do
  let sign ← optionally ['^']
  let first ← optionally [']']
  let text ← bracketText 0 (← remaining)
  setOf ('[' :: sign ++ first ++ text)

end Reader

end SchemaRegistry.Pattern

/-!
The dialect in which schemas write regular expressions, spelled out for a matcher that reads the
character classes of all scripts. Control escapes become the characters that they stand for, and the
escapes for digits, word characters and blanks become the sets of characters that they mean here.

The two steps look at the text one after the other: `expandControls` takes every `\c` with a letter
for a control escape, and `expandClasses` then reads what is left as pairs of a backslash and the
character after it.
-/

namespace SchemaRegistry.Dialect

def control (letter : Char) : Char := Char.ofNat (letter.toUpper.toNat - 64)

/-- Replaces every `\c` that a letter follows by the control character of the letter. -/
def expandControls : List Char → List Char
  | '\\' :: 'c' :: letter :: rest =>
    if letter.isAlpha then control letter :: expandControls rest
    else '\\' :: 'c' :: expandControls (letter :: rest)
  | c :: rest => c :: expandControls rest
  | [] => []

def blanks : List Char :=
  [' ', '\t', '\n', '\r', '\x0b', '\x0c', '\u2003', '\ufeff', '\u2029', '\u00a0']

def bracketed (complement : Bool) (members : List Char) : List Char :=
  '[' :: ((if complement then ['^'] else []) ++ members ++ [']'])

/-- The text for an escape that names a class of characters. -/
def classOf? : Char → Option (List Char)
  | 'd' => some (bracketed false ['0', '-', '9'])
  | 'D' => some (bracketed true ['0', '-', '9'])
  | 'w' => some (bracketed false "A-Za-z0-9_".toList)
  | 'W' => some (bracketed true "A-Za-z0-9_".toList)
  | 's' => some (bracketed false blanks)
  | 'S' => some (bracketed true blanks)
  | _ => none

/-- Replaces every escape that names a class, and keeps every other escape as it is. -/
def expandClasses : List Char → List Char
  | '\\' :: c :: rest => (classOf? c).getD ['\\', c] ++ expandClasses rest
  | c :: rest => c :: expandClasses rest
  | [] => []

/-- The regular expression that a pattern of a schema stands for. -/
def expand (pattern : List Char) : List Char := expandClasses (expandControls pattern)

end SchemaRegistry.Dialect

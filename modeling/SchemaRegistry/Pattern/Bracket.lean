import SchemaRegistry.Unicode.CaseFolding
import SchemaRegistry.Unicode.Lookup

/-!
Sets of characters in brackets. A bracket holds characters, ranges, named sets and brackets of its
own; what stands in it is united. Sets can also be intersected with `&&`, subtracted with `--` and
combined with `~~` to those in exactly one of them, all from left to right.

A set is read together with its nesting, since the engine bounds how deep brackets, unions of
several parts and operations lie in one another.
-/

namespace SchemaRegistry.Bracket

inductive Operation where
  | intersection
  | difference
  | symmetricDifference
  deriving DecidableEq

def Operation.apply : Operation → CodePointSet → CodePointSet → CodePointSet
  | intersection => .inter
  | difference => .difference
  | symmetricDifference => .symmetricDifference

def foldIf (ignoreCase : Bool) (s : CodePointSet) : CodePointSet :=
  if ignoreCase then Unicode.closeUnderCase s else s

/-- The sets that `[:name:]` denotes. -/
def asciiClass? (name : String) : Option CodePointSet :=
  match name with
  | "alnum" => some (.ofText "30-39 41-5A 61-7A")
  | "alpha" => some (.ofText "41-5A 61-7A")
  | "ascii" => some (.ofText "0-7F")
  | "blank" => some (.ofText "9 20")
  | "cntrl" => some (.ofText "0-1F 7F")
  | "digit" => some (.ofText "30-39")
  | "graph" => some (.ofText "21-7E")
  | "lower" => some (.ofText "61-7A")
  | "print" => some (.ofText "20-7E")
  | "punct" => some (.ofText "21-2F 3A-40 5B-60 7B-7E")
  | "space" => some (.ofText "9-D 20")
  | "upper" => some (.ofText "41-5A")
  | "word" => some (.ofText "30-39 41-5A 5F 61-7A")
  | "xdigit" => some (.ofText "30-39 41-46 61-66")
  | _ => none

/-- Reads `:name:]` or `:^name:]`, the rest of an ASCII class after its bracket. -/
def readAsciiClass? (ignoreCase : Bool) (text : List Char) :
    Option (CodePointSet × List Char) := do
  let ':' :: text := text | none
  let (negated, text) := match text with
    | '^' :: rest => (true, rest)
    | _ => (false, text)
  let name := text.takeWhile (· ≠ ':')
  let ':' :: ']' :: rest := text.drop name.length | none
  let set ← asciiClass? (String.ofList name)
  return (Unicode.orComplement negated (foldIf ignoreCase set), rest)

/-- Reads what follows `\p` or `\P`: one letter, or a name in braces. -/
def readProperty? (ignoreCase negated : Bool) (text : List Char) :
    Option (CodePointSet × List Char) :=
  match text with
  | '\x7b' :: rest => do
    let name := rest.takeWhile (· ≠ '\x7d')
    let _ :: rest := rest.drop name.length | none
    let (inverted, set) ← Unicode.query? name
    return (Unicode.orComplement (negated != inverted) (foldIf ignoreCase set), rest)
  | '\\' :: _ => none
  | c :: rest => do
    let set ← Unicode.category? (Unicode.normalizeName [c])
    return (Unicode.orComplement negated (foldIf ignoreCase set), rest)
  | [] => none

def decimalDigits : CodePointSet := Unicode.categories ["nd"]

def whiteSpace : CodePointSet := (Unicode.property? "whitespace").getD .empty

def readNamed? (ignoreCase : Bool) (text : List Char) : Option (CodePointSet × List Char) :=
  match text with
  | 'p' :: rest => readProperty? ignoreCase false rest
  | 'P' :: rest => readProperty? ignoreCase true rest
  | 'd' :: rest => some (decimalDigits, rest)
  | 'D' :: rest => some (decimalDigits.complement, rest)
  | 's' :: rest => some (whiteSpace, rest)
  | 'S' :: rest => some (whiteSpace.complement, rest)
  | 'w' :: rest => some (Unicode.word, rest)
  | 'W' :: rest => some (Unicode.word.complement, rest)
  | _ => none

/-- A part of a bracket before it is known whether it starts a range. -/
inductive Primitive where
  | char (c : Char)
  | set (s : CodePointSet)

def Primitive.members : Primitive → CodePointSet
  | char c => .single c.toNat
  | set s => s

def readPrimitive? (ignoreCase : Bool) : List Char → Option (Primitive × List Char)
  | '\\' :: c :: rest =>
    if c.isAlpha then (readNamed? ignoreCase (c :: rest)).map fun (s, rest) => (.set s, rest)
    else if c.isDigit then none
    else some (.char c, rest)
  | ['\\'] => none
  | c :: rest => some (.char c, rest)
  | [] => none

/-- Reads one part, or a range of characters. A hyphen that a closing bracket or another hyphen
follows makes no range. -/
def readRange? (ignoreCase : Bool) (text : List Char) : Option (CodePointSet × List Char) := do
  let (first, rest) ← readPrimitive? ignoreCase text
  match rest with
  | '-' :: ']' :: _ => return (first.members, rest)
  | '-' :: '-' :: _ => return (first.members, rest)
  | '-' :: upper =>
    let (second, rest) ← readPrimitive? ignoreCase upper
    match first, second with
    | .char low, .char high =>
      if low.toNat ≤ high.toNat then return (.range low.toNat high.toNat, rest) else none
    | _, _ => none
  | _ => return (first.members, rest)

/-- A set that was read, and how deep what it was read from is nested. -/
structure Nested where
  members : CodePointSet
  nesting : Nat

def Nested.flat (members : CodePointSet) : Nested := ⟨members, 0⟩

/-- The union of the parts between two operations. One part alone is no union. -/
def Nested.union (parts : List Nested) : Nested :=
  let deepest := parts.foldl (fun deepest part => max deepest part.nesting) 0
  ⟨parts.foldl (fun members part => members.union part.members) .empty,
    if parts.length ≤ 1 then deepest else deepest + 1⟩

/-- What has been read of a bracket: the operand on the left of the last operation, and the parts
that came after it, the last one first. -/
structure Contents where
  left : Option (Nested × Operation)
  parts : List Nested

def Contents.value (ignoreCase : Bool) (c : Contents) : Nested :=
  let right := Nested.union c.parts.reverse
  match c.left with
  | none => right
  | some (left, operation) =>
    ⟨operation.apply (foldIf ignoreCase left.members) (foldIf ignoreCase right.members),
      max left.nesting right.nesting + 1⟩

def Contents.add (c : Contents) (part : Nested) : Contents := { c with parts := part :: c.parts }

def Contents.operate (ignoreCase : Bool) (c : Contents) (operation : Operation) : Contents :=
  ⟨some (c.value ignoreCase, operation), []⟩

/-- Splits off the hyphens, and after none of them a closing bracket, that open a bracket and stand
for themselves. -/
def readOpening (text : List Char) : List Nested × List Char :=
  match text with
  | '-' :: _ =>
    ((text.takeWhile (· = '-')).map fun c => .flat (.single c.toNat), text.dropWhile (· = '-'))
  | ']' :: rest => ([.flat (.single ']'.toNat)], rest)
  | _ => ([], text)

mutual

/-- Reads a bracket after its opening character. `steps` bounds the number of parts and is at least
the length of the text. -/
def readBracket? (ignoreCase : Bool) (steps : Nat) (text : List Char) :
    Option (Nested × List Char) :=
  match steps with
  | 0 => none
  | steps + 1 => do
    let (negated, text) := match text with
      | '^' :: rest => (true, rest)
      | _ => (false, text)
    let (opening, text) := readOpening text
    let (contents, rest) ← readContents? ignoreCase steps ⟨none, opening⟩ text
    let value := contents.value ignoreCase
    let members := Unicode.orComplement negated (foldIf ignoreCase value.members)
    return (⟨members, value.nesting + 1⟩, rest)

def readContents? (ignoreCase : Bool) (steps : Nat) (contents : Contents) (text : List Char) :
    Option (Contents × List Char) :=
  match steps with
  | 0 => none
  | steps + 1 =>
    match text with
    | [] => none
    | ']' :: rest => some (contents, rest)
    | '[' :: rest =>
      match readAsciiClass? ignoreCase rest with
      | some (set, rest) => readContents? ignoreCase steps (contents.add (.flat set)) rest
      | none => do
        let (part, rest) ← readBracket? ignoreCase steps rest
        readContents? ignoreCase steps (contents.add part) rest
    | '&' :: '&' :: rest =>
      readContents? ignoreCase steps (contents.operate ignoreCase .intersection) rest
    | '-' :: '-' :: rest =>
      readContents? ignoreCase steps (contents.operate ignoreCase .difference) rest
    | '~' :: '~' :: rest =>
      readContents? ignoreCase steps (contents.operate ignoreCase .symmetricDifference) rest
    | _ => do
      let (set, rest) ← readRange? ignoreCase text
      readContents? ignoreCase steps (contents.add (.flat set)) rest

end

def ofText? (ignoreCase : Bool) (text : List Char) : Option Nested := do
  let (value, rest) ← match text with
    | '[' :: rest => readBracket? ignoreCase (2 * text.length) rest
    | '\\' :: rest => (readNamed? ignoreCase rest).map fun (set, rest) => (.flat set, rest)
    | _ => none
  if rest.isEmpty then some value else none

end SchemaRegistry.Bracket

import SchemaRegistry.Unicode.CompositionTable

/-!
The composed normal form of a text: characters are taken apart, marks are put into the order of
their combining classes, and then every character is joined with the marks that it composes with.
-/

namespace SchemaRegistry.Unicode

def combiningClasses : List (Nat × CodePointSet) :=
  combiningClassRows.map fun row => (row.1, .ofLines row.2)

/-- The combining class of a code point, which is zero for characters that are no marks. -/
def combiningClass (n : Nat) : Nat :=
  if n < 0x300 then 0
  else match combiningClasses.find? fun entry => entry.2.contains n with
    | some entry => entry.1
    | none => 0

/-- Reads `FIRST,SECOND>COMPOSED`. -/
def readComposition (text : String) : (Nat × Nat) × Nat :=
  match text.splitOn ">" with
  | [parts, composed] =>
    match parts.splitOn "," with
    | [first, second] =>
      ((Hex.number first.toList, Hex.number second.toList), Hex.number composed.toList)
    | _ => ((0, 0), 0)
  | _ => ((0, 0), 0)

def compositions : List ((Nat × Nat) × Nat) :=
  compositionLines.flatMap fun line => (line.splitOn " ").map readComposition

def syllableBase : Nat := 0xAC00

/-- The number of syllables with the same leading consonant and vowel. -/
def syllableTails : Nat := 28

/-- The composition of two code points: by arithmetic for Korean letters, else by the table. -/
def compose? (first second : Nat) : Option Nat :=
  if 0x1100 ≤ first && first ≤ 0x1112 && 0x1161 ≤ second && second ≤ 0x1175 then
    some (syllableBase + ((first - 0x1100) * 21 + (second - 0x1161)) * syllableTails)
  else if syllableBase ≤ first && first ≤ 0xD7A3 && (first - syllableBase) % syllableTails = 0 &&
      0x11A8 ≤ second && second ≤ 0x11C2 then
    some (first + (second - 0x11A7))
  else compositions.lookup (first, second)

/-- Takes a code point apart. A part may be composed in turn; no character has more than `depth`
layers when `depth` is four. -/
def decompose (depth : Nat) (n : Nat) : List Nat :=
  match depth with
  | 0 => [n]
  | depth + 1 =>
    if n < 0xC0 then [n]
    else if syllableBase ≤ n && n ≤ 0xD7A3 then
      let place := n - syllableBase
      let pair := [0x1100 + place / (21 * syllableTails), 0x1161 + place / syllableTails % 21]
      if place % syllableTails = 0 then pair else pair ++ [0x11A7 + place % syllableTails]
    else match compositions.find? fun entry => entry.2 = n with
      | some ((first, second), _) => decompose depth first ++ [second]
      | none => [n]

/-- Sorts the marks between two characters that are no marks by their classes, keeping the order of
marks of one class. `marks` holds the marks met since the last such character, the latest first. -/
def reorder (marks : List (Nat × Nat)) : List (Nat × Nat) → List (Nat × Nat)
  | [] => marks.reverse.mergeSort fun a b => a.2 ≤ b.2
  | entry :: rest =>
    if entry.2 = 0 then
      (marks.reverse.mergeSort fun a b => a.2 ≤ b.2) ++ entry :: reorder [] rest
    else reorder (entry :: marks) rest

/-- Joins `starter` with the marks that follow it. `pending` holds the marks that it did not compose
with, the latest first; a mark is reached only past marks of lower classes. -/
def joinMarks (starter : Nat) (pending : List (Nat × Nat)) : List (Nat × Nat) → List Nat
  | [] => starter :: (pending.reverse.map Prod.fst)
  | (n, cls) :: rest =>
    let reachable := match pending with
      | [] => true
      | (_, last) :: _ => last < cls
    match if reachable then compose? starter n else none with
    | some composed => joinMarks composed pending rest
    | none =>
      if cls = 0 then starter :: (pending.reverse.map Prod.fst) ++ joinMarks n [] rest
      else joinMarks starter ((n, cls) :: pending) rest

def splitLeadingMarks (text : List (Nat × Nat)) : List (Nat × Nat) × List (Nat × Nat) :=
  (text.takeWhile (·.2 ≠ 0), text.dropWhile (·.2 ≠ 0))

def composed (text : List Nat) : List Nat :=
  if text.all (· < 0x300) then text
  else
    let parts := (text.flatMap (decompose 4)).map fun n => (n, combiningClass n)
    let (marks, rest) := splitLeadingMarks (reorder [] parts)
    match rest with
    | [] => marks.map Prod.fst
    | (starter, _) :: rest => marks.map Prod.fst ++ joinMarks starter [] rest

end SchemaRegistry.Unicode

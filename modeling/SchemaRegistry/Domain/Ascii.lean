import SchemaRegistry.Domain.DirectionTable
import SchemaRegistry.Domain.MappingTable
import SchemaRegistry.Domain.Punycode
import SchemaRegistry.Unicode.Composition
import SchemaRegistry.Text.Utf8

/-!
Domain names in the form in which they are looked up: lower-case ASCII labels, with every other
label in its encoded form behind `xn--`. Names that contain characters which no label may hold have
no such form.
-/

namespace SchemaRegistry.Domain

def dropped : CodePointSet := .ofLines droppedLines

def refused : CodePointSet := .ofLines refusedLines

def replaced : CodePointMap := .ofLines replacedLines

/-- What a code point of a name becomes: nothing, others, itself; or no name can hold it. -/
def mapCodePoint? (n : Nat) : Option (List Nat) :=
  if n < 128 then some [if 65 ≤ n && n ≤ 90 then n + 32 else n]
  else if dropped.contains n then some []
  else match replaced.image? n with
    | some targets => some targets
    | none => if refused.contains n then none else some [n]

/-- The name with every code point mapped, in composed form. -/
def normalize? (name : List Nat) : Option (List Nat) := do
  let parts ← name.mapM mapCodePoint?
  return Unicode.composed parts.flatten

/-- ASCII characters besides controls that a host must not contain. -/
def forbidden : List Char :=
  [' ', '#', '/', ':', '<', '>', '?', '@', '[', '\\', ']', '^', '|', '%', '\x7f']

def isAllowed (n : Nat) : Bool := 0x1F < n && !(forbidden.map Char.toNat).contains n

def marks : CodePointSet := Unicode.categories ["mn", "mc", "me"]

/-- Marks without width of their own. -/
def nonspacing : CodePointSet := Unicode.categories ["mn", "me"]

/-- The characters over which letters join. -/
def transparent : CodePointSet := Unicode.categories ["mn", "me", "cf"]

def rightToLeft : CodePointSet := .ofLines rightToLeftLines

def arabicNumbers : CodePointSet := .ofLines arabicNumberLines

def europeanNumbers : CodePointSet := .ofLines europeanNumberLines

def neutrals : CodePointSet := .ofLines neutralLines

/-- Characters that neither direction admits. -/
def overridden : CodePointSet := .ofLines overriddenLines

def joinsBackward : CodePointSet :=
  (CodePointSet.ofLines joinsBothLines).union (.ofLines joinsRightLines)

def joinsForward : CodePointSet :=
  (CodePointSet.ofLines joinsBothLines).union (.ofLines joinsLeftLines)

/-- The combining class of marks that remove the vowel of a letter. -/
def viramaClass : Nat := 9

/-- Whether the joiner and non-joiner of a label stand after a vowel remover, or, for the
non-joiner, between two letters that would join. `before` holds the label up to here, reversed. -/
def joinersFit (before : List Nat) : List Nat → Bool
  | [] => true
  | n :: rest =>
    let afterVirama := match before with
      | last :: _ => Unicode.combiningClass last = viramaClass
      | [] => false
    let between :=
      (match before.dropWhile transparentJoin with
        | letter :: _ => joinsForward.contains letter
        | [] => false) &&
      (match rest.dropWhile transparentJoin with
        | letter :: _ => joinsBackward.contains letter
        | [] => false)
    -- U+200D is the joiner and U+200C the non-joiner.
    let fits :=
      if n = 0x200D then afterVirama else if n = 0x200C then afterVirama || between else true
    fits && joinersFit (n :: before) rest
where
  transparentJoin (n : Nat) : Bool :=
    n ≠ 0x200C && n ≠ 0x200D && transparent.contains n

def isLeftToRight (n : Nat) : Bool :=
  !(rightToLeft.contains n || arabicNumbers.contains n || europeanNumbers.contains n ||
    neutrals.contains n || nonspacing.contains n || overridden.contains n)

/-- Whether the directions of a label's characters fit together: it starts with a letter of one
direction, holds no letter of the other, and ends with a letter of its direction or a digit. -/
def directionsFit (label : List Nat) : Bool :=
  let last? := (label.reverse.dropWhile nonspacing.contains).head?
  match label, last? with
  | first :: _, some last =>
    if rightToLeft.contains first then
      label.all (fun n => !isLeftToRight n && !overridden.contains n) &&
        (rightToLeft.contains last || europeanNumbers.contains last ||
          arabicNumbers.contains last) &&
        !(label.any europeanNumbers.contains && label.any arabicNumbers.contains)
    else if isLeftToRight first then
      label.all (fun n =>
        !(rightToLeft.contains n || arabicNumbers.contains n || overridden.contains n)) &&
        (isLeftToRight last || europeanNumbers.contains last)
    else false
  | first :: _, none => rightToLeft.contains first || isLeftToRight first
  | [], _ => true

/-- Whether a code point makes the direction rules apply to a name. -/
def isBidirectional (n : Nat) : Bool := rightToLeft.contains n || arabicNumbers.contains n

/-- Whether a label that has been mapped or decoded may stand in a name. -/
def isValidLabel (label : List Nat) : Bool :=
  label.all isAllowed &&
    (label.all (· < 128) ||
      ((label.head?.all fun n => !marks.contains n) && joinersFit [] label))

def encodedMarker : List Nat := ("xn--".toList).map Char.toNat

/-- A label with its encoding undone. An encoded label must decode to a text that needs the encoding
and that mapping would leave as it is. -/
def decodeLabel? (label : List Nat) : Option (List Nat) :=
  if encodedMarker.isPrefixOf label then do
    let decoded ← Punycode.decode? ((label.drop encodedMarker.length).map Char.ofNat)
    if decoded.any (128 ≤ ·) && normalize? decoded = some decoded then some decoded else none
  else some label

def encodeLabel (label : List Nat) : List Char :=
  if label.all (· < 128) then label.map Char.ofNat
  else encodedMarker.map Char.ofNat ++ Punycode.encode label

def labels : List Nat → List (List Nat)
  | [] => [[]]
  | n :: rest =>
    if n = 0x2E then [] :: labels rest
    else match labels rest with
      | [] => [[n]]
      | first :: others => (n :: first) :: others

def toAscii? (name : List Char) : Option (List Char) := do
  let mapped ← normalize? (name.map Char.toNat)
  let decoded ← (labels mapped).mapM decodeLabel?
  let bidirectional := decoded.any fun label => label.any isBidirectional
  if decoded.all fun label => isValidLabel label && (!bidirectional || directionsFit label) then
    return (['.'] : List Char).intercalate (decoded.map encodeLabel)
  else none

end SchemaRegistry.Domain

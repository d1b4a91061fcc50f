import SchemaRegistry.Unicode.Property

/-!
Assertions about a place between two characters of a text. A place is given by the number of
characters before it.
-/

namespace SchemaRegistry.Pattern

inductive Assertion where
  | startOfText
  | endOfText
  | startOfLine
  | endOfLine
  | wordBoundary
  | noWordBoundary
  | startOfWord
  | endOfWord
  deriving DecidableEq, Inhabited

namespace Assertion

def wordAt (text : Array Char) (index : Nat) : Bool :=
  (text[index]?).any fun c => Unicode.word.contains c.toNat

/-- Whether the character before a place belongs to a word. -/
def wordBefore (text : Array Char) (place : Nat) : Bool :=
  place ≠ 0 && wordAt text (place - 1)

def aboutWords : Assertion → Bool
  | wordBoundary | noWordBoundary | startOfWord | endOfWord => true
  | startOfText | endOfText | startOfLine | endOfLine => false

def holds (text : Array Char) (place : Nat) : Assertion → Bool
  | startOfText => place = 0
  | endOfText => place = text.size
  | startOfLine => place = 0 || text[place - 1]? = some '\n'
  | endOfLine => place = text.size || text[place]? = some '\n'
  | wordBoundary => wordBefore text place != wordAt text place
  | noWordBoundary => wordBefore text place == wordAt text place
  | startOfWord => !wordBefore text place && wordAt text place
  | endOfWord => wordBefore text place && !wordAt text place

end Assertion

end SchemaRegistry.Pattern

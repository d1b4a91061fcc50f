import SchemaRegistry.Json.Equality
import Std.Data.HashMap

/-!
Lists that repeat no value. `Json.distinct` decides whether two items of a list are equal as data.
Short lists are compared pair by pair; the items of long ones are put into a hash table and compared
only with items of the same hash. What a value hands to a hash function is written out in pieces, so
that the hash functions themselves can be any functions of these.
-/

namespace SchemaRegistry

/-- A piece of what is handed to a hash function. -/
inductive Piece where
  | code (word : UInt32)
  | flag (value : Bool)
  | unsigned (word : UInt64)
  | signed (word : Int64)
  | text (value : String)
  deriving DecidableEq, Hashable

/-- The hash functions of a table of values: the one for the members of objects, whose results are
joined, and the one for the items of the table. -/
structure Hashing where
  member : List Piece → UInt64
  item : List Piece → UInt64

/-- The hash functions that `Json.distinct` uses. -/
protected def Hashing.default : Hashing := ⟨hash, hash⟩

/-- The interchange word of the double precision number that has the value of `x`. -/
def Binary64.word (x : Binary64) : UInt64 := .ofNat (ofRat x.value).bits

/-- What a double precision number hands to a hash function: an integer that fits 64 bits hands over
the integer, every other number the word that it is stored in. -/
def Binary64.piece (x : Binary64) : Piece :=
  if x.value.den = 1 ∧ 0 ≤ x.value ∧ x.value < (Nat.pow 2 64 : Nat) then
    .unsigned (.ofNat x.value.num.toNat)
  else if x.value.den = 1 ∧ x.value < 0 ∧ -(Nat.pow 2 63 : Nat) ≤ x.value then
    .signed (.ofInt x.value.num)
  else .unsigned x.word

def Number.piece : Number → Piece
  | integer n => if 0 ≤ n then .unsigned (.ofNat n.toNat) else .signed (.ofInt n)
  | double x => x.piece

namespace Json

mutual

/-- What a value hands to a hash function, given the one for the members of objects. An array hands
over what its items do, an object a single word. -/
def pieces (hashMember : List Piece → UInt64) : Json → List Piece
  | null => [.code 3221225473]
  | bool b => [.flag b]
  | number n => [n.piece]
  | string s => [.text s]
  | array items => piecesOfItems hashMember items
  | object members => [.unsigned (joinMembers hashMember members)]

def piecesOfItems (hashMember : List Piece → UInt64) : List Json → List Piece
  | [] => []
  | item :: rest => item.pieces hashMember ++ piecesOfItems hashMember rest

/-- Joins the hashes of members by an operation that does not depend on their order. -/
def joinMembers (hashMember : List Piece → UInt64) : List (String × Json) → UInt64
  | [] => 0
  | (key, value) :: rest =>
    hashMember (.text key :: value.pieces hashMember) ^^^ joinMembers hashMember rest

end

def hashBy (hashing : Hashing) (item : Json) : UInt64 := hashing.item (item.pieces hashing.member)

/-- No two items are equal, by comparing all pairs. -/
def distinctPairwise : List Json → Bool
  | [] => true
  | item :: rest => rest.all (fun other => !item.same other) && distinctPairwise rest

/-- No item equals another one or one in `seen`, which files earlier items by their hashes. -/
def distinctFrom (hashing : Hashing) (seen : Std.HashMap UInt64 (List Json)) : List Json → Bool
  | [] => true
  | item :: rest =>
    let earlier := seen.getD (item.hashBy hashing) []
    earlier.all (fun other => !item.same other) &&
      distinctFrom hashing (seen.insert (item.hashBy hashing) (item :: earlier)) rest

/-- The greatest length at which a list is compared pair by pair. -/
def pairwiseLimit : Nat := 15

/-- No two items of the list are equal as data. How this is found out depends on the length. -/
def distinctBy (hashing : Hashing) : List Json → Bool
  | [] => true
  | [_] => true
  | [first, second] => !first.same second
  | items =>
    if items.length ≤ pairwiseLimit then distinctPairwise items else distinctFrom hashing ∅ items

def distinct (items : List Json) : Bool := distinctBy .default items

end Json

end SchemaRegistry

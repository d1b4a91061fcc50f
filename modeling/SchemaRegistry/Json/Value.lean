import SchemaRegistry.Json.Number

/-!
JSON values. An object is the list of its members in the order of the text, with keys that are
pairwise different, so that the order in which a document was written is never lost.
-/

namespace SchemaRegistry

inductive Json where
  | null
  | bool (value : Bool)
  | number (value : Number)
  | string (value : String)
  | array (items : List Json)
  | object (members : List (String × Json))
  deriving Inhabited

namespace Json

def member? (key : String) : List (String × Json) → Option Json
  | [] => none
  | (name, value) :: rest => if name = key then some value else member? key rest

mutual

/-- The nesting height: zero for a scalar, and for a container one more than the highest child. -/
def height : Json → Nat
  | array items => heightItems items
  | object members => heightMembers members
  | _ => 0

/-- The least height of an array with these items. -/
def heightItems : List Json → Nat
  | [] => 1
  | item :: rest => max (item.height + 1) (heightItems rest)

/-- The least height of an object with these members. -/
def heightMembers : List (String × Json) → Nat
  | [] => 1
  | (_, value) :: rest => max (value.height + 1) (heightMembers rest)

end

end Json

end SchemaRegistry

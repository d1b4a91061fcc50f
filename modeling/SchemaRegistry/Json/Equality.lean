import SchemaRegistry.Json.Value

/-!
Equality of JSON values as data: numbers are compared by value and objects by their members in any
order.
-/

namespace SchemaRegistry.Json

mutual

/-- Equality of data: `1` equals `1.0`, and the order of object members does not matter. For objects
it is enough to look in one direction, since both have the same number of keys. -/
def same : Json → Json → Bool
  | null, null => true
  | bool a, bool b => a == b
  | number a, number b => a.value = b.value
  | string a, string b => a = b
  | array xs, array ys => sameItems xs ys
  | object ms, object ns => ms.length = ns.length && sameMembers ms ns
  | _, _ => false

def sameItems : List Json → List Json → Bool
  | [], [] => true
  | x :: xs, y :: ys => same x y && sameItems xs ys
  | _, _ => false

/-- Every member of the first list has an equal value in the second. -/
def sameMembers : List (String × Json) → List (String × Json) → Bool
  | [], _ => true
  | (key, value) :: rest, others =>
    (match member? key others with
      | some other => same value other
      | none => false) && sameMembers rest others

end

end SchemaRegistry.Json

import SchemaRegistry.Proofs.Json.Equality

/-!
What lies at a path in a value. A token names an item of an array by its decimal index and a member
of an object by its exact key, and a path names one after the other from the outside in. Nothing
lies at a path that leads into a scalar.
-/

namespace SchemaRegistry.Json

/-- The item or member that a token names. -/
def child? : Json → String → Option Json
  | array items, token => (items.zipIdx.find? fun entry => toString entry.2 = token).map Prod.fst
  | object members, token => member? token members
  | _, _ => none

/-- What lies at a path. -/
def at? : Json → List String → Option Json
  | value, [] => some value
  | value, token :: rest => (value.child? token).bind fun inner => inner.at? rest

/-- Each index has a token of its own. -/
@[simp] theorem repr_index_inj {m n : Nat} : m.repr = n.repr ↔ m = n := by
  refine ⟨fun htokens => ?_, congrArg Nat.repr⟩
  have hdigits : Nat.toDigits 10 m = Nat.toDigits 10 n := by
    rw [← Nat.toList_repr, ← Nat.toList_repr, htokens]
  rw [← Nat.ofDigitChars_ten_toDigits (n := m), hdigits, Nat.ofDigitChars_ten_toDigits]

@[simp] theorem child?_array (items : List Json) (index : Nat) :
    (array items).child? index.repr = items[index]? := by
  have hfind : ∀ (rest : List Json) (first : Nat), first ≤ index →
      ((rest.zipIdx first).find? fun entry => entry.2 = index).map Prod.fst =
        rest[index - first]? := by
    intro rest
    induction rest with
    | nil => simp
    | cons item rest ih =>
        intro first hfirst
        rw [List.zipIdx_cons, List.find?_cons]
        by_cases heq : first = index
        · simp [heq]
        · have hnext : index - first = index - (first + 1) + 1 := by omega
          simp [heq, hnext, ih (first + 1) (by omega)]
  simpa [child?] using hfind items 0 (Nat.zero_le index)

@[simp] theorem child?_object (members : List (String × Json)) (key : String) :
    (object members).child? key = member? key members := rfl

@[simp] theorem child?_string (text token : String) : (string text).child? token = none := rfl

@[simp] theorem at?_nil (value : Json) : value.at? [] = some value := rfl

@[simp] theorem at?_cons (value : Json) (token : String) (rest : List String) :
    value.at? (token :: rest) = (value.child? token).bind fun inner => inner.at? rest := rfl

theorem at?_append (value : Json) (first second : List String) :
    value.at? (first ++ second) = (value.at? first).bind fun inner => inner.at? second := by
  induction first generalizing value with
  | nil => rfl
  | cons token rest ih => simp [ih, Option.bind_assoc]

/-- What lies at a path of what lies at a path. -/
theorem at?_append_of_some {value inner : Json} {first : List String}
    (hinner : value.at? first = some inner) (second : List String) :
    value.at? (first ++ second) = inner.at? second := by
  rw [at?_append, hinner, Option.bind_some]

/-- In a string there is only the string itself. -/
theorem at?_string_iff {text : String} {path : List String} {inner : Json} :
    (string text).at? path = some inner ↔ path = [] ∧ inner = string text := by
  cases path with
  | nil => simp [eq_comm]
  | cons token rest => simp

/-- The items and members of a value without repeated keys have none either. -/
theorem keysDistinct_of_child? {value inner : Json} {token : String}
    (hvalue : value.keysDistinct = true) (hinner : value.child? token = some inner) :
    inner.keysDistinct = true := by
  cases value with
  | array items =>
      obtain ⟨entry, hentry, rfl⟩ := Option.map_eq_some_iff.mp hinner
      have hitem := List.fst_mem_of_mem_zipIdx (List.mem_of_find?_eq_some hentry)
      exact keysDistinct_of_mem_items hvalue hitem
  | object members =>
      exact keysDistinct_of_mem_members (keysDistinct_object hvalue).2 (mem_of_member? hinner)
  | _ => cases hinner

theorem keysDistinct_of_at? {value inner : Json} {path : List String}
    (hvalue : value.keysDistinct = true) (hinner : value.at? path = some inner) :
    inner.keysDistinct = true := by
  induction path generalizing value with
  | nil =>
      cases hinner
      exact hvalue
  | cons token rest ih =>
      obtain ⟨child, hchild, hrest⟩ := Option.bind_eq_some_iff.mp hinner
      exact ih (keysDistinct_of_child? hvalue hchild) hrest

/-- A member of an object without repeated keys lies at its key. -/
theorem child?_of_mem {members : List (String × Json)} {key : String} {value : Json}
    (hdistinct : (object members).keysDistinct = true) (hmember : (key, value) ∈ members) :
    (object members).child? key = some value :=
  member?_of_mem (keysDistinct_object hdistinct).1 hmember

end SchemaRegistry.Json

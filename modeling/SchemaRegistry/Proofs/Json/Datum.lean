import Mathlib.Data.Finset.Dedup
import SchemaRegistry.Proofs.Json.Proper

/-!
What a value says, apart from how it is written. The datum of a value has exact rationals for
numbers and finite maps for objects, so that neither the form of a number nor the order of members
is left in it. Values without repeated keys are equal as data exactly if they have the same datum,
and so equality of values is an equivalence. Numbers can be compared in the machine words that hold
them, since none of these loses a value.
-/

namespace SchemaRegistry

/-- What a value says. An object is a finite map: a finite set of keys with a datum for each. -/
inductive Datum where
  | null
  | bool (value : Bool)
  | number (value : Rat)
  | string (value : String)
  | array (items : List Datum)
  | object (keys : Finset String) (value : {key // key ∈ keys} → Datum)

/-- A machine word that holds a number. -/
inductive Number.Word where
  | unsigned (word : UInt64)
  | signed (word : Int64)
  | double (word : Binary64)

namespace Number

/-- The exact value of the number that a word holds. -/
def Word.value : Word → Rat
  | unsigned word => word.toNat
  | signed word => word.toInt
  | double word => word.value

/-- The word that holds a number: without a sign if it can be, with a sign otherwise. -/
def word : Number → Word
  | integer n => if 0 ≤ n then .unsigned (.ofNat n.toNat) else .signed (.ofInt n)
  | double x => .double x

/-- The word that holds a number loses nothing of it. -/
theorem word_value {n : Number} (hproper : n.proper = true) : n.word.value = n.value := by
  cases n with
  | double x => rfl
  | integer n =>
      have hbounds : -2 ^ 63 ≤ n ∧ n < 2 ^ 64 := of_decide_eq_true hproper
      rw [word]
      split
      · next hsign =>
          have hword : (UInt64.ofNat n.toNat).toNat = n.toNat :=
            UInt64.toNat_ofNat_of_lt (show n.toNat < 2 ^ 64 by omega)
          have hcast : ((n.toNat : Nat) : Int) = n := Int.toNat_of_nonneg hsign
          change (((UInt64.ofNat n.toNat).toNat : Nat) : Rat) = n
          rw [hword]
          exact_mod_cast hcast
      · next hsign =>
          have hword : (Int64.ofInt n).toInt = n :=
            Int64.toInt_ofInt_of_le (by omega) (by omega)
          change (((Int64.ofInt n).toInt : Int) : Rat) = n
          rw [hword]

end Number

namespace Datum

/-- What a finite map gives for a key; nothing is in data of other kinds. -/
def get? : Datum → String → Option Datum
  | object keys value, key => if h : key ∈ keys then some (value ⟨key, h⟩) else none
  | _, _ => none

/-- The finite map with the given members. Of several with one key the first counts. -/
def ofMembers (members : List (String × Datum)) : Datum :=
  .object (members.map Prod.fst).toFinset fun key =>
    (members.lookup key.1).get <| by
      obtain ⟨member, hmember, hkey⟩ := List.mem_map.mp (List.mem_toFinset.mp key.2)
      rw [← Option.ne_none_iff_isSome, Ne, List.lookup_eq_none_iff]
      intro hnone
      exact absurd hkey.symm (by simpa using hnone member hmember)

@[simp] theorem get?_ofMembers (members : List (String × Datum)) (key : String) :
    (ofMembers members).get? key = members.lookup key := by
  unfold ofMembers get?
  dsimp only
  split
  · exact Option.some_get _
  · next habsent =>
      rw [eq_comm, List.lookup_eq_none_iff]
      intro member hmember
      rw [List.mem_toFinset] at habsent
      have hkey : key ≠ member.1 := fun heq => habsent (heq ▸ List.mem_map_of_mem hmember)
      simpa using hkey

/-- A finite map is what it gives for each key. -/
theorem object_ext {keys others : Finset String} {value : {key // key ∈ keys} → Datum}
    {other : {key // key ∈ others} → Datum}
    (hget : ∀ key, (object keys value).get? key = (object others other).get? key) :
    object keys value = object others other := by
  have hkeys : keys = others := by
    ext key
    have hkey := congrArg Option.isSome (hget key)
    unfold get? at hkey
    by_cases hfirst : key ∈ keys <;> by_cases hsecond : key ∈ others <;> simp_all
  subst hkeys
  have hvalue : value = other := by
    funext key
    have hkey := hget key.1
    unfold get? at hkey
    simpa [key.2] using hkey
  rw [hvalue]

theorem ofMembers_eq_iff {members others : List (String × Datum)} :
    ofMembers members = ofMembers others ↔ ∀ key, members.lookup key = others.lookup key := by
  constructor
  · intro heq key
    rw [← get?_ofMembers, heq, get?_ofMembers]
  · intro hlookup
    refine object_ext fun key => ?_
    change (ofMembers members).get? key = (ofMembers others).get? key
    rw [get?_ofMembers, get?_ofMembers, hlookup]

end Datum

namespace Json

mutual

/-- What a value says. -/
def datum : Json → Datum
  | null => .null
  | bool b => .bool b
  | number n => .number n.value
  | string s => .string s
  | array items => .array (dataOfItems items)
  | object members => .ofMembers (dataOfMembers members)

/-- What items say, in order. -/
def dataOfItems : List Json → List Datum
  | [] => []
  | item :: rest => item.datum :: dataOfItems rest

/-- What members say, with their keys. -/
def dataOfMembers : List (String × Json) → List (String × Datum)
  | [] => []
  | (key, value) :: rest => (key, value.datum) :: dataOfMembers rest

end

theorem dataOfItems_eq_map (items : List Json) : dataOfItems items = items.map datum := by
  induction items with
  | nil => rfl
  | cons item rest ih => rw [dataOfItems, ih, List.map_cons]

theorem lookup_dataOfMembers (members : List (String × Json)) (key : String) :
    (dataOfMembers members).lookup key = (member? key members).map datum := by
  induction members with
  | nil => rfl
  | cons member rest ih =>
      obtain ⟨name, value⟩ := member
      rw [dataOfMembers, List.lookup_cons, ih, member?]
      by_cases hname : name = key
      · simp [hname]
      · rw [if_neg hname, beq_eq_false_iff_ne.mpr (Ne.symm hname)]

/-- Objects say the same if they say the same at each key. -/
theorem datum_object_eq_iff (ms ns : List (String × Json)) :
    (object ms).datum = (object ns).datum ↔
      ∀ key, (member? key ms).map datum = (member? key ns).map datum := by
  rw [datum, datum, Datum.ofMembers_eq_iff]
  simp only [lookup_dataOfMembers]

theorem datum_array_eq_iff (xs ys : List Json) :
    (array xs).datum = (array ys).datum ↔ xs.map datum = ys.map datum := by
  rw [datum, datum, Datum.array.injEq, dataOfItems_eq_map, dataOfItems_eq_map]

theorem mem_keys_iff {members : List (String × Json)} {key : String} :
    key ∈ members.map Prod.fst ↔ (member? key members).isSome = true := by
  induction members with
  | nil => simp [member?]
  | cons member rest ih =>
      obtain ⟨name, value⟩ := member
      rw [List.map_cons, List.mem_cons, ih, member?]
      by_cases hname : name = key
      · simp [hname]
      · simp [hname, Ne.symm hname]

/-- Equal values say the same. -/
theorem datum_eq_of_same {a b : Json} (ha : a.keysDistinct = true) (hb : b.keysDistinct = true)
    (hsame : a.same b = true) : a.datum = b.datum := by
  match a, b with
  | null, null => rfl
  | bool a, bool b =>
    rw [same, beq_iff_eq] at hsame
    rw [hsame]
  | number a, number b =>
    rw [same, decide_eq_true_eq] at hsame
    rw [datum, datum, hsame]
  | string a, string b =>
    rw [same, decide_eq_true_eq] at hsame
    rw [hsame]
  | array xs, array ys =>
    rw [same, sameItems_iff] at hsame
    rw [datum_array_eq_iff]
    refine List.ext_getElem (by simpa using hsame.1) fun index hx hy => ?_
    rw [List.length_map] at hx hy
    rw [List.getElem_map, List.getElem_map]
    have hless : xs[index].height < (array xs).height :=
      height_lt_heightItems (List.getElem_mem hx)
    exact datum_eq_of_same (keysDistinct_of_mem_items ha (List.getElem_mem hx))
      (keysDistinct_of_mem_items hb (List.getElem_mem hy))
      (hsame.2 index _ _ (List.getElem?_eq_getElem hx) (List.getElem?_eq_getElem hy))
  | object ms, object ns =>
    obtain ⟨hms, hms'⟩ := keysDistinct_object ha
    obtain ⟨hns, hns'⟩ := keysDistinct_object hb
    have hkeys := perm_keys_of_same hms hsame
    rw [same_object_iff] at hsame
    rw [datum_object_eq_iff]
    intro key
    cases hvalue : member? key ms with
    | none =>
        have habsent : key ∉ ns.map Prod.fst := by
          rw [← hkeys.mem_iff, mem_keys_iff, hvalue]
          exact Bool.false_ne_true
        rw [mem_keys_iff, Option.not_isSome_iff_eq_none] at habsent
        rw [habsent]
    | some value =>
        have hmember := mem_of_member? hvalue
        obtain ⟨other, hother, heq⟩ := hsame.2 key value hmember
        have hless : value.height < (object ms).height := height_lt_heightMembers hmember
        rw [hother, Option.map_some, Option.map_some,
          datum_eq_of_same (keysDistinct_of_mem_members hms' hmember)
            (keysDistinct_of_mem_members hns' (mem_of_member? hother)) heq]
termination_by a.height

/-- Values that say the same are equal. -/
theorem same_of_datum_eq {a b : Json} (ha : a.keysDistinct = true) (hb : b.keysDistinct = true)
    (heq : a.datum = b.datum) : a.same b = true := by
  match a, b with
  | null, null => rfl
  | bool a, bool b =>
    rw [datum, datum, Datum.bool.injEq] at heq
    rw [same, heq, beq_self_eq_true]
  | number a, number b =>
    rw [datum, datum, Datum.number.injEq] at heq
    rw [same, decide_eq_true_eq, heq]
  | string a, string b =>
    rw [datum, datum, Datum.string.injEq] at heq
    rw [same, decide_eq_true_eq, heq]
  | array xs, array ys =>
    rw [datum_array_eq_iff] at heq
    rw [same, sameItems_iff]
    refine ⟨by simpa using congrArg List.length heq, fun index x y hx hy => ?_⟩
    have hitem : x.datum = y.datum := by
      have hindex := congrArg (fun items : List Datum => items[index]?) heq
      simpa [hx, hy] using hindex
    have hless : x.height < (array xs).height := height_lt_heightItems (List.mem_of_getElem? hx)
    exact same_of_datum_eq (keysDistinct_of_mem_items ha (List.mem_of_getElem? hx))
      (keysDistinct_of_mem_items hb (List.mem_of_getElem? hy)) hitem
  | object ms, object ns =>
    obtain ⟨hms, hms'⟩ := keysDistinct_object ha
    obtain ⟨hns, hns'⟩ := keysDistinct_object hb
    rw [datum_object_eq_iff] at heq
    -- Both have the same keys, each once, and so the same number of them.
    have hkeys : (ms.map Prod.fst).Perm (ns.map Prod.fst) := by
      rw [List.perm_ext_iff_of_nodup hms hns]
      intro key
      rw [mem_keys_iff, mem_keys_iff, ← Option.isSome_map (f := datum), heq, Option.isSome_map]
    rw [same_object_iff]
    refine ⟨by simpa using hkeys.length_eq, fun key value hvalue => ?_⟩
    have hkey := heq key
    rw [member?_of_mem hms hvalue, Option.map_some, eq_comm, Option.map_eq_some_iff] at hkey
    obtain ⟨other, hother, hdatum⟩ := hkey
    have hless : value.height < (object ms).height := height_lt_heightMembers hvalue
    exact ⟨other, hother, same_of_datum_eq (keysDistinct_of_mem_members hms' hvalue)
      (keysDistinct_of_mem_members hns' (mem_of_member? hother)) hdatum.symm⟩
termination_by a.height

/-- Equality of values is equality of what they say: numbers by their exact values, objects as
finite maps. So it is an equivalence. Whoever compares numbers by the words that hold them, in any
of the combinations of words, gets the same answer, as long as words are compared by value. -/
theorem same_is_equality {a b c : Json} (ha : a.Proper) (hb : b.Proper) (hc : c.Proper) :
    (a.same b = true ↔ a.datum = b.datum) ∧
    a.same a = true ∧
    (a.same b = true → b.same a = true) ∧
    (a.same b = true → b.same c = true → a.same c = true) ∧
    ∀ compare : Number.Word → Number.Word → Bool,
      (∀ x y, compare x y = true ↔ x.value = y.value) →
      ∀ m n, a = number m → b = number n → a.same b = compare m.word n.word := by
  have hiff : ∀ {a b : Json}, a.Proper → b.Proper → (a.same b = true ↔ a.datum = b.datum) :=
    fun ha hb => ⟨datum_eq_of_same ha.keys hb.keys, same_of_datum_eq ha.keys hb.keys⟩
  refine ⟨hiff ha hb, (hiff ha ha).mpr rfl, ?_, ?_, ?_⟩
  · rw [hiff ha hb, hiff hb ha]
    exact Eq.symm
  · rw [hiff ha hb, hiff hb hc, hiff ha hc]
    exact Eq.trans
  · rintro compare hexact m n rfl rfl
    rw [Bool.eq_iff_iff, hexact, Number.word_value ha.number, Number.word_value hb.number, same,
      decide_eq_true_eq]

/-- An object with `2 ^ 63`, a negative zero and two more members. -/
def signedObject : Json :=
  .object [("x", .number (.integer 9223372036854775808)),
    ("y", .array [.null, .number (.double ⟨true, 0, -1074⟩)]),
    ("z", .object [("b", .bool true), ("a", .string "")])]

/-- The same with all numbers written in another way and all members in another order. -/
def rewrittenObject : Json :=
  .object [("z", .object [("a", .string ""), ("b", .bool true)]),
    ("y", .array [.null, .number (.integer 0)]),
    ("x", .number (.double ⟨false, 4503599627370496, 11⟩))]

/-- An object that says the same in two ways, and `2 ^ 53` next to its successor, which double
precision does not have. -/
theorem same_is_equality_rewritten :
    signedObject.Proper ∧ rewrittenObject.Proper ∧ signedObject.datum = rewrittenObject.datum ∧
      rewrittenObject.same signedObject = true ∧
      (number (.double ⟨false, 4503599627370496, 1⟩)).datum ≠
        (number (.integer 9007199254740993)).datum := by
  have hfirst : signedObject.Proper := by decide +kernel
  have hsecond : rewrittenObject.Proper := by decide +kernel
  have hsame : signedObject.same rewrittenObject = true := by decide +kernel
  obtain ⟨hiff, -, hsymm, -⟩ := same_is_equality hfirst hsecond hfirst
  have hpower : (number (.double ⟨false, 4503599627370496, 1⟩)).Proper := by decide +kernel
  have hnext : (number (.integer 9007199254740993)).Proper := by decide +kernel
  have hdifferent : (number (.double ⟨false, 4503599627370496, 1⟩)).same
      (number (.integer 9007199254740993)) = false := by decide +kernel
  refine ⟨hfirst, hsecond, hiff.mp hsame, hsymm hsame, fun heq => ?_⟩
  have hequal := (same_is_equality hpower hnext hnext).1.mpr heq
  exact Bool.false_ne_true (hdifferent.symm.trans hequal)

end Json

end SchemaRegistry

import SchemaRegistry.Proofs.Json.Equality
import SchemaRegistry.Proofs.Json.Rounding

/-!
Values as they are read from texts. A proper number is an integer of 64 bits or a double precision
number, and a proper value has only proper numbers and no object with a key twice. For these, what
is computed from a number depends on its value only, and not on the way in which it is written.
-/

namespace SchemaRegistry

namespace Number

/-- A number as it is read from a text: an integer with or without a sign in 64 bits, or one with at
most 53 significant bits. -/
def proper : Number → Bool
  | integer n => decide (-2 ^ 63 ≤ n ∧ n < 2 ^ 64)
  | double x => decide (x.significand < 2 ^ 53)

/-- Whatever a token says, it is read as a proper number. -/
theorem proper_ofToken (negative : Bool) (digits : Nat) (exponent : Int) (plain : Bool) :
    (ofToken negative digits exponent plain).proper = true := by
  unfold ofToken
  split
  · next hplain =>
      simp only [Bool.and_eq_true, decide_eq_true_eq, Nat.pow_eq] at hplain
      rw [proper, decide_eq_true_eq]
      omega
  · split
    · next hplain =>
        simp only [Bool.and_eq_true, decide_eq_true_eq, Nat.pow_eq] at hplain
        rw [proper, decide_eq_true_eq]
        omega
    · exact decide_eq_true (Binary64.significand_ofDecimal_lt negative digits exponent)

/-- Numbers of one value are rounded to one value, however they are written. -/
theorem toBinary64_value_eq {m n : Number} (hm : m.proper = true) (hn : n.proper = true)
    (hvalue : m.value = n.value) : m.toBinary64.value = n.toBinary64.value := by
  cases m with
  | integer a =>
      cases n with
      | integer b =>
          have hcast : (a : Rat) = b := hvalue
          rw [Int.cast_injective hcast]
      | double y =>
          have hexact : y.value = a := hvalue.symm
          exact (Binary64.ofInt_value_of_eq (of_decide_eq_true hn) hexact).trans hexact.symm
  | double x =>
      cases n with
      | integer b =>
          have hexact : x.value = b := hvalue
          exact hexact.trans (Binary64.ofInt_value_of_eq (of_decide_eq_true hm) hexact).symm
      | double y => exact hvalue

/-- Whether a number is an integer is told by its value. -/
theorem isInteger_eq (n : Number) : n.isInteger = decide (n.value.den = 1) := by
  cases n with
  | integer a => exact (decide_eq_true (Rat.den_intCast a)).symm
  | double x => rfl

end Number

namespace Json

mutual

/-- All numbers in the value are proper. -/
def numbersProper : Json → Bool
  | number n => n.proper
  | array items => numbersProperItems items
  | object members => numbersProperMembers members
  | _ => true

/-- All numbers in the items are proper. -/
def numbersProperItems : List Json → Bool
  | [] => true
  | item :: rest => item.numbersProper && numbersProperItems rest

/-- All numbers in the members are proper. -/
def numbersProperMembers : List (String × Json) → Bool
  | [] => true
  | (_, value) :: rest => value.numbersProper && numbersProperMembers rest

end

/-- A value as it is read from a text. -/
structure Proper (a : Json) : Prop where
  keys : a.keysDistinct = true
  numbers : a.numbersProper = true

instance (a : Json) : Decidable a.Proper :=
  decidable_of_iff (a.keysDistinct = true ∧ a.numbersProper = true)
    ⟨fun h => ⟨h.1, h.2⟩, fun h => ⟨h.keys, h.numbers⟩⟩

namespace Proper

theorem of_item {items : List Json} (hproper : (array items).Proper) {item : Json}
    (hitem : item ∈ items) : item.Proper := by
  refine ⟨keysDistinct_of_mem_items hproper.keys hitem, ?_⟩
  have hnumbers : numbersProperItems items = true := hproper.numbers
  clear hproper
  induction items with
  | nil => exact absurd hitem List.not_mem_nil
  | cons first rest ih =>
      rw [numbersProperItems, Bool.and_eq_true] at hnumbers
      rcases List.mem_cons.mp hitem with rfl | hrest
      · exact hnumbers.1
      · exact ih hrest hnumbers.2

theorem of_member {members : List (String × Json)} (hproper : (object members).Proper)
    {key : String} {value : Json} (hmember : (key, value) ∈ members) : value.Proper := by
  refine ⟨keysDistinct_of_mem_members (keysDistinct_object hproper.keys).2 hmember, ?_⟩
  have hnumbers : numbersProperMembers members = true := hproper.numbers
  clear hproper
  induction members with
  | nil => exact absurd hmember List.not_mem_nil
  | cons first rest ih =>
      rw [numbersProperMembers, Bool.and_eq_true] at hnumbers
      rcases List.mem_cons.mp hmember with rfl | hrest
      · exact hnumbers.1
      · exact ih hrest hnumbers.2

theorem nodup {members : List (String × Json)} (hproper : (object members).Proper) :
    (members.map Prod.fst).Nodup := (keysDistinct_object hproper.keys).1

theorem number {n : Number} (hproper : (number n).Proper) : n.proper = true := hproper.numbers

theorem string (text : String) : (string text).Proper := ⟨rfl, rfl⟩

end Proper

end Json

end SchemaRegistry

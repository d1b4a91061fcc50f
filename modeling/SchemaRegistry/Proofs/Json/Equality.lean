import Mathlib.Data.List.Perm.Subperm
import SchemaRegistry.Json.Equality
import SchemaRegistry.Proofs.Graph.Links

/-!
Equality of values as data, for values in which no object repeats a key. Comparing two objects looks
for the members of the first one in the second only; as both have the same number of keys, and none
twice, nothing is missed, so that the comparison does not depend on the order of the two.
-/

namespace SchemaRegistry.Json

mutual

/-- No object in the value has a key twice. -/
def keysDistinct : Json → Bool
  | array items => keysDistinctItems items
  | object members => decide (members.map Prod.fst).Nodup && keysDistinctMembers members
  | _ => true

/-- No object in the items has a key twice. -/
def keysDistinctItems : List Json → Bool
  | [] => true
  | item :: rest => item.keysDistinct && keysDistinctItems rest

/-- No object in the members has a key twice. -/
def keysDistinctMembers : List (String × Json) → Bool
  | [] => true
  | (_, value) :: rest => value.keysDistinct && keysDistinctMembers rest

end

section Members

variable {key : String} {value : Json} {members : List (String × Json)}

theorem keysDistinct_of_mem_items {items : List Json} {item : Json}
    (hitems : keysDistinctItems items = true) (hmem : item ∈ items) : item.keysDistinct = true := by
  induction items with
  | nil => exact absurd hmem List.not_mem_nil
  | cons first rest ih =>
      rw [keysDistinctItems, Bool.and_eq_true] at hitems
      rcases List.mem_cons.mp hmem with rfl | hrest
      · exact hitems.1
      · exact ih hitems.2 hrest

theorem keysDistinct_of_mem_members (hmembers : keysDistinctMembers members = true)
    (hmem : (key, value) ∈ members) : value.keysDistinct = true := by
  induction members with
  | nil => exact absurd hmem List.not_mem_nil
  | cons first rest ih =>
      rw [keysDistinctMembers, Bool.and_eq_true] at hmembers
      rcases List.mem_cons.mp hmem with rfl | hrest
      · exact hmembers.1
      · exact ih hmembers.2 hrest

theorem keysDistinct_object (hdistinct : (object members).keysDistinct = true) :
    (members.map Prod.fst).Nodup ∧ keysDistinctMembers members = true := by
  rw [keysDistinct, Bool.and_eq_true] at hdistinct
  exact ⟨of_decide_eq_true hdistinct.1, hdistinct.2⟩

theorem mem_of_member? (hmember : member? key members = some value) : (key, value) ∈ members := by
  induction members with
  | nil => cases hmember
  | cons first rest ih =>
      obtain ⟨name, inner⟩ := first
      unfold member? at hmember
      split at hmember
      · next hname =>
          cases hmember
          rw [hname]
          exact List.mem_cons_self
      · exact List.mem_cons_of_mem _ (ih hmember)

theorem member?_of_mem (hnodup : (members.map Prod.fst).Nodup) (hmem : (key, value) ∈ members) :
    member? key members = some value := by
  induction members with
  | nil => exact absurd hmem List.not_mem_nil
  | cons first rest ih =>
      obtain ⟨name, inner⟩ := first
      rw [List.map_cons, List.nodup_cons] at hnodup
      unfold member?
      rcases List.mem_cons.mp hmem with heq | hrest
      · cases heq
        exact if_pos rfl
      · have hkey : name ≠ key := by
          rintro rfl
          exact hnodup.1 (List.mem_map.mpr ⟨_, hrest, rfl⟩)
        rw [if_neg hkey]
        exact ih hnodup.2 hrest

end Members

theorem sameItems_iff (xs ys : List Json) : sameItems xs ys = true ↔
    xs.length = ys.length ∧ ∀ (index : Nat) (x y : Json), xs[index]? = some x →
      ys[index]? = some y → x.same y = true := by
  induction xs generalizing ys with
  | nil => cases ys <;> simp [sameItems]
  | cons x xs ih =>
      cases ys with
      | nil => simp [sameItems]
      | cons y ys =>
          rw [sameItems, Bool.and_eq_true, ih, List.length_cons, List.length_cons]
          constructor
          · rintro ⟨hfirst, hlength, hrest⟩
            refine ⟨by omega, ?_⟩
            intro index a b ha hb
            cases index with
            | zero =>
                cases ha
                cases hb
                exact hfirst
            | succ index => exact hrest index a b ha hb
          · rintro ⟨hlength, hall⟩
            refine ⟨hall 0 x y rfl rfl, by omega, ?_⟩
            exact fun index a b ha hb => hall (index + 1) a b ha hb

theorem sameMembers_iff (ms ns : List (String × Json)) : sameMembers ms ns = true ↔
    ∀ key value, (key, value) ∈ ms → ∃ other, member? key ns = some other ∧
      value.same other = true := by
  induction ms with
  | nil => simp [sameMembers]
  | cons first rest ih =>
      obtain ⟨name, inner⟩ := first
      rw [sameMembers, Bool.and_eq_true, ih]
      constructor
      · rintro ⟨hfirst, hrest⟩ key value hmem
        rcases List.mem_cons.mp hmem with heq | hlater
        · cases heq
          split at hfirst
          · next other hother => exact ⟨other, hother, hfirst⟩
          · cases hfirst
        · exact hrest key value hlater
      · intro hall
        obtain ⟨other, hother, hsame⟩ := hall name inner List.mem_cons_self
        rw [hother]
        exact ⟨hsame, fun key value hmem => hall key value (List.mem_cons_of_mem _ hmem)⟩

theorem same_object_iff (ms ns : List (String × Json)) : (object ms).same (object ns) = true ↔
    ms.length = ns.length ∧ ∀ key value, (key, value) ∈ ms → ∃ other,
      member? key ns = some other ∧ value.same other = true := by
  rw [same, Bool.and_eq_true, decide_eq_true_eq, sameMembers_iff]

/-- A value without repeated keys is equal to itself. -/
theorem same_refl {a : Json} (ha : a.keysDistinct = true) : a.same a = true := by
  match a with
  | null => rfl
  | bool a =>
    rw [same, beq_self_eq_true]
  | number a =>
    rw [same, decide_eq_true_eq]
  | string a =>
    rw [same, decide_eq_true_eq]
  | array xs =>
    rw [same, sameItems_iff]
    refine ⟨rfl, fun index x y hx hy => ?_⟩
    obtain rfl := Option.some.inj (hx.symm.trans hy)
    have hless : x.height < (array xs).height := height_lt_heightItems (List.mem_of_getElem? hx)
    exact same_refl (keysDistinct_of_mem_items ha (List.mem_of_getElem? hx))
  | object ms =>
    obtain ⟨hnodup, hinner⟩ := keysDistinct_object ha
    rw [same_object_iff]
    refine ⟨rfl, fun key value hvalue => ⟨value, member?_of_mem hnodup hvalue, ?_⟩⟩
    have hless : value.height < (object ms).height := height_lt_heightMembers hvalue
    exact same_refl (keysDistinct_of_mem_members hinner hvalue)
termination_by a.height

/-- Equal objects have the same keys. -/
theorem perm_keys_of_same {ms ns : List (String × Json)} (hms : (ms.map Prod.fst).Nodup)
    (hsame : (object ms).same (object ns) = true) :
    (ms.map Prod.fst).Perm (ns.map Prod.fst) := by
  obtain ⟨hlength, hmembers⟩ := (same_object_iff ms ns).mp hsame
  have hsubset : ms.map Prod.fst ⊆ ns.map Prod.fst := by
    intro name hname
    obtain ⟨⟨name, value⟩, hvalue, rfl⟩ := List.mem_map.mp hname
    obtain ⟨other, hother, -⟩ := hmembers name value hvalue
    exact List.mem_map.mpr ⟨_, mem_of_member? hother, rfl⟩
  refine (hms.subperm hsubset).perm_of_length_le ?_
  rw [List.length_map, List.length_map]
  exact Nat.le_of_eq hlength.symm

/-- Equality of values does not depend on their order. -/
theorem same_symm {a b : Json} (ha : a.keysDistinct = true) (hb : b.keysDistinct = true)
    (hsame : a.same b = true) : b.same a = true := by
  match a, b with
  | null, null => rfl
  | bool a, bool b =>
    rw [same, beq_iff_eq] at hsame ⊢
    exact hsame.symm
  | number a, number b =>
    rw [same, decide_eq_true_eq] at hsame ⊢
    exact hsame.symm
  | string a, string b =>
    rw [same, decide_eq_true_eq] at hsame ⊢
    exact hsame.symm
  | array xs, array ys =>
    rw [same, sameItems_iff] at hsame ⊢
    refine ⟨hsame.1.symm, fun index y x hy hx => ?_⟩
    have hless : x.height < (array xs).height := height_lt_heightItems (List.mem_of_getElem? hx)
    exact same_symm (keysDistinct_of_mem_items ha (List.mem_of_getElem? hx))
      (keysDistinct_of_mem_items hb (List.mem_of_getElem? hy)) (hsame.2 index x y hx hy)
  | object ms, object ns =>
    obtain ⟨hms, hms'⟩ := keysDistinct_object ha
    obtain ⟨hns, hns'⟩ := keysDistinct_object hb
    have hkeys := perm_keys_of_same hms hsame
    rw [same_object_iff] at hsame ⊢
    obtain ⟨hlength, hmembers⟩ := hsame
    refine ⟨hlength.symm, fun key other hother => ?_⟩
    have hkey : key ∈ ns.map Prod.fst := List.mem_map.mpr ⟨_, hother, rfl⟩
    obtain ⟨⟨name, value⟩, hvalue, rfl⟩ := List.mem_map.mp (hkeys.mem_iff.mpr hkey)
    obtain ⟨found, hfound, heq⟩ := hmembers name value hvalue
    obtain rfl := Option.some.inj (hfound.symm.trans (member?_of_mem hns hother))
    have hless : value.height < (object ms).height := height_lt_heightMembers hvalue
    exact ⟨value, member?_of_mem hms hvalue, same_symm (keysDistinct_of_mem_members hms' hvalue)
      (keysDistinct_of_mem_members hns' hother) heq⟩
termination_by a.height

/-- Values that are equal to the same value are equal. -/
theorem same_trans {a b c : Json} (hab : a.same b = true) (hbc : b.same c = true) :
    a.same c = true := by
  match a, b, c with
  | null, null, null => rfl
  | bool a, bool b, bool c =>
    rw [same, beq_iff_eq] at hab hbc ⊢
    exact hab.trans hbc
  | number a, number b, number c =>
    rw [same, decide_eq_true_eq] at hab hbc ⊢
    exact hab.trans hbc
  | string a, string b, string c =>
    rw [same, decide_eq_true_eq] at hab hbc ⊢
    exact hab.trans hbc
  | array xs, array ys, array zs =>
    rw [same, sameItems_iff] at hab hbc ⊢
    refine ⟨hab.1.trans hbc.1, fun index x z hx hz => ?_⟩
    have hindex : index < ys.length := by
      rw [← hab.1]
      exact (List.getElem?_eq_some_iff.mp hx).1
    have hy := List.getElem?_eq_getElem hindex
    have hless : x.height < (array xs).height := height_lt_heightItems (List.mem_of_getElem? hx)
    exact same_trans (hab.2 index x _ hx hy) (hbc.2 index _ z hy hz)
  | object ms, object ns, object os =>
    rw [same_object_iff] at hab hbc ⊢
    refine ⟨hab.1.trans hbc.1, fun key value hvalue => ?_⟩
    obtain ⟨other, hother, hfirst⟩ := hab.2 key value hvalue
    obtain ⟨last, hlast, hsecond⟩ := hbc.2 key other (mem_of_member? hother)
    have hless : value.height < (object ms).height := height_lt_heightMembers hvalue
    exact ⟨last, hlast, same_trans hfirst hsecond⟩
termination_by a.height

end SchemaRegistry.Json

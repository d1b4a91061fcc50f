import SchemaRegistry.Proofs.Addressing.Trails
import SchemaRegistry.Proofs.Json.Equality

/-!
Schemas that are equal as data hold the same schemas: where the one holds a schema, the other holds
an equal one under the same path. So every way down from the one is a way down from the other.
-/

namespace SchemaRegistry

namespace Json

/-- Each of the first values has an equal one among the second, at the same path. -/
def Mirrored (first second : Slots Json) : Prop :=
  ∀ slot ∈ first, ∃ other, (slot.1, other) ∈ second ∧ slot.2.same other = true

theorem Mirrored.append {first first' second second' : Slots Json} (hfirst : Mirrored first second)
    (hsecond : Mirrored first' second') : Mirrored (first ++ first') (second ++ second') := by
  intro slot hslot
  rcases List.mem_append.mp hslot with hmem | hmem
  · obtain ⟨other, hother, hsame⟩ := hfirst slot hmem
    exact ⟨other, List.mem_append_left _ hother, hsame⟩
  · obtain ⟨other, hother, hsame⟩ := hsecond slot hmem
    exact ⟨other, List.mem_append_right _ hother, hsame⟩

section Keyword

variable {ms ns : List (String × Json)}

theorem member?_of_same (hsame : (object ms).same (object ns) = true) {keyword : String}
    {value : Json} (hvalue : member? keyword ms = some value) :
    ∃ other, member? keyword ns = some other ∧ value.same other = true :=
  ((same_object_iff ms ns).mp hsame).2 keyword value (mem_of_member? hvalue)

theorem same_array {items : List Json} {other : Json} (hsame : (array items).same other = true) :
    ∃ others, other = array others ∧ items.length = others.length ∧
      ∀ (index : Nat) (x y : Json), items[index]? = some x → others[index]? = some y →
        x.same y = true := by
  cases other with
  | array others =>
      rw [same, sameItems_iff] at hsame
      exact ⟨others, rfl, hsame⟩
  | _ => cases hsame

theorem same_array_right {items : List Json} {value : Json}
    (hsame : value.same (array items) = true) : ∃ others, value = array others := by
  cases value with
  | array others => exact ⟨others, rfl⟩
  | _ => cases hsame

theorem same_object {members : List (String × Json)} {other : Json}
    (hsame : (object members).same other = true) : ∃ others, other = object others := by
  cases other with
  | object others => exact ⟨others, rfl⟩
  | _ => cases hsame

variable (hsame : (object ms).same (object ns) = true)

include hsame

theorem mirrored_one (keyword : String) :
    Mirrored (Slots.one keyword (member? keyword ms)) (Slots.one keyword (member? keyword ns)) := by
  intro slot hslot
  obtain ⟨value, hvalue, rfl⟩ := List.mem_map.mp hslot
  obtain ⟨other, hother, heq⟩ := member?_of_same hsame (Option.mem_toList.mp hvalue)
  exact ⟨other, List.mem_map.mpr ⟨other, Option.mem_toList.mpr hother, rfl⟩, heq⟩

theorem mirrored_list (keyword : String) :
    Mirrored (Slots.list keyword 0 (itemsOf (member? keyword ms)))
      (Slots.list keyword 0 (itemsOf (member? keyword ns))) := by
  intro slot hslot
  obtain ⟨⟨value, index⟩, hentry, rfl⟩ := List.mem_map.mp hslot
  unfold itemsOf at hentry
  split at hentry
  · next items hmember =>
      have hvalue := List.mem_zipIdx_iff_getElem?.mp hentry
      obtain ⟨other, hother, heq⟩ := member?_of_same hsame hmember
      obtain ⟨others, rfl, hlength, hitems⟩ := same_array heq
      have hindex : index < others.length := by
        rw [← hlength]
        exact (List.getElem?_eq_some_iff.mp hvalue).1
      have hitem := List.getElem?_eq_getElem hindex
      refine ⟨others[index], ?_, hitems index value _ hvalue hitem⟩
      rw [hother]
      exact List.mem_map.mpr ⟨(others[index], index), List.mem_zipIdx_iff_getElem?.mpr hitem, rfl⟩
  · exact absurd hentry List.not_mem_nil

theorem membersOf_of_same {keyword : String} {member : String × Json}
    (hmember : member ∈ membersOf (member? keyword ms)) :
    ∃ other, (member.1, other) ∈ membersOf (member? keyword ns) ∧ member.2.same other = true := by
  unfold membersOf at hmember
  split at hmember
  · next inner hheld =>
      obtain ⟨other, hother, heq⟩ := member?_of_same hsame hheld
      obtain ⟨others, rfl⟩ := same_object heq
      obtain ⟨value, hvalue, heq'⟩ := ((same_object_iff inner others).mp heq).2 _ _ hmember
      refine ⟨value, ?_, heq'⟩
      rw [hother]
      exact mem_of_member? hvalue
  · exact absurd hmember List.not_mem_nil

theorem mirrored_named (keyword : String) :
    Mirrored (Slots.named keyword (membersOf (member? keyword ms)))
      (Slots.named keyword (membersOf (member? keyword ns))) := by
  intro slot hslot
  obtain ⟨member, hmember, rfl⟩ := List.mem_map.mp hslot
  obtain ⟨other, hother, heq⟩ := membersOf_of_same hsame hmember
  exact ⟨other, List.mem_map.mpr ⟨_, hother, rfl⟩, heq⟩

theorem mirrored_itemSchemas :
    Mirrored (itemSchemas (member? "items" ms)) (itemSchemas (member? "items" ns)) := by
  have hlist := mirrored_list hsame "items"
  have hone := mirrored_one hsame "items"
  cases hitems : member? "items" ms with
  | none =>
      intro slot hslot
      exact absurd hslot List.not_mem_nil
  | some value =>
      obtain ⟨other, hother, heq⟩ := member?_of_same hsame hitems
      rw [hitems, hother] at hlist hone
      rw [hother]
      unfold itemSchemas
      split
      · next items harray =>
          cases harray
          obtain ⟨others, rfl, -⟩ := same_array heq
          exact hlist
      · next hvalue =>
          split
          · next others harray =>
              cases harray
              obtain ⟨items, rfl⟩ := same_array_right heq
              exact absurd rfl (hvalue items)
          · exact hone

theorem mirrored_dependencies :
    Mirrored ((membersOf (member? "dependencies" ms)).flatMap dependencySchemas)
      ((membersOf (member? "dependencies" ns)).flatMap dependencySchemas) := by
  intro slot hslot
  obtain ⟨entry, hentry, hdependency⟩ := List.mem_flatMap.mp hslot
  obtain ⟨other, hother, heq⟩ := membersOf_of_same hsame hentry
  unfold dependencySchemas at hdependency
  split at hdependency
  · exact absurd hdependency List.not_mem_nil
  · next hvalue =>
      rw [List.mem_singleton.mp hdependency]
      refine ⟨other, List.mem_flatMap.mpr ⟨_, hother, ?_⟩, heq⟩
      unfold dependencySchemas
      split
      · next items harray =>
          dsimp only at harray
          rw [harray] at heq
          obtain ⟨others, hothers⟩ := same_array_right heq
          exact absurd hothers (hvalue others)
      · exact List.mem_singleton_self _

end Keyword

/-- Equal schemas hold equal schemas at the same paths. -/
theorem mirrored_subschemas {a b : Json} (hsame : a.same b = true) :
    Mirrored a.subschemas b.subschemas := by
  cases a with
  | object ms =>
      obtain ⟨ns, rfl⟩ := same_object hsame
      have hone := mirrored_one hsame
      have hlist := mirrored_list hsame
      have hnamed := mirrored_named hsame
      have harray : Mirrored (arraySchemas ms) (arraySchemas ns) :=
        (mirrored_itemSchemas hsame).append ((hone _).append (hone _))
      have hobject : Mirrored (objectSchemas ms) (objectSchemas ns) :=
        (hnamed _).append ((hnamed _).append ((hone _).append
          ((mirrored_dependencies hsame).append (hone _))))
      have hcombined : Mirrored (combinedSchemas ms) (combinedSchemas ns) :=
        (hlist _).append ((hlist _).append ((hlist _).append ((hone _).append
          ((hone _).append ((hone _).append (hone _))))))
      exact harray.append (hobject.append (hcombined.append (hnamed _)))
  | _ =>
      intro slot hslot
      exact absurd hslot List.not_mem_nil

/-- The schemas in a schema without repeated keys have no repeated keys either. -/
theorem keysDistinct_of_subschema {raw : Json} (hraw : raw.keysDistinct = true)
    {slot : List String × Json} (hslot : slot ∈ raw.subschemas) : slot.2.keysDistinct = true := by
  cases raw with
  | object members =>
      obtain ⟨keyword, value, hvalue, hheld⟩ := heldAt_of_subschema hslot
      have hdistinct := keysDistinct_of_mem_members (keysDistinct_object hraw).2
        (mem_of_member? hvalue)
      rcases hheld with rfl | ⟨items, index, rfl, hitem, -⟩ | ⟨inner, name, rfl, hmember, -⟩
      · exact hdistinct
      · exact keysDistinct_of_mem_items hdistinct (List.mem_of_getElem? hitem)
      · exact keysDistinct_of_mem_members (keysDistinct_object hdistinct).2 hmember
  | _ => exact absurd hslot List.not_mem_nil

end Json

namespace Trail

/-- A way down from a schema is a way down from every equal one. -/
theorem exists_mirrored {a b : Json} (hsame : a.same b = true) {trail : Trail}
    (hbelow : Below a trail) :
    ∃ mirrored : Trail, Below b mirrored ∧ mirrored.path = trail.path := by
  induction trail generalizing a b with
  | nil => exact ⟨[], trivial, rfl⟩
  | cons slot rest ih =>
      obtain ⟨hslot, hrest⟩ := hbelow
      obtain ⟨other, hother, hsame'⟩ := Json.mirrored_subschemas hsame slot hslot
      obtain ⟨mirrored, hbelow', hpath⟩ := ih hsame' hrest
      exact ⟨(slot.1, other) :: mirrored, ⟨hother, hbelow'⟩, by rw [path_cons, path_cons, hpath]⟩

theorem keysDistinct_last {raw : Json} (hraw : raw.keysDistinct = true) {trail : Trail}
    (hbelow : Below raw trail) : (last raw trail).keysDistinct = true := by
  induction trail generalizing raw with
  | nil => exact hraw
  | cons slot rest ih => exact ih (Json.keysDistinct_of_subschema hraw hbelow.1) hbelow.2

end Trail

end SchemaRegistry

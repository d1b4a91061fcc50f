import SchemaRegistry.Proofs.Addressing.Removal
import SchemaRegistry.Proofs.Invariance.Alike
import SchemaRegistry.Proofs.Json.Access

/-!
Places of equal schemas. No path to a schema that an object holds begins another one, so a path
tells the schemas on the way. Equal schemas declare the same bases at the same paths. So schemas
with a common location are not only equal: the same base is in force inside them, whichever scopes
around them they were found in.
-/

namespace SchemaRegistry

namespace Json

/-- Whether the schemas at a keyword are items or members of what lies there. -/
def spreads (members : List (String × Json)) (keyword : String) : Bool :=
  ["properties", "patternProperties", "dependencies", "definitions", "allOf", "anyOf",
    "oneOf"].contains keyword || (keyword = "items" && match member? "items" members with
      | some (.array _) => true
      | _ => false)

/-- The path to a schema is its keyword, with the item or member at the keyword if it spreads. -/
def FitsKeyword (members : List (String × Json)) (path : List String) : Prop :=
  ∃ keyword rest, path = keyword :: rest ∧ rest.length = if spreads members keyword then 1 else 0

section Paths

variable {members : List (String × Json)} {slot other : List String × Json} {keyword : String}

theorem fitsKeyword_one (hdirect : spreads members keyword = false) {value : Option Json}
    (hslot : slot ∈ Slots.one keyword value) : FitsKeyword members slot.1 := by
  obtain ⟨inner, -, rfl⟩ := List.mem_map.mp hslot
  exact ⟨keyword, [], rfl, by rw [hdirect]; rfl⟩

theorem fitsKeyword_list (hspreads : spreads members keyword = true) {items : List Json}
    (hslot : slot ∈ Slots.list keyword 0 items) : FitsKeyword members slot.1 := by
  obtain ⟨entry, -, rfl⟩ := List.mem_map.mp hslot
  exact ⟨keyword, [toString entry.2], rfl, by rw [hspreads]; rfl⟩

theorem fitsKeyword_named (hspreads : spreads members keyword = true)
    {inner : List (String × Json)} (hslot : slot ∈ Slots.named keyword inner) :
    FitsKeyword members slot.1 := by
  obtain ⟨member, -, rfl⟩ := List.mem_map.mp hslot
  exact ⟨keyword, [member.1], rfl, by rw [hspreads]; rfl⟩

theorem fitsKeyword_of_subschema (hslot : slot ∈ (object members).subschemas) :
    FitsKeyword members slot.1 := by
  unfold subschemas arraySchemas objectSchemas combinedSchemas at hslot
  simp only [List.mem_append] at hslot
  rcases hslot with (hitems | hadditional | hcontains) |
    (hproperties | hpatterns | hadditional | hdependencies | hnames) |
    (hall | hany | hone | hnot | hif | hthen | helse) | hdefinitions
  · unfold itemSchemas at hitems
    split at hitems
    · next schemas hmember =>
        refine fitsKeyword_list ?_ hitems
        unfold spreads
        rw [hmember]
        rfl
    · next hmember =>
        refine fitsKeyword_one ?_ hitems
        unfold spreads
        split
        · next items harray => exact absurd harray (hmember items)
        · rfl
  · exact fitsKeyword_one rfl hadditional
  · exact fitsKeyword_one rfl hcontains
  · exact fitsKeyword_named rfl hproperties
  · exact fitsKeyword_named rfl hpatterns
  · exact fitsKeyword_one rfl hadditional
  · obtain ⟨entry, -, hdependency⟩ := List.mem_flatMap.mp hdependencies
    unfold dependencySchemas at hdependency
    split at hdependency
    · exact absurd hdependency List.not_mem_nil
    · rw [List.mem_singleton.mp hdependency]
      exact ⟨"dependencies", [entry.1], rfl, rfl⟩
  · exact fitsKeyword_one rfl hnames
  · exact fitsKeyword_list rfl hall
  · exact fitsKeyword_list rfl hany
  · exact fitsKeyword_list rfl hone
  · exact fitsKeyword_one rfl hnot
  · exact fitsKeyword_one rfl hif
  · exact fitsKeyword_one rfl hthen
  · exact fitsKeyword_one rfl helse
  · exact fitsKeyword_named rfl hdefinitions

/-- No path to a schema begins another one. -/
theorem path_eq_of_append {raw : Json} (hslot : slot ∈ raw.subschemas)
    (hother : other ∈ raw.subschemas) {rest rest' : List String}
    (heq : slot.1 ++ rest = other.1 ++ rest') : slot.1 = other.1 ∧ rest = rest' := by
  cases raw with
  | object members =>
      obtain ⟨keyword, tail, hpath, hlength⟩ := fitsKeyword_of_subschema hslot
      obtain ⟨keyword', tail', hpath', hlength'⟩ := fitsKeyword_of_subschema hother
      rw [hpath, hpath', List.cons_append, List.cons_append] at heq
      obtain ⟨rfl, htail⟩ := List.cons.inj heq
      obtain ⟨rfl, hrest⟩ := List.append_inj htail (hlength.trans hlength'.symm)
      exact ⟨hpath.trans hpath'.symm, hrest⟩
  | _ => exact absurd hslot List.not_mem_nil

/-- At one path lies one value. -/
theorem HeldAt.unique (hdistinct : (object members).keysDistinct = true) {path : List String}
    {v w : Json} (hfirst : HeldAt members (path, v)) (hsecond : HeldAt members (path, w)) :
    v = w := by
  obtain ⟨keyword, value, hvalue, hheld⟩ := hfirst
  obtain ⟨keyword', value', hvalue', hheld'⟩ := hsecond
  have hsame : keyword = keyword' → value = value' := by
    rintro rfl
    exact Option.some.inj (hvalue.symm.trans hvalue')
  have hinner := keysDistinct_of_mem_members (keysDistinct_object hdistinct).2
    (mem_of_member? hvalue)
  rcases hheld with heq | ⟨items, index, rfl, hitem, heq⟩ | ⟨inner, name, rfl, hmember, heq⟩ <;>
    rcases hheld' with heq' | ⟨others, index', rfl, hother, heq'⟩ |
      ⟨others, name', rfl, hother, heq'⟩ <;> cases heq
  · cases heq'
    exact hsame rfl
  · cases heq'
  · cases heq'
  · cases heq'
  · obtain ⟨rfl, htoken⟩ := List.cons.inj heq'
    have hindex : index = index' := repr_index_inj.mp (List.cons.inj htoken).1
    obtain rfl := Json.array.inj (hsame rfl)
    rw [← hindex] at hother
    exact Option.some.inj (hitem.symm.trans hother)
  · cases heq'
    cases hsame rfl
  · cases heq'
  · obtain ⟨rfl, -⟩ := List.cons.inj heq'
    cases hsame rfl
  · cases heq'
    obtain rfl := Json.object.inj (hsame rfl)
    have hnodup := (keysDistinct_object hinner).1
    exact Option.some.inj
      ((member?_of_mem hnodup hmember).symm.trans (member?_of_mem hnodup hother))

theorem eq_of_path_eq {raw : Json} (hdistinct : raw.keysDistinct = true)
    (hslot : slot ∈ raw.subschemas) (hother : other ∈ raw.subschemas) (hpath : slot.1 = other.1) :
    slot = other := by
  cases raw with
  | object members =>
      obtain ⟨path, v⟩ := slot
      obtain ⟨path', w⟩ := other
      obtain rfl : path = path' := hpath
      rw [HeldAt.unique hdistinct (heldAt_of_subschema hslot) (heldAt_of_subschema hother)]
  | _ => exact absurd hslot List.not_mem_nil

end Paths

/-- The schemas in a value that is read from a text are read from it too. -/
theorem Proper.of_subschema {raw : Json} (hproper : raw.Proper) {slot : List String × Json}
    (hslot : slot ∈ raw.subschemas) : slot.2.Proper := by
  cases raw with
  | object members =>
      obtain ⟨keyword, value, hvalue, hheld⟩ := heldAt_of_subschema hslot
      have hvalue := hproper.of_member (mem_of_member? hvalue)
      rcases hheld with rfl | ⟨items, index, rfl, hitem, -⟩ | ⟨inner, name, rfl, hmember, -⟩
      · exact hvalue
      · exact hvalue.of_item (List.mem_of_getElem? hitem)
      · exact hvalue.of_member hmember
  | _ => exact absurd hslot List.not_mem_nil

namespace Agree

variable {v w : Json} (hagree : v.Agree w)

include hagree

/-- Equal schemas hold equal schemas at the same paths. -/
theorem subschema {slot : List String × Json} (hslot : slot ∈ v.subschemas) :
    ∃ other, (slot.1, other) ∈ w.subschemas ∧ slot.2.Agree other := by
  obtain ⟨other, hother, hsame⟩ := mirrored_subschemas hagree.same slot hslot
  exact ⟨other, hother, hagree.left.of_subschema hslot, hagree.right.of_subschema hother, hsame⟩

/-- Equal schemas declare the same base. -/
theorem declared?_eq (around : Url) : v.declared? around = w.declared? around := by
  cases hagree.cases with
  | @object ms ns hmembers =>
      have hid := hmembers.rel_member? "$id"
      unfold declared?
      dsimp only
      generalize member? "$id" ms = first, member? "$id" ns = second at hid
      cases hid with
      | none => rfl
      | some hvalue => cases hvalue.cases <;> rfl
  | _ => rfl

/-- Equal schemas refer to the same target. -/
theorem referred?_eq (base : Url) : v.referred? base = w.referred? base := by
  cases hagree.cases with
  | @object ms ns hmembers =>
      have href := hmembers.rel_member? "$ref"
      unfold referred?
      dsimp only
      generalize member? "$ref" ms = first, member? "$ref" ns = second at href
      cases href with
      | none => rfl
      | some hvalue => cases hvalue.cases <;> rfl
  | _ => rfl

/-- Equal schemas both have a condition, or neither does. -/
theorem conditional_eq : v.conditional = w.conditional := by
  cases hagree.cases with
  | object hmembers => exact hmembers.isSome_member? "if"
  | _ => rfl

end Agree

end Json

namespace Trail

/-- A path leads through one sequence of schemas only. -/
theorem eq_of_path_eq {raw : Json} (hdistinct : raw.keysDistinct = true) {trail way : Trail}
    (htrail : Below raw trail) (hway : Below raw way) (hpath : trail.path = way.path) :
    trail = way := by
  induction trail generalizing raw way with
  | nil =>
      cases way with
      | nil => rfl
      | cons slot rest =>
          rw [path_cons] at hpath
          exact absurd (List.append_eq_nil_iff.mp hpath.symm).1
            (Json.path_ne_nil_of_subschema hway.1)
  | cons slot rest ih =>
      obtain ⟨hslot, hrest⟩ := htrail
      cases way with
      | nil =>
          rw [path_cons] at hpath
          exact absurd (List.append_eq_nil_iff.mp hpath).1 (Json.path_ne_nil_of_subschema hslot)
      | cons other others =>
          obtain ⟨hother, hothers⟩ := hway
          rw [path_cons, path_cons] at hpath
          obtain ⟨hfirst, hlater⟩ := Json.path_eq_of_append hslot hother hpath
          obtain rfl := Json.eq_of_path_eq hdistinct hslot hother hfirst
          rw [ih (Json.keysDistinct_of_subschema hdistinct hslot) hrest hothers hlater]

theorem proper_last {raw : Json} (hproper : raw.Proper) {trail : Trail}
    (hbelow : Below raw trail) : (last raw trail).Proper := by
  induction trail generalizing raw with
  | nil => exact hproper
  | cons slot rest ih => exact ih (hproper.of_subschema hbelow.1) hbelow.2

/-- A way down from a schema is one from every equal schema, with equal schemas on it. So it opens
the same scopes. -/
theorem exists_agreeing {v w : Json} (hagree : v.Agree w) {trail : Trail}
    (hbelow : Below v trail) : ∃ way : Trail, Below w way ∧ way.path = trail.path ∧
      (last v trail).Agree (last w way) ∧ ∀ around, opened around way = opened around trail := by
  induction trail generalizing v w with
  | nil => exact ⟨[], trivial, rfl, hagree, fun _ => rfl⟩
  | cons slot rest ih =>
      obtain ⟨hslot, hrest⟩ := hbelow
      obtain ⟨other, hother, hsame⟩ := hagree.subschema hslot
      obtain ⟨way, hway, hpath, hlast, hopened⟩ := ih hsame hrest
      refine ⟨(slot.1, other) :: way, ⟨hother, hway⟩, ?_, hlast, fun around => ?_⟩
      · rw [path_cons, path_cons, hpath]
      · unfold opened
        rw [hsame.declared?_eq, hpath]
        simp only [hopened]

end Trail

namespace Position

/-- Equal schemas inside which the same base is in force. -/
structure Alike (p q : Position) : Prop where
  raw : p.raw.Agree q.raw
  base : p.scopes.base = q.scopes.base

theorem Alike.symm {p q : Position} (halike : p.Alike q) : q.Alike p :=
  ⟨halike.raw.symm, halike.base.symm⟩

theorem Alike.inner {p q : Position} (halike : p.Alike q) (path : List String) {v w : Json}
    (hagree : v.Agree w) : (p.inner path v).Alike (q.inner path w) := by
  refine ⟨hagree, ?_⟩
  rw [base_scopes, base_scopes]
  change v.baseIn (p.scopes.descend path).base = w.baseIn (q.scopes.descend path).base
  unfold Json.baseIn
  rw [Scopes.base_descend, Scopes.base_descend, halike.base, hagree.declared?_eq]

/-- The base in force at the end of a trail is that of the scope opened last. -/
theorem base_along_eq {p q : Position} {trail way : Trail} (htrail : Trail.Below p.raw trail)
    (hway : Trail.Below q.raw way) (hbase : p.scopes.base = q.scopes.base)
    (hopened : Trail.opened p.scopes.base trail = Trail.opened q.scopes.base way) :
    (p.along trail).scopes.base = (q.along way).scopes.base := by
  have hfirst := congrArg List.head? (scopes_along p htrail)
  have hsecond := congrArg List.head? (scopes_along q hway)
  rw [hopened] at hfirst
  rw [List.head?_append, List.head?_map] at hfirst hsecond
  cases hlast : (Trail.opened q.scopes.base way).reverse.head? with
  | none =>
      rw [hlast] at hfirst hsecond
      have hinner : (p.along trail).scopes.inner = p.scopes.inner.extend trail.path :=
        Option.some.inj hfirst
      have hinner' : (q.along way).scopes.inner = q.scopes.inner.extend way.path :=
        Option.some.inj hsecond
      unfold Scopes.base
      rw [hinner, hinner']
      exact hbase
  | some scope =>
      rw [hlast] at hfirst hsecond
      exact congrArg Scope.base (Option.some.inj (hfirst.trans hsecond.symm))

theorem base_of_opens {p : Position} {base : Url} (hopens : p.opens? = some base) :
    p.scopes.base = base := by
  unfold opens? at hopens
  split at hopens
  · exact Option.some.inj hopens
  · rw [base_scopes, Json.baseIn, hopens, Option.getD_some]

theorem proper_of_mem_positions {documents : List Json}
    (hproper : ∀ raw ∈ documents, raw.Proper) {p : Position} (hp : p ∈ positions documents) :
    p.raw.Proper := by
  obtain ⟨number, raw, trail, hraw, hbelow, rfl⟩ := mem_positions_iff.mp hp
  rw [raw_along]
  have hdocument := hproper raw (List.mem_of_getElem? hraw)
  exact Trail.proper_last hdocument hbelow

end Position

section Shared

variable {documents : List Json} {roots : List Nat} {draft : Draft}

/-- Schemas with a common location are equal, and the same base is in force inside them. -/
theorem alike_of_shared (hstored : compileDocuments documents .empty = .ok (roots, draft))
    (hproper : ∀ raw ∈ documents, raw.Proper) {some others : List Json}
    (hsome : some ⊆ documents) (hothers : others ⊆ documents) {p q : Position}
    (hp : p ∈ positions some) (hq : q ∈ positions others) {uri : Url}
    (hpuri : uri ∈ p.scopes.locations) (hquri : uri ∈ q.scopes.locations) : p.Alike q := by
  have hdistinct : ∀ raw ∈ documents, raw.keysDistinct = true := fun raw hraw =>
    (hproper raw hraw).keys
  have hproper' : ∀ {some : List Json}, some ⊆ documents → ∀ {p : Position},
      p ∈ positions some → p.raw.Proper := fun hsome _ hp =>
    Position.proper_of_mem_positions (fun raw hraw => hproper raw (hsome hraw)) hp
  refine ⟨⟨hproper' hsome hp, hproper' hothers hq,
    same_of_subset hstored hdistinct hsome hothers hp hq hpuri hquri⟩, ?_⟩
  obtain ⟨place, hplace, rfl⟩ := List.mem_map.mp hpuri
  obtain ⟨index, hindex⟩ := List.mem_iff_getElem?.mp hp
  obtain ⟨index', hindex'⟩ := List.mem_iff_getElem?.mp hq
  have hbare := (isBase_of_mem_scopes hindex hplace).bare_location place.pointer
  have hplace' := (mem_locations_iff hindex' place.base place.pointer).mp hquri
  rw [hbare] at hplace'
  -- Both lie on the same way down from schemas that open the scope of the location.
  obtain ⟨opener, hopener, hopens, trail, hbelow, rfl, hpointer⟩ :=
    Position.exists_opener hp hplace
  obtain ⟨opener', hopener', hopens', way, hway, rfl, hpointer'⟩ :=
    Position.exists_opener hq hplace'
  have hagree : opener.raw.Agree opener'.raw :=
    ⟨hproper' hsome hopener, hproper' hothers hopener',
      same_of_subset hstored hdistinct hsome hothers hopener hopener'
        (Position.base_mem_locations hopener hopens).2
        (Position.base_mem_locations hopener' hopens').2⟩
  obtain ⟨way', hway', hpath, -, hopened⟩ := Trail.exists_agreeing hagree hbelow
  have hways : way'.path = way.path := by
    rw [hpath]
    exact congrArg JsonPointer.tokens (hpointer.symm.trans hpointer')
  obtain rfl := Trail.eq_of_path_eq hagree.right.keys hway' hway hways
  have hbase : opener.scopes.base = opener'.scopes.base :=
    (Position.base_of_opens hopens).trans (Position.base_of_opens hopens').symm
  refine Position.base_along_eq hbelow hway hbase ?_
  rw [hopened, hbase]

end Shared

end SchemaRegistry

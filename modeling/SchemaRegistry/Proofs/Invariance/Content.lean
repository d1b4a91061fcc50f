import SchemaRegistry.Proofs.Invariance.Reading

/-!
The content of equal schemas. The slots of a compiled schema tell each of its sub-schemas, and what
was read at its place tells the rest. So if the slots of two schemas are at the same paths and hold
related sub-schemas, and the schemas were read from equal values, they are alike.
-/

namespace SchemaRegistry

namespace Slots

variable {α : Type} {path : List String} {a : α}

@[simp] theorem mem_one {keyword : String} {value : Option α} :
    (path, a) ∈ one keyword value ↔ path = [keyword] ∧ value = some a := by
  cases value <;> simp [one, eq_comm]

@[simp] theorem mem_list {keyword : String} {items : List α} :
    (path, a) ∈ list keyword 0 items ↔
      ∃ index : Nat, path = [keyword, toString index] ∧ items[index]? = some a := by
  simp only [list, List.mem_map, Prod.exists, List.mem_zipIdx_iff_getElem?, Prod.mk.injEq]
  constructor
  · rintro ⟨item, index, hitem, rfl, rfl⟩
    exact ⟨index, rfl, hitem⟩
  · rintro ⟨index, rfl, hitem⟩
    exact ⟨a, index, hitem, rfl, rfl⟩

@[simp] theorem mem_named {keyword : String} {members : List (String × α)} :
    (path, a) ∈ named keyword members ↔ ∃ key, path = [keyword, key] ∧ (key, a) ∈ members := by
  simp only [named, List.mem_map, Prod.exists, Prod.mk.injEq]
  constructor
  · rintro ⟨key, value, hmember, rfl, rfl⟩
    exact ⟨key, rfl, hmember⟩
  · rintro ⟨key, rfl, hmember⟩
    exact ⟨key, a, hmember, rfl, rfl⟩

end Slots

section Fields

variable {path : List String} {i : Nat}

@[simp] theorem Items.mem_slots {items : Items} : (path, i) ∈ items.slots ↔
    (path = ["items"] ∧ items = .each i) ∨
      ∃ (schemas : List Nat) (index : Nat), items = .tuple schemas ∧
        path = ["items", toString index] ∧ schemas[index]? = some i := by
  cases items with
  | each schema => simp [slots, Slots.mem_one]
  | tuple schemas => simp [slots, Slots.mem_list]

@[simp] theorem Dependency.mem_slots {key : String} {dependency : Dependency} :
    (path, i) ∈ dependency.slots key ↔ path = ["dependencies", key] ∧ dependency = .schema i := by
  cases dependency with
  | keys names => simp [slots]
  | schema schema => simp [slots, eq_comm]

@[simp] theorem ArrayRules.mem_slots {rules : ArrayRules} : (path, i) ∈ rules.slots ↔
    (path = ["items"] ∧ rules.items = some (.each i)) ∨
    (∃ (schemas : List Nat) (index : Nat), rules.items = some (.tuple schemas) ∧
      path = ["items", toString index] ∧ schemas[index]? = some i) ∨
    (path = ["additionalItems"] ∧ rules.additionalItems = some i) ∨
    (path = ["contains"] ∧ rules.contains = some i) := by
  cases hitems : rules.items with
  | none => simp [slots, Slots.mem_one, hitems]
  | some items => simp [slots, Slots.mem_one, hitems, Items.mem_slots, or_assoc]

@[simp] theorem ObjectRules.mem_slots {rules : ObjectRules} : (path, i) ∈ rules.slots ↔
    (∃ key, path = ["properties", key] ∧ (key, i) ∈ rules.properties) ∨
    (∃ pattern : Pattern, path = ["patternProperties", pattern.source] ∧
      (pattern, i) ∈ rules.patternProperties) ∨
    (path = ["additionalProperties"] ∧ rules.additionalProperties = some i) ∨
    (∃ key, path = ["dependencies", key] ∧ (key, .schema i) ∈ rules.dependencies) ∨
    (path = ["propertyNames"] ∧ rules.propertyNames = some i) := by
  have hpatterns : (∃ key, path = ["patternProperties", key] ∧ (key, i) ∈
      rules.patternProperties.map fun entry => (entry.1.source, entry.2)) ↔
        ∃ pattern : Pattern, path = ["patternProperties", pattern.source] ∧
          (pattern, i) ∈ rules.patternProperties := by
    simp only [List.mem_map, Prod.exists, Prod.mk.injEq]
    grind
  have hdependencies : (path, i) ∈ rules.dependencies.flatMap
      (fun entry => entry.2.slots entry.1) ↔
        ∃ key, path = ["dependencies", key] ∧ (key, .schema i) ∈ rules.dependencies := by
    simp only [List.mem_flatMap, Prod.exists, Dependency.mem_slots]
    grind
  simp only [slots, List.mem_append, Slots.mem_one, Slots.mem_named, hpatterns, hdependencies]

@[simp] theorem Combinators.mem_slots {c : Combinators} : (path, i) ∈ c.slots ↔
    (∃ index : Nat, path = ["allOf", toString index] ∧ c.allOf[index]? = some i) ∨
    (∃ index : Nat, path = ["anyOf", toString index] ∧ c.anyOf[index]? = some i) ∨
    (∃ index : Nat, path = ["oneOf", toString index] ∧ c.oneOf[index]? = some i) ∨
    (path = ["not"] ∧ c.not = some i) ∨
    ∃ conditional, c.conditional = some conditional ∧
      ((path = ["if"] ∧ conditional.condition = i) ∨
        (path = ["then"] ∧ conditional.consequent = some i) ∨
        (path = ["else"] ∧ conditional.alternative = some i)) := by
  cases hconditional : c.conditional with
  | none => simp [slots, Slots.mem_one, Slots.mem_list, hconditional]
  | some conditional =>
      simp [slots, Slots.mem_one, Slots.mem_list, hconditional, Conditional.slots]

@[simp] theorem Keywords.mem_slots {k : Keywords} : (path, i) ∈ k.slots ↔
    (path, i) ∈ k.arrays.slots ∨ (path, i) ∈ k.objects.slots ∨ (path, i) ∈ k.combinators.slots := by
  simp only [slots, List.mem_append]

theorem Keywords.mem_slots_property {k : Keywords} {key : String} :
    (["properties", key], i) ∈ k.slots ↔ (key, i) ∈ k.objects.properties := by simp

theorem Keywords.mem_slots_pattern {k : Keywords} {source : String} :
    (["patternProperties", source], i) ∈ k.slots ↔ ∃ pattern : Pattern,
      source = pattern.source ∧ (pattern, i) ∈ k.objects.patternProperties := by simp

theorem Keywords.mem_slots_dependency {k : Keywords} {key : String} :
    (["dependencies", key], i) ∈ k.slots ↔ (key, .schema i) ∈ k.objects.dependencies := by simp

/-- A lookup gives one of the values, and fails only if there is none. -/
theorem mem_of_lookup {members : List (String × Nat)} {key : String}
    (hlookup : members.lookup key = some i) : (key, i) ∈ members := by
  obtain ⟨before, after, rfl, -⟩ := List.lookup_eq_some_iff.mp hlookup
  exact List.mem_append_right _ List.mem_cons_self

theorem exists_lookup_of_mem {members : List (String × Nat)} {key : String}
    (hmem : (key, i) ∈ members) : ∃ j, members.lookup key = some j := by
  cases hlookup : members.lookup key with
  | some j => exact ⟨j, rfl⟩
  | none =>
      have hother := List.lookup_eq_none_iff.mp hlookup _ hmem
      simp at hother

end Fields

/-- Slots at the same paths, with related schemas at each. -/
structure Slots.Related (R : Nat → Nat → Prop) (first second : Slots Nat) : Prop where
  related : ∀ path i j, (path, i) ∈ first → (path, j) ∈ second → R i j
  forth : ∀ path i, (path, i) ∈ first → ∃ j, (path, j) ∈ second
  back : ∀ path j, (path, j) ∈ second → ∃ i, (path, i) ∈ first

section Related

variable {R : Nat → Nat → Prop} {first second : Slots Nat}

theorem Slots.Related.option (h : Slots.Related R first second) (path : List String)
    {a b : Option Nat} (ha : ∀ i, (path, i) ∈ first ↔ a = some i)
    (hb : ∀ j, (path, j) ∈ second ↔ b = some j) : Option.Rel R a b := by
  cases a with
  | none =>
      cases b with
      | none => exact .none
      | some j =>
          obtain ⟨i, hi⟩ := h.back path j ((hb j).mpr rfl)
          cases (ha i).mp hi
  | some i =>
      obtain ⟨j, hj⟩ := h.forth path i ((ha i).mpr rfl)
      rw [(hb j).mp hj]
      exact .some (h.related path i j ((ha i).mpr rfl) hj)

theorem Slots.Related.list (h : Slots.Related R first second) (keyword : String) {is js : List Nat}
    (his : ∀ (index i : Nat), ([keyword, toString index], i) ∈ first ↔ is[index]? = some i)
    (hjs : ∀ (index j : Nat), ([keyword, toString index], j) ∈ second ↔ js[index]? = some j) :
    List.Forall₂ R is js := by
  have hrel : ∀ index : Nat, Option.Rel R is[index]? js[index]? := fun index =>
    h.option [keyword, toString index] (his index) (hjs index)
  clear his hjs
  induction is generalizing js with
  | nil =>
      cases js with
      | nil => exact .nil
      | cons j js => cases hrel 0
  | cons i is ih =>
      cases js with
      | nil => cases hrel 0
      | cons j js =>
          refine .cons ?_ (ih fun index => hrel (index + 1))
          cases hrel 0 with
          | some hfirst => exact hfirst

variable {k l : Keywords} (h : Slots.Related R k.slots l.slots)

include h

theorem Items.alike (hkind : k.arrays.items.isSome = l.arrays.items.isSome) :
    Option.Rel (Items.Alike R) k.arrays.items l.arrays.items := by
  refine rel_of_isSome_eq hkind fun items others hfirst hsecond => ?_
  cases items with
  | each i =>
      obtain ⟨j, hj⟩ := h.forth ["items"] i (by simp [hfirst])
      have heach : others = .each j := by simpa [hsecond] using hj
      subst heach
      exact .each (h.related ["items"] i j (by simp [hfirst]) hj)
  | tuple is =>
      cases others with
      | each j =>
          obtain ⟨i, hi⟩ := h.back ["items"] j (by simp [hsecond])
          simp [hfirst] at hi
      | tuple js =>
          refine .tuple (h.list "items" ?_ ?_)
          · simp [hfirst]
          · simp [hsecond]

theorem rel_properties (key : String) :
    Option.Rel R (k.objects.properties.lookup key) (l.objects.properties.lookup key) := by
  cases hfirst : k.objects.properties.lookup key with
  | none =>
      cases hsecond : l.objects.properties.lookup key with
      | none => exact .none
      | some j =>
          obtain ⟨i, hi⟩ := h.back _ j (Keywords.mem_slots_property.mpr (mem_of_lookup hsecond))
          obtain ⟨i', hi'⟩ := exists_lookup_of_mem (Keywords.mem_slots_property.mp hi)
          cases hfirst.symm.trans hi'
  | some i =>
      have hi := Keywords.mem_slots_property.mpr (mem_of_lookup hfirst)
      obtain ⟨j, hj⟩ := h.forth _ i hi
      obtain ⟨j', hj'⟩ := exists_lookup_of_mem (Keywords.mem_slots_property.mp hj)
      rw [hj']
      exact .some (h.related _ i j' hi (Keywords.mem_slots_property.mpr (mem_of_lookup hj')))

variable {s t : Site} (hk : k.ReadAt s) (hl : l.ReadAt t)
  (hagree : (Json.object s.members).Agree (.object t.members))

include hk hl hagree

theorem ArrayRules.alike : k.arrays.Alike R l.arrays where
  items := by
    apply Items.alike h
    rw [hk.arrays.items, hl.arrays.items]
    exact hagree.isSome_member? "items"
  additionalItems := h.option ["additionalItems"] (by simp) (by simp)
  minItems := eq_of_toOption (Site.natural?_eq hagree _) hk.arrays.minItems hl.arrays.minItems
  maxItems := eq_of_toOption (Site.natural?_eq hagree _) hk.arrays.maxItems hl.arrays.maxItems
  uniqueItems := eq_of_toOption (Site.flag_eq hagree _) hk.arrays.uniqueItems hl.arrays.uniqueItems
  contains := h.option ["contains"] (by simp) (by simp)

omit hagree in
/-- Patterns with one source are one pattern. -/
theorem matched_patternProperties : Matched (fun e f => e.1 = f.1 ∧ R e.2 f.2)
    k.objects.patternProperties l.objects.patternProperties := by
  have hsame : ∀ e ∈ k.objects.patternProperties, ∀ f ∈ l.objects.patternProperties,
      e.1.source = f.1.source → e.1 = f.1 := by
    intro e he f hf hsource
    have hread := hk.objects.patterns e he
    rw [hsource] at hread
    exact eq_of_toOption (Site.regexp_eq _ _) hread (hl.objects.patterns f hf)
  constructor
  · rintro ⟨pattern, i⟩ he
    have hi := Keywords.mem_slots_pattern.mpr ⟨pattern, rfl, he⟩
    obtain ⟨j, hj⟩ := h.forth _ i hi
    obtain ⟨other, hsource, hf⟩ := Keywords.mem_slots_pattern.mp hj
    exact ⟨(other, j), hf, hsame _ he _ hf hsource, h.related _ i j hi hj⟩
  · rintro ⟨pattern, j⟩ hf
    have hj := Keywords.mem_slots_pattern.mpr ⟨pattern, rfl, hf⟩
    obtain ⟨i, hi⟩ := h.back _ j hj
    obtain ⟨other, hsource, he⟩ := Keywords.mem_slots_pattern.mp hi
    exact ⟨(other, i), he, hsame _ he _ hf hsource.symm, h.related _ i j hi hj⟩

omit hk hl hagree in
/-- Members that are equal require the same names, or related schemas. -/
theorem dependency_alike {member member' : String × Json} {entry entry' : String × Dependency}
    (hread : Dependency.ReadAt s member entry) (hread' : Dependency.ReadAt t member' entry')
    (hname : member.1 = member'.1) (hvalue : member.2.Agree member'.2)
    (he : entry ∈ k.objects.dependencies) (hf : entry' ∈ l.objects.dependencies) :
    entry.1 = entry'.1 ∧ entry.2.Alike R entry'.2 := by
  have hstrings : (s.strings "dependencies" member.2).toOption =
      (t.strings "dependencies" member'.2).toOption := Site.strings_eq _ hvalue
  have hkey : entry.1 = entry'.1 := by rw [hread.1, hread'.1, hname]
  refine ⟨hkey, ?_⟩
  obtain ⟨key, required⟩ := entry
  obtain ⟨key', required'⟩ := entry'
  obtain rfl : key = key' := hkey
  cases required with
  | keys names =>
      have hnames := ok_of_toOption hstrings ((hread.2 names).mp rfl)
      obtain rfl : required' = .keys names := (hread'.2 names).mpr hnames
      exact .keys names
  | schema i =>
      cases required' with
      | keys names =>
          have hnames := ok_of_toOption hstrings.symm ((hread'.2 names).mp rfl)
          cases (hread.2 names).mpr hnames
      | schema j =>
          exact .schema (h.related _ i j (Keywords.mem_slots_dependency.mpr he)
            (Keywords.mem_slots_dependency.mpr hf))

theorem matched_dependencies : Matched (fun e f => e.1 = f.1 ∧ e.2.Alike R f.2)
    k.objects.dependencies l.objects.dependencies := by
  have htables := Site.matched_membersOf (hagree.rel_member? "dependencies")
  have hfirst := Matched.of_forall₂ hk.objects.dependencies
  have hsecond := Matched.of_forall₂ hl.objects.dependencies
  constructor
  · intro entry he
    obtain ⟨member, hmember, hread⟩ := hfirst.2 entry he
    obtain ⟨member', hmember', hname, hvalue⟩ := htables.1 member hmember
    obtain ⟨entry', hf, hread'⟩ := hsecond.1 member' hmember'
    exact ⟨entry', hf, dependency_alike h hread hread' hname hvalue he hf⟩
  · intro entry' hf
    obtain ⟨member', hmember', hread'⟩ := hsecond.2 entry' hf
    obtain ⟨member, hmember, hname, hvalue⟩ := htables.2 member' hmember'
    obtain ⟨entry, he, hread⟩ := hfirst.1 member hmember
    exact ⟨entry, he, dependency_alike h hread hread' hname hvalue he hf⟩

theorem ObjectRules.alike : k.objects.Alike R l.objects where
  properties := rel_properties h
  patternProperties := matched_patternProperties h hk hl
  additionalProperties := h.option ["additionalProperties"] (by simp) (by simp)
  required := eq_of_toOption (Site.required_eq hagree) hk.objects.required hl.objects.required
  minProperties :=
    eq_of_toOption (Site.natural?_eq hagree _) hk.objects.minProperties hl.objects.minProperties
  maxProperties :=
    eq_of_toOption (Site.natural?_eq hagree _) hk.objects.maxProperties hl.objects.maxProperties
  dependencies := matched_dependencies h hk hl hagree
  propertyNames := h.option ["propertyNames"] (by simp) (by simp)

omit hk hl hagree in
theorem rel_conditional : Option.Rel (Conditional.Alike R) k.combinators.conditional
    l.combinators.conditional := by
  cases hfirst : k.combinators.conditional with
  | none =>
      cases hsecond : l.combinators.conditional with
      | none => exact .none
      | some d =>
          obtain ⟨i, hi⟩ := h.back ["if"] d.condition (by simp [hsecond])
          simp [hfirst] at hi
  | some c =>
      cases hsecond : l.combinators.conditional with
      | none =>
          obtain ⟨j, hj⟩ := h.forth ["if"] c.condition (by simp [hfirst])
          simp [hsecond] at hj
      | some d =>
          refine .some ⟨?_, ?_, ?_⟩
          · exact h.related ["if"] _ _ (by simp [hfirst]) (by simp [hsecond])
          · exact h.option ["then"] (by simp [hfirst]) (by simp [hsecond])
          · exact h.option ["else"] (by simp [hfirst]) (by simp [hsecond])

omit hk hl hagree in
theorem Combinators.alike : k.combinators.Alike R l.combinators where
  allOf := h.list "allOf" (by simp) (by simp)
  anyOf := h.list "anyOf" (by simp) (by simp)
  oneOf := h.list "oneOf" (by simp) (by simp)
  not := h.option ["not"] (by simp) (by simp)
  conditional := rel_conditional h

omit h in
theorem enum_alike {v w : Json} (hvalue : v.Agree w) :
    holdsFor k.enum (fun options => options.any (·.same v)) =
      holdsFor l.enum (fun options => options.any (·.same w)) := by
  have hrel := Site.enum?_rel hagree hk.enum hl.enum
  generalize k.enum = first, l.enum = second at hrel
  cases hrel with
  | none => rfl
  | some hoptions =>
      change List.any _ _ = List.any _ _
      induction hoptions with
      | nil => rfl
      | cons hoption _ ih =>
          rw [List.any_cons, List.any_cons, hvalue.same_eq hoption, ih]

omit h in
theorem const_alike {v w : Json} (hvalue : v.Agree w) :
    holdsFor k.const (·.same v) = holdsFor l.const (·.same w) := by
  have hrel := Site.rel_keyword? hagree "const"
  rw [hk.const, hl.const]
  generalize s.keyword? "const" = first, t.keyword? "const" = second at hrel
  cases hrel with
  | none => rfl
  | some hoption => exact hvalue.same_eq hoption

/-- Keywords with related slots that were read from equal values are alike. -/
theorem Keywords.alike (hreference : k.reference = l.reference) : k.Alike R l where
  reference := hreference
  types := eq_of_toOption (Site.types?_eq hagree) hk.types hl.types
  numbers := hk.numbers.alike hagree hl.numbers
  strings := hk.strings.eq hagree hl.strings
  arrays := ArrayRules.alike h hk hl hagree
  objects := ObjectRules.alike h hk hl hagree
  enum := enum_alike hk hl hagree
  const := const_alike hk hl hagree
  combinators := Combinators.alike h

end Related

/-- The schemas at two indices have alike positions in two lists. -/
def AlikePlaces (places others : List Position) (i j : Nat) : Prop :=
  ∃ p q, places[i]? = some p ∧ others[j]? = some q ∧ p.Alike q

section Compiled

/-- A compiled schema refers to what its value holds, where the keyword means something. -/
theorem Entry.CompiledAt.exists_slot_iff {entry : Entry} {i : Nat} {p : Position}
    {places : List Position} (hentry : entry.CompiledAt i p places) {path : List String} :
    (∃ inner, (path, inner) ∈ entry.node.slots) ↔
      Slots.linkable p.raw.conditional path = true ∧ ∃ value, (path, value) ∈ p.raw.subschemas := by
  have hpath : path ∈ entry.node.slots.map Prod.fst ↔
      path ∈ (p.raw.subschemas.linked p.raw.conditional).map Prod.fst := by rw [hentry.paths]
  simpa [Slots.linked, and_comm] using hpath

variable {entry other : Entry} {i j : Nat} {p q : Position} {places others : List Position}

theorem exists_slot_of_alike (hentry : entry.CompiledAt i p places)
    (hother : other.CompiledAt j q others) (halike : p.Alike q) {path : List String} {inner : Nat}
    (hslot : (path, inner) ∈ entry.node.slots) : ∃ inner', (path, inner') ∈ other.node.slots := by
  obtain ⟨hlinkable, value, hvalue⟩ := hentry.exists_slot_iff.mp ⟨inner, hslot⟩
  obtain ⟨value', hvalue', -⟩ := halike.raw.subschema hvalue
  rw [halike.raw.conditional_eq] at hlinkable
  exact hother.exists_slot_iff.mpr ⟨hlinkable, value', hvalue'⟩

variable (hentry : entry.CompiledAt i p places) (hother : other.CompiledAt j q others)
  (halike : p.Alike q)

include hentry hother halike

theorem slots_related : Slots.Related (AlikePlaces places others) entry.node.slots
    other.node.slots where
  related path inner inner' hslot hslot' := by
    obtain ⟨-, value, hvalue, hplace⟩ := hentry.slots path inner hslot
    obtain ⟨-, value', hvalue', hplace'⟩ := hother.slots path inner' hslot'
    obtain ⟨mirror, hmirror, hagree⟩ := halike.raw.subschema hvalue
    -- No path leads to two values, so the mirrored one is what was compiled there.
    cases Json.eq_of_path_eq halike.raw.right.keys hmirror hvalue' rfl
    exact ⟨_, _, hplace, hplace', halike.inner path hagree⟩
  forth path inner hslot := exists_slot_of_alike hentry hother halike hslot
  back path inner' hslot' := exists_slot_of_alike hother hentry halike.symm hslot'

/-- Schemas that were compiled from equal values are alike. -/
theorem Entry.CompiledAt.alike (hreference : entry.node.reference? = other.node.reference?) :
    entry.node.Alike (AlikePlaces places others) other.node := by
  have hslots := slots_related hentry hother halike
  have hraw := halike.raw
  unfold Node.slots at hslots
  unfold Node.reference? at hreference
  unfold Node.Alike
  rcases hentry.made.body with ⟨accepts, hp, hbody⟩ | ⟨members, k, hp, hbody, hk⟩ <;>
    rcases hother.made.body with ⟨accepts', hq, hbody'⟩ | ⟨members', l, hq, hbody', hl⟩ <;>
    rw [hp, hq] at hraw <;> rw [hbody, hbody'] at hslots hreference ⊢
  · cases hraw.cases
    exact .constant accepts
  · cases hraw.cases
  · cases hraw.cases
  · exact .keywords (Keywords.alike hslots hk hl hraw hreference)

end Compiled

end SchemaRegistry

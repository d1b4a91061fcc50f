import SchemaRegistry.Proofs.Invariance.Content
import SchemaRegistry.Proofs.Reports.Origins

/-!
What the plans of a schema hand on. A link that is handed on is that of a schema in a slot, with the
path of the slot as the way to it and a part of the value as the value that it gets; or that of a
schema for names, which gets a name; or the reference of the schema itself.
-/

namespace SchemaRegistry

/-- The ways in which a schema hands on what others find about a value. -/
inductive Report.Fits (n : Node) : Json → Report → Prop
  | part {whole part : Json} {path item : List String} {inner : Nat}
      (hslot : (path, inner) ∈ n.slots) (hpath : path ≠ ["propertyNames"])
      (hpart : whole.at? item = some part) : Fits n whole ⟨path, item, .schema inner, part⟩
  | name {members : List (String × Json)} {key : String} {held : Json} {inner : Nat}
      (hslot : (["propertyNames"], inner) ∈ n.slots)
      (hmember : Json.member? key members = some held) :
      Fits n (.object members) ⟨["propertyNames"], [key], .schema inner, .string key⟩
  | target {whole : Json} {reference : Reference} (hreference : n.reference? = some reference) :
      Fits n whole ⟨[], [], .reference reference, whole⟩

theorem Report.Fits.keysDistinct {n : Node} {value : Json} {call : Report}
    (hfits : call.Fits n value) (hvalue : value.keysDistinct = true) :
    call.value.keysDistinct = true := by
  cases hfits with
  | part hslot hpath hpart => exact Json.keysDistinct_of_at? hvalue hpart
  | name hslot hmember => rfl
  | target hreference => exact hvalue

theorem Report.Fits.mem_links {n : Node} {value : Json} {call : Report}
    (hfits : call.Fits n value) {schema : Nat} (hlink : call.link = .schema schema) :
    Link.schema schema ∈ n.links := by
  cases hfits with
  | part hslot hpath hpart =>
      cases hlink
      exact (n.mem_slots_iff schema).mp (List.mem_map_of_mem hslot)
  | name hslot hmember =>
      cases hlink
      exact (n.mem_slots_iff schema).mp (List.mem_map_of_mem hslot)
  | target hreference => cases hlink

namespace ArrayRules

theorem mem_reportsOf_planEach {schema index : Nat} {items : List Json} {call : Report}
    (hcall : call ∈ reportsOf (planEach schema index items)) :
    ∃ (n : Nat) (item : Json), items[n]? = some item ∧
      call = ⟨[], [toString (index + n)], .schema schema, item⟩ := by
  obtain ⟨step, hstep, inner, hinner, rfl⟩ := mem_reportsOf.mp hcall
  obtain ⟨n, item, hitem, rfl⟩ := mem_planEach.mp hstep
  obtain rfl := List.mem_singleton.mp hinner
  exact ⟨n, item, hitem, rfl⟩

theorem mem_reportsOf_planTuple {index : Nat} {schemas : List Nat} {items : List Json}
    {call : Report} (hcall : call ∈ reportsOf (planTuple index schemas items)) :
    ∃ (n schema : Nat) (item : Json), schemas[n]? = some schema ∧ items[n]? = some item ∧
      call = ⟨[toString (index + n)], [toString (index + n)], .schema schema, item⟩ := by
  obtain ⟨step, hstep, inner, hinner, rfl⟩ := mem_reportsOf.mp hcall
  obtain ⟨n, schema, item, hschema, hitem, rfl⟩ := mem_planTuple.mp hstep
  obtain rfl := List.mem_singleton.mp hinner
  exact ⟨n, schema, item, hschema, hitem, rfl⟩

end ArrayRules

theorem Combinators.mem_reportsOf_planAll {value : Json} {index : Nat} {schemas : List Nat}
    {call : Report} (hcall : call ∈ reportsOf (planAll value index schemas)) :
    ∃ n schema : Nat, schemas[n]? = some schema ∧
      call = ⟨[toString (index + n)], [], .schema schema, value⟩ := by
  obtain ⟨step, hstep, inner, hinner, rfl⟩ := mem_reportsOf.mp hcall
  obtain ⟨n, schema, hschema, rfl⟩ := mem_planAll.mp hstep
  obtain rfl := List.mem_singleton.mp hinner
  exact ⟨n, schema, hschema, rfl⟩

@[simp] theorem ObjectRules.reportsOf_planMissing (members : List (String × Json)) (index : Nat)
    (names : List String) : reportsOf (planMissing members index names) = [] := by
  apply List.eq_nil_iff_forall_not_mem.mpr
  intro call hcall
  obtain ⟨step, hstep, inner, hinner, -⟩ := mem_reportsOf.mp hcall
  obtain ⟨n, name, -, rfl⟩ := mem_planMissing.mp hstep
  cases hinner

section Keywords

variable {n : Node} {k : Keywords} (hbody : n.body = .keywords k)

include hbody

theorem Node.slots_of_body : n.slots = k.slots := by
  unfold slots
  rw [hbody]

theorem ArrayRules.fits_of_mem_plan {items : List Json} {call : Report}
    (hcall : call ∈ reportsOf (k.arrays.plan items)) : call.Fits n (.array items) := by
  have hslots := Node.slots_of_body hbody
  have hitems : call ∈ reportsOf (k.arrays.planItems items) := by
    have hcontains : reportsOf (k.arrays.planContains items) = [] := by
      unfold planContains
      cases k.arrays.contains <;> rfl
    simpa [plan, hcontains] using hcall
  unfold planItems at hitems
  cases hrule : k.arrays.items with
  | none =>
      rw [hrule] at hitems
      cases hitems
  | some rule =>
      rw [hrule] at hitems
      cases rule with
      | each schema =>
          rw [reportsOf_within] at hitems
          obtain ⟨inner, hinner, rfl⟩ := List.mem_map.mp hitems
          obtain ⟨index, item, hitem, rfl⟩ := mem_reportsOf_planEach hinner
          refine .part ?_ ?_ ?_
          · simp [hslots, hrule]
          · simp
          · simpa using hitem
      | tuple schemas =>
          rw [reportsOf_append, List.mem_append, reportsOf_within] at hitems
          rcases hitems with htuple | hadditional
          · obtain ⟨inner, hinner, rfl⟩ := List.mem_map.mp htuple
            obtain ⟨index, schema, item, hschema, hitem, rfl⟩ := mem_reportsOf_planTuple hinner
            refine .part ?_ ?_ ?_
            · simp [hslots, hrule, hschema]
            · simp
            · simpa using hitem
          · cases hadditionalItems : k.arrays.additionalItems with
            | none =>
                rw [hadditionalItems] at hadditional
                cases hadditional
            | some schema =>
                rw [hadditionalItems, reportsOf_within] at hadditional
                obtain ⟨inner, hinner, rfl⟩ := List.mem_map.mp hadditional
                obtain ⟨index, item, hitem, rfl⟩ := mem_reportsOf_planEach hinner
                rw [List.getElem?_drop] at hitem
                refine .part ?_ ?_ ?_
                · simp [hslots, hadditionalItems]
                · simp
                · simpa using hitem

namespace ObjectRules

theorem fits_of_mem_planMember {members : List (String × Json)} {key : String} {value : Json}
    (hmember : Json.member? key members = some value) {call : Report}
    (hcall : call ∈ reportsOf (k.objects.planMember key value)) :
    call.Fits n (.object members) := by
  have hslots := Node.slots_of_body hbody
  have hpart : (Json.object members).at? [key] = some value := by simp [hmember]
  unfold planMember at hcall
  simp only [reportsOf_append, List.mem_append] at hcall
  rcases hcall with hnamed | hmatching | hadditional
  · cases hlookup : k.objects.properties.lookup key with
    | none =>
        rw [hlookup] at hnamed
        cases hnamed
    | some schema =>
        rw [hlookup] at hnamed
        obtain rfl := List.mem_singleton.mp hnamed
        refine .part ?_ ?_ hpart
        · simp [hslots, mem_of_lookup hlookup]
        · simp
  · obtain ⟨step, hstep, inner, hinner, rfl⟩ := mem_reportsOf.mp hmatching
    obtain ⟨⟨pattern, schema⟩, hentry, rfl⟩ := List.mem_map.mp hstep
    obtain rfl := List.mem_singleton.mp hinner
    have hpattern := (List.mem_filter.mp hentry).1
    refine .part ?_ ?_ hpart
    · rw [hslots]
      exact Keywords.mem_slots_pattern.mpr ⟨pattern, rfl, hpattern⟩
    · simp
  · split at hadditional
    · cases hrule : k.objects.additionalProperties with
      | none =>
          rw [hrule] at hadditional
          cases hadditional
      | some schema =>
          rw [hrule] at hadditional
          obtain rfl := List.mem_singleton.mp hadditional
          refine .part ?_ ?_ hpart
          · simp [hslots, hrule]
          · simp
    · cases hadditional

theorem fits_of_mem_planDependency {members : List (String × Json)} {entry : String × Dependency}
    (hentry : entry ∈ k.objects.dependencies) {call : Report}
    (hcall : call ∈ reportsOf (planDependency members entry)) : call.Fits n (.object members) := by
  have hslots := Node.slots_of_body hbody
  obtain ⟨key, dependency⟩ := entry
  unfold planDependency at hcall
  split at hcall
  · cases dependency with
    | keys names =>
        rw [reportsOf_within, reportsOf_within, reportsOf_planMissing] at hcall
        cases hcall
    | schema schema =>
        obtain rfl := List.mem_singleton.mp hcall
        refine .part ?_ ?_ (Json.at?_nil _)
        · rw [hslots]
          exact Keywords.mem_slots_dependency.mpr hentry
        · simp
  · cases hcall

theorem fits_of_mem_planNames {members : List (String × Json)}
    (hdistinct : (Json.object members).keysDistinct = true) {call : Report}
    (hcall : call ∈ reportsOf (k.objects.planNames members)) : call.Fits n (.object members) := by
  have hslots := Node.slots_of_body hbody
  unfold planNames at hcall
  cases hrule : k.objects.propertyNames with
  | none =>
      rw [hrule] at hcall
      cases hcall
  | some schema =>
      rw [hrule] at hcall
      obtain ⟨step, hstep, inner, hinner, rfl⟩ := mem_reportsOf.mp hcall
      obtain ⟨⟨key, held⟩, hmember, rfl⟩ := List.mem_map.mp hstep
      obtain rfl := List.mem_singleton.mp hinner
      refine .name ?_ (Json.child?_of_mem hdistinct hmember)
      simp [hslots, hrule]

theorem fits_of_mem_plan {members : List (String × Json)}
    (hdistinct : (Json.object members).keysDistinct = true) {call : Report}
    (hcall : call ∈ reportsOf (k.objects.plan members)) : call.Fits n (.object members) := by
  unfold plan at hcall
  simp only [reportsOf_append, reportsOf_within, reportsOf_planMissing, reportsOf_flatMap,
    reportsOf_cons, reports_test, reportsOf_nil, List.map_nil, List.nil_append, List.mem_append,
    List.mem_flatMap] at hcall
  rcases hcall with ⟨⟨key, value⟩, hmember, hcall⟩ | ⟨entry, hentry, hcall⟩ | hcall
  · exact fits_of_mem_planMember hbody (Json.child?_of_mem hdistinct hmember) hcall
  · exact fits_of_mem_planDependency hbody hentry hcall
  · exact fits_of_mem_planNames hbody hdistinct hcall

end ObjectRules

namespace Combinators

theorem fits_of_mem_planConditional {value : Json} {conditional : Conditional}
    (hrule : k.combinators.conditional = some conditional) {call : Report}
    (hcall : call ∈ (Action.choose conditional value).reports) : call.Fits n value := by
  have hslots := Node.slots_of_body hbody
  rcases List.mem_append.mp hcall with hthen | helse
  · obtain ⟨schema, hschema, rfl⟩ := List.mem_map.mp hthen
    have hconsequent := Option.mem_toList.mp hschema
    refine .part ?_ ?_ (Json.at?_nil _)
    · simp [hslots, hrule, Option.mem_def.mp hconsequent]
    · simp
  · obtain ⟨schema, hschema, rfl⟩ := List.mem_map.mp helse
    have halternative := Option.mem_toList.mp hschema
    refine .part ?_ ?_ (Json.at?_nil _)
    · simp [hslots, hrule, Option.mem_def.mp halternative]
    · simp

theorem fits_of_mem_plan {value : Json} {call : Report}
    (hcall : call ∈ reportsOf (k.combinators.plan value)) : call.Fits n value := by
  have hslots := Node.slots_of_body hbody
  unfold plan at hcall
  simp only [reportsOf_append, reportsOf_within, List.mem_append, List.mem_map] at hcall
  rcases hcall with ⟨inner, hinner, rfl⟩ | hany | hone | hnot | hconditional
  · obtain ⟨index, schema, hschema, rfl⟩ := mem_reportsOf_planAll hinner
    refine .part ?_ ?_ (Json.at?_nil _)
    · simp [hslots, hschema]
    · simp
  · split at hany
    · cases hany
    · rw [reportsOf_cons, reportsOf_nil, List.append_nil] at hany
      obtain ⟨inner, hinner, rfl⟩ := List.mem_map.mp hany
      obtain ⟨⟨schema, index⟩, hschema, rfl⟩ := List.mem_map.mp hinner
      have hschema := List.mem_zipIdx_iff_getElem?.mp hschema
      refine .part ?_ ?_ (Json.at?_nil _)
      · simp [hslots, hschema]
      · simp
  · split at hone <;> cases hone
  · cases hrule : k.combinators.not <;> rw [hrule] at hnot <;> cases hnot
  · cases hrule : k.combinators.conditional with
    | none =>
        rw [hrule] at hconditional
        cases hconditional
    | some conditional =>
        rw [hrule, reportsOf_cons, reportsOf_nil, List.append_nil] at hconditional
        obtain ⟨inner, hinner, rfl⟩ := List.mem_map.mp hconditional
        exact fits_of_mem_planConditional hbody hrule hinner

end Combinators

end Keywords

/-- What a schema hands on fits it. -/
theorem Node.fits_of_mem_plan (n : Node) {epsilon : Binary64} {value : Json}
    (hdistinct : value.keysDistinct = true) {call : Report}
    (hcall : call ∈ reportsOf (n.plan epsilon value)) : call.Fits n value := by
  unfold plan at hcall
  cases hbody : n.body with
  | constant accepts =>
      rw [hbody] at hcall
      cases hcall
  | keywords k =>
      simp only [hbody, Keywords.plan, Keywords.planValues, reportsOf_append, reportsOf_cons,
        reports_test, reportsOf_nil, List.map_nil, List.nil_append, List.mem_append] at hcall
      rcases hcall with hreference | hkind | hcombinators
      · unfold Keywords.planReference at hreference
        cases hrule : k.reference with
        | none =>
            rw [hrule] at hreference
            cases hreference
        | some reference =>
            rw [hrule] at hreference
            obtain rfl := List.mem_singleton.mp hreference
            apply Report.Fits.target
            unfold reference?
            rw [hbody]
            exact hrule
      · cases value with
        | array items => exact ArrayRules.fits_of_mem_plan hbody hkind
        | object members => exact ObjectRules.fits_of_mem_plan hbody hdistinct hkind
        | _ => cases hkind
      · exact Combinators.fits_of_mem_plan hbody hcombinators

end SchemaRegistry

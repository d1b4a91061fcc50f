import SchemaRegistry.Proofs.Judgement.Plan

/-!
The graph of the schemas of a registry. A schema has links to the schemas that its plans may ask,
directly or by a reference. A staying link passes on the value itself, a descending one an item, a
member or the name of a member, which are all less high than the value. Every call of a plan goes
along a link of the schema, and a plan that stops does so because a call stops.
-/

namespace SchemaRegistry

/-- What a plan asks: a schema, or the target of a reference. -/
inductive Link where
  | schema (index : Nat)
  | reference (reference : Reference)
  deriving DecidableEq

def Conditional.links (conditional : Conditional) : List Nat :=
  conditional.condition :: (conditional.consequent.toList ++ conditional.alternative.toList)

/-- What an action may ask, with the values it asks about. -/
def Action.calls : Action → List (Link × Json)
  | test _ => []
  | follow reference value => [(.reference reference, value)]
  | descend _ schema value => [(.schema schema, value)]
  | count _ cases => cases.map fun c => (.schema c.1, c.2)
  | any schemas value => schemas.map (.schema ·, value)
  | choose conditional value => conditional.links.map (.schema ·, value)

/-- What a plan may ask, with the values it asks about. -/
def callsOf (steps : List Step) : List (Link × Json) := steps.flatMap (·.action.calls)

def ArrayRules.links (rules : ArrayRules) : List Nat :=
  (match rules.items with
    | none => []
    | some (.each schema) => [schema]
    | some (.tuple schemas) => schemas) ++ (rules.additionalItems.toList ++ rules.contains.toList)

/-- The schemas for the members of an object and for their names. -/
def ObjectRules.links (rules : ObjectRules) : List Nat :=
  rules.properties.map (·.2) ++ (rules.patternProperties.map (·.2) ++
    (rules.additionalProperties.toList ++ rules.propertyNames.toList))

def Dependency.link? : Dependency → Option Nat
  | keys _ => none
  | schema index => some index

/-- The schemas that members require of the object. -/
def ObjectRules.dependencyLinks (rules : ObjectRules) : List Nat :=
  rules.dependencies.filterMap (·.2.link?)

/-- The schemas that are combined. -/
def Combinators.links (c : Combinators) : List Nat :=
  c.allOf ++ (c.anyOf ++ (c.oneOf ++ (c.not.toList ++ c.conditional.toList.flatMap (·.links))))

/-- The links along which the value itself is passed on. -/
def Node.staying (n : Node) : List Link :=
  match n.body with
  | .constant _ => []
  | .keywords k =>
    k.reference.toList.map .reference ++
      (k.objects.dependencyLinks ++ k.combinators.links).map .schema

/-- The links along which a part of the value is passed on. -/
def Node.descending (n : Node) : List Link :=
  match n.body with
  | .constant _ => []
  | .keywords k => (k.arrays.links ++ k.objects.links).map .schema

theorem Node.reference?_of_staying {node : Node} {reference : Reference}
    (hlink : Link.reference reference ∈ node.staying) : node.reference? = some reference := by
  unfold Node.staying at hlink
  unfold Node.reference?
  cases hbody : node.body with
  | constant accepts =>
      rw [hbody] at hlink
      exact absurd hlink List.not_mem_nil
  | keywords k =>
      rw [hbody] at hlink
      simpa using hlink

theorem Node.not_reference_descending {node : Node} {reference : Reference} :
    Link.reference reference ∉ node.descending := by
  intro hlink
  unfold Node.descending at hlink
  cases hbody : node.body with
  | constant accepts =>
      rw [hbody] at hlink
      exact absurd hlink List.not_mem_nil
  | keywords k =>
      rw [hbody] at hlink
      simp at hlink

section Calls

@[simp] theorem callsOf_nil : callsOf [] = [] := rfl

@[simp] theorem callsOf_cons (step : Step) (rest : List Step) :
    callsOf (step :: rest) = step.action.calls ++ callsOf rest := rfl

@[simp] theorem callsOf_append (first second : List Step) :
    callsOf (first ++ second) = callsOf first ++ callsOf second := List.flatMap_append

@[simp] theorem callsOf_within (token : String) (steps : List Step) :
    callsOf (steps.map (Step.within token)) = callsOf steps := List.flatMap_map ..

@[simp] theorem calls_test (token : String) (ok : Bool) : (Step.test token ok).action.calls = [] :=
  rfl

@[simp] theorem NumberRules.callsOf_plan (rules : NumberRules) (epsilon : Binary64) (n : Number) :
    callsOf (rules.plan epsilon n) = [] := rfl

@[simp] theorem StringRules.callsOf_plan (rules : StringRules) (text : String) :
    callsOf (rules.plan text) = [] := rfl

theorem ArrayRules.callsOf_planEach (schema index : Nat) (items : List Json) :
    callsOf (planEach schema index items) = items.map (.schema schema, ·) := by
  induction items generalizing index with
  | nil => rfl
  | cons item rest ih =>
      rw [planEach, callsOf_cons, ih, List.map_cons]
      rfl

theorem ArrayRules.callsOf_planTuple (index : Nat) (schemas : List Nat) (items : List Json) :
    callsOf (planTuple index schemas items) =
      (schemas.zip items).map fun pair => (.schema pair.1, pair.2) := by
  induction schemas generalizing index items with
  | nil => rfl
  | cons schema schemas ih =>
      cases items with
      | nil => rfl
      | cons item items =>
          rw [planTuple, callsOf_cons, ih, List.zip_cons_cons, List.map_cons]
          rfl

@[simp] theorem ObjectRules.callsOf_planMissing (members : List (String × Json)) (index : Nat)
    (names : List String) : callsOf (planMissing members index names) = [] := by
  induction names generalizing index with
  | nil => rfl
  | cons name rest ih => rw [planMissing, callsOf_cons, calls_test, ih, List.append_nil]

theorem Combinators.callsOf_planAll (value : Json) (index : Nat) (schemas : List Nat) :
    callsOf (planAll value index schemas) = schemas.map (.schema ·, value) := by
  induction schemas generalizing index with
  | nil => rfl
  | cons schema rest ih =>
      rw [planAll, callsOf_cons, ih, List.map_cons]
      rfl

end Calls

namespace Json

theorem height_lt_heightItems {item : Json} {items : List Json} (hitem : item ∈ items) :
    item.height < heightItems items := by
  induction items with
  | nil => exact absurd hitem List.not_mem_nil
  | cons first rest ih =>
      rw [heightItems]
      rcases List.mem_cons.mp hitem with rfl | hrest
      · omega
      · have hbelow := ih hrest
        omega

theorem heightMembers_pos (members : List (String × Json)) : 0 < heightMembers members := by
  induction members with
  | nil => exact Nat.one_pos
  | cons first rest ih =>
      rw [heightMembers]
      omega

theorem height_lt_heightMembers {member : String × Json} {members : List (String × Json)}
    (hmember : member ∈ members) : member.2.height < heightMembers members := by
  induction members with
  | nil => exact absurd hmember List.not_mem_nil
  | cons first rest ih =>
      rw [heightMembers]
      rcases List.mem_cons.mp hmember with rfl | hrest
      · omega
      · have hbelow := ih hrest
        omega

end Json

section Links

namespace ArrayRules

theorem calls_items (rules : ArrayRules) {items : List Json} {call : Link × Json}
    (hcall : call ∈ callsOf (rules.planItems items)) :
    call.1 ∈ rules.links.map Link.schema ∧ call.2 ∈ items := by
  unfold planItems at hcall
  split at hcall
  · next hrules => exact absurd hcall List.not_mem_nil
  · next schema hrules =>
      rw [callsOf_within, callsOf_planEach] at hcall
      obtain ⟨item, hitem, rfl⟩ := List.mem_map.mp hcall
      exact ⟨by simp [links, hrules], hitem⟩
  · next schemas hrules =>
      rw [callsOf_append, List.mem_append, callsOf_within, callsOf_planTuple] at hcall
      rcases hcall with htuple | hbeyond
      · obtain ⟨⟨schema, item⟩, hpair, rfl⟩ := List.mem_map.mp htuple
        obtain ⟨hschema, hitem⟩ := List.of_mem_zip hpair
        exact ⟨by simp [links, hrules, hschema], hitem⟩
      · split at hbeyond
        · exact absurd hbeyond List.not_mem_nil
        · next schema hadditional =>
            rw [callsOf_within, callsOf_planEach] at hbeyond
            obtain ⟨item, hitem, rfl⟩ := List.mem_map.mp hbeyond
            exact ⟨by simp [links, hadditional], List.mem_of_mem_drop hitem⟩

theorem calls_contains (rules : ArrayRules) {items : List Json} {call : Link × Json}
    (hcall : call ∈ callsOf (rules.planContains items)) :
    call.1 ∈ rules.links.map Link.schema ∧ call.2 ∈ items := by
  unfold planContains at hcall
  split at hcall
  · exact absurd hcall List.not_mem_nil
  · next schema hrules =>
      simp only [callsOf_cons, Action.calls, callsOf_nil, List.append_nil, List.map_map] at hcall
      obtain ⟨item, hitem, rfl⟩ := List.mem_map.mp hcall
      exact ⟨by simp [links, hrules], hitem⟩

theorem calls_descend (rules : ArrayRules) {items : List Json} {call : Link × Json}
    (hcall : call ∈ callsOf (rules.plan items)) :
    call.1 ∈ rules.links.map Link.schema ∧ call.2 ∈ items := by
  unfold plan at hcall
  simp only [callsOf_append, callsOf_cons, calls_test, callsOf_nil, List.mem_append,
    List.nil_append] at hcall
  rcases hcall with hitems | hcontains
  · exact rules.calls_items hitems
  · exact rules.calls_contains hcontains

end ArrayRules

namespace ObjectRules

theorem calls_member (rules : ObjectRules) {key : String} {value : Json} {call : Link × Json}
    (hcall : call ∈ callsOf (rules.planMember key value)) :
    call.1 ∈ rules.links.map Link.schema ∧ call.2 = value := by
  unfold planMember at hcall
  rw [callsOf_append, callsOf_append, List.mem_append, List.mem_append] at hcall
  rcases hcall with hnamed | hmatching | hadditional
  · split at hnamed
    · next schema hlookup =>
        obtain ⟨before, after, hproperties, hother⟩ := List.lookup_eq_some_iff.mp hlookup
        obtain rfl := List.mem_singleton.mp hnamed
        exact ⟨by simp [links, hproperties], rfl⟩
    · exact absurd hnamed List.not_mem_nil
  · unfold callsOf at hmatching
    rw [List.flatMap_map] at hmatching
    obtain ⟨⟨pattern, schema⟩, hentry, hcall⟩ := List.mem_flatMap.mp hmatching
    obtain rfl := List.mem_singleton.mp hcall
    have hrule : (pattern, schema) ∈ rules.patternProperties := (List.mem_filter.mp hentry).1
    have hlink : schema ∈ rules.patternProperties.map (·.2) := List.mem_map_of_mem hrule
    exact ⟨List.mem_map_of_mem (by simp [links, hlink]), rfl⟩
  · split at hadditional
    · split at hadditional
      · next schema hrules =>
          obtain rfl := List.mem_singleton.mp hadditional
          exact ⟨by simp [links, hrules], rfl⟩
      · exact absurd hadditional List.not_mem_nil
    · exact absurd hadditional List.not_mem_nil

theorem calls_dependency (rules : ObjectRules) {members : List (String × Json)}
    {entry : String × Dependency} {call : Link × Json} (hentry : entry ∈ rules.dependencies)
    (hcall : call ∈ callsOf (planDependency members entry)) :
    call.1 ∈ rules.dependencyLinks.map Link.schema ∧ call.2 = .object members := by
  obtain ⟨key, dependency⟩ := entry
  unfold planDependency at hcall
  split at hcall
  · cases dependency with
    | keys names =>
        simp only [callsOf_within, callsOf_planMissing] at hcall
        exact absurd hcall List.not_mem_nil
    | schema schema =>
        obtain rfl := List.mem_singleton.mp hcall
        have hlink : schema ∈ rules.dependencyLinks := List.mem_filterMap.mpr ⟨_, hentry, rfl⟩
        exact ⟨List.mem_map_of_mem hlink, rfl⟩
  · exact absurd hcall List.not_mem_nil

theorem calls_names (rules : ObjectRules) {members : List (String × Json)} {call : Link × Json}
    (hcall : call ∈ callsOf (rules.planNames members)) :
    call.1 ∈ rules.links.map Link.schema ∧ ∃ member ∈ members, call.2 = .string member.1 := by
  unfold planNames at hcall
  split at hcall
  · exact absurd hcall List.not_mem_nil
  · next schema hrules =>
      unfold callsOf at hcall
      rw [List.flatMap_map] at hcall
      obtain ⟨member, hmember, hcall⟩ := List.mem_flatMap.mp hcall
      obtain rfl := List.mem_singleton.mp hcall
      exact ⟨by simp [links, hrules], member, hmember, rfl⟩

theorem calls_linked (rules : ObjectRules) {members : List (String × Json)} {call : Link × Json}
    (hcall : call ∈ callsOf (rules.plan members)) :
    (call.1 ∈ rules.dependencyLinks.map Link.schema ∧ call.2 = .object members) ∨
      (call.1 ∈ rules.links.map Link.schema ∧
        call.2.height < (Json.object members).height) := by
  unfold plan at hcall
  simp only [callsOf_append, callsOf_cons, calls_test, callsOf_nil, callsOf_within,
    callsOf_planMissing, List.mem_append, List.nil_append] at hcall
  rcases hcall with hmembers | hdependencies | hnames
  · unfold callsOf at hmembers
    rw [List.flatMap_assoc] at hmembers
    obtain ⟨member, hmember, hcall⟩ := List.mem_flatMap.mp hmembers
    obtain ⟨hlink, hvalue⟩ := rules.calls_member hcall
    exact Or.inr ⟨hlink, hvalue ▸ Json.height_lt_heightMembers hmember⟩
  · unfold callsOf at hdependencies
    rw [List.flatMap_assoc] at hdependencies
    obtain ⟨entry, hentry, hcall⟩ := List.mem_flatMap.mp hdependencies
    exact Or.inl (rules.calls_dependency hentry hcall)
  · obtain ⟨hlink, member, hmember, hvalue⟩ := rules.calls_names hnames
    exact Or.inr ⟨hlink, hvalue ▸ Json.heightMembers_pos members⟩

end ObjectRules

theorem Combinators.calls_stay (c : Combinators) {value : Json} {call : Link × Json}
    (hcall : call ∈ callsOf (c.plan value)) :
    call.1 ∈ c.links.map Link.schema ∧ call.2 = value := by
  unfold plan at hcall
  simp only [callsOf_append, callsOf_within, callsOf_planAll, List.mem_append] at hcall
  rcases hcall with hall | hany | hone | hnot | hconditional
  · obtain ⟨schema, hschema, rfl⟩ := List.mem_map.mp hall
    exact ⟨List.mem_map_of_mem (by simp [links, hschema]), rfl⟩
  · split at hany
    · exact absurd hany List.not_mem_nil
    · simp only [callsOf_cons, Action.calls, callsOf_nil, List.append_nil] at hany
      obtain ⟨schema, hschema, rfl⟩ := List.mem_map.mp hany
      exact ⟨List.mem_map_of_mem (by simp [links, hschema]), rfl⟩
  · split at hone
    · exact absurd hone List.not_mem_nil
    · simp only [callsOf_cons, Action.calls, callsOf_nil, List.append_nil, List.map_map] at hone
      obtain ⟨schema, hschema, rfl⟩ := List.mem_map.mp hone
      exact ⟨List.mem_map_of_mem (by simp [links, hschema]), rfl⟩
  · split at hnot
    · exact absurd hnot List.not_mem_nil
    · next schema hrules =>
        obtain rfl := List.mem_singleton.mp hnot
        exact ⟨by simp [links, hrules], rfl⟩
  · split at hconditional
    · exact absurd hconditional List.not_mem_nil
    · next conditional hrules =>
        have hcalls : callsOf [⟨[], .choose conditional value⟩] =
            conditional.links.map (Link.schema ·, value) := by
          simp [Action.calls, Conditional.links]
        rw [hcalls] at hconditional
        obtain ⟨schema, hschema, rfl⟩ := List.mem_map.mp hconditional
        exact ⟨List.mem_map_of_mem (by simp [links, hrules, hschema]), rfl⟩

/-- The calls of a schema go along its links: either the value is passed on, or something less high
is. -/
theorem Node.calls_linked (n : Node) {epsilon : Binary64} {value : Json} {call : Link × Json}
    (hcall : call ∈ callsOf (n.plan epsilon value)) :
    (call.1 ∈ n.staying ∧ call.2 = value) ∨
      (call.1 ∈ n.descending ∧ call.2.height < value.height) := by
  unfold plan at hcall
  unfold staying descending
  cases hbody : n.body with
  | constant accepts =>
      rw [hbody] at hcall
      exact absurd hcall List.not_mem_nil
  | keywords k =>
      simp only [hbody, Keywords.plan, Keywords.planValues, callsOf_append, callsOf_cons,
        calls_test, callsOf_nil, List.mem_append, List.nil_append] at hcall
      simp only [List.map_append, List.mem_append]
      rcases hcall with hreference | hkind | hcombinators
      · unfold Keywords.planReference at hreference
        split at hreference
        · next reference hrules =>
            obtain rfl := List.mem_singleton.mp hreference
            exact Or.inl ⟨Or.inl (by simp [hrules]), rfl⟩
        · exact absurd hreference List.not_mem_nil
      · cases value with
        | null => exact absurd hkind List.not_mem_nil
        | bool b => exact absurd hkind List.not_mem_nil
        | number x => exact absurd hkind List.not_mem_nil
        | string text => exact absurd hkind List.not_mem_nil
        | array items =>
            obtain ⟨hlink, hitem⟩ := k.arrays.calls_descend hkind
            exact Or.inr ⟨Or.inl hlink, Json.height_lt_heightItems hitem⟩
        | object members =>
            rcases k.objects.calls_linked hkind with ⟨hlink, hvalue⟩ | ⟨hlink, hheight⟩
            · exact Or.inl ⟨Or.inr (Or.inl hlink), hvalue⟩
            · exact Or.inr ⟨Or.inr hlink, hheight⟩
      · obtain ⟨hlink, hvalue⟩ := k.combinators.calls_stay hcombinators
        exact Or.inl ⟨Or.inr (Or.inr hlink), hvalue⟩

end Links

end SchemaRegistry

import SchemaRegistry.Proofs.Compile.Positions

/-!
Compiling the keywords of a schema is one traversal. Whatever else the keywords need, the schemas
that they hold are compiled one after the other in the order of the keywords, and the result holds
the place of each of them where the schema text has the schema.
-/

namespace SchemaRegistry

namespace Slots

variable {α : Type}

@[simp] theorem linked_append (conditional : Bool) (first second : Slots α) :
    linked conditional (first ++ second) = linked conditional first ++ linked conditional second :=
  List.filter_append ..

/-- What lies at one keyword is referred to as a whole or not at all. -/
theorem linked_eq {conditional : Bool} {keyword : String} {slots : Slots α}
    (hkeyword : ∀ slot ∈ slots, slot.1.head? = some keyword) :
    linked conditional slots = if linkable conditional [keyword] then slots else [] := by
  have hsame : ∀ slot ∈ slots, linkable conditional slot.1 = linkable conditional [keyword] := by
    intro slot hslot
    unfold linkable
    rw [hkeyword slot hslot, List.head?_cons]
  unfold linked
  rw [List.filter_congr hsame]
  split
  · next hlinkable => simp [hlinkable]
  · next hlinkable => simp [hlinkable]

@[simp] theorem linked_one (conditional : Bool) (keyword : String) (value : Option α) :
    linked conditional (one keyword value) =
      if linkable conditional [keyword] then one keyword value else [] := by
  apply linked_eq
  intro slot hslot
  obtain ⟨inner, -, rfl⟩ := List.mem_map.mp hslot
  rfl

@[simp] theorem linked_list (conditional : Bool) (keyword : String) (index : Nat)
    (items : List α) :
    linked conditional (list keyword index items) =
      if linkable conditional [keyword] then list keyword index items else [] := by
  apply linked_eq
  intro slot hslot
  obtain ⟨entry, -, rfl⟩ := List.mem_map.mp hslot
  rfl

@[simp] theorem linked_named (conditional : Bool) (keyword : String)
    (members : List (String × α)) :
    linked conditional (named keyword members) =
      if linkable conditional [keyword] then named keyword members else [] := by
  apply linked_eq
  intro slot hslot
  obtain ⟨member, -, rfl⟩ := List.mem_map.mp hslot
  rfl

@[simp] theorem one_none (keyword : String) : one keyword (none : Option α) = [] := rfl

theorem list_cons (keyword : String) (index : Nat) (item : α) (rest : List α) :
    list keyword index (item :: rest) =
      ([keyword, toString index], item) :: list keyword (index + 1) rest := rfl

end Slots

theorem ArrayRules.linked_slots (rules : ArrayRules) (conditional : Bool) :
    rules.slots.linked conditional = rules.slots := by
  have hitems : ∀ items : Items, items.slots.linked conditional = items.slots := by
    intro items
    cases items with
    | each schema => simp [Items.slots, Slots.linkable]
    | tuple schemas => simp [Items.slots, Slots.linkable]
  unfold slots
  cases rules.items with
  | none => simp [Slots.linkable]
  | some items => simp [hitems, Slots.linkable]

theorem ObjectRules.linked_slots (rules : ObjectRules) (conditional : Bool) :
    rules.slots.linked conditional = rules.slots := by
  have hdependencies : ∀ slot ∈ rules.dependencies.flatMap (fun entry => entry.2.slots entry.1),
      slot.1.head? = some "dependencies" := by
    intro slot hslot
    obtain ⟨⟨key, dependency⟩, -, hslot⟩ := List.mem_flatMap.mp hslot
    cases dependency with
    | keys names => exact absurd hslot List.not_mem_nil
    | schema index =>
        obtain rfl := List.mem_singleton.mp hslot
        rfl
  unfold slots
  simp [Slots.linked_eq hdependencies, Slots.linkable]

namespace Compile

variable {α β : Type}

theorem bind_apply_ok {compilation : Compile α} {next : α → Compile β}
    {draft after : Draft} {b : β}
    (hrun : (compilation >>= next) draft = .ok (b, after)) :
    ∃ a middle, compilation draft = .ok (a, middle) ∧ next a middle = .ok (b, after) := by
  obtain ⟨⟨a, middle⟩, hfirst, hnext⟩ := bind_ok hrun
  exact ⟨a, middle, hfirst, hnext⟩

theorem bind_apply_eq {compilation : Compile α} {next : α → Compile β}
    {draft middle : Draft} {a : α} (hfirst : compilation draft = .ok (a, middle)) :
    (compilation >>= next) draft = next a middle := by
  change (compilation draft >>= fun out => next out.1 out.2) = _
  rw [hfirst]
  rfl

end Compile

namespace Site

variable (s : Site) (child : Compiler)

/-- Compiles the schema that lies at a path below the site. -/
def visit (slot : List String × Json) : Compile (List String × Nat) := do
  return (slot.1, ← child (s.scopes.descend slot.1) slot.2)

/-- Every run of a compilation compiles the given schemas of the site in order, and nothing else,
and its result is as described by the places that they get. -/
def Visits {α : Type} (slots : Slots Json) (compilation : Compile α)
    (result : α → Slots Nat → Prop) : Prop :=
  ∀ draft a after, compilation draft = .ok (a, after) →
    ∃ placed, (slots.mapM (s.visit child)) draft = .ok (placed, after) ∧ result a placed

variable {s child}

namespace Visits

variable {α β : Type} {slots more : Slots Json}

theorem pure {a : α} {result : α → Slots Nat → Prop} (hresult : result a []) :
    Visits s child [] (Pure.pure a) result := by
  intro draft b after hrun
  cases hrun
  exact ⟨[], rfl, hresult⟩

theorem fail (error : CompileError) (result : α → Slots Nat → Prop) :
    Visits s child slots (liftM (Except.error error : Except CompileError α) : Compile α)
      result := by
  intro draft a after hrun
  cases hrun

theorem bind {compilation : Compile α} {next : α → Compile β} {result : α → Slots Nat → Prop}
    {result' : β → Slots Nat → Prop} (hfirst : Visits s child slots compilation result)
    (hnext : ∀ a placed, result a placed →
      Visits s child more (next a) fun b others => result' b (placed ++ others)) :
    Visits s child (slots ++ more) (compilation >>= next) result' := by
  intro draft b after hrun
  obtain ⟨a, middle, hcompilation, hrest⟩ := Compile.bind_apply_ok hrun
  obtain ⟨placed, hplaced, hresult⟩ := hfirst draft a middle hcompilation
  obtain ⟨others, hothers, hresult'⟩ := hnext a placed hresult middle b after hrest
  refine ⟨placed ++ others, ?_, hresult'⟩
  rw [List.mapM_append, Compile.bind_apply_eq hplaced, Compile.bind_apply_eq hothers]
  rfl

/-- The last step of a compilation puts the results of the others together. -/
theorem map {compilation : Compile α} {f : α → β} {result : α → Slots Nat → Prop}
    {result' : β → Slots Nat → Prop} (hvisits : Visits s child slots compilation result)
    (hresult : ∀ a placed, result a placed → result' (f a) placed) :
    Visits s child slots (compilation >>= fun a => Pure.pure (f a)) result' := by
  rw [← List.append_nil slots]
  refine hvisits.bind fun a placed hplaced => .pure ?_
  rw [List.append_nil]
  exact hresult a placed hplaced

/-- Reading something from the schema compiles nothing. -/
theorem read {reading : Except CompileError α} {next : α → Compile β}
    {result : β → Slots Nat → Prop}
    (hnext : ∀ a, reading = .ok a → Visits s child slots (next a) result) :
    Visits s child slots ((liftM reading : Compile α) >>= next) result := by
  intro draft b after hrun
  cases reading with
  | error e => cases hrun
  | ok a => exact hnext a rfl draft b after hrun

theorem mapM {compilation : α → Compile β} {slots : α → Slots Json} {held : β → Slots Nat}
    (items : List α)
    (hitem : ∀ item ∈ items,
      Visits s child (slots item) (compilation item) fun b placed => placed = held b) :
    Visits s child (items.flatMap slots) (items.mapM compilation)
      fun bs placed => placed = bs.flatMap held := by
  induction items with
  | nil =>
      rw [List.mapM_nil]
      exact .pure rfl
  | cons item rest ih =>
      have hfirst := hitem item List.mem_cons_self
      have hrest := ih fun other hother => hitem other (List.mem_cons_of_mem _ hother)
      rw [List.mapM_cons, List.flatMap_cons]
      refine hfirst.bind fun b placed hb => hrest.map fun bs others hbs => ?_
      rw [List.flatMap_cons, hb, hbs]

end Visits

theorem subschema_visits (keyword : String) (path : List String) (value : Json) :
    Visits s child [(path, value)] (s.subschema child keyword path value)
      fun index placed => placed = [(path, index)] := by
  unfold subschema
  split
  · intro draft index after hrun
    refine ⟨[(path, index)], ?_, rfl⟩
    have hvisit : s.visit child (path, value) draft = .ok ((path, index), after) :=
      Compile.bind_apply_eq hrun
    rw [List.mapM_cons, Compile.bind_apply_eq hvisit]
    rfl
  · exact .fail _ _

theorem optional_visits (keyword : String) :
    Visits s child (Slots.one keyword (s.keyword? keyword)) (s.optional child keyword)
      fun index placed => placed = Slots.one keyword index ∧
        index.isSome = (s.keyword? keyword).isSome := by
  unfold optional
  cases s.keyword? keyword with
  | none => exact .pure ⟨rfl, rfl⟩
  | some value =>
      dsimp only
      rw [map_eq_pure_bind]
      refine (subschema_visits keyword [keyword] value).map fun index placed hplaced => ?_
      exact ⟨hplaced, rfl⟩

theorem sequence_visits_from (keyword : String) (index : Nat) (items : List Json) :
    Visits s child (Slots.list keyword index items)
      ((items.zipIdx index).mapM fun (item, index) =>
        s.subschema child keyword [keyword, toString index] item)
      fun places placed => placed = Slots.list keyword index places := by
  induction items generalizing index with
  | nil =>
      rw [List.zipIdx_nil, List.mapM_nil]
      exact .pure rfl
  | cons item rest ih =>
      rw [List.zipIdx_cons, List.mapM_cons, Slots.list_cons, ← List.singleton_append]
      refine (subschema_visits keyword [keyword, toString index] item).bind ?_
      intro place placed hplaced
      refine (ih (index + 1)).map fun places others hothers => ?_
      rw [hplaced, hothers, Slots.list_cons, List.singleton_append]

theorem sequence_visits (keyword : String) (items : List Json) :
    Visits s child (Slots.list keyword 0 items) (s.sequence child keyword items)
      fun places placed => placed = Slots.list keyword 0 places :=
  sequence_visits_from keyword 0 items

theorem named_visits (keyword : String) (members : List (String × Json)) :
    Visits s child (Slots.named keyword members) (s.named child keyword members)
      fun places placed => placed = Slots.named keyword places := by
  unfold named Slots.named
  simp only [List.map_eq_flatMap]
  refine Visits.mapM members fun member hmember => ?_
  exact (subschema_visits keyword [keyword, member.1] member.2).map fun index placed hplaced =>
    hplaced

theorem table_eq {keyword : String} {members : List (String × Json)}
    (htable : s.table keyword = .ok members) :
    members = Json.membersOf (s.keyword? keyword) := by
  unfold table at htable
  split at htable
  · next hkeyword =>
      cases htable
      rw [hkeyword]
      rfl
  · next hkeyword =>
      cases htable
      rw [hkeyword]
      rfl
  · cases htable

theorem list_eq {keyword : String} {items : List Json} (hlist : s.list keyword = .ok items) :
    items = Json.itemsOf (s.keyword? keyword) := by
  unfold list at hlist
  split at hlist
  · next hkeyword =>
      cases hlist
      rw [hkeyword]
      rfl
  · next hkeyword =>
      cases hlist
      rw [hkeyword]
      rfl
  · cases hlist

theorem regexp_source {keyword source : String} {pattern : Pattern}
    (hregexp : s.regexp keyword source = .ok pattern) : pattern.source = source := by
  unfold regexp at hregexp
  cases hpattern : Pattern.ofString? source with
  | none =>
      rw [hpattern] at hregexp
      cases hregexp
  | some found =>
      rw [hpattern] at hregexp
      cases hregexp
      unfold Pattern.ofString? at hpattern
      obtain ⟨parsed, -, hparsed⟩ := Option.bind_eq_some_iff.mp hpattern
      obtain ⟨matcher, -, hmatcher⟩ := Option.bind_eq_some_iff.mp hparsed
      cases hmatcher
      rfl

theorem items_visits :
    Visits s child (Json.itemSchemas (s.keyword? "items")) (s.items child)
      fun items placed => placed = items.toList.flatMap Items.slots := by
  have hone : ∀ schema, Visits s child (Slots.one "items" (some schema))
      (do return some (.each (← s.subschema child "items" ["items"] schema)))
      fun items placed => placed = items.toList.flatMap Items.slots := by
    intro schema
    refine (subschema_visits "items" ["items"] schema).map fun index placed hplaced => ?_
    rw [hplaced]
    rfl
  unfold items
  cases s.keyword? "items" with
  | none =>
      refine .pure ?_
      rfl
  | some value =>
      cases value with
      | array schemas =>
          refine (sequence_visits "items" schemas).map fun places placed hplaced => ?_
          rw [hplaced]
          exact (List.flatMap_singleton Items.slots (.tuple places)).symm
      | _ => exact hone _

theorem arrayRules_visits :
    Visits s child (Json.arraySchemas s.members) (s.arrayRules child)
      fun rules placed => placed = rules.slots := by
  unfold arrayRules Json.arraySchemas
  refine items_visits.bind fun items first hitems => ?_
  refine (optional_visits "additionalItems").bind fun additionalItems second hadditional => ?_
  refine Visits.read fun minItems _ => Visits.read fun maxItems _ => ?_
  refine Visits.read fun uniqueItems _ => ?_
  refine (optional_visits "contains").map fun contains third hcontains => ?_
  rw [hitems, hadditional.1, hcontains.1]
  rfl

theorem patternProperty_visits (entry : String × Json) :
    Visits s child [(["patternProperties", entry.1], entry.2)] (s.patternProperty child entry)
      fun property placed =>
        placed = [(["patternProperties", property.1.source], property.2)] := by
  unfold patternProperty
  refine Visits.read fun pattern hpattern => ?_
  refine (subschema_visits _ _ entry.2).map fun index placed hplaced => ?_
  rw [hplaced, regexp_source hpattern]

theorem patternProperties_visits (members : List (String × Json)) :
    Visits s child (Slots.named "patternProperties" members)
      (members.mapM (s.patternProperty child))
      fun patterns placed => placed = Slots.named "patternProperties"
        (patterns.map fun entry => (entry.1.source, entry.2)) := by
  unfold Slots.named
  simp only [List.map_eq_flatMap, List.flatMap_assoc]
  exact Visits.mapM members fun entry _ => patternProperty_visits entry

theorem dependency_visits (entry : String × Json) :
    Visits s child (Json.dependencySchemas entry) (s.dependency child entry)
      fun dependency placed => placed = dependency.2.slots dependency.1 := by
  obtain ⟨key, value⟩ := entry
  have hschema : Visits s child [(["dependencies", key], value)]
      (do return (key, Dependency.schema
        (← s.subschema child "dependencies" ["dependencies", key] value)))
      fun dependency placed => placed = dependency.2.slots dependency.1 := by
    refine (subschema_visits _ _ value).map fun index placed hplaced => ?_
    rw [hplaced]
    rfl
  cases value with
  | array names =>
      refine Visits.read fun names _ => .pure ?_
      rfl
  | _ => exact hschema

theorem objectRules_visits :
    Visits s child (Json.objectSchemas s.members) (s.objectRules child)
      fun rules placed => placed = rules.slots := by
  unfold objectRules Json.objectSchemas
  refine Visits.read fun propertyTable htable => ?_
  rw [table_eq htable]
  refine (named_visits "properties" _).bind fun properties first hproperties => ?_
  refine Visits.read fun patternTable htable => ?_
  rw [table_eq htable]
  refine (patternProperties_visits _).bind fun patterns second hpatterns => ?_
  refine (optional_visits "additionalProperties").bind fun additional third hadditional => ?_
  refine Visits.read fun required _ => Visits.read fun minProperties _ => ?_
  refine Visits.read fun maxProperties _ => Visits.read fun dependencyTable htable => ?_
  rw [table_eq htable]
  refine (Visits.mapM _ fun entry _ => dependency_visits entry).bind ?_
  intro dependencies fourth hdependencies
  refine (optional_visits "propertyNames").map fun names fifth hnames => ?_
  rw [hproperties, hpatterns, hadditional.1, hdependencies, hnames.1]
  rfl

/-- What `then` and `else` hold is compiled also where the combinators do not refer to it. -/
theorem combinators_visits :
    Visits s child (Json.combinedSchemas s.members) (s.combinators child)
      fun c placed => c.slots = placed.linked (s.keyword? "if").isSome := by
  unfold combinators Json.combinedSchemas
  refine Visits.read fun allOf hlist => ?_
  rw [list_eq hlist]
  refine (sequence_visits "allOf" _).bind fun allOf first hall => ?_
  refine Visits.read fun anyOf hlist => ?_
  rw [list_eq hlist]
  refine (sequence_visits "anyOf" _).bind fun anyOf second hany => ?_
  refine Visits.read fun oneOf hlist => ?_
  rw [list_eq hlist]
  refine (sequence_visits "oneOf" _).bind fun oneOf third hone => ?_
  refine (optional_visits "not").bind fun not fourth hnot => ?_
  refine (optional_visits "if").bind fun condition fifth hcondition => ?_
  refine (optional_visits "then").bind fun consequent sixth hconsequent => ?_
  refine (optional_visits "else").map fun alternative seventh halternative => ?_
  rw [hall, hany, hone, hnot.1, hcondition.1, hconsequent.1, halternative.1, ← hcondition.2]
  cases condition with
  | none => simp [Combinators.slots, Slots.linkable]
  | some condition => simp [Combinators.slots, Conditional.slots, Slots.linkable]

/-- The keywords of a schema object compile the schemas that it holds, in order, and refer to each
of them at its place unless it lies under `definitions` or is not in force. -/
theorem keywords_visits :
    Visits s child (Json.object s.members).subschemas (s.keywords child)
      fun k placed => k.slots = placed.linked (s.keyword? "if").isSome := by
  unfold keywords Json.subschemas
  refine Visits.read fun reference _ => Visits.read fun types _ => ?_
  refine Visits.read fun numbers _ => Visits.read fun strings _ => ?_
  refine arrayRules_visits.bind fun arrays first harrays => ?_
  refine objectRules_visits.bind fun objects second hobjects => Visits.read fun enum _ => ?_
  refine combinators_visits.bind fun combinators third hcombinators => ?_
  refine Visits.read fun definitionTable htable => ?_
  rw [table_eq htable]
  refine (named_visits "definitions" _).map fun definitions fourth hdefinitions => ?_
  have hinert : fourth.linked (s.keyword? "if").isSome = [] := by
    rw [hdefinitions, Slots.linked_named]
    rfl
  rw [Slots.linked_append, Slots.linked_append, Slots.linked_append, harrays, hobjects,
    ArrayRules.linked_slots, ObjectRules.linked_slots, ← hcombinators, hinert, List.append_nil]
  rfl

end Site

end SchemaRegistry

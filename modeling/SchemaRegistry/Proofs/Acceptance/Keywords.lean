import SchemaRegistry.Proofs.Acceptance.Readers
import SchemaRegistry.Proofs.Compile.Traversal

/-!
Where the compilation of a schema object fails. It has a result only if all its keywords have the
values that they have to have. Otherwise it stops at a keyword that has not, or in the first of the
schemas it holds that does not compile, when those before it are stored already.
-/

namespace SchemaRegistry.Site

variable {α β : Type} {s : Site} {child : Compiler} {keyword : String}

/-- The compilation of one of the schemas at the site fails after all those before it were compiled.
-/
def FailsIn (s : Site) (child : Compiler) (slots : Slots Json) (draft : Draft)
    (e : CompileError) : Prop :=
  ∃ before slot after placed middle, slots = before ++ slot :: after ∧
    (before.mapM (s.visit child)) draft = .ok (placed, middle) ∧ slot.2.isSchema = true ∧
    child (s.scopes.descend slot.1) slot.2 middle = .error e

namespace FailsIn

variable {slots more : Slots Json} {draft : Draft} {e : CompileError}

theorem left (hfails : s.FailsIn child slots draft e) (more : Slots Json) :
    s.FailsIn child (slots ++ more) draft e := by
  obtain ⟨before, slot, after, placed, middle, rfl, hbefore, hschema, herror⟩ := hfails
  refine ⟨before, slot, after ++ more, placed, middle, ?_, hbefore, hschema, herror⟩
  rw [List.append_assoc, List.cons_append]

theorem right {placed : Slots Nat} {middle : Draft}
    (hplaced : (slots.mapM (s.visit child)) draft = .ok (placed, middle))
    (hfails : s.FailsIn child more middle e) : s.FailsIn child (slots ++ more) draft e := by
  obtain ⟨before, slot, after, others, last, rfl, hbefore, hschema, herror⟩ := hfails
  refine ⟨slots ++ before, slot, after, placed ++ others, last, ?_, ?_, hschema, herror⟩
  · rw [List.append_assoc]
  · rw [List.mapM_append, Compile.bind_apply_eq hplaced, Compile.bind_apply_eq hbefore]
    rfl

end FailsIn

/-- A compilation of some schemas of the site that carries out tests. With a result it has passed
all of them; an error names the keyword of one that it has not passed, or comes from one of the
schemas. -/
def Checks (s : Site) (child : Compiler) (tests : List (String × Bool)) (slots : Slots Json)
    (compilation : Compile α) : Prop :=
  ∀ draft, match compilation draft with
    | .ok _ => ∀ test ∈ tests, test.2 = true
    | .error e => (∃ keyword kind, (keyword, false) ∈ tests ∧
        e = .schema keyword s.scopes.uri kind) ∨ s.FailsIn child slots draft e

namespace Checks

variable {tests others : List (String × Bool)} {slots more : Slots Json} {passes : Bool}

theorem pure (a : α) : Checks s child [] [] (Pure.pure a : Compile α) :=
  fun _ _ htest => absurd htest List.not_mem_nil

theorem fail (kind : SchemaErrorKind) :
    Checks s child [(keyword, false)] slots
      (liftM (s.fail keyword kind : Except CompileError α) : Compile α) :=
  fun _ => Or.inl ⟨keyword, kind, List.mem_singleton_self _, rfl⟩

theorem bind {compilation : Compile α} {next : α → Compile β} {result : α → Slots Nat → Prop}
    (hvisits : Visits s child slots compilation result)
    (hfirst : Checks s child tests slots compilation)
    (hnext : ∀ a, Checks s child others more (next a)) :
    Checks s child (tests ++ others) (slots ++ more) (compilation >>= next) := by
  intro draft
  have hpassed := hfirst draft
  cases hrun : compilation draft with
  | error e =>
      rw [hrun] at hpassed
      have herror : (compilation >>= next) draft = .error e := by
        change (compilation draft >>= fun out => next out.1 out.2) = _
        rw [hrun]
        rfl
      rw [herror]
      rcases hpassed with ⟨keyword, kind, hmem, heq⟩ | hfails
      · exact Or.inl ⟨keyword, kind, List.mem_append_left _ hmem, heq⟩
      · exact Or.inr (hfails.left more)
  | ok out =>
      obtain ⟨a, middle⟩ := out
      rw [hrun] at hpassed
      obtain ⟨placed, hplaced, -⟩ := hvisits draft a middle hrun
      have hrest := hnext a middle
      rw [Compile.bind_apply_eq hrun]
      cases hlast : next a middle with
      | error e =>
          rw [hlast] at hrest
          rcases hrest with ⟨keyword, kind, hmem, heq⟩ | hfails
          · exact Or.inl ⟨keyword, kind, List.mem_append_right _ hmem, heq⟩
          · exact Or.inr (hfails.right hplaced)
      | ok out =>
          rw [hlast] at hrest
          intro test htest
          rcases List.mem_append.mp htest with hmem | hmem
          · exact hpassed test hmem
          · exact hrest test hmem

theorem map {compilation : Compile α} {f : α → β}
    (hfirst : Checks s child tests slots compilation) :
    Checks s child tests slots (compilation >>= fun a => Pure.pure (f a)) := by
  intro draft
  have hpassed := hfirst draft
  change match (compilation draft >>= fun out => .ok (f out.1, out.2)) with
    | .ok _ => _
    | .error e => _
  cases hrun : compilation draft with
  | error e =>
      rw [hrun] at hpassed
      exact hpassed
  | ok out =>
      rw [hrun] at hpassed
      exact hpassed

/-- Reading something from the schema carries out a test. -/
theorem read {reading : Except CompileError α} {next : α → Compile β}
    (hreading : s.Tests keyword passes reading)
    (hnext : ∀ a, reading = .ok a → Checks s child tests slots (next a)) :
    Checks s child ((keyword, passes) :: tests) slots
      ((liftM reading : Compile α) >>= next) := by
  intro draft
  cases reading with
  | error e =>
      obtain ⟨rfl, kind, rfl⟩ := hreading
      exact Or.inl ⟨keyword, kind, List.mem_cons_self, rfl⟩
  | ok a =>
      have hrest := hnext a rfl draft
      change match next a draft with
        | .ok _ => _
        | .error e => _
      cases hlast : next a draft with
      | error e =>
          rw [hlast] at hrest
          rcases hrest with ⟨other, kind, hmem, heq⟩ | hfails
          · exact Or.inl ⟨other, kind, List.mem_cons_of_mem _ hmem, heq⟩
          · exact Or.inr hfails
      | ok out =>
          rw [hlast] at hrest
          intro test htest
          rcases List.mem_cons.mp htest with rfl | hmem
          · exact hreading
          · exact hrest test hmem

/-- A test that a later one at the same keyword includes. -/
theorem guard {reading : Except CompileError α} {next : α → Compile β} {verdict : Bool}
    (hreading : s.Tests keyword passes reading) (hmem : (keyword, verdict) ∈ tests)
    (hless : passes = false → verdict = false)
    (hnext : ∀ a, reading = .ok a → Checks s child tests slots (next a)) :
    Checks s child tests slots ((liftM reading : Compile α) >>= next) := by
  intro draft
  cases reading with
  | error e =>
      obtain ⟨hpasses, kind, rfl⟩ := hreading
      rw [hless hpasses] at hmem
      exact Or.inl ⟨keyword, kind, hmem, rfl⟩
  | ok a => exact hnext a rfl draft

/-- Two tests at one keyword are passed together. -/
theorem both {compilation : Compile α} {first second : Bool}
    (hchecks : Checks s child [(keyword, first), (keyword, second)] slots compilation) :
    Checks s child [(keyword, first && second)] slots compilation := by
  intro draft
  have hpassed := hchecks draft
  cases hrun : compilation draft with
  | error e =>
      rw [hrun] at hpassed
      rcases hpassed with ⟨other, kind, hmem, heq⟩ | hfails
      · refine Or.inl ⟨other, kind, ?_, heq⟩
        simp only [List.mem_cons, Prod.mk.injEq, List.not_mem_nil, or_false] at hmem ⊢
        rcases hmem with ⟨hkeyword, rfl⟩ | ⟨hkeyword, rfl⟩
        · exact ⟨hkeyword, rfl⟩
        · exact ⟨hkeyword, (Bool.and_false _).symm⟩
      · exact Or.inr hfails
  | ok out =>
      rw [hrun] at hpassed
      have hfirst : first = true := hpassed (keyword, first) List.mem_cons_self
      have hsecond : second = true :=
        hpassed (keyword, second) (List.mem_cons_of_mem _ List.mem_cons_self)
      intro test htest
      rw [List.mem_singleton.mp htest, hfirst, hsecond]
      rfl

theorem mapM {compilation : α → Compile β} {slots : α → Slots Json} (held : β → Slots Nat)
    (test : α → Bool) (items : List α)
    (hvisits : ∀ item, Visits s child (slots item) (compilation item)
      fun b placed => placed = held b)
    (hitem : ∀ item, Checks s child [(keyword, test item)] (slots item) (compilation item)) :
    Checks s child [(keyword, items.all test)] (items.flatMap slots)
      (items.mapM compilation) := by
  induction items with
  | nil =>
      rw [List.mapM_nil]
      intro draft out hout
      rw [List.mem_singleton.mp hout]
      rfl
  | cons item rest ih =>
      rw [List.mapM_cons, List.flatMap_cons, List.all_cons]
      exact ((hitem item).bind (hvisits item) fun b => ih.map).both

end Checks

theorem subschema_checks (path : List String) (value : Json) :
    Checks s child [(keyword, value.isSchema)] [(path, value)]
      (s.subschema child keyword path value) := by
  unfold subschema
  split
  · next hschema =>
      intro draft
      cases hrun : child (s.scopes.descend path) value draft with
      | error e => exact Or.inr ⟨[], (path, value), [], [], draft, rfl, rfl, hschema, hrun⟩
      | ok out =>
          intro test htest
          rw [List.mem_singleton.mp htest]
          exact hschema
  · next hschema =>
      rw [Bool.not_eq_true] at hschema
      rw [hschema]
      exact .fail _

variable {around : Url}

/-- What becomes of the tests at some keywords. -/
def verdicts (s : Site) (around : Url) (keywords : List String) : List (String × Bool) :=
  keywords.map fun keyword => (keyword, s.sound around keyword)

theorem optional_checks (hshape : Shape.of? keyword = some .schema) :
    Checks s child (s.verdicts around [keyword]) (Slots.one keyword (s.keyword? keyword))
      (s.optional child keyword) := by
  unfold optional verdicts
  rw [List.map_singleton]
  cases hvalue : s.keyword? keyword with
  | none =>
      intro draft test htest
      rw [List.mem_singleton.mp htest]
      exact sound_none hvalue
  | some value =>
      rw [sound_some hshape hvalue]
      dsimp only
      rw [map_eq_pure_bind]
      exact (subschema_checks [keyword] value).map

theorem sequence_checks_from (index : Nat) (items : List Json) :
    Checks s child [(keyword, items.all Json.isSchema)] (Slots.list keyword index items)
      ((items.zipIdx index).mapM fun (item, index) =>
        s.subschema child keyword [keyword, toString index] item) := by
  induction items generalizing index with
  | nil =>
      rw [List.zipIdx_nil, List.mapM_nil]
      intro draft test htest
      rw [List.mem_singleton.mp htest]
      rfl
  | cons item rest ih =>
      rw [List.zipIdx_cons, List.mapM_cons, Slots.list_cons, ← List.singleton_append, List.all_cons]
      exact ((subschema_checks _ item).bind (subschema_visits _ _ item) fun place =>
        (ih (index + 1)).map).both

theorem sequence_checks (items : List Json) :
    Checks s child [(keyword, items.all Json.isSchema)] (Slots.list keyword 0 items)
      (s.sequence child keyword items) := sequence_checks_from 0 items

theorem named_checks (members : List (String × Json)) :
    Checks s child [(keyword, members.all fun member => member.2.isSchema)]
      (Slots.named keyword members) (s.named child keyword members) := by
  unfold named Slots.named
  simp only [List.map_eq_flatMap]
  refine Checks.mapM (fun place => [([keyword, place.1], place.2)]) _ members ?_ ?_
  · intro member
    exact (subschema_visits keyword [keyword, member.1] member.2).map fun index placed hplaced =>
      hplaced
  · exact fun member => (subschema_checks [keyword, member.1] member.2).map

theorem items_checks :
    Checks s child (s.verdicts around ["items"]) (Json.itemSchemas (s.keyword? "items"))
      (s.items child) := by
  unfold items verdicts
  rw [List.map_singleton]
  cases hvalue : s.keyword? "items" with
  | none =>
      intro draft test htest
      rw [List.mem_singleton.mp htest]
      exact sound_none hvalue
  | some value =>
      rw [sound_some (rfl : Shape.of? "items" = some .items) hvalue]
      have hone : Checks s child [("items", value.isSchema)] (Slots.one "items" (some value))
          (do return some (Items.each (← s.subschema child "items" ["items"] value))) :=
        (subschema_checks ["items"] value).map
      cases value with
      | array schemas => exact (sequence_checks schemas).map
      | _ => exact hone

section Tables

variable {shape : Shape} {members : List (String × Json)}

theorem sound_of_table {test : String × Json → Bool} (hshape : Shape.of? keyword = some shape)
    (hfits : ∀ members, shape.fits around s.scopes.base (.object members) = members.all test)
    (htable : s.table keyword = .ok members) : s.sound around keyword = members.all test := by
  unfold table at htable
  split at htable
  · next hvalue =>
      cases htable
      exact sound_none hvalue
  · next hvalue =>
      cases htable
      rw [sound_some hshape hvalue, hfits]
  · cases htable

theorem sound_of_list {items : List Json} (hshape : Shape.of? keyword = some .schemas)
    (hlist : s.list keyword = .ok items) :
    s.sound around keyword = items.all Json.isSchema := by
  unfold list at hlist
  split at hlist
  · next hvalue =>
      cases hlist
      exact sound_none hvalue
  · next first rest hvalue =>
      cases hlist
      rw [sound_some hshape hvalue]
      rfl
  · cases hlist

theorem sound_eq_false {test : Json → Bool} (hshape : Shape.of? keyword = some shape)
    (hfits : ∀ value, test value = false → shape.fits around s.scopes.base value = false)
    (hfails : (s.keyword? keyword).all test = false) : s.sound around keyword = false := by
  cases hvalue : s.keyword? keyword with
  | none =>
      rw [hvalue] at hfails
      cases hfails
  | some value =>
      rw [hvalue] at hfails
      rw [sound_some hshape hvalue]
      exact hfits value hfails

variable {tests : List (String × Bool)} {slots : Slots Json}

/-- A keyword that holds an object is tested when the object is read, and again with its members. -/
theorem Checks.table {next : List (String × Json) → Compile β}
    (hshape : Shape.of? keyword = some shape)
    (hobject : shape ∈ [Shape.table, .patterns, .dependencies])
    (hnext : ∀ members, s.table keyword = .ok members →
      Checks s child ((keyword, s.sound around keyword) :: tests) slots (next members)) :
    Checks s child ((keyword, s.sound around keyword) :: tests) slots
      ((liftM (s.table keyword) : Compile _) >>= next) :=
  Checks.guard (table_tests keyword) List.mem_cons_self
    (sound_eq_false hshape fun _ hvalue => Shape.fits_of_not_isObject hobject hvalue) hnext

theorem Checks.list {next : List Json → Compile β} (hshape : Shape.of? keyword = some .schemas)
    (hnext : ∀ items, s.list keyword = .ok items →
      Checks s child ((keyword, s.sound around keyword) :: tests) slots (next items)) :
    Checks s child ((keyword, s.sound around keyword) :: tests) slots
      ((liftM (s.list keyword) : Compile _) >>= next) := by
  refine Checks.guard (list_tests keyword) List.mem_cons_self (sound_eq_false hshape ?_) hnext
  intro value hvalue
  cases value with
  | array items =>
      have hfits : Shape.schemas.fits around s.scopes.base (.array items) =
          ((Json.array items).isFilled && items.all Json.isSchema) := rfl
      rw [hfits, hvalue, Bool.false_and]
  | _ => rfl

theorem named_table_checks (hshape : Shape.of? keyword = some .table)
    (htable : s.table keyword = .ok members) :
    Checks s child (s.verdicts around [keyword]) (Slots.named keyword members)
      (s.named child keyword members) := by
  unfold verdicts
  rw [List.map_singleton, sound_of_table hshape (fun _ => rfl) htable]
  exact named_checks members

theorem sequence_list_checks {items : List Json} (hshape : Shape.of? keyword = some .schemas)
    (hlist : s.list keyword = .ok items) :
    Checks s child (s.verdicts around [keyword]) (Slots.list keyword 0 items)
      (s.sequence child keyword items) := by
  unfold verdicts
  rw [List.map_singleton, sound_of_list hshape hlist]
  exact sequence_checks items

theorem patternProperty_checks (entry : String × Json) :
    Checks s child [("patternProperties", isPattern entry.1 && entry.2.isSchema)]
      [(["patternProperties", entry.1], entry.2)] (s.patternProperty child entry) :=
  (Checks.read (regexp_tests entry.1) fun _ _ => (subschema_checks _ entry.2).map).both

theorem patternProperties_checks (htable : s.table "patternProperties" = .ok members) :
    Checks s child (s.verdicts around ["patternProperties"])
      (Slots.named "patternProperties" members) (members.mapM (s.patternProperty child)) := by
  unfold verdicts Slots.named
  rw [List.map_singleton, sound_of_table rfl (fun _ => rfl) htable]
  simp only [List.map_eq_flatMap]
  exact Checks.mapM (fun property => [(["patternProperties", property.1.source], property.2)])
    _ members patternProperty_visits patternProperty_checks

theorem dependency_checks (entry : String × Json) :
    Checks s child [("dependencies", entry.2.isStrings || entry.2.isSchema)]
      (Json.dependencySchemas entry) (s.dependency child entry) := by
  obtain ⟨key, value⟩ := entry
  have hschema : Checks s child [("dependencies", value.isSchema)]
      [(["dependencies", key], value)]
      (do return (key, Dependency.schema
        (← s.subschema child "dependencies" ["dependencies", key] value))) :=
    (subschema_checks _ value).map
  cases value with
  | array names =>
      have harray : (Json.array names).isSchema = false := rfl
      rw [harray, Bool.or_false]
      exact Checks.read (strings_tests (.array names)) fun _ _ => .pure _
  | _ => exact hschema

theorem dependencies_checks (htable : s.table "dependencies" = .ok members) :
    Checks s child (s.verdicts around ["dependencies"]) (members.flatMap Json.dependencySchemas)
      (members.mapM (s.dependency child)) := by
  unfold verdicts
  rw [List.map_singleton, sound_of_table rfl (fun _ => rfl) htable]
  exact Checks.mapM (fun dependency => dependency.2.slots dependency.1) _ members dependency_visits
    dependency_checks

end Tables

theorem arrayRules_checks :
    Checks s child
      (s.verdicts around ["items", "additionalItems", "minItems", "maxItems", "uniqueItems",
        "contains"])
      (Json.arraySchemas s.members) (s.arrayRules child) := by
  unfold arrayRules Json.arraySchemas
  refine items_checks.bind items_visits fun items => ?_
  refine (optional_checks rfl).bind (optional_visits "additionalItems") fun additionalItems => ?_
  refine Checks.read (natural?_reads rfl) fun minItems _ => ?_
  refine Checks.read (natural?_reads rfl) fun maxItems _ => ?_
  refine Checks.read (flag_reads rfl) fun uniqueItems _ => ?_
  exact (optional_checks rfl).map

theorem objectRules_checks :
    Checks s child
      (s.verdicts around ["properties", "patternProperties", "additionalProperties", "required",
        "minProperties", "maxProperties", "dependencies", "propertyNames"])
      (Json.objectSchemas s.members) (s.objectRules child) := by
  unfold objectRules Json.objectSchemas
  refine Checks.table rfl (by decide) fun propertyTable hproperties => ?_
  obtain rfl := table_eq hproperties
  refine (named_table_checks rfl hproperties).bind (named_visits "properties" _) ?_
  intro properties
  refine Checks.table rfl (by decide) fun patternTable hpatterns => ?_
  obtain rfl := table_eq hpatterns
  refine (patternProperties_checks hpatterns).bind (patternProperties_visits _) fun patterns => ?_
  refine (optional_checks rfl).bind (optional_visits "additionalProperties") fun additional => ?_
  refine Checks.read required_reads fun required _ => ?_
  refine Checks.read (natural?_reads rfl) fun minProperties _ => ?_
  refine Checks.read (natural?_reads rfl) fun maxProperties _ => ?_
  refine Checks.table rfl (by decide) fun dependencyTable hdependencies => ?_
  obtain rfl := table_eq hdependencies
  refine (dependencies_checks hdependencies).bind
    (Visits.mapM _ fun entry _ => dependency_visits entry) fun dependencies => ?_
  exact (optional_checks rfl).map

theorem combinators_checks :
    Checks s child
      (s.verdicts around ["allOf", "anyOf", "oneOf", "not", "if", "then", "else"])
      (Json.combinedSchemas s.members) (s.combinators child) := by
  unfold combinators Json.combinedSchemas
  refine Checks.list rfl fun allOf hall => ?_
  obtain rfl := list_eq hall
  refine (sequence_list_checks rfl hall).bind (sequence_visits "allOf" _) fun allOf => ?_
  refine Checks.list rfl fun anyOf hany => ?_
  obtain rfl := list_eq hany
  refine (sequence_list_checks rfl hany).bind (sequence_visits "anyOf" _) fun anyOf => ?_
  refine Checks.list rfl fun oneOf hone => ?_
  obtain rfl := list_eq hone
  refine (sequence_list_checks rfl hone).bind (sequence_visits "oneOf" _) fun oneOf => ?_
  refine (optional_checks rfl).bind (optional_visits "not") fun not => ?_
  refine (optional_checks rfl).bind (optional_visits "if") fun condition => ?_
  refine (optional_checks rfl).bind (optional_visits "then") fun consequent => ?_
  exact (optional_checks rfl).map

theorem numberRules_checks :
    Checks s child
      (s.verdicts around ["minimum", "maximum", "exclusiveMinimum", "exclusiveMaximum",
        "multipleOf"])
      [] (liftM s.numberRules : Compile NumberRules) := by
  unfold numberRules
  simp only [liftM_bind, liftM_pure]
  refine Checks.read (number?_reads rfl) fun minimum _ => ?_
  refine Checks.read (number?_reads rfl) fun maximum _ => ?_
  refine Checks.read (number?_reads rfl) fun exclusiveMinimum _ => ?_
  refine Checks.read (number?_reads rfl) fun exclusiveMaximum _ => ?_
  exact Checks.read (divisor?_reads rfl) fun multipleOf _ => .pure _

theorem stringRules_checks :
    Checks s child (s.verdicts around ["minLength", "maxLength", "pattern"]) []
      (liftM s.stringRules : Compile StringRules) := by
  unfold stringRules
  simp only [liftM_bind, liftM_pure]
  refine Checks.read (natural?_reads rfl) fun minLength _ => ?_
  refine Checks.read (natural?_reads rfl) fun maxLength _ => ?_
  exact Checks.read (pattern?_reads rfl) fun pattern _ => .pure _

/-- The keywords that are read in the scopes inside a schema, in this order. -/
def innerKeywords : List String :=
  ["$ref", "type", "minimum", "maximum", "exclusiveMinimum", "exclusiveMaximum", "multipleOf",
    "minLength", "maxLength", "pattern", "items", "additionalItems", "minItems", "maxItems",
    "uniqueItems", "contains", "properties", "patternProperties", "additionalProperties",
    "required", "minProperties", "maxProperties", "dependencies", "propertyNames", "enum",
    "allOf", "anyOf", "oneOf", "not", "if", "then", "else", "definitions"]

theorem reading_visits (reading : Except CompileError α) :
    Visits s child [] (liftM reading : Compile α) fun _ _ => True := by
  intro draft a after hrun
  cases reading with
  | error e => cases hrun
  | ok b =>
      cases hrun
      exact ⟨[], rfl, trivial⟩

theorem keywords_checks :
    Checks s child (s.verdicts around innerKeywords) (Json.object s.members).subschemas
      (s.keywords child) := by
  unfold keywords Json.subschemas
  refine Checks.read reference?_reads fun reference _ => ?_
  refine Checks.read types?_reads fun types _ => ?_
  refine numberRules_checks.bind (reading_visits _) fun numbers => ?_
  refine stringRules_checks.bind (reading_visits _) fun strings => ?_
  refine arrayRules_checks.bind arrayRules_visits fun arrays => ?_
  refine objectRules_checks.bind objectRules_visits fun objects => ?_
  refine Checks.read enum?_reads fun enum _ => ?_
  refine combinators_checks.bind combinators_visits fun combinators => ?_
  refine Checks.table rfl (by decide) fun definitionTable hdefinitions => ?_
  obtain rfl := table_eq hdefinitions
  exact (named_table_checks rfl hdefinitions).map

end SchemaRegistry.Site

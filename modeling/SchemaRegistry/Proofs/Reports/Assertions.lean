import SchemaRegistry.Proofs.Reports.Plans

/-!
What fails at a schema. A schema that is `false` fails at itself. Everything else fails at a keyword
that the schema has: as a whole, or at one of the names that `required` or a dependency lists. So
the path of a failure leads from the text of the schema to something.
-/

namespace SchemaRegistry

/-- The keywords that fail as a whole. -/
def assertions : List String :=
  ["type", "minimum", "maximum", "exclusiveMinimum", "exclusiveMaximum", "multipleOf", "minLength",
    "maxLength", "pattern", "minItems", "maxItems", "uniqueItems", "contains", "minProperties",
    "maxProperties", "enum", "const", "oneOf", "not"]

/-- A schema may fail at a path, which leads to the given value in its text: to a schema that is
`false`, to the value of a keyword, or to a name that is listed under a keyword. -/
inductive Json.Asserts : Json → List String → Json → Prop
  | refusal : Asserts (.bool false) [] (.bool false)
  | keyword {members : List (String × Json)} {keyword : String} {value : Json}
      (hknown : keyword ∈ assertions) (hvalue : member? keyword members = some value) :
      Asserts (.object members) [keyword] value
  | required {members : List (String × Json)} {names : List Json} {name : String} {index : Nat}
      (hnames : member? "required" members = some (.array names))
      (hname : names[index]? = some (.string name)) :
      Asserts (.object members) ["required", toString index] (.string name)
  | dependency {members table : List (String × Json)} {key : String} {names : List Json}
      {name : String} {index : Nat} (htable : member? "dependencies" members = some (.object table))
      (hnames : member? key table = some (.array names))
      (hname : names[index]? = some (.string name)) :
      Asserts (.object members) ["dependencies", key, toString index] (.string name)

/-- The path of a failure leads to what the schema asserts there. -/
theorem Json.Asserts.at?_eq {raw pointed : Json} {path : List String}
    (hasserts : raw.Asserts path pointed) : raw.at? path = some pointed := by
  cases hasserts with
  | refusal => rfl
  | keyword hknown hvalue => simp [hvalue]
  | required hnames hname => simp [hnames, hname]
  | dependency htable hnames hname => simp [htable, hnames, hname]

section Failures

theorem mem_failuresOf_flatMap {α : Type} {f : α → List Step} {items : List α}
    {path : List String} :
    path ∈ failuresOf (items.flatMap f) ↔ ∃ item ∈ items, path ∈ failuresOf (f item) := by
  simp only [mem_failuresOf, List.mem_flatMap]
  grind

/-- Steps that hand a value on do not fail themselves. -/
theorem failuresOf_eq_nil {steps : List Step}
    (hsteps : ∀ step ∈ steps, step.action.mayFail = false) : failuresOf steps = [] := by
  apply List.eq_nil_iff_forall_not_mem.mpr
  intro path hpath
  obtain ⟨action, hfails, hstep⟩ := mem_failuresOf.mp hpath
  exact Bool.false_ne_true ((hsteps _ hstep).symm.trans hfails)

@[simp] theorem ArrayRules.failuresOf_planEach (schema index : Nat) (items : List Json) :
    failuresOf (planEach schema index items) = [] := by
  apply failuresOf_eq_nil
  intro step hstep
  obtain ⟨n, item, -, rfl⟩ := mem_planEach.mp hstep
  rfl

@[simp] theorem ArrayRules.failuresOf_planTuple (index : Nat) (schemas : List Nat)
    (items : List Json) : failuresOf (planTuple index schemas items) = [] := by
  apply failuresOf_eq_nil
  intro step hstep
  obtain ⟨n, schema, item, -, -, rfl⟩ := mem_planTuple.mp hstep
  rfl

@[simp] theorem Combinators.failuresOf_planAll (value : Json) (index : Nat) (schemas : List Nat) :
    failuresOf (planAll value index schemas) = [] := by
  apply failuresOf_eq_nil
  intro step hstep
  obtain ⟨n, schema, -, rfl⟩ := mem_planAll.mp hstep
  rfl

@[simp] theorem ArrayRules.failuresOf_planItems (rules : ArrayRules) (items : List Json) :
    failuresOf (rules.planItems items) = [] := by
  unfold planItems
  rcases rules.items with _ | _ | schemas
  · rfl
  · simp
  · cases rules.additionalItems <;> simp

@[simp] theorem ObjectRules.failuresOf_planMember (rules : ObjectRules) (key : String)
    (value : Json) : failuresOf (rules.planMember key value) = [] := by
  have hmatching : ∀ entries : List (Pattern × Nat), failuresOf (entries.map fun entry =>
      ⟨["patternProperties", entry.1.source], .descend [key] entry.2 value⟩) = [] := by
    intro entries
    apply failuresOf_eq_nil
    intro step hstep
    obtain ⟨entry, -, rfl⟩ := List.mem_map.mp hstep
    rfl
  unfold planMember
  rw [failuresOf_append, failuresOf_append, hmatching]
  cases rules.properties.lookup key <;> cases rules.additionalProperties <;>
    simp [failuresOf_cons, Action.mayFail, apply_ite failuresOf]

@[simp] theorem ObjectRules.failuresOf_planNames (rules : ObjectRules)
    (members : List (String × Json)) : failuresOf (rules.planNames members) = [] := by
  unfold planNames
  cases rules.propertyNames with
  | none => rfl
  | some schema =>
      apply failuresOf_eq_nil
      intro step hstep
      obtain ⟨member, -, rfl⟩ := List.mem_map.mp hstep
      rfl

/-- A failure among names that have to be there is at the index of a name. -/
theorem ObjectRules.mem_failuresOf_planMissing {members : List (String × Json)} {index : Nat}
    {names : List String} {path : List String}
    (hpath : path ∈ failuresOf (planMissing members index names)) :
    ∃ (n : Nat) (name : String), names[n]? = some name ∧ path = [toString (index + n)] := by
  obtain ⟨action, hfails, hstep⟩ := mem_failuresOf.mp hpath
  obtain ⟨n, name, hname, heq⟩ := mem_planMissing.mp hstep
  exact ⟨n, name, hname, (congrArg Step.path heq).symm⟩

end Failures

namespace Site

variable {s : Site} {keyword : String}

section Absent

variable (habsent : s.keyword? keyword = none)

include habsent

theorem number?_of_absent : s.number? keyword = .ok none := by simp [number?, habsent]

theorem divisor?_of_absent : s.divisor? keyword = .ok none := by
  rw [divisor?, number?_of_absent habsent]
  rfl

theorem natural?_of_absent : s.natural? keyword = .ok none := by simp [natural?, habsent]

theorem pattern?_of_absent : s.pattern? keyword = .ok none := by simp [pattern?, habsent]

theorem flag_of_absent : s.flag keyword = .ok false := by simp [flag, habsent]

end Absent

theorem types?_of_absent (habsent : s.keyword? "type" = none) : s.types? = .ok none := by
  simp [types?, habsent]

theorem enum?_of_absent (habsent : s.keyword? "enum" = none) : s.enum? = .ok none := by
  simp [enum?, habsent]

/-- A bound that does not hold was read at its keyword, so the keyword is there. -/
theorem asserts_of_bound {α : Type} {reading : Except CompileError (Option α)} {bound : Option α}
    {test : α → Bool} (hknown : keyword ∈ assertions)
    (habsent : s.keyword? keyword = none → reading = .ok none) (hread : reading = .ok bound)
    (hfails : holdsFor bound test = false) :
    ∃ pointed, (Json.object s.members).Asserts [keyword] pointed := by
  cases hvalue : s.keyword? keyword with
  | none =>
      rw [habsent hvalue] at hread
      cases hread
      cases hfails
  | some value => exact ⟨value, .keyword hknown hvalue⟩

/-- A list of strings is read from an array of them. -/
theorem eq_array_of_strings {value : Json} {names : List String}
    (hread : s.strings keyword value = .ok names) : value = .array (names.map .string) := by
  cases value with
  | array items =>
      unfold strings at hread
      dsimp only at hread
      congr 1
      induction items generalizing names with
      | nil =>
          cases hread
          rfl
      | cons item rest ih =>
          rw [List.mapM_cons] at hread
          obtain ⟨name, hname, hrest⟩ := bind_ok hread
          obtain ⟨others, hothers, hdone⟩ := bind_ok hrest
          cases hdone
          cases item with
          | string text =>
              cases hname
              rw [List.map_cons, ← ih hothers]
          | _ => cases hname
  | _ => cases hread

end Site

/-- A schema that is stored under a keyword lies at the keyword. -/
theorem Json.HeldAt.asserts {members : List (String × Json)} {keyword : String}
    {path : List String} {value : Json} (hheld : HeldAt members (keyword :: path, value))
    (hknown : keyword ∈ assertions) : ∃ pointed, (object members).Asserts [keyword] pointed := by
  obtain ⟨pointed, hvalue⟩ := hheld.exists_member
  exact ⟨pointed, .keyword hknown hvalue⟩

section Groups

variable {s : Site} {path : List String}

theorem NumberRules.ReadAt.asserts {rules : NumberRules} (hread : rules.ReadAt s)
    {epsilon : Binary64} {n : Number} (hpath : path ∈ failuresOf (rules.plan epsilon n)) :
    ∃ pointed, (Json.object s.members).Asserts path pointed := by
  simp only [plan, mem_failuresOf_test, failuresOf_nil, List.not_mem_nil, or_false] at hpath
  rcases hpath with ⟨hfails, rfl⟩ | ⟨hfails, rfl⟩ | ⟨hfails, rfl⟩ | ⟨hfails, rfl⟩ | ⟨hfails, rfl⟩
  · exact Site.asserts_of_bound (by decide) Site.number?_of_absent hread.minimum hfails
  · exact Site.asserts_of_bound (by decide) Site.number?_of_absent hread.maximum hfails
  · exact Site.asserts_of_bound (by decide) Site.number?_of_absent hread.exclusiveMinimum hfails
  · exact Site.asserts_of_bound (by decide) Site.number?_of_absent hread.exclusiveMaximum hfails
  · exact Site.asserts_of_bound (by decide) Site.divisor?_of_absent hread.multipleOf hfails

theorem StringRules.ReadAt.asserts {rules : StringRules} (hread : rules.ReadAt s) {text : String}
    (hpath : path ∈ failuresOf (rules.plan text)) :
    ∃ pointed, (Json.object s.members).Asserts path pointed := by
  simp only [plan, mem_failuresOf_test, failuresOf_nil, List.not_mem_nil, or_false] at hpath
  rcases hpath with ⟨hfails, rfl⟩ | ⟨hfails, rfl⟩ | ⟨hfails, rfl⟩
  · exact Site.asserts_of_bound (by decide) Site.natural?_of_absent hread.minLength hfails
  · exact Site.asserts_of_bound (by decide) Site.natural?_of_absent hread.maxLength hfails
  · exact Site.asserts_of_bound (by decide) Site.pattern?_of_absent hread.pattern hfails

theorem ArrayRules.ReadAt.asserts {rules : ArrayRules} (hread : rules.ReadAt s)
    (hheld : ∀ path inner, (path, inner) ∈ rules.slots →
      ∃ value, Json.HeldAt s.members (path, value))
    {items : List Json} (hpath : path ∈ failuresOf (rules.plan items)) :
    ∃ pointed, (Json.object s.members).Asserts path pointed := by
  simp only [plan, failuresOf_append, failuresOf_planItems, List.nil_append, List.mem_append,
    mem_failuresOf_test, failuresOf_nil, List.not_mem_nil, or_false] at hpath
  rcases hpath with (⟨hfails, rfl⟩ | ⟨hfails, rfl⟩ | ⟨hfails, rfl⟩) | hcontains
  · exact Site.asserts_of_bound (by decide) Site.natural?_of_absent hread.minItems hfails
  · exact Site.asserts_of_bound (by decide) Site.natural?_of_absent hread.maxItems hfails
  · cases hvalue : s.keyword? "uniqueItems" with
    | none =>
        have habsent := (Site.flag_of_absent hvalue).symm.trans hread.uniqueItems
        rw [← Except.ok.inj habsent] at hfails
        cases hfails
    | some value => exact ⟨value, .keyword (by decide) hvalue⟩
  · unfold planContains at hcontains
    cases hrule : rules.contains with
    | none =>
        rw [hrule] at hcontains
        cases hcontains
    | some schema =>
        rw [hrule] at hcontains
        obtain rfl := List.mem_singleton.mp hcontains
        obtain ⟨value, hvalue⟩ := hheld ["contains"] schema (by simp [hrule])
        exact hvalue.asserts (by decide)

/-- Names that a dependency lists are those of the array in its table. -/
theorem ObjectRules.ReadAt.asserts_of_dependency {rules : ObjectRules} (hread : rules.ReadAt s)
    (hdistinct : (Json.object s.members).keysDistinct = true) {members : List (String × Json)}
    {entry : String × Dependency} (hentry : entry ∈ rules.dependencies)
    (hpath : path ∈ failuresOf (planDependency members entry)) :
    ∃ pointed, (Json.object s.members).Asserts path pointed := by
  obtain ⟨⟨key, value⟩, hmember, hsame, hnames⟩ :=
    (Matched.of_forall₂ hread.dependencies).2 entry hentry
  obtain ⟨other, dependency⟩ := entry
  obtain rfl : other = key := hsame
  unfold planDependency at hpath
  split at hpath
  · cases dependency with
    | schema schema => cases hpath
    | keys names =>
        obtain rfl := Site.eq_array_of_strings ((hnames names).mp rfl)
        simp only [failuresOf_within, List.mem_map, exists_exists_and_eq_and] at hpath
        obtain ⟨inner, hinner, rfl⟩ := hpath
        obtain ⟨index, name, hname, rfl⟩ := mem_failuresOf_planMissing hinner
        rw [Nat.zero_add]
        cases htable : s.keyword? "dependencies" with
        | none =>
            rw [htable] at hmember
            cases hmember
        | some held =>
            rw [htable] at hmember
            cases held with
            | object table =>
                have htablekeys : (Json.object table).keysDistinct = true :=
                  Json.keysDistinct_of_child? hdistinct htable
                exact ⟨.string name, .dependency htable (Json.child?_of_mem htablekeys hmember)
                  (by simp [hname])⟩
            | _ => cases hmember
  · cases hpath

theorem ObjectRules.ReadAt.asserts {rules : ObjectRules} (hread : rules.ReadAt s)
    (hdistinct : (Json.object s.members).keysDistinct = true) {members : List (String × Json)}
    (hpath : path ∈ failuresOf (rules.plan members)) :
    ∃ pointed, (Json.object s.members).Asserts path pointed := by
  simp only [plan, failuresOf_append, failuresOf_planNames, List.append_nil, List.mem_append,
    mem_failuresOf_flatMap, failuresOf_planMember, List.not_mem_nil, and_false, exists_false,
    false_or, failuresOf_within, List.mem_map, mem_failuresOf_test, failuresOf_nil,
    or_false] at hpath
  rcases hpath with ⟨inner, hinner, rfl⟩ | (⟨hfails, rfl⟩ | ⟨hfails, rfl⟩) | ⟨entry, hentry, hpath⟩
  · obtain ⟨index, name, hname, rfl⟩ := mem_failuresOf_planMissing hinner
    rw [Nat.zero_add]
    have hrequired := hread.required
    unfold Site.required at hrequired
    cases hvalue : s.keyword? "required" with
    | none =>
        rw [hvalue] at hrequired
        rw [← Except.ok.inj hrequired] at hname
        cases hname
    | some value =>
        rw [hvalue] at hrequired
        obtain rfl := Site.eq_array_of_strings hrequired
        exact ⟨.string name, .required hvalue (by simp [hname])⟩
  · exact Site.asserts_of_bound (by decide) Site.natural?_of_absent hread.minProperties hfails
  · exact Site.asserts_of_bound (by decide) Site.natural?_of_absent hread.maxProperties hfails
  · exact hread.asserts_of_dependency hdistinct hentry hpath

theorem Combinators.asserts {c : Combinators}
    (hheld : ∀ path inner, (path, inner) ∈ c.slots → ∃ value, Json.HeldAt s.members (path, value))
    {value : Json} (hpath : path ∈ failuresOf (c.plan value)) :
    ∃ pointed, (Json.object s.members).Asserts path pointed := by
  simp only [plan, failuresOf_append, failuresOf_within, failuresOf_planAll, List.map_nil,
    List.nil_append, List.mem_append] at hpath
  rcases hpath with hany | hone | hnot | hconditional
  · split at hany <;> cases hany
  · cases hschemas : c.oneOf with
    | nil =>
        rw [hschemas] at hone
        cases hone
    | cons schema rest =>
        rw [hschemas] at hone
        obtain rfl := List.mem_singleton.mp hone
        obtain ⟨held, hvalue⟩ := hheld ["oneOf", toString 0] schema (by simp [hschemas])
        exact hvalue.asserts (by decide)
  · cases hrule : c.not with
    | none =>
        rw [hrule] at hnot
        cases hnot
    | some schema =>
        rw [hrule] at hnot
        obtain rfl := List.mem_singleton.mp hnot
        obtain ⟨held, hvalue⟩ := hheld ["not"] schema (by simp [hrule])
        exact hvalue.asserts (by decide)
  · cases hrule : c.conditional <;> rw [hrule] at hconditional <;> cases hconditional

theorem Keywords.ReadAt.asserts {k : Keywords} (hread : k.ReadAt s)
    (hdistinct : (Json.object s.members).keysDistinct = true)
    (hheld : ∀ path inner, (path, inner) ∈ k.slots → ∃ value, Json.HeldAt s.members (path, value))
    {epsilon : Binary64} {value : Json} (hpath : path ∈ failuresOf (k.plan epsilon value)) :
    ∃ pointed, (Json.object s.members).Asserts path pointed := by
  have hreference : failuresOf (k.planReference value) = [] := by
    unfold planReference
    cases k.reference <;> rfl
  simp only [plan, planValues, failuresOf_append, hreference, List.nil_append, List.mem_append,
    mem_failuresOf_test, failuresOf_nil, List.not_mem_nil, or_false] at hpath
  rcases hpath with ⟨hfails, rfl⟩ | hkind | (⟨hfails, rfl⟩ | ⟨hfails, rfl⟩) | hcombinators
  · exact Site.asserts_of_bound (by decide) Site.types?_of_absent hread.types hfails
  · cases value with
    | number n => exact hread.numbers.asserts hkind
    | string text => exact hread.strings.asserts hkind
    | array items =>
        refine hread.arrays.asserts (fun path inner hslot => hheld path inner ?_) hkind
        exact Keywords.mem_slots.mpr (Or.inl hslot)
    | object members => exact hread.objects.asserts hdistinct hkind
    | _ => cases hkind
  · exact Site.asserts_of_bound (by decide) Site.enum?_of_absent hread.enum hfails
  · cases hvalue : s.keyword? "const" with
    | none =>
        rw [hread.const, hvalue] at hfails
        cases hfails
    | some held => exact ⟨held, .keyword (by decide) hvalue⟩
  · refine Combinators.asserts (fun path inner hslot => hheld path inner ?_) hcombinators
    exact Keywords.mem_slots.mpr (Or.inr (Or.inr hslot))

end Groups

/-- Where a compiled schema may fail, its text asserts something. -/
theorem Entry.CompiledAt.asserts {entry : Entry} {index : Nat} {p : Position}
    {places : List Position} (hentry : entry.CompiledAt index p places)
    (hdistinct : p.raw.keysDistinct = true) {epsilon : Binary64} {value : Json}
    {path : List String} (hpath : path ∈ failuresOf (entry.node.plan epsilon value)) :
    ∃ pointed, p.raw.Asserts path pointed := by
  unfold Node.plan at hpath
  rcases hentry.made.body with ⟨accepts, hraw, hbody⟩ | ⟨members, k, hraw, hbody, hread⟩
  · rw [hbody] at hpath
    rw [hraw]
    cases accepts with
    | true => cases hpath
    | false =>
        obtain rfl := List.mem_singleton.mp hpath
        exact ⟨_, .refusal⟩
  · rw [hbody] at hpath
    rw [hraw] at hdistinct ⊢
    refine hread.asserts hdistinct (fun path inner hslot => ?_) hpath
    rw [← Node.slots_of_body hbody] at hslot
    obtain ⟨-, held, hsubschema, -⟩ := hentry.slots path inner hslot
    rw [hraw] at hsubschema
    exact ⟨held, Json.heldAt_of_subschema hsubschema⟩

end SchemaRegistry

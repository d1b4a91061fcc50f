import SchemaRegistry.Proofs.Semantics.Admits

/-!
The equations of the meaning. The demands of a schema grow weaker when other schemas give more
answers, so the least pair of answers is a solution of the equations that the schemas stand for. No
value is both accepted and rejected.
-/

namespace SchemaRegistry

section Monotone

variable {r : Registry} {epsilon : Binary64} {accepts accepts' rejects rejects' : Nat → Json → Prop}
  (haccepts : ∀ index value, accepts index value → accepts' index value)

include haccepts

theorem ArrayRules.Admits.mono {rules : ArrayRules} {items : List Json}
    (hadmits : rules.Admits accepts items) : rules.Admits accepts' items where
  each schema hschema item hitem := haccepts _ _ (hadmits.each schema hschema item hitem)
  tuple schemas hschemas position schema item hschema hitem :=
    haccepts _ _ (hadmits.tuple schemas hschemas position schema item hschema hitem)
  additionalItems schemas hschemas schema hschema position item hposition hitem :=
    haccepts _ _
      (hadmits.additionalItems schemas hschemas schema hschema position item hposition hitem)
  minItems := hadmits.minItems
  maxItems := hadmits.maxItems
  uniqueItems := hadmits.uniqueItems
  contains schema hschema := by
    obtain ⟨item, hitem, haccepted⟩ := hadmits.contains schema hschema
    exact ⟨item, hitem, haccepts _ _ haccepted⟩

theorem ObjectRules.Admits.mono {rules : ObjectRules} {members : List (String × Json)}
    (hadmits : rules.Admits accepts members) : rules.Admits accepts' members where
  properties member hmember schema hschema :=
    haccepts _ _ (hadmits.properties member hmember schema hschema)
  patternProperties member hmember entry hentry hmatches :=
    haccepts _ _ (hadmits.patternProperties member hmember entry hentry hmatches)
  additionalProperties member hmember hnamed hmatching schema hschema :=
    haccepts _ _ (hadmits.additionalProperties member hmember hnamed hmatching schema hschema)
  required := hadmits.required
  minProperties := hadmits.minProperties
  maxProperties := hadmits.maxProperties
  dependentNames := hadmits.dependentNames
  dependentSchemas entry hentry hmember schema hschema :=
    haccepts _ _ (hadmits.dependentSchemas entry hentry hmember schema hschema)
  propertyNames schema hschema member hmember :=
    haccepts _ _ (hadmits.propertyNames schema hschema member hmember)

variable (hrejects : ∀ index value, rejects index value → rejects' index value)

include hrejects

theorem Conditional.Admits.mono {conditional : Conditional} {value : Json}
    (hadmits : conditional.Admits accepts rejects value) :
    conditional.Admits accepts' rejects' value := by
  rcases hadmits with ⟨hcondition, hconsequent⟩ | ⟨hcondition, halternative⟩
  · exact Or.inl ⟨haccepts _ _ hcondition,
      fun schema hschema => haccepts _ _ (hconsequent schema hschema)⟩
  · exact Or.inr ⟨hrejects _ _ hcondition,
      fun schema hschema => haccepts _ _ (halternative schema hschema)⟩

theorem ExactlyOne.mono {cases : List (Nat × Json)} (hone : ExactlyOne accepts rejects cases) :
    ExactlyOne accepts' rejects' cases := by
  obtain ⟨before, c, after, hcases, haccepted, hothers⟩ := hone
  exact ⟨before, c, after, hcases, haccepts _ _ haccepted,
    fun other hother => hrejects _ _ (hothers other hother)⟩

theorem Combinators.Admits.mono {c : Combinators} {value : Json}
    (hadmits : c.Admits accepts rejects value) : c.Admits accepts' rejects' value where
  allOf schema hschema := haccepts _ _ (hadmits.allOf schema hschema)
  anyOf hnonempty := by
    obtain ⟨schema, hschema, haccepted⟩ := hadmits.anyOf hnonempty
    exact ⟨schema, hschema, haccepts _ _ haccepted⟩
  oneOf hnonempty := (hadmits.oneOf hnonempty).mono haccepts hrejects
  not schema hschema := hrejects _ _ (hadmits.not schema hschema)
  conditional conditional hconditional :=
    (hadmits.conditional conditional hconditional).mono haccepts hrejects

theorem Keywords.Admits.mono {k : Keywords} {value : Json}
    (hadmits : k.Admits r epsilon accepts rejects value) :
    k.Admits r epsilon accepts' rejects' value where
  reference reference hreference := by
    obtain ⟨target, htarget, haccepted⟩ := hadmits.reference reference hreference
    exact ⟨target, htarget, haccepts _ _ haccepted⟩
  types := hadmits.types
  numbers := hadmits.numbers
  strings := hadmits.strings
  arrays items hvalue := (hadmits.arrays items hvalue).mono haccepts
  objects members hvalue := (hadmits.objects members hvalue).mono haccepts
  enum := hadmits.enum
  const := hadmits.const
  combinators := hadmits.combinators.mono haccepts hrejects

/-- More answers of other schemas never take away that a schema admits a value. -/
theorem Node.Admits.mono {node : Node} {value : Json}
    (hadmits : node.Admits r epsilon accepts rejects value) :
    node.Admits r epsilon accepts' rejects' value := by
  unfold Node.Admits at hadmits ⊢
  cases hbody : node.body with
  | constant accepted =>
      rw [hbody] at hadmits
      exact hadmits
  | keywords k =>
      rw [hbody] at hadmits
      exact Keywords.Admits.mono haccepts hrejects hadmits

theorem Node.Refuses.mono {node : Node} {value : Json}
    (hrefuses : node.Refuses r epsilon accepts rejects value) :
    node.Refuses r epsilon accepts' rejects' value := by
  intro hadmits
  apply hrefuses
  exact hadmits.mono (fun index value hopen hrejected => hopen (hrejects index value hrejected))
    (fun index value hopen haccepted => hopen (haccepts index value haccepted))

end Monotone

namespace Registry

variable {r : Registry} {epsilon : Binary64}

/-- The least pair of answers contains all answers that follow from it. -/
theorem closed_meaning (r : Registry) (epsilon : Binary64) :
    r.Closed epsilon (r.Accepts epsilon) (r.Rejects epsilon) where
  accepting index node value hnode hadmits := by
    intro accepts rejects hclosed
    exact hclosed.accepting index node value hnode (hadmits.mono
      (fun index value haccepted => haccepted accepts rejects hclosed)
      (fun index value hrejected => hrejected accepts rejects hclosed))
  rejecting index node value hnode hrefuses := by
    intro accepts rejects hclosed
    exact hclosed.rejecting index node value hnode (hrefuses.mono
      (fun index value haccepted => haccepted accepts rejects hclosed)
      (fun index value hrejected => hrejected accepts rejects hclosed))

/-- So do the answers that follow from it. -/
theorem closed_step (r : Registry) (epsilon : Binary64) :
    r.Closed epsilon
      (fun index value => ∃ node, r.node? index = some node ∧
        node.Admits r epsilon (r.Accepts epsilon) (r.Rejects epsilon) value)
      (fun index value => ∃ node, r.node? index = some node ∧
        node.Refuses r epsilon (r.Accepts epsilon) (r.Rejects epsilon) value) := by
  have haccepts : ∀ index value, (∃ node, r.node? index = some node ∧
      node.Admits r epsilon (r.Accepts epsilon) (r.Rejects epsilon) value) →
        r.Accepts epsilon index value := by
    rintro index value ⟨node, hnode, hadmits⟩
    exact (closed_meaning r epsilon).accepting index node value hnode hadmits
  have hrejects : ∀ index value, (∃ node, r.node? index = some node ∧
      node.Refuses r epsilon (r.Accepts epsilon) (r.Rejects epsilon) value) →
        r.Rejects epsilon index value := by
    rintro index value ⟨node, hnode, hrefuses⟩
    exact (closed_meaning r epsilon).rejecting index node value hnode hrefuses
  constructor
  · intro index node value hnode hadmits
    exact ⟨node, hnode, hadmits.mono haccepts hrejects⟩
  · intro index node value hnode hrefuses
    exact ⟨node, hnode, hrefuses.mono haccepts hrejects⟩

/-- A schema accepts exactly the values that it admits. -/
theorem accepts_iff {index : Nat} {node : Node} (hnode : r.node? index = some node) (value : Json) :
    r.Accepts epsilon index value ↔
      node.Admits r epsilon (r.Accepts epsilon) (r.Rejects epsilon) value := by
  constructor
  · intro haccepted
    obtain ⟨found, hfound, hadmits⟩ := haccepted _ _ (closed_step r epsilon)
    rw [hnode] at hfound
    cases hfound
    exact hadmits
  · exact (closed_meaning r epsilon).accepting index node value hnode

/-- A schema rejects exactly the values that it refuses. -/
theorem rejects_iff {index : Nat} {node : Node} (hnode : r.node? index = some node) (value : Json) :
    r.Rejects epsilon index value ↔
      node.Refuses r epsilon (r.Accepts epsilon) (r.Rejects epsilon) value := by
  constructor
  · intro hrejected
    obtain ⟨found, hfound, hrefuses⟩ := hrejected _ _ (closed_step r epsilon)
    rw [hnode] at hfound
    cases hfound
    exact hrefuses
  · exact (closed_meaning r epsilon).rejecting index node value hnode

/-- No schema both accepts and rejects a value. -/
theorem not_rejects_of_accepts {index : Nat} {value : Json}
    (haccepted : r.Accepts epsilon index value) : ¬ r.Rejects epsilon index value := by
  have hclosed : r.Closed epsilon (fun index value => ¬ r.Rejects epsilon index value)
      (fun index value => ¬ r.Accepts epsilon index value) := by
    constructor
    · intro index node value hnode hadmits hrejected
      exact (rejects_iff hnode value).mp hrejected hadmits
    · intro index node value hnode hrefuses haccepted
      exact hrefuses (((accepts_iff hnode value).mp haccepted).mono
        (fun index value haccepted hrejected => hrejected haccepted)
        (fun index value hrejected haccepted => haccepted hrejected))
  exact haccepted _ _ hclosed

/-- The least pair of answers agrees with every answer to all questions. -/
theorem IsMeaning.agrees {meaning : Nat → Json → Prop} (hmeaning : r.IsMeaning epsilon meaning)
    (index : Nat) (value : Json) :
    (r.Accepts epsilon index value → meaning index value) ∧
      (r.Rejects epsilon index value → ¬ meaning index value) := by
  have hclosed : r.Closed epsilon meaning (fun index value => ¬ meaning index value) := by
    constructor
    · intro index node value hnode hadmits
      exact (hmeaning index node value hnode).mpr hadmits
    · intro index node value hnode hrefuses hmeant
      exact hrefuses (((hmeaning index node value hnode).mp hmeant).mono
        (fun index value hmeant hnot => hnot hmeant) (fun index value hnot => hnot))
  exact ⟨fun haccepted => haccepted _ _ hclosed, fun hrejected => hrejected _ _ hclosed⟩

end Registry

end SchemaRegistry

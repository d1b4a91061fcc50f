import SchemaRegistry.Proofs.Graph.Recursion

/-!
What a rejection shows. A judgement that counts a violation has a finding for it, also where the
violations of several schemas are handed over as one. So a validation that has room for a violation
tells by what it records whether there is any.
-/

namespace SchemaRegistry

namespace Judgement

/-- What is found is empty only if nothing is violated. -/
def Evident (j : Judgement) : Prop := ∀ f, j = .ok f → (f.entries = [] ↔ f.violations = 0)

theorem Evident.map {j : Judgement} {f : Findings → Findings} (hevident : j.Evident)
    (hcount : ∀ g, (f g).violations = g.violations)
    (hentries : ∀ g, (f g).entries.length = g.entries.length) :
    Judgement.Evident (j.map f) := by
  intro found hfound
  cases j with
  | error stop => cases hfound
  | ok g =>
      cases hfound
      rw [hcount, ← List.length_eq_zero_iff, hentries, List.length_eq_zero_iff]
      exact hevident g rfl

theorem evident_empty : Evident (.ok .empty) := by
  intro f hf
  cases hf
  exact ⟨fun _ => rfl, fun _ => rfl⟩

theorem evident_single : Evident (.ok .single) := by
  intro f hf
  cases hf
  exact ⟨fun h => absurd h (List.cons_ne_nil _ _), fun h => absurd h Nat.one_ne_zero⟩

theorem Evident.andThen {j k : Judgement} (hj : j.Evident) (hk : k.Evident) :
    (j.andThen k).Evident := by
  intro found hfound
  obtain ⟨f, hf, hrest⟩ := bind_ok hfound
  obtain ⟨g, hg, hdone⟩ := bind_ok hrest
  cases hdone
  rw [Findings.entries_append, Findings.violations_append, List.append_eq_nil_iff, hj f hf,
    hk g hg, Nat.add_eq_zero_iff]

end Judgement

/-- Every attempt of the step is of some schema. -/
def Step.supplied (step : Step) : Bool :=
  match step.action with
  | .any [] _ => false
  | _ => true

section Plans

@[simp] theorem Step.supplied_within (token : String) :
    Step.supplied ∘ Step.within token = Step.supplied := rfl

theorem ArrayRules.supplied_planEach (schema index : Nat) (items : List Json) :
    (planEach schema index items).all Step.supplied = true := by
  apply List.all_eq_true.mpr
  intro step hstep
  obtain ⟨n, item, -, rfl⟩ := mem_planEach.mp hstep
  rfl

theorem ArrayRules.supplied_planTuple (index : Nat) (schemas : List Nat) (items : List Json) :
    (planTuple index schemas items).all Step.supplied = true := by
  apply List.all_eq_true.mpr
  intro step hstep
  obtain ⟨n, schema, item, -, -, rfl⟩ := mem_planTuple.mp hstep
  rfl

theorem ObjectRules.supplied_planMissing (members : List (String × Json)) (index : Nat)
    (names : List String) : (planMissing members index names).all Step.supplied = true := by
  apply List.all_eq_true.mpr
  intro step hstep
  obtain ⟨n, name, -, rfl⟩ := mem_planMissing.mp hstep
  rfl

theorem Combinators.supplied_planAll (value : Json) (index : Nat) (schemas : List Nat) :
    (planAll value index schemas).all Step.supplied = true := by
  apply List.all_eq_true.mpr
  intro step hstep
  obtain ⟨n, schema, -, rfl⟩ := mem_planAll.mp hstep
  rfl

theorem ArrayRules.supplied_plan (rules : ArrayRules) (items : List Json) :
    (rules.plan items).all Step.supplied = true := by
  have hitems : (rules.planItems items).all Step.supplied = true := by
    unfold planItems
    rcases rules.items with _ | _ | schemas
    · rfl
    · simp [List.all_map, supplied_planEach]
    · cases rules.additionalItems <;>
        simp [List.all_map, supplied_planEach, supplied_planTuple]
  have hcontains : (rules.planContains items).all Step.supplied = true := by
    unfold planContains
    cases rules.contains <;> rfl
  unfold plan
  rw [List.all_append, hitems, List.all_append, hcontains]
  rfl

theorem ObjectRules.supplied_plan (rules : ObjectRules) (members : List (String × Json)) :
    (rules.plan members).all Step.supplied = true := by
  have hmember : ∀ key value, (rules.planMember key value).all Step.supplied = true := by
    intro key value
    unfold planMember
    rw [List.all_append, List.all_append, List.all_map]
    have hmatching : ∀ (entries : List (Pattern × Nat)), entries.all (Step.supplied ∘ fun entry =>
        ⟨["patternProperties", entry.1.source], .descend [key] entry.2 value⟩) = true :=
      fun entries => List.all_eq_true.mpr fun _ _ => rfl
    rw [hmatching, Bool.true_and, Bool.and_eq_true]
    constructor
    · cases rules.properties.lookup key <;> rfl
    · split
      · cases rules.additionalProperties <;> rfl
      · rfl
  have hdependency : ∀ entry, (planDependency members entry).all Step.supplied = true := by
    rintro ⟨key, dependency⟩
    unfold planDependency
    split
    · cases dependency with
      | keys names => simp only [List.all_map, Step.supplied_within, supplied_planMissing]
      | schema schema => rfl
    · rfl
  have hnames : (rules.planNames members).all Step.supplied = true := by
    unfold planNames
    cases rules.propertyNames with
    | none => rfl
    | some schema =>
        rw [List.all_map]
        exact List.all_eq_true.mpr fun _ _ => rfl
  unfold plan
  simp only [List.all_append, List.all_flatMap, List.all_map, Step.supplied_within,
    supplied_planMissing, hnames, Bool.and_true, Bool.true_and, Bool.and_eq_true]
  exact ⟨List.all_eq_true.mpr fun member _ => hmember member.1 member.2, rfl,
    List.all_eq_true.mpr fun entry _ => hdependency entry⟩

theorem Combinators.supplied_plan (c : Combinators) (value : Json) :
    (c.plan value).all Step.supplied = true := by
  have hany : (if c.anyOf.isEmpty then [] else [⟨["anyOf"], .any c.anyOf value⟩]).all
      Step.supplied = true := by
    cases c.anyOf <;> rfl
  have hone : (if c.oneOf.isEmpty then [] else
      [⟨["oneOf"], .count .exactlyOne (c.oneOf.map (·, value))⟩]).all Step.supplied = true := by
    split <;> rfl
  unfold plan
  simp only [List.all_append, List.all_map, Step.supplied_within, supplied_planAll, hany, hone,
    Bool.true_and]
  cases c.not <;> cases c.conditional <;> rfl

/-- No plan attempts nothing at all. -/
theorem Node.supplied_plan (n : Node) (epsilon : Binary64) (value : Json) :
    (n.plan epsilon value).all Step.supplied = true := by
  unfold plan
  cases n.body with
  | constant accepts => rfl
  | keywords k =>
      have hkind : (k.planKind epsilon value).all Step.supplied = true := by
        cases value with
        | array items => exact k.arrays.supplied_plan items
        | object members => exact k.objects.supplied_plan members
        | _ => rfl
      have hreference : (k.planReference value).all Step.supplied = true := by
        unfold Keywords.planReference
        cases k.reference <;> rfl
      change (k.plan epsilon value).all Step.supplied = true
      unfold Keywords.plan
      simp only [List.all_append, hreference, hkind, k.combinators.supplied_plan]
      rfl

end Plans

variable {child : Nat → Json → Judgement} {jump : Reference → Json → Judgement}

theorem judgeAny_evident {value : Json} {index : Nat} {schemas : List Nat} (hsome : schemas ≠ [])
    (hchild : ∀ schema ∈ schemas, (child schema value).Evident) {entries : List Finding}
    (hany : judgeAny child value index schemas = .ok (some entries)) : entries ≠ [] := by
  cases schemas with
  | nil => exact absurd rfl hsome
  | cons schema rest =>
      unfold judgeAny at hany
      obtain ⟨f, hf, hrest⟩ := bind_ok hany
      split at hrest
      · cases hrest
      · next hclean =>
          obtain ⟨others, -, hdone⟩ := bind_ok hrest
          have hviolations : f.violations ≠ 0 := by simpa [Findings.clean] using hclean
          have hentries := mt (hchild schema List.mem_cons_self f hf).mp hviolations
          cases others with
          | none => cases hdone
          | some later =>
              cases hdone
              intro hnil
              exact hentries (List.map_eq_nil_iff.mp (List.append_eq_nil_iff.mp hnil).1)

theorem Action.judge_evident {action : Action}
    (hcalls : ∀ call ∈ action.calls, (judgeLink child jump call.1 call.2).Evident)
    (hsupplied : ∀ value, action ≠ .any [] value) : (action.judge child jump).Evident := by
  have hbranch : ∀ token value (branch : Option Nat),
      (∀ schema ∈ branch.toList, (child schema value).Evident) →
        (judgeBranch child token value branch).Evident := by
    intro token value branch hlinks
    cases branch with
    | none => exact Judgement.evident_empty
    | some schema =>
        exact (hlinks schema (List.mem_singleton_self _)).map (fun _ => rfl)
          fun g => List.length_map _
  cases action with
  | test ok =>
      cases ok with
      | true => exact Judgement.evident_empty
      | false => exact Judgement.evident_single
  | follow reference value => exact hcalls _ (List.mem_singleton_self _)
  | descend item schema value =>
      have hschema := hcalls (.schema schema, value) (List.mem_singleton_self _)
      exact hschema.map (Findings.violations_under item) fun g => List.length_map _
  | count quota cases =>
      intro f hf
      obtain ⟨found, -, hdone⟩ := bind_ok hf
      split at hdone
      · exact Judgement.evident_empty f hdone
      · exact Judgement.evident_single f hdone
  | any schemas value =>
      intro f hf
      obtain ⟨found, hany, hdone⟩ := bind_ok hf
      cases found with
      | none => exact Judgement.evident_empty f hdone
      | some entries =>
          cases hdone
          have hsome : schemas ≠ [] := by
            rintro rfl
            exact hsupplied value rfl
          have hentries := judgeAny_evident hsome
            (fun schema hschema => hcalls (.schema schema, value) (List.mem_map_of_mem hschema))
            hany
          exact ⟨fun hnil => absurd hnil hentries, fun h => by cases h⟩
  | choose conditional value =>
      intro f hf
      obtain ⟨g, -, hchosen⟩ := bind_ok hf
      have hlinks : ∀ schema ∈ conditional.links, (child schema value).Evident :=
        fun schema hschema => hcalls (.schema schema, value) (List.mem_map_of_mem hschema)
      split at hchosen
      · refine hbranch _ _ _ (fun schema hschema => hlinks schema ?_) f hchosen
        exact List.mem_cons_of_mem _ (List.mem_append_left _ hschema)
      · refine hbranch _ _ _ (fun schema hschema => hlinks schema ?_) f hchosen
        exact List.mem_cons_of_mem _ (List.mem_append_right _ hschema)

theorem judgeAll_evident {steps : List Step} (hsupplied : steps.all Step.supplied = true)
    (hcalls : ∀ call ∈ callsOf steps, (judgeLink child jump call.1 call.2).Evident) :
    (judgeAll child jump steps).Evident := by
  induction steps with
  | nil => exact Judgement.evident_empty
  | cons step rest ih =>
      rw [List.all_cons, Bool.and_eq_true] at hsupplied
      have hrest := ih hsupplied.2 fun call hcall => hcalls call (List.mem_append_right _ hcall)
      have haction : (step.action.judge child jump).Evident := by
        refine Action.judge_evident (fun call hcall => ?_) fun value heq => ?_
        · exact hcalls call (List.mem_append_left _ hcall)
        · have hgiven := hsupplied.1
          unfold Step.supplied at hgiven
          rw [heq] at hgiven
          cases hgiven
      have hstep : (step.judge child jump).Evident :=
        haction.map (Findings.violations_within step.path) fun g => List.length_map _
      exact hstep.andThen hrest

namespace Registry

variable (r : Registry) (epsilon : Binary64)

theorem judgeBelow_evident {jump : Reference → Json → Judgement}
    (hjump : ∀ reference value, (jump reference value).Evident) (bound index : Nat) (value : Json) :
    (r.judgeBelow epsilon jump bound index value).Evident := by
  induction bound generalizing index value with
  | zero => exact Judgement.evident_empty
  | succ bound ih =>
      unfold judgeBelow
      cases r.node? index with
      | none => exact Judgement.evident_empty
      | some node =>
          refine judgeAll_evident (node.supplied_plan epsilon value) ?_
          rintro ⟨link, part⟩ -
          cases link with
          | schema inner => exact ih inner part
          | reference reference => exact hjump reference part

theorem judgeFollow_evident (jumps : Nat) (reference : Reference) (value : Json) :
    (r.judgeFollow epsilon jumps reference value).Evident := by
  induction jumps generalizing reference value with
  | zero => exact fun f hf => by cases hf
  | succ jumps ih =>
      rw [judgeFollow_succ]
      unfold judgeJump
      split
      · exact (r.judgeBelow_evident epsilon ih r.size _ value).map (fun _ => rfl)
          fun g => List.length_map _
      · exact fun f hf => by cases hf

/-- Whoever rejects a value has a violation to show. -/
theorem judge_evident (jumps index : Nat) (value : Json) :
    (r.judge epsilon jumps index value).Evident :=
  r.judgeBelow_evident epsilon (r.judgeFollow_evident epsilon jumps) r.size index value

end Registry

end SchemaRegistry

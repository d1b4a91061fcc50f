import SchemaRegistry.Proofs.Invariance.Alike

/-!
The plans of alike schemas. For equal values, alike keywords make the same tests and ask alike
schemas about equal values: one lemma for each group of keywords.
-/

namespace SchemaRegistry

variable {R : Nat → Nat → Prop}

theorem PlansAlike.within {steps others : List Step} (hsteps : PlansAlike R steps others)
    (token name : String) :
    PlansAlike R (steps.map (Step.within token)) (others.map (Step.within name)) :=
  hsteps.map fun _ _ _ _ hstep => hstep

theorem Step.alike_test {token name : String} {ok ok' : Bool} (hok : ok = ok') :
    Step.Alike R (.test token ok) (.test name ok') := by
  subst hok
  exact .test ok

theorem holdsFor_eq {a b : Option Binary64}
    (hvalue : a.map Binary64.value = b.map Binary64.value) {test test' : Binary64 → Bool}
    (htest : ∀ x y, x.value = y.value → test x = test' y) : holdsFor a test = holdsFor b test' := by
  cases a with
  | none =>
      cases b with
      | none => rfl
      | some y => cases hvalue
  | some x =>
      cases b with
      | none => cases hvalue
      | some y => exact htest x y (Option.some.inj hvalue)

theorem isMultipleOf_eq {x y d e : Binary64} (hvalue : x.value = y.value)
    (hdivisor : d.value = e.value) (epsilon : Binary64) :
    isMultipleOf x d epsilon = isMultipleOf y e epsilon := by
  unfold isMultipleOf
  rw [hvalue, hdivisor]

theorem NumberRules.Alike.plan {a b : NumberRules} (halike : a.Alike b) (epsilon : Binary64)
    {m n : Number} (hvalue : m.value = n.value)
    (hrounded : m.toBinary64.value = n.toBinary64.value) :
    PlansAlike R (a.plan epsilon m) (b.plan epsilon n) := by
  unfold NumberRules.plan
  rw [hvalue]
  refine .cons (Step.alike_test (holdsFor_eq halike.minimum fun x y hxy => ?_)) ?_
  · rw [hxy]
  refine .cons (Step.alike_test (holdsFor_eq halike.maximum fun x y hxy => ?_)) ?_
  · rw [hxy]
  refine .cons (Step.alike_test (holdsFor_eq halike.exclusiveMinimum fun x y hxy => ?_)) ?_
  · rw [hxy]
  refine .cons (Step.alike_test (holdsFor_eq halike.exclusiveMaximum fun x y hxy => ?_)) ?_
  · rw [hxy]
  exact .single (Step.alike_test (holdsFor_eq halike.multipleOf fun x y hxy =>
    isMultipleOf_eq hrounded hxy epsilon))

theorem StringRules.plan_alike (rules : StringRules) (text : String) :
    PlansAlike R (rules.plan text) (rules.plan text) :=
  .cons (Step.alike_test rfl) <| .cons (Step.alike_test rfl) <| .single (Step.alike_test rfl)

namespace ArrayRules

theorem planEach_alike {i j : Nat} (hschema : R i j) {xs ys : List Json}
    (hitems : List.Forall₂ Json.Agree xs ys) (first second : Nat) :
    PlansAlike R (planEach i first xs) (planEach j second ys) := by
  induction hitems generalizing first second with
  | nil => exact .nil
  | cons hitem hrest ih => exact .cons (.descend hschema hitem) (ih _ _)

theorem planTuple_alike {is js : List Nat} (hschemas : List.Forall₂ R is js) {xs ys : List Json}
    (hitems : List.Forall₂ Json.Agree xs ys) (first second : Nat) :
    PlansAlike R (planTuple first is xs) (planTuple second js ys) := by
  induction hschemas generalizing xs ys first second with
  | nil => exact .nil
  | cons hschema hschemas ih =>
      cases hitems with
      | nil => exact .nil
      | cons hitem hitems => exact .cons (.descend hschema hitem) (ih hitems _ _)

theorem Alike.planItems {a b : ArrayRules} (halike : a.Alike R b) {xs ys : List Json}
    (hitems : List.Forall₂ Json.Agree xs ys) :
    PlansAlike R (a.planItems xs) (b.planItems ys) := by
  unfold ArrayRules.planItems
  generalize a.items = first, b.items = second, hrel : halike.items = hboth at *
  cases hboth with
  | none => exact .nil
  | some hschemas =>
      cases hschemas with
      | each hschema => exact (planEach_alike hschema hitems 0 0).within _ _
      | tuple hschemas =>
          refine ((planTuple_alike hschemas hitems 0 0).within _ _).append ?_
          rw [hschemas.length_eq]
          generalize a.additionalItems = beyond, b.additionalItems = beyond',
            halike.additionalItems = hbeyond
          cases hbeyond with
          | none => exact .nil
          | some hschema =>
              exact (planEach_alike hschema (List.forall₂_drop _ hitems) _ _).within _ _

theorem Alike.planContains {a b : ArrayRules} (halike : a.Alike R b) {xs ys : List Json}
    (hitems : List.Forall₂ Json.Agree xs ys) :
    PlansAlike R (a.planContains xs) (b.planContains ys) := by
  unfold ArrayRules.planContains
  generalize a.contains = first, b.contains = second, halike.contains = hboth
  cases hboth with
  | none => exact .nil
  | some hschema =>
      refine .single (.count .atLeastOne ?_)
      rw [List.forall₂_map_left_iff, List.forall₂_map_right_iff]
      exact hitems.imp fun _ _ hitem => ⟨hschema, hitem⟩

theorem Alike.plan {a b : ArrayRules} (halike : a.Alike R b) {xs ys : List Json}
    (hagree : (Json.array xs).Agree (.array ys)) : PlansAlike R (a.plan xs) (b.plan ys) := by
  have hitems := hagree.items
  refine (halike.planItems hitems).append (.append ?_ (halike.planContains hitems))
  rw [halike.minItems, halike.maxItems, halike.uniqueItems, hitems.length_eq, hagree.distinct_eq]
  exact .cons (Step.alike_test rfl) <| .cons (Step.alike_test rfl) <|
    .single (Step.alike_test rfl)

end ArrayRules

namespace ObjectRules

theorem Alike.matching {a b : ObjectRules} (halike : a.Alike R b) (key : String) :
    Matched (fun e f => e.1 = f.1 ∧ R e.2 f.2) (a.matching key) (b.matching key) :=
  halike.patternProperties.filter fun e f hboth => by rw [hboth.1]

theorem Alike.planMember {a b : ObjectRules} (halike : a.Alike R b) (key : String) {v w : Json}
    (hagree : v.Agree w) : PlansAlike R (a.planMember key v) (b.planMember key w) := by
  have hmatching := halike.matching key
  unfold ObjectRules.planMember
  rw [hmatching.isEmpty_eq]
  generalize a.properties.lookup key = first, b.properties.lookup key = second,
    halike.properties key = hnamed
  refine .append ?_ (.append ?_ ?_)
  · cases hnamed with
    | none => exact .nil
    | some hschema => exact .single (.descend hschema hagree)
  · exact hmatching.map fun e _ f _ hboth => .descend hboth.2 hagree
  · have hnone : first.isNone = second.isNone := by cases hnamed <;> rfl
    rw [hnone]
    split
    · generalize a.additionalProperties = beyond, b.additionalProperties = beyond',
        halike.additionalProperties = hbeyond
      cases hbeyond with
      | none => exact .nil
      | some hschema => exact .single (.descend hschema hagree)
    · exact .nil

section Members

variable {ms ns : List (String × Json)} (hagree : (Json.object ms).Agree (.object ns))

include hagree

theorem planMissing_alike (names : List String) (index : Nat) :
    PlansAlike R (planMissing ms index names) (planMissing ns index names) := by
  induction names generalizing index with
  | nil => exact .nil
  | cons name rest ih => exact .cons (Step.alike_test (hagree.isSome_member? name)) (ih _)

theorem planDependency_alike {e f : String × Dependency} (hname : e.1 = f.1)
    (hrequired : e.2.Alike R f.2) : PlansAlike R (planDependency ms e) (planDependency ns f) := by
  obtain ⟨name, required⟩ := e
  obtain ⟨name', required'⟩ := f
  obtain rfl : name = name' := hname
  unfold planDependency
  rw [hagree.isSome_member? name]
  split
  · cases hrequired with
    | keys names => exact ((planMissing_alike hagree names 0).within _ _).within _ _
    | schema hschema => exact .single (.descend hschema hagree)
  · exact .nil

theorem Alike.planNames {a b : ObjectRules} (halike : a.Alike R b) :
    PlansAlike R (a.planNames ms) (b.planNames ns) := by
  unfold ObjectRules.planNames
  generalize a.propertyNames = first, b.propertyNames = second, halike.propertyNames = hboth
  cases hboth with
  | none => exact .nil
  | some hschema =>
      refine hagree.members.map fun m _ n _ hmember => ?_
      rw [hmember.1]
      exact .descend hschema (Json.Agree.refl (Json.Proper.string n.1))

theorem Alike.plan {a b : ObjectRules} (halike : a.Alike R b) :
    PlansAlike R (a.plan ms) (b.plan ns) := by
  unfold ObjectRules.plan
  rw [halike.required, halike.minProperties, halike.maxProperties, hagree.length_eq]
  refine .append ?_ (.append ?_ (.append ?_ (.append ?_ ?_)))
  · refine hagree.members.flatMap fun m _ n _ hmember => ?_
    rw [hmember.1]
    exact halike.planMember n.1 hmember.2
  · exact (planMissing_alike hagree b.required 0).within _ _
  · exact .cons (Step.alike_test rfl) (.single (Step.alike_test rfl))
  · exact halike.dependencies.flatMap fun e _ f _ hboth =>
      planDependency_alike hagree hboth.1 hboth.2
  · exact halike.planNames hagree

end Members

end ObjectRules

namespace Combinators

theorem planAll_alike {is js : List Nat} (hschemas : List.Forall₂ R is js) {v w : Json}
    (hagree : v.Agree w) (index : Nat) :
    PlansAlike R (planAll v index is) (planAll w index js) := by
  induction hschemas generalizing index with
  | nil => exact .nil
  | cons hschema _ ih => exact .cons (.descend hschema hagree) (ih _)

/-- A step for all schemas of a list is made if there are any. -/
theorem alike_unless_empty {is js : List Nat} (hschemas : List.Forall₂ R is js) {s t : Step}
    (hstep : s.Alike R t) :
    PlansAlike R (if is.isEmpty then [] else [s]) (if js.isEmpty then [] else [t]) := by
  cases hschemas with
  | nil => exact .nil
  | cons _ _ => exact .single hstep

theorem Alike.plan {a b : Combinators} (halike : a.Alike R b) {v w : Json} (hagree : v.Agree w) :
    PlansAlike R (a.plan v) (b.plan w) := by
  unfold Combinators.plan
  refine .append ?_ (.append ?_ (.append ?_ (.append ?_ ?_)))
  · exact (planAll_alike halike.allOf hagree 0).within _ _
  · exact alike_unless_empty halike.anyOf (.any halike.anyOf hagree)
  · refine alike_unless_empty halike.oneOf (.count .exactlyOne ?_)
    rw [List.forall₂_map_left_iff, List.forall₂_map_right_iff]
    exact halike.oneOf.imp fun _ _ hschema => ⟨hschema, hagree⟩
  · generalize a.not = first, b.not = second, halike.not = hboth
    cases hboth with
    | none => exact .nil
    | some hschema => exact .single (.count .never (.cons ⟨hschema, hagree⟩ .nil))
  · generalize a.conditional = first, b.conditional = second, halike.conditional = hboth
    cases hboth with
    | none => exact .nil
    | some hconditional => exact .single (.choose hconditional hagree)

end Combinators

namespace Keywords

variable {a b : Keywords} (halike : a.Alike R b) {v w : Json} (hagree : v.Agree w)

include halike hagree

theorem Alike.planKind (epsilon : Binary64) :
    PlansAlike R (a.planKind epsilon v) (b.planKind epsilon w) := by
  cases hagree.cases with
  | null => exact .nil
  | bool x => exact .nil
  | number hnumber => exact halike.numbers.plan epsilon hnumber.number.1 hnumber.number.2
  | string text =>
      change PlansAlike R (a.strings.plan text) (b.strings.plan text)
      rw [halike.strings]
      exact b.strings.plan_alike text
  | array hitems => exact halike.arrays.plan hitems
  | object hmembers => exact halike.objects.plan hmembers

theorem Alike.planValues : PlansAlike R (a.planValues v) (b.planValues w) := by
  refine .cons (Step.alike_test ?_) (.single (Step.alike_test ?_))
  · exact halike.enum hagree
  · exact halike.const hagree

theorem Alike.plan (epsilon : Binary64) : PlansAlike R (a.plan epsilon v) (b.plan epsilon w) := by
  unfold Keywords.plan
  refine .append ?_ (.append ?_ (.append ?_ (.append ?_ ?_)))
  · unfold Keywords.planReference
    rw [halike.reference]
    cases b.reference with
    | none => exact .nil
    | some reference => exact .single (.follow reference hagree)
  · refine .single (Step.alike_test ?_)
    rw [halike.types]
    cases b.types with
    | none => rfl
    | some types => exact hagree.accepts_eq types
  · exact halike.planKind hagree epsilon
  · exact halike.planValues hagree
  · exact halike.combinators.plan hagree

end Keywords

/-- Alike schemas have alike plans for equal values. -/
theorem Node.Alike.plan {n m : Node} (halike : n.Alike R m) {v w : Json} (hagree : v.Agree w)
    (epsilon : Binary64) : PlansAlike R (n.plan epsilon v) (m.plan epsilon w) := by
  unfold Node.Alike at halike
  unfold Node.plan
  generalize n.body = first, m.body = second at halike
  cases halike with
  | constant accepts => exact .single (.test accepts)
  | keywords hkeywords => exact hkeywords.plan hagree epsilon

end SchemaRegistry

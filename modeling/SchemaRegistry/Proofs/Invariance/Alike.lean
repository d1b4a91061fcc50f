import Mathlib.Data.List.Forall2
import SchemaRegistry.Proofs.Graph.Links
import SchemaRegistry.Proofs.Json.Distinct
import SchemaRegistry.Proofs.Json.Proper

/-!
Schemas that mean the same. Two schemas are alike, relative to a relation between their sub-schemas,
if their keywords hold the same up to the order of members and the way in which numbers are written.
Two plans are alike if their steps are, in whatever order and however often a step is made.
-/

namespace SchemaRegistry

/-- Proper values that are equal as data. -/
structure Json.Agree (v w : Json) : Prop where
  left : v.Proper
  right : w.Proper
  same : v.same w = true

/-- Equal values are of one kind. -/
inductive Json.AgreeCases : Json → Json → Prop
  | null : AgreeCases .null .null
  | bool (b : Bool) : AgreeCases (.bool b) (.bool b)
  | number {m n : Number} (hagree : (number m).Agree (number n)) : AgreeCases (number m) (number n)
  | string (text : String) : AgreeCases (.string text) (.string text)
  | array {xs ys : List Json} (hagree : (array xs).Agree (array ys)) :
      AgreeCases (array xs) (array ys)
  | object {ms ns : List (String × Json)} (hagree : (object ms).Agree (object ns)) :
      AgreeCases (object ms) (object ns)

/-- Each element of the one list is related to some element of the other. -/
def Matched {α β : Type} (S : α → β → Prop) (xs : List α) (ys : List β) : Prop :=
  (∀ x ∈ xs, ∃ y ∈ ys, S x y) ∧ ∀ y ∈ ys, ∃ x ∈ xs, S x y

namespace Matched

variable {α β γ δ : Type} {S : α → β → Prop} {T : γ → δ → Prop}

theorem nil : Matched S [] [] :=
  ⟨fun _ hx => absurd hx List.not_mem_nil, fun _ hy => absurd hy List.not_mem_nil⟩

theorem append {xs xs' : List α} {ys ys' : List β} (hfirst : Matched S xs ys)
    (hsecond : Matched S xs' ys') : Matched S (xs ++ xs') (ys ++ ys') := by
  constructor
  · intro x hx
    rcases List.mem_append.mp hx with hmem | hmem
    · obtain ⟨y, hy, hxy⟩ := hfirst.1 x hmem
      exact ⟨y, List.mem_append_left _ hy, hxy⟩
    · obtain ⟨y, hy, hxy⟩ := hsecond.1 x hmem
      exact ⟨y, List.mem_append_right _ hy, hxy⟩
  · intro y hy
    rcases List.mem_append.mp hy with hmem | hmem
    · obtain ⟨x, hx, hxy⟩ := hfirst.2 y hmem
      exact ⟨x, List.mem_append_left _ hx, hxy⟩
    · obtain ⟨x, hx, hxy⟩ := hsecond.2 y hmem
      exact ⟨x, List.mem_append_right _ hx, hxy⟩

theorem single {x : α} {y : β} (hxy : S x y) : Matched S [x] [y] :=
  ⟨fun _ hx => ⟨y, List.mem_singleton_self y, List.mem_singleton.mp hx ▸ hxy⟩,
    fun _ hy => ⟨x, List.mem_singleton_self x, List.mem_singleton.mp hy ▸ hxy⟩⟩

theorem cons {x : α} {y : β} {xs : List α} {ys : List β} (hxy : S x y) (hrest : Matched S xs ys) :
    Matched S (x :: xs) (y :: ys) := (single hxy).append hrest

theorem of_forall₂ {xs : List α} {ys : List β} (hboth : List.Forall₂ S xs ys) :
    Matched S xs ys := by
  induction hboth with
  | nil => exact nil
  | cons hfirst _ ih => exact cons hfirst ih

theorem flatMap {xs : List α} {ys : List β} {f : α → List γ} {g : β → List δ}
    (hmatched : Matched S xs ys) (hitem : ∀ x ∈ xs, ∀ y ∈ ys, S x y → Matched T (f x) (g y)) :
    Matched T (xs.flatMap f) (ys.flatMap g) := by
  constructor
  · intro c hc
    obtain ⟨x, hx, hmem⟩ := List.mem_flatMap.mp hc
    obtain ⟨y, hy, hxy⟩ := hmatched.1 x hx
    obtain ⟨d, hd, hcd⟩ := (hitem x hx y hy hxy).1 c hmem
    exact ⟨d, List.mem_flatMap.mpr ⟨y, hy, hd⟩, hcd⟩
  · intro d hd
    obtain ⟨y, hy, hmem⟩ := List.mem_flatMap.mp hd
    obtain ⟨x, hx, hxy⟩ := hmatched.2 y hy
    obtain ⟨c, hc, hcd⟩ := (hitem x hx y hy hxy).2 d hmem
    exact ⟨c, List.mem_flatMap.mpr ⟨x, hx, hc⟩, hcd⟩

theorem map {xs : List α} {ys : List β} {f : α → γ} {g : β → δ} (hmatched : Matched S xs ys)
    (hitem : ∀ x ∈ xs, ∀ y ∈ ys, S x y → T (f x) (g y)) : Matched T (xs.map f) (ys.map g) := by
  rw [List.map_eq_flatMap, List.map_eq_flatMap]
  exact hmatched.flatMap fun x hx y hy hxy => single (hitem x hx y hy hxy)

theorem filter {p : α → Bool} {q : β → Bool} {xs : List α} {ys : List β}
    (hmatched : Matched S xs ys) (htest : ∀ x y, S x y → p x = q y) :
    Matched S (xs.filter p) (ys.filter q) := by
  constructor
  · intro x hx
    obtain ⟨hmem, hp⟩ := List.mem_filter.mp hx
    obtain ⟨y, hy, hxy⟩ := hmatched.1 x hmem
    exact ⟨y, List.mem_filter.mpr ⟨hy, htest x y hxy ▸ hp⟩, hxy⟩
  · intro y hy
    obtain ⟨hmem, hq⟩ := List.mem_filter.mp hy
    obtain ⟨x, hx, hxy⟩ := hmatched.2 y hmem
    exact ⟨x, List.mem_filter.mpr ⟨hx, (htest x y hxy).trans hq⟩, hxy⟩

theorem isEmpty_eq {xs : List α} {ys : List β} (hmatched : Matched S xs ys) :
    xs.isEmpty = ys.isEmpty := by
  cases xs with
  | nil =>
      cases ys with
      | nil => rfl
      | cons y ys =>
          obtain ⟨x, hx, -⟩ := hmatched.2 y List.mem_cons_self
          exact absurd hx List.not_mem_nil
  | cons x xs =>
      cases ys with
      | nil =>
          obtain ⟨y, hy, -⟩ := hmatched.1 x List.mem_cons_self
          exact absurd hy List.not_mem_nil
      | cons y ys => rfl

end Matched

section Options

variable {α β : Type} {S : α → β → Prop} {a : Option α} {b : Option β}

theorem rel_of_isSome_eq (hsome : a.isSome = b.isSome)
    (hrel : ∀ x y, a = some x → b = some y → S x y) : Option.Rel S a b := by
  cases a with
  | none =>
      cases b with
      | none => exact .none
      | some y => cases hsome
  | some x =>
      cases b with
      | none => cases hsome
      | some y => exact .some (hrel x y rfl rfl)

theorem isSome_eq_of_rel (hrel : Option.Rel S a b) : a.isSome = b.isSome := by
  cases hrel <;> rfl

theorem exists_of_rel_some {x : α} (hrel : Option.Rel S (some x) b) :
    ∃ y, b = some y ∧ S x y := by
  cases hrel with
  | some hboth => exact ⟨_, rfl, hboth⟩

end Options

section Alike

/-- Conditions that choose between alike schemas. -/
structure Conditional.Alike (R : Nat → Nat → Prop) (c d : Conditional) : Prop where
  condition : R c.condition d.condition
  consequent : Option.Rel R c.consequent d.consequent
  alternative : Option.Rel R c.alternative d.alternative

/-- Alike schemas for the items of an array. -/
inductive Items.Alike (R : Nat → Nat → Prop) : Items → Items → Prop
  | each {i j : Nat} (hschema : R i j) : Alike R (.each i) (.each j)
  | tuple {is js : List Nat} (hschemas : List.Forall₂ R is js) : Alike R (.tuple is) (.tuple js)

/-- Requirements of the same names, or of alike schemas. -/
inductive Dependency.Alike (R : Nat → Nat → Prop) : Dependency → Dependency → Prop
  | keys (names : List String) : Alike R (.keys names) (.keys names)
  | schema {i j : Nat} (hschema : R i j) : Alike R (.schema i) (.schema j)

/-- The same bounds, which may differ in the sign of a zero. -/
structure NumberRules.Alike (a b : NumberRules) : Prop where
  minimum : a.minimum.map Binary64.value = b.minimum.map Binary64.value
  maximum : a.maximum.map Binary64.value = b.maximum.map Binary64.value
  exclusiveMinimum :
    a.exclusiveMinimum.map Binary64.value = b.exclusiveMinimum.map Binary64.value
  exclusiveMaximum :
    a.exclusiveMaximum.map Binary64.value = b.exclusiveMaximum.map Binary64.value
  multipleOf : a.multipleOf.map Binary64.value = b.multipleOf.map Binary64.value

structure ArrayRules.Alike (R : Nat → Nat → Prop) (a b : ArrayRules) : Prop where
  items : Option.Rel (Items.Alike R) a.items b.items
  additionalItems : Option.Rel R a.additionalItems b.additionalItems
  minItems : a.minItems = b.minItems
  maxItems : a.maxItems = b.maxItems
  uniqueItems : a.uniqueItems = b.uniqueItems
  contains : Option.Rel R a.contains b.contains

/-- Alike schemas for each name and for each pattern, and the same requirements, in any order. -/
structure ObjectRules.Alike (R : Nat → Nat → Prop) (a b : ObjectRules) : Prop where
  properties : ∀ key, Option.Rel R (a.properties.lookup key) (b.properties.lookup key)
  patternProperties :
    Matched (fun e f => e.1 = f.1 ∧ R e.2 f.2) a.patternProperties b.patternProperties
  additionalProperties : Option.Rel R a.additionalProperties b.additionalProperties
  required : a.required = b.required
  minProperties : a.minProperties = b.minProperties
  maxProperties : a.maxProperties = b.maxProperties
  dependencies :
    Matched (fun e f => e.1 = f.1 ∧ e.2.Alike R f.2) a.dependencies b.dependencies
  propertyNames : Option.Rel R a.propertyNames b.propertyNames

structure Combinators.Alike (R : Nat → Nat → Prop) (a b : Combinators) : Prop where
  allOf : List.Forall₂ R a.allOf b.allOf
  anyOf : List.Forall₂ R a.anyOf b.anyOf
  oneOf : List.Forall₂ R a.oneOf b.oneOf
  not : Option.Rel R a.not b.not
  conditional : Option.Rel (Conditional.Alike R) a.conditional b.conditional

/-- Keywords that hold the same, apart from how it is written. -/
structure Keywords.Alike (R : Nat → Nat → Prop) (a b : Keywords) : Prop where
  reference : a.reference = b.reference
  types : a.types = b.types
  numbers : a.numbers.Alike b.numbers
  strings : a.strings = b.strings
  arrays : a.arrays.Alike R b.arrays
  objects : a.objects.Alike R b.objects
  enum : ∀ {v w : Json}, v.Agree w → holdsFor a.enum (fun options => options.any (·.same v)) =
    holdsFor b.enum (fun options => options.any (·.same w))
  const : ∀ {v w : Json}, v.Agree w →
    holdsFor a.const (·.same v) = holdsFor b.const (·.same w)
  combinators : a.combinators.Alike R b.combinators

inductive Body.Alike (R : Nat → Nat → Prop) : Body → Body → Prop
  | constant (accepts : Bool) : Alike R (.constant accepts) (.constant accepts)
  | keywords {a b : Keywords} (hkeywords : a.Alike R b) : Alike R (.keywords a) (.keywords b)

/-- Compiled schemas with the same content, wherever they are. -/
def Node.Alike (R : Nat → Nat → Prop) (n m : Node) : Prop := n.body.Alike R m.body

/-- Links to alike schemas, or references to one target. -/
inductive Link.Alike (R : Nat → Nat → Prop) : Link → Link → Prop
  | schema {i j : Nat} (hschema : R i j) : Alike R (.schema i) (.schema j)
  | reference (reference : Reference) : Alike R (.reference reference) (.reference reference)

/-- Actions that ask alike schemas about equal values, or tests with the same result. -/
inductive Action.Alike (R : Nat → Nat → Prop) : Action → Action → Prop
  | test (ok : Bool) : Alike R (.test ok) (.test ok)
  | follow (reference : Reference) {v w : Json} (hvalue : v.Agree w) :
      Alike R (.follow reference v) (.follow reference w)
  | descend {path way : List String} {i j : Nat} {v w : Json} (hschema : R i j)
      (hvalue : v.Agree w) : Alike R (.descend path i v) (.descend way j w)
  | count (quota : Quota) {cs ds : List (Nat × Json)}
      (hcases : List.Forall₂ (fun c d => R c.1 d.1 ∧ c.2.Agree d.2) cs ds) :
      Alike R (.count quota cs) (.count quota ds)
  | any {is js : List Nat} {v w : Json} (hschemas : List.Forall₂ R is js) (hvalue : v.Agree w) :
      Alike R (.any is v) (.any js w)
  | choose {c d : Conditional} {v w : Json} (hconditional : c.Alike R d) (hvalue : v.Agree w) :
      Alike R (.choose c v) (.choose d w)

/-- Steps with alike actions, at whatever keywords. -/
def Step.Alike (R : Nat → Nat → Prop) (s t : Step) : Prop := s.action.Alike R t.action

/-- Plans with alike steps, in whatever order. -/
abbrev PlansAlike (R : Nat → Nat → Prop) : List Step → List Step → Prop := Matched (Step.Alike R)

end Alike

namespace Json.Agree

theorem refl {v : Json} (hproper : v.Proper) : v.Agree v :=
  ⟨hproper, hproper, same_refl hproper.keys⟩

theorem symm {v w : Json} (hagree : v.Agree w) : w.Agree v :=
  ⟨hagree.right, hagree.left, same_symm hagree.left.keys hagree.right.keys hagree.same⟩

theorem number {m n : Number} (hagree : (number m).Agree (number n)) :
    m.value = n.value ∧ m.toBinary64.value = n.toBinary64.value := by
  have hsame := hagree.same
  rw [Json.same, decide_eq_true_eq] at hsame
  exact ⟨hsame, Number.toBinary64_value_eq hagree.left.number hagree.right.number hsame⟩

theorem items {xs ys : List Json} (hagree : (array xs).Agree (array ys)) :
    List.Forall₂ Agree xs ys := by
  have hsame := hagree.same
  rw [Json.same, sameItems_iff] at hsame
  refine List.forall₂_iff_get.mpr ⟨hsame.1, fun index hx hy => ?_⟩
  exact ⟨hagree.left.of_item (List.get_mem xs _), hagree.right.of_item (List.get_mem ys _),
    hsame.2 index _ _ (List.getElem?_eq_getElem hx) (List.getElem?_eq_getElem hy)⟩

theorem cases {v w : Json} (hagree : v.Agree w) : AgreeCases v w := by
  have hsame := hagree.same
  cases v <;> cases w <;> try cases hsame
  case null.null => exact .null
  case bool.bool a b =>
    rw [Json.same, beq_iff_eq] at hsame
    exact hsame ▸ .bool a
  case number.number m n => exact .number hagree
  case string.string s t =>
    rw [Json.same, decide_eq_true_eq] at hsame
    exact hsame ▸ .string s
  case array.array xs ys => exact .array hagree
  case object.object ms ns => exact .object hagree

/-- Equality does not tell equal values apart, on either side. -/
theorem same_eq {v w option other : Json} (hagree : v.Agree w) (hoption : option.Agree other) :
    option.same v = other.same w := by
  rw [Bool.eq_iff_iff]
  exact ⟨fun hfirst => same_trans hoption.symm.same (same_trans hfirst hagree.same),
    fun hsecond => same_trans hoption.same (same_trans hsecond hagree.symm.same)⟩

/-- Whatever the one value is equal to, the other one is. -/
theorem same_right {v w : Json} (hagree : v.Agree w) (option : Json) :
    option.same v = option.same w := by
  rw [Bool.eq_iff_iff]
  exact ⟨fun hleft => same_trans hleft hagree.same,
    fun hright => same_trans hright hagree.symm.same⟩

theorem accepts_eq {v w : Json} (hagree : v.Agree w) (types : TypeSet) :
    types.accepts v = types.accepts w := by
  cases hagree.cases with
  | @number m n hnumber =>
      change (_ || _ && m.isInteger) = (_ || _ && n.isInteger)
      rw [m.isInteger_eq, n.isInteger_eq, hnumber.number.1]
  | _ => rfl

theorem distinct_eq {xs ys : List Json} (hagree : (array xs).Agree (array ys)) :
    distinct xs = distinct ys := by
  have hsame := hagree.same
  rw [Json.same] at hsame
  exact distinct_eq_of_same (fun x hx => hagree.left.of_item hx)
    (fun y hy => hagree.right.of_item hy) hsame

variable {ms ns : List (String × Json)} (hagree : (object ms).Agree (object ns))

include hagree

theorem length_eq : ms.length = ns.length := ((same_object_iff ms ns).mp hagree.same).1

theorem members : Matched (fun m n => m.1 = n.1 ∧ m.2.Agree n.2) ms ns := by
  have hmembers := ((same_object_iff ms ns).mp hagree.same).2
  have hforth : ∀ m ∈ ms, ∃ n ∈ ns, m.1 = n.1 ∧ m.2.Agree n.2 := by
    rintro ⟨key, value⟩ hvalue
    obtain ⟨other, hother, hsame⟩ := hmembers key value hvalue
    have hmem := mem_of_member? hother
    exact ⟨_, hmem, rfl, hagree.left.of_member hvalue, hagree.right.of_member hmem, hsame⟩
  refine ⟨hforth, ?_⟩
  rintro ⟨key, other⟩ hother
  have hkey : key ∈ ms.map Prod.fst :=
    (perm_keys_of_same hagree.left.nodup hagree.same).mem_iff.mpr (List.mem_map_of_mem hother)
  obtain ⟨⟨name, value⟩, hvalue, rfl⟩ := List.mem_map.mp hkey
  obtain ⟨⟨key, found⟩, hfound, rfl, heq⟩ := hforth _ hvalue
  have hmember := member?_of_mem hagree.right.nodup hother
  obtain rfl :=
    Option.some.inj ((member?_of_mem hagree.right.nodup hfound).symm.trans hmember)
  exact ⟨_, hvalue, rfl, heq⟩

/-- A key has equal values in both objects, or in none. -/
theorem rel_member? (name : String) : Option.Rel Agree (member? name ms) (member? name ns) := by
  cases hvalue : member? name ms with
  | none =>
      cases hother : member? name ns with
      | none => exact .none
      | some other =>
          obtain ⟨⟨key, value⟩, hmem, rfl, -⟩ := hagree.members.2 _ (mem_of_member? hother)
          cases hvalue.symm.trans (member?_of_mem hagree.left.nodup hmem)
  | some value =>
      obtain ⟨⟨key, other⟩, hmem, rfl, hequal⟩ := hagree.members.1 _ (mem_of_member? hvalue)
      rw [member?_of_mem hagree.right.nodup hmem]
      exact .some hequal

theorem isSome_member? (name : String) :
    (member? name ms).isSome = (member? name ns).isSome :=
  isSome_eq_of_rel (hagree.rel_member? name)

end Json.Agree

end SchemaRegistry

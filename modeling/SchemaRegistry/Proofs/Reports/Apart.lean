import Mathlib.Data.List.Pairwise
import SchemaRegistry.Proofs.Reports.Plans

/-!
The places of a plan. What a step finds lies at one of its places or beyond it, a place being a way
from the schema together with a way from the value. Any two steps of a plan without a reference have
places apart: their keywords differ, or what they name at the keyword, or the parts of the value
that they look at. So nothing is found by two steps.
-/

namespace SchemaRegistry

/-- Neither of two ways begins with the other one. -/
def Diverge (first second : List String) : Prop :=
  ∀ rest other, first ++ rest ≠ second ++ other

theorem diverge_cons_iff {token name : String} {first second : List String} :
    Diverge (token :: first) (name :: second) ↔ token ≠ name ∨ Diverge first second := by
  constructor
  · intro hdiverge
    by_cases hsame : token = name
    · refine Or.inr fun rest other heq => hdiverge rest other ?_
      rw [hsame, List.cons_append, heq, List.cons_append]
    · exact Or.inl hsame
  · rintro (hdiffer | hdiverge) rest other heq
    · exact hdiffer (List.cons.inj heq).1
    · exact hdiverge rest other (List.cons.inj heq).2

/-- A place that a plan reports on, by the ways to it from the schema and from the value. -/
structure Place where
  path : List String
  item : List String

namespace Place

def within (token : String) (place : Place) : Place := { place with path := token :: place.path }

/-- Nothing is at both of two places or beyond them. -/
def Apart (a b : Place) : Prop := Diverge a.path b.path ∨ Diverge a.item b.item

end Place

namespace Step

/-- The places at which a step fails, or beyond which it hands on what is found. -/
def places (step : Step) : List Place :=
  (if step.action.mayFail then [⟨step.path, []⟩] else []) ++
    step.action.reports.map fun call => ⟨step.path ++ call.path, call.item⟩

theorem places_within (token : String) (step : Step) :
    (step.within token).places = step.places.map (Place.within token) := by
  unfold places
  rw [List.map_append, apply_ite (List.map (Place.within token)), List.map_map]
  rfl

theorem path_of_mem_places {step : Step} {place : Place} (hplace : place ∈ step.places) :
    ∃ rest, place.path = step.path ++ rest := by
  rcases List.mem_append.mp hplace with hown | hreport
  · split at hown
    · rw [List.mem_singleton.mp hown]
      exact ⟨[], (List.append_nil _).symm⟩
    · cases hown
  · obtain ⟨call, -, rfl⟩ := List.mem_map.mp hreport
    exact ⟨call.path, rfl⟩

@[simp] theorem places_descend (path item : List String) (schema : Nat) (value : Json) :
    places ⟨path, .descend item schema value⟩ = [⟨path, item⟩] := by
  simp [places, Action.mayFail, Action.reports]

def Apart (s t : Step) : Prop := ∀ a ∈ s.places, ∀ b ∈ t.places, a.Apart b

theorem apart_within {s t : Step} (token : String) (hapart : s.Apart t) :
    (s.within token).Apart (t.within token) := by
  intro a ha b hb
  rw [places_within] at ha hb
  obtain ⟨first, hfirst, rfl⟩ := List.mem_map.mp ha
  obtain ⟨second, hsecond, rfl⟩ := List.mem_map.mp hb
  exact (hapart first hfirst second hsecond).imp_left fun hpaths =>
    diverge_cons_iff.mpr (Or.inr hpaths)

theorem apart_descend {path way item part : List String} {schema inner : Nat} {value held : Json}
    (hapart : Place.Apart ⟨path, item⟩ ⟨way, part⟩) :
    Apart ⟨path, .descend item schema value⟩ ⟨way, .descend part inner held⟩ := by
  simpa [Apart] using hapart

/-- Steps whose paths diverge are apart. -/
theorem apart_of_path {s t : Step} (hpath : Diverge s.path t.path) : s.Apart t := by
  intro a ha b hb
  obtain ⟨rest, ha⟩ := path_of_mem_places ha
  obtain ⟨other, hb⟩ := path_of_mem_places hb
  refine Or.inl fun more others => ?_
  rw [ha, hb, List.append_assoc, List.append_assoc]
  exact hpath _ _

end Step

/-- Steps that are apart from each other and report at the given keywords only. -/
structure Spread (keywords : List String) (steps : List Step) : Prop where
  apart : steps.Pairwise Step.Apart
  reports : ∀ step ∈ steps, ∀ place ∈ step.places, ∃ keyword rest,
    keyword ∈ keywords ∧ place.path = keyword :: rest

namespace Spread

variable {keywords others : List String} {steps more : List Step}

theorem nil (keywords : List String) : Spread keywords [] :=
  ⟨List.Pairwise.nil, fun _ hstep => absurd hstep List.not_mem_nil⟩

theorem append (hsteps : Spread keywords steps) (hmore : Spread others more)
    (hdisjoint : ∀ keyword ∈ keywords, keyword ∉ others) :
    Spread (keywords ++ others) (steps ++ more) := by
  refine ⟨List.pairwise_append.mpr ⟨hsteps.apart, hmore.apart, ?_⟩, ?_⟩
  · intro s hs t ht a ha b hb
    obtain ⟨keyword, rest, hkeyword, hpath⟩ := hsteps.reports s hs a ha
    obtain ⟨other, last, hother, hway⟩ := hmore.reports t ht b hb
    refine Or.inl ?_
    rw [hpath, hway, diverge_cons_iff]
    refine Or.inl ?_
    rintro rfl
    exact hdisjoint keyword hkeyword hother
  · intro step hstep place hplace
    rcases List.mem_append.mp hstep with hstep | hstep
    · obtain ⟨keyword, rest, hkeyword, hpath⟩ := hsteps.reports step hstep place hplace
      exact ⟨keyword, rest, List.mem_append_left _ hkeyword, hpath⟩
    · obtain ⟨keyword, rest, hkeyword, hpath⟩ := hmore.reports step hstep place hplace
      exact ⟨keyword, rest, List.mem_append_right _ hkeyword, hpath⟩

theorem mono (hsteps : Spread keywords steps) (hsubset : keywords ⊆ others) :
    Spread others steps := by
  refine ⟨hsteps.apart, fun step hstep place hplace => ?_⟩
  obtain ⟨keyword, rest, hkeyword, hpath⟩ := hsteps.reports step hstep place hplace
  exact ⟨keyword, rest, hsubset hkeyword, hpath⟩

/-- A single step at a keyword. -/
theorem single (token : String) (rest : List String) (action : Action) :
    Spread [token] [⟨token :: rest, action⟩] := by
  refine ⟨List.pairwise_singleton _ _, fun step hstep place hplace => ?_⟩
  obtain rfl := List.mem_singleton.mp hstep
  obtain ⟨last, hpath⟩ := Step.path_of_mem_places hplace
  exact ⟨token, rest ++ last, List.mem_singleton_self _, hpath⟩

theorem test_cons {token : String} (ok : Bool) (hsteps : Spread keywords steps)
    (hnew : token ∉ keywords) : Spread (token :: keywords) (.test token ok :: steps) :=
  (single token [] (.test ok)).append hsteps (by simpa using hnew)

/-- Steps that are apart, seen from above a keyword. -/
theorem within (token : String) (hapart : steps.Pairwise Step.Apart) :
    Spread [token] (steps.map (Step.within token)) := by
  refine ⟨List.pairwise_map.mpr (hapart.imp (Step.apart_within token)), ?_⟩
  intro step hstep place hplace
  obtain ⟨inner, -, rfl⟩ := List.mem_map.mp hstep
  rw [Step.places_within] at hplace
  obtain ⟨below, -, rfl⟩ := List.mem_map.mp hplace
  exact ⟨token, below.path, List.mem_singleton_self _, rfl⟩

/-- The steps of several things with a name of its own for each of them. -/
theorem flatMap {α : Type} {items : List α} {name : α → String} {plan : α → List Step}
    (hplan : ∀ item ∈ items, Spread [name item] (plan item)) (hnodup : (items.map name).Nodup) :
    Spread (items.map name) (items.flatMap plan) := by
  induction items with
  | nil => exact nil _
  | cons item rest ih =>
      rw [List.map_cons, List.nodup_cons] at hnodup
      have hrest := ih (fun other hother => hplan other (List.mem_cons_of_mem _ hother)) hnodup.2
      refine (hplan item List.mem_cons_self).append hrest ?_
      simpa using hnodup.1

end Spread

/-- Steps that are made of the elements of a list with their indices are apart if those of different
indices are. -/
theorem pairwise_zipIdx {α : Type} {step : α × Nat → Step} {index : Nat} {items : List α}
    (hstep : ∀ a b, a.2 ≠ b.2 → (step a).Apart (step b)) :
    ((items.zipIdx index).map step).Pairwise Step.Apart := by
  have hindices : ((items.zipIdx index).map Prod.snd).Nodup := by
    rw [List.zipIdx_map_snd]
    exact List.nodup_range'
  exact List.pairwise_map.mpr ((List.pairwise_map.mp hindices).imp (hstep _ _))

theorem diverge_of_index {m n : Nat} (hdiffer : m ≠ n) (first second : List String) :
    Diverge (toString m :: first) (toString n :: second) := by
  rw [diverge_cons_iff]
  exact Or.inl fun htokens => hdiffer (Json.repr_index_inj.mp htokens)

namespace ArrayRules

theorem pairwise_planEach (schema index : Nat) (items : List Json) :
    (planEach schema index items).Pairwise Step.Apart := by
  rw [planEach_eq_map]
  exact pairwise_zipIdx fun a b hdiffer =>
    Step.apart_descend (Or.inr (diverge_of_index hdiffer [] []))

theorem pairwise_planTuple (index : Nat) (schemas : List Nat) (items : List Json) :
    (planTuple index schemas items).Pairwise Step.Apart := by
  rw [planTuple_eq_map]
  exact pairwise_zipIdx fun a b hdiffer => Step.apart_of_path (diverge_of_index hdiffer [] [])

theorem spread_planItems (rules : ArrayRules) (items : List Json) :
    Spread ["items", "additionalItems"] (rules.planItems items) := by
  unfold planItems
  cases rules.items with
  | none => exact .nil _
  | some rule =>
      cases rule with
      | each schema =>
          have heach := Spread.within "items" (pairwise_planEach schema 0 items)
          simpa using heach.append (.nil ["additionalItems"]) (by decide)
      | tuple schemas =>
          refine (Spread.within "items" (pairwise_planTuple 0 schemas items)).append ?_ (by decide)
          cases rules.additionalItems with
          | none => exact .nil _
          | some schema => exact Spread.within _ (pairwise_planEach schema _ _)

theorem spread_plan (rules : ArrayRules) (items : List Json) :
    Spread ["items", "additionalItems", "minItems", "maxItems", "uniqueItems", "contains"]
      (rules.plan items) := by
  have hcontains : Spread ["contains"] (rules.planContains items) := by
    unfold planContains
    cases rules.contains with
    | none => exact .nil _
    | some schema => exact .single "contains" [] _
  exact (rules.spread_planItems items).append
    (.test_cons _ (.test_cons _ (.test_cons _ hcontains (by decide)) (by decide)) (by decide))
    (by decide)

end ArrayRules

theorem NumberRules.spread_plan (rules : NumberRules) (epsilon : Binary64) (n : Number) :
    Spread ["minimum", "maximum", "exclusiveMinimum", "exclusiveMaximum", "multipleOf"]
      (rules.plan epsilon n) := by
  unfold plan
  iterate 5 refine .test_cons _ ?_ (by decide)
  exact .nil []

theorem StringRules.spread_plan (rules : StringRules) (text : String) :
    Spread ["minLength", "maxLength", "pattern"] (rules.plan text) := by
  unfold plan
  iterate 3 refine .test_cons _ ?_ (by decide)
  exact .nil []

/-- Rules for objects in which no pattern and no dependency is listed twice. -/
structure ObjectRules.Distinct (rules : ObjectRules) : Prop where
  patterns : (rules.patternProperties.map fun entry => entry.1.source).Nodup
  dependencies : (rules.dependencies.map Prod.fst).Nodup

namespace ObjectRules

theorem pairwise_planMissing (members : List (String × Json)) (index : Nat) (names : List String) :
    (planMissing members index names).Pairwise Step.Apart := by
  rw [planMissing_eq_map]
  exact pairwise_zipIdx fun a b hdiffer => Step.apart_of_path (diverge_of_index hdiffer [] [])

/-- What is found of a member lies at the member or inside of it. -/
theorem item_of_planMember {rules : ObjectRules} {key : String} {value : Json} {step : Step}
    (hstep : step ∈ rules.planMember key value) {place : Place} (hplace : place ∈ step.places) :
    place.item = [key] := by
  have hdescends : ∃ path schema, step = ⟨path, .descend [key] schema value⟩ := by
    unfold planMember at hstep
    simp only [List.mem_append] at hstep
    rcases hstep with hnamed | hmatching | hadditional
    · cases hlookup : rules.properties.lookup key with
      | none =>
          rw [hlookup] at hnamed
          cases hnamed
      | some schema =>
          rw [hlookup] at hnamed
          exact ⟨_, schema, List.mem_singleton.mp hnamed⟩
    · obtain ⟨entry, -, rfl⟩ := List.mem_map.mp hmatching
      exact ⟨_, entry.2, rfl⟩
    · split at hadditional
      · cases hrule : rules.additionalProperties with
        | none =>
            rw [hrule] at hadditional
            cases hadditional
        | some schema =>
            rw [hrule] at hadditional
            exact ⟨_, schema, List.mem_singleton.mp hadditional⟩
      · cases hadditional
  obtain ⟨path, schema, rfl⟩ := hdescends
  rw [Step.places_descend] at hplace
  rw [List.mem_singleton.mp hplace]

/-- The steps of a dependency as they are below its keyword. -/
def planRequired (members : List (String × Json)) (entry : String × Dependency) : List Step :=
  if (Json.member? entry.1 members).isSome then
    match entry.2 with
    | .keys names => (planMissing members 0 names).map (Step.within entry.1)
    | .schema schema => [⟨[entry.1], .descend [] schema (.object members)⟩]
  else []

theorem planDependency_eq (members : List (String × Json)) (entry : String × Dependency) :
    planDependency members entry =
      (planRequired members entry).map (Step.within "dependencies") := by
  unfold planDependency planRequired
  split
  · cases entry.2 <;> rfl
  · rfl

theorem spread_planRequired (members : List (String × Json)) (entry : String × Dependency) :
    Spread [entry.1] (planRequired members entry) := by
  unfold planRequired
  split
  · cases entry.2 with
    | keys names => exact .within _ (pairwise_planMissing members 0 names)
    | schema schema => exact .single _ [] _
  · exact .nil _

theorem spread_planNames (rules : ObjectRules) {members : List (String × Json)}
    (hnodup : (members.map Prod.fst).Nodup) :
    Spread ["propertyNames"] (rules.planNames members) := by
  unfold planNames
  cases rules.propertyNames with
  | none => exact .nil _
  | some schema =>
      have hnames : (members.map fun member =>
          (⟨[], .descend [member.1] schema (.string member.1)⟩ : Step)).Pairwise Step.Apart := by
        refine List.pairwise_map.mpr ((List.pairwise_map.mp hnodup).imp fun hdiffer => ?_)
        exact Step.apart_descend (Or.inr (diverge_cons_iff.mpr (Or.inl hdiffer)))
      have hwithin := Spread.within "propertyNames" hnames
      rwa [List.map_map] at hwithin

section Distinct

variable {rules : ObjectRules} (hrules : rules.Distinct)

include hrules

theorem Distinct.spread_planMember (key : String) (value : Json) :
    Spread ["properties", "patternProperties", "additionalProperties"]
      (rules.planMember key value) := by
  have hmatching : Spread ["patternProperties"] ((rules.matching key).map fun entry =>
      ⟨["patternProperties", entry.1.source], .descend [key] entry.2 value⟩) := by
    have hsources : ((rules.matching key).map fun entry => entry.1.source).Nodup :=
      hrules.patterns.sublist (List.filter_sublist.map _)
    have hspread : Spread _ ((rules.matching key).flatMap fun entry =>
        [⟨[entry.1.source], .descend [key] entry.2 value⟩]) :=
      Spread.flatMap (fun _ _ => .single _ [] _) hsources
    rw [← List.map_eq_flatMap] at hspread
    have hwithin := Spread.within "patternProperties" hspread.apart
    rwa [List.map_map] at hwithin
  unfold planMember
  refine Spread.append (?_ : Spread ["properties"] _)
    (hmatching.append (?_ : Spread ["additionalProperties"] _) (by decide)) (by decide)
  · cases rules.properties.lookup key with
    | none => exact .nil _
    | some schema => exact .single "properties" [key] _
  · split
    · cases rules.additionalProperties with
      | none => exact .nil _
      | some schema => exact .single "additionalProperties" [] _
    · exact .nil _

theorem Distinct.spread_members {members : List (String × Json)}
    (hnodup : (members.map Prod.fst).Nodup) :
    Spread ["properties", "patternProperties", "additionalProperties"]
      (members.flatMap fun member => rules.planMember member.1 member.2) := by
  have hmember := fun member : String × Json => hrules.spread_planMember member.1 member.2
  refine ⟨List.pairwise_flatMap.mpr ⟨fun member _ => (hmember member).apart, ?_⟩, ?_⟩
  · refine (List.pairwise_map.mp hnodup).imp fun hdiffer s hs t ht a ha b hb => Or.inr ?_
    rw [item_of_planMember hs ha, item_of_planMember ht hb]
    exact diverge_cons_iff.mpr (Or.inl hdiffer)
  · intro step hstep
    obtain ⟨member, -, hstep⟩ := List.mem_flatMap.mp hstep
    exact (hmember member).reports step hstep

theorem Distinct.spread_dependencies (members : List (String × Json)) :
    Spread ["dependencies"] (rules.dependencies.flatMap (planDependency members)) := by
  have hrequired := Spread.flatMap (fun entry _ => spread_planRequired members entry)
    hrules.dependencies
  have hwithin := Spread.within "dependencies" hrequired.apart
  rwa [List.map_flatMap, ← List.flatMap_congr fun entry _ => planDependency_eq members entry]
    at hwithin

theorem Distinct.spread_plan {members : List (String × Json)}
    (hnodup : (members.map Prod.fst).Nodup) :
    Spread ["properties", "patternProperties", "additionalProperties", "required",
      "minProperties", "maxProperties", "dependencies", "propertyNames"] (rules.plan members) := by
  have hrequired := Spread.within "required" (pairwise_planMissing members 0 rules.required)
  have hlast := (hrules.spread_dependencies members).append (rules.spread_planNames hnodup)
    (by decide)
  exact (hrules.spread_members hnodup).append (hrequired.append
    (.test_cons _ (.test_cons _ hlast (by decide)) (by decide)) (by decide)) (by decide)

end Distinct

end ObjectRules

namespace Combinators

theorem pairwise_planAll (value : Json) (index : Nat) (schemas : List Nat) :
    (planAll value index schemas).Pairwise Step.Apart := by
  rw [planAll_eq_map]
  exact pairwise_zipIdx fun a b hdiffer => Step.apart_of_path (diverge_of_index hdiffer [] [])

theorem spread_choose (conditional : Conditional) (value : Json) :
    Spread ["then", "else"] [⟨[], .choose conditional value⟩] := by
  refine ⟨List.pairwise_singleton _ _, fun step hstep place hplace => ?_⟩
  obtain rfl := List.mem_singleton.mp hstep
  obtain ⟨call, hcall, rfl⟩ := List.mem_map.mp hplace
  rcases List.mem_append.mp hcall with hthen | helse
  · obtain ⟨schema, -, rfl⟩ := List.mem_map.mp hthen
    exact ⟨"then", [], by decide, rfl⟩
  · obtain ⟨schema, -, rfl⟩ := List.mem_map.mp helse
    exact ⟨"else", [], by decide, rfl⟩

theorem spread_plan (c : Combinators) (value : Json) :
    Spread ["allOf", "anyOf", "oneOf", "not", "then", "else"] (c.plan value) := by
  have hall := Spread.within "allOf" (pairwise_planAll value 0 c.allOf)
  unfold plan
  refine hall.append (Spread.append (?_ : Spread ["anyOf"] _) (Spread.append
    (?_ : Spread ["oneOf"] _) (Spread.append (?_ : Spread ["not"] _)
    (?_ : Spread ["then", "else"] _) (by decide)) (by decide)) (by decide)) (by decide)
  · split
    · exact .nil _
    · exact .single "anyOf" [] _
  · split
    · exact .nil _
    · exact .single "oneOf" [] _
  · cases c.not with
    | none => exact .nil _
    | some schema => exact .single "not" [] _
  · cases c.conditional with
    | none => exact .nil _
    | some conditional => exact spread_choose conditional value

end Combinators

namespace Keywords

/-- The keywords that mean something for values of one kind only. -/
def ofKinds : List String :=
  ["minimum", "maximum", "exclusiveMinimum", "exclusiveMaximum", "multipleOf", "minLength",
    "maxLength", "pattern", "items", "additionalItems", "minItems", "maxItems", "uniqueItems",
    "contains", "properties", "patternProperties", "additionalProperties", "required",
    "minProperties", "maxProperties", "dependencies", "propertyNames"]

variable {k : Keywords} (hobjects : k.objects.Distinct)

include hobjects

theorem spread_planKind (epsilon : Binary64) {value : Json} (hvalue : value.keysDistinct = true) :
    Spread ofKinds (k.planKind epsilon value) := by
  cases value with
  | null => exact .nil _
  | bool b => exact .nil _
  | number n => exact (k.numbers.spread_plan epsilon n).mono (by decide)
  | string text => exact (k.strings.spread_plan text).mono (by decide)
  | array items => exact (k.arrays.spread_plan items).mono (by decide)
  | object members =>
      exact (hobjects.spread_plan (Json.keysDistinct_object hvalue).1).mono (by decide)

theorem pairwise_plan (hreference : k.reference = none) (epsilon : Binary64) {value : Json}
    (hvalue : value.keysDistinct = true) : (k.plan epsilon value).Pairwise Step.Apart := by
  have hvalues : Spread ["enum", "const"] (k.planValues value) :=
    .test_cons _ (.test_cons _ (.nil []) (by decide)) (by decide)
  have hlast := hvalues.append (k.combinators.spread_plan value) (by decide)
  have hkind := (spread_planKind hobjects epsilon hvalue).append hlast (by decide)
  unfold plan planReference
  rw [hreference]
  exact (hkind.test_cons (holdsFor k.types (·.accepts value)) (by decide)).apart

end Keywords

/-- The steps of a schema without a reference are apart. -/
theorem Node.pairwise_plan {n : Node} (hreference : n.reference? = none)
    (hobjects : ∀ k, n.body = .keywords k → k.objects.Distinct) (epsilon : Binary64) {value : Json}
    (hvalue : value.keysDistinct = true) : (n.plan epsilon value).Pairwise Step.Apart := by
  unfold plan
  unfold reference? at hreference
  cases hbody : n.body with
  | constant accepts => exact List.pairwise_singleton _ _
  | keywords k =>
      rw [hbody] at hreference
      exact Keywords.pairwise_plan (hobjects k hbody) hreference epsilon hvalue

end SchemaRegistry

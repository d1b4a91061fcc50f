import Mathlib.Data.List.Nodup
import SchemaRegistry.Proofs.Reports.Apart
import SchemaRegistry.Proofs.Reports.SchemaPaths

/-!
No violation is reported twice. As long as no reference is followed, what a step finds can be told
from what any other step finds by the two paths, and this carries over from the sub-schemas to the
schema that holds them.
-/

namespace SchemaRegistry

/-- A finding is at a place or beyond it. -/
def Finding.Beyond (x : Finding) (place : Place) : Prop :=
  ∃ rest part, x.schemaPath = place.path ++ rest ∧ x.instancePath = place.item ++ part

theorem Place.Apart.not_beyond {a b : Place} (hapart : a.Apart b) {x : Finding}
    (hfirst : x.Beyond a) : ¬ x.Beyond b := by
  rintro ⟨other, last, hother, hlast⟩
  obtain ⟨rest, part, hrest, hpart⟩ := hfirst
  rcases hapart with hpaths | hitems
  · exact hpaths rest other (hrest.symm.trans hother)
  · exact hitems part last (hpart.symm.trans hlast)

/-- A finding seen from the schema of a reference has come by no other one. -/
theorem Finding.direct_of_within {path : List String} {x : Finding}
    (hdirect : (x.within path).schemaUri = none) : x.schemaUri = none := by
  unfold within at hdirect
  split at hdirect
  · assumption
  · assumption

theorem Finding.within_of_direct {x : Finding} (hdirect : x.schemaUri = none)
    (path : List String) : x.within path = { x with schemaPath := path ++ x.schemaPath } := by
  unfold within
  rw [hdirect]

theorem Finding.beyond_within {x : Finding} (hdirect : x.schemaUri = none) (path : List String) :
    (x.within path).Beyond ⟨path, []⟩ := by
  rw [within_of_direct hdirect]
  exact ⟨x.schemaPath, x.instancePath, rfl, rfl⟩

/-- The two paths tell findings apart that have come by no reference. -/
theorem Finding.eq_of_paths {x y : Finding} (hx : x.schemaUri = none) (hy : y.schemaUri = none)
    (hinstance : x.instancePath = y.instancePath) (hschema : x.schemaPath = y.schemaPath) :
    x = y := by
  obtain ⟨item, path, uri⟩ := x
  obtain ⟨part, way, other⟩ := y
  obtain rfl : item = part := hinstance
  obtain rfl : path = way := hschema
  exact congrArg _ (hx.trans hy.symm)

/-- What a plan finds without following a reference is at or beyond a place of one of its steps. -/
theorem Finding.Arises.exists_place {child : Nat → Json → Judgement}
    {jump : Reference → Json → Judgement} {steps : List Step} {x : Finding}
    (hx : x.Arises child jump steps) (hdirect : x.schemaUri = none) :
    ∃ step ∈ steps, ∃ place ∈ step.places, x.Beyond place := by
  cases hx with
  | failed path hpath =>
      obtain ⟨action, hfails, hstep⟩ := mem_failuresOf.mp hpath
      refine ⟨_, hstep, ⟨path, []⟩, ?_, [], [], (List.append_nil _).symm, rfl⟩
      exact List.mem_append_left _ (by simp [hfails])
  | reported call f inner hcall hjudge hinner =>
      obtain ⟨step, hstep, below, hbelow, rfl⟩ := mem_reportsOf.mp hcall
      have hinside := direct_of_within hdirect
      refine ⟨step, hstep, ⟨step.path ++ below.path, below.item⟩,
        List.mem_append_right _ (List.mem_map_of_mem hbelow), inner.schemaPath,
        inner.instancePath, ?_, ?_⟩
      · rw [within_of_direct hinside]
        rfl
      · rw [within_of_direct hinside]
        rfl

namespace Findings

/-- No finding is listed twice, and none has come by a reference. -/
structure Distinct (f : Findings) : Prop where
  nodup : f.entries.Nodup
  direct : ∀ x ∈ f.entries, x.schemaUri = none

theorem distinct_empty : Distinct .empty := ⟨List.nodup_nil, fun _ hx => absurd hx List.not_mem_nil⟩

theorem distinct_single : Distinct .single := by
  refine ⟨List.nodup_singleton _, fun x hx => ?_⟩
  rw [List.mem_singleton.mp hx]

namespace Distinct

variable {f g : Findings}

theorem within (hf : f.Distinct) (path : List String) : (f.within path).Distinct := by
  constructor
  · refine hf.nodup.map_on fun x hx y hy heq => ?_
    rw [Finding.within_of_direct (hf.direct x hx), Finding.within_of_direct (hf.direct y hy),
      Finding.mk.injEq, List.append_cancel_left_eq] at heq
    exact Finding.eq_of_paths (hf.direct x hx) (hf.direct y hy) heq.1 heq.2.1
  · intro x hx
    obtain ⟨y, hy, rfl⟩ := List.mem_map.mp hx
    rw [Finding.within_of_direct (hf.direct y hy)]
    exact hf.direct y hy

theorem under (hf : f.Distinct) (path : List String) : (f.under path).Distinct := by
  constructor
  · refine hf.nodup.map_on fun x hx y hy heq => ?_
    unfold Finding.under at heq
    rw [Finding.mk.injEq, List.append_cancel_left_eq] at heq
    exact Finding.eq_of_paths (hf.direct x hx) (hf.direct y hy) heq.1 heq.2.1
  · intro x hx
    obtain ⟨y, hy, rfl⟩ := List.mem_map.mp hx
    exact hf.direct y hy

theorem append (hf : f.Distinct) (hg : g.Distinct) (hdisjoint : ∀ x ∈ f.entries, x ∉ g.entries) :
    (f ++ g).Distinct := by
  constructor
  · exact List.nodup_append.mpr ⟨hf.nodup, hg.nodup, fun x hx y hy heq =>
      hdisjoint x hx (heq ▸ hy)⟩
  · intro x hx
    rcases List.mem_append.mp hx with hx | hx
    · exact hf.direct x hx
    · exact hg.direct x hx

end Distinct

end Findings

section Judging

variable {child : Nat → Json → Judgement} {jump : Reference → Json → Judgement}

/-- The schemas of a list that are tried find nothing twice, since each has an index of its own. -/
theorem distinct_of_judgeAny {value : Json} {index : Nat} {schemas : List Nat}
    {entries : List Finding}
    (hchild : ∀ schema ∈ schemas, ∀ g, child schema value = .ok g → g.Distinct)
    (hany : judgeAny child value index schemas = .ok (some entries)) :
    Findings.Distinct ⟨1, entries⟩ := by
  induction schemas generalizing index entries with
  | nil =>
      cases hany
      exact ⟨List.nodup_nil, fun _ hx => absurd hx List.not_mem_nil⟩
  | cons schema rest ih =>
      unfold judgeAny at hany
      obtain ⟨f, hf, hrest⟩ := bind_ok hany
      split at hrest
      · cases hrest
      · obtain ⟨others, hothers, hdone⟩ := bind_ok hrest
        cases others with
        | none => cases hdone
        | some later =>
            cases hdone
            have hhere := hchild schema List.mem_cons_self f hf
            have hlater := ih (fun s hs => hchild s (List.mem_cons_of_mem _ hs)) hothers
            have hdisjoint : ∀ x ∈ (f.within [toString index]).entries, x ∉ later := by
              intro x hx hagain
              obtain ⟨y, hy, rfl⟩ := List.mem_map.mp hx
              obtain ⟨entry, hentry, g, inner, -, -, heq⟩ := mem_of_judgeAny hothers hagain
              have hindex : index ≠ entry.2 := by
                have hle := List.le_snd_of_mem_zipIdx hentry
                omega
              have hfirst := Finding.beyond_within (hhere.direct y hy) [toString index]
              have hdirect := hlater.direct _ hagain
              rw [heq] at hfirst hdirect
              exact Place.Apart.not_beyond (Or.inl (diverge_of_index hindex [] [])) hfirst
                (Finding.beyond_within (Finding.direct_of_within hdirect) _)
            have hboth := (hhere.within [toString index]).append hlater hdisjoint
            exact ⟨hboth.nodup, hboth.direct⟩

theorem distinct_of_judgeBranch {token : String} {value : Json} {branch : Option Nat} {f : Findings}
    (hcalls : ∀ call ∈ Report.branch token value branch, ∀ g,
      judgeLink child jump call.link call.value = .ok g → g.Distinct)
    (hjudge : judgeBranch child token value branch = .ok f) : f.Distinct := by
  cases branch with
  | none =>
      cases hjudge
      exact Findings.distinct_empty
  | some schema =>
      obtain ⟨g, hg, rfl⟩ := map_eq_ok_iff.mp hjudge
      exact (hcalls _ (List.mem_singleton_self _) g hg).within [token]

/-- A step finds nothing twice if the schemas from which it hands on do not. -/
theorem Step.distinct_of_judge {step : Step} {f : Findings}
    (hcalls : ∀ call ∈ step.action.reports, ∀ g,
      judgeLink child jump call.link call.value = .ok g → g.Distinct)
    (hjudge : step.judge child jump = .ok f) : f.Distinct := by
  obtain ⟨path, action⟩ := step
  obtain ⟨found, hfound, rfl⟩ := map_eq_ok_iff.mp hjudge
  refine Findings.Distinct.within ?_ path
  cases action with
  | test ok =>
      cases ok with
      | true =>
          cases hfound
          exact Findings.distinct_empty
      | false =>
          cases hfound
          exact Findings.distinct_single
  | follow reference value => exact hcalls _ (List.mem_singleton_self _) found hfound
  | descend item schema value =>
      obtain ⟨g, hg, rfl⟩ := map_eq_ok_iff.mp hfound
      exact (hcalls _ (List.mem_singleton_self _) g hg).under item
  | count quota cases =>
      obtain ⟨satisfied, -, hdone⟩ := bind_ok hfound
      split at hdone
      · cases hdone
        exact Findings.distinct_empty
      · cases hdone
        exact Findings.distinct_single
  | any schemas value =>
      obtain ⟨entries, hentries, hdone⟩ := bind_ok hfound
      cases entries with
      | none =>
          cases hdone
          exact Findings.distinct_empty
      | some entries =>
          cases hdone
          refine distinct_of_judgeAny (fun schema hschema g hg => ?_) hentries
          obtain ⟨index, hindex⟩ := List.mem_iff_getElem?.mp hschema
          have hentry : (schema, index) ∈ schemas.zipIdx :=
            List.mem_zipIdx_iff_getElem?.mpr hindex
          exact hcalls _ (List.mem_map_of_mem hentry) g hg
  | choose conditional value =>
      obtain ⟨g, -, hchosen⟩ := bind_ok hfound
      split at hchosen
      · exact distinct_of_judgeBranch (fun call hcall =>
          hcalls call (List.mem_append_left _ hcall)) hchosen
      · exact distinct_of_judgeBranch (fun call hcall =>
          hcalls call (List.mem_append_right _ hcall)) hchosen

/-- A plan whose steps are apart finds nothing twice if the schemas from which it hands on do
not. -/
theorem distinct_of_judgeAll {steps : List Step} (hapart : steps.Pairwise Step.Apart)
    (hcalls : ∀ call ∈ reportsOf steps, ∀ g,
      judgeLink child jump call.link call.value = .ok g → g.Distinct)
    {f : Findings} (hjudge : judgeAll child jump steps = .ok f) : f.Distinct := by
  induction steps generalizing f with
  | nil =>
      cases hjudge
      exact Findings.distinct_empty
  | cons step rest ih =>
      obtain ⟨first, hfirst, hothers⟩ := bind_ok hjudge
      obtain ⟨others, hrest, hdone⟩ := bind_ok hothers
      cases hdone
      rw [List.pairwise_cons] at hapart
      have hhere : first.Distinct := by
        refine Step.distinct_of_judge (fun call hcall g hg => ?_) hfirst
        exact hcalls _ (List.mem_append_left _ (List.mem_map_of_mem hcall)) g hg
      have hlater := ih hapart.2 (fun call hcall => hcalls call (List.mem_append_right _ hcall))
        hrest
      refine hhere.append hlater fun x hx hagain => ?_
      have hdirect := hhere.direct x hx
      obtain ⟨s, hs, a, ha, hbeyond⟩ := (Step.arises hfirst hx).exists_place hdirect
      obtain ⟨t, ht, b, hb, hbeyond'⟩ := (judgeAll_arises hrest hagain).exists_place hdirect
      obtain rfl := List.mem_singleton.mp hs
      exact (hapart.1 t ht a ha b hb).not_beyond hbeyond hbeyond'

end Judging

namespace Registry

variable {r : Registry}

/-- No schema to which the sub-schemas of a schema lead, itself included, has a reference. -/
def ReferenceFree (r : Registry) (index : Nat) : Prop :=
  ∀ path inner node, r.Leads index path inner → r.node? inner = some node → node.reference? = none

theorem ReferenceFree.inner {index inner : Nat} (hfree : r.ReferenceFree index) {node : Node}
    (hnode : r.node? index = some node) {path : List String} (hslot : (path, inner) ∈ node.slots) :
    r.ReferenceFree inner :=
  fun rest last other hleads => hfree (path ++ rest) last other (.down hnode hslot hleads)

theorem referenceFree_of_all {r : Registry}
    (hall : (r.entries.toList.all fun entry => entry.node.reference?.isNone) = true)
    (index : Nat) : r.ReferenceFree index := by
  intro path inner node hleads hnode
  obtain ⟨entry, hentry, rfl⟩ := Option.map_eq_some_iff.mp hnode
  have hmem := Array.mem_toList_iff.mpr (Array.mem_of_getElem? hentry)
  exact Option.isNone_iff_eq_none.mp (List.all_eq_true.mp hall entry hmem)

/-- Without references a judgement never stops. -/
theorem PostOrdered.exists_judge (hr : r.PostOrdered) {index : Nat}
    (hfree : r.ReferenceFree index) (epsilon : Binary64) (jumps : Nat) (value : Json) :
    ∃ f, r.judge epsilon jumps index value = .ok f := by
  induction index using Nat.strong_induction_on generalizing value with
  | h index ih =>
      cases hnode : r.node? index with
      | none => exact ⟨_, judge_of_node?_none hnode epsilon jumps value⟩
      | some node =>
          rw [hr.judge_eq hnode]
          cases hjudge : judgeAll (r.judge epsilon jumps) (r.judgeFollow epsilon jumps)
              (node.plan epsilon value) with
          | ok f => exact ⟨f, rfl⟩
          | error stop =>
              obtain ⟨⟨link, part⟩, hcall, hstop⟩ := judgeAll_error hjudge
              have hlink : link ∈ node.links := Node.mem_links_of_call hcall
              cases link with
              | reference reference =>
                  have hreference := hfree [] index node (.here index) hnode
                  rw [Node.reference?_of_mem_links hlink] at hreference
                  cases hreference
              | schema inner =>
                  obtain ⟨⟨path, held⟩, hslot, rfl⟩ :=
                    List.mem_map.mp ((node.mem_slots_iff inner).mpr hlink)
                  obtain ⟨f, hf⟩ := ih held (hr index node hnode held hlink)
                    (hfree.inner hnode hslot) part
                  cases hf.symm.trans hstop

/-- Without references a judgement lists nothing twice. -/
theorem PostOrdered.distinct_of_judge (hr : r.PostOrdered)
    (hobjects : ∀ index node k, r.node? index = some node → node.body = .keywords k →
      k.objects.Distinct) {epsilon : Binary64} {jumps index : Nat}
    (hfree : r.ReferenceFree index) {value : Json} (hvalue : value.keysDistinct = true)
    {f : Findings} (hjudge : r.judge epsilon jumps index value = .ok f) : f.Distinct := by
  induction index using Nat.strong_induction_on generalizing value f with
  | h index ih =>
      cases hnode : r.node? index with
      | none =>
          rw [judge_of_node?_none hnode] at hjudge
          cases hjudge
          exact Findings.distinct_empty
      | some node =>
          rw [hr.judge_eq hnode] at hjudge
          have hreference := hfree [] index node (.here index) hnode
          have hapart := Node.pairwise_plan hreference (fun k => hobjects index node k hnode)
            epsilon hvalue
          refine distinct_of_judgeAll hapart (fun call hcall g hg => ?_) hjudge
          have hfits := node.fits_of_mem_plan hvalue hcall
          have hpart := hfits.keysDistinct hvalue
          have hlower : ∀ inner, call.link = .schema inner → inner < index := fun inner hlink =>
            hr index node hnode inner (hfits.mem_links hlink)
          cases hfits with
          | part hslot hpath hat =>
              exact ih _ (hlower _ rfl) (hfree.inner hnode hslot) hpart hg
          | name hslot hmember =>
              exact ih _ (hlower _ rfl) (hfree.inner hnode hslot) hpart hg
          | target hheld =>
              rw [hreference] at hheld
              cases hheld

end Registry

/-- No two violations agree in both paths. -/
def Outcome.Unrepeated (outcome : Outcome) : Prop :=
  (outcome.violations.map fun v => (v.instancePath, v.schemaPath)).Nodup

/-- The violations of a validation keep the paths of the findings. -/
theorem Findings.Distinct.unrepeated {f : Findings} (hf : f.Distinct) (uri : Url) (count : Nat) :
    Outcome.Unrepeated ⟨((f.landed uri).entries.map (Machine.start 0).locate).take count⟩ := by
  unfold Outcome.Unrepeated
  rw [List.map_take, List.map_map, entries_landed, List.map_map]
  refine List.Nodup.sublist (List.take_sublist _ _) (hf.nodup.map_on fun x hx y hy heq => ?_)
  simp only [Function.comp_apply, Machine.locate, Finding.locate, Finding.landed, Prod.mk.injEq,
    JsonPointer.mk.injEq, List.append_cancel_left_eq] at heq
  exact Finding.eq_of_paths (hf.direct x hx) (hf.direct y hy) heq.1 heq.2

/-- The keys of a table at a keyword are distinct. -/
theorem Json.nodup_membersOf {members : List (String × Json)}
    (hdistinct : (Json.object members).keysDistinct = true) (keyword : String) :
    ((membersOf (member? keyword members)).map Prod.fst).Nodup := by
  cases hvalue : member? keyword members with
  | none => exact List.nodup_nil
  | some value =>
      cases value with
      | object inner =>
          have hinner : (object inner).keysDistinct = true :=
            keysDistinct_of_child? hdistinct hvalue
          exact (keysDistinct_object hinner).1
      | _ => exact List.nodup_nil

namespace Site

open Compile

/-- What is read from the members of a table with distinct keys has names as distinct. -/
theorem nodup_of_table {s : Site} (hdistinct : (Json.object s.members).keysDistinct = true)
    {keyword : String} {table : List (String × Json)} (htable : s.table keyword = .ok table)
    {β : Type} {name : β → String} {made : List β}
    (hmade : List.Forall₂ (fun member b => name b = member.1) table made) :
    (made.map name).Nodup := by
  have hnames : made.map name = table.map Prod.fst := by
    clear htable
    induction hmade with
    | nil => rfl
    | cons hfirst hrest ih => rw [List.map_cons, List.map_cons, hfirst, ih]
  rw [hnames, table_eq htable]
  exact Json.nodup_membersOf hdistinct keyword

variable {s : Site} {child : Compiler} (hdistinct : (Json.object s.members).keysDistinct = true)

theorem patternProperty_source (member : String × Json) :
    Yields (s.patternProperty child member) fun entry => entry.1.source = member.1 :=
  .read fun _ hpattern => .bind fun _ => .pure (regexp_source hpattern)

include hdistinct

theorem objectRules_distinct : Yields (s.objectRules child) ObjectRules.Distinct := by
  unfold objectRules
  refine .read fun _ _ => .bind fun properties => .read fun table htable => ?_
  refine (Yields.mapM fun member _ => patternProperty_source member).andThen
    fun patterns hpatterns => .bind fun additional => ?_
  refine .read fun _ _ => .read fun _ _ => .read fun _ _ => .read fun others hothers => ?_
  refine (Yields.mapM fun member _ => dependency_yields member).andThen
    fun dependencies hdependencies => .bind fun names => .pure ?_
  exact ⟨nodup_of_table hdistinct htable hpatterns,
    nodup_of_table hdistinct hothers (hdependencies.imp fun _ _ hread => hread.1)⟩

theorem keywords_distinct : Yields (s.keywords child) fun k => k.objects.Distinct := by
  unfold keywords
  refine .read fun _ _ => .read fun _ _ => .read fun _ _ => .read fun _ _ => ?_
  refine .bind fun _ => (objectRules_distinct hdistinct).andThen fun objects hobjects => ?_
  exact .read fun _ _ => .bind fun _ => .read fun _ _ => .bind fun _ => .pure hobjects

end Site

theorem Entry.MadeAt.distinct {entry : Entry} {index : Nat} {p : Position}
    (hmade : entry.MadeAt index p) (hdistinct : p.raw.keysDistinct = true) {k : Keywords}
    (hbody : entry.node.body = .keywords k) : k.objects.Distinct := by
  rcases hmade.constant_or_keywords with ⟨accepts, -, rfl⟩ |
    ⟨members, id, l, levels, before, middle, hraw, -, hkeywords, rfl⟩
  · cases hbody
  · cases hbody
    rw [hraw] at hdistinct
    exact Site.keywords_distinct hdistinct before k middle hkeywords

namespace Registry

/-- A validation that starts with a schema has a result, and reports no violation twice. -/
theorem unrepeated_of_compile {documents : List Json} {r : Registry}
    (hcompile : compile documents = .ok r)
    (hdistinct : ∀ raw ∈ documents, raw.keysDistinct = true) {index : Nat}
    (hfree : r.ReferenceFree index) (options : Options) {value : Json}
    (hvalue : value.keysDistinct = true) :
    ∃ outcome, r.validateAt options index value = .ok outcome ∧ outcome.Unrepeated := by
  have hordered := compile_postOrdered hcompile
  have harranged := compile_arranged hcompile
  have hobjects : ∀ inner node k, r.node? inner = some node → node.body = .keywords k →
      k.objects.Distinct := by
    intro inner node k hnode hbody
    obtain ⟨entry, hentry, rfl⟩ := Option.map_eq_some_iff.mp hnode
    obtain ⟨p, hp⟩ := harranged.exists_position hentry
    have hraw := keysDistinct_of_mem_positions hdistinct (List.mem_of_getElem? hp)
    exact (harranged.compiled inner entry p hentry hp).made.distinct hraw hbody
  obtain ⟨f, hf⟩ := hordered.exists_judge hfree options.epsilon options.maxStackDepth value
  have hlisted := hordered.distinct_of_judge hobjects hfree hvalue hf
  refine ⟨_, ?_, hlisted.unrepeated (r.landing index) options.maxErrors⟩
  rw [validateAt_eq]
  unfold judgeFrom
  rw [hf]
  rfl

end Registry

/-- No violation is reported twice. Where neither the schema with which a validation starts nor any
to which its sub-schemas lead has a reference, the validation has a result, and no two violations in
it agree in the path to the value and in the path to the schema. Neither the documents nor the value
repeat a key in an object. -/
theorem compile_violations_unrepeated {documents : List Json} {r : Registry}
    (hcompile : compile documents = .ok r)
    (hdistinct : ∀ raw ∈ documents, raw.keysDistinct = true) {index : Nat}
    (hfree : r.ReferenceFree index) (options : Options) {value : Json}
    (hvalue : value.keysDistinct = true) :
    (∃ outcome, r.validateAt options index value = .ok outcome ∧ outcome.Unrepeated) ∧
    (r.rootIndex = .ok index →
      ∃ outcome, r.validate options value = .ok outcome ∧ outcome.Unrepeated) ∧
    ∀ uri, r.indexOf uri = .ok index →
      ∃ outcome, r.validateUri options uri value = .ok outcome ∧ outcome.Unrepeated := by
  obtain ⟨outcome, hresult, hunrepeated⟩ :=
    Registry.unrepeated_of_compile hcompile hdistinct hfree options hvalue
  refine ⟨⟨outcome, hresult, hunrepeated⟩, fun hroot => ⟨outcome, ?_, hunrepeated⟩,
    fun uri huri => ⟨outcome, ?_, hunrepeated⟩⟩
  · unfold Registry.validate
    rw [hroot]
    exact hresult
  · unfold Registry.validateUri
    rw [huri]
    exact hresult

/-- A schema in which several keywords look at the same member, name or object. -/
def overlappingDocument : Json :=
  .object [
    ("properties", .object [("a", .bool false),
      ("list", .object [("items", .array [.object [("type", .string "null")]]),
        ("additionalItems", .bool false)])]),
    ("patternProperties", .object [("a", .bool false), ("^a", .object [("type", .string "null")])]),
    ("required", .array [.string "x", .string "x"]),
    ("dependencies", .object [("a", .array [.string "x"]),
      ("list", .object [("anyOf", .array [.bool false,
        .object [("anyOf", .array [.object [("type", .string "null")], .bool false])]])])]),
    ("propertyNames", .object [("maxLength", .number (.integer 1))])]

def overlappedValue : Json :=
  .object [("a", .number (.integer 1)), ("list", .array [.bool true, .bool true])]

def overlappedPaths : List (List String × List String) :=
  [(["a"], ["properties", "a"]), (["a"], ["patternProperties", "a"]),
    (["a"], ["patternProperties", "^a", "type"]),
    (["list", "0"], ["properties", "list", "items", "0", "type"]),
    (["list", "1"], ["properties", "list", "additionalItems"]),
    ([], ["required", "0"]), ([], ["required", "1"]), ([], ["dependencies", "a", "0"]),
    ([], ["dependencies", "list", "anyOf", "0"]),
    ([], ["dependencies", "list", "anyOf", "1", "anyOf", "0", "type"]),
    ([], ["dependencies", "list", "anyOf", "1", "anyOf", "1"]),
    (["list"], ["propertyNames", "maxLength"])]

/-- Each of these keywords reports at a path of its own. -/
theorem violations_unrepeated_overlapping :
    ∃ r outcome, compile [overlappingDocument] = .ok r ∧
      (∀ raw ∈ [overlappingDocument], raw.keysDistinct = true) ∧ r.ReferenceFree 12 ∧
      overlappedValue.keysDistinct = true ∧
      r.validateAt Options.default 12 overlappedValue = .ok outcome ∧ outcome.Unrepeated ∧
      outcome.violations.map (fun v => (v.instancePath.tokens, v.schemaPath.tokens)) =
        overlappedPaths := by
  have hchecked : (compile [overlappingDocument]).toOption.map (fun r =>
      (r.entries.toList.all fun entry => entry.node.reference?.isNone,
        (r.validateAt Options.default 12 overlappedValue).toOption.map fun outcome =>
          outcome.violations.map fun v => (v.instancePath.tokens, v.schemaPath.tokens))) =
      some (true, some overlappedPaths) := by decide +kernel
  obtain ⟨r, hcompile, hr⟩ := exists_ok_of_toOption hchecked
  obtain ⟨hall, hpaths⟩ := Prod.mk.inj hr
  have hdistinct : ∀ raw ∈ [overlappingDocument], raw.keysDistinct = true := by decide
  have hvalue : overlappedValue.keysDistinct = true := by decide
  have hfree := Registry.referenceFree_of_all hall 12
  obtain ⟨outcome, hresult, hunrepeated⟩ :=
    (compile_violations_unrepeated hcompile hdistinct hfree Options.default hvalue).1
  rw [hresult] at hpaths
  exact ⟨r, outcome, hcompile, hdistinct, hfree, hvalue, hresult, hunrepeated,
    Option.some.inj hpaths⟩

end SchemaRegistry

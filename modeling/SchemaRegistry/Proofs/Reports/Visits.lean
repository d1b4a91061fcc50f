import SchemaRegistry.Proofs.Reports.Plans
import SchemaRegistry.Proofs.Validation.Agreement
import SchemaRegistry.Proofs.Validation.Depth

/-!
The checks that a validation reports on. A validation comes from the schema and the value with which
it starts to others, along the links whose findings are handed on. A visit is a check that it comes
to in this way, with the ways to it: the one to the value, and the one to the schema from where the
last reference led. Every finding of a judgement is that of a visit at which the schema fails, and
the value is rejected there.
-/

namespace SchemaRegistry

/-- A check of a value against a schema in the course of a validation. The path leads to the schema
from the target of the last reference, the frame, or from the start if there is no reference on the
way; and the value is named if it is the name of a member. -/
structure Visit where
  schema : Nat
  value : Json
  item : List String
  frame : Option Nat
  path : List String
  named : Bool

namespace Visit

def start (index : Nat) (value : Json) : Visit := ⟨index, value, [], none, [], false⟩

/-- The visit seen from a schema that hands on what is found by `inner`, at the end of the link of
the call. -/
def via (call : Report) (inner : Nat) (visit : Visit) : Visit where
  schema := visit.schema
  value := visit.value
  item := call.item ++ visit.item
  frame :=
    match call.link with
    | .schema _ => visit.frame
    | .reference _ => some (visit.frame.getD inner)
  path := if visit.frame.isNone then call.path ++ visit.path else visit.path
  named := visit.named || call.path = ["propertyNames"]

/-- The finding of a visit at which the schema fails at the path `rest`. -/
def finding (r : Registry) (rest : List String) (visit : Visit) : Finding :=
  ⟨visit.item, visit.path ++ rest, visit.frame.map r.landing⟩

end Visit

/-- The visits of a validation that starts with the given schema and value. -/
inductive Registry.Visits (r : Registry) : Nat → Json → Visit → Prop
  | start (index : Nat) (value : Json) : Visits r index value (.start index value)
  | via {index inner : Nat} {value : Json} {node : Node} {call : Report} {visit : Visit}
      (hnode : r.node? index = some node) (hcall : call.Fits node value)
      (hlink : r.linked? call.link = some inner) (hvisit : Visits r inner call.value visit) :
      Visits r index value (visit.via call inner)

/-- A schema fails at a path of its own, and rejects the value when it checks it on its own. -/
structure Registry.FailsAt (r : Registry) (epsilon : Binary64) (jumps schema : Nat) (value : Json)
    (path : List String) : Prop where
  failed : ∃ node, r.node? schema = some node ∧ path ∈ failuresOf (node.plan epsilon value)
  rejected : ∃ f, r.judge epsilon jumps schema value = .ok f ∧ f.clean = false

/-- What is found at a visit beyond a schema is found at the visit seen from before it. -/
theorem Visit.finding_via_schema {call : Report} {schema : Nat} (hlink : call.link = .schema schema)
    (r : Registry) (rest : List String) (inner : Nat) (visit : Visit) :
    (visit.via call inner).finding r rest =
      ((visit.finding r rest).under call.item).within call.path := by
  obtain ⟨path, item, link, part⟩ := call
  obtain rfl : link = .schema schema := hlink
  obtain ⟨schema', value', item', frame, path', named⟩ := visit
  cases frame with
  | none => simp [finding, via, Finding.under, Finding.within]
  | some target => rfl

/-- What is found at a visit beyond a reference lands in the frame of its target. -/
theorem Visit.finding_via_reference (reference : Reference) (value : Json) (r : Registry)
    (rest : List String) (inner : Nat) (visit : Visit) :
    (visit.via ⟨[], [], .reference reference, value⟩ inner).finding r rest =
      (visit.finding r rest).landed (r.landing inner) := by
  obtain ⟨schema, value, item, frame, path, named⟩ := visit
  cases frame <;> simp [finding, via, Finding.landed]

namespace Registry

variable {r : Registry} {epsilon : Binary64}

theorem FailsAt.mono {jumps more : Nat} (hjumps : jumps ≤ more) {schema : Nat} {value : Json}
    {path : List String} (hfails : r.FailsAt epsilon jumps schema value path) :
    r.FailsAt epsilon more schema value path := by
  obtain ⟨f, hf, hclean⟩ := hfails.rejected
  exact ⟨hfails.failed, f, r.judge_approximates epsilon hjumps _ _ f hf, hclean⟩

/-- A judgement with a finding rejects. -/
theorem clean_of_mem_entries {jumps index : Nat} {value : Json} {f : Findings}
    (hjudge : r.judge epsilon jumps index value = .ok f) {x : Finding} (hx : x ∈ f.entries) :
    f.clean = false := by
  apply decide_eq_false
  intro hzero
  have hnone := (r.judge_evident epsilon jumps index value f hjudge).mpr hzero
  rw [hnone] at hx
  cases hx

/-- A jump with a result has led to a schema, and what is found there has landed. -/
theorem judgeFollow_ok {jumps : Nat} {reference : Reference} {value : Json} {f : Findings}
    (hfollow : r.judgeFollow epsilon jumps reference value = .ok f) :
    ∃ fewer target g, jumps = fewer + 1 ∧ r.lookup? reference.target = some target ∧
      r.judge epsilon fewer target value = .ok g ∧ g.landed (r.landing target) = f := by
  cases jumps with
  | zero => cases hfollow
  | succ fewer =>
      rw [judgeFollow_succ] at hfollow
      unfold judgeJump at hfollow
      cases htarget : r.lookup? reference.target with
      | none =>
          rw [htarget] at hfollow
          cases hfollow
      | some target =>
          rw [htarget] at hfollow
          obtain ⟨g, hg, hlanded⟩ := map_eq_ok_iff.mp hfollow
          exact ⟨fewer, target, g, rfl, rfl, hg, hlanded⟩

/-- Every finding of a judgement is that of a visit at which the schema fails. The induction goes
down the jumps that are left, and for one number of jumps down the index of the schema. -/
theorem PostOrdered.exists_visit (hr : r.PostOrdered) {jumps index : Nat} {value : Json}
    (hvalue : value.keysDistinct = true) {f : Findings}
    (hjudge : r.judge epsilon jumps index value = .ok f) {x : Finding} (hx : x ∈ f.entries) :
    ∃ visit path, r.Visits index value visit ∧
      r.FailsAt epsilon jumps visit.schema visit.value path ∧ x = visit.finding r path := by
  induction jumps using Nat.strong_induction_on generalizing index value f x with
  | _ jumps hjumps =>
    induction index using Nat.strong_induction_on generalizing value f x with
    | _ index hbelow =>
      cases hnode : r.node? index with
      | none =>
          rw [judge_of_node?_none hnode] at hjudge
          cases hjudge
          cases hx
      | some node =>
          have hplan := hjudge
          rw [hr.judge_eq hnode] at hplan
          cases judgeAll_arises hplan hx with
          | failed path hpath =>
              have hclean := clean_of_mem_entries hjudge hx
              exact ⟨.start index value, path, .start index value,
                ⟨⟨node, hnode, hpath⟩, f, hjudge, hclean⟩, rfl⟩
          | reported call g inner hcall hlinked hinner =>
              have hfits := node.fits_of_mem_plan hvalue hcall
              have hpart := hfits.keysDistinct hvalue
              cases hlink : call.link with
              | schema schema =>
                  rw [hlink] at hlinked
                  have hless := hr index node hnode schema (hfits.mem_links hlink)
                  obtain ⟨visit, path, hvisit, hfails, rfl⟩ :=
                    hbelow schema hless hpart hlinked hinner
                  have hfound := Visit.finding_via_schema hlink r path schema visit
                  exact ⟨visit.via call schema, path, .via hnode hfits (by rw [hlink]; rfl) hvisit,
                    hfails, hfound.symm⟩
              | reference reference =>
                  rw [hlink] at hlinked
                  obtain ⟨fewer, target, h, rfl, htarget, hjudged, rfl⟩ := judgeFollow_ok hlinked
                  obtain ⟨y, hy, rfl⟩ := List.mem_map.mp hinner
                  obtain ⟨visit, path, hvisit, hfails, rfl⟩ :=
                    hjumps fewer (Nat.lt_succ_self fewer) hpart hjudged hy
                  have hfound : (visit.via call target).finding r path =
                      (((visit.finding r path).landed (r.landing target)).under call.item).within
                        call.path := by
                    cases hfits with
                    | target hreference =>
                        rw [Visit.finding_via_reference, Finding.under_nil, Finding.within_nil]
                    | _ => cases hlink
                  exact ⟨visit.via call target, path,
                    .via hnode hfits (by rw [hlink]; exact htarget) hvisit,
                    hfails.mono (Nat.le_succ fewer), hfound.symm⟩

/-- A violation is a finding of the judgement of the schema at the start. -/
theorem exists_finding {options : Options} {index : Nat} {value : Json} {outcome : Outcome}
    (hresult : r.validateAt options index value = .ok outcome) {v : Violation}
    (hv : v ∈ outcome.violations) :
    ∃ f x, r.judge options.epsilon options.maxStackDepth index value = .ok f ∧ x ∈ f.entries ∧
      v = ⟨⟨x.instancePath⟩, ⟨x.schemaPath⟩, x.schemaUri.getD (r.landing index)⟩ := by
  rw [validateAt_eq] at hresult
  cases hfrom : r.judgeFrom options index value with
  | error stop =>
      rw [hfrom] at hresult
      cases hresult
  | ok landed =>
      rw [hfrom] at hresult
      cases hresult
      obtain ⟨f, hf, rfl⟩ := map_eq_ok_iff.mp hfrom
      obtain ⟨y, hy, rfl⟩ := List.mem_map.mp (List.mem_of_mem_take hv)
      obtain ⟨x, hx, rfl⟩ := List.mem_map.mp hy
      exact ⟨f, x, hf, hx, rfl⟩

/-- Every violation is reported at a visit at which the schema fails. -/
theorem PostOrdered.exists_visit_of_violation (hr : r.PostOrdered) {options : Options} {index : Nat}
    {value : Json} (hvalue : value.keysDistinct = true) {outcome : Outcome}
    (hresult : r.validateAt options index value = .ok outcome) {v : Violation}
    (hv : v ∈ outcome.violations) :
    ∃ visit path, r.Visits index value visit ∧
      r.FailsAt options.epsilon options.maxStackDepth visit.schema visit.value path ∧
      v = ⟨⟨visit.item⟩, ⟨visit.path ++ path⟩, r.landing (visit.frame.getD index)⟩ := by
  obtain ⟨f, x, hf, hx, rfl⟩ := exists_finding hresult hv
  obtain ⟨visit, path, hvisit, hfails, rfl⟩ := hr.exists_visit hvalue hf hx
  refine ⟨visit, path, hvisit, hfails, ?_⟩
  unfold Visit.finding
  cases visit.frame <;> rfl

/-- Where the value of a visit lies: at the path to it, or if it is the name of a member, its path
leads to this member. -/
theorem Visits.located {index : Nat} {value : Json} {visit : Visit}
    (hvisit : r.Visits index value visit) :
    (visit.named = false ∧ value.at? visit.item = some visit.value) ∨
      (visit.named = true ∧ ∃ name held, visit.item.getLast? = some name ∧
        visit.value = .string name ∧ value.at? visit.item = some held) := by
  induction hvisit with
  | start index value => exact Or.inl ⟨rfl, rfl⟩
  | @via index inner value node call visit hnode hcall hlink hvisit ih =>
      cases hcall with
      | @part _ part path item schema hslot hpath hpart =>
          have hat := Json.at?_append_of_some hpart visit.item
          rcases ih with ⟨hnamed, hvalue⟩ | ⟨hnamed, name, held, hlast, hname, hheld⟩
          · left
            exact ⟨by simp [Visit.via, hnamed, hpath], hat.trans hvalue⟩
          · right
            refine ⟨by simp [Visit.via, hnamed], name, held, ?_, hname, hat.trans hheld⟩
            simp [Visit.via, hlast]
      | @name members key held schema hslot hmember =>
          -- Nothing lies in a name, so the visit is of the name itself.
          right
          rcases ih with ⟨hnamed, hvalue⟩ | ⟨hnamed, name, held', hlast, hname, hheld⟩
          · obtain ⟨hitem, hname⟩ := Json.at?_string_iff.mp hvalue
            refine ⟨by simp [Visit.via], key, held, ?_, hname, ?_⟩
            · simp [Visit.via, hitem]
            · simp [Visit.via, hitem, hmember]
          · obtain ⟨hitem, -⟩ := Json.at?_string_iff.mp hheld
            rw [hitem] at hlast
            cases hlast
      | target hreference =>
          rcases ih with ⟨hnamed, hvalue⟩ | ⟨hnamed, hname⟩
          · left
            exact ⟨by simp [Visit.via, hnamed], hvalue⟩
          · right
            exact ⟨by simp [Visit.via, hnamed], hname⟩

end Registry

end SchemaRegistry

import SchemaRegistry.Proofs.Judgement.Check
import SchemaRegistry.Proofs.Judgement.Plan

/-!
The keywords carry out their plans. Whatever the ways to check sub-schemas and to follow references
find, the check of a group of keywords finds the judgement of its plan over them. The statements go
from the single keyword to the whole schema, in the order of the checks themselves.
-/

namespace SchemaRegistry

section Plans

variable {maxDepth opened : Nat} {child : Checker} {jump : Follower}
  {judgeChild : Nat → Json → Judgement} {judgeJump : Reference → Json → Judgement}

namespace Check

theorem finds_nil : Finds maxDepth opened (pure ()) (judgeAll judgeChild judgeJump []) := finds_pure

theorem Finds.append {first second : Check Unit} {before after : List Step}
    (hfirst : Finds maxDepth opened first (judgeAll judgeChild judgeJump before))
    (hsecond : Finds maxDepth opened second (judgeAll judgeChild judgeJump after)) :
    Finds maxDepth opened (do first; second) (judgeAll judgeChild judgeJump (before ++ after)) := by
  rw [judgeAll_append]
  exact hfirst.andThen hsecond

theorem Finds.cons {first second : Check Unit} {step : Step} {rest : List Step}
    (hfirst : Finds maxDepth opened first (step.judge judgeChild judgeJump))
    (hsecond : Finds maxDepth opened second (judgeAll judgeChild judgeJump rest)) :
    Finds maxDepth opened (do first; second) (judgeAll judgeChild judgeJump (step :: rest)) :=
  hfirst.andThen hsecond

theorem Finds.last {check : Check Unit} {step : Step}
    (hcheck : Finds maxDepth opened check (step.judge judgeChild judgeJump)) :
    Finds maxDepth opened check (judgeAll judgeChild judgeJump [step]) := by
  rw [judgeAll_singleton]
  exact hcheck

theorem Finds.below {check : Check Unit} {steps : List Step} (token : String)
    (hcheck : Finds maxDepth opened check (judgeAll judgeChild judgeJump steps)) :
    Finds maxDepth opened (Check.keyword token check)
      (judgeAll judgeChild judgeJump (steps.map (Step.within token))) := by
  rw [judgeAll_within]
  exact hcheck.keyword token

theorem Finds.step {check : Check Unit} {path : List String} {action : Action} (token : String)
    (hcheck : Finds maxDepth opened check (Step.judge judgeChild judgeJump ⟨path, action⟩)) :
    Finds maxDepth opened (Check.keyword token check)
      (Step.judge judgeChild judgeJump ⟨token :: path, action⟩) := by
  change Finds maxDepth opened _ ((Step.within token ⟨path, action⟩).judge judgeChild judgeJump)
  rw [Step.judge_within]
  exact hcheck.keyword token

theorem Finds.action {check : Check Unit} {action : Action}
    (hcheck : Finds maxDepth opened check (action.judge judgeChild judgeJump)) :
    Finds maxDepth opened check (Step.judge judgeChild judgeJump ⟨[], action⟩) := by
  have hpath :
      Step.judge judgeChild judgeJump ⟨[], action⟩ = action.judge judgeChild judgeJump := by
    unfold Step.judge
    cases action.judge judgeChild judgeJump with
    | error stop => rfl
    | ok f => exact congrArg Except.ok f.within_nil
  rw [hpath]
  exact hcheck

theorem finds_test (token : String) (ok : Bool) :
    Finds maxDepth opened (require ok token)
      ((Step.test token ok).judge judgeChild judgeJump) := by
  have hjudge : (Step.test token ok).judge judgeChild judgeJump =
      .ok (if ok then .empty else Findings.single.within [token]) := by
    cases ok <;> rfl
  rw [hjudge]
  exact finds_require ok token

/-- A plan that runs over a list is carried out by a loop over that list. -/
theorem finds_forM {α : Type} (check : α → Check Unit)
    (plan : α → List Step) (items : List α)
    (hitem : ∀ item,
      Finds maxDepth opened (check item) (judgeAll judgeChild judgeJump (plan item))) :
    Finds maxDepth opened (items.forM check)
      (judgeAll judgeChild judgeJump (items.flatMap plan)) := by
  induction items with
  | nil => exact finds_nil
  | cons item rest ih =>
      rw [List.flatMap_cons]
      exact (hitem item).append ih

end Check

open Check

theorem NumberRules.check_finds (rules : NumberRules) (epsilon : Binary64) (n : Number) :
    Finds maxDepth opened (rules.check epsilon n)
      (judgeAll judgeChild judgeJump (rules.plan epsilon n)) :=
  (finds_test _ _).cons <| (finds_test _ _).cons <| (finds_test _ _).cons <|
    (finds_test _ _).cons (finds_test _ _).last

theorem StringRules.check_finds (rules : StringRules) (text : String) :
    Finds maxDepth opened (rules.check text) (judgeAll judgeChild judgeJump (rules.plan text)) :=
  (finds_test _ _).cons <| (finds_test _ _).cons (finds_test _ _).last

variable (hchild : ∀ schema value,
  Finds maxDepth opened (child schema value) (judgeChild schema value))

include hchild

theorem Check.finds_descend (schema : Nat) (value : Json) :
    Finds maxDepth opened (child schema value)
      (Step.judge judgeChild judgeJump ⟨[], .descend [] schema value⟩) := by
  apply Finds.action
  have hunder : (judgeChild schema value).map (Findings.under []) = judgeChild schema value := by
    cases judgeChild schema value with
    | error stop => rfl
    | ok f =>
        have hentry : Finding.under [] = id := rfl
        apply congrArg Except.ok
        apply Findings.ext
        · rfl
        · rw [Findings.entries_under, hentry, List.map_id]
  change Finds maxDepth opened _ ((judgeChild schema value).map (Findings.under []))
  rw [hunder]
  exact hchild schema value

theorem Check.finds_descend_item (token : String) (schema : Nat) (value : Json) :
    Finds maxDepth opened (Check.item token (child schema value))
      (Step.judge judgeChild judgeJump ⟨[], .descend [token] schema value⟩) :=
  ((hchild schema value).item token).action

namespace ArrayRules

theorem checkEach_finds (schema index : Nat) (items : List Json) :
    Finds maxDepth opened (checkEach child schema index items)
      (judgeAll judgeChild judgeJump (planEach schema index items)) := by
  induction items generalizing index with
  | nil => exact finds_nil
  | cons item rest ih => exact (finds_descend_item hchild _ schema item).cons (ih (index + 1))

theorem checkTuple_finds (index : Nat) (schemas : List Nat) (items : List Json) :
    Finds maxDepth opened (checkTuple child index schemas items)
      (judgeAll judgeChild judgeJump (planTuple index schemas items)) := by
  induction schemas generalizing index items with
  | nil => exact finds_nil
  | cons schema schemas ih =>
      cases items with
      | nil => exact finds_nil
      | cons item items =>
          exact ((finds_descend_item hchild _ schema item).step _).cons (ih (index + 1) items)

theorem checkItems_finds (rules : ArrayRules) (items : List Json) :
    Finds maxDepth opened (rules.checkItems child items)
      (judgeAll judgeChild judgeJump (rules.planItems items)) := by
  unfold checkItems planItems
  cases rules.items with
  | none => exact finds_nil
  | some held =>
      cases held with
      | each schema => exact (checkEach_finds hchild schema 0 items).below "items"
      | tuple schemas =>
          apply Finds.append ((checkTuple_finds hchild 0 schemas items).below "items")
          cases rules.additionalItems with
          | none => exact finds_nil
          | some schema =>
              by_cases hlonger : schemas.length < items.length
              · simp only [if_pos hlonger]
                exact (checkEach_finds hchild schema _ _).below "additionalItems"
              · have hnone : items.drop schemas.length = [] := List.drop_eq_nil_of_le (by omega)
                simp only [if_neg hlonger, hnone]
                exact finds_nil

theorem someSatisfies_tells (schema : Nat) (items : List Json) :
    Tells maxDepth opened (someSatisfies child schema items)
      ((judgeCount judgeChild 1 0 (items.map (schema, ·))).map Quota.atLeastOne.met) := by
  induction items with
  | nil => exact tells_pure false
  | cons item rest ih =>
      have hnext (valid : Bool) : Tells maxDepth opened
          (if valid then pure true else someSatisfies child schema rest)
          (if valid then .ok true
            else (judgeCount judgeChild 1 0 (rest.map (schema, ·))).map Quota.atLeastOne.met) := by
        cases valid with
        | true => exact tells_pure true
        | false => exact ih
      have hjudge : (judgeCount judgeChild 1 0 ((item :: rest).map (schema, ·))).map
          Quota.atLeastOne.met = ((judgeChild schema item).map Findings.clean >>= fun valid =>
            if valid then .ok true
            else (judgeCount judgeChild 1 0 (rest.map (schema, ·))).map Quota.atLeastOne.met) := by
        rw [List.map_cons, judgeCount]
        cases judgeChild schema item with
        | error stop => rfl
        | ok f =>
            change Except.map _ (if 1 ≤ (if f.clean then 0 + 1 else 0) then _ else _) =
              if f.clean then _ else _
            cases f.clean <;> rfl
      rw [hjudge]
      exact (hchild schema item).probe.bind hnext

theorem checkContains_finds (rules : ArrayRules) (items : List Json) :
    Finds maxDepth opened (rules.checkContains child items)
      (judgeAll judgeChild judgeJump (rules.planContains items)) := by
  unfold checkContains planContains
  cases rules.contains with
  | none => exact finds_nil
  | some schema =>
      apply Finds.last
      have htest (ok : Bool) : Finds maxDepth opened (require ok "contains")
          ((Step.test "contains" ok).judge judgeChild judgeJump) := finds_test "contains" ok
      have hjudge : Step.judge judgeChild judgeJump
          ⟨["contains"], .count .atLeastOne (items.map (schema, ·))⟩ =
          ((judgeCount judgeChild 1 0 (items.map (schema, ·))).map Quota.atLeastOne.met >>=
            fun ok => (Step.test "contains" ok).judge judgeChild judgeJump) := by
        unfold Step.judge
        change Except.map _ (judgeCount judgeChild 1 0 _ >>= _) = _
        cases judgeCount judgeChild 1 0 (items.map (schema, ·)) with
        | error stop => rfl
        | ok found => rfl
      rw [hjudge]
      exact (someSatisfies_tells hchild schema items).bind_finds htest

theorem check_finds (rules : ArrayRules) (items : List Json) :
    Finds maxDepth opened (rules.check child items)
      (judgeAll judgeChild judgeJump (rules.plan items)) :=
  (checkItems_finds hchild rules items).append <| (finds_test _ _).cons <| (finds_test _ _).cons <|
    (finds_test _ _).cons (checkContains_finds hchild rules items)

end ArrayRules

namespace ObjectRules

omit hchild in
theorem reportMissing_finds (members : List (String × Json)) (index : Nat) (names : List String) :
    Finds maxDepth opened (reportMissing members index names)
      (judgeAll judgeChild judgeJump (planMissing members index names)) := by
  induction names generalizing index with
  | nil => exact finds_nil
  | cons name rest ih => exact (finds_test _ _).cons (ih (index + 1))

omit hchild in
theorem checkRequired_finds (rules : ObjectRules) (members : List (String × Json)) :
    Finds maxDepth opened (rules.checkRequired members)
      (judgeAll judgeChild judgeJump
        ((planMissing members 0 rules.required).map (Step.within "required"))) := by
  unfold checkRequired
  cases hrequired : rules.required with
  | nil => exact finds_nil
  | cons name rest => exact (reportMissing_finds members 0 (name :: rest)).below "required"

theorem checkMatching_finds (rules : ObjectRules) (key : String) (value : Json) :
    Finds maxDepth opened (rules.checkMatching child key value)
      (judgeAll judgeChild judgeJump ((rules.matching key).map fun entry =>
        ⟨["patternProperties", entry.1.source], .descend [key] entry.2 value⟩)) := by
  unfold checkMatching
  induction rules.matching key with
  | nil => exact finds_nil
  | cons entry rest ih =>
      exact (((finds_descend_item hchild key entry.2 value).step _).step _).cons ih

theorem checkMember_finds (rules : ObjectRules) (key : String) (value : Json) :
    Finds maxDepth opened (rules.checkMember child key value)
      (judgeAll judgeChild judgeJump (rules.planMember key value)) := by
  unfold checkMember planMember
  apply Finds.append
  · unfold checkNamed
    cases rules.properties.lookup key with
    | none => exact finds_nil
    | some schema => exact (((finds_descend_item hchild key schema value).step _).step _).last
  · apply (checkMatching_finds hchild rules key value).append
    unfold checkAdditional
    split
    · cases rules.additionalProperties with
      | none => exact finds_nil
      | some schema => exact ((finds_descend_item hchild key schema value).step _).last
    · exact finds_nil

theorem checkDependency_finds (members : List (String × Json)) (entry : String × Dependency) :
    Finds maxDepth opened (checkDependency child members entry)
      (judgeAll judgeChild judgeJump (planDependency members entry)) := by
  unfold checkDependency planDependency
  split
  · cases entry.2 with
    | keys names => exact ((reportMissing_finds members 0 names).below _).below _
    | schema schema => exact (((finds_descend hchild schema _).step _).step _).last
  · exact finds_nil

theorem checkNames_finds (rules : ObjectRules) (members : List (String × Json)) :
    Finds maxDepth opened (rules.checkNames child members)
      (judgeAll judgeChild judgeJump (rules.planNames members)) := by
  unfold checkNames planNames
  cases rules.propertyNames with
  | none => exact finds_nil
  | some schema =>
      have hnames : Finds maxDepth opened
          (members.forM fun member => Check.item member.1 (child schema (.string member.1)))
          (judgeAll judgeChild judgeJump (members.map fun member =>
            ⟨[], .descend [member.1] schema (.string member.1)⟩)) := by
        induction members with
        | nil => exact finds_nil
        | cons member rest ih =>
            exact (finds_descend_item hchild member.1 schema _).cons ih
      have hbelow := hnames.below "propertyNames"
      rw [List.map_map] at hbelow
      exact hbelow

theorem check_finds (rules : ObjectRules) (members : List (String × Json)) :
    Finds maxDepth opened (rules.check child members)
      (judgeAll judgeChild judgeJump (rules.plan members)) :=
  (finds_forM _ _ members fun member => checkMember_finds hchild rules member.1 member.2).append <|
    (checkRequired_finds rules members).append <| (finds_test _ _).cons <| (finds_test _ _).cons <|
      (finds_forM _ _ rules.dependencies (checkDependency_finds hchild members)).append
        (checkNames_finds hchild rules members)

end ObjectRules

namespace Combinators

theorem checkAll_finds (value : Json) (index : Nat) (schemas : List Nat) :
    Finds maxDepth opened (checkAll child value index schemas)
      (judgeAll judgeChild judgeJump (planAll value index schemas)) := by
  induction schemas generalizing index with
  | nil => exact finds_nil
  | cons schema rest ih => exact ((finds_descend hchild schema value).step _).cons (ih (index + 1))

omit hchild in
/-- Cutting the parts of a list first does not change what is left when the whole is cut. -/
theorem take_append_take {α : Type} (n : Nat) (first second : List α) :
    (first.take n ++ second.take n).take n = (first ++ second).take n := by
  have hrest : min (n - min n first.length) n = n - first.length := by omega
  rw [List.take_append, List.take_append, List.take_take, List.take_take, List.length_take,
    Nat.min_self, hrest]

theorem attempt_apply (token : String) (schema : Nat) (value : Json) (m : Machine)
    (hframes : m.frames.length = opened + 1) :
    Check.keyword "anyOf" (Check.keyword token (Check.attempt (child schema value))) m =
      m.answer maxDepth ((judgeChild schema value).map fun f => (f.clean,
        ((((f.within [token]).within ["anyOf"]).entries.map m.locate).take m.room).toArray)) := by
  have hopen : m.frames ≠ [] := List.ne_nil_of_length_eq_add_one hframes
  have houter : (m.enterKeyword "anyOf").frames.length = opened + 1 := by
    rw [← hframes]
    exact List.length_modifyHead
  have hinner : ((m.enterKeyword "anyOf").enterKeyword token).frames.length = opened + 1 := by
    rw [← houter]
    exact List.length_modifyHead
  have hlocate : ((m.enterKeyword "anyOf").enterKeyword token).locate =
      m.locate ∘ Finding.within ["anyOf"] ∘ Finding.within [token] := by
    rw [Machine.locate_enterKeyword _ _ (List.ne_nil_of_length_eq_add_one houter),
      Machine.locate_enterKeyword _ _ hopen]
    rfl
  apply keyword_answer
  apply keyword_answer
  rw [(hchild schema value).attempt_apply _ hinner, hlocate]
  simp only [Findings.entries_within, List.map_map]
  rfl

omit hchild in
/-- What was collected for some members and cut to the capacity stays so when the findings of
another member are added. -/
theorem collected_append {m : Machine} {collected : Array Violation} {found : List Finding}
    (hcollected : collected.toList.take m.room = (found.map m.locate).take m.room)
    (more : List Finding) :
    (collected ++ ((more.map m.locate).take m.room).toArray).toList.take m.room =
      ((found ++ more).map m.locate).take m.room := by
  rw [Array.toList_append, ← take_append_take, hcollected, List.take_take, Nat.min_self,
    take_append_take, List.map_append]

/-- The errors of the members are cut to the capacity one by one and again when they are recorded
together. What is recorded is cut once from the errors of all members. -/
theorem checkAny_apply (value : Json) (index : Nat) (schemas : List Nat) (m : Machine)
    (hframes : m.frames.length = opened + 1) (collected : Array Violation) (found : List Finding)
    (hcollected : collected.toList.take m.room = (found.map m.locate).take m.room) :
    checkAny child value index collected schemas m = m.settle maxDepth (do
      match ← judgeAny judgeChild value index schemas with
      | none => return .empty
      | some entries => return ⟨1, found ++ entries.map (Finding.within ["anyOf"])⟩) := by
  induction schemas generalizing index collected found with
  | nil =>
      have hentries : m.entries ++ collected.take m.room =
          m.entries ++ ((found.map m.locate).take m.room).toArray := by
        rw [← hcollected]
        apply Array.toList_inj.mp
        simp
      change Except.ok ((), m.recordAll collected) = Except.ok ((), m.absorb ⟨1, found ++ []⟩)
      rw [List.append_nil]
      exact congrArg (fun after => Except.ok ((), after)) (Machine.ext rfl rfl rfl rfl hentries)
  | cons schema rest ih =>
      unfold checkAny judgeAny
      rw [bind_apply, attempt_apply hchild _ schema value m hframes]
      cases judgeChild schema value with
      | error stop => rfl
      | ok f =>
          cases hclean : f.clean with
          | true =>
              simp only [Machine.answer, Except.map, bind, Except.bind, hclean, if_true]
              change Except.ok ((), m) = Except.ok ((), m.absorb .empty)
              rw [m.absorb_empty]
          | false =>
              -- The findings of a member without success join the collected ones, cut or not.
              let below := (f.within [toString index]).within ["anyOf"]
              have hnext := ih (index + 1) _ (found ++ below.entries)
                (collected_append hcollected below.entries)
              simp only [Except.map, Machine.answer, hclean]
              change checkAny child value (index + 1) _ rest m = _
              rw [hnext]
              simp only [bind, Except.bind, hclean]
              cases judgeAny judgeChild value (index + 1) rest with
              | error stop => rfl
              | ok entries =>
                  cases entries with
                  | none => rfl
                  | some entries =>
                      have hentries :
                          found ++ below.entries ++ entries.map (Finding.within ["anyOf"]) =
                          found ++ ((f.within [toString index]).entries ++ entries).map
                            (Finding.within ["anyOf"]) := by
                        rw [List.map_append, List.append_assoc]
                        rfl
                      exact congrArg (fun all => m.settle maxDepth (.ok ⟨1, all⟩)) hentries

theorem checkAnyOf_finds (c : Combinators) (value : Json) :
    Finds maxDepth opened (c.checkAnyOf child value)
      (judgeAll judgeChild judgeJump
        (if c.anyOf.isEmpty then [] else [⟨["anyOf"], .any c.anyOf value⟩])) := by
  unfold checkAnyOf
  split
  · exact finds_nil
  · apply Finds.last
    intro m hframes
    rw [checkAny_apply hchild value 0 c.anyOf m hframes #[] [] rfl]
    apply congrArg (m.settle maxDepth)
    unfold Step.judge
    change _ = Except.map _ (judgeAny judgeChild value 0 c.anyOf >>= _)
    cases judgeAny judgeChild value 0 c.anyOf with
    | error stop => rfl
    | ok entries =>
        cases entries with
        | none => rfl
        | some entries => rfl

theorem countSatisfied_tells (value : Json) (found : Nat) (schemas : List Nat) :
    Tells maxDepth opened (countSatisfied child value found schemas)
      (judgeCount judgeChild 2 found (schemas.map (·, value))) := by
  induction schemas generalizing found with
  | nil => exact tells_pure found
  | cons schema rest ih =>
      have hnext (valid : Bool) : Tells maxDepth opened
          (let found := if valid then found + 1 else found
            if found > 1 then pure found else countSatisfied child value found rest)
          (let found := if valid then found + 1 else found
            if 2 ≤ found then .ok found
            else judgeCount judgeChild 2 found (rest.map (·, value))) := by
        generalize (if valid then found + 1 else found) = total
        by_cases hmany : 2 ≤ total
        · simp only [if_pos hmany, if_pos (show total > 1 from hmany)]
          exact tells_pure total
        · simp only [if_neg hmany, if_neg (show ¬ total > 1 from hmany)]
          exact ih total
      have hjudge : judgeCount judgeChild 2 found ((schema :: rest).map (·, value)) =
          ((judgeChild schema value).map Findings.clean >>= fun valid =>
            let found := if valid then found + 1 else found
            if 2 ≤ found then .ok found
            else judgeCount judgeChild 2 found (rest.map (·, value))) := by
        rw [List.map_cons, judgeCount]
        cases judgeChild schema value with
        | error stop => rfl
        | ok f => rfl
      rw [hjudge]
      exact (hchild schema value).probe.bind hnext

theorem checkOneOf_finds (c : Combinators) (value : Json) :
    Finds maxDepth opened (c.checkOneOf child value)
      (judgeAll judgeChild judgeJump
        (if c.oneOf.isEmpty then []
          else [⟨["oneOf"], .count .exactlyOne (c.oneOf.map (·, value))⟩])) := by
  unfold checkOneOf
  split
  · exact finds_nil
  · apply Finds.last
    have htest (found : Nat) : Finds maxDepth opened (require (found = 1) "oneOf")
        ((Step.test "oneOf" (found = 1)).judge judgeChild judgeJump) := finds_test "oneOf" _
    have hjudge : Step.judge judgeChild judgeJump
        ⟨["oneOf"], .count .exactlyOne (c.oneOf.map (·, value))⟩ =
        (judgeCount judgeChild 2 0 (c.oneOf.map (·, value)) >>= fun found =>
          (Step.test "oneOf" (found = 1)).judge judgeChild judgeJump) := by
      unfold Step.judge
      change Except.map _ (judgeCount judgeChild 2 0 _ >>= _) = _
      cases judgeCount judgeChild 2 0 (c.oneOf.map (·, value)) with
      | error stop => rfl
      | ok found => rfl
    rw [hjudge]
    exact (countSatisfied_tells hchild value 0 c.oneOf).bind_finds htest

theorem checkNot_finds (c : Combinators) (value : Json) :
    Finds maxDepth opened (c.checkNot child value)
      (judgeAll judgeChild judgeJump
        (match c.not with
          | none => []
          | some schema => [⟨["not"], .count .never [(schema, value)]⟩])) := by
  unfold checkNot
  cases c.not with
  | none => exact finds_nil
  | some schema =>
      apply Finds.last
      have htest (valid : Bool) : Finds maxDepth opened (require (!valid) "not")
          ((Step.test "not" !valid).judge judgeChild judgeJump) := finds_test "not" _
      have hjudge : Step.judge judgeChild judgeJump ⟨["not"], .count .never [(schema, value)]⟩ =
          ((judgeChild schema value).map Findings.clean >>= fun valid =>
            (Step.test "not" !valid).judge judgeChild judgeJump) := by
        unfold Step.judge
        change Except.map _ (judgeCount judgeChild 1 0 [(schema, value)] >>= _) = _
        rw [judgeCount]
        cases judgeChild schema value with
        | error stop => rfl
        | ok f =>
            change Except.map _ ((if 1 ≤ (if f.clean then 0 + 1 else 0) then _ else _) >>= _) =
              (Step.test "not" !f.clean).judge judgeChild judgeJump
            cases f.clean <;> rfl
      rw [hjudge]
      exact (hchild schema value).probe.bind_finds htest

theorem branch_finds (token : String) (value : Json) (branch : Option Nat) :
    Finds maxDepth opened
      (match branch with
        | some schema => Check.keyword token (child schema value)
        | none => pure ())
      (judgeBranch judgeChild token value branch) := by
  cases branch with
  | none => exact finds_pure
  | some schema => exact (hchild schema value).keyword token

theorem checkConditional_finds (c : Combinators) (value : Json) :
    Finds maxDepth opened (c.checkConditional child value)
      (judgeAll judgeChild judgeJump
        (match c.conditional with
          | none => []
          | some conditional => [⟨[], .choose conditional value⟩])) := by
  unfold checkConditional
  cases c.conditional with
  | none => exact finds_nil
  | some conditional =>
      apply Finds.last
      apply Finds.action
      have hchosen (valid : Bool) : Finds maxDepth opened
          (if valid then
            match conditional.consequent with
            | some schema => Check.keyword "then" (child schema value)
            | none => pure ()
          else
            match conditional.alternative with
            | some schema => Check.keyword "else" (child schema value)
            | none => pure ())
          (if valid then judgeBranch judgeChild "then" value conditional.consequent
            else judgeBranch judgeChild "else" value conditional.alternative) := by
        cases valid with
        | true => exact branch_finds hchild "then" value conditional.consequent
        | false => exact branch_finds hchild "else" value conditional.alternative
      have hjudge : Action.judge judgeChild judgeJump (.choose conditional value) =
          ((judgeChild conditional.condition value).map Findings.clean >>= fun valid =>
            if valid then judgeBranch judgeChild "then" value conditional.consequent
            else judgeBranch judgeChild "else" value conditional.alternative) := by
        change (judgeChild conditional.condition value >>= _) = _
        cases judgeChild conditional.condition value with
        | error stop => rfl
        | ok f => rfl
      rw [hjudge]
      exact (hchild conditional.condition value).probe.bind_finds hchosen

theorem check_finds (c : Combinators) (value : Json) :
    Finds maxDepth opened (c.check child value)
      (judgeAll judgeChild judgeJump (c.plan value)) := by
  have hall : Finds maxDepth opened (c.checkAllOf child value)
      (judgeAll judgeChild judgeJump ((planAll value 0 c.allOf).map (Step.within "allOf"))) := by
    unfold checkAllOf
    cases c.allOf with
    | nil => exact finds_nil
    | cons schema rest => exact (checkAll_finds hchild value 0 (schema :: rest)).below "allOf"
  exact hall.append <| (checkAnyOf_finds hchild c value).append <|
    (checkOneOf_finds hchild c value).append <| (checkNot_finds hchild c value).append
      (checkConditional_finds hchild c value)

end Combinators

theorem Keywords.checkKind_finds (k : Keywords) (epsilon : Binary64) (value : Json) :
    Finds maxDepth opened (k.checkKind epsilon child value)
      (judgeAll judgeChild judgeJump (k.planKind epsilon value)) := by
  cases value with
  | null => exact finds_nil
  | bool accepts => exact finds_nil
  | number n => exact k.numbers.check_finds epsilon n
  | string text => exact k.strings.check_finds text
  | array items => exact k.arrays.check_finds hchild items
  | object members => exact k.objects.check_finds hchild members

variable (hjump : ∀ reference value,
  Finds maxDepth opened (jump reference value) (judgeJump reference value))

include hjump

theorem Keywords.check_finds (k : Keywords) (epsilon : Binary64) (value : Json) :
    Finds maxDepth opened (k.check epsilon child jump value)
      (judgeAll judgeChild judgeJump (k.plan epsilon value)) := by
  have hreference : Finds maxDepth opened (k.checkReference jump value)
      (judgeAll judgeChild judgeJump (k.planReference value)) := by
    unfold checkReference planReference
    cases k.reference with
    | none => exact finds_nil
    | some reference => exact (Finds.action (hjump reference value)).last
  have hvalues : Finds maxDepth opened (k.checkValues value)
      (judgeAll judgeChild judgeJump (k.planValues value)) :=
    (finds_test _ _).cons (finds_test _ _).last
  exact hreference.append <| (finds_test _ _).cons <|
    (k.checkKind_finds hchild epsilon value).append <|
      hvalues.append (k.combinators.check_finds hchild value)

/-- The check of a schema finds the judgement of its plan. -/
theorem Node.check_finds (n : Node) (epsilon : Binary64) (value : Json) :
    Finds maxDepth opened (n.check epsilon child jump value)
      (judgeAll judgeChild judgeJump (n.plan epsilon value)) := by
  unfold Node.check Node.plan
  cases n.body with
  | constant accepts =>
      apply Finds.last
      cases accepts with
      | true => exact finds_pure
      | false => exact finds_report.action
  | keywords k => exact k.check_finds hchild hjump epsilon value

end Plans

end SchemaRegistry

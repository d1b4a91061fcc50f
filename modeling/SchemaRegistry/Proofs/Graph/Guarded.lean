import Mathlib.Data.Finset.Card
import Mathlib.Data.Finset.Range
import SchemaRegistry.Proofs.Graph.Recursion

/-!
Recursion through references. A walk along the links of a registry that never descends stays at one
value. If no such walk is closed, then between two descents every reference is followed at most
once, and the height of the value bounds the number of descents. So the number of jumps that are
open at a time is bounded by the number of references and the height.
-/

namespace SchemaRegistry

/-- Whether a schema passes the value itself on or a part of it. -/
inductive EdgeKind where
  | staying
  | descending
  deriving DecidableEq

namespace Registry

variable (r : Registry)

/-- One schema hands a value on to another. -/
inductive Edge : EdgeKind → Nat → Nat → Prop
  | staying {source target : Nat} {node : Node} {link : Link} (hnode : r.node? source = some node)
      (hlink : link ∈ node.staying) (htarget : r.linked? link = some target) :
      Edge .staying source target
  | descending {source target : Nat} {node : Node} {link : Link}
      (hnode : r.node? source = some node) (hlink : link ∈ node.descending)
      (htarget : r.linked? link = some target) : Edge .descending source target

/-- A walk along edges of the given kinds, the last one first. -/
inductive Walk (start : Nat) : List EdgeKind → Nat → Prop
  | nil : Walk start [] start
  | step {kinds : List EdgeKind} {kind : EdgeKind} {middle finish : Nat}
      (hwalk : Walk start kinds middle) (hedge : r.Edge kind middle finish) :
      Walk start (kind :: kinds) finish

/-- Every cycle of schemas descends somewhere. -/
def Guarded : Prop :=
  ∀ start kinds, kinds ≠ [] → r.Walk start kinds start → EdgeKind.descending ∈ kinds

/-- The schemas with a reference. -/
def referring : Finset Nat :=
  {index ∈ Finset.range r.size | ((r.node? index).bind Node.reference?).isSome}

/-- From `source` there is a walk with at least one edge to `index` on which a value stays. -/
def StaysTo (source index : Nat) : Prop :=
  ∃ kinds, kinds ≠ [] ∧ EdgeKind.descending ∉ kinds ∧ r.Walk source kinds index

variable {r}

theorem StaysTo.step {source index next : Nat} (hstays : r.StaysTo source index)
    (hedge : r.Edge .staying index next) : r.StaysTo source next := by
  obtain ⟨kinds, hnonempty, hstaying, hwalk⟩ := hstays
  refine ⟨.staying :: kinds, List.cons_ne_nil _ _, ?_, .step hwalk hedge⟩
  intro hmem
  rcases List.mem_cons.mp hmem with hfirst | hrest
  · cases hfirst
  · exact hstaying hrest

theorem staysTo_of_edge {index next : Nat} (hedge : r.Edge .staying index next) :
    r.StaysTo index next := by
  refine ⟨[.staying], List.cons_ne_nil _ _, ?_, .step .nil hedge⟩
  intro hmem
  cases List.mem_singleton.mp hmem

theorem Guarded.not_staysTo (hguarded : r.Guarded) (index : Nat) : ¬ r.StaysTo index index := by
  rintro ⟨kinds, hnonempty, hstaying, hwalk⟩
  exact hstaying (hguarded index kinds hnonempty hwalk)

theorem length_filter_range {α β : Type} (f : α → Option β) (items : List α) :
    ((List.range items.length).filter fun i => (items[i]?.bind f).isSome).length =
      (items.filterMap f).length := by
  induction items with
  | nil => rfl
  | cons item rest ih =>
      have hrest : ((List.range rest.length).map Nat.succ).filter
          (fun i => ((item :: rest)[i]?.bind f).isSome) =
          ((List.range rest.length).filter fun i => (rest[i]?.bind f).isSome).map Nat.succ := by
        rw [List.filter_map]
        rfl
      rw [List.length_cons, List.range_succ_eq_map, List.filter_cons, hrest]
      cases hitem : f item with
      | none => simp [hitem, ih]
      | some image => simp [hitem, ih]

/-- As many schemas have a reference as there are references. -/
theorem card_referring (r : Registry) : r.referring.card = r.references.length := by
  have hbind : ∀ index, (r.node? index).bind Node.reference? =
      r.entries.toList[index]?.bind fun entry => entry.node.reference? := by
    intro index
    rw [Array.getElem?_toList]
    unfold node?
    cases r.entries[index]? with
    | none => rfl
    | some entry => rfl
  have hlist : r.referring.card = ((List.range r.entries.toList.length).filter fun i =>
      (r.entries.toList[i]?.bind fun entry => entry.node.reference?).isSome).length := by
    unfold referring
    simp only [hbind]
    change ((List.range r.size).filter _).length = _
    simp [size]
  rw [hlist]
  exact length_filter_range _ _

theorem mem_referring {index : Nat} {node : Node} {reference : Reference}
    (hnode : r.node? index = some node) (hreference : node.reference? = some reference) :
    index ∈ r.referring := by
  refine Finset.mem_filter.mpr ⟨Finset.mem_range.mpr (node?_lt hnode), ?_⟩
  simp [hnode, hreference]

/-- Whether every link on which a value stays goes to a schema of lower rank. -/
def ranked (r : Registry) (rank : Nat → Nat) : Bool :=
  (List.range r.size).all fun index =>
    ((r.node? index).toList.flatMap Node.staying).all fun link =>
      (r.linked? link).all fun target => rank target < rank index

theorem rank_lt_of_edge {rank : Nat → Nat} (hranked : r.ranked rank = true) {source target : Nat}
    (hedge : r.Edge .staying source target) : rank target < rank source := by
  cases hedge with
  | @staying _ _ node link hnode hlink htarget =>
      have hindex := List.all_eq_true.mp hranked source (List.mem_range.mpr (node?_lt hnode))
      have hmem : link ∈ (r.node? source).toList.flatMap Node.staying := by
        rw [hnode]
        exact List.mem_flatMap.mpr ⟨node, List.mem_singleton_self node, hlink⟩
      have htargets := List.all_eq_true.mp hindex link hmem
      rw [htarget] at htargets
      exact of_decide_eq_true htargets

/-- A rank that falls whenever a value stays rules out cycles on which it does. -/
theorem guarded_of_ranked {rank : Nat → Nat} (hranked : r.ranked rank = true) : r.Guarded := by
  intro start kinds hnonempty hclosed
  by_contra hstaying
  have hfalls : ∀ kinds finish, EdgeKind.descending ∉ kinds → r.Walk start kinds finish →
      rank finish + kinds.length ≤ rank start := by
    intro kinds finish hstaying hwalk
    induction hwalk with
    | nil => exact Nat.le_refl _
    | @step kinds kind middle finish hwalk hedge ih =>
        have hbefore := ih fun hmem => hstaying (List.mem_cons_of_mem _ hmem)
        cases kind with
        | staying =>
            have hstep := rank_lt_of_edge hranked hedge
            rw [List.length_cons]
            omega
        | descending => exact absurd List.mem_cons_self hstaying
  have hlength := List.length_pos_iff.mpr hnonempty
  have hrank := hfalls kinds start hstaying hclosed
  omega

/-- What is kept along a run. The schemas in `followed`, whose references were followed since the
last descent, all lead to the current one; the jumps that are left cover the other references once
and all references once for each level of the value. -/
structure Covered (r : Registry) (followed : Finset Nat) (jumps index : Nat) (value : Json) :
    Prop where
  subset : followed ⊆ r.referring
  stays : ∀ source ∈ followed, r.StaysTo source index
  enough : r.referring.card * (value.height + 1) ≤ jumps + followed.card

namespace Covered

variable {followed : Finset Nat} {jumps index : Nat} {value : Json}

theorem stay (hcovered : r.Covered followed jumps index value) {next : Nat}
    (hedge : r.Edge .staying index next) : r.Covered followed jumps next value where
  subset := hcovered.subset
  stays := fun source hsource => (hcovered.stays source hsource).step hedge
  enough := hcovered.enough

theorem descend (hcovered : r.Covered followed jumps index value) {next : Nat} {part : Json}
    (hheight : part.height < value.height) : r.Covered ∅ jumps next part where
  subset := Finset.empty_subset _
  stays := fun source hsource => absurd hsource (Finset.notMem_empty source)
  enough := by
    have hcard := Finset.card_le_card hcovered.subset
    have hlevels : r.referring.card * (part.height + 2) ≤ r.referring.card * (value.height + 1) :=
      Nat.mul_le_mul_left _ (by omega)
    have henough := hcovered.enough
    rw [Nat.mul_succ] at hlevels
    rw [Finset.card_empty]
    omega

/-- In a guarded registry there is a jump left for a reference, and what is behind it is covered. -/
theorem follow (hcovered : r.Covered followed jumps index value) (hguarded : r.Guarded)
    (hindex : index ∈ r.referring) :
    ∃ rest, jumps = rest + 1 ∧ ∀ next, r.Edge .staying index next →
      r.Covered (insert index followed) rest next value := by
  have hnew : index ∉ followed := fun hmem =>
    hguarded.not_staysTo index (hcovered.stays index hmem)
  have hsubset : insert index followed ⊆ r.referring :=
    Finset.insert_subset hindex hcovered.subset
  have hcard : followed.card + 1 = (insert index followed).card :=
    (Finset.card_insert_of_notMem hnew).symm
  have hroom : (insert index followed).card ≤ r.referring.card := Finset.card_le_card hsubset
  have henough := hcovered.enough
  have hlevels : r.referring.card * 1 ≤ r.referring.card * (value.height + 1) :=
    Nat.mul_le_mul_left _ (by omega)
  refine ⟨jumps - 1, by omega, fun next hedge => ⟨hsubset, ?_, by omega⟩⟩
  intro source hsource
  rcases Finset.mem_insert.mp hsource with rfl | hold
  · exact staysTo_of_edge hedge
  · exact (hcovered.stays source hold).step hedge

end Covered

theorem Guarded.judgeBelow_ne_overflow (hguarded : r.Guarded) {epsilon : Binary64} {jumps : Nat}
    (hjump : ∀ rest, jumps = rest + 1 → ∀ followed index value,
      r.Covered followed rest index value → r.judge epsilon rest index value ≠ .error .overflow)
    (bound : Nat) {followed : Finset Nat} {index : Nat} {value : Json}
    (hcovered : r.Covered followed jumps index value) :
    r.judgeBelow epsilon (r.judgeFollow epsilon jumps) bound index value ≠ .error .overflow := by
  intro hoverflow
  induction bound generalizing followed index value with
  | zero => cases hoverflow
  | succ bound ih =>
      unfold judgeBelow at hoverflow
      cases hnode : r.node? index with
      | none =>
          rw [hnode] at hoverflow
          cases hoverflow
      | some node =>
          rw [hnode] at hoverflow
          obtain ⟨⟨link, part⟩, hcall, hstop⟩ := judgeAll_error hoverflow
          cases link with
          | schema inner =>
              rcases node.calls_linked hcall with ⟨hlink, rfl⟩ | ⟨hlink, hheight⟩
              · exact ih (hcovered.stay (.staying hnode hlink rfl)) hstop
              · exact ih (hcovered.descend hheight) hstop
          | reference reference =>
              rcases node.calls_linked hcall with ⟨hlink, rfl⟩ | ⟨hlink, -⟩
              · have hindex := mem_referring hnode (Node.reference?_of_staying hlink)
                obtain ⟨rest, hrest, hbehind⟩ := hcovered.follow hguarded hindex
                subst hrest
                change r.judgeJump (r.judge epsilon rest) reference part = _ at hstop
                unfold judgeJump at hstop
                cases htarget : r.lookup? reference.target with
                | none =>
                    rw [htarget] at hstop
                    cases hstop
                | some target =>
                    rw [htarget] at hstop
                    exact hjump rest rfl _ target part
                      (hbehind target (.staying hnode hlink htarget)) (map_eq_error_iff.mp hstop)
              · exact absurd hlink Node.not_reference_descending

/-- In a guarded registry no check runs out of jumps. -/
theorem Guarded.judge_ne_overflow (hguarded : r.Guarded) (epsilon : Binary64) (jumps : Nat)
    {followed : Finset Nat} {index : Nat} {value : Json}
    (hcovered : r.Covered followed jumps index value) :
    r.judge epsilon jumps index value ≠ .error .overflow := by
  -- Every reference takes away a jump, and every other link takes away from the bound.
  induction jumps generalizing followed index value with
  | zero =>
      have hnone : ∀ rest, 0 = rest + 1 → ∀ followed index value,
          r.Covered followed rest index value →
            r.judge epsilon rest index value ≠ .error .overflow :=
        fun rest hzero => absurd hzero (Nat.succ_ne_zero rest).symm
      exact hguarded.judgeBelow_ne_overflow hnone r.size hcovered
  | succ jumps ih =>
      have hjump : ∀ rest, jumps + 1 = rest + 1 → ∀ followed index value,
          r.Covered followed rest index value →
            r.judge epsilon rest index value ≠ .error .overflow := by
        intro rest heq followed index value hbehind
        cases heq
        exact ih hbehind
      exact hguarded.judgeBelow_ne_overflow hjump r.size hcovered

/-- In a guarded registry with enough jumps for the height of the value no run overflows. -/
theorem Guarded.run_ne_overflow (hguarded : r.Guarded) {options : Options} {value : Json}
    (hdepth : r.references.length * (value.height + 1) ≤ options.maxStackDepth)
    (capacity index depth : Nat) :
    r.run options capacity index value ≠ .error (.stackOverflow depth) := by
  have hcovered : r.Covered ∅ options.maxStackDepth index value := by
    refine ⟨Finset.empty_subset _, fun source hsource => ?_, ?_⟩
    · exact absurd hsource (Finset.notMem_empty source)
    · rw [card_referring, Finset.card_empty]
      exact hdepth
  have hjudge := hguarded.judge_ne_overflow options.epsilon options.maxStackDepth hcovered
  rw [run_eq]
  unfold judgeFrom
  cases hresult : r.judge options.epsilon options.maxStackDepth index value with
  | error stop =>
      cases stop with
      | overflow => exact absurd hresult hjudge
      | dangling target =>
          intro herror
          cases herror
  | ok f =>
      intro herror
      cases herror

theorem rootIndex_ne_overflow (depth : Nat) : r.rootIndex ≠ .error (.stackOverflow depth) := by
  unfold rootIndex
  intro hoverflow
  split at hoverflow <;> cases hoverflow

theorem indexOf_ne_overflow (uri : String) (depth : Nat) :
    r.indexOf uri ≠ .error (.stackOverflow depth) := by
  unfold indexOf
  intro hoverflow
  split at hoverflow
  · cases hoverflow
  · split at hoverflow <;> cases hoverflow

/-- Guarded recursion never overflows: if every cycle of schemas descends into the value somewhere,
then as many jumps as there are references, once for each level of the value and once more, are
enough for every validation, wherever it starts. -/
theorem never_overflows_of_guarded {r : Registry} (hguarded : r.Guarded) {options : Options}
    {value : Json}
    (hdepth : r.references.length * (value.height + 1) ≤ options.maxStackDepth) (depth : Nat) :
    (∀ index, r.validateAt options index value ≠ .error (.stackOverflow depth)) ∧
      r.validate options value ≠ .error (.stackOverflow depth) ∧
      (∀ uri, r.validateUri options uri value ≠ .error (.stackOverflow depth)) ∧
      r.isValid options value ≠ .error (.stackOverflow depth) := by
  have hrun := hguarded.run_ne_overflow hdepth
  have hat : ∀ index, r.validateAt options index value ≠ .error (.stackOverflow depth) := by
    intro index hoverflow
    rcases bind_error hoverflow with hstop | ⟨m, -, hdone⟩
    · exact hrun options.maxErrors index depth hstop
    · cases hdone
  refine ⟨hat, ?_, ?_, ?_⟩
  · intro hoverflow
    rcases bind_error hoverflow with hroot | ⟨index, -, hstop⟩
    · exact rootIndex_ne_overflow depth hroot
    · exact hat index hstop
  · intro uri hoverflow
    rcases bind_error hoverflow with hindex | ⟨index, -, hstop⟩
    · exact indexOf_ne_overflow uri depth hindex
    · exact hat index hstop
  · intro hoverflow
    rcases bind_error hoverflow with hroot | ⟨index, -, hstop⟩
    · exact rootIndex_ne_overflow depth hroot
    · rcases bind_error hstop with hstop | ⟨m, -, hdone⟩
      · exact hrun 0 index depth hstop
      · cases hdone

/-- A schema for trees refers to itself once, below a property, so three jumps are enough for a tree
of height two. -/
theorem tree_never_overflows :
    ∃ r, compile [.object [("properties", .object [("child", .object [("$ref", .string "#")])])]] =
        .ok r ∧
      r.Guarded ∧ r.references.length * ((Json.object [("child", .object [])]).height + 1) ≤ 3 ∧
      (∀ index, r.validateAt { Options.default with maxStackDepth := 3 } index
        (.object [("child", .object [])]) ≠ .error (.stackOverflow 3)) := by
  have hchecked : (compile [.object [("properties",
      .object [("child", .object [("$ref", .string "#")])])]]).toOption.map
        (fun r => (r.ranked (1 - ·), r.references.length)) = some (true, 1) := by decide +kernel
  obtain ⟨r, hcompile, hr⟩ := exists_ok_of_toOption hchecked
  obtain ⟨hranked, hreferences⟩ := Prod.mk.inj hr
  have hguarded := guarded_of_ranked hranked
  have hdepth : r.references.length * ((Json.object [("child", .object [])]).height + 1) ≤ 3 := by
    rw [hreferences]
    decide
  exact ⟨r, hcompile, hguarded, hdepth, (never_overflows_of_guarded hguarded hdepth 3).1⟩

end Registry

end SchemaRegistry

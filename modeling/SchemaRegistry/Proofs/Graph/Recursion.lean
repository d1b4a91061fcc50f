import SchemaRegistry.Proofs.Graph.Links
import SchemaRegistry.Proofs.Judgement.Run

/-!
Judgements along the links of a registry. A judgement is made of those of its calls: it changes only
if one of them changes, and stops only if one of them stops. When sub-schemas are stored before the
schemas that hold them, the bound on the index takes nothing away, and the judgement of a schema is
that of its plan.
-/

namespace SchemaRegistry

section Judging

variable {child other : Nat → Json → Judgement} {jump leap : Reference → Json → Judgement}

/-- The judgement at the end of a link. -/
def judgeLink (child : Nat → Json → Judgement) (jump : Reference → Json → Judgement) :
    Link → Json → Judgement
  | .schema index => child index
  | .reference reference => jump reference

theorem judgeCount_congr {limit found : Nat} {cases : List (Nat × Json)}
    (hagree : ∀ c ∈ cases, child c.1 c.2 = other c.1 c.2) :
    judgeCount child limit found cases = judgeCount other limit found cases := by
  induction cases generalizing found with
  | nil => rfl
  | cons first rest ih =>
      obtain ⟨schema, value⟩ := first
      have hfirst : child schema value = other schema value := hagree _ List.mem_cons_self
      have hrest : ∀ found, judgeCount child limit found rest = judgeCount other limit found rest :=
        fun found => ih fun c hc => hagree c (List.mem_cons_of_mem _ hc)
      unfold judgeCount
      simp only [hfirst, hrest]

theorem judgeAny_congr {value : Json} {index : Nat} {schemas : List Nat}
    (hagree : ∀ schema ∈ schemas, child schema value = other schema value) :
    judgeAny child value index schemas = judgeAny other value index schemas := by
  induction schemas generalizing index with
  | nil => rfl
  | cons schema rest ih =>
      have hfirst : child schema value = other schema value := hagree _ List.mem_cons_self
      have hrest : judgeAny child value (index + 1) rest = judgeAny other value (index + 1) rest :=
        ih fun c hc => hagree c (List.mem_cons_of_mem _ hc)
      unfold judgeAny
      simp only [hfirst, hrest]

theorem judgeBranch_congr {token : String} {value : Json} {branch : Option Nat}
    (hagree : ∀ schema ∈ branch.toList, child schema value = other schema value) :
    judgeBranch child token value branch = judgeBranch other token value branch := by
  cases branch with
  | none => rfl
  | some schema =>
      simp only [judgeBranch, hagree schema (List.mem_singleton_self schema)]

theorem Action.judge_congr {action : Action}
    (hagree : ∀ call ∈ action.calls,
      judgeLink child jump call.1 call.2 = judgeLink other leap call.1 call.2) :
    action.judge child jump = action.judge other leap := by
  cases action with
  | test ok => rfl
  | follow reference value => exact hagree _ (List.mem_singleton_self _)
  | descend item schema value =>
      have hschema : child schema value = other schema value :=
        hagree _ (List.mem_singleton_self _)
      simp only [judge, hschema]
  | count quota cases =>
      have hcases : ∀ c ∈ cases, child c.1 c.2 = other c.1 c.2 :=
        fun c hc => hagree _ (List.mem_map_of_mem hc)
      simp only [judge, judgeCount_congr hcases]
  | any schemas value =>
      have hschemas : ∀ schema ∈ schemas, child schema value = other schema value :=
        fun schema hschema => hagree _ (List.mem_map_of_mem hschema)
      simp only [judge, judgeAny_congr hschemas]
  | choose conditional value =>
      have hlinks : ∀ schema ∈ conditional.links, child schema value = other schema value :=
        fun schema hschema => hagree _ (List.mem_map_of_mem hschema)
      have hcondition := hlinks _ List.mem_cons_self
      have hconsequent : ∀ schema ∈ conditional.consequent.toList,
          child schema value = other schema value :=
        fun schema hschema => hlinks _ (List.mem_cons_of_mem _ (List.mem_append_left _ hschema))
      have halternative : ∀ schema ∈ conditional.alternative.toList,
          child schema value = other schema value :=
        fun schema hschema => hlinks _ (List.mem_cons_of_mem _ (List.mem_append_right _ hschema))
      simp only [judge, hcondition, judgeBranch_congr hconsequent,
        judgeBranch_congr halternative]

/-- A judgement depends on those of its calls only. -/
theorem judgeAll_congr {steps : List Step}
    (hagree : ∀ call ∈ callsOf steps,
      judgeLink child jump call.1 call.2 = judgeLink other leap call.1 call.2) :
    judgeAll child jump steps = judgeAll other leap steps := by
  induction steps with
  | nil => rfl
  | cons step rest ih =>
      have hstep : step.judge child jump = step.judge other leap := by
        unfold Step.judge
        rw [Action.judge_congr fun call hcall => hagree call (List.mem_append_left _ hcall)]
      have hrest := ih fun call hcall => hagree call (List.mem_append_right _ hcall)
      rw [judgeAll_cons, judgeAll_cons, hstep, hrest]

theorem Judgement.andThen_error {j k : Judgement} {stop : Stop}
    (herror : j.andThen k = .error stop) : j = .error stop ∨ k = .error stop := by
  cases j with
  | error inner => exact Or.inl herror
  | ok f =>
      cases k with
      | error inner => exact Or.inr herror
      | ok g => cases herror

theorem judgeCount_error {limit found : Nat} {cases : List (Nat × Json)} {stop : Stop}
    (herror : judgeCount child limit found cases = .error stop) :
    ∃ c ∈ cases, child c.1 c.2 = .error stop := by
  induction cases generalizing found with
  | nil => cases herror
  | cons first rest ih =>
      unfold judgeCount at herror
      rcases bind_error herror with hfirst | ⟨f, -, hrest⟩
      · exact ⟨first, List.mem_cons_self, hfirst⟩
      · dsimp only at hrest
        generalize (if f.clean = true then found + 1 else found) = next at hrest
        split at hrest
        · cases hrest
        · obtain ⟨c, hc, hstop⟩ := ih hrest
          exact ⟨c, List.mem_cons_of_mem _ hc, hstop⟩

theorem judgeAny_error {value : Json} {index : Nat} {schemas : List Nat} {stop : Stop}
    (herror : judgeAny child value index schemas = .error stop) :
    ∃ schema ∈ schemas, child schema value = .error stop := by
  induction schemas generalizing index with
  | nil => cases herror
  | cons schema rest ih =>
      unfold judgeAny at herror
      rcases bind_error herror with hfirst | ⟨f, -, hrest⟩
      · exact ⟨schema, List.mem_cons_self, hfirst⟩
      · split at hrest
        · cases hrest
        · rcases bind_error hrest with hlater | ⟨found, -, hdone⟩
          · obtain ⟨c, hc, hstop⟩ := ih hlater
            exact ⟨c, List.mem_cons_of_mem _ hc, hstop⟩
          · cases hdone

theorem judgeBranch_error {token : String} {value : Json} {branch : Option Nat} {stop : Stop}
    (herror : judgeBranch child token value branch = .error stop) :
    ∃ schema ∈ branch.toList, child schema value = .error stop := by
  cases branch with
  | none => cases herror
  | some schema => exact ⟨schema, List.mem_singleton_self schema, map_eq_error_iff.mp herror⟩

theorem Action.judge_error {action : Action} {stop : Stop}
    (herror : action.judge child jump = .error stop) :
    ∃ call ∈ action.calls, judgeLink child jump call.1 call.2 = .error stop := by
  cases action with
  | test ok => cases herror
  | follow reference value => exact ⟨_, List.mem_singleton_self _, herror⟩
  | descend item schema value =>
      exact ⟨_, List.mem_singleton_self _, map_eq_error_iff.mp herror⟩
  | count quota cases =>
      rcases bind_error herror with hcount | ⟨found, -, hdone⟩
      · obtain ⟨c, hc, hstop⟩ := judgeCount_error hcount
        exact ⟨_, List.mem_map_of_mem hc, hstop⟩
      · cases hdone
  | any schemas value =>
      rcases bind_error herror with hany | ⟨found, -, hdone⟩
      · obtain ⟨schema, hschema, hstop⟩ := judgeAny_error hany
        exact ⟨_, List.mem_map_of_mem hschema, hstop⟩
      · cases found with
        | none => cases hdone
        | some entries => cases hdone
  | choose conditional value =>
      rcases bind_error herror with hcondition | ⟨f, -, hbranch⟩
      · exact ⟨_, List.mem_cons_self, hcondition⟩
      · split at hbranch
        · obtain ⟨schema, hschema, hstop⟩ := judgeBranch_error hbranch
          exact ⟨_, List.mem_cons_of_mem _ (List.mem_map_of_mem
            (List.mem_append_left _ hschema)), hstop⟩
        · obtain ⟨schema, hschema, hstop⟩ := judgeBranch_error hbranch
          exact ⟨_, List.mem_cons_of_mem _ (List.mem_map_of_mem
            (List.mem_append_right _ hschema)), hstop⟩

/-- A judgement stops only for the reason for which one of its calls stops. -/
theorem judgeAll_error {steps : List Step} {stop : Stop}
    (herror : judgeAll child jump steps = .error stop) :
    ∃ call ∈ callsOf steps, judgeLink child jump call.1 call.2 = .error stop := by
  induction steps with
  | nil => cases herror
  | cons step rest ih =>
      rcases Judgement.andThen_error herror with hstep | hrest
      · obtain ⟨call, hcall, hstop⟩ := Action.judge_error (map_eq_error_iff.mp hstep)
        exact ⟨call, List.mem_append_left _ hcall, hstop⟩
      · obtain ⟨call, hcall, hstop⟩ := ih hrest
        exact ⟨call, List.mem_append_right _ hcall, hstop⟩

end Judging

/-- All links of a schema. -/
def Node.links (n : Node) : List Link := n.staying ++ n.descending

theorem Node.mem_links_of_call {n : Node} {epsilon : Binary64} {value : Json} {call : Link × Json}
    (hcall : call ∈ callsOf (n.plan epsilon value)) : call.1 ∈ n.links := by
  rcases n.calls_linked hcall with ⟨hstaying, -⟩ | ⟨hdescending, -⟩
  · exact List.mem_append_left _ hstaying
  · exact List.mem_append_right _ hdescending

theorem Node.reference?_of_mem_links {n : Node} {reference : Reference}
    (hlink : Link.reference reference ∈ n.links) : n.reference? = some reference := by
  rcases List.mem_append.mp hlink with hstaying | hdescending
  · exact Node.reference?_of_staying hstaying
  · exact absurd hdescending Node.not_reference_descending

namespace Registry

/-- The schema at the end of a link. -/
def linked? (r : Registry) : Link → Option Nat
  | .schema index => some index
  | .reference reference => r.lookup? reference.target

/-- Every sub-schema is stored before the schemas that hold it. -/
def PostOrdered (r : Registry) : Prop :=
  ∀ index node, r.node? index = some node → ∀ inner, Link.schema inner ∈ node.links → inner < index

variable {r : Registry}

theorem node?_lt {index : Nat} {node : Node} (hnode : r.node? index = some node) :
    index < r.size := by
  unfold node? at hnode
  obtain ⟨entry, hentry, -⟩ := Option.map_eq_some_iff.mp hnode
  exact (Array.getElem?_eq_some_iff.mp hentry).1

theorem exists_node_of_lt {index : Nat} (hindex : index < r.size) :
    ∃ node, r.node? index = some node := by
  unfold node?
  rw [Array.getElem?_eq_getElem hindex]
  exact ⟨_, rfl⟩

theorem lookup?_lt {uri : Url} {index : Nat} (hlookup : r.lookup? uri = some index) :
    index < r.size := by
  rw [lookup?_eq_findLocation?] at hlookup
  exact (Array.findIdx?_eq_some_iff_findIdx_eq.mp hlookup).1

/-- Any two bounds above the index of a schema give the same judgement. -/
theorem PostOrdered.judgeBelow_eq (hr : r.PostOrdered) (epsilon : Binary64)
    (jump : Reference → Json → Judgement) {first second index : Nat} (value : Json)
    (hfirst : index < first) (hsecond : index < second) :
    r.judgeBelow epsilon jump first index value = r.judgeBelow epsilon jump second index value := by
  induction first generalizing second index value with
  | zero => exact absurd hfirst (Nat.not_lt_zero index)
  | succ first ih =>
      obtain ⟨rest, rfl⟩ : ∃ rest, second = rest + 1 := ⟨second - 1, by omega⟩
      unfold judgeBelow
      cases hnode : r.node? index with
      | none => rfl
      | some node =>
          apply judgeAll_congr
          rintro ⟨link, part⟩ hcall
          have hlink : link ∈ node.links := Node.mem_links_of_call hcall
          cases link with
          | reference reference => rfl
          | schema inner =>
              have hinner : inner < index := hr index node hnode inner hlink
              exact ih part (by omega) (by omega)

theorem judge_of_node?_none {index : Nat} (hnone : r.node? index = none)
    (epsilon : Binary64) (jumps : Nat) (value : Json) :
    r.judge epsilon jumps index value = .ok .empty := by
  unfold judge
  cases r.size with
  | zero => rfl
  | succ bound => simp only [judgeBelow, hnone]

/-- The judgement of a schema is that of its plan. -/
theorem PostOrdered.judge_eq (hr : r.PostOrdered) {epsilon : Binary64} {index : Nat} {node : Node}
    (hnode : r.node? index = some node) (jumps : Nat) (value : Json) :
    r.judge epsilon jumps index value =
      judgeAll (r.judge epsilon jumps) (r.judgeFollow epsilon jumps) (node.plan epsilon value) := by
  have hsize : index < r.size + 1 := Nat.lt_succ_of_lt (node?_lt hnode)
  unfold judge
  rw [hr.judgeBelow_eq epsilon _ value (node?_lt hnode) hsize]
  simp only [judgeBelow, hnode]

end Registry

end SchemaRegistry

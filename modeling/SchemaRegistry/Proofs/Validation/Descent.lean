import SchemaRegistry.Proofs.Compile.Layout
import SchemaRegistry.Proofs.Validation.Context

/-!
The recursion of a validation comes to an end. Each schema that a check asks has a smaller index,
and each reference that it follows takes a jump; so the jumps that are left and the index fall in
lexicographic order, and all indices lie inside the store. This rests on the order in which
compilation fills the store.
-/

namespace SchemaRegistry

namespace Registry

/-- What is left of the recursion when a machine checks a value against the schema at an index. -/
def remaining (options : Options) (index : Nat) (m : Machine) : Nat × Nat :=
  (options.maxStackDepth + 1 - m.frames.length, index)

/-- Checks a value against a schema of the store with less left of the recursion than `bound`. Any
other check is stopped, which ends the whole validation. -/
def checkDescending (r : Registry) (options : Options) (stop : Stop) (check : Checker)
    (bound : Nat × Nat) : Checker := fun index value m =>
  if index < r.size ∧ Prod.lexLt (remaining options index m) bound then check index value m
  else .error (stop.error options.maxStackDepth)

/-- In every open frame a schema is checked by its keywords, and these check only schemas of the
store with less left of the recursion. -/
def Recurses (r : Registry) (options : Options) (stop : Stop) (check : Checker) : Prop :=
  ∀ (index : Nat) (node : Node) (value : Json) (m : Machine), r.node? index = some node →
    m.frames ≠ [] → check index value m =
      node.check options.epsilon
        (r.checkDescending options stop check (remaining options index m))
        (r.follow options.maxStackDepth
          (r.checkDescending options stop check (remaining options index m))) value m

open Check

variable {r : Registry} {options : Options} {stop : Stop}

/-- In the same frame, the schemas with a smaller index have less left. -/
theorem checkDescending_finds {opened index : Nat} {m : Machine}
    (hframes : m.frames.length = opened + 1) (inner : Nat) (value : Json) :
    Finds options.maxStackDepth opened
      (r.checkDescending options stop (r.exec options) (remaining options index m) inner value)
      (if inner < r.size ∧ inner < index then
        r.judge options.epsilon (options.maxStackDepth - opened) inner value
      else .error stop) := by
  intro n hn
  have hless : Prod.lexLt (remaining options inner n) (remaining options index m) ↔
      inner < index := by
    unfold Prod.lexLt remaining
    rw [hn, hframes]
    simp
  unfold checkDescending
  simp only [hless]
  split
  · exact exec_finds options opened inner value n hn
  · rfl

/-- A reference is followed with a jump less, to a schema of the store. -/
theorem follow_checkDescending_finds {opened index : Nat} {m : Machine}
    (hframes : m.frames.length = opened + 1) (reference : Reference) (value : Json) :
    Finds options.maxStackDepth opened
      (r.follow options.maxStackDepth
        (r.checkDescending options stop (r.exec options) (remaining options index m)) reference
        value)
      (r.judgeFollow options.epsilon (options.maxStackDepth - opened) reference value) := by
  apply follow_finds_judged
  intro hroom target htarget n hn
  have hless : Prod.lexLt (remaining options target n) (remaining options index m) := by
    apply Or.inl
    unfold remaining
    dsimp only
    omega
  unfold checkDescending
  rw [if_pos ⟨lookup?_lt htarget, hless⟩]
  exact exec_finds options (opened + 1) target value n hn

/-- In a store in post-order, all that a check asks has less left of the recursion. -/
theorem PostOrdered.recurses (hr : r.PostOrdered) (options : Options) (stop : Stop) :
    r.Recurses options stop (r.exec options) := by
  intro index node value m hnode hopen
  obtain ⟨opened, hframes⟩ : ∃ opened, m.frames.length = opened + 1 :=
    Nat.exists_eq_add_one.mpr (List.length_pos_iff.mpr hopen)
  rw [node.check_finds (checkDescending_finds hframes) (follow_checkDescending_finds hframes)
    options.epsilon value m hframes, exec_finds options opened index value m hframes,
    hr.judge_eq hnode]
  -- Both sides are the judgement of the plan, which asks only along the links of the schema.
  congr 1
  apply judgeAll_congr
  rintro ⟨link, part⟩ hcall
  have hlink : link ∈ node.links := Node.mem_links_of_call hcall
  cases link with
  | reference reference => rfl
  | schema inner =>
      have hinner : inner < index := hr index node hnode inner hlink
      have hinside : inner < r.size := Nat.lt_trans hinner (node?_lt hnode)
      exact (if_pos ⟨hinside, hinner⟩).symm

/-- A machine with less left than one with an open frame has an open frame. -/
theorem frames_of_remaining {inner index : Nat} {n m : Machine} (hopen : m.frames ≠ [])
    (hless : Prod.lexLt (remaining options inner n) (remaining options index m)) :
    n.frames ≠ [] := by
  intro hnone
  have hlength : 0 < m.frames.length := List.length_pos_iff.mpr hopen
  unfold Prod.lexLt remaining at hless
  rw [hnone, List.length_nil] at hless
  dsimp only at hless
  omega

/-- The recursion is well-founded: it determines the check of every schema of the store. -/
theorem Recurses.eq_of_recurses {first second : Checker} (hfirst : r.Recurses options stop first)
    (hsecond : r.Recurses options stop second) {index : Nat} (value : Json) {m : Machine}
    (hindex : index < r.size) (hopen : m.frames ≠ []) :
    first index value m = second index value m := by
  obtain ⟨node, hnode⟩ := exists_node_of_lt hindex
  -- The guard lets through only checks with less left, and on these the two agree by induction.
  have hsame : r.checkDescending options stop first (remaining options index m) =
      r.checkDescending options stop second (remaining options index m) := by
    funext inner part n
    unfold checkDescending
    split
    · next hbelow =>
        obtain ⟨hinner, hless⟩ := hbelow
        exact hfirst.eq_of_recurses hsecond part hinner (frames_of_remaining hopen hless)
    · rfl
  rw [hfirst index node value m hnode hopen, hsecond index node value m hnode hopen, hsame]
termination_by remaining options index m
decreasing_by exact Prod.lex_def.mpr hless

end Registry

/-- Compilation fills the store in post-order, and that is why the recursion of a validation comes
to an end. The store is that of the documents. Under all options a check of a value against a schema
consists of checks against schemas of the store with fewer jumps left, or as many and a smaller
index; and it is the only function that does so, as the recursion is well-founded. -/
theorem compile_descends {documents : List Json} {r : Registry}
    (hcompile : compile documents = .ok r) :
    r.CompiledFrom documents ∧
      ∀ (options : Options) (stop : Stop), r.Recurses options stop (r.exec options) ∧
        ∀ check, r.Recurses options stop check →
          ∀ (index : Nat) (value : Json) (m : Machine), index < r.size → m.frames ≠ [] →
            check index value m = r.exec options index value m := by
  refine ⟨compile_compiledFrom hcompile, fun options stop => ?_⟩
  have hexec : r.Recurses options stop (r.exec options) :=
    (compile_postOrdered hcompile).recurses options stop
  exact ⟨hexec, fun check hcheck index value m hindex hopen =>
    hcheck.eq_of_recurses hexec value hindex hopen⟩

/-- Of two documents, the first holds four schemas: itself at the end, and before it that of a
member, one under `then` and one under `definitions`. It refers to the first of them only. -/
theorem two_documents_descend :
    ∃ documents r node, documents = [.object [("definitions", .object [("none", .bool false)]),
        ("then", .bool true),
        ("properties", .object [("a", .object [("$ref", .string "#/definitions/none")])])],
        .object [("$id", .string "a:/second")]] ∧
      compile documents = .ok r ∧ r.roots = [3, 4] ∧ r.node? 3 = some node ∧
      node.slots = [(["properties", "a"], 0)] ∧ r.CompiledFrom documents ∧
      r.Recurses Options.default .overflow (r.exec Options.default) := by
  have hchecked : (compile [.object [("definitions", .object [("none", .bool false)]),
      ("then", .bool true),
      ("properties", .object [("a", .object [("$ref", .string "#/definitions/none")])])],
      .object [("$id", .string "a:/second")]]).toOption.map (fun r =>
        (r.roots, (r.node? 3).map Node.slots)) =
          some ([3, 4], some [(["properties", "a"], 0)]) := by decide +kernel
  obtain ⟨r, hcompile, hr⟩ := exists_ok_of_toOption hchecked
  obtain ⟨hroots, hheld⟩ := Prod.mk.inj hr
  obtain ⟨node, hnode, hslots⟩ := Option.map_eq_some_iff.mp hheld
  obtain ⟨hfrom, hdescends⟩ := compile_descends hcompile
  exact ⟨_, r, node, rfl, hcompile, hroots, hnode, hslots, hfrom,
    (hdescends Options.default .overflow).1⟩

end SchemaRegistry

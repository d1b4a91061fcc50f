import SchemaRegistry.Proofs.Compile.Layout

/-!
References of a sealed store. A compilation with a result has found the target of every reference,
so no validation ever misses one: the only way in which it can stop without a result is that it runs
out of jumps.
-/

namespace SchemaRegistry

/-- Collecting elements without repetition keeps all of them. -/
theorem mem_foldl_collect {α : Type} [DecidableEq α] (items found : List α) (a : α) :
    a ∈ items.foldl (fun found item => if found.contains item then found else found ++ [item])
        found ↔ a ∈ found ∨ a ∈ items := by
  induction items generalizing found with
  | nil => simp
  | cons item rest ih =>
      rw [List.foldl_cons, ih]
      split
      · next hcontains =>
          have hitem : item ∈ found := List.contains_iff_mem.mp hcontains
          grind
      · grind

namespace Registry

variable {r : Registry}

/-- Every reference has a target. -/
def Sealed (r : Registry) : Prop :=
  ∀ reference ∈ r.references, ∃ target, r.lookup? reference.target = some target

theorem mem_unresolved (uri : Url) :
    uri ∈ r.unresolved ↔ ∃ reference ∈ r.references, r.missing? reference = some uri := by
  unfold unresolved
  rw [mem_foldl_collect, List.mem_filterMap]
  simp

theorem mem_references {index : Nat} {node : Node} {reference : Reference}
    (hnode : r.node? index = some node) (hreference : node.reference? = some reference) :
    reference ∈ r.references := by
  unfold node? at hnode
  obtain ⟨entry, hentry, rfl⟩ := Option.map_eq_some_iff.mp hnode
  have hmem : entry ∈ r.entries.toList := Array.mem_toList_iff.mpr (Array.mem_of_getElem? hentry)
  exact List.mem_filterMap.mpr ⟨entry, hmem, hreference⟩

theorem missing?_eq_none_iff (reference : Reference) :
    r.missing? reference = none ↔
      r.hasBase reference.base = true ∧ ∃ target, r.lookup? reference.target = some target := by
  unfold missing?
  rw [← Option.isSome_iff_exists]
  cases r.hasBase reference.base with
  | false => simp
  | true => cases r.lookup? reference.target <;> simp

/-- What is missed is not the base of a document or not the location of a schema. -/
theorem not_found_of_missing {reference : Reference} {uri : Url}
    (hmissing : r.missing? reference = some uri) : r.hasBase uri = false ∨ r.lookup? uri = none := by
  unfold missing? at hmissing
  split at hmissing
  · next hunknown =>
      cases hmissing
      exact Or.inl (Bool.not_eq_true' _ ▸ hunknown)
  · split at hmissing
    · next hnone =>
        cases hmissing
        exact Or.inr (Option.isNone_iff_eq_none.mp hnone)
    · cases hmissing

/-- In a store without unresolved references, each reference has a known base and a target. -/
theorem found_of_unresolved (hunresolved : r.unresolved = []) {reference : Reference}
    (hreference : reference ∈ r.references) :
    r.hasBase reference.base = true ∧ ∃ target, r.lookup? reference.target = some target := by
  rw [← missing?_eq_none_iff]
  cases hmissing : r.missing? reference with
  | none => rfl
  | some uri =>
      have hmem := (mem_unresolved uri).mpr ⟨reference, hreference, hmissing⟩
      rw [hunresolved] at hmem
      exact absurd hmem List.not_mem_nil

section Stop

variable {epsilon : Binary64}

/-- A judgement stops only where a reference of the store stops. -/
theorem judgeBelow_error {jump : Reference → Json → Judgement} {bound index : Nat} {value : Json}
    {stop : Stop} (herror : r.judgeBelow epsilon jump bound index value = .error stop) :
    ∃ reference ∈ r.references, ∃ part, jump reference part = .error stop := by
  induction bound generalizing index value with
  | zero => cases herror
  | succ bound ih =>
      unfold judgeBelow at herror
      cases hnode : r.node? index with
      | none =>
          rw [hnode] at herror
          cases herror
      | some node =>
          rw [hnode] at herror
          obtain ⟨⟨link, part⟩, hcall, hstop⟩ := judgeAll_error herror
          cases link with
          | schema inner => exact ih hstop
          | reference reference =>
              have hreference := Node.reference?_of_mem_links (Node.mem_links_of_call hcall)
              exact ⟨reference, mem_references hnode hreference, part, hstop⟩

/-- In a sealed store the only reason to stop is to run out of jumps. -/
theorem Sealed.stop_eq_overflow (hsealed : r.Sealed) {jumps index : Nat} {value : Json}
    {stop : Stop} (herror : r.judge epsilon jumps index value = .error stop) :
    stop = .overflow := by
  induction jumps generalizing index value with
  | zero =>
      obtain ⟨reference, -, part, hstop⟩ := judgeBelow_error herror
      cases hstop
      rfl
  | succ jumps ih =>
      obtain ⟨reference, hreference, part, hstop⟩ := judgeBelow_error herror
      rw [judgeFollow_succ] at hstop
      unfold judgeJump at hstop
      obtain ⟨target, htarget⟩ := hsealed reference hreference
      rw [htarget] at hstop
      exact ih (map_eq_error_iff.mp hstop)

/-- The end of a validation that misses no schema: it has a result or runs out of jumps. -/
def EndsWell {α : Type} (options : Options) (result : Except ValidateError α) : Prop :=
  (∃ a, result = .ok a) ∨ result = .error (.stackOverflow options.maxStackDepth)

theorem EndsWell.map {α β : Type} {options : Options} {result : Except ValidateError α}
    {f : α → β} (hends : EndsWell options result) : EndsWell options (result.map f) := by
  rcases hends with ⟨a, rfl⟩ | rfl
  · exact Or.inl ⟨f a, rfl⟩
  · exact Or.inr rfl

theorem Sealed.run_endsWell (hsealed : r.Sealed) (options : Options) (capacity index : Nat)
    (value : Json) : EndsWell options (r.run options capacity index value) := by
  rw [run_eq]
  unfold judgeFrom
  cases hjudge : r.judge options.epsilon options.maxStackDepth index value with
  | ok f => exact Or.inl ⟨_, rfl⟩
  | error stop =>
      rw [hsealed.stop_eq_overflow hjudge]
      exact Or.inr rfl

theorem Sealed.validateAt_endsWell (hsealed : r.Sealed) (options : Options) (index : Nat)
    (value : Json) : EndsWell options (r.validateAt options index value) :=
  (hsealed.run_endsWell options options.maxErrors index value).map

end Stop

end Registry

/-- In a compiled store, each reference has a known base and a target. -/
theorem found_of_mem_references {documents : List Json} {r : Registry}
    (hcompile : compile documents = .ok r) {reference : Reference}
    (hreference : reference ∈ r.references) :
    r.hasBase reference.base = true ∧ ∃ target, r.lookup? reference.target = some target := by
  obtain ⟨-, -, -, -, hnone⟩ := compile_ok hcompile
  exact Registry.found_of_unresolved hnone hreference

theorem compile_sealed {documents : List Json} {r : Registry}
    (hcompile : compile documents = .ok r) : r.Sealed :=
  fun _ hreference => (found_of_mem_references hcompile hreference).2

/-- There is a first document exactly if there are documents. -/
theorem compile_rootIndex {documents : List Json} {r : Registry}
    (hcompile : compile documents = .ok r) :
    (documents = [] → r.rootIndex = .error (.noSuchSchema defaultBase.render)) ∧
      (documents ≠ [] → ∃ root, r.rootIndex = .ok root) := by
  have hlength := (compile_roots hcompile).1
  unfold Registry.rootIndex Registry.root?
  cases hroots : r.roots with
  | nil =>
      rw [hroots] at hlength
      have hnone : documents = [] := List.length_eq_zero_iff.mp hlength.symm
      exact ⟨fun _ => rfl, fun hsome => absurd hnone hsome⟩
  | cons root rest =>
      have hsome : documents ≠ [] := by
        rintro rfl
        rw [hroots] at hlength
        cases hlength
      exact ⟨fun hnone => absurd hnone hsome, fun _ => ⟨root, rfl⟩⟩

/-- A sealed store never dangles. All references have a target, so every check of a value against a
schema has a result or runs out of jumps; and so does a validation against a URL that the store
resolves, and one against the first document, unless there is no document. -/
theorem compile_never_dangles {documents : List Json} {r : Registry}
    (hcompile : compile documents = .ok r) (options : Options) (value : Json) :
    (∀ index node reference, r.node? index = some node → node.reference? = some reference →
      ∃ target, r.lookup? reference.target = some target) ∧
      (∀ capacity index, Registry.EndsWell options (r.run options capacity index value)) ∧
      (documents = [] →
        r.validate options value = .error (.noSuchSchema defaultBase.render) ∧
          r.isValid options value = .error (.noSuchSchema defaultBase.render)) ∧
      (documents ≠ [] →
        Registry.EndsWell options (r.validate options value) ∧
          Registry.EndsWell options (r.isValid options value)) ∧
      ∀ text uri index, Url.parse text = .ok uri → r.resolve? uri = some index →
        Registry.EndsWell options (r.validateUri options text value) := by
  have hsealed := compile_sealed hcompile
  obtain ⟨hempty, hnonempty⟩ := compile_rootIndex hcompile
  refine ⟨?_, fun capacity index => hsealed.run_endsWell options capacity index value, ?_, ?_, ?_⟩
  · intro index node reference hnode hreference
    exact hsealed reference (Registry.mem_references hnode hreference)
  · intro hnone
    unfold Registry.validate Registry.isValid
    rw [hempty hnone]
    exact ⟨rfl, rfl⟩
  · intro hsome
    obtain ⟨root, hroot⟩ := hnonempty hsome
    rw [Registry.validate_eq hroot, Registry.isValid_eq hroot]
    exact ⟨hsealed.validateAt_endsWell options root value,
      (hsealed.run_endsWell options 0 root value).map⟩
  · intro text uri index hparse hresolve
    have hindex : r.indexOf text = .ok index := by
      unfold Registry.indexOf
      rw [hparse]
      dsimp only
      rw [hresolve]
    rw [Registry.validateUri_eq hindex]
    exact hsealed.validateAt_endsWell options index value

/-- A document that refers to a schema inside another one, which is resolved by its URL as well. -/
theorem neighbours_never_dangle :
    ∃ r node reference uri, compile [.object [("$id", .string "a:/first"),
        ("$ref", .string "second#/definitions/none")], .object [("$id", .string "a:/second"),
        ("definitions", .object [("none", .bool false)])]] = .ok r ∧
      r.node? 0 = some node ∧ node.reference? = some reference ∧
      (∃ target, r.lookup? reference.target = some target) ∧
      Url.parse "a:/second#/definitions/none" = .ok uri ∧ r.resolve? uri = some 1 ∧
      Registry.EndsWell Options.default (r.validate Options.default .null) ∧
      Registry.EndsWell Options.default
        (r.validateUri Options.default "a:/second#/definitions/none" .null) := by
  have hchecked : (compile [.object [("$id", .string "a:/first"),
      ("$ref", .string "second#/definitions/none")], .object [("$id", .string "a:/second"),
      ("definitions", .object [("none", .bool false)])]]).toOption.map (fun r =>
        (((r.node? 0).bind Node.reference?).isSome,
          (Url.parse "a:/second#/definitions/none").toOption.map r.resolve?)) =
            some (true, some (some 1)) := by decide +kernel
  obtain ⟨r, hcompile, hr⟩ := exists_ok_of_toOption hchecked
  obtain ⟨hsome, hparsed⟩ := Prod.mk.inj hr
  obtain ⟨reference, hbind⟩ := Option.isSome_iff_exists.mp hsome
  obtain ⟨node, hnode, hreference⟩ := Option.bind_eq_some_iff.mp hbind
  obtain ⟨uri, hparse, hresolve⟩ := exists_ok_of_toOption hparsed
  obtain ⟨htargets, -, -, hfirst, haddressed⟩ :=
    compile_never_dangles hcompile Options.default .null
  exact ⟨r, node, reference, uri, hcompile, hnode, hreference,
    htargets 0 node reference hnode hreference, hparse, hresolve,
    (hfirst (List.cons_ne_nil _ _)).1, haddressed _ uri 1 hparse hresolve⟩

end SchemaRegistry

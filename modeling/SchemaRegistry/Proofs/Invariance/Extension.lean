import SchemaRegistry.Proofs.Addressing.Resolution
import SchemaRegistry.Proofs.Compile.Sealed

/-!
Stores that grow. Compilation only ever appends to a store, so the store of some documents is the
beginning of the store of these documents with others behind them. The schemas of the first store
keep their places and their locations, and a check of one of them never leaves them: everything that
could be asked of the first store has the same answer in the second.
-/

namespace SchemaRegistry

namespace Registry

/-- The schemas and the documents of the first store are the first ones of the second. -/
structure Begins (r s : Registry) : Prop where
  entries : r.entries.toList <+: s.entries.toList
  roots : r.roots <+: s.roots

end Registry

section Growth

/-- Storing a schema leaves the schemas that are stored where they are. -/
theorem keeps_begun (stored : List Entry) (entry : Entry) :
    Compile.Keeps (fun draft => stored <+: draft.entries.toList) (register entry) := by
  intro draft index after hstored hrun
  obtain ⟨-, rfl⟩ := register_ok hrun
  rw [Draft.entries_push, Array.toList_push]
  exact hstored.trans (List.prefix_append _ _)

/-- The store of some documents begins the store of these and more. -/
theorem compile_begins {documents extra : List Json} {r s : Registry}
    (hfirst : compile documents = .ok r) (hall : compile (documents ++ extra) = .ok s) :
    r.Begins s := by
  obtain ⟨roots, draft, hstored, rfl, -⟩ := compile_ok hfirst
  obtain ⟨roots', draft', hwhole, rfl, -⟩ := compile_ok hall
  unfold compileDocuments at hstored hwhole
  rw [List.mapM_append, Compile.bind_apply_eq hstored] at hwhole
  obtain ⟨others, last, hrest, hdone⟩ := Compile.bind_apply_ok hwhole
  obtain ⟨hroots, rfl⟩ := Prod.mk.inj (Except.ok.inj hdone)
  constructor
  · exact Compile.keeps_compileDocuments (keeps_begun draft.entries.toList) extra _ _ _
      List.prefix_rfl hrest
  · rw [← hroots]
    exact List.prefix_append _ _

end Growth

namespace Registry

variable {r s : Registry}

namespace Begins

variable (hbegins : r.Begins s)

include hbegins

theorem getElem?_entries {index : Nat} {entry : Entry} (hentry : r.entries[index]? = some entry) :
    s.entries[index]? = some entry := by
  obtain ⟨more, hmore⟩ := hbegins.entries
  rw [← Array.getElem?_toList] at hentry ⊢
  rw [← hmore]
  exact getElem?_append_of_some hentry more

theorem node?_eq {index : Nat} {node : Node} (hnode : r.node? index = some node) :
    s.node? index = some node := by
  unfold node? at hnode ⊢
  obtain ⟨entry, hentry, rfl⟩ := Option.map_eq_some_iff.mp hnode
  rw [hbegins.getElem?_entries hentry]
  rfl

/-- The first schema with a location stays the first one. -/
theorem lookup?_eq {uri : Url} {index : Nat} (hlookup : r.lookup? uri = some index) :
    s.lookup? uri = some index := by
  have hindex : index < r.entries.size := lookup?_lt hlookup
  rw [lookup?_eq_findLocation?] at hlookup ⊢
  obtain ⟨⟨entry, hentry, hmem⟩, hbefore⟩ := findLocation?_eq_some_iff.mp hlookup
  refine findLocation?_eq_some_iff.mpr ⟨⟨entry, hbegins.getElem?_entries hentry, hmem⟩, ?_⟩
  intro earlier hearlier other hother
  have hfound := Array.getElem?_eq_getElem (Nat.lt_trans hearlier hindex)
  obtain rfl := Option.some.inj ((hbegins.getElem?_entries hfound).symm.trans hother)
  exact hbefore earlier hearlier _ hfound

theorem resolve?_eq {uri : Url} {index : Nat} (hresolve : r.resolve? uri = some index) :
    s.resolve? uri = some index := by
  unfold resolve? at hresolve ⊢
  cases hpointer : uri.pointer with
  | error e =>
      rw [hpointer] at hresolve
      cases hresolve
  | ok pointer =>
      rw [hpointer] at hresolve
      exact hbegins.lookup?_eq hresolve

theorem landing_eq {index : Nat} (hindex : index < r.size) : s.landing index = r.landing index := by
  obtain ⟨node, hnode⟩ := exists_node_of_lt hindex
  unfold landing uriOf?
  rw [hnode, hbegins.node?_eq hnode]

section Judging

variable (hr : r.PostOrdered) (hs : s.PostOrdered) (hsealed : r.Sealed) (epsilon : Binary64)

include hr hs

/-- If references of the first store are judged alike, so are its schemas. -/
theorem judge_eq_of_follow {jumps : Nat}
    (hfollow : ∀ reference ∈ r.references, ∀ part,
      s.judgeFollow epsilon jumps reference part = r.judgeFollow epsilon jumps reference part)
    {index : Nat} (hindex : index < r.size) (value : Json) :
    s.judge epsilon jumps index value = r.judge epsilon jumps index value := by
  induction index using Nat.strong_induction_on generalizing value with
  | _ index ih =>
      obtain ⟨node, hnode⟩ := exists_node_of_lt hindex
      rw [hs.judge_eq (hbegins.node?_eq hnode), hr.judge_eq hnode]
      apply judgeAll_congr
      rintro ⟨link, part⟩ hcall
      have hlink : link ∈ node.links := Node.mem_links_of_call hcall
      cases link with
      | schema inner =>
          have hinner : inner < index := hr index node hnode inner hlink
          exact ih inner hinner (Nat.lt_trans hinner hindex) part
      | reference reference =>
          have hreference := Node.reference?_of_mem_links hlink
          exact hfollow reference (mem_references hnode hreference) part

include hsealed

/-- A reference of the first store lands on the same schema in both. -/
theorem judgeFollow_eq {jumps : Nat} {reference : Reference} (hreference : reference ∈ r.references)
    (part : Json) :
    s.judgeFollow epsilon jumps reference part = r.judgeFollow epsilon jumps reference part := by
  induction jumps generalizing reference part with
  | zero => rfl
  | succ jumps ih =>
      obtain ⟨target, htarget⟩ := hsealed reference hreference
      have hless := lookup?_lt htarget
      have hjudge := hbegins.judge_eq_of_follow hr hs epsilon (fun _ hmem part => ih hmem part)
        hless part
      rw [judgeFollow_succ, judgeFollow_succ]
      unfold judgeJump
      simp only [htarget, hbegins.lookup?_eq htarget, hjudge, hbegins.landing_eq hless]

/-- A schema of the first store is judged alike in both. -/
theorem judge_eq {jumps index : Nat} (hindex : index < r.size) (value : Json) :
    s.judge epsilon jumps index value = r.judge epsilon jumps index value :=
  hbegins.judge_eq_of_follow hr hs epsilon
    (fun _ hmem part => hbegins.judgeFollow_eq hr hs hsealed epsilon hmem part) hindex value

theorem run_eq (options : Options) (capacity : Nat) {index : Nat} (hindex : index < r.size)
    (value : Json) : s.run options capacity index value = r.run options capacity index value := by
  rw [Registry.run_eq, Registry.run_eq]
  unfold judgeFrom
  rw [hbegins.judge_eq hr hs hsealed _ hindex, hbegins.landing_eq hindex]

theorem validateAt_eq (options : Options) {index : Nat} (hindex : index < r.size) (value : Json) :
    s.validateAt options index value = r.validateAt options index value := by
  unfold validateAt
  rw [hbegins.run_eq hr hs hsealed options _ hindex]

end Judging

theorem rootIndex_eq {root : Nat} (hroot : r.rootIndex = .ok root) : s.rootIndex = .ok root := by
  obtain ⟨more, hmore⟩ := hbegins.roots
  unfold rootIndex root? at hroot ⊢
  rw [← hmore]
  cases hroots : r.roots with
  | nil =>
      rw [hroots] at hroot
      cases hroot
  | cons first rest =>
      rw [hroots] at hroot
      exact hroot

end Begins

end Registry

/-- Adding documents behind others never changes what these have given. Every schema keeps its
place, every URL that addressed a schema addresses the same one, and a validation against such a URL
or against the first document has the same result, with the same violations or the same error. -/
theorem compile_append_preserves {documents extra : List Json} {r s : Registry}
    (hfirst : compile documents = .ok r) (hall : compile (documents ++ extra) = .ok s) :
    (∀ index node, r.node? index = some node → s.node? index = some node) ∧
      (∀ uri index, r.resolve? uri = some index → s.resolve? uri = some index) ∧
      (∀ options text uri value, Url.parse text = .ok uri → (r.resolve? uri).isSome →
        s.validateUri options text value = r.validateUri options text value) ∧
      (documents ≠ [] → ∀ options value,
        s.validate options value = r.validate options value ∧
          s.isValid options value = r.isValid options value) := by
  have hbegins := compile_begins hfirst hall
  have hr := compile_postOrdered hfirst
  have hs := compile_postOrdered hall
  have hsealed := compile_sealed hfirst
  refine ⟨fun _ _ => hbegins.node?_eq, fun _ _ => hbegins.resolve?_eq, ?_, ?_⟩
  · intro options text uri value hparse hsome
    obtain ⟨index, hresolve⟩ := Option.isSome_iff_exists.mp hsome
    rw [Registry.validateUri_eq (Registry.indexOf_eq hparse (hbegins.resolve?_eq hresolve)),
      Registry.validateUri_eq (Registry.indexOf_eq hparse hresolve)]
    exact hbegins.validateAt_eq hr hs hsealed options (Registry.resolve?_lt hresolve) value
  · intro hsome options value
    obtain ⟨root, hroot⟩ := (compile_rootIndex hfirst).2 hsome
    have hless : root < r.size := by
      have hmem : root ∈ r.roots := by
        unfold Registry.rootIndex Registry.root? at hroot
        split at hroot
        · next found hfound =>
            cases hroot
            exact List.mem_of_mem_head? hfound
        · cases hroot
      exact (compile_compiledFrom hfirst).rooted root hmem
    have hroot' := hbegins.rootIndex_eq hroot
    rw [Registry.validate_eq hroot, Registry.validate_eq hroot', Registry.isValid_eq hroot,
      Registry.isValid_eq hroot', hbegins.validateAt_eq hr hs hsealed options hless,
      hbegins.run_eq hr hs hsealed options _ hless]
    exact ⟨rfl, rfl⟩

/-- A document that refers to a schema inside it. -/
def selfContainedDocument : Json :=
  .object [("$id", .string "a:/first"), ("$ref", .string "#/definitions/none"),
    ("definitions", .object [("none", .object [("type", .string "null")])])]

/-- A document that holds the other one again, with its members in another order. -/
def overlayingDocument : Json :=
  .object [("$id", .string "a:/second"), ("items", .object [("$ref", .string "#/definitions/none"),
    ("definitions", .object [("none", .object [("type", .string "null")])]),
    ("$id", .string "a:/first")])]

/-- A document that defines all schemas of an earlier one again takes nothing over from it. -/
theorem overlaid_document_preserved :
    ∃ r s uri, compile [selfContainedDocument] = .ok r ∧
      compile ([selfContainedDocument] ++ [overlayingDocument]) = .ok s ∧ s.size = 5 ∧
      Url.parse "a:/first#/definitions/none" = .ok uri ∧ r.resolve? uri = some 0 ∧
      s.resolve? uri = some 0 ∧
      s.validateUri Options.default "a:/first#/definitions/none" (.bool true) =
        r.validateUri Options.default "a:/first#/definitions/none" (.bool true) ∧
      s.isValid Options.default .null = r.isValid Options.default .null := by
  have hchecked : (compile [selfContainedDocument]).toOption.map (fun r =>
      (compile ([selfContainedDocument] ++ [overlayingDocument])).toOption.map fun s =>
        (s.size, (Url.parse "a:/first#/definitions/none").toOption.map r.resolve?)) =
          some (some (5, some (some 0))) := by decide +kernel
  obtain ⟨r, hfirst, hr⟩ := exists_ok_of_toOption hchecked
  obtain ⟨s, hall, hs⟩ := exists_ok_of_toOption hr
  obtain ⟨hsize, hparsed⟩ := Prod.mk.inj hs
  obtain ⟨uri, hparse, hresolve⟩ := exists_ok_of_toOption hparsed
  obtain ⟨-, hresolves, haddressed, hvalidates⟩ := compile_append_preserves hfirst hall
  have hsome : (r.resolve? uri).isSome := by
    rw [hresolve]
    rfl
  exact ⟨r, s, uri, hfirst, hall, hsize, hparse, hresolve, hresolves uri 0 hresolve,
    haddressed _ _ uri (.bool true) hparse hsome,
    (hvalidates (List.cons_ne_nil _ _) Options.default .null).2⟩

end SchemaRegistry

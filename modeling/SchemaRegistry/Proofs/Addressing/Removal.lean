import SchemaRegistry.Proofs.Addressing.Conflicts
import SchemaRegistry.Proofs.Addressing.Known

/-!
Removing documents from some that compile together. What is left still has no malformed keyword and
no conflict, so that it compiles unless references miss their bases; and they miss exactly those
that no document declares any more. A base that is left keeps all that was found under it, for the
schemas that open it are equal, and equal schemas hold equal schemas at the same places.
-/

namespace SchemaRegistry

/-- The bases of all references in some documents, in the order of the schemas that hold them. -/
def referencedBases (documents : List Json) : List Url :=
  ((positions documents).filterMap Position.reference?).map Reference.base

/-- One of some documents has the base, or a schema in one declares it. -/
def Declares (documents : List Json) (base : Url) : Prop :=
  ∃ p ∈ positions documents, p.opens? = some base

instance (documents : List Json) (base : Url) : Decidable (Declares documents base) :=
  inferInstanceAs (Decidable (∃ p ∈ positions documents, p.opens? = some base))

/-- The bases that references miss when some documents are kept of those that there were: the ones
that only the others declare, each once, in the order in which they are first missed. -/
def missedBases (documents kept : List Json) : List Url :=
  ((referencedBases kept).filter fun base =>
    decide (Declares documents base ∧ ¬ Declares kept base)).eraseDups

/-- The same place in a document with another number. -/
def Position.renumber (number : Nat) (p : Position) : Position := { p with document := number }

namespace Position

theorem along_renumber (number : Nat) (p : Position) (trail : Trail) :
    (p.renumber number).along trail = (p.along trail).renumber number := by
  induction trail generalizing p with
  | nil => rfl
  | cons slot rest ih => exact ih (p.inner slot.1 slot.2)

/-- A position in documents that are kept is one in all documents, under another number. -/
theorem exists_renumber_mem {documents kept : List Json} (hkept : kept ⊆ documents) {p : Position}
    (hp : p ∈ positions kept) : ∃ number, p.renumber number ∈ positions documents := by
  obtain ⟨number, raw, trail, hraw, hbelow, rfl⟩ := mem_positions_iff.mp hp
  obtain ⟨other, hother⟩ := List.mem_iff_getElem?.mp (hkept (List.mem_of_getElem? hraw))
  refine ⟨other, mem_positions_iff.mpr ⟨other, raw, trail, hother, hbelow, ?_⟩⟩
  rw [← along_renumber]
  rfl

end Position

section Shared

variable {documents : List Json} {roots : List Nat} {draft : Draft}

/-- Schemas in some of the documents are equal to those with the same location in others. -/
theorem same_of_subset (hstored : compileDocuments documents .empty = .ok (roots, draft))
    (hdistinct : ∀ raw ∈ documents, raw.keysDistinct = true) {some others : List Json}
    (hsome : some ⊆ documents) (hothers : others ⊆ documents) {p q : Position}
    (hp : p ∈ positions some) (hq : q ∈ positions others) {uri : Url}
    (hpuri : uri ∈ p.scopes.locations) (hquri : uri ∈ q.scopes.locations) :
    p.raw.same q.raw = true := by
  obtain ⟨number, hnumber⟩ := Position.exists_renumber_mem hsome hp
  obtain ⟨other, hother⟩ := Position.exists_renumber_mem hothers hq
  have hsame : (p.renumber number).raw.same (q.renumber other).raw = true :=
    same_of_shared_location hstored hdistinct hnumber hother hpuri hquri
  exact hsame

end Shared

section Kept

variable {documents kept : List Json} {r s : Registry} {roots : List Nat} {draft : Draft}

/-- Documents that are kept give no reason for an error. -/
theorem not_blames_of_subset (hstored : compileDocuments documents .empty = .ok (roots, draft))
    (hdistinct : ∀ raw ∈ documents, raw.keysDistinct = true) (hkept : kept ⊆ documents)
    (e : CompileError) : ¬ Blames (positions kept) e := by
  have hformed := compileDocuments_wellFormed hstored
  rintro (⟨p, hp, keyword, location, kind, -, hrejects⟩ |
    ⟨uri, -, before, q, after, hsplit, -, -, hquri, p, hp, hpuri, hdiffers⟩)
  · exact accepts_of_wellFormed (fun raw hraw => hformed raw (hkept hraw)) p hp keyword location
      hrejects
  · have hp' : p ∈ positions kept := by
      rw [hsplit]
      exact List.mem_append_left _ hp
    have hq' : q ∈ positions kept := by
      rw [hsplit]
      exact List.mem_append_right _ List.mem_cons_self
    have hsame := same_of_subset hstored hdistinct hkept hkept hp' hq' hpuri hquri
    exact Bool.false_ne_true (hdiffers.symm.trans hsame)

/-- Documents that are kept of some that are stored can be stored. -/
theorem exists_stored_of_subset (hstored : compileDocuments documents .empty = .ok (roots, draft))
    (hdistinct : ∀ raw ∈ documents, raw.keysDistinct = true) (hkept : kept ⊆ documents) :
    ∃ roots' draft', compileDocuments kept .empty = .ok (roots', draft') := by
  cases hrun : compileDocuments kept .empty with
  | ok out => exact ⟨out.1, out.2, rfl⟩
  | error e =>
      exact absurd (compileDocuments_blames 0 kept .empty hrun)
        (not_blames_of_subset hstored hdistinct hkept e)

variable (hcompile : compile documents = .ok r)
  (hdistinct : ∀ raw ∈ documents, raw.keysDistinct = true) (hkept : kept ⊆ documents)
  (harranged : Arranged s.entries (positions kept)) {reference : Reference}
  (hreference : reference ∈ s.references)

include hcompile hkept harranged hreference

/-- A reference in the documents that are kept is found in the store of all documents. -/
theorem found_of_subset : r.hasBase reference.base = true ∧
    (∃ index, r.lookup? reference.target = some index) ∧
      reference.target = location reference.base reference.pointer := by
  rw [harranged.references] at hreference
  obtain ⟨p, hp, hread⟩ := List.mem_filterMap.mp hreference
  obtain ⟨number, hnumber⟩ := Position.exists_renumber_mem hkept hp
  have hmem : reference ∈ r.references := by
    rw [(compile_arranged hcompile).references]
    exact List.mem_filterMap.mpr ⟨_, hnumber, hread⟩
  obtain ⟨hknown, hfound⟩ := found_of_mem_references hcompile hmem
  exact ⟨hknown, hfound, (Json.isBase_of_referred? hread).2⟩

include hdistinct

/-- The base of a reference is known to the store exactly if it is still declared. -/
theorem hasBase_iff_declares :
    s.hasBase reference.base = true ↔ Declares kept reference.base := by
  rw [harranged.hasBase_iff]
  constructor
  · rintro ⟨p, hp, -, hopens⟩
    exact ⟨p, hp, hopens⟩
  · rintro ⟨p, hp, hopens⟩
    refine ⟨p, hp, ?_, hopens⟩
    -- A boolean document with this base would clash with the object that has the base.
    obtain ⟨hknown, -⟩ := found_of_subset hcompile hkept harranged hreference
    obtain ⟨q, hq, hobject, hopens'⟩ := ((compile_arranged hcompile).hasBase_iff _).mp hknown
    obtain ⟨roots, draft, hstored, -⟩ := compile_ok hcompile
    have hsame := same_of_subset hstored hdistinct hkept (List.Subset.refl _) hp hq
      (Position.base_mem_locations hp hopens).2 (Position.base_mem_locations hq hopens').2
    cases hraw : q.raw with
    | object members =>
        rw [hraw] at hsame
        cases hraw' : p.raw with
        | object others => rfl
        | _ =>
            rw [hraw'] at hsame
            cases hsame
    | _ =>
        rw [hraw] at hobject
        cases hobject

/-- Where a base is still declared, all targets under it are still found. -/
theorem exists_lookup_of_declares (hdeclares : Declares kept reference.base) :
    ∃ index, s.lookup? reference.target = some index := by
  obtain ⟨-, hfound, htarget⟩ := found_of_subset hcompile hkept harranged hreference
  obtain ⟨p, hp, hmem⟩ := ((compile_arranged hcompile).lookup?_isSome_iff _).mp hfound
  obtain ⟨q, hq, hopens⟩ := hdeclares
  obtain ⟨hbase, hlocation⟩ := Position.base_mem_locations hq hopens
  -- The target lies below a schema that opens the base.
  obtain ⟨index, hindex⟩ := List.mem_iff_getElem?.mp hp
  rw [htarget, mem_locations_iff hindex, hbase.bare_location] at hmem
  obtain ⟨opener, hopener, hopens', trail, hbelow, -, hpointer⟩ := Position.exists_opener hp hmem
  obtain ⟨roots, draft, hstored, -⟩ := compile_ok hcompile
  have hsame := same_of_subset hstored hdistinct (List.Subset.refl _) hkept hopener
    hq (Position.base_mem_locations hopener hopens').2 hlocation
  -- The schema that opens the base now is equal to it and holds an equal one at the same place.
  obtain ⟨mirrored, hmirrored, hpath⟩ := Trail.exists_mirrored hsame hbelow
  refine (harranged.lookup?_isSome_iff _).mpr
    ⟨q.along mirrored, Position.along_mem hq hmirrored, ?_⟩
  have hscope := Position.mem_scopes_along hq hopens hmirrored
  rw [hpath] at hscope
  rw [htarget, show reference.pointer = ⟨trail.path⟩ from hpointer]
  exact List.mem_map.mpr ⟨_, hscope, rfl⟩

theorem missing?_eq_of_subset : s.missing? reference =
    if Declares kept reference.base then none else some reference.base := by
  have hiff := hasBase_iff_declares hcompile hdistinct hkept harranged hreference
  unfold Registry.missing?
  by_cases hdeclares : Declares kept reference.base
  · obtain ⟨index, hlookup⟩ :=
      exists_lookup_of_declares hcompile hdistinct hkept harranged hreference hdeclares
    rw [hiff.mpr hdeclares, hlookup, if_pos hdeclares]
    rfl
  · rw [Bool.eq_false_iff.mpr fun hknown => hdeclares (hiff.mp hknown), if_neg hdeclares]
    rfl

end Kept

/-- Collecting elements without repetition leaves the first occurrence of each. -/
theorem foldl_collect_eq {α : Type} [DecidableEq α] (items found : List α) :
    items.foldl (fun found item => if found.contains item then found else found ++ [item]) found =
      found ++ (items.filter fun item => !found.contains item).eraseDups := by
  induction items generalizing found with
  | nil => simp
  | cons item rest ih =>
      rw [List.foldl_cons, List.filter_cons]
      by_cases hcontains : found.contains item = true
      · rw [if_pos hcontains, ih, if_neg (by rw [hcontains]; exact Bool.false_ne_true)]
      · have hfresh : (!found.contains item) = true := by simpa using hcontains
        have hfilter : (rest.filter fun other => !(found ++ [item]).contains other) =
            (rest.filter fun other => !found.contains other).filter
              fun other => !other == item := by
          rw [List.filter_filter]
          refine List.filter_congr fun other _ => ?_
          by_cases heq : other = item <;> simp [heq]
        rw [if_neg hcontains, ih, if_pos hfresh, List.eraseDups_cons, hfilter, List.append_assoc,
          List.singleton_append]

section Removal

variable {documents kept : List Json} {r s : Registry}

/-- What the documents that are kept miss. -/
theorem unresolved_of_subset (hcompile : compile documents = .ok r)
    (hdistinct : ∀ raw ∈ documents, raw.keysDistinct = true) (hkept : kept ⊆ documents)
    (harranged : Arranged s.entries (positions kept)) :
    s.unresolved = missedBases documents kept := by
  have hmissing : s.references.filterMap s.missing? =
      (s.references.map Reference.base).filter fun base =>
        decide (Declares documents base ∧ ¬ Declares kept base) := by
    rw [List.filter_map, ← List.filterMap_eq_map, List.filterMap_filter]
    refine List.filterMap_congr fun reference hreference => ?_
    obtain ⟨hknown, -⟩ := found_of_subset hcompile hkept harranged hreference
    have hdeclared : Declares documents reference.base := by
      obtain ⟨p, hp, -, hopens⟩ := ((compile_arranged hcompile).hasBase_iff _).mp hknown
      exact ⟨p, hp, hopens⟩
    rw [missing?_eq_of_subset hcompile hdistinct hkept harranged hreference]
    by_cases hdeclares : Declares kept reference.base
    · simp [hdeclares]
    · simp [hdeclares, hdeclared]
  unfold Registry.unresolved missedBases referencedBases
  rw [foldl_collect_eq, hmissing, harranged.references]
  simp

/-- Nothing is missed if the base of each reference is still declared. -/
theorem missedBases_eq_nil_iff (hcompile : compile documents = .ok r) (hkept : kept ⊆ documents)
    (harranged : Arranged s.entries (positions kept)) :
    missedBases documents kept = [] ↔ ∀ base ∈ referencedBases kept, Declares kept base := by
  have hdeclared : ∀ base ∈ referencedBases kept, Declares documents base := by
    intro base hbase
    unfold referencedBases at hbase
    rw [← harranged.references] at hbase
    obtain ⟨reference, hreference, rfl⟩ := List.mem_map.mp hbase
    obtain ⟨hknown, -⟩ := found_of_subset hcompile hkept harranged hreference
    obtain ⟨p, hp, -, hopens⟩ := ((compile_arranged hcompile).hasBase_iff _).mp hknown
    exact ⟨p, hp, hopens⟩
  rw [List.eq_nil_iff_forall_not_mem]
  unfold missedBases
  simp only [List.mem_eraseDups, List.mem_filter, decide_eq_true_eq, not_and, not_not]
  constructor
  · exact fun hnone base hbase => hnone base hbase (hdeclared base hbase)
  · exact fun hall base hbase _ => hall base hbase

/-- The result for documents that are kept: a store, unless bases are missed. -/
theorem compile_eq_of_subset (hcompile : compile documents = .ok r)
    (hdistinct : ∀ raw ∈ documents, raw.keysDistinct = true) (hkept : kept ⊆ documents) :
    ∃ rest : Registry, Arranged rest.entries (positions kept) ∧
      compile kept = if missedBases documents kept = [] then .ok rest
        else .error (.unresolvedReferences (missedBases documents kept)) := by
  obtain ⟨roots', draft', hstored', -⟩ := compile_ok hcompile
  obtain ⟨roots, draft, hstored⟩ := exists_stored_of_subset hstored' hdistinct hkept
  have harranged := (compileDocuments_arranges 0 kept .empty hstored).1
  have hunresolved : Registry.unresolved ⟨draft.toStore, roots⟩ = missedBases documents kept :=
    unresolved_of_subset hcompile hdistinct hkept harranged
  refine ⟨⟨draft.toStore, roots⟩, harranged, ?_⟩
  rw [compile_of_stored hstored, hunresolved]

/-- Removing documents dangles exactly what they declared. The documents that are kept compile
exactly if the base of each reference is still declared. Otherwise these bases are missed which only
removed documents declared, each once and in the order in which it is first missed; no other error
occurs. That no object of a document has a key twice is so of every parsed JSON value; it makes
equal values have equal members. -/
theorem compile_of_sublist (hcompile : compile documents = .ok r)
    (hdistinct : ∀ raw ∈ documents, raw.keysDistinct = true) (hkept : kept.Sublist documents) :
    (∀ e, compile kept = .error e → ∃ uris, e = .unresolvedReferences uris) ∧
      ((∃ rest, compile kept = .ok rest) ↔ ∀ base ∈ referencedBases kept, Declares kept base) ∧
      ((∃ base ∈ referencedBases kept, ¬ Declares kept base) →
        compile kept = .error (.unresolvedReferences (missedBases documents kept))) := by
  obtain ⟨rest, harranged, hresult⟩ := compile_eq_of_subset hcompile hdistinct hkept.subset
  have hnone := missedBases_eq_nil_iff hcompile hkept.subset harranged
  by_cases hmissed : missedBases documents kept = []
  · rw [if_pos hmissed] at hresult
    have hall := hnone.mp hmissed
    refine ⟨fun e herror => ?_, ⟨fun _ => hall, fun _ => ⟨rest, hresult⟩⟩, ?_⟩
    · rw [hresult] at herror
      cases herror
    · rintro ⟨base, hbase, hundeclared⟩
      exact absurd (hall base hbase) hundeclared
  · rw [if_neg hmissed] at hresult
    refine ⟨fun e herror => ?_, ⟨?_, fun hall => absurd (hnone.mpr hall) hmissed⟩, fun _ => hresult⟩
    · rw [hresult] at herror
      cases herror
      exact ⟨_, rfl⟩
    · rintro ⟨other, hother⟩
      rw [hresult] at hother
      cases hother

end Removal

/-- A document that refers to another one and, twice, into a scope inside it. -/
def referringDocument : Json :=
  .object [("$id", .string "a:/first"), ("allOf", .array [
    .object [("$ref", .string "inner#/items")], .object [("$ref", .string "second")],
    .object [("$ref", .string "inner")]])]

/-- A document with a scope inside. -/
def referredDocument : Json :=
  .object [("$id", .string "a:/second"), ("definitions", .object [("inner",
    .object [("$id", .string "inner"), ("items", .bool true)])])]

/-- Without the document that it refers to, a document misses the two bases that were declared
there. -/
theorem removed_document_missed :
    ∃ r inner second, compile [referringDocument, referredDocument] = .ok r ∧
      Url.parse "a:/inner" = .ok inner ∧ Url.parse "a:/second" = .ok second ∧
      missedBases [referringDocument, referredDocument] [referringDocument] = [inner, second] ∧
      compile [referringDocument] = .error (.unresolvedReferences
        (missedBases [referringDocument, referredDocument] [referringDocument])) := by
  have hchecked : (compile [referringDocument, referredDocument]).toOption.map (fun _ =>
      (Url.parse "a:/inner").toOption.map fun inner => (Url.parse "a:/second").toOption.map
        fun second => decide (unresolvedOf (compile [referringDocument]) = some [inner, second])) =
          some (some (some true)) := by decide +kernel
  obtain ⟨r, hcompile, hr⟩ := exists_ok_of_toOption hchecked
  obtain ⟨inner, hinner, hrest⟩ := exists_ok_of_toOption hr
  obtain ⟨second, hsecond, hmissed⟩ := exists_ok_of_toOption hrest
  have herror := eq_error_of_unresolvedOf (of_decide_eq_true hmissed)
  have hkept : [referringDocument].Sublist [referringDocument, referredDocument] :=
    List.sublist_append_left [referringDocument] [referredDocument]
  obtain ⟨-, hcompiles, hmisses⟩ := compile_of_sublist hcompile (by decide) hkept
  have hundeclared : ∃ base ∈ referencedBases [referringDocument],
      ¬ Declares [referringDocument] base := by
    by_contra hnone
    obtain ⟨rest, hrest⟩ := hcompiles.mpr fun base hbase =>
      by_contra fun hbase' => hnone ⟨base, hbase, hbase'⟩
    rw [herror] at hrest
    cases hrest
  have hlist := hmisses hundeclared
  have heq := Except.error.inj (herror.symm.trans hlist)
  exact ⟨r, inner, second, hcompile, hinner, hsecond,
    (CompileError.unresolvedReferences.inj heq).symm, hlist⟩

end SchemaRegistry

import SchemaRegistry.Proofs.Invariance.Bisimulation
import SchemaRegistry.Proofs.Invariance.Content

/-!
The order of the documents. A store keeps the first of several schemas with one location, so another
order of the documents can put another schema behind a reference. But it is an equal one, inside
which the same base is in force. So to hold such schemas is a bisimulation of the two stores, and
the order makes no difference that validation shows.
-/

namespace SchemaRegistry

section Permuted

variable {documents permuted : List Json} (hperm : documents.Perm permuted)

/-- What does not depend on the number of the document is so of the same positions in any order. -/
theorem exists_position_iff (hperm : documents.Perm permuted) {P : Position → Prop}
    (hnumber : ∀ number p, P p → P (p.renumber number)) :
    (∃ p ∈ positions documents, P p) ↔ ∃ p ∈ positions permuted, P p := by
  constructor
  · rintro ⟨p, hp, hholds⟩
    obtain ⟨number, hmem⟩ := Position.exists_renumber_mem hperm.subset hp
    exact ⟨_, hmem, hnumber number p hholds⟩
  · rintro ⟨p, hp, hholds⟩
    obtain ⟨number, hmem⟩ := Position.exists_renumber_mem hperm.symm.subset hp
    exact ⟨_, hmem, hnumber number p hholds⟩

section Stores

variable {r s : Registry} (hr : Arranged r.entries (positions documents))
  (hs : Arranged s.entries (positions permuted))

include hperm hr hs

theorem mem_references_iff_of_perm (reference : Reference) :
    reference ∈ r.references ↔ reference ∈ s.references := by
  rw [hr.references, hs.references, List.mem_filterMap, List.mem_filterMap]
  exact exists_position_iff hperm fun _ _ hread => hread

theorem hasBase_eq_of_perm (base : Url) : r.hasBase base = s.hasBase base := by
  rw [Bool.eq_iff_iff, hr.hasBase_iff, hs.hasBase_iff]
  exact exists_position_iff hperm fun _ _ hopens => hopens

theorem isSome_lookup?_of_perm (uri : Url) : (r.lookup? uri).isSome = (s.lookup? uri).isSome := by
  rw [Bool.eq_iff_iff, Option.isSome_iff_exists, Option.isSome_iff_exists, hr.lookup?_isSome_iff,
    hs.lookup?_isSome_iff]
  exact exists_position_iff hperm fun _ _ hmem => hmem

theorem missing?_eq_of_perm (reference : Reference) :
    r.missing? reference = s.missing? reference := by
  unfold Registry.missing?
  rw [hasBase_eq_of_perm hperm hr hs, ← Option.not_isSome, ← Option.not_isSome,
    isSome_lookup?_of_perm hperm hr hs]

/-- In any order the references miss the same. -/
theorem mem_unresolved_iff_of_perm (uri : Url) : uri ∈ r.unresolved ↔ uri ∈ s.unresolved := by
  rw [Registry.mem_unresolved, Registry.mem_unresolved]
  refine exists_congr fun reference => ?_
  rw [mem_references_iff_of_perm hperm hr hs, missing?_eq_of_perm hperm hr hs]

end Stores

/-- In any order the documents are stored, unless something other than a reference is wrong with
them, and miss the same. -/
theorem exists_stored_of_perm (hperm : documents.Perm permuted) {roots : List Nat}
    {draft : Draft} (hstored : compileDocuments documents .empty = .ok (roots, draft))
    (hdistinct : ∀ raw ∈ documents, raw.keysDistinct = true) :
    ∃ roots' draft', compileDocuments permuted .empty = .ok (roots', draft') ∧
      ∀ uri, uri ∈ Registry.unresolved ⟨draft.toStore, roots⟩ ↔
        uri ∈ Registry.unresolved ⟨draft'.toStore, roots'⟩ := by
  obtain ⟨roots', draft', hstored'⟩ :=
    exists_stored_of_subset hstored hdistinct hperm.symm.subset
  refine ⟨roots', draft', hstored', mem_unresolved_iff_of_perm hperm ?_ ?_⟩
  · exact (compileDocuments_arranges 0 documents .empty hstored).1
  · exact (compileDocuments_arranges 0 permuted .empty hstored').1

/-- In any order the documents compile, if they do in one. -/
theorem exists_compiled_of_perm (hperm : documents.Perm permuted) {r : Registry}
    (hcompile : compile documents = .ok r)
    (hdistinct : ∀ raw ∈ documents, raw.keysDistinct = true) : ∃ s, compile permuted = .ok s := by
  obtain ⟨roots, draft, hstored, rfl, hnone⟩ := compile_ok hcompile
  obtain ⟨roots', draft', hstored', hunresolved⟩ := exists_stored_of_perm hperm hstored hdistinct
  have hnone' : Registry.unresolved ⟨draft'.toStore, roots'⟩ = [] := by
    refine List.eq_nil_iff_forall_not_mem.mpr fun uri huri => ?_
    have hmem := (hunresolved uri).mpr huri
    rw [hnone] at hmem
    exact List.not_mem_nil hmem
  exact ⟨_, (compile_of_stored hstored').trans (if_pos hnone')⟩

/-- In any order the documents miss the same, if that is all that is wrong with them. -/
theorem unresolved_of_perm (hperm : documents.Perm permuted) {uris : List Url}
    (herror : compile documents = .error (.unresolvedReferences uris))
    (hdistinct : ∀ raw ∈ documents, raw.keysDistinct = true) :
    ∃ others, compile permuted = .error (.unresolvedReferences others) ∧
      ∀ uri, uri ∈ uris ↔ uri ∈ others := by
  obtain ⟨roots, draft, hstored, -, rfl⟩ := exists_stored_of_unresolved herror
  have hsome : Registry.unresolved ⟨draft.toStore, roots⟩ ≠ [] := by
    intro hnone
    rw [compile_of_stored hstored, if_pos hnone] at herror
    cases herror
  obtain ⟨uri, huri⟩ := List.exists_mem_of_ne_nil _ hsome
  obtain ⟨roots', draft', hstored', hunresolved⟩ := exists_stored_of_perm hperm hstored hdistinct
  have hsome' : Registry.unresolved ⟨draft'.toStore, roots'⟩ ≠ [] :=
    List.ne_nil_of_mem ((hunresolved uri).mp huri)
  exact ⟨_, (compile_of_stored hstored').trans (if_neg hsome'), hunresolved⟩

end Permuted

section Bisimilar

variable {documents permuted : List Json} {r s : Registry}
  (hr : compile documents = .ok r) (hs : compile permuted = .ok s)
  (hperm : documents.Perm permuted) (hproper : ∀ raw ∈ documents, raw.Proper)

include hr hs hperm hproper

/-- What a URL stands for is alike in both stores. -/
theorem rel_lookup?_of_perm (uri : Url) :
    Option.Rel (AlikePlaces (positions documents) (positions permuted)) (r.lookup? uri)
      (s.lookup? uri) := by
  have harranged := compile_arranged hr
  have harranged' := compile_arranged hs
  refine rel_of_isSome_eq (isSome_lookup?_of_perm hperm harranged harranged' uri) ?_
  intro i j hfirst hsecond
  obtain ⟨p, hp, hpuri⟩ := harranged.exists_place_of_lookup? hfirst
  obtain ⟨q, hq, hquri⟩ := harranged'.exists_place_of_lookup? hsecond
  obtain ⟨roots, draft, hstored, -⟩ := compile_ok hr
  have halike : p.Alike q := alike_of_shared hstored hproper (List.Subset.refl _)
    hperm.symm.subset (List.mem_of_getElem? hp) (List.mem_of_getElem? hq) hpuri hquri
  exact ⟨p, q, hp, hq, halike⟩

theorem rel_resolve?_of_perm (uri : Url) :
    Option.Rel (AlikePlaces (positions documents) (positions permuted)) (r.resolve? uri)
      (s.resolve? uri) := by
  unfold Registry.resolve?
  cases uri.pointer with
  | error e => exact .none
  | ok pointer => exact rel_lookup?_of_perm hr hs hperm hproper _

/-- The stores of the documents in two orders mean the same. -/
theorem bisimulation_of_perm :
    Bisimulation r s (AlikePlaces (positions documents) (positions permuted)) where
  nodes := by
    rintro i j ⟨p, q, hp, hq, halike⟩
    obtain ⟨entry, hentry, hcompiled⟩ := (compile_arranged hr).exists_entry_at hp
    obtain ⟨other, hother, hcompiled'⟩ := (compile_arranged hs).exists_entry_at hq
    have hreference : entry.node.reference? = other.node.reference? := by
      rw [(hcompiled.made.reads (List.mem_of_getElem? hp)).1,
        (hcompiled'.made.reads (List.mem_of_getElem? hq)).1]
      unfold Position.reference?
      rw [halike.base, halike.raw.referred?_eq]
    unfold Registry.node?
    rw [hentry, hother]
    exact .some (hcompiled.alike hcompiled' halike hreference)
  targets i j _ node reference _ _ := rel_lookup?_of_perm hr hs hperm hproper reference.target

/-- A URL that both stores resolve has the same verdict in both, or too few jumps in both. -/
theorem validateUri_isValid_of_perm {text : String} {uri : Url} (hparse : Url.parse text = .ok uri)
    (hresolve : (r.resolve? uri).isSome) {options : Options} (hroom : 0 < options.maxErrors)
    {value : Json} (hvalue : value.Proper) :
    Registry.EndsWell options (r.validateUri options text value) ∧
      (r.validateUri options text value).map Outcome.isValid =
        (s.validateUri options text value).map Outcome.isValid := by
  have hsealed := compile_sealed hr
  have hrelated := rel_resolve?_of_perm hr hs hperm hproper uri
  obtain ⟨i, hfirst⟩ := Option.isSome_iff_exists.mp hresolve
  rw [hfirst] at hrelated
  obtain ⟨j, hsecond, hplaces⟩ := exists_of_rel_some hrelated
  rw [Registry.validateUri_eq (Registry.indexOf_eq hparse hfirst),
    Registry.validateUri_eq (Registry.indexOf_eq hparse hsecond)]
  refine ⟨hsealed.validateAt_endsWell options i value, ?_⟩
  rw [hsealed.validateAt_isValid_eq hroom, (compile_sealed hs).validateAt_isValid_eq hroom,
    (bisimulation_of_perm hr hs hperm hproper).verdict_eq (compile_postOrdered hr)
      (compile_postOrdered hs) _ _ hplaces (.refl hvalue)]

end Bisimilar

/-- The order of the documents makes no difference. In any order they compile or do not, and miss
the same if that is what ends the compilation. Where they compile, the same URLs are resolved, and a
validation against one of them accepts the value in both stores, rejects it in both, or has too few
jumps in both. Documents and values are taken as they are read from texts. -/
theorem compile_order_irrelevant {documents permuted : List Json}
    (hperm : documents.Perm permuted) (hproper : ∀ raw ∈ documents, raw.Proper) :
    ((∃ r, compile documents = .ok r) ↔ ∃ s, compile permuted = .ok s) ∧
      (∀ uris, compile documents = .error (.unresolvedReferences uris) →
        ∃ others, compile permuted = .error (.unresolvedReferences others) ∧
          ∀ uri, uri ∈ uris ↔ uri ∈ others) ∧
      ∀ r s, compile documents = .ok r → compile permuted = .ok s →
        (∀ uri, (r.resolve? uri).isSome = (s.resolve? uri).isSome) ∧
          ∀ options text uri value, Url.parse text = .ok uri → (r.resolve? uri).isSome →
            0 < options.maxErrors → value.Proper →
              Registry.EndsWell options (r.validateUri options text value) ∧
                (r.validateUri options text value).map Outcome.isValid =
                  (s.validateUri options text value).map Outcome.isValid := by
  have hdistinct : ∀ raw ∈ documents, raw.keysDistinct = true := fun raw hraw =>
    (hproper raw hraw).keys
  have hdistinct' : ∀ raw ∈ permuted, raw.keysDistinct = true := fun raw hraw =>
    hdistinct raw (hperm.symm.subset hraw)
  refine ⟨⟨?_, ?_⟩, fun uris herror => unresolved_of_perm hperm herror hdistinct, ?_⟩
  · rintro ⟨r, hr⟩
    exact exists_compiled_of_perm hperm hr hdistinct
  · rintro ⟨s, hs⟩
    exact exists_compiled_of_perm hperm.symm hs hdistinct'
  · intro r s hr hs
    refine ⟨fun uri => isSome_eq_of_rel (rel_resolve?_of_perm hr hs hperm hproper uri), ?_⟩
    intro options text uri value hparse hresolve hroom hvalue
    exact validateUri_isValid_of_perm hr hs hperm hproper hparse hresolve hroom hvalue

/-- A document with a bound on its items. -/
def boundingDocument : Json :=
  .object [("$id", .string "a:/shared"), ("items", .object [("type", .string "number"),
    ("minimum", .number (.integer 1))])]

/-- A document that holds the other one again, with its members in another order and its bound as a
fraction, and refers to it. -/
def reboundingDocument : Json :=
  .object [("$id", .string "a:/outer"), ("$ref", .string "shared#/items"),
    ("definitions", .object [("again", .object [("items", .object [
      ("minimum", .number (.double ⟨false, 2 ^ 52, -52⟩)), ("type", .string "number")]),
      ("$id", .string "a:/shared")])])]

/-- A reference leads to the one definition or to the other, as the documents are ordered, and
rejects the same number. -/
theorem swapped_definitions_agree :
    ∃ r s uri, compile [boundingDocument, reboundingDocument] = .ok r ∧
      compile [reboundingDocument, boundingDocument] = .ok s ∧
      Url.parse "a:/outer" = .ok uri ∧ r.resolve? uri = some 4 ∧ s.resolve? uri = some 2 ∧
      (r.validateUri Options.default "a:/outer" (.number (.integer 0))).map Outcome.isValid =
        .ok false ∧
      (s.validateUri Options.default "a:/outer" (.number (.integer 0))).map Outcome.isValid =
        .ok false := by
  have hchecked : (compile [boundingDocument, reboundingDocument]).toOption.map (fun r =>
      (compile [reboundingDocument, boundingDocument]).toOption.map fun s =>
        ((Url.parse "a:/outer").toOption.map fun uri => (r.resolve? uri, s.resolve? uri),
          ((r.validateUri Options.default "a:/outer" (.number (.integer 0))).map
            Outcome.isValid).toOption)) =
          some (some (some (some 4, some 2), some false)) := by decide +kernel
  obtain ⟨r, hr, hrest⟩ := exists_ok_of_toOption hchecked
  obtain ⟨s, hs, hrest⟩ := exists_ok_of_toOption hrest
  obtain ⟨hparsed, hverdict⟩ := Prod.mk.inj hrest
  obtain ⟨uri, hparse, hresolved⟩ := exists_ok_of_toOption hparsed
  obtain ⟨hresolve, hresolve'⟩ := Prod.mk.inj hresolved
  have hvalid : (r.validateUri Options.default "a:/outer" (.number (.integer 0))).map
      Outcome.isValid = .ok false := by
    generalize (r.validateUri _ _ _).map Outcome.isValid = result at hverdict
    cases result <;> cases hverdict
    rfl
  have hproper : ∀ raw ∈ [boundingDocument, reboundingDocument], raw.Proper := by decide +kernel
  have hsome : (r.resolve? uri).isSome := by
    rw [hresolve]
    rfl
  obtain ⟨-, -, hstores⟩ := compile_order_irrelevant (List.Perm.swap _ _ []) hproper
  obtain ⟨-, hverdicts⟩ := hstores r s hr hs
  obtain ⟨-, hagree⟩ := hverdicts Options.default "a:/outer" uri (.number (.integer 0)) hparse hsome
    (by decide) (by decide +kernel)
  exact ⟨r, s, uri, hr, hs, hparse, hresolve, hresolve', hvalid, hagree.symm.trans hvalid⟩

end SchemaRegistry

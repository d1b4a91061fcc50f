import SchemaRegistry.Proofs.Acceptance.Rejection
import SchemaRegistry.Proofs.Addressing.Resources

/-!
Whether the document of a schema that can be addressed is known. It is, unless the schema is a whole
document that is just `true` or `false`: such a document has a location, but a reference to it
counts as one to an unknown document.
-/

namespace SchemaRegistry

section Arranged

variable {documents : List Json} {r : Registry} {places : List Position}

/-- What a URL stands for has it as a location. -/
theorem Arranged.exists_place_of_lookup? (harranged : Arranged r.entries places) {uri : Url}
    {index : Nat} (hlookup : r.lookup? uri = some index) :
    ∃ p, places[index]? = some p ∧ uri ∈ p.scopes.locations := by
  rw [r.lookup?_eq_findLocation?] at hlookup
  obtain ⟨⟨entry, hentry, hmem⟩, -⟩ := findLocation?_eq_some_iff.mp hlookup
  obtain ⟨p, hp⟩ := harranged.exists_position hentry
  rw [(harranged.compiled index entry p hentry hp).locations] at hmem
  exact ⟨p, hp, hmem⟩

/-- A URL is found exactly if it is a location of one of the schemas. -/
theorem Arranged.lookup?_isSome_iff (harranged : Arranged r.entries places) (uri : Url) :
    (∃ index, r.lookup? uri = some index) ↔ ∃ p ∈ places, uri ∈ p.scopes.locations := by
  constructor
  · rintro ⟨index, hlookup⟩
    obtain ⟨p, hp, hmem⟩ := harranged.exists_place_of_lookup? hlookup
    exact ⟨p, List.mem_of_getElem? hp, hmem⟩
  · rintro ⟨p, hp, hmem⟩
    obtain ⟨index, entry, -, hentry, hcompiled⟩ := harranged.exists_entry hp
    rw [← hcompiled.locations] at hmem
    cases hlookup : r.lookup? uri with
    | some found => exact ⟨found, rfl⟩
    | none =>
        rw [r.lookup?_eq_findLocation?] at hlookup
        have hnone := Array.findIdx?_eq_none_iff.mp hlookup entry (Array.mem_of_getElem? hentry)
        rw [List.contains_iff_mem.mpr hmem] at hnone
        cases hnone

/-- All schemas that are stored are objects or booleans. -/
theorem Arranged.isSchema (harranged : Arranged r.entries places) :
    ∀ p ∈ places, p.raw.isSchema = true := by
  intro p hp
  obtain ⟨index, entry, -, -, hcompiled⟩ := harranged.exists_entry hp
  obtain ⟨levels, before, after, hrun, -⟩ := hcompiled.made
  exact (compileSchema_wellFormed hrun).isSchema

/-- A known base is found as a location. -/
theorem Arranged.exists_lookup (harranged : Arranged r.entries (positions documents)) {base : Url}
    (hknown : r.hasBase base = true) : base.IsBase ∧ ∃ index, r.lookup? base = some index := by
  obtain ⟨p, hp, -, hopens⟩ := (harranged.hasBase_iff base).mp hknown
  obtain ⟨hbase, hmem⟩ := Position.base_mem_locations hp hopens
  exact ⟨hbase, (harranged.lookup?_isSome_iff base).mpr ⟨p, hp, hmem⟩⟩

end Arranged

/-- The schema at an index is a document that is just `true` or `false`. -/
def IsConstantDocument (documents : List Json) (index : Nat) : Prop :=
  ∃ number accepts, documents[number]? = some (.bool accepts) ∧
    (positions documents)[index]? = some (.root number (.bool accepts))

section Known

variable {documents : List Json} {r : Registry}

/-- A schema that opens a scope but is no object is a document. -/
theorem Position.root_of_opens {p : Position} (hp : p ∈ positions documents) {base : Url}
    (hopens : p.opens? = some base) {accepts : Bool} (hraw : p.raw = .bool accepts) :
    ∃ number, documents[number]? = some (.bool accepts) ∧ p = .root number (.bool accepts) := by
  rcases root_or_inner hp with ⟨number, raw, hnumber, rfl⟩ | ⟨q, -, slot, hslot, rfl⟩
  · obtain rfl : raw = .bool accepts := hraw
    exact ⟨number, hnumber, rfl⟩
  · unfold opens? at hopens
    rw [if_neg (q.path_inner_ne_nil hslot), hraw] at hopens
    cases hopens

/-- A URL whose fragment can be removed to give the base of a scope loses nothing else. -/
theorem withoutFragment_eq_of_isBase {uri : Url} {pointer : JsonPointer}
    (hbase : (location uri pointer).bare.IsBase) :
    uri.withoutFragment = (location uri pointer).bare := by
  rw [bare_location] at hbase ⊢
  split
  · rfl
  · next hpointer =>
      rw [if_neg hpointer] at hbase
      rw [← uri.withoutFragment_bare]
      exact hbase

/-- The base of an open scope is known, unless the schema is a document without keywords. -/
theorem hasBase_or_constant (harranged : Arranged r.entries (positions documents)) {index : Nat}
    {p : Position} (hp : (positions documents)[index]? = some p) {s : Scope}
    (hs : s ∈ p.scopes.toList) :
    r.hasBase s.base = true ∨ IsConstantDocument documents index := by
  obtain ⟨q, hq, hopens, trail, hbelow, rfl, -⟩ :=
    Position.exists_opener (List.mem_of_getElem? hp) hs
  have hschema := harranged.isSchema q hq
  cases hraw : q.raw with
  | object members =>
      have hobject : q.raw.isObject = true := by
        rw [hraw]
        rfl
      exact Or.inl ((harranged.hasBase_iff s.base).mpr ⟨q, hq, hobject, hopens⟩)
  | bool accepts =>
      obtain ⟨number, hnumber, rfl⟩ := Position.root_of_opens hq hopens hraw
      cases trail with
      | nil => exact Or.inr ⟨number, accepts, hnumber, hp⟩
      | cons slot rest => exact absurd hbelow.1 List.not_mem_nil
  | _ =>
      rw [hraw] at hschema
      cases hschema

/-- No object opens the base of a document without keywords: it would lie where the document lies,
and differ from it. -/
theorem not_hasBase_of_constant (hcompile : compile documents = .ok r) {s : Scope} {index : Nat}
    (hfirst : FirstAt documents s index) (hconstant : IsConstantDocument documents index) :
    r.hasBase s.base = false := by
  obtain ⟨number, accepts, -, hp⟩ := hconstant
  obtain ⟨p, hp', hs⟩ := liesAt_iff.mp hfirst.1
  obtain rfl := Option.some.inj (hp.symm.trans hp')
  rw [Position.scopes_root] at hs
  have hroot : s = ⟨s.base, .root⟩ := by
    rw [List.mem_singleton.mp hs]
  refine Bool.eq_false_iff.mpr fun hknown => ?_
  obtain ⟨q, hq, hobject, hopens⟩ := ((compile_arranged hcompile).hasBase_iff s.base).mp hknown
  obtain ⟨other, hother⟩ := List.mem_iff_getElem?.mp hq
  have hscope := (Position.mem_scopes_root_iff hq s.base).mpr hopens
  rw [← hroot] at hscope
  have hne : index ≠ other := by
    rintro rfl
    obtain rfl := Option.some.inj (hp.symm.trans hother)
    cases hobject
  have hsame := same_of_firstAt hcompile hfirst (liesAt_iff.mpr ⟨q, hother, hscope⟩) hne hp hother
  cases hraw : q.raw with
  | object members =>
      rw [hraw] at hsame
      cases hsame
  | _ =>
      rw [hraw] at hobject
      cases hobject

theorem containsResource_iff (hcompile : compile documents = .ok r) {uri : Url} {index : Nat}
    (hresolve : r.resolve? uri = some index) :
    r.containsResource uri = true ↔ ¬ IsConstantDocument documents index := by
  obtain ⟨pointer, -, hfirst⟩ := (resolve?_iff hcompile uri index).mp hresolve
  obtain ⟨p, hp, hplace⟩ := liesAt_iff.mp hfirst.1
  unfold Registry.containsResource
  rw [withoutFragment_eq_of_isBase (isBase_of_mem_scopes hp hplace)]
  constructor
  · intro hknown hconstant
    exact Bool.false_ne_true ((not_hasBase_of_constant hcompile hfirst hconstant).symm.trans hknown)
  · exact (hasBase_or_constant (compile_arranged hcompile) hp hplace).resolve_right

/-- A known document is not missed when more documents are added. -/
theorem not_mem_unresolved_of_containsResource (hcompile : compile documents = .ok r)
    {more : List Json} {uris : List Url} {uri : Url} (hknown : r.containsResource uri = true)
    (herror : compile (documents ++ more) = .error (.unresolvedReferences uris)) :
    uri.withoutFragment ∉ uris := by
  obtain ⟨roots, draft, -, harranged, rfl⟩ := exists_stored_of_unresolved herror
  intro hmem
  obtain ⟨reference, -, hmissing⟩ := (Registry.mem_unresolved _).mp hmem
  have hstill : Registry.hasBase ⟨draft.toStore, roots⟩ uri.withoutFragment = true := by
    obtain ⟨p, hp, hopens⟩ := ((compile_arranged hcompile).hasBase_iff _).mp hknown
    refine (Arranged.hasBase_iff (r := ⟨draft.toStore, roots⟩) harranged _).mpr ⟨p, ?_, hopens⟩
    unfold positions
    rw [positionsFrom_append]
    exact List.mem_append_left _ hp
  obtain ⟨-, index, hlookup⟩ :=
    Arranged.exists_lookup (r := ⟨draft.toStore, roots⟩) harranged hstill
  rcases Registry.not_found_of_missing hmissing with hunknown | hnone
  · exact Bool.false_ne_true (hunknown.symm.trans hstill)
  · cases hnone.symm.trans hlookup

end Known

/-- What is known of the documents of schemas that can be addressed. The document of a schema is
known unless it is the schema itself, and just `true` or `false`; and a known document is never
missed, also when documents are added. -/
theorem compile_knows {documents : List Json} {r : Registry}
    (hcompile : compile documents = .ok r) :
    (∀ uri index, r.resolve? uri = some index →
      (r.containsResource uri = true ↔ ¬ IsConstantDocument documents index)) ∧
    ∀ more uris uri, r.containsResource uri = true →
      compile (documents ++ more) = .error (.unresolvedReferences uris) →
        uri.withoutFragment ∉ uris :=
  ⟨fun _ _ hresolve => containsResource_iff hcompile hresolve,
    fun _ _ _ hknown herror => not_mem_unresolved_of_containsResource hcompile hknown herror⟩

/-- What a compilation misses, if that is why it fails. -/
def unresolvedOf : Except CompileError Registry → Option (List Url)
  | .error (.unresolvedReferences uris) => some uris
  | _ => none

theorem eq_error_of_unresolvedOf {result : Except CompileError Registry} {uris : List Url}
    (hunresolved : unresolvedOf result = some uris) :
    result = .error (.unresolvedReferences uris) := by
  unfold unresolvedOf at hunresolved
  split at hunresolved
  · cases hunresolved
    rfl
  · cases hunresolved

/-- A document whose base is known although another document refers to a part that it does not
have. -/
theorem document_not_missed :
    ∃ r uri uris, compile [.object [("$id", .string "a:/root")]] = .ok r ∧
      Url.parse "a:/root#" = .ok uri ∧ r.resolve? uri = some 0 ∧ r.containsResource uri = true ∧
      compile ([.object [("$id", .string "a:/root")]] ++
        [.object [("$id", .string "a:/other"), ("$ref", .string "root#/missing")]]) =
          .error (.unresolvedReferences uris) ∧ uri.withoutFragment ∉ uris := by
  have hchecked : (compile [.object [("$id", .string "a:/root")]]).toOption.map (fun r =>
      (Url.parse "a:/root#").toOption.map r.resolve?) = some (some (some 0)) := by decide +kernel
  have hmissed : (unresolvedOf (compile ([.object [("$id", .string "a:/root")]] ++
      [.object [("$id", .string "a:/other"), ("$ref", .string "root#/missing")]]))).isSome := by
    decide +kernel
  obtain ⟨r, hcompile, hr⟩ := exists_ok_of_toOption hchecked
  obtain ⟨uri, hparse, hresolve⟩ := exists_ok_of_toOption hr
  obtain ⟨uris, huris⟩ := Option.isSome_iff_exists.mp hmissed
  have herror := eq_error_of_unresolvedOf huris
  obtain ⟨hknown, hnever⟩ := compile_knows hcompile
  have hconstant : ¬ IsConstantDocument [.object [("$id", .string "a:/root")]] 0 := by
    rintro ⟨number, accepts, hnumber, -⟩
    have hmem := List.mem_of_getElem? hnumber
    cases List.mem_singleton.mp hmem
  have hcontains := (hknown uri 0 hresolve).mpr hconstant
  exact ⟨r, uri, uris, hcompile, hparse, hresolve, hcontains, herror,
    hnever _ uris uri hcontains herror⟩

/-- A document that is just `true` can be addressed but is not known, and a document that refers to
it is refused. -/
theorem constant_document_unknown :
    ∃ r uri uris, compile [.bool true] = .ok r ∧ Url.parse "json-schema:///" = .ok uri ∧
      r.resolve? uri = some 0 ∧ r.containsResource uri = false ∧
      compile ([.bool true] ++
        [.object [("$id", .string "a:/other"), ("$ref", .string "json-schema:///")]]) =
          .error (.unresolvedReferences uris) ∧ uri.withoutFragment ∈ uris := by
  have hchecked : (compile [.bool true]).toOption.map (fun r =>
      (Url.parse "json-schema:///").toOption.map
        (fun uri => (r.resolve? uri, r.containsResource uri, decide (unresolvedOf (compile
          ([.bool true] ++ [.object [("$id", .string "a:/other"),
            ("$ref", .string "json-schema:///")]])) = some [uri.withoutFragment])))) =
      some (some (some 0, false, true)) := by decide +kernel
  obtain ⟨r, hcompile, hr⟩ := exists_ok_of_toOption hchecked
  obtain ⟨uri, hparse, huri⟩ := exists_ok_of_toOption hr
  obtain ⟨hresolve, hrest⟩ := Prod.mk.inj huri
  obtain ⟨hcontains, hmissed⟩ := Prod.mk.inj hrest
  exact ⟨r, uri, [uri.withoutFragment], hcompile, hparse, hresolve, hcontains,
    eq_error_of_unresolvedOf (of_decide_eq_true hmissed), List.mem_singleton_self _⟩

end SchemaRegistry

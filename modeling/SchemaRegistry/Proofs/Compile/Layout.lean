import SchemaRegistry.Proofs.Compile.Traversal
import SchemaRegistry.Proofs.Graph.Recursion

/-!
How compilation fills the store. It stores one entry for each schema of the documents, in
post-order: at every moment the entries are those of the positions that have been left, and each of
them refers only to entries of positions inside its own. A document takes up one block of the store,
which ends with the entry of the document itself.
-/

namespace SchemaRegistry

/-- A compilation of the schema at a position stores the entry at the index. -/
def Entry.MadeAt (entry : Entry) (index : Nat) (p : Position) : Prop :=
  ∃ levels before after, compileSchema levels p.outer p.raw before = .ok (index, after) ∧
    after.entries[index]? = some entry

/-- The entry at an index is what compilation makes of the schema at a position. It has the text and
the locations of this schema, and refers at each keyword to an earlier entry, which is the one of
the position there. -/
structure Entry.CompiledAt (entry : Entry) (index : Nat) (p : Position) (places : List Position) :
    Prop where
  made : entry.MadeAt index p
  raw : entry.raw = p.raw
  locations : entry.locations = p.scopes.locations
  uri : entry.node.uri = p.scopes.uri
  paths : entry.node.slots.map Prod.fst = (p.raw.subschemas.linked p.raw.conditional).map Prod.fst
  slots : ∀ path inner, (path, inner) ∈ entry.node.slots →
    inner < index ∧ ∃ value, (path, value) ∈ p.raw.subschemas ∧
      places[inner]? = some (p.inner path value)

/-- The entries are those of the given positions, in order. -/
structure Arranged (entries : Array Entry) (places : List Position) : Prop where
  size : entries.size = places.length
  compiled : ∀ (index : Nat) (entry : Entry) (p : Position), entries[index]? = some entry →
    places[index]? = some p → entry.CompiledAt index p places

theorem getElem?_append_of_some {α : Type} {first : List α} {index : Nat} {a : α}
    (hsome : first[index]? = some a) (second : List α) : (first ++ second)[index]? = some a :=
  (List.getElem?_append_left (List.getElem?_eq_some_iff.mp hsome).1).trans hsome

theorem Entry.CompiledAt.append {entry : Entry} {index : Nat} {p : Position}
    {places : List Position} (hcompiled : entry.CompiledAt index p places)
    (more : List Position) : entry.CompiledAt index p (places ++ more) where
  made := hcompiled.made
  raw := hcompiled.raw
  locations := hcompiled.locations
  uri := hcompiled.uri
  paths := hcompiled.paths
  slots path inner hslot := by
    obtain ⟨hinner, value, hvalue, hplace⟩ := hcompiled.slots path inner hslot
    exact ⟨hinner, value, hvalue, getElem?_append_of_some hplace more⟩

namespace Arranged

variable {entries : Array Entry} {places : List Position}

theorem empty : Arranged #[] [] where
  size := rfl
  compiled := by
    intro index entry p hentry
    cases hentry

theorem push (harranged : Arranged entries places) {entry : Entry} {p : Position}
    (hcompiled : entry.CompiledAt entries.size p places) :
    Arranged (entries.push entry) (places ++ [p]) where
  size := by rw [Array.size_push, List.length_append, harranged.size, List.length_singleton]
  compiled := by
    intro index found q hfound hq
    rw [Array.getElem?_push] at hfound
    split at hfound
    · next hlast =>
        cases hfound
        rw [hlast, harranged.size, List.getElem?_concat_length] at hq
        cases hq
        rw [hlast]
        exact hcompiled.append [p]
    · have hindex : index < places.length := by
        rw [← harranged.size]
        exact (Array.getElem?_eq_some_iff.mp hfound).1
      rw [List.getElem?_append_left hindex] at hq
      exact (harranged.compiled index found q hfound hq).append [p]

end Arranged

theorem register_ok {entry : Entry} {draft after : Draft} {index : Nat}
    (hrun : register entry draft = .ok (index, after)) :
    index = draft.entries.size ∧ after = draft.push entry := by
  unfold register at hrun
  split at hrun
  · cases hrun
  · cases hrun
    exact ⟨rfl, rfl⟩

/-- Compiling the schema at a position adds the entries of its post-order, its own as the last. -/
def Arranges (child : Compiler) : Prop :=
  ∀ (p : Position) draft places index after, Arranged draft.entries places →
    child p.outer p.raw draft = .ok (index, after) →
      Arranged after.entries (places ++ p.postOrder) ∧ index + 1 = after.entries.size

/-- A post-order ends with the position itself. -/
theorem Position.getElem?_postOrder {places : List Position} {p : Position} {index : Nat}
    (hindex : index + 1 = (places ++ p.postOrder).length) :
    (places ++ p.postOrder)[index]? = some p := by
  have hsplit : places ++ p.postOrder = places ++ p.inside p.raw.subschemas ++ [p] := by
    rw [postOrder_eq, List.append_assoc]
  rw [hsplit] at hindex ⊢
  rw [List.length_append, List.length_singleton] at hindex
  rw [Nat.succ.inj hindex]
  exact List.getElem?_concat_length

theorem Arranges.visits {child : Compiler} (hchild : Arranges child) {p : Position} {s : Site}
    (hscopes : s.scopes = p.scopes) {slots : Slots Json} {placed : Slots Nat}
    {draft after : Draft} {places : List Position} (harranged : Arranged draft.entries places)
    (hrun : (slots.mapM (s.visit child)) draft = .ok (placed, after)) :
    Arranged after.entries (places ++ p.inside slots) ∧ placed.map Prod.fst = slots.map Prod.fst ∧
      ∀ path inner, (path, inner) ∈ placed → ∃ value, (path, value) ∈ slots ∧
        (places ++ p.inside slots)[inner]? = some (p.inner path value) := by
  induction slots generalizing draft places placed with
  | nil =>
      rw [List.mapM_nil] at hrun
      cases hrun
      have hnone : places ++ p.inside [] = places := List.append_nil places
      rw [hnone]
      exact ⟨harranged, rfl, fun path inner hmem => absurd hmem List.not_mem_nil⟩
  | cons slot rest ih =>
      obtain ⟨path, value⟩ := slot
      rw [List.mapM_cons] at hrun
      obtain ⟨first, middle, hfirst, hothers⟩ := Compile.bind_apply_ok hrun
      obtain ⟨others, last, hrest, hdone⟩ := Compile.bind_apply_ok hothers
      cases hdone
      -- The first schema fills up the store before the others are compiled.
      obtain ⟨index, draft', hcompiled, hplaced⟩ := Compile.bind_apply_ok hfirst
      cases hplaced
      rw [hscopes] at hcompiled
      obtain ⟨hmiddle, hindex⟩ :=
        hchild (p.inner path value) draft places index middle harranged hcompiled
      obtain ⟨hafter, hpaths, hslots⟩ := ih hmiddle hrest
      have hinside : places ++ p.inside ((path, value) :: rest) =
          places ++ (p.inner path value).postOrder ++ p.inside rest :=
        (List.append_assoc ..).symm
      rw [hinside]
      refine ⟨hafter, by rw [List.map_cons, List.map_cons, hpaths], ?_⟩
      intro found inner hmem
      rcases List.mem_cons.mp hmem with heq | hlater
      · cases heq
        have hplace := Position.getElem?_postOrder (hindex.trans hmiddle.size)
        exact ⟨value, List.mem_cons_self, getElem?_append_of_some hplace _⟩
      · obtain ⟨held, hheld, hplace⟩ := hslots found inner hlater
        exact ⟨held, List.mem_cons_of_mem _ hheld, hplace⟩

theorem Slots.map_fst_linked {α β : Type} (conditional : Bool) {first : Slots α}
    {second : Slots β} (hpaths : first.map Prod.fst = second.map Prod.fst) :
    (first.linked conditional).map Prod.fst = (second.linked conditional).map Prod.fst := by
  have hfilter : ∀ {γ : Type} (slots : Slots γ), (slots.linked conditional).map Prod.fst =
      (slots.map Prod.fst).filter (linkable conditional) := by
    intro γ slots
    rw [List.filter_map]
    rfl
  rw [hfilter, hfilter, hpaths]

/-- What a compilation of a schema object does: it reads the base that the object declares, compiles
the keywords in the scopes inside, and stores an entry. -/
theorem compileObject_ok {child : Compiler} {p : Position} {members : List (String × Json)}
    (hraw : p.raw = .object members) {draft after : Draft} {index : Nat}
    (hrun : compileObject child p.outer members draft = .ok (index, after)) :
    ∃ id k middle, Site.id? ⟨p.outer, members⟩ = .ok id ∧
      Site.keywords ⟨p.scopes, members⟩ child draft = .ok (k, middle) ∧
      register ⟨⟨p.scopes.uri, id, .keywords k⟩, p.raw, p.scopes.locations,
        if p.outer.atRoot || id.isSome then some p.scopes.base.withoutFragment else none⟩ middle =
          .ok (index, after) := by
  unfold compileObject at hrun
  obtain ⟨id, before, hread, hrest⟩ := Compile.bind_apply_ok hrun
  unfold Position.scopes Scopes.enter
  rw [hraw]
  dsimp only
  cases hid : Site.id? ⟨p.outer, members⟩ with
  | error e =>
      rw [hid] at hread
      cases hread
  | ok found =>
      rw [hid] at hread
      cases hread
      cases id with
      | none =>
          obtain ⟨k, middle, hkeywords, hregister⟩ := Compile.bind_apply_ok hrest
          exact ⟨none, k, middle, rfl, hkeywords, hregister⟩
      | some base =>
          obtain ⟨k, middle, hkeywords, hregister⟩ := Compile.bind_apply_ok hrest
          exact ⟨some base, k, middle, rfl, hkeywords, hregister⟩

theorem compileObject_arranges {levels : Nat} (hchild : Arranges (compileSchema levels))
    {p : Position} {members : List (String × Json)} (hraw : p.raw = .object members)
    {draft after : Draft} {places : List Position} {index : Nat}
    (harranged : Arranged draft.entries places)
    (hrun : compileSchema (levels + 1) p.outer p.raw draft = .ok (index, after)) :
    Arranged after.entries (places ++ p.postOrder) ∧ index + 1 = after.entries.size := by
  have hobject : compileObject (compileSchema levels) p.outer members draft =
      .ok (index, after) := by
    rw [hraw] at hrun
    exact hrun
  obtain ⟨id, k, middle, hid, hkeywords, hregister⟩ := compileObject_ok hraw hobject
  obtain ⟨placed, hplaced, hheld⟩ := Site.keywords_visits draft k middle hkeywords
  obtain ⟨hmiddle, hpaths, hslots⟩ := hchild.visits (p := p) rfl harranged hplaced
  obtain ⟨rfl, rfl⟩ := register_ok hregister
  have hconditional : (Site.keyword? ⟨p.scopes, members⟩ "if").isSome = p.raw.conditional := by
    rw [hraw]
    rfl
  have hposts : places ++ p.postOrder =
      places ++ p.inside (Json.object members).subschemas ++ [p] := by
    rw [Position.postOrder_eq, hraw, List.append_assoc]
  rw [hposts]
  refine ⟨hmiddle.push ⟨?_, rfl, rfl, rfl, ?_, ?_⟩, (Array.size_push _).symm⟩
  · exact ⟨levels + 1, draft, _, hrun, Array.getElem?_push_size⟩
  · change k.slots.map Prod.fst = _
    rw [hheld, hconditional, hraw]
    exact Slots.map_fst_linked _ hpaths
  · intro path inner hslot
    have hlinked : (path, inner) ∈ Slots.linked p.raw.conditional placed := by
      rw [← hconditional, ← hheld]
      exact hslot
    obtain ⟨value, hvalue, hplace⟩ := hslots path inner (List.mem_filter.mp hlinked).1
    refine ⟨?_, value, hraw ▸ hvalue, hplace⟩
    rw [hmiddle.size]
    exact (List.getElem?_eq_some_iff.mp hplace).1

theorem compileBool_arranges (levels : Nat) {p : Position} {accepts : Bool}
    (hraw : p.raw = .bool accepts) {draft after : Draft} {places : List Position}
    {index : Nat} (harranged : Arranged draft.entries places)
    (hrun : compileSchema levels p.outer p.raw draft = .ok (index, after)) :
    Arranged after.entries (places ++ p.postOrder) ∧ index + 1 = after.entries.size := by
  have hregister : register
      ⟨⟨p.outer.uri, none, .constant accepts⟩, .bool accepts, p.outer.locations, none⟩ draft =
        .ok (index, after) := by
    rw [hraw] at hrun
    cases levels <;> exact hrun
  obtain ⟨rfl, rfl⟩ := register_ok hregister
  have hscopes : p.scopes = p.outer := by
    unfold Position.scopes
    rw [hraw]
    rfl
  have hposts : p.postOrder = [p] := by
    rw [Position.postOrder_eq, hraw]
    rfl
  rw [hposts]
  refine ⟨harranged.push ⟨?_, hraw.symm, ?_, ?_, ?_, ?_⟩, (Array.size_push _).symm⟩
  · exact ⟨levels, draft, _, hrun, Array.getElem?_push_size⟩
  · rw [hscopes]
  · rw [hscopes]
  · rw [hraw]
    rfl
  · intro path inner hslot
    exact absurd hslot List.not_mem_nil

theorem compileSchema_arranges (levels : Nat) : Arranges (compileSchema levels) := by
  induction levels with
  | zero =>
      intro p draft places index after harranged hrun
      cases hraw : p.raw with
      | bool accepts => exact compileBool_arranges 0 hraw harranged hrun
      | _ =>
          rw [hraw] at hrun
          cases hrun
  | succ levels ih =>
      intro p draft places index after harranged hrun
      cases hraw : p.raw with
      | bool accepts => exact compileBool_arranges (levels + 1) hraw harranged hrun
      | object members => exact compileObject_arranges ih hraw harranged hrun
      | _ =>
          rw [hraw] at hrun
          cases hrun

/-- Each document adds its block, and its place is the last of the block. -/
theorem compileDocuments_arranges (document : Nat) (documents : List Json)
    {draft after : Draft} {places : List Position} {roots : List Nat}
    (harranged : Arranged draft.entries places)
    (hrun : compileDocuments documents draft = .ok (roots, after)) :
    Arranged after.entries (places ++ positionsFrom document documents) ∧
      roots.length = documents.length ∧
      ∀ number raw, documents[number]? = some raw → ∃ root, roots[number]? = some root ∧
        root + 1 = places.length +
          (positionsFrom document (documents.take (number + 1))).length := by
  unfold compileDocuments at hrun
  induction documents generalizing document draft places roots with
  | nil =>
      rw [List.mapM_nil] at hrun
      cases hrun
      have hnone : places ++ positionsFrom document [] = places := List.append_nil places
      rw [hnone]
      exact ⟨harranged, rfl, fun number raw hraw => by cases hraw⟩
  | cons raw rest ih =>
      rw [List.mapM_cons] at hrun
      obtain ⟨root, middle, hfirst, hothers⟩ := Compile.bind_apply_ok hrun
      obtain ⟨others, last, hrest, hdone⟩ := Compile.bind_apply_ok hothers
      cases hdone
      obtain ⟨hmiddle, hroot⟩ := compileSchema_arranges raw.height (.root document raw) draft
        places root middle harranged hfirst
      obtain ⟨hafter, hlength, hroots⟩ := ih (document + 1) hmiddle hrest
      have hsplit : places ++ positionsFrom document (raw :: rest) =
          places ++ (Position.root document raw).postOrder ++ positionsFrom (document + 1) rest :=
        (List.append_assoc ..).symm
      rw [hsplit]
      refine ⟨hafter, by rw [List.length_cons, List.length_cons, hlength], ?_⟩
      intro number found hfound
      cases number with
      | zero =>
          refine ⟨root, rfl, ?_⟩
          rw [hroot, hmiddle.size, List.length_append]
          simp [positionsFrom]
      | succ number =>
          obtain ⟨root', hroot', hlast⟩ := hroots number found hfound
          refine ⟨root', hroot', ?_⟩
          rw [hlast, List.take_succ_cons, positionsFrom, List.length_append, List.length_append,
            Nat.add_assoc]

/-- A compilation with a result has stored the documents and found every target. -/
theorem compile_ok {documents : List Json} {r : Registry} (hcompile : compile documents = .ok r) :
    ∃ roots draft, compileDocuments documents .empty = .ok (roots, draft) ∧
      r = ⟨draft.toStore, roots⟩ ∧ r.unresolved = [] := by
  unfold compile at hcompile
  obtain ⟨⟨roots, draft⟩, hdocuments, hsealed⟩ := bind_ok hcompile
  dsimp only at hsealed
  split at hsealed
  · next hunresolved =>
      cases hsealed
      exact ⟨roots, draft, hdocuments, rfl, hunresolved⟩
  · cases hsealed

/-- The positions of one document are consecutive. -/
theorem positions_of_document {documents : List Json} {number : Nat} {raw : Json}
    (hraw : documents[number]? = some raw) :
    ∃ before after, positions documents = before ++ (Position.root number raw).postOrder ++ after ∧
      (∀ p ∈ before, p.document < number) ∧ (∀ p ∈ after, number < p.document) ∧
      (positionsFrom 0 (documents.take (number + 1))).length =
        before.length + (Position.root number raw).postOrder.length := by
  obtain ⟨hnumber, hget⟩ := List.getElem?_eq_some_iff.mp hraw
  have hlength : (documents.take number).length = number :=
    List.length_take_of_le (Nat.le_of_lt hnumber)
  have htake : documents.take (number + 1) = documents.take number ++ [raw] := by
    rw [List.take_add_one, hraw]
    rfl
  have hfirst : positionsFrom 0 (documents.take (number + 1)) =
      positionsFrom 0 (documents.take number) ++ (Position.root number raw).postOrder := by
    rw [htake, positionsFrom_append, hlength, Nat.zero_add]
    simp [positionsFrom]
  refine ⟨positionsFrom 0 (documents.take number),
    positionsFrom (number + 1) (documents.drop (number + 1)), ?_, ?_, ?_, ?_⟩
  · have hwhole := positionsFrom_append 0 (documents.take (number + 1))
      (documents.drop (number + 1))
    rw [List.take_append_drop, hfirst, List.length_take_of_le hnumber, Nat.zero_add] at hwhole
    exact hwhole
  · intro p hp
    have hbounds := document_of_mem_positionsFrom hp
    omega
  · intro p hp
    exact (document_of_mem_positionsFrom hp).1
  · rw [hfirst, List.length_append]

/-- The store is that of the documents. There is one entry for each position, in order, with the
entries of its sub-schemas before it; each document has one block, with its root at the end; and no
place that is kept anywhere lies outside the store. -/
structure Registry.CompiledFrom (r : Registry) (documents : List Json) : Prop where
  size : r.size = (positions documents).length
  compiled : ∀ (index : Nat) (entry : Entry) (p : Position), r.entries[index]? = some entry →
    (positions documents)[index]? = some p → entry.CompiledAt index p (positions documents)
  roots : r.roots.length = documents.length
  block : ∀ (number : Nat) (raw : Json), documents[number]? = some raw →
    ∃ first last, first ≤ last ∧ r.roots[number]? = some last ∧
      (positions documents)[last]? = some (.root number raw) ∧
      ∀ (index : Nat) (p : Position), (positions documents)[index]? = some p →
        (p.document = number ↔ first ≤ index ∧ index ≤ last)
  linked : ∀ (index : Nat) (node : Node) (inner : Nat), r.node? index = some node →
    Link.schema inner ∈ node.links → inner ∈ node.slots.map Prod.snd ∧ inner < index
  rooted : ∀ root ∈ r.roots, root < r.size
  located : ∀ (uri : Url) (index : Nat), r.lookup? uri = some index → index < r.size
  resolved : ∀ (uri : Url) (index : Nat), r.resolve? uri = some index → index < r.size

theorem Arranged.exists_position {entries : Array Entry} {places : List Position}
    (harranged : Arranged entries places) {index : Nat} {entry : Entry}
    (hentry : entries[index]? = some entry) : ∃ p, places[index]? = some p := by
  have hindex : index < places.length := by
    rw [← harranged.size]
    exact (Array.getElem?_eq_some_iff.mp hentry).1
  exact ⟨places[index], List.getElem?_eq_getElem hindex⟩

/-- At each place there is an entry, compiled from what lies there. -/
theorem Arranged.exists_entry_at {entries : Array Entry} {places : List Position}
    (harranged : Arranged entries places) {index : Nat} {p : Position}
    (hp : places[index]? = some p) :
    ∃ entry : Entry, entries[index]? = some entry ∧ entry.CompiledAt index p places := by
  have hless : index < entries.size := by
    rw [harranged.size]
    exact (List.getElem?_eq_some_iff.mp hp).1
  have hentry := Array.getElem?_eq_getElem hless
  exact ⟨_, hentry, harranged.compiled index _ p hentry hp⟩

theorem Arranged.exists_entry {entries : Array Entry} {places : List Position}
    (harranged : Arranged entries places) {p : Position} (hp : p ∈ places) :
    ∃ index, ∃ entry : Entry, places[index]? = some p ∧ entries[index]? = some entry ∧
      entry.CompiledAt index p places := by
  obtain ⟨index, hindex⟩ := List.mem_iff_getElem?.mp hp
  obtain ⟨entry, hentry, hcompiled⟩ := harranged.exists_entry_at hindex
  exact ⟨index, entry, hindex, hentry, hcompiled⟩

theorem Arranged.inner_lt {entries : Array Entry} {places : List Position}
    (harranged : Arranged entries places) {index inner : Nat} {entry : Entry}
    (hentry : entries[index]? = some entry) (hlink : Link.schema inner ∈ entry.node.links) :
    inner ∈ entry.node.slots.map Prod.snd ∧ inner < index := by
  have hheld := (entry.node.mem_slots_iff inner).mpr hlink
  obtain ⟨⟨path, held⟩, hslot, rfl⟩ := List.mem_map.mp hheld
  obtain ⟨p, hp⟩ := harranged.exists_position hentry
  exact ⟨hheld, ((harranged.compiled index entry p hentry hp).slots path held hslot).1⟩

theorem Registry.resolve?_lt {r : Registry} {uri : Url} {index : Nat}
    (hresolve : r.resolve? uri = some index) : index < r.size := by
  unfold resolve? at hresolve
  split at hresolve
  · exact lookup?_lt hresolve
  · cases hresolve

theorem compile_arranged {documents : List Json} {r : Registry}
    (hcompile : compile documents = .ok r) : Arranged r.entries (positions documents) := by
  obtain ⟨roots, draft, hstored, rfl, -⟩ := compile_ok hcompile
  exact (compileDocuments_arranges 0 documents .empty hstored).1

/-- What `compile` gives is in post-order. -/
theorem compile_postOrdered {documents : List Json} {r : Registry}
    (hcompile : compile documents = .ok r) : r.PostOrdered := by
  intro index node hnode inner hinner
  unfold Registry.node? at hnode
  obtain ⟨entry, hentry, rfl⟩ := Option.map_eq_some_iff.mp hnode
  exact ((compile_arranged hcompile).inner_lt hentry hinner).2

theorem compile_roots {documents : List Json} {r : Registry}
    (hcompile : compile documents = .ok r) :
    r.roots.length = documents.length ∧
      ∀ number raw, documents[number]? = some raw → ∃ root, r.roots[number]? = some root ∧
        root + 1 = (positionsFrom 0 (documents.take (number + 1))).length := by
  obtain ⟨roots, draft, hstored, rfl, -⟩ := compile_ok hcompile
  obtain ⟨-, hlength, hroots⟩ := compileDocuments_arranges 0 documents .empty hstored
  refine ⟨hlength, fun number raw hraw => ?_⟩
  obtain ⟨root, hroot, hlast⟩ := hroots number raw hraw
  rw [List.length_nil, Nat.zero_add] at hlast
  exact ⟨root, hroot, hlast⟩

/-- The schemas of a document are consecutive, and the document itself is the last of them. -/
theorem compile_block {documents : List Json} {r : Registry}
    (hcompile : compile documents = .ok r) {number : Nat} {raw : Json}
    (hraw : documents[number]? = some raw) :
    ∃ first last, first ≤ last ∧ r.roots[number]? = some last ∧
      (positions documents)[last]? = some (.root number raw) ∧
      ∀ (index : Nat) (p : Position), (positions documents)[index]? = some p →
        (p.document = number ↔ first ≤ index ∧ index ≤ last) := by
  obtain ⟨root, hroot, hlast⟩ := (compile_roots hcompile).2 number raw hraw
  obtain ⟨before, after, hwhole, hbefore, hafter, hlength⟩ := positions_of_document hraw
  have hend : root + 1 = (before ++ (Position.root number raw).postOrder).length := by
    rw [hlast, hlength, List.length_append]
  have hblock : 0 < (Position.root number raw).postOrder.length := by
    rw [Position.postOrder_eq, List.length_append, List.length_singleton]
    omega
  rw [List.length_append] at hend
  refine ⟨before.length, root, by omega, hroot, ?_, ?_⟩
  · rw [hwhole]
    apply getElem?_append_of_some
    apply Position.getElem?_postOrder
    rw [hend, List.length_append]
  · intro index p hp
    rw [hwhole] at hp
    by_cases hfirst : index < before.length
    · have hmem : p ∈ before := by
        rw [List.append_assoc, List.getElem?_append_left hfirst] at hp
        exact List.mem_of_getElem? hp
      have hless := hbefore p hmem
      omega
    · by_cases hlater : index ≤ root
      · have hmem : p ∈ (Position.root number raw).postOrder := by
          rw [List.append_assoc, List.getElem?_append_right (by omega),
            List.getElem?_append_left (by omega)] at hp
          exact List.mem_of_getElem? hp
        have hsame : p.document = number := Position.document_of_mem_postOrder hmem
        omega
      · have hmem : p ∈ after := by
          rw [List.getElem?_append_right (by rw [List.length_append]; omega)] at hp
          exact List.mem_of_getElem? hp
        have hmore := hafter p hmem
        omega

/-- What `compile` gives is the store of the documents. -/
theorem compile_compiledFrom {documents : List Json} {r : Registry}
    (hcompile : compile documents = .ok r) : r.CompiledFrom documents where
  size := (compile_arranged hcompile).size
  compiled := (compile_arranged hcompile).compiled
  roots := (compile_roots hcompile).1
  block _ _ hraw := compile_block hcompile hraw
  linked index node inner hnode hlink := by
    unfold Registry.node? at hnode
    obtain ⟨entry, hentry, rfl⟩ := Option.map_eq_some_iff.mp hnode
    exact (compile_arranged hcompile).inner_lt hentry hlink
  rooted root hroot := by
    obtain ⟨number, hnumber⟩ := List.mem_iff_getElem?.mp hroot
    have hindex : number < documents.length := by
      rw [← (compile_roots hcompile).1]
      exact (List.getElem?_eq_some_iff.mp hnumber).1
    obtain ⟨first, last, -, hlast, hplace, -⟩ :=
      compile_block hcompile (List.getElem?_eq_getElem hindex)
    obtain rfl := Option.some.inj (hnumber.symm.trans hlast)
    change root < r.entries.size
    rw [(compile_arranged hcompile).size]
    exact (List.getElem?_eq_some_iff.mp hplace).1
  located _ _ hlookup := Registry.lookup?_lt hlookup
  resolved _ _ hresolve := Registry.resolve?_lt hresolve

end SchemaRegistry

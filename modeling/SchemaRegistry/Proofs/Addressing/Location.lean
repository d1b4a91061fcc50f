import Mathlib.Data.List.DropRight
import SchemaRegistry.Schema.Location

/-!
Locations keep what they are made of. The fragment of a location is the pointer in an encoding that
every character survives, so reading it gives the pointer back, and the rest of the location is the
base. Two places have the same location only if they have the same base and the same pointer.
-/

namespace SchemaRegistry

namespace Percent

theorem decodeBytes_cons_of_ne {b : UInt8} (hb : b ≠ 0x25) (rest : List UInt8) :
    decodeBytes (b :: rest) = b :: decodeBytes rest := by
  rw [decodeBytes]
  intro high low more heq
  exact absurd heq hb

/-- A digit is one byte, and is read as what it was written for. -/
theorem hexByte?_digit {n : Nat} (hn : n < 16) :
    String.utf8EncodeChar (Hex.digit n) = [UInt8.ofNat (Hex.digit n).toNat] ∧
      hexByte? (UInt8.ofNat (Hex.digit n).toNat) = some n := by
  have hall : ∀ n < 16, String.utf8EncodeChar (Hex.digit n) = [UInt8.ofNat (Hex.digit n).toNat] ∧
      hexByte? (UInt8.ofNat (Hex.digit n).toNat) = some n := by decide
  exact hall n hn

theorem decodeBytes_escape (b : UInt8) (rest : List UInt8) :
    decodeBytes (Utf8.encode (escape b) ++ rest) = b :: decodeBytes rest := by
  have hbyte : b.toNat < 256 := b.toNat_lt
  obtain ⟨hhigh, hhigh'⟩ := hexByte?_digit (show b.toNat / 16 < 16 by omega)
  obtain ⟨hlow, hlow'⟩ := hexByte?_digit (show b.toNat % 16 < 16 by omega)
  have hencode : Utf8.encode (escape b) = [0x25, UInt8.ofNat (Hex.digit (b.toNat / 16)).toNat,
      UInt8.ofNat (Hex.digit (b.toNat % 16)).toNat] := by
    unfold escape Utf8.encode
    rw [List.flatMap_cons, List.flatMap_cons, List.flatMap_cons, hhigh, hlow]
    rfl
  have hvalue : 16 * (b.toNat / 16) + b.toNat % 16 = b.toNat := by omega
  rw [hencode]
  simp only [List.cons_append, List.nil_append, decodeBytes, hhigh', hlow', hvalue,
    UInt8.ofNat_toNat]

/-- A byte that is not a control character lies between the space and the tilde. -/
theorem bounds_of_not_isControl {b : UInt8} (hb : isControl b = false) :
    0x20 ≤ b.toNat ∧ b.toNat ≤ 0x7E := by
  unfold isControl at hb
  simp only [Bool.or_eq_false_iff, decide_eq_false_iff_not, UInt8.not_lt] at hb
  exact ⟨UInt8.le_iff_toNat_le.mp hb.1, UInt8.le_iff_toNat_le.mp hb.2⟩

/-- A byte that is kept is the encoding of a character. -/
theorem utf8EncodeChar_ofNat {n : Nat} (hn : n ≤ 0x7E) :
    String.utf8EncodeChar (Char.ofNat n) = [UInt8.ofNat n] := by
  have hall : ∀ n < 0x7F, String.utf8EncodeChar (Char.ofNat n) = [UInt8.ofNat n] := by decide
  exact hall n (by omega)

/-- Decoding undoes the encoding of single bytes, if percent signs are encoded too. -/
theorem decodeBytes_encodeBytes {escaped : List Char} (hpercent : '%' ∈ escaped)
    (bytes rest : List UInt8) :
    decodeBytes (Utf8.encode (bytes.flatMap fun b =>
      if isControl b || escaped.contains (Char.ofNat b.toNat) then escape b
      else [Char.ofNat b.toNat]) ++ rest) = bytes ++ decodeBytes rest := by
  induction bytes with
  | nil => rfl
  | cons b bytes ih =>
      rw [List.flatMap_cons, Utf8.encode_append, List.append_assoc, List.cons_append]
      split
      · rw [decodeBytes_escape, ih]
      · next hkept =>
          simp only [Bool.or_eq_true, not_or, Bool.not_eq_true] at hkept
          have hbounds := bounds_of_not_isControl hkept.1
          have hencode : Utf8.encode [Char.ofNat b.toNat] = [b] := by
            unfold Utf8.encode
            rw [List.flatMap_singleton, utf8EncodeChar_ofNat hbounds.2, UInt8.ofNat_toNat]
          have hsign : b ≠ 0x25 := by
            rintro rfl
            exact Bool.false_ne_true (hkept.2.symm.trans (List.contains_iff_mem.mpr hpercent))
          rw [hencode, List.singleton_append, decodeBytes_cons_of_ne hsign, ih]

theorem decodeBytes_encode {escaped : List Char} (hpercent : '%' ∈ escaped) (text : List Char) :
    decodeBytes (Utf8.encode (encode escaped text)) = Utf8.encode text := by
  induction text with
  | nil => rfl
  | cons c text ih =>
      have hfirst : encode escaped (c :: text) = encodeChar escaped c ++ encode escaped text :=
        List.flatMap_cons ..
      have hrest : Utf8.encode (c :: text) = String.utf8EncodeChar c ++ Utf8.encode text :=
        List.flatMap_cons ..
      rw [hfirst, hrest, Utf8.encode_append, ← ih]
      exact decodeBytes_encodeBytes hpercent _ _

/-- A text whose percent signs were encoded is read back. -/
theorem decode?_encode {escaped : List Char} (hpercent : '%' ∈ escaped) (text : List Char) :
    decode? (encode escaped text) = some text := by
  unfold decode?
  rw [decodeBytes_encode hpercent, Utf8.decode?_encode]

/-- The characters of an encoded text: digits and signs of escapes, and characters that are kept. -/
theorem mem_encode {escaped text : List Char} {c : Char} (hmem : c ∈ encode escaped text) :
    (c = '%' ∨ ∃ n < 16, c = Hex.digit n) ∨
      (∃ b : UInt8, isControl b = false ∧ c = Char.ofNat b.toNat) ∧ c ∉ escaped := by
  obtain ⟨original, -, hchar⟩ := List.mem_flatMap.mp hmem
  obtain ⟨b, -, hbyte⟩ := List.mem_flatMap.mp hchar
  have hlow : b.toNat % 16 < 16 := Nat.mod_lt _ (by decide)
  have hhigh : b.toNat / 16 < 16 := by
    have := b.toNat_lt
    omega
  split at hbyte
  · unfold escape at hbyte
    simp only [List.mem_cons, List.not_mem_nil, or_false] at hbyte
    rcases hbyte with rfl | rfl | rfl
    · exact Or.inl (Or.inl rfl)
    · exact Or.inl (Or.inr ⟨_, hhigh, rfl⟩)
    · exact Or.inl (Or.inr ⟨_, hlow, rfl⟩)
  · next hkept =>
      simp only [Bool.or_eq_true, not_or, Bool.not_eq_true] at hkept
      obtain rfl := List.mem_singleton.mp hbyte
      refine Or.inr ⟨⟨b, hkept.1, rfl⟩, ?_⟩
      exact fun hescaped =>
        Bool.false_ne_true (hkept.2.symm.trans (List.contains_iff_mem.mpr hescaped))

end Percent

namespace Url

/-- A fragment holds a character of an encoded pointer as it is. -/
theorem encodeChar_of_mem_encode {text : List Char} {c : Char}
    (hmem : c ∈ Percent.encode locationEscapes text) :
    isDropped c = false ∧ Percent.encodeChar fragmentEscapes c = [c] := by
  have hascii : ∀ n < 0x7F, 0x20 ≤ n → Char.ofNat n ∉ fragmentEscapes →
      isDropped (Char.ofNat n) = false ∧
        Percent.encodeChar fragmentEscapes (Char.ofNat n) = [Char.ofNat n] := by decide
  have hdigit : ∀ n < 16, isDropped (Hex.digit n) = false ∧
      Percent.encodeChar fragmentEscapes (Hex.digit n) = [Hex.digit n] := by decide
  rcases Percent.mem_encode hmem with (rfl | ⟨n, hn, rfl⟩) | ⟨⟨b, hb, rfl⟩, hkept⟩
  · decide
  · exact hdigit n hn
  · obtain ⟨hlower, hupper⟩ := Percent.bounds_of_not_isControl hb
    refine hascii b.toNat (by omega) hlower fun hescaped => hkept ?_
    exact List.mem_append_left _ hescaped

/-- An encoded pointer is stored as it is. -/
theorem encodeFragment_encode (text : List Char) :
    encodeFragment (Percent.encode locationEscapes text) =
      String.ofList (Percent.encode locationEscapes text) := by
  unfold encodeFragment
  have hfilter : (Percent.encode locationEscapes text).filter (fun c => !isDropped c) =
      Percent.encode locationEscapes text := by
    rw [List.filter_eq_self]
    intro c hc
    rw [(encodeChar_of_mem_encode hc).1]
    rfl
  have hsame : (Percent.encode locationEscapes text).flatMap (Percent.encodeChar fragmentEscapes) =
      (Percent.encode locationEscapes text).flatMap fun c => [c] :=
    List.flatMap_congr fun c hc => (encodeChar_of_mem_encode hc).2
  rw [hfilter, Percent.encode, hsame, List.flatMap_singleton']

end Url

namespace JsonPointer

theorem unescape_cons_of_ne {c : Char} (hc : c ≠ '~') (rest : List Char) :
    unescape (c :: rest) = c :: unescape rest := by
  rw [unescape]
  · intro more heq
    exact absurd heq hc
  · intro more heq
    exact absurd heq hc
  · intro next more heq
    exact absurd heq hc

theorem unescape_escape (token : List Char) : unescape (escape token) = token := by
  fun_induction escape token with
  | case1 => rfl
  | case2 rest ih => rw [unescape, ih]
  | case3 rest ih => rw [unescape, ih]
  | case4 c rest htilde hslash ih => rw [unescape_cons_of_ne htilde, ih]

theorem slash_not_mem_escape (token : List Char) : '/' ∉ escape token := by
  fun_induction escape token with
  | case1 => exact List.not_mem_nil
  | case2 rest ih => simpa using ih
  | case3 rest ih => simpa using ih
  | case4 c rest htilde hslash ih =>
      rw [List.mem_cons]
      rintro (heq | hrest)
      · exact hslash heq.symm
      · exact ih hrest

theorem segments_cons_of_ne {c : Char} (hc : c ≠ '/') {text first : List Char}
    {others : List (List Char)} (htext : segments text = first :: others) :
    segments (c :: text) = (c :: first) :: others := by
  rw [segments]
  · rw [htext]
  · exact hc

/-- A text without slashes is the first segment. -/
theorem segments_append {token : List Char} (htoken : '/' ∉ token) {text first : List Char}
    {others : List (List Char)} (htext : segments text = first :: others) :
    segments (token ++ text) = (token ++ first) :: others := by
  induction token with
  | nil => exact htext
  | cons c token ih =>
      have hrest := ih fun hmem => htoken (List.mem_cons_of_mem _ hmem)
      exact segments_cons_of_ne (fun heq => htoken (heq ▸ List.mem_cons_self)) hrest

theorem segments_escape_append (token : String) (tokens : List String) :
    segments (escape token.toList ++ written ⟨tokens⟩) =
      (token :: tokens).map fun token => escape token.toList := by
  induction tokens generalizing token with
  | nil =>
      have hend : segments (written ⟨[]⟩) = [] :: [] := rfl
      rw [segments_append (slash_not_mem_escape _) hend, List.append_nil]
      rfl
  | cons next rest ih =>
      have hslash : segments (written ⟨next :: rest⟩) =
          [] :: segments (escape next.toList ++ written ⟨rest⟩) := by
        have hwritten : written ⟨next :: rest⟩ =
            '/' :: (escape next.toList ++ written ⟨rest⟩) := List.flatMap_cons ..
        rw [hwritten, segments]
      rw [segments_append (slash_not_mem_escape _) hslash, ih, List.append_nil]
      rfl

/-- The written form of a pointer is read back. -/
theorem ofDecoded_written (p : JsonPointer) : ofDecoded p.written = .ok p := by
  obtain ⟨tokens⟩ := p
  cases tokens with
  | nil => rfl
  | cons token rest =>
      have hwritten : written ⟨token :: rest⟩ =
          '/' :: (escape token.toList ++ written ⟨rest⟩) := List.flatMap_cons ..
      rw [hwritten, ofDecoded, segments_escape_append, List.map_map]
      have hread : (fun segment => String.ofList (unescape segment)) ∘
          (fun token : String => escape token.toList) = id := by
        funext token
        rw [Function.comp_apply, unescape_escape, String.ofList_toList]
        rfl
      rw [hread, List.map_id]

/-- The encoded form of a pointer is read back from a fragment. -/
theorem parse_encode (p : JsonPointer) :
    parse (String.ofList (Percent.encode locationEscapes p.written)) = .ok p := by
  have hpercent : '%' ∈ locationEscapes := by decide
  unfold parse
  rw [String.toList_ofList, Percent.decode?_encode hpercent]
  exact ofDecoded_written p

end JsonPointer

namespace Url

/-- The URL with nothing changed but its fragment removed. -/
def bare (u : Url) : Url := { u with fragment := none }

theorem bare_withoutFragment (u : Url) : u.withoutFragment.bare = u.withoutFragment := by
  unfold withoutFragment
  split <;> rfl

theorem withoutTrailingSpaces_idem (text : String) :
    withoutTrailingSpaces (withoutTrailingSpaces text) = withoutTrailingSpaces text := by
  unfold withoutTrailingSpaces
  rw [String.toList_ofList, List.reverse_reverse, List.dropWhile_idempotent]

/-- A URL without fragment has nothing more to lose. -/
theorem withoutFragment_idem (u : Url) :
    u.withoutFragment.withoutFragment = u.withoutFragment := by
  obtain ⟨fragment, path, query, authority, scheme⟩ := u
  cases path with
  | segments text => rfl
  | plain text =>
      cases query with
      | some query => rfl
      | none =>
          change Url.mk none (.plain (withoutTrailingSpaces (withoutTrailingSpaces text))) none
            authority scheme = _
          rw [withoutTrailingSpaces_idem]
          rfl

theorem withoutFragment_bare (u : Url) : u.bare.withoutFragment = u.withoutFragment := by
  obtain ⟨fragment, path, query, authority, scheme⟩ := u
  cases path with
  | segments text => rfl
  | plain text => cases query <;> rfl

end Url

/-- The pointer of a location is read back from its fragment. -/
theorem pointer_location (base : Url) (p : JsonPointer) : (location base p).pointer = .ok p := by
  obtain ⟨tokens⟩ := p
  unfold location
  cases tokens with
  | nil =>
      have hfragment : base.withoutFragment.fragment = none := by
        rw [← Url.bare_withoutFragment]
        rfl
      unfold Url.pointer
      rw [List.isEmpty_nil, if_pos rfl, hfragment]
      rfl
  | cons token rest =>
      unfold Url.pointer Url.withFragment
      rw [Url.encodeFragment_encode]
      exact JsonPointer.parse_encode ⟨token :: rest⟩

/-- A location differs from its base in the fragment only, and in the spaces that a URL loses with
its fragment. -/
theorem bare_location (base : Url) (p : JsonPointer) :
    (location base p).bare = if p.tokens.isEmpty then base.withoutFragment else base.bare := by
  unfold location
  split
  · exact Url.bare_withoutFragment base
  · rfl

/-- A location is determined by its pointer and what is left without the fragment. -/
theorem location_bare (base : Url) (p : JsonPointer) :
    location (location base p).bare p = location base p := by
  rw [bare_location]
  unfold location
  split
  · exact Url.withoutFragment_idem base
  · rfl

/-- A base of a scope as documents and `$id` declare it: a URL without fragment. -/
def Url.IsBase (base : Url) : Prop := base.withoutFragment = base

theorem Url.isBase_withoutFragment (u : Url) : u.withoutFragment.IsBase := u.withoutFragment_idem

theorem Url.IsBase.bare_eq {base : Url} (hbase : base.IsBase) : base.bare = base := by
  have heq := bare_withoutFragment base
  rwa [hbase] at heq

theorem Url.IsBase.bare_location {base : Url} (hbase : base.IsBase) (p : JsonPointer) :
    (location base p).bare = base := by
  rw [SchemaRegistry.bare_location]
  split
  · exact hbase
  · exact hbase.bare_eq

/-- A place in a scope has a given location exactly if it has its base and its pointer. -/
theorem Scope.location_eq_iff {s : Scope} (hbase : s.base.IsBase) (u : Url) (p : JsonPointer) :
    s.location = SchemaRegistry.location u p ↔
      s = ⟨(SchemaRegistry.location u p).bare, p⟩ := by
  obtain ⟨base, pointer⟩ := s
  constructor
  · intro heq
    have hpointer : (Except.ok pointer : Except PointerError JsonPointer) = .ok p := by
      rw [← pointer_location base pointer, ← pointer_location u p]
      exact congrArg Url.pointer heq
    have hsame : base = (SchemaRegistry.location u p).bare := by
      rw [← heq]
      exact (hbase.bare_location pointer).symm
    rw [hsame, Except.ok.inj hpointer]
  · intro heq
    rw [heq]
    exact location_bare u p

end SchemaRegistry

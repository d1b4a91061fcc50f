import SchemaRegistry.Proofs.Addressing.Pointers
import SchemaRegistry.Proofs.Judgement.Finding

/-!
The URLs that can be bases of locations. A URL that was read from a text and has no fragment is a
base: an opaque path is cut off at the end of the text, where no space is left, and so nothing more
is lost with the fragment. For these URLs a location says all of what it was made of: the pointer is
read back from the fragment, and no two pairs of a base and a pointer have one location.
-/

namespace SchemaRegistry

namespace Percent

theorem encodeChar_ne_nil (escaped : List Char) (c : Char) : encodeChar escaped c ≠ [] := by
  intro hnil
  obtain ⟨b, hb⟩ := List.exists_mem_of_ne_nil _ (String.utf8EncodeChar_ne_nil (c := c))
  have hbyte := List.flatMap_eq_nil_iff.mp hnil b hb
  split at hbyte
  · cases hbyte
  · cases hbyte

/-- A character in an encoding that belongs to no escape is what was encoded. -/
theorem eq_of_mem_encodeChar {escaped : List Char} {c kept : Char}
    (hmem : kept ∈ encodeChar escaped c) (hsign : kept ≠ '%')
    (hdigit : ∀ n < 16, kept ≠ Hex.digit n) : c = kept := by
  obtain ⟨b, hb, hbyte⟩ := List.mem_flatMap.mp hmem
  split at hbyte
  · have hsize := b.toNat_lt
    unfold escape at hbyte
    simp only [List.mem_cons, List.not_mem_nil, or_false] at hbyte
    rcases hbyte with heq | heq | heq
    · exact absurd heq hsign
    · exact absurd heq (hdigit _ (by omega))
    · exact absurd heq (hdigit _ (by omega))
  · next hkept =>
      simp only [Bool.or_eq_true, not_or, Bool.not_eq_true] at hkept
      have hbounds := bounds_of_not_isControl hkept.1
      rw [List.mem_singleton.mp hbyte]
      exact Utf8.eq_ofNat_of_mem_utf8EncodeChar hb (by omega)

end Percent

namespace Url

/-- The URLs that a program comes by. They are read from texts, alone or against other URLs, and can
be given another fragment or none. -/
inductive Attainable : Url → Prop
  | parse {text : String} {u : Url} (hparse : Url.parse text = .ok u) : Attainable u
  | resolve {base u : Url} {reference : String} (hbase : Attainable base)
      (hresolve : Url.resolve base reference = .ok u) : Attainable u
  | withoutFragment {u : Url} (hu : Attainable u) : Attainable u.withoutFragment
  | withFragment {u : Url} (text : List Char) (hu : Attainable u) :
      Attainable (u.withFragment text)

/-- The web has no opaque paths, and no opaque path at the end of a URL has spaces at its end. -/
structure Settled (u : Url) : Prop where
  scheme : u.isOpaque = true → isSpecial u.scheme = false
  path : ∀ text, u.path = .plain text → u.query = none → u.fragment = none →
    withoutTrailingSpaces text = text

theorem settled_of_not_isOpaque {u : Url} (hsegments : u.isOpaque = false) : u.Settled where
  scheme hisPlain := absurd (hsegments.symm.trans hisPlain) Bool.false_ne_true
  path text hpath := by
    unfold isOpaque at hsegments
    rw [hpath] at hsegments
    cases hsegments

section Segments

/-- Whether a reading gives only URLs with a path of segments. -/
def GivesSegments (reading : Except UrlError Url) : Prop :=
  ∀ u, reading = .ok u → u.isOpaque = false

theorem GivesSegments.ok {u : Url} (hu : u.isOpaque = false) : GivesSegments (.ok u) := by
  intro v hv
  cases hv
  exact hu

theorem GivesSegments.error (e : UrlError) : GivesSegments (.error e) := by
  intro v hv
  cases hv

theorem GivesSegments.bind {α : Type} {reading : Except UrlError α}
    {next : α → Except UrlError Url} (hnext : ∀ a, GivesSegments (next a)) :
    GivesSegments (reading >>= next) := by
  intro v hv
  obtain ⟨a, -, ha⟩ := bind_ok hv
  exact hnext a v ha

theorem GivesSegments.ite {test : Prop} [Decidable test] {first second : Except UrlError Url}
    (hfirst : GivesSegments first) (hsecond : GivesSegments second) :
    GivesSegments (if test then first else second) := by
  split
  · exact hfirst
  · exact hsecond

theorem finish_isOpaque (scheme : String) (authority : Option Authority) (reading : PathReading) :
    (finish scheme authority reading).isOpaque = false := rfl

theorem readAfterSlashes_givesSegments (scheme : String) (text : List Char) :
    GivesSegments (readAfterSlashes scheme text) := by
  unfold readAfterSlashes
  refine .bind fun credentials => .ite (.error _) ?_
  refine .ite (.bind fun host => .ite (.error _) ?_) (.bind fun host => .ite (.error _) ?_)
  all_goals
    dsimp only
    split
    all_goals exact .bind fun port => .ite (.error _) (.ok (finish_isOpaque ..))

theorem readFileHost_givesSegments (text : List Char) : GivesSegments (readFileHost text) := by
  unfold readFileHost
  refine .ite (.ok (finish_isOpaque ..)) (.ite (.ok (finish_isOpaque ..)) ?_)
  exact .bind fun host => .ite (.ok (finish_isOpaque ..)) (.ok (finish_isOpaque ..))

theorem readFile_givesSegments {base : Option Url}
    (hbase : ∀ u, base = some u → u.isOpaque = false) (text : List Char) :
    GivesSegments (readFile base text) := by
  unfold readFile
  cases text with
  | nil =>
      cases base with
      | none => exact .ok (finish_isOpaque ..)
      | some base => exact .ok (hbase base rfl)
  | cons first rest =>
      refine .ite (.ite (readFileHost_givesSegments _) ?_) ?_
      · cases base with
        | none => exact .ok (finish_isOpaque ..)
        | some base =>
            exact .ite (.ok (finish_isOpaque ..))
              (.ite (.ok (finish_isOpaque ..)) (.ok (finish_isOpaque ..)))
      · cases base with
        | none => exact .ok (finish_isOpaque ..)
        | some base =>
            have hpath : base.isOpaque = false := hbase base rfl
            exact .ite (.ok hpath) (.ite (.ok hpath)
              (.ite (.ok (finish_isOpaque ..)) (.ok (finish_isOpaque ..))))

theorem readRelative_givesSegments {base : Url} (hbase : base.isOpaque = false)
    (text : List Char) : GivesSegments (readRelative base text) := by
  unfold readRelative
  dsimp only
  split
  · exact .ok hbase
  · exact .ok hbase
  · exact .ok hbase
  · refine .ite ?_ (.ok (finish_isOpaque ..))
    split
    · exact readAfterSlashes_givesSegments _ _
    · exact .ite (readAfterSlashes_givesSegments _ _) (.ok (finish_isOpaque ..))

end Segments

section OpaquePaths

/-- Whether a text does not end in a space. -/
def EndsDark (text : List Char) : Prop := text.getLast? ≠ some ' '

theorem withoutTrailingSpaces_of_endsDark {text : List Char} (hend : EndsDark text) :
    withoutTrailingSpaces (String.ofList text) = String.ofList text := by
  have hkept : text.rdropWhile (· = ' ') = text := by
    rw [List.rdropWhile_eq_self_iff]
    intro hne hlast
    exact hend (by rw [List.getLast?_eq_some_getLast hne, of_decide_eq_true hlast])
  unfold withoutTrailingSpaces
  rw [String.toList_ofList]
  exact congrArg String.ofList hkept

/-- What stands after a character in a text ends as the text does. -/
theorem EndsDark.of_cons_suffix {before rest : List Char} {c : Char}
    (hend : EndsDark (before ++ c :: rest)) : EndsDark rest := by
  intro hlast
  apply hend
  rw [List.getLast?_append, List.getLast?_cons, hlast]
  rfl

/-- The characters that are cut off at both ends of a text. -/
def isBlank (c : Char) : Bool := c.toNat ≤ 0x20

/-- A character that stays at the end of a text is not dropped. -/
theorem isDropped_of_not_isBlank {c : Char} (hblank : ¬ isBlank c) : isDropped c = false := by
  rw [Bool.eq_false_iff]
  intro hdropped
  simp only [isDropped, Bool.or_eq_true, decide_eq_true_eq] at hdropped
  rcases hdropped with (rfl | rfl) | rfl <;> exact hblank rfl

/-- A prepared text has no blank at its end. -/
theorem prepare_endsDark (text : String) : EndsDark (prepare text) := by
  generalize htrimmed : (text.toList.dropWhile isBlank).rdropWhile isBlank = trimmed
  have hprepare : prepare text = trimmed.filter fun c => !isDropped c := by
    rw [← htrimmed]
    rfl
  rw [hprepare]
  intro hspace
  by_cases hempty : trimmed = []
  · rw [hempty] at hspace
    cases hspace
  · have hlast : ¬ isBlank (trimmed.getLast hempty) := by
      subst htrimmed
      exact List.rdropWhile_last_not _ _ hempty
    rw [← List.dropLast_append_getLast hempty, List.filter_append, List.filter_singleton,
      isDropped_of_not_isBlank hlast, Bool.not_false, cond_true, List.getLast?_concat] at hspace
    rw [Option.some.inj hspace] at hlast
    exact hlast rfl

theorem splitScheme?_eq_some {text rest : List Char} {scheme : String}
    (hsplit : splitScheme? text = some (scheme, rest)) :
    ∃ before, text = before ++ ':' :: rest := by
  unfold splitScheme? at hsplit
  split at hsplit
  · next first more =>
      split at hsplit
      · split at hsplit
        · next after hafter =>
            cases hsplit
            refine ⟨(first :: more).takeWhile isSchemeChar, ?_⟩
            rw [← hafter, List.takeWhile_append_dropWhile]
        · cases hsplit
      · cases hsplit
  · cases hsplit

/-- Encoding the characters of an opaque path brings no space to its end. -/
theorem encode_endsDark {text : List Char} (hend : EndsDark text) :
    EndsDark (Percent.encode [] text) := by
  rcases List.eq_nil_or_concat text with rfl | ⟨before, last, rfl⟩
  · exact hend
  · have hencode : Percent.encode [] (before.concat last) =
        Percent.encode [] before ++ Percent.encodeChar [] last := by
      rw [List.concat_eq_append, Percent.encode, List.flatMap_append, List.flatMap_singleton]
      rfl
    intro hspace
    rw [hencode, List.getLast?_append_of_ne_nil _ (Percent.encodeChar_ne_nil [] last)] at hspace
    have hlast : last = ' ' :=
      Percent.eq_of_mem_encodeChar (List.mem_of_getLast? hspace) (by decide) (by decide)
    exact hend (by rw [List.concat_eq_append, List.getLast?_concat, hlast])

/-- What gives neither a query nor a fragment starts with neither sign. -/
theorem not_ends_of_readTail {special : Bool} {c : Char} {rest : List Char}
    (hquery : (readTail special (c :: rest)).1 = none)
    (hfragment : (readTail special (c :: rest)).2 = none) : c ≠ '?' ∧ c ≠ '#' := by
  constructor
  · rintro rfl
    cases hdrop : rest.dropWhile (fun c => decide (c ≠ '#')) with
    | nil =>
        rw [readTail, hdrop] at hquery
        cases hquery
    | cons sign fragment =>
        rw [readTail, hdrop] at hquery
        cases hquery
  · rintro rfl
    cases hfragment

/-- Whether a character stays in an opaque path. -/
def staysInPath (c : Char) : Bool := !(decide (c = '?') || decide (c = '#'))

/-- A text that goes on neither with a query nor with a fragment after its path is all path. -/
theorem takeWhile_staysInPath {special : Bool} {text : List Char}
    (hquery : (readTail special (text.dropWhile staysInPath)).1 = none)
    (hfragment : (readTail special (text.dropWhile staysInPath)).2 = none) :
    text.takeWhile staysInPath = text := by
  have hparts := List.takeWhile_append_dropWhile (p := staysInPath) (l := text)
  cases hrest : text.dropWhile staysInPath with
  | nil => rwa [hrest, List.append_nil] at hparts
  | cons c rest =>
      rw [hrest] at hquery hfragment
      have hstays : staysInPath c = false := by
        have hhead := List.head?_dropWhile_not staysInPath text
        rwa [hrest] at hhead
      have hends := not_ends_of_readTail hquery hfragment
      exact absurd hstays (by simp [staysInPath, hends])

/-- An opaque path that ends the text it is read from has no space at its end. -/
theorem settled_of_readOther {scheme : String} {text : List Char} {u : Url}
    (hscheme : isSpecial scheme = false) (hend : EndsDark text)
    (hread : readOther scheme text = .ok u) : u.Settled := by
  unfold readOther at hread
  split at hread
  · exact settled_of_not_isOpaque (readAfterSlashes_givesSegments _ _ u hread)
  · cases hread
    exact settled_of_not_isOpaque (finish_isOpaque ..)
  · cases hread
    refine ⟨fun _ => hscheme, fun path hpath hquery hfragment => ?_⟩
    cases hpath
    have hdrop : text.drop (text.takeWhile staysInPath).length = text.dropWhile staysInPath := by
      have hleft : (text.takeWhile staysInPath ++ text.dropWhile staysInPath).drop
          (text.takeWhile staysInPath).length = text.dropWhile staysInPath := List.drop_left
      rwa [List.takeWhile_append_dropWhile] at hleft
    change (readTail false (text.drop (text.takeWhile staysInPath).length)).1 = none at hquery
    change (readTail false (text.drop (text.takeWhile staysInPath).length)).2 = none at hfragment
    rw [hdrop] at hquery hfragment
    have hkept := withoutTrailingSpaces_of_endsDark (encode_endsDark hend)
    rw [← takeWhile_staysInPath hquery hfragment] at hkept
    exact hkept

end OpaquePaths

theorem settled_readFragmentOnly {base : Url} (hbase : base.Settled) (text : List Char) :
    (readFragmentOnly base text).Settled := ⟨hbase.scheme, fun _ _ _ hfragment => nomatch hfragment⟩

theorem settled_of_readAfterScheme {base : Option Url} {scheme : String} {text : List Char}
    {u : Url} (hbase : ∀ b, base = some b → b.Settled) (hend : EndsDark text)
    (hread : readAfterScheme base scheme text = .ok u) : u.Settled := by
  -- Only a base with the same scheme is read against, and with a special one it is not opaque.
  have hsame : isSpecial scheme = true → ∀ b, base.filter (fun u => u.scheme = scheme) = some b →
      b.isOpaque = false := by
    intro hspecial b hb
    obtain ⟨hmem, heq⟩ := Option.filter_eq_some_iff.mp hb
    rw [Bool.eq_false_iff]
    intro hisPlain
    have hplain := (hbase b hmem).scheme hisPlain
    rw [of_decide_eq_true heq, hspecial] at hplain
    cases hplain
  unfold readAfterScheme at hread
  dsimp only at hread
  split at hread
  · next hfile =>
      refine settled_of_not_isOpaque (readFile_givesSegments (hsame ?_) text u hread)
      rw [hfile]
      rfl
  · split at hread
    · next hspecial =>
        refine settled_of_not_isOpaque ?_
        split at hread
        · next b hb =>
            split at hread
            · exact readRelative_givesSegments (hsame hspecial b hb) text u hread
            · exact readAfterSlashes_givesSegments _ _ u hread
        · exact readAfterSlashes_givesSegments _ _ u hread
    · next hspecial =>
        exact settled_of_readOther (Bool.eq_false_iff.mpr hspecial) hend hread

theorem settled_of_parseWith {base : Option Url} {text : String} {u : Url}
    (hbase : ∀ b, base = some b → b.Settled) (hread : parseWith base text = .ok u) :
    u.Settled := by
  unfold parseWith at hread
  dsimp only at hread
  cases hsplit : splitScheme? (prepare text) with
  | some parts =>
      obtain ⟨scheme, rest⟩ := parts
      rw [hsplit] at hread
      obtain ⟨before, htext⟩ := splitScheme?_eq_some hsplit
      have hend := prepare_endsDark text
      rw [htext] at hend
      exact settled_of_readAfterScheme hbase hend.of_cons_suffix hread
  | none =>
      rw [hsplit] at hread
      cases base with
      | none => cases hread
      | some base =>
          dsimp only at hread
          split at hread
          · cases hread
            exact settled_readFragmentOnly (hbase base rfl) _
          · split at hread
            · cases hread
            · next hisPlain =>
                have hsegments : base.isOpaque = false := Bool.eq_false_iff.mpr hisPlain
                refine settled_of_not_isOpaque ?_
                split at hread
                · refine readFile_givesSegments (fun b hb => ?_) _ u hread
                  exact Option.some.inj hb ▸ hsegments
                · exact readRelative_givesSegments hsegments _ u hread

theorem Settled.withoutFragment {u : Url} (hu : u.Settled) : u.withoutFragment.Settled := by
  obtain ⟨fragment, path, query, authority, scheme⟩ := u
  cases path with
  | segments text => exact settled_of_not_isOpaque rfl
  | plain text =>
      refine ⟨fun _ => by cases query <;> exact hu.scheme rfl, fun shown hpath hquery _ => ?_⟩
      cases query with
      | some query => cases hquery
      | none =>
          cases hpath
          exact withoutTrailingSpaces_idem text

theorem Attainable.settled {u : Url} (hu : u.Attainable) : u.Settled := by
  induction hu with
  | parse hparse => exact settled_of_parseWith (by rintro b ⟨⟩) hparse
  | resolve _ hresolve ih =>
      exact settled_of_parseWith (fun b hb => Option.some.inj hb ▸ ih) hresolve
  | withoutFragment _ ih => exact ih.withoutFragment
  | withFragment text _ ih => exact ⟨ih.scheme, fun _ _ _ hfragment => nomatch hfragment⟩

/-- A URL that was come by and has no fragment is a base. -/
theorem Attainable.isBase {u : Url} (hu : u.Attainable) (hfragment : u.fragment = none) :
    u.IsBase := by
  have hpath := hu.settled.path
  obtain ⟨fragment, path, query, authority, scheme⟩ := u
  cases hfragment
  unfold IsBase Url.withoutFragment
  cases path with
  | segments text => rfl
  | plain text =>
      cases query with
      | some query => rfl
      | none =>
          dsimp only
          rw [hpath text rfl rfl rfl]

end Url

/-- A location says all of what it was made of. Its fragment is read as the pointer, two locations
are the same only if their bases and their pointers are, and a location taken for the base of
its own pointer is its own location. -/
theorem location_faithful {base other : Url} (hbase : base.Attainable)
    (hfragment : base.fragment = none) (hother : other.Attainable)
    (hfragment' : other.fragment = none) (p q : JsonPointer) :
    JsonPointer.parse ((location base p).fragment.getD "") = .ok p ∧
      (location base p = location other q → base = other ∧ p = q) ∧
      location (location base p) p = location base p := by
  have hisBase := hbase.isBase hfragment
  refine ⟨pointer_location base p, fun heq => ⟨?_, ?_⟩, ?_⟩
  · rw [← hisBase.bare_location p, heq]
    exact (hother.isBase hfragment').bare_location q
  · have hread := pointer_location base p
    rw [heq, pointer_location other q] at hread
    exact (Except.ok.inj hread).symm
  · unfold location
    split
    · exact Url.withoutFragment_idem base
    · rfl

/-- A base with spaces in an opaque path. -/
def opaqueBase : Url := ⟨none, .plain "a b", none, none, "urn"⟩

/-- Tokens with all characters that mean something to one of the encodings. -/
def oddPointer : JsonPointer := ⟨["", "a/b~%#", "~1 \t\n%41é"]⟩

theorem location_faithful_odd :
    (Url.parse "json-schema:///" = .ok defaultBase ∧ defaultBase.fragment = none) ∧
    (Url.parse "urn:a b" = .ok opaqueBase ∧ opaqueBase.fragment = none) ∧
    JsonPointer.parse ((location opaqueBase oddPointer).fragment.getD "") = .ok oddPointer ∧
      (location opaqueBase oddPointer = location defaultBase ⟨["b"]⟩ →
        opaqueBase = defaultBase ∧ oddPointer = ⟨["b"]⟩) ∧
      location (location opaqueBase oddPointer) oddPointer = location opaqueBase oddPointer := by
  have hdefault : Url.parse "json-schema:///" = .ok defaultBase := by decide +kernel
  have hisPlain : Url.parse "urn:a b" = .ok opaqueBase := by decide +kernel
  exact ⟨⟨hdefault, rfl⟩, ⟨hisPlain, rfl⟩,
    location_faithful (.parse hisPlain) rfl (.parse hdefault) rfl oddPointer ⟨["b"]⟩⟩

example : (location opaqueBase oddPointer).render =
    "urn:a b#//a~1b~0%25#/~01%20%09%0A%2541%C3%A9" := by decide +kernel

end SchemaRegistry

import SchemaRegistry.Proofs.Addressing.Location

/-!
Pointers as texts. No two pointers have the same written form, and the written form of a pointer is
read back, unless a percent sign in a token is taken for the start of an escape. A text is the
written form of what is read from it if, once percent-encoding is undone, each tilde in it stands in
front of `0` or `1`.
-/

namespace SchemaRegistry

namespace Utf8

/-- A byte below 128 is all of the character that it belongs to. -/
theorem eq_ofNat_of_mem_utf8EncodeChar {c : Char} {b : UInt8}
    (hmem : b ∈ String.utf8EncodeChar c) (hascii : b.toNat < 128) : c = Char.ofNat b.toNat := by
  rw [String.utf8EncodeChar] at hmem
  split at hmem
  · next hsmall =>
      obtain rfl := List.mem_singleton.mp hmem
      rw [UInt8.toNat_ofNat', Nat.mod_eq_of_lt (by omega)]
      exact (Char.ofNat_toNat c).symm
  · -- All bytes of longer encodings are above.
    obtain ⟨n, hlower, hupper, rfl⟩ : ∃ n, 128 ≤ n ∧ n < 256 ∧ b = UInt8.ofNat n := by
      split at hmem
      · simp only [List.mem_cons, List.not_mem_nil, or_false] at hmem
        rcases hmem with rfl | rfl <;> exact ⟨_, by omega, by omega, rfl⟩
      · split at hmem
        · simp only [List.mem_cons, List.not_mem_nil, or_false] at hmem
          rcases hmem with rfl | rfl | rfl <;> exact ⟨_, by omega, by omega, rfl⟩
        · simp only [List.mem_cons, List.not_mem_nil, or_false] at hmem
          rcases hmem with rfl | rfl | rfl | rfl <;> exact ⟨_, by omega, by omega, rfl⟩
    rw [UInt8.toNat_ofNat', Nat.mod_eq_of_lt hupper] at hascii
    omega

end Utf8

namespace Percent

theorem decodeBytes_of_not_mem {bytes : List UInt8} (hsign : 0x25 ∉ bytes) :
    decodeBytes bytes = bytes := by
  induction bytes with
  | nil => rfl
  | cons b bytes ih =>
      rw [List.mem_cons, not_or] at hsign
      rw [decodeBytes_cons_of_ne (Ne.symm hsign.1), ih hsign.2]

/-- A text without percent signs is left as it is. -/
theorem decode?_of_not_mem {text : List Char} (hsign : '%' ∉ text) : decode? text = some text := by
  have hbytes : (0x25 : UInt8) ∉ Utf8.encode text := by
    intro hmem
    obtain ⟨c, hc, hbyte⟩ := List.mem_flatMap.mp hmem
    have hpercent : c = '%' := Utf8.eq_ofNat_of_mem_utf8EncodeChar hbyte (by decide)
    exact hsign (hpercent ▸ hc)
  unfold decode?
  rw [decodeBytes_of_not_mem hbytes, Utf8.decode?_encode]

end Percent

namespace JsonPointer

theorem render_injective : Function.Injective render := by
  intro p q hrender
  have hwritten : p.written = q.written := String.ofList_injective hrender
  have hread := ofDecoded_written p
  rw [hwritten, ofDecoded_written] at hread
  exact (Except.ok.inj hread).symm

/-- Escaping brings in no new character but `~`, `0` and `1`. -/
theorem mem_of_mem_escape {token : List Char} {c : Char} (hmem : c ∈ escape token) :
    c ∈ token ∨ c = '~' ∨ c = '0' ∨ c = '1' := by
  fun_induction escape token with
  | case1 => exact absurd hmem List.not_mem_nil
  | case2 rest ih => grind
  | case3 rest ih => grind
  | case4 d rest htilde hslash ih => grind

/-- A pointer without percent signs is read back from its written form. -/
theorem parse_render {p : JsonPointer} (hsign : ∀ token ∈ p.tokens, '%' ∉ token.toList) :
    parse p.render = .ok p := by
  have hwritten : '%' ∉ p.written := by
    intro hmem
    obtain ⟨token, htoken, hc⟩ := List.mem_flatMap.mp hmem
    rcases List.mem_cons.mp hc with hslash | hescape
    · exact absurd hslash (by decide)
    · rcases mem_of_mem_escape hescape with hc | hc | hc | hc
      · exact hsign token htoken hc
      all_goals exact absurd hc (by decide)
  unfold parse render
  rw [String.toList_ofList, Percent.decode?_of_not_mem hwritten]
  exact ofDecoded_written p

/-- Whether each tilde of a text starts an escape. -/
def TildesEscape (text : List Char) : Prop :=
  ∀ index : Nat, text[index]? = some '~' →
    text[index + 1]? = some '0' ∨ text[index + 1]? = some '1'

instance (text : List Char) : Decidable (TildesEscape text) :=
  decidable_of_iff (∀ index < text.length, text[index]? = some '~' →
      text[index + 1]? = some '0' ∨ text[index + 1]? = some '1')
    ⟨fun hbounded index hindex => hbounded index (List.getElem?_eq_some_iff.mp hindex).1 hindex,
      fun hescape index _ => hescape index⟩

theorem TildesEscape.tail {c : Char} {rest : List Char} (hescape : TildesEscape (c :: rest)) :
    TildesEscape rest := fun index => hescape (index + 1)

/-- A text in which each tilde starts an escape is what is left of a written form after its first
slash. -/
theorem exists_written {text : List Char} (hescape : TildesEscape text) :
    ∃ (token : List Char) (tokens : List String),
      text = escape token ++ written ⟨tokens⟩ := by
  induction text using unescape.induct with
  | case1 rest ih =>
      obtain ⟨token, tokens, hrest⟩ := ih hescape.tail.tail
      exact ⟨'/' :: token, tokens, by rw [hrest]; rfl⟩
  | case2 rest ih =>
      obtain ⟨token, tokens, hrest⟩ := ih hescape.tail.tail
      exact ⟨'~' :: token, tokens, by rw [hrest]; rfl⟩
  | case3 c rest hone hzero ih =>
      rcases hescape 0 rfl with hnext | hnext
      · exact absurd (Option.some.inj hnext) hzero
      · exact absurd (Option.some.inj hnext) hone
  | case4 c rest hone hzero hother ih =>
      obtain ⟨token, tokens, hrest⟩ := ih hescape.tail
      have htilde : c ≠ '~' := by
        rintro rfl
        cases rest with
        | nil => exact absurd (hescape 0 rfl) (by simp)
        | cons d more => exact hother d more rfl rfl
      by_cases hslash : c = '/'
      · refine ⟨[], String.ofList token :: tokens, ?_⟩
        rw [hslash, hrest]
        simp [written, escape]
      · refine ⟨c :: token, tokens, ?_⟩
        rw [hrest, escape]
        · rfl
        · exact htilde
        · exact hslash
  | case5 => exact ⟨[], [], rfl⟩

/-- A text from which percent-encoding has been removed is the written form of what is read from it
if each of its tildes starts an escape. -/
theorem written_of_ofDecoded {text : List Char} {p : JsonPointer} (hread : ofDecoded text = .ok p)
    (hescape : TildesEscape text) : p.written = text := by
  unfold ofDecoded at hread
  split at hread
  · cases hread
    rfl
  · next rest =>
      obtain ⟨token, tokens, hrest⟩ := exists_written hescape.tail
      have hwritten : written ⟨String.ofList token :: tokens⟩ = '/' :: rest := by
        rw [hrest]
        simp [written]
      have hagain := ofDecoded_written ⟨String.ofList token :: tokens⟩
      rw [hwritten] at hagain
      rw [← hwritten]
      exact congrArg written (Except.ok.inj (hread.symm.trans hagain))
  · cases hread

/-- Texts and sequences of tokens go back and forth. Different pointers have different written
forms; the written form of a pointer without percent signs is read as this pointer; and a text that
is read as a pointer, and in which each tilde starts an escape once percent-encoding is undone, is
then the written form of the pointer. -/
theorem texts_and_tokens :
    Function.Injective render ∧
    (∀ p : JsonPointer, (∀ token ∈ p.tokens, '%' ∉ token.toList) → parse p.render = .ok p) ∧
    ∀ (text : String) (p : JsonPointer), parse text = .ok p →
      ∃ decoded, Percent.decode? text.toList = some decoded ∧
        (TildesEscape decoded → p.render = String.ofList decoded) := by
  refine ⟨render_injective, fun p => parse_render, fun text p hparse => ?_⟩
  unfold parse at hparse
  split at hparse
  · next decoded hdecoded =>
      refine ⟨decoded, hdecoded, fun hescape => ?_⟩
      rw [render, written_of_ofDecoded hparse hescape]
  · cases hparse

/-- A pointer whose tokens look like escapes, and a text of another pointer. -/
theorem texts_and_tokens_escaped :
    (JsonPointer.mk []).render ≠ (JsonPointer.mk [""]).render ∧
      parse (JsonPointer.mk ["~1", "", "a/b"]).render = .ok ⟨["~1", "", "a/b"]⟩ ∧
      parse "/%7E01//a~1b" = .ok ⟨["~1", "", "a/b"]⟩ ∧
      (JsonPointer.mk ["~1", "", "a/b"]).render = "/~01//a~1b" := by
  obtain ⟨hinjective, hrender, htext⟩ := texts_and_tokens
  have hsign : ∀ token ∈ ["~1", "", "a/b"], '%' ∉ token.toList := by decide +kernel
  have hparse : parse "/%7E01//a~1b" = .ok ⟨["~1", "", "a/b"]⟩ := by decide +kernel
  refine ⟨fun heq => absurd (hinjective heq) (by decide), hrender _ hsign, hparse, ?_⟩
  obtain ⟨decoded, hdecoded, hwritten⟩ := htext _ _ hparse
  have hvalue : Percent.decode? "/%7E01//a~1b".toList = some "/~01//a~1b".toList := by
    decide +kernel
  obtain rfl := Option.some.inj (hvalue.symm.trans hdecoded)
  exact hwritten (by decide +kernel)

end JsonPointer

end SchemaRegistry

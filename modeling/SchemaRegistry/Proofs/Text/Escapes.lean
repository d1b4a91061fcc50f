import SchemaRegistry.Pattern.Dialect
import SchemaRegistry.Proofs.Addressing.Location

/-!
How the readers of escapes take a text in which the sign that starts an escape is repeated. A token
of a pointer is compared with what one pass over it decodes, a tilde at a time, and a pattern with
what its escapes stand for when they are told apart from left to right. In both cases the two differ
exactly if somewhere an even number of signs stands in front of what would make an escape of the
last of them: there a tilde hides the next one, and a backslash that another one escapes is taken
for the start of a control escape.
-/

namespace SchemaRegistry

/-- Whether an even number of signs, and no further one before them, stands in front of a text of
some kind. -/
def EvenRun (sign : Char) (Starts : List Char → Prop) (text : List Char) : Prop :=
  ∃ (before after : List Char) (n : Nat),
    text = before ++ (List.replicate (2 * n + 2) sign ++ after) ∧ before.getLast? ≠ some sign ∧
      Starts after

namespace EvenRun

variable {sign : Char} {Starts : List Char → Prop}

theorem two_le_length {text : List Char} (hrun : EvenRun sign Starts text) : 2 ≤ text.length := by
  obtain ⟨before, after, n, rfl, -, -⟩ := hrun
  simp only [List.length_append, List.length_replicate]
  omega

theorem getLast?_cons_eq_iff {c : Char} (hc : c ≠ sign) (before : List Char) :
    (c :: before).getLast? = some sign ↔ before.getLast? = some sign := by
  cases before with
  | nil => simp [hc]
  | cons d before => rw [List.getLast?_cons_cons]

/-- A character that is no sign is in no run. -/
theorem cons_iff {c : Char} (hc : c ≠ sign) (rest : List Char) :
    EvenRun sign Starts (c :: rest) ↔ EvenRun sign Starts rest := by
  constructor
  · rintro ⟨before, after, n, htext, hlast, hstarts⟩
    cases before with
    | nil => exact absurd (List.cons.inj htext).1 hc
    | cons d before =>
        obtain ⟨rfl, hrest⟩ := List.cons.inj htext
        exact ⟨before, after, n, hrest, mt (getLast?_cons_eq_iff hc before).mpr hlast, hstarts⟩
  · rintro ⟨before, after, n, rfl, hlast, hstarts⟩
    exact ⟨c :: before, after, n, rfl, mt (getLast?_cons_eq_iff hc before).mp hlast, hstarts⟩

/-- A sign that stands alone is no run of an even number of signs. -/
theorem single_iff {c : Char} (hc : c ≠ sign) (rest : List Char) :
    EvenRun sign Starts (sign :: c :: rest) ↔ EvenRun sign Starts rest := by
  constructor
  · rintro ⟨before, after, n, htext, hlast, hstarts⟩
    match before with
    | [] => exact absurd (List.cons.inj (List.cons.inj htext).2).1 hc
    | [d] => exact absurd (congrArg some (List.cons.inj htext).1.symm) hlast
    | d :: e :: before =>
        obtain ⟨rfl, hrest⟩ := List.cons.inj (List.cons.inj htext).2
        rw [List.getLast?_cons_cons] at hlast
        exact ⟨before, after, n, hrest, mt (getLast?_cons_eq_iff hc before).mpr hlast, hstarts⟩
  · rintro ⟨before, after, n, rfl, hlast, hstarts⟩
    refine ⟨sign :: c :: before, after, n, rfl, ?_, hstarts⟩
    rw [List.getLast?_cons_cons]
    exact mt (getLast?_cons_eq_iff hc before).mp hlast

/-- Two signs are a run by themselves, or they make a run of the signs after them longer. -/
theorem pair_iff (rest : List Char) :
    EvenRun sign Starts (sign :: sign :: rest) ↔ Starts rest ∨ EvenRun sign Starts rest := by
  constructor
  · rintro ⟨before, after, n, htext, hlast, hafter⟩
    match before with
    | [] =>
        obtain rfl : rest = List.replicate (2 * n) sign ++ after :=
          (List.cons.inj (List.cons.inj htext).2).2
        cases n with
        | zero => exact Or.inl hafter
        | succ n => exact Or.inr ⟨[], after, n, rfl, hlast, hafter⟩
    | [d] => exact absurd (congrArg some (List.cons.inj htext).1.symm) hlast
    | d :: e :: before =>
        obtain ⟨rfl, hrest⟩ := List.cons.inj (List.cons.inj htext).2
        rw [List.getLast?_cons_cons] at hlast
        refine Or.inr ⟨before, after, n, hrest, fun hsign => hlast ?_, hafter⟩
        rw [List.getLast?_cons, hsign, Option.getD_some]
  · rintro (hrest | ⟨before, after, n, rfl, hlast, hafter⟩)
    · exact ⟨[], rest, 0, rfl, by simp, hrest⟩
    · cases before with
      | nil => exact ⟨[], after, n + 1, rfl, hlast, hafter⟩
      | cons c before =>
          refine ⟨sign :: sign :: c :: before, after, n, rfl, ?_, hafter⟩
          rwa [List.getLast?_cons_cons, List.getLast?_cons_cons]

end EvenRun

/-- How two readings of a text compare: the first is shorter under a condition, and else it is the
same. -/
def ShorterIf (p : Prop) (first second : List Char) : Prop :=
  p ∧ first.length < second.length ∨ ¬ p ∧ first = second

namespace ShorterIf

variable {p q : Prop} {first second : List Char}

theorem length_le (hshorter : ShorterIf p first second) : first.length ≤ second.length := by
  rcases hshorter with ⟨-, hless⟩ | ⟨-, rfl⟩
  · exact Nat.le_of_lt hless
  · exact Nat.le_refl _

theorem eq_iff (hshorter : ShorterIf p first second) : first = second ↔ ¬ p := by
  rcases hshorter with ⟨hp, hless⟩ | ⟨hp, heq⟩
  · refine ⟨fun heq => ?_, fun hnot => absurd hp hnot⟩
    rw [heq] at hless
    exact absurd hless (Nat.lt_irrefl _)
  · exact iff_of_true heq hp

/-- What both readings begin with does not count. -/
theorem append (hshorter : ShorterIf p first second) (hiff : q ↔ p) (start : List Char) :
    ShorterIf q (start ++ first) (start ++ second) := by
  unfold ShorterIf
  rw [hiff, List.length_append, List.length_append, Nat.add_lt_add_iff_left,
    List.append_cancel_left_eq]
  exact hshorter

end ShorterIf

namespace JsonPointer

/-- Reads one token in a single pass. A `~` that is followed by neither `0` nor `1` is kept, and the
character after it is looked at next. -/
def decode : List Char → List Char
  | '~' :: '1' :: rest => '/' :: decode rest
  | '~' :: '0' :: rest => '~' :: decode rest
  | c :: rest => c :: decode rest
  | [] => []

attribute [local simp] unescape decode

theorem decode_cons_of_ne {c : Char} (hc : c ≠ '~') (rest : List Char) :
    decode (c :: rest) = c :: decode rest := by
  simp [hc]

/-- Whether a `~` in front of the text would start an escape. -/
def EndsEscape (text : List Char) : Prop := text.head? = some '0' ∨ text.head? = some '1'

theorem decode_tilde {text : List Char} (hends : ¬ EndsEscape text) :
    decode ('~' :: text) = '~' :: decode text := by
  rw [decode]
  · rintro rest - rfl
    exact hends (Or.inr rfl)
  · rintro rest - rfl
    exact hends (Or.inl rfl)

/-- An escape is decoded to as many characters as there are after its tilde. -/
theorem length_decode_tilde {text : List Char} (hends : EndsEscape text) :
    (decode ('~' :: text)).length = (decode text).length := by
  cases text with
  | nil => simp [EndsEscape] at hends
  | cons c rest =>
      rcases hends with hc | hc
      · obtain rfl := Option.some.inj hc
        rw [decode, decode_cons_of_ne (by decide) rest, List.length_cons, List.length_cons]
      · obtain rfl := Option.some.inj hc
        rw [decode, decode_cons_of_ne (by decide) rest, List.length_cons, List.length_cons]

/-- Decoding in a single pass leaves less than reading if a tilde is read together with the tilde
before it although an escape ends after it, and else the same. -/
theorem decode_shorterIf (segment : List Char) :
    ShorterIf (EvenRun '~' EndsEscape segment) (decode segment) (unescape segment) := by
  induction segment using unescape.induct with
  | case1 rest ih => exact ih.append (EvenRun.single_iff (by decide) rest) ['/']
  | case2 rest ih => exact ih.append (EvenRun.single_iff (by decide) rest) ['~']
  | case3 c rest hone hzero ih =>
      have hread : unescape ('~' :: c :: rest) = '~' :: c :: unescape rest := by
        rw [unescape]
        · exact hone
        · exact hzero
      have hkept : ¬ EndsEscape (c :: rest) := by
        simp only [EndsEscape, List.head?_cons, Option.some.injEq, not_or]
        exact ⟨hzero, hone⟩
      rw [hread, decode_tilde hkept]
      by_cases htilde : c = '~'
      · subst htilde
        by_cases hends : EndsEscape rest
        -- The escape after the two tildes is decoded, and is not read.
        · refine Or.inl ⟨(EvenRun.pair_iff rest).mpr (Or.inl hends), ?_⟩
          have hle := ih.length_le
          simp only [List.length_cons, length_decode_tilde hends]
          omega
        · rw [decode_tilde hends]
          exact ih.append ((EvenRun.pair_iff rest).trans (or_iff_right hends)) ['~', '~']
      · rw [decode_cons_of_ne htilde]
        exact ih.append (EvenRun.single_iff htilde rest) ['~', c]
  | case4 c rest hone hzero hother ih =>
      by_cases htilde : c = '~'
      · subst htilde
        cases rest with
        | nil =>
            refine Or.inr ⟨fun hrun => ?_, rfl⟩
            exact absurd hrun.two_le_length (by decide)
        | cons d more => exact absurd rfl (hother d more rfl)
      · rw [decode_cons_of_ne htilde, unescape_cons_of_ne htilde]
        exact ih.append (EvenRun.cons_iff htilde rest) [c]
  | case5 => exact Or.inr ⟨fun hrun => absurd hrun.two_le_length (by decide), rfl⟩

/-- What a token is read as is what one pass over it decodes, exactly if in front of no `0` or `1`
there is an even number of tildes. -/
theorem unescape_eq_decode_iff (segment : List Char) :
    unescape segment = decode segment ↔ ¬ EvenRun '~' EndsEscape segment :=
  eq_comm.trans (decode_shorterIf segment).eq_iff

/-- The second of two tildes does not start an escape. -/
theorem doubled_tilde_kept :
    '/' ∉ "~~1".toList ∧ unescape "~~1".toList = "~~1".toList ∧
      decode "~~1".toList = "~/".toList ∧ unescape "~~1".toList ≠ decode "~~1".toList ∧
      parse "/~~1" = .ok ⟨["~~1"]⟩ := by
  refine ⟨?_, ?_, ?_, ?_, ?_⟩ <;> decide +kernel

end JsonPointer

namespace Dialect

/-- The parts of a pattern that are told apart before it is known what they mean. -/
inductive Token where
  /-- A control escape, with the letter in it. -/
  | control (letter : Char)
  /-- Any other pair of a backslash and the character after it. -/
  | escape (c : Char)
  /-- A backslash that nothing follows. -/
  | lone
  /-- A character that no backslash escapes. -/
  | plain (c : Char)
  deriving DecidableEq

namespace Token

/-- What a token is written as. -/
def text : Token → List Char
  | control letter => ['\\', 'c', letter]
  | escape c => ['\\', c]
  | lone => ['\\']
  | plain c => [c]

/-- What a token stands for. -/
def image : Token → List Char
  | control letter => [Dialect.control letter]
  | escape c => (classOf? c).getD ['\\', c]
  | lone => ['\\']
  | plain c => [c]

end Token

/-- The tokens of a pattern from left to right. -/
def tokens : List Char → List Token
  | '\\' :: 'c' :: letter :: rest =>
    if letter.isAlpha then .control letter :: tokens rest
    else .escape 'c' :: tokens (letter :: rest)
  | '\\' :: c :: rest => .escape c :: tokens rest
  | ['\\'] => [.lone]
  | c :: rest => .plain c :: tokens rest
  | [] => []

attribute [local simp] tokens Token.text expandControls expandClasses

theorem flatMap_text_tokens (pattern : List Char) :
    (tokens pattern).flatMap Token.text = pattern := by
  induction pattern using tokens.induct with
  | case1 letter rest halpha ih => simp [halpha, ih]
  | case2 letter rest halpha ih => simp [halpha, ih]
  | case3 c rest hletter ih => simp [ih]
  | case4 => simp
  | case5 c rest hcontrol hescape hlone ih => simp [ih]
  | case6 => simp

/-- Whether a backslash in front of the text would start a control escape. -/
def EndsControl (text : List Char) : Prop :=
  ∃ letter rest, text = 'c' :: letter :: rest ∧ letter.isAlpha = true

theorem expandControls_cons_of_ne {c : Char} (hc : c ≠ '\\') (rest : List Char) :
    expandControls (c :: rest) = c :: expandControls rest := by
  simp [hc]

theorem expandControls_backslash {text : List Char} (hends : ¬ EndsControl text) :
    expandControls ('\\' :: text) = '\\' :: expandControls text := by
  by_cases hc : ∃ letter rest, text = 'c' :: letter :: rest
  · obtain ⟨letter, rest, rfl⟩ := hc
    have halpha : ¬ letter.isAlpha = true := fun halpha => hends ⟨letter, rest, rfl, halpha⟩
    rw [expandControls, if_neg halpha, expandControls_cons_of_ne (show 'c' ≠ '\\' by decide)]
  · rw [expandControls]
    exact fun letter rest _ htext => hc ⟨letter, rest, htext⟩

theorem expandClasses_cons_of_ne {c : Char} (hc : c ≠ '\\') (rest : List Char) :
    expandClasses (c :: rest) = c :: expandClasses rest := by
  simp [hc]

theorem toNat_lt_of_isAlpha {letter : Char} (halpha : letter.isAlpha = true) :
    letter.toNat < 123 := by
  unfold Char.isAlpha Char.isUpper Char.isLower at halpha
  simp only [Bool.or_eq_true, Bool.and_eq_true, decide_eq_true_eq, ge_iff_le,
    UInt32.le_iff_toNat_le] at halpha
  have hupper : 'Z'.val.toNat = 90 := rfl
  have hlower : 'z'.val.toNat = 122 := rfl
  change letter.val.toNat < 123
  omega

theorem ne_backslash_of_isAlpha {letter : Char} (halpha : letter.isAlpha = true) :
    letter ≠ '\\' := by
  rintro rfl
  exact absurd halpha (by decide)

/-- What a control escape stands for is neither a backslash nor the name of a class. -/
theorem control_plain {letter : Char} (halpha : letter.isAlpha = true) :
    control letter ≠ '\\' ∧ classOf? (control letter) = none := by
  have hall : ∀ n < 123, control (Char.ofNat n) ≠ '\\' ∧
      classOf? (control (Char.ofNat n)) = none := by decide +kernel
  rw [← Char.ofNat_toNat letter]
  exact hall _ (toNat_lt_of_isAlpha halpha)

theorem expand_cons_of_ne {c : Char} (hc : c ≠ '\\') (rest : List Char) :
    expand (c :: rest) = c :: expand rest := by
  unfold expand
  rw [expandControls_cons_of_ne hc, expandClasses_cons_of_ne hc]

/-- A control escape after a single backslash. -/
theorem expand_control {letter : Char} (halpha : letter.isAlpha = true) (rest : List Char) :
    expand ('\\' :: 'c' :: letter :: rest) = control letter :: expand rest := by
  unfold expand
  rw [expandControls, if_pos halpha, expandClasses_cons_of_ne (control_plain halpha).1]

/-- Any other escape of a character that is no backslash. -/
theorem expand_escape {c : Char} (hc : c ≠ '\\') {rest : List Char}
    (hends : ¬ EndsControl (c :: rest)) :
    expand ('\\' :: c :: rest) = (classOf? c).getD ['\\', c] ++ expand rest := by
  unfold expand
  rw [expandControls_backslash hends, expandControls_cons_of_ne hc, expandClasses]

theorem not_endsControl_backslash (rest : List Char) : ¬ EndsControl ('\\' :: rest) := by
  rintro ⟨letter, more, htext, -⟩
  exact absurd (List.cons.inj htext).1 (by decide)

theorem expand_backslashes {rest : List Char} (hends : ¬ EndsControl rest) :
    expand ('\\' :: '\\' :: rest) = '\\' :: '\\' :: expand rest := by
  unfold expand
  rw [expandControls_backslash (not_endsControl_backslash rest), expandControls_backslash hends,
    expandClasses]
  rfl

/-- A control escape after an escaped backslash is taken for one, and what it stands for is then
escaped. -/
theorem expand_backslashes_control {letter : Char} (halpha : letter.isAlpha = true)
    (rest : List Char) :
    expand ('\\' :: '\\' :: 'c' :: letter :: rest) = '\\' :: control letter :: expand rest := by
  unfold expand
  rw [expandControls_backslash (not_endsControl_backslash _), expandControls, if_pos halpha,
    expandClasses, (control_plain halpha).2]
  rfl

/-- What an escaped backslash in front of a text does to the comparison. -/
theorem expand_backslashes_shorterIf {rest image : List Char}
    (hshorter : ShorterIf (EvenRun '\\' EndsControl rest) (expand rest) image) :
    ShorterIf (EvenRun '\\' EndsControl ('\\' :: '\\' :: rest)) (expand ('\\' :: '\\' :: rest))
      (['\\', '\\'] ++ image) := by
  by_cases hends : EndsControl rest
  -- The four characters of the tokens make place for a backslash and a control character.
  · refine Or.inl ⟨(EvenRun.pair_iff rest).mpr (Or.inl hends), ?_⟩
    have hle := hshorter.length_le
    obtain ⟨letter, more, rfl, halpha⟩ := hends
    rw [expand_cons_of_ne (by decide), expand_cons_of_ne (ne_backslash_of_isAlpha halpha),
      List.length_cons, List.length_cons] at hle
    rw [expand_backslashes_control halpha]
    simp only [List.length_append, List.length_cons, List.length_nil]
    omega
  · rw [expand_backslashes hends]
    exact hshorter.append ((EvenRun.pair_iff rest).trans (or_iff_right hends)) ['\\', '\\']

/-- The text for a pattern is shorter than what its tokens stand for if a control escape is taken
from a backslash that another one escapes, and else the same. -/
theorem expand_shorterIf (pattern : List Char) :
    ShorterIf (EvenRun '\\' EndsControl pattern) (expand pattern)
      ((tokens pattern).flatMap Token.image) := by
  induction pattern using tokens.induct with
  | case1 letter rest halpha ih =>
      have hletter := ne_backslash_of_isAlpha halpha
      rw [expand_control halpha, tokens, if_pos halpha]
      refine ih.append ?_ [control letter]
      exact (EvenRun.single_iff (by decide) _).trans (EvenRun.cons_iff hletter rest)
  | case2 letter rest halpha ih =>
      have hends : ¬ EndsControl ('c' :: letter :: rest) := by
        rintro ⟨_, _, htext, hheld⟩
        cases htext
        exact halpha hheld
      rw [expand_escape (by decide) hends, tokens, if_neg halpha]
      exact ih.append (EvenRun.single_iff (by decide) _) _
  | case3 c rest hletter ih =>
      have htokens : tokens ('\\' :: c :: rest) = .escape c :: tokens rest := by
        rw [tokens]
        exact hletter
      rw [htokens, List.flatMap_cons]
      by_cases hbackslash : c = '\\'
      · subst hbackslash
        exact expand_backslashes_shorterIf ih
      · have hends : ¬ EndsControl (c :: rest) := by
          rintro ⟨letter, more, htext, -⟩
          cases htext
          exact hletter letter more rfl rfl
        rw [expand_escape hbackslash hends]
        exact ih.append (EvenRun.single_iff hbackslash rest) _
  | case4 => exact Or.inr ⟨fun hrun => absurd hrun.two_le_length (by decide), rfl⟩
  | case5 c rest hcontrol hescape hlone ih =>
      have hc : c ≠ '\\' := by
        rintro rfl
        cases rest with
        | nil => exact hlone rfl rfl
        | cons d more => exact hescape d more rfl rfl
      have htokens : tokens (c :: rest) = .plain c :: tokens rest := by
        rw [tokens]
        · exact hcontrol
        · exact hescape
        · exact hlone
      rw [htokens, expand_cons_of_ne hc]
      exact ih.append (EvenRun.cons_iff hc rest) [c]
  | case6 => exact Or.inr ⟨fun hrun => absurd hrun.two_le_length (by decide), rfl⟩

/-- A pattern is the sequence of its tokens, and the text that it is compiled from is what these
stand for, exactly if in front of no `c` with a letter there is an even number of backslashes. -/
theorem expand_eq_image_iff (pattern : List Char) :
    (tokens pattern).flatMap Token.text = pattern ∧
      (expand pattern = (tokens pattern).flatMap Token.image ↔
        ¬ EvenRun '\\' EndsControl pattern) :=
  ⟨flatMap_text_tokens pattern, (expand_shorterIf pattern).eq_iff⟩

/-- The text after an escaped backslash is taken for a part of an escape. -/
theorem escaped_backslash_taken :
    tokens "\\\\cA".toList = [.escape '\\', .plain 'c', .plain 'A'] ∧
      (tokens "\\\\cA".toList).flatMap Token.image = "\\\\cA".toList ∧
      expand "\\\\cA".toList = ['\\', '\x01'] ∧
      expand "\\\\cA".toList ≠ (tokens "\\\\cA".toList).flatMap Token.image := by
  refine ⟨?_, ?_, ?_, ?_⟩ <;> decide +kernel

end Dialect

end SchemaRegistry

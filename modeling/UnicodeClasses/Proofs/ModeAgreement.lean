import UnicodeClasses.Proofs.BracketNegation

/-!
# Unicode mode and the other mode

The modes read the escapes of properties and of code units differently. Every other escape either
means the same in both modes, or has no meaning and is refused in Unicode mode. A text without the
first kind is thus read alike in both modes as far as Unicode mode reads it.
-/
namespace UnicodeClasses

open ClassItem

/-- What Unicode mode comes to is what the other mode comes to, or the refusal of an escape. -/
def Restricts {α : Type} (unicode other : Except CompileError α) : Prop :=
  unicode = other ∨ ∃ c : Char, unicode = .error (invalidEscape c)

namespace Restricts

variable {α β : Type} {x y : Except CompileError α}

theorem eq_ok (h : Restricts x y) {a : α} (hx : x = .ok a) : y = .ok a := by
  rcases h with heq | ⟨c, hc⟩
  · exact heq ▸ hx
  · exact nomatch hc.symm.trans hx

theorem map (h : Restricts x y) (f : α → β) : Restricts (x.map f) (y.map f) := by
  rcases h with rfl | ⟨c, rfl⟩
  · exact .inl rfl
  · exact .inr ⟨c, rfl⟩

end Restricts

/-- A backslash in the text is never followed by a letter that the modes read differently. -/
def ModeFree (text : List Char) : Prop := ∀ letter ∈ ['p', 'P', 'u'], ¬ ['\\', letter] <:+: text

theorem ModeFree.of_suffix {text rest : List Char} (h : ModeFree text) (hrest : rest <:+ text) :
    ModeFree rest :=
  fun letter hletter hpair => h letter hletter (hpair.trans hrest.isInfix)

namespace ClassItem

theorem invalidEscape_eq (c : Char) : invalidEscape c =
    .malformedClass Cause.invalidEscape.code (Cause.invalidEscape.wording.fill (some c.toString)) := by
  have hclass : isEscapeSyntaxCode Cause.invalidEscape.code = false := by decide
  simp [invalidEscape, CompileError.ofCauseAbout, CompileError.ofCode, wordingOf_code, hclass]

variable {limit : Nat} {text : List Char}

theorem restricts_readIdentity (c : Char) (text : List Char) :
    Restricts (readIdentity ⟨true, limit⟩ c text) (readIdentity ⟨false, limit⟩ c text) :=
  .inr ⟨c, rfl⟩

theorem restricts_readNull (text : List Char) :
    Restricts (readNull ⟨true, limit⟩ text) (readNull ⟨false, limit⟩ text) := by
  by_cases hdigit : text.head?.any Char.isDigit = true
  · exact .inr ⟨'0', if_pos hdigit⟩
  · exact .inl (if_neg hdigit)

theorem restricts_readControl (text : List Char) :
    Restricts (readControl ⟨true, limit⟩ text) (readControl ⟨false, limit⟩ text) := by
  cases text with
  | nil => exact restricts_readIdentity 'c' []
  | cons letter text =>
    simp only [readControl]
    split
    · exact .inl rfl
    · exact restricts_readIdentity 'c' (letter :: text)

theorem restricts_readByte (text : List Char) :
    Restricts (readByte ⟨true, limit⟩ text) (readByte ⟨false, limit⟩ text) := by
  unfold readByte
  split
  · exact .inl rfl
  · exact restricts_readIdentity 'x' text

theorem restricts_readLetter {c : Char} (hc : c ≠ 'u') (text : List Char) :
    Restricts (readLetter ⟨true, limit⟩ c text) (readLetter ⟨false, limit⟩ c text) := by
  unfold readLetter
  split
  · exact restricts_readNull text
  · exact restricts_readControl text
  · exact restricts_readByte text
  · exact absurd rfl hc
  · split
    · exact .inl rfl
    · exact restricts_readIdentity _ text

theorem restricts_readEscape (h : ModeFree ('\\' :: text)) :
    Restricts (readEscape ⟨true, limit⟩ text) (readEscape ⟨false, limit⟩ text) := by
  cases text with
  | nil => exact .inl rfl
  | cons c text =>
    have hc : ∀ letter ∈ ['p', 'P', 'u'], c ≠ letter := by
      rintro letter hletter rfl
      exact h c hletter (List.prefix_append ['\\', c] text).isInfix
    have hproperty : (c == 'p' || c == 'P') = false := by
      simp [hc 'p' (by decide), hc 'P' (by decide)]
    simp only [readEscape, hproperty, Bool.and_false, Bool.false_eq_true, if_false]
    split
    · exact .inl rfl
    · exact .inl rfl
    · exact restricts_readLetter (hc 'u' (by decide)) text

theorem restricts_read {c : Char} (h : ModeFree (c :: text)) :
    Restricts (read ⟨true, limit⟩ c text) (read ⟨false, limit⟩ c text) := by
  unfold read
  split
  · exact restricts_readEscape h
  · exact .inl rfl
  · exact .inl rfl

end ClassItem

/-- Both modes collect the same members up to the first escape that Unicode mode refuses. -/
theorem ClassBuilder.restricts_collect {registry : Registry} {limit : Nat} {text : List Char}
    (builder : ClassBuilder) (h : ModeFree text) :
    Restricts (builder.collect registry ⟨true, limit⟩ text)
      (builder.collect registry ⟨false, limit⟩ text) := by
  fun_induction collect registry ⟨true, limit⟩ builder text with
  | case1 builder => exact .inl (collect_nil ..).symm
  | case2 builder rest => exact .inl (collect_close ..).symm
  | case3 builder c text hc e hread =>
    have hitem : Restricts (.error e) (ClassItem.read ⟨false, limit⟩ c text) :=
      hread ▸ restricts_read h
    rw [collect_cons _ _ _ hc]
    rcases hitem with heq | ⟨d, hd⟩
    · rw [← heq]
      exact .inl rfl
    · obtain rfl := Except.error.inj hd
      exact .inr ⟨d, rfl⟩
  | case4 builder c text hc item rest hread e hpush =>
    rw [collect_cons _ _ _ hc, (restricts_read h).eq_ok hread]
    exact .inl (congrArg (· >>= (collect registry _ · rest)) hpush).symm
  | case5 builder c text hc item rest hread next hpush ih =>
    obtain ⟨hsuffix, -⟩ := settled_read ⟨true, limit⟩ text c item rest hread
    have hrest := ih (h.of_suffix (hsuffix.trans (List.suffix_cons c text)))
    rw [collect_ok hc ((restricts_read h).eq_ok hread) hpush]
    exact hrest

namespace BracketClass

theorem restricts_bracket {registry : Registry} {limit : Nat} {text : List Char}
    (h : ModeFree text) :
    Restricts (read registry ⟨true, limit⟩ text) (read registry ⟨false, limit⟩ text) := by
  cases hopened : opened? text with
  | none =>
    unfold read
    rw [hopened]
    exact .inl rfl
  | some opening =>
    obtain ⟨negated, body⟩ := opening
    have hopens := opened?_eq_some.mp hopened
    obtain ⟨mark, hmark⟩ := hopens.exists_eq_append
    have hbody : ModeFree body := h.of_suffix (hmark ▸ List.suffix_append mark body)
    rw [read_of_opens hopens, read_of_opens hopens]
    exact (ClassBuilder.restricts_collect {} hbody).map _

/-- Where no backslash is followed by `p`, `P` or `u`, Unicode mode comes to the same class or the
same error as the other mode, or refuses an escape. What it reads the other mode reads alike. -/
theorem read_modes (registry : Registry) (limit : Nat) {text : List Char}
    (h : ∀ letter ∈ ['p', 'P', 'u'], ¬ ['\\', letter] <:+: text) :
    (read registry ⟨true, limit⟩ text = read registry ⟨false, limit⟩ text ∨
      ∃ c : Char, read registry ⟨true, limit⟩ text =
        .error (.malformedClass Cause.invalidEscape.code
          (Cause.invalidEscape.wording.fill (some c.toString)))) ∧
    ∀ bracket rest, read registry ⟨true, limit⟩ text = .ok (bracket, rest) →
      read registry ⟨false, limit⟩ text = .ok (bracket, rest) := by
  have hrestricts : Restricts (read registry ⟨true, limit⟩ text)
      (read registry ⟨false, limit⟩ text) := restricts_bracket h
  simp only [← invalidEscape_eq]
  exact ⟨hrestricts, fun _ _ => hrestricts.eq_ok⟩

/-- The control characters of ASCII and a closing bracket. -/
def controlsAndBracket : RangeSet := ((∅ : RangeSet).insertBetween 0x00 0x1F).insert 0x5D

/-- Escapes that both modes read, and one that only the other mode reads. -/
theorem read_modes_null_byte :
    (∀ letter ∈ ['p', 'P', 'u'], ¬ ['\\', letter] <:+:
      ['[', '^', '\\', '0', '-', '\\', 'x', '1', 'F', '\\', ']', ']']) ∧
    read ⟨⟨14, 0, 0⟩, {}⟩ ⟨true, 128⟩
        ['[', '^', '\\', '0', '-', '\\', 'x', '1', 'F', '\\', ']', ']'] =
      .ok (⟨controlsAndBracket.complement, true, 12⟩, []) ∧
    read ⟨⟨14, 0, 0⟩, {}⟩ ⟨false, 128⟩
        ['[', '^', '\\', '0', '-', '\\', 'x', '1', 'F', '\\', ']', ']'] =
      .ok (⟨controlsAndBracket.complement, true, 12⟩, []) ∧
    read ⟨⟨14, 0, 0⟩, {}⟩ ⟨true, 128⟩ ['[', '\\', '0', '0', ']'] =
      .error (invalidEscape '0') ∧
    read ⟨⟨14, 0, 0⟩, {}⟩ ⟨false, 128⟩ ['[', '\\', '0', '0', ']'] =
      .ok (⟨((∅ : RangeSet).insert 0x00).insert 0x30, false, 5⟩, []) := by
  have h : ∀ letter ∈ ['p', 'P', 'u'], ¬ ['\\', letter] <:+:
      ['[', '^', '\\', '0', '-', '\\', 'x', '1', 'F', '\\', ']', ']'] := by
    simp [List.infix_cons_iff]
  have hcontrols :=
    calc ClassBuilder.collect ⟨⟨14, 0, 0⟩, {}⟩ ⟨true, 128⟩ {}
          ['\\', '0', '-', '\\', 'x', '1', 'F', '\\', ']', ']']
      _ = ClassBuilder.collect _ ⟨true, 128⟩ ⟨_, .literal 0x00⟩
          ['-', '\\', 'x', '1', 'F', '\\', ']', ']'] :=
        ClassBuilder.collect_ok (by decide) rfl rfl
      _ = ClassBuilder.collect _ ⟨true, 128⟩ ⟨_, .rangeFrom 0x00⟩
          ['\\', 'x', '1', 'F', '\\', ']', ']'] :=
        ClassBuilder.collect_ok (by decide) rfl rfl
      _ = ClassBuilder.collect _ ⟨true, 128⟩ ⟨_, .nothing⟩ ['\\', ']', ']'] :=
        ClassBuilder.collect_ok (by decide) rfl rfl
      _ = ClassBuilder.collect _ ⟨true, 128⟩ ⟨_, .literal 0x5D⟩ [']'] :=
        ClassBuilder.collect_ok (by decide) rfl rfl
      _ = _ := ClassBuilder.collect_close ..
  have hread : read ⟨⟨14, 0, 0⟩, {}⟩ ⟨true, 128⟩
        ['[', '^', '\\', '0', '-', '\\', 'x', '1', 'F', '\\', ']', ']'] =
      .ok (⟨controlsAndBracket.complement, true, 12⟩, []) :=
    read_eq_ok.mpr ⟨_, _, .marked _, hcontrols, rfl, by decide⟩
  have hrefused : ClassBuilder.collect ⟨⟨14, 0, 0⟩, {}⟩ ⟨true, 128⟩ {} ['\\', '0', '0', ']'] =
      .error (invalidEscape '0') := ClassBuilder.collect_cons _ _ _ (by decide) _
  have haccepted :=
    calc ClassBuilder.collect ⟨⟨14, 0, 0⟩, {}⟩ ⟨false, 128⟩ {} ['\\', '0', '0', ']']
      _ = ClassBuilder.collect _ ⟨false, 128⟩ ⟨_, .literal 0x00⟩ ['0', ']'] :=
        ClassBuilder.collect_ok (by decide) rfl rfl
      _ = ClassBuilder.collect _ ⟨false, 128⟩ ⟨_, .literal 0x30⟩ [']'] :=
        ClassBuilder.collect_ok (by decide) rfl rfl
      _ = _ := ClassBuilder.collect_close ..
  refine ⟨h, hread, (read_modes ⟨⟨14, 0, 0⟩, {}⟩ 128 h).2 _ _ hread, ?_, ?_⟩
  · rw [read_of_opens (.plain (by decide)), hrefused]
    rfl
  · exact read_eq_ok.mpr ⟨_, _, .plain (by decide), haccepted, rfl, by decide⟩

end BracketClass
end UnicodeClasses

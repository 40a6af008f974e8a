import UnicodeClasses.Proofs.BracketNegation
import UnicodeClasses.Proofs.EscapeMeaning
import UnicodeClasses.Proofs.RefusedPushes

/-!
# Escapes outside Unicode mode

Outside Unicode mode every escape has a meaning, if only that of its letter, and none is an escape
of a property. What a text comes to thus depends on neither the registry nor the limit on names,
and it fails only where it ends too early or a range is wrong.
-/
namespace UnicodeClasses

namespace ClassItem

/-- Outside Unicode mode the reading succeeds, under any limit alike, with an item that is no
property. -/
def Lenient (reading : Options → Reading) : Prop :=
  ∃ item rest, (∀ escape, item ≠ .property escape) ∧
    ∀ limit, reading ⟨false, limit⟩ = .ok (item, rest)

namespace Lenient

variable {reading reading' : Options → Reading}

theorem congr (h : Lenient reading)
    (heq : ∀ limit, reading' ⟨false, limit⟩ = reading ⟨false, limit⟩) : Lenient reading' := by
  obtain ⟨item, rest, hitem, hread⟩ := h
  exact ⟨item, rest, hitem, fun limit => (heq limit).trans (hread limit)⟩

theorem of_char {code : Nat} {rest : List Char}
    (h : ∀ limit, reading ⟨false, limit⟩ = .ok (.char code, rest)) : Lenient reading :=
  ⟨.char code, rest, nofun, h⟩

end Lenient

variable (c : Char) (text : List Char)

/-- An escape without a meaning stands for its letter. -/
theorem lenient_readIdentity : Lenient (readIdentity · c text) := .of_char fun _ => rfl

theorem lenient_readNull : Lenient (readNull · text) := .of_char fun _ => rfl

theorem lenient_readControl : Lenient (readControl · text) := by
  cases text with
  | nil => exact lenient_readIdentity 'c' []
  | cons letter text =>
    by_cases halpha : letter.isAlpha = true
    · exact .of_char fun _ => if_pos halpha
    · exact (lenient_readIdentity 'c' (letter :: text)).congr fun _ => if_neg halpha

theorem lenient_readByte : Lenient (readByte · text) := by
  cases h : readHex? 2 text with
  | none => exact (lenient_readIdentity 'x' text).congr fun _ => by rw [readByte, h]
  | some byte => exact .of_char fun _ => by rw [readByte, h]

theorem lenient_readUnit : Lenient (readUnit · text) := by
  cases h : readHex? 4 text with
  | none => exact (lenient_readIdentity 'u' text).congr fun _ => by rw [readUnit, h]
  | some unit => exact .of_char fun _ => by rw [readUnit, h]; rfl

theorem lenient_readCodePoint : Lenient (readCodePoint · text) := by
  refine (lenient_readUnit text).congr fun _ => ?_
  cases text <;> rfl

theorem lenient_readLetter : Lenient (readLetter · c text) := by
  by_cases h0 : c = '0'
  · subst h0
    exact lenient_readNull text
  by_cases hc : c = 'c'
  · subst hc
    exact lenient_readControl text
  by_cases hx : c = 'x'
  · subst hx
    exact lenient_readByte text
  by_cases hu : c = 'u'
  · subst hu
    exact lenient_readCodePoint text
  · exact .of_char fun _ => (readLetter_of_other _ _ h0 hc hx hu).trans (ite_self _)

/-- Outside Unicode mode no escape is rejected. -/
theorem lenient_readEscape : Lenient (readEscape · (c :: text)) := by
  cases hset : shorthand? c with
  | some item =>
    refine ⟨item, text, ?_, fun limit => by simp [readEscape, hset]⟩
    obtain ⟨kind, negated, rfl, -⟩ := setLetters_of_shorthand? hset
    rintro escape ⟨⟩
  | none =>
    cases hcode : controlCode? c with
    | some code =>
      have hread : ∀ limit, readEscape ⟨false, limit⟩ (c :: text) = .ok (.char code, text) :=
        fun limit => by simp [readEscape, hset, hcode]
      exact .of_char hread
    | none =>
      exact (lenient_readLetter c text).congr fun limit => by simp [readEscape, hset, hcode]

theorem lenient_read (h : c = '\\' → text ≠ []) : Lenient (read · c text) := by
  by_cases hescape : c = '\\'
  · subst hescape
    obtain ⟨letter, rest, rfl⟩ := List.exists_cons_of_ne_nil (h rfl)
    exact lenient_readEscape letter rest
  by_cases hdash : c = '-'
  · subst hdash
    by_cases hclose : (text.head? == some ']') = true
    · exact .of_char fun _ => if_pos hclose
    · exact ⟨.dash, text, nofun, fun _ => if_neg hclose⟩
  · exact .of_char fun _ => read_of_other _ text hescape hdash

variable {c : Char} {text rest : List Char} {limit : Nat} {item : ClassItem} {e : CompileError}

/-- Nothing but a backslash at the end of the text is rejected, under any limit alike. -/
theorem of_read_eq_error (h : read ⟨false, limit⟩ c text = .error e) :
    e = .ofCause .unfinishedEscape ∧ ∀ limit', read ⟨false, limit'⟩ c text = .error e := by
  by_cases hend : c = '\\' ∧ text = []
  · obtain ⟨rfl, rfl⟩ := hend
    exact ⟨(Except.error.inj h).symm, fun _ => h⟩
  · obtain ⟨_, _, -, hread⟩ := lenient_read c text (not_and.mp hend)
    exact nomatch h.symm.trans (hread limit)

theorem of_read_eq_ok (h : read ⟨false, limit⟩ c text = .ok (item, rest)) :
    (∀ escape, item ≠ .property escape) ∧
      ∀ limit', read ⟨false, limit'⟩ c text = .ok (item, rest) := by
  have hend : c = '\\' → text ≠ [] := by
    rintro rfl rfl
    exact nomatch h
  obtain ⟨_, _, hitem, hread⟩ := lenient_read c text hend
  obtain ⟨rfl, rfl⟩ := Prod.mk.inj (Except.ok.inj (h.symm.trans (hread limit)))
  exact ⟨hitem, hread⟩

/-- An item that is no property contributes the same member under every registry. -/
theorem member_congr (h : ∀ escape, item ≠ .property escape) (registry registry' : Registry) :
    item.member registry = item.member registry' := by
  cases item with
  | property escape => exact absurd rfl (h escape)
  | _ => rfl

/-- Such an item contributes a member. -/
theorem exists_member (h : ∀ escape, item ≠ .property escape) (registry : Registry) :
    ∃ member, item.member registry = .ok member := by
  cases item with
  | property escape => exact absurd rfl (h escape)
  | _ => exact ⟨_, rfl⟩

end ClassItem

namespace ClassBuilder

open ClassItem

variable (registry registry' : Registry) (limit limit' : Nat)

theorem pushItem_congr (builder : ClassBuilder) {item : ClassItem}
    (h : ∀ escape, item ≠ .property escape) :
    builder.pushItem registry item = builder.pushItem registry' item := by
  rw [pushItem, pushItem, member_congr h registry registry']

/-- Every registry and every limit come to the same members or to the same error. -/
theorem collect_congr (builder : ClassBuilder) (text : List Char) :
    builder.collect registry ⟨false, limit⟩ text =
      builder.collect registry' ⟨false, limit'⟩ text := by
  fun_induction collect registry ⟨false, limit⟩ builder text with
  | case1 builder => exact (collect_nil ..).symm
  | case2 builder rest => exact (collect_close ..).symm
  | case3 builder c text hc e hread =>
    rw [collect_cons _ _ _ hc, (of_read_eq_error hread).2 limit']
    rfl
  | case4 builder c text hc item rest hread e hpush =>
    obtain ⟨hitem, hread'⟩ := of_read_eq_ok hread
    rw [collect_cons _ _ _ hc, hread' limit']
    rw [pushItem_congr registry registry' builder hitem] at hpush
    exact (congrArg (· >>= (collect registry' _ · rest)) hpush).symm
  | case5 builder c text hc item rest hread next hpush ih =>
    obtain ⟨hitem, hread'⟩ := of_read_eq_ok hread
    rw [pushItem_congr registry registry' builder hitem] at hpush
    rw [ih, collect_ok hc (hread' limit') hpush]

/-- The members end too early or do not fit together. -/
def outsideCauses : List Cause := [.unclosedClass, .unfinishedEscape] ++ refusals

variable {registry limit}

theorem exists_cause_of_collect {builder : ClassBuilder} {text : List Char} {e : CompileError}
    (h : builder.collect registry ⟨false, limit⟩ text = .error e) :
    ∃ cause ∈ outsideCauses, e = .ofCause cause := by
  fun_induction collect registry ⟨false, limit⟩ builder text with
  | case1 builder => exact ⟨.unclosedClass, by decide, (Except.error.inj h).symm⟩
  | case2 builder rest => cases h
  | case3 builder c text hc e' hread =>
    obtain rfl := Except.error.inj h
    exact ⟨.unfinishedEscape, by decide, (of_read_eq_error hread).1⟩
  | case4 builder c text hc item rest hread e' hpush =>
    obtain rfl := Except.error.inj h
    obtain ⟨member, hmember⟩ := exists_member (of_read_eq_ok hread).1 registry
    rw [pushItem, hmember] at hpush
    obtain ⟨cause, hcause, he⟩ := exists_refusal_of_push hpush
    exact ⟨cause, List.mem_append_right _ hcause, he⟩
  | case5 builder c text hc item rest hread next hpush ih => exact ih h

end ClassBuilder

namespace BracketClass

/-- Outside Unicode mode no registry and no limit on names has a part in what a text comes to,
error, set, mark and length included, and no escape is rejected. A text fails only if it is not a
bracket expression, ends before the closing bracket or within an escape, or has a range that is
empty or has a set as an end. -/
theorem read_outside_unicode {bits bits' : UInt32} (h : bits &&& 1 = 0) (h' : bits' &&& 1 = 0)
    (registry registry' : Registry) (options options' : Options) (text : List Char) :
    read registry (options.withBits bits) text = read registry' (options'.withBits bits') text ∧
    (∀ e, read registry (options.withBits bits) text = .error e →
      ∃ cause ∈ [Cause.notAClass, .unclosedClass, .unfinishedEscape, .emptyRange,
        .setAtRangeStart, .setAtRangeEnd], e = .ofCause cause ∧ e.code = cause.code) ∧
    ∀ c rest, ∃ item after,
      ClassItem.readEscape (options.withBits bits) (c :: rest) = .ok (item, after) := by
  have hbits : options.withBits bits = ⟨false, options.nameLimit⟩ := by
    simp [Options.withBits, h]
  have hbits' : options'.withBits bits' = ⟨false, options'.nameLimit⟩ := by
    simp [Options.withBits, h']
  rw [hbits, hbits']
  refine ⟨?_, fun e herror => ?_, fun c rest => ?_⟩
  · unfold read
    split
    · rfl
    · rename_i negated body hopened
      rw [ClassBuilder.collect_congr registry registry' options.nameLimit options'.nameLimit]
  · have hcause : ∃ cause ∈ Cause.notAClass :: ClassBuilder.outsideCauses, e = .ofCause cause := by
      unfold read at herror
      split at herror
      · exact ⟨.notAClass, List.mem_cons_self .., (Except.error.inj herror).symm⟩
      · rcases bind_eq_error_iff.mp herror with herror | ⟨_, -, hreturn⟩
        · obtain ⟨cause, hcause, he⟩ := ClassBuilder.exists_cause_of_collect herror
          exact ⟨cause, List.mem_cons_of_mem _ hcause, he⟩
        · exact nomatch hreturn
    obtain ⟨cause, hmem, rfl⟩ := hcause
    exact ⟨cause, hmem, rfl, CompileError.code_ofCode _ _⟩
  · obtain ⟨item, after, -, hread⟩ := ClassItem.lenient_readEscape c rest
    exact ⟨item, after, hread _⟩

/-- Escapes that only Unicode mode takes for something else than letters, as ends of a range. -/
theorem read_outside_unicode_letters :
    (0 : UInt32) &&& 1 = 0 ∧ (6 : UInt32) &&& 1 = 0 ∧
    ∃ registry, Registry.build CompiledEscape.letterData = .ok registry ∧
      read ⟨⟨14, 0, 0⟩, {}⟩ (Options.withBits ⟨true, 1⟩ 0) ['[', '\\', 'p', '-', '\\', 'q', ']'] =
        .ok (⟨(∅ : RangeSet).insertBetween 0x70 0x71, false, 7⟩, []) ∧
      read registry (Options.withBits ⟨true, 128⟩ 6) ['[', '\\', 'p', '-', '\\', 'q', ']'] =
        .ok (⟨(∅ : RangeSet).insertBetween 0x70 0x71, false, 7⟩, []) := by
  have hnone : (0 : UInt32) &&& 1 = 0 := by decide
  have hother : (6 : UInt32) &&& 1 = 0 := by decide
  obtain ⟨registry, hbuild⟩ : ∃ registry, Registry.build CompiledEscape.letterData = .ok registry :=
    Registry.exists_build (by decide)
  have hcollect :=
    calc ClassBuilder.collect ⟨⟨14, 0, 0⟩, {}⟩ (Options.withBits ⟨true, 1⟩ 0) {}
          ['\\', 'p', '-', '\\', 'q', ']']
      _ = ClassBuilder.collect _ (Options.withBits ⟨true, 1⟩ 0) ⟨_, .literal 0x70⟩
          ['-', '\\', 'q', ']'] :=
        ClassBuilder.collect_ok (by decide) rfl rfl
      _ = ClassBuilder.collect _ (Options.withBits ⟨true, 1⟩ 0) ⟨_, .rangeFrom 0x70⟩
          ['\\', 'q', ']'] :=
        ClassBuilder.collect_ok (by decide) rfl rfl
      _ = ClassBuilder.collect _ (Options.withBits ⟨true, 1⟩ 0) ⟨_, .nothing⟩ [']'] :=
        ClassBuilder.collect_ok (by decide) rfl rfl
      _ = _ := ClassBuilder.collect_close ..
  have hread : read ⟨⟨14, 0, 0⟩, {}⟩ (Options.withBits ⟨true, 1⟩ 0)
        ['[', '\\', 'p', '-', '\\', 'q', ']'] =
      .ok (⟨(∅ : RangeSet).insertBetween 0x70 0x71, false, 7⟩, []) :=
    read_eq_ok.mpr ⟨_, _, .plain (by decide), hcollect, rfl, by decide⟩
  obtain ⟨hsame, -⟩ := read_outside_unicode hnone hother ⟨⟨14, 0, 0⟩, {}⟩ registry ⟨true, 1⟩
    ⟨true, 128⟩ ['[', '\\', 'p', '-', '\\', 'q', ']']
  exact ⟨hnone, hother, registry, hbuild, hread, hsame.symm.trans hread⟩

end BracketClass
end UnicodeClasses

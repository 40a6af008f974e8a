import UnicodeClasses.Proofs.SelfDelimiting
import UnicodeClasses.Proofs.SetAlgebra

/-!
# Negation of a bracket expression

The mark of negation is not part of the body. With and without the mark the same members are
collected up to the same closing bracket, and negation acts once, on all of them together.
-/
namespace UnicodeClasses

theorem RangeSet.complement_complement (s : RangeSet) : s.complement.complement = s :=
  compl_compl s

variable {registry : Registry} {options : Options}

/-- A reading that comes to the closing bracket leaves what stands behind it. -/
theorem ClassItem.exists_eq_append_of_readAll {text rest : List Char}
    (h : (readAll options text).2 = .ok rest) : ∃ inner, text = inner ++ ']' :: rest := by
  fun_induction readAll options text with
  | case1 => simp at h
  | case2 after =>
    obtain rfl := Except.ok.inj h
    exact ⟨[], rfl⟩
  | case3 c text hc e hread => simp at h
  | case4 c text hc item after hread items ending hafter ih =>
    rw [hafter] at ih
    obtain ⟨inner, hinner⟩ := ih h
    obtain ⟨⟨spelled, hspelled⟩, -⟩ := settled_read options text c item after hread
    refine ⟨c :: (spelled ++ inner), ?_⟩
    rw [← hspelled, hinner]
    simp

theorem ClassBuilder.byteSize_le_of_collect {builder last : ClassBuilder} {body rest : List Char}
    (h : builder.collect registry options body = .ok (last, rest)) :
    byteSize rest ≤ byteSize body := by
  obtain ⟨hrest, -⟩ := collect_eq_ok_iff.mp h
  obtain ⟨inner, rfl⟩ := ClassItem.exists_eq_append_of_readAll hrest
  rw [byteSize_append, byteSize_cons]
  omega

namespace BracketClass

/-- Behind its opening a text is read as its body is collected, the error included. -/
theorem read_of_opens {text body : List Char} {negated : Bool} (h : Opens text negated body) :
    read registry options text =
      (ClassBuilder.collect registry options {} body).map fun (builder, rest) =>
        (⟨builder.finish negated, negated, byteSize text - byteSize rest⟩, rest) := by
  rw [read, opened?_eq_some.mpr h]
  rfl

/-- A caret behind the opening bracket complements the set of the expression, and changes nothing
else. The same text is left, and what fails without the caret fails in the same way with it. -/
theorem read_marked (registry : Registry) (options : Options) {body : List Char}
    (h : body.head? ≠ some '^') :
    (∃ e, read registry options ('[' :: body) = .error e ∧
      read registry options ('[' :: '^' :: body) = .error e) ∨
    ∃ plain marked rest,
      read registry options ('[' :: body) = .ok (plain, rest) ∧
      read registry options ('[' :: '^' :: body) = .ok (marked, rest) ∧
      marked.set = plain.set.complement ∧ plain.set = marked.set.complement ∧
      (∀ c, marked.set.contains c = true ↔ c ≤ maxCodePoint ∧ plain.set.contains c = false) ∧
      marked.length = plain.length + 1 ∧ plain.negated = false ∧ marked.negated = true := by
  rw [read_of_opens (.plain h), read_of_opens (.marked body)]
  cases hcollect : ClassBuilder.collect registry options {} body with
  | error e => exact .inl ⟨e, rfl, rfl⟩
  | ok collected =>
    obtain ⟨builder, rest⟩ := collected
    have hsize := ClassBuilder.byteSize_le_of_collect hcollect
    have hcaret : ('^' : Char).utf8Size = 1 := rfl
    refine .inr ⟨_, _, rest, rfl, rfl, rfl, ?_, fun c => ?_, ?_, rfl, rfl⟩
    · exact (RangeSet.complement_complement builder.members).symm
    · show builder.members.complement.contains c = true ↔ _
      rw [RangeSet.contains_iff, RangeSet.mem_complement, ← RangeSet.contains_iff,
        Bool.not_eq_true]
      rfl
    · simp only [byteSize_cons, hcaret]
      omega

/-- All but the digits, and the digits from 5 to 7. -/
def sparedDigits : RangeSet :=
  ((∅ : RangeSet).unionWith Shorthand.digit.set.complement).insertBetween 0x35 0x37

theorem mem_sparedDigits {c : Nat} :
    c ∈ sparedDigits ↔
      c ≤ maxCodePoint ∧ (c < 0x30 ∨ 0x35 ≤ c ∧ c ≤ 0x37 ∨ 0x39 < c) := by
  simp only [sparedDigits, RangeSet.mem_insertBetween, RangeSet.mem_unionWith,
    RangeSet.mem_complement, Shorthand.mem_set, Shorthand.Matches, RangeSet.not_mem_empty, false_or,
    maxCodePoint]
  omega

/-- One member is itself complemented, and text stands behind the expression. -/
theorem read_marked_sparedDigits :
    ['\\', 'D', '5', '-', '7', ']', '-'].head? ≠ some '^' ∧ ∃ plain marked,
      read ⟨⟨14, 0, 0⟩, {}⟩ {} ['[', '\\', 'D', '5', '-', '7', ']', '-'] = .ok (plain, ['-']) ∧
      read ⟨⟨14, 0, 0⟩, {}⟩ {} ['[', '^', '\\', 'D', '5', '-', '7', ']', '-'] =
        .ok (marked, ['-']) ∧
      plain.set = sparedDigits ∧ plain.length = 7 ∧ marked.length = 8 ∧
      marked.set.contains 0x38 = true ∧ marked.set.contains 0x36 = false := by
  have hmark : ['\\', 'D', '5', '-', '7', ']', '-'].head? ≠ some '^' := by decide
  have hcollect :=
    calc ClassBuilder.collect ⟨⟨14, 0, 0⟩, {}⟩ {} {} ['\\', 'D', '5', '-', '7', ']', '-']
      _ = ClassBuilder.collect _ {} ⟨_, .set⟩ ['5', '-', '7', ']', '-'] :=
        ClassBuilder.collect_ok (by decide) rfl rfl
      _ = ClassBuilder.collect _ {} ⟨_, .literal 0x35⟩ ['-', '7', ']', '-'] :=
        ClassBuilder.collect_ok (by decide) rfl rfl
      _ = ClassBuilder.collect _ {} ⟨_, .rangeFrom 0x35⟩ ['7', ']', '-'] :=
        ClassBuilder.collect_ok (by decide) rfl rfl
      _ = ClassBuilder.collect _ {} ⟨sparedDigits, .nothing⟩ [']', '-'] :=
        ClassBuilder.collect_ok (by decide) rfl rfl
      _ = .ok (⟨sparedDigits, .nothing⟩, ['-']) := ClassBuilder.collect_close ..
  have hread : read ⟨⟨14, 0, 0⟩, {}⟩ {} ['[', '\\', 'D', '5', '-', '7', ']', '-'] =
      .ok (⟨sparedDigits, false, 7⟩, ['-']) :=
    read_eq_ok.mpr ⟨_, _, .plain hmark, hcollect, rfl, by decide⟩
  rcases read_marked ⟨⟨14, 0, 0⟩, {}⟩ {} hmark with
    ⟨e, he, -⟩ | ⟨plain, marked, rest, hplain, hmarked, -, -, hmem, hlength, -, -⟩
  · exact nomatch hread.symm.trans he
  · obtain ⟨rfl, rfl⟩ := Prod.mk.inj (Except.ok.inj (hread.symm.trans hplain))
    refine ⟨hmark, _, marked, hread, hmarked, rfl, rfl, hlength, ?_, ?_⟩
    · rw [hmem, Bool.eq_false_iff, ne_eq, RangeSet.contains_iff, mem_sparedDigits]
      decide
    · rw [Bool.eq_false_iff, ne_eq, hmem, Bool.eq_false_iff, ne_eq, RangeSet.contains_iff,
        mem_sparedDigits]
      decide

end BracketClass
end UnicodeClasses

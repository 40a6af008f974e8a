import Mathlib.Logic.Basic
import UnicodeClasses.Proofs.SelfDelimiting

/-!
# Literals between brackets

A body that is read as literals only is read as the set of their code points. Every text can be
written as such a body: behind backslashes, the characters that have a meaning in a pattern lose it
in both modes.
-/
namespace UnicodeClasses

theorem toNat_le_maxCodePoint (c : Char) : c.toNat ≤ maxCodePoint := by
  have hvalid : c.toNat < 0xD800 ∨ 0xDFFF < c.toNat ∧ c.toNat < 0x110000 := c.valid
  simp only [maxCodePoint]
  omega

/-- The set of some code points, as far as they lie in the domain. -/
def RangeSet.ofCodes (codes : List Nat) : RangeSet := ofRanges (codes.map .single)

theorem RangeSet.mem_ofCodes {codes : List Nat} {c : Nat} :
    c ∈ ofCodes codes ↔ c ∈ codes ∧ c ≤ maxCodePoint := by
  simp only [ofCodes, mem_ofRanges, Covered, List.mem_map, exists_exists_and_eq_and,
    CodeRange.mem_single, exists_eq_right']

theorem RangeSet.contains_ofCodes {codes : List Nat} (h : ∀ code ∈ codes, code ≤ maxCodePoint)
    (c : Nat) : (ofCodes codes).contains c = true ↔ c ∈ codes := by
  rw [contains_iff, mem_ofCodes, and_iff_left_of_imp (h c)]

/-- Literals without a dash between them make no range. -/
theorem ClassMember.reading_literals (codes : List Nat) :
    reading (codes.map .char) = .ok (codes.map .single) := by
  induction codes with
  | nil => rfl
  | cons code codes ih =>
    cases codes with
    | nil => rfl
    | cons next codes =>
      rw [List.map_cons] at ih
      rw [List.map_cons, List.map_cons, reading_char_cons code (by simp), ih]
      rfl

theorem ClassItem.contributes_literals (registry : Registry) (codes : List Nat) :
    List.Forall₂ (Contributes registry) (codes.map .char) (codes.map .char) := by
  rw [List.forall₂_map_left_iff, List.forall₂_map_right_iff, List.forall₂_same]
  exact fun code _ => .char code

namespace BracketClass

variable {options : Options} {text body rest : List Char} {codes : List Nat}

/-- A bracket expression whose body holds literals only. -/
theorem read_literals (registry : Registry) (hopens : Opens text false body)
    (hbody : ClassItem.readAll options body = (codes.map .char, .ok rest)) :
    read registry options text =
      .ok (⟨.ofCodes codes, false, byteSize text - byteSize rest⟩, rest) :=
  read_of_readAll hopens hbody (ClassItem.contributes_literals registry codes)
    (ClassMember.reading_literals codes)

end BracketClass

/-! ### Quoted text -/

def quoteChar (c : Char) : List Char := if c ∈ quotedChars then ['\\', c] else [c]

/-- A text with a backslash before each character that has a meaning in a pattern. -/
def quote (text : List Char) : List Char := text.flatMap quoteChar

/-- The pattern of the characters of a text. -/
def quotedClass (text : String) : String := .ofList ('[' :: (quote text.toList ++ [']']))

namespace ClassItem

theorem readAll_quoteChar (options : Options) (c : Char) (following : List Char) :
    readAll options (quoteChar c ++ following) =
      (.char c.toNat :: (readAll options following).1, (readAll options following).2) := by
  unfold quoteChar
  by_cases hquoted : c ∈ quotedChars
  · rw [if_pos hquoted]
    exact readAll_ok (by decide) (read_quoted options hquoted following)
  · rw [if_neg hquoted]
    have hspecial : ['\\', ']', '-'] ⊆ quotedChars := by decide
    have hplain : c ∉ ['\\', ']', '-'] := fun h => hquoted (hspecial h)
    have hclose : c ≠ ']' := fun h => hplain (by simp [h])
    exact readAll_ok hclose (read_literal options hplain following)

theorem readAll_quote (options : Options) (text rest : List Char) :
    readAll options (quote text ++ ']' :: rest) = (text.map (.char ·.toNat), .ok rest) := by
  induction text with
  | nil => exact readAll_close options rest
  | cons c text ih =>
    rw [quote, List.flatMap_cons, List.append_assoc, readAll_quoteChar, ← quote, ih]
    rfl

end ClassItem

/-- A quoted caret stands behind a backslash, so that a quoted text never begins with the mark of
negation. -/
theorem head?_quote (text rest : List Char) : (quote text ++ ']' :: rest).head? ≠ some '^' := by
  cases text with
  | nil => simp [quote]
  | cons c text =>
    rw [quote, List.flatMap_cons, List.append_assoc, quoteChar]
    split
    · simp
    · rename_i hquoted
      intro hhead
      obtain rfl := Option.some.inj hhead
      exact hquoted (by decide)

theorem toList_quotedClass (text : String) :
    (quotedClass text).toList = '[' :: (quote text.toList ++ [']']) :=
  String.toList_ofList

example : quotedClass "^a-]" = "[\\^a\\-\\]]" := by decide

namespace CharClass

/-- Quoting is safe. Between brackets, the quoted text is read in both modes up to the closing
bracket, and as the set of its characters. The class matches what shares a character with it. -/
theorem compile_quoted (registry : Registry) (options : Options) (text : String) :
    ∃ set : RangeSet,
      BracketClass.read registry options (quotedClass text).toList =
        .ok (⟨set, false, (quotedClass text).utf8ByteSize⟩, []) ∧
      (∀ c, set.contains c = true ↔ ∃ x ∈ text.toList, x.toNat = c) ∧
      compile registry options (quotedClass text) = .ok ⟨set⟩ ∧
      ∀ searched : String, (⟨set⟩ : CharClass).isMatch searched = true ↔
        ∃ x ∈ searched.toList, x ∈ text.toList := by
  have hbody := ClassItem.readAll_quote options text.toList []
  rw [← Function.comp_def ClassItem.char, ← List.map_map] at hbody
  have hread := BracketClass.read_literals registry (.plain (head?_quote text.toList [])) hbody
  rw [← toList_quotedClass, byteSize_toList] at hread
  have hset : ∀ c, (RangeSet.ofCodes (text.toList.map Char.toNat)).contains c = true ↔
      ∃ x ∈ text.toList, x.toNat = c := by
    intro c
    rw [RangeSet.contains_ofCodes, List.mem_map]
    exact List.forall_mem_map.mpr fun x _ => toNat_le_maxCodePoint x
  refine ⟨_, hread, hset, ?_, fun searched => ?_⟩
  · have hopen : (quotedClass text).toList.head? = some '[' := by rw [toList_quotedClass]; rfl
    exact compile_eq_ok.mpr (readSet_eq_ok.mpr (.inl ⟨hopen, _, hread, rfl⟩))
  · simp only [isMatch, List.any_eq_true, hset, Char.toNat_inj, exists_eq_right]

end CharClass
end UnicodeClasses

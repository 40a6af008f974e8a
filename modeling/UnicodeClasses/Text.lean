/-!
# Byte lengths and splitting

Patterns are read as lists of characters. Lengths and offsets of text count UTF-8 bytes.
-/
namespace UnicodeClasses

def byteSize : List Char → Nat
  | [] => 0
  | c :: text => c.utf8Size + byteSize text

@[simp] theorem byteSize_nil : byteSize [] = 0 := rfl

@[simp] theorem byteSize_cons (c : Char) (text : List Char) :
    byteSize (c :: text) = c.utf8Size + byteSize text := rfl

@[simp] theorem byteSize_append (a b : List Char) :
    byteSize (a ++ b) = byteSize a + byteSize b := by
  induction a with
  | nil => simp
  | cons c a ih => rw [List.cons_append, byteSize_cons, byteSize_cons, ih, Nat.add_assoc]

theorem byteSize_toList (s : String) : byteSize s.toList = s.utf8ByteSize := by
  have h : ∀ text : List Char, byteSize text = (String.ofList text).utf8ByteSize := by
    intro text
    induction text with
    | nil => rfl
    | cons c text ih =>
      rw [byteSize_cons, ih, String.ofList_cons, String.utf8ByteSize_append]
      simp
  rw [h, String.ofList_toList]

/-- The text before the first occurrence of a character, and the text after it. -/
def splitAt? (mark : Char) (text : List Char) : Option (List Char × List Char) :=
  match text.dropWhile (· != mark) with
  | [] => none
  | _ :: after => some (text.takeWhile (· != mark), after)

theorem splitAt?_eq_some {mark : Char} {text before after : List Char}
    (h : splitAt? mark text = some (before, after)) :
    text = before ++ mark :: after ∧ mark ∉ before := by
  unfold splitAt? at h
  split at h
  · exact nomatch h
  · rename_i c rest hdrop
    obtain ⟨rfl, rfl⟩ := Prod.mk.inj (Option.some.inj h)
    have hc : c = mark := by
      have := List.head?_dropWhile_not (· != mark) text
      rw [hdrop] at this
      simpa using this
    constructor
    · rw [hc] at hdrop
      rw [← hdrop, List.takeWhile_append_dropWhile]
    · intro hmem
      have := List.all_eq_true.mp (List.all_takeWhile (l := text)) mark hmem
      simp at this

/-- Text up to a mark that does not occur in it is split off whole. -/
theorem splitAt?_append {mark : Char} {before : List Char} (h : mark ∉ before)
    (after : List Char) : splitAt? mark (before ++ mark :: after) = some (before, after) := by
  have hall : ∀ c ∈ before, (c != mark) = true := by
    intro c hc
    simp only [bne_iff_ne]
    rintro rfl
    exact h hc
  unfold splitAt?
  rw [List.dropWhile_append_of_pos hall, List.takeWhile_append_of_pos hall]
  simp

theorem splitAt?_append_right {mark : Char} {text before after : List Char}
    (h : splitAt? mark text = some (before, after)) (more : List Char) :
    splitAt? mark (text ++ more) = some (before, after ++ more) := by
  obtain ⟨rfl, hmark⟩ := splitAt?_eq_some h
  rw [List.append_assoc, List.cons_append]
  exact splitAt?_append hmark (after ++ more)

theorem splitAt?_eq_none {mark : Char} {text : List Char} (h : mark ∉ text) :
    splitAt? mark text = none := by
  cases hsplit : splitAt? mark text with
  | none => rfl
  | some pair =>
    obtain ⟨before, after⟩ := pair
    obtain ⟨rfl, -⟩ := splitAt?_eq_some hsplit
    simp at h

theorem splitAt?_eq_none_iff {mark : Char} {text : List Char} :
    splitAt? mark text = none ↔ mark ∉ text := by
  refine ⟨fun hsplit hmem => ?_, splitAt?_eq_none⟩
  obtain ⟨before, after, rfl, hmark⟩ := List.eq_append_cons_of_mem hmem
  rw [splitAt?_append hmark] at hsplit
  exact nomatch hsplit

end UnicodeClasses

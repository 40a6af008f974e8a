import UnicodeClasses.CharClass
import UnicodeClasses.Proofs.ByteOffsets

/-!
# Searching a text

A search goes through the characters of a text and resumes behind its last match, at an offset in
bytes. It finds each character that is a member, once and in order, and no offset that it resumes
at falls into a character.
-/
namespace UnicodeClasses

/-- The characters of a text that begins at an offset, each with its own offset. -/
def charIndices (offset : Nat) : List Char → List (Nat × Char)
  | [] => []
  | x :: text => (offset, x) :: charIndices (offset + x.utf8Size) text

theorem mem_charIndices {offset i : Nat} {text : List Char} {x : Char} :
    (i, x) ∈ charIndices offset text ↔
      ∃ before after, text = before ++ x :: after ∧ i = offset + byteSize before := by
  induction text generalizing offset with
  | nil => simp [charIndices]
  | cons y text ih =>
    rw [charIndices, List.mem_cons, ih]
    constructor
    · rintro (hfirst | ⟨before, after, rfl, rfl⟩)
      · obtain ⟨rfl, rfl⟩ := Prod.mk.inj hfirst
        exact ⟨[], text, rfl, rfl⟩
      · exact ⟨y :: before, after, rfl, by rw [byteSize_cons, Nat.add_assoc]⟩
    · rintro ⟨before, after, htext, rfl⟩
      cases before with
      | nil =>
        obtain ⟨rfl, rfl⟩ := List.cons.inj htext
        exact .inl rfl
      | cons z before =>
        obtain ⟨rfl, rfl⟩ := List.cons.inj htext
        exact .inr ⟨before, after, rfl, by rw [byteSize_cons, Nat.add_assoc]⟩

/-- A character ends before the next one begins. -/
theorem pairwise_charIndices (offset : Nat) (text : List Char) :
    (charIndices offset text).Pairwise fun p q => p.1 + p.2.utf8Size ≤ q.1 := by
  induction text generalizing offset with
  | nil => exact .nil
  | cons x text ih =>
    refine .cons (fun q hq => ?_) (ih _)
    obtain ⟨before, -, -, hoffset⟩ := mem_charIndices.mp hq
    show offset + x.utf8Size ≤ q.1
    omega

theorem charIndices_add (start offset : Nat) (text : List Char) :
    charIndices (start + offset) text =
      (charIndices offset text).map fun p => (start + p.1, p.2) := by
  induction text generalizing offset with
  | nil => rfl
  | cons x text ih => rw [charIndices, charIndices, List.map_cons, Nat.add_assoc, ih]

/-- A character at an offset, as a match. -/
def Match.ofChar (p : Nat × Char) : Match := ⟨p.1, p.1 + p.2.utf8Size, p.2⟩

theorem Match.eq_ofChar_iff {found : Match} {i : Nat} : found = .ofChar (i, found.char) ↔
    found.start = i ∧ found.stop = i + found.char.utf8Size := by
  cases found
  simp [ofChar]

/-- The bytes from one offset to another. -/
structure ByteRange where
  start : Nat
  stop : Nat
  deriving DecidableEq, Repr

def Match.range (found : Match) : ByteRange := ⟨found.start, found.stop⟩

namespace CharClass

def holds (c : CharClass) (x : Char) : Bool := c.set.contains x.toNat

variable {c : CharClass} {offset : Nat} {text rest : List Char}

theorem holds_iff {x : Char} : c.holds x = true ↔ x.toNat ∈ c.set := RangeSet.contains_iff

theorem findFrom_cons (x : Char) : c.findFrom offset (x :: text) =
    if c.holds x then some (.ofChar (offset, x), text)
    else c.findFrom (offset + x.utf8Size) text := rfl

/-- The first match is the first character that is a member. -/
theorem findFrom_eq (c : CharClass) (offset : Nat) (text : List Char) :
    (c.findFrom offset text).map Prod.fst =
      ((charIndices offset text).find? fun p => c.holds p.2).map .ofChar := by
  induction text generalizing offset with
  | nil => rfl
  | cons x text ih =>
    rw [findFrom_cons, charIndices, List.find?_cons]
    cases c.holds x with
    | true => rfl
    | false => exact ih _

/-- What is left after a match begins where the match stops. -/
theorem exists_of_findFrom {found : Match} (h : c.findFrom offset text = some (found, rest)) :
    ∃ inner, text = inner ++ rest ∧ offset + byteSize inner = found.stop := by
  induction text generalizing offset with
  | nil => exact nomatch h
  | cons x text ih =>
    rw [findFrom_cons] at h
    split at h
    · obtain ⟨rfl, rfl⟩ := Prod.mk.inj (Option.some.inj h)
      exact ⟨[x], rfl, rfl⟩
    · obtain ⟨inner, rfl, hstop⟩ := ih h
      exact ⟨x :: inner, rfl, by rw [byteSize_cons, ← Nat.add_assoc, hstop]⟩

theorem matchesFrom_nil : c.matchesFrom offset [] = [] := matchesFrom_of_none rfl

theorem matchesFrom_cons (x : Char) : c.matchesFrom offset (x :: text) =
    if c.holds x then .ofChar (offset, x) :: c.matchesFrom (offset + x.utf8Size) text
    else c.matchesFrom (offset + x.utf8Size) text := by
  cases hx : c.holds x with
  | true =>
    have hfind : c.findFrom offset (x :: text) = some (.ofChar (offset, x), text) := by
      rw [findFrom_cons, if_pos hx]
    exact matchesFrom_of_some hfind
  | false =>
    have hfind : c.findFrom offset (x :: text) = c.findFrom (offset + x.utf8Size) text := by
      rw [findFrom_cons, hx]
      rfl
    cases hrest : c.findFrom (offset + x.utf8Size) text with
    | none =>
      rw [matchesFrom_of_none (hfind.trans hrest)]
      exact (matchesFrom_of_none hrest).symm
    | some pair =>
      rw [matchesFrom_of_some (hfind.trans hrest)]
      exact (matchesFrom_of_some hrest).symm

/-- All matches are the characters that are members. -/
theorem matchesFrom_eq (c : CharClass) (offset : Nat) (text : List Char) :
    c.matchesFrom offset text =
      ((charIndices offset text).filter fun p => c.holds p.2).map .ofChar := by
  induction text generalizing offset with
  | nil => exact matchesFrom_nil
  | cons x text ih =>
    rw [matchesFrom_cons, charIndices, List.filter_cons, ih]
    cases c.holds x <;> rfl

theorem mem_matchesFrom {found : Match} : found ∈ c.matchesFrom offset text ↔
    ∃ before after, text = before ++ found.char :: after ∧ found.char.toNat ∈ c.set ∧
      found = .ofChar (offset + byteSize before, found.char) := by
  rw [matchesFrom_eq, List.mem_map]
  constructor
  · rintro ⟨⟨i, x⟩, hp, rfl⟩
    obtain ⟨hindex, hx⟩ := List.mem_filter.mp hp
    obtain ⟨before, after, rfl, rfl⟩ := mem_charIndices.mp hindex
    exact ⟨before, after, rfl, holds_iff.mp hx, rfl⟩
  · rintro ⟨before, after, htext, hmem, hfound⟩
    refine ⟨(offset + byteSize before, found.char), List.mem_filter.mpr ⟨?_, ?_⟩, hfound.symm⟩
    · exact mem_charIndices.mpr ⟨before, after, htext, rfl⟩
    · exact holds_iff.mpr hmem

/-! ### Searching by offsets -/

/-- The first match at an offset or behind it. There is no result, not even that nothing is found,
where the text cannot be cut at the offset. -/
def findAt? (c : CharClass) (text : List Char) (start : Nat) : Option (Option ByteRange) :=
  (sliceFrom? text start).map fun rest =>
    ((charIndices 0 rest).find? fun p => c.holds p.2).map fun p =>
      ⟨start + p.1, start + p.1 + p.2.utf8Size⟩

/-- The next match of an iteration whose last match has ended at an offset. -/
def nextFound? (c : CharClass) (text : List Char) (lastEnd : Nat) : Option (Option ByteRange) :=
  if byteSize text ≤ lastEnd then some none else c.findAt? text lastEnd

/-- An iteration that goes on from an offset comes to its end after these matches. -/
inductive Yields (c : CharClass) (text : List Char) : Nat → List ByteRange → Prop
  | done {lastEnd : Nat} (hnext : c.nextFound? text lastEnd = some none) : Yields c text lastEnd []
  | next {lastEnd : Nat} {range : ByteRange} {ranges : List ByteRange}
      (hnext : c.nextFound? text lastEnd = some (some range))
      (hrest : Yields c text range.stop ranges) : Yields c text lastEnd (range :: ranges)

theorem findAt?_eq (h : sliceFrom? text offset = some rest) :
    c.findAt? text offset = some ((c.findFrom offset rest).map fun found => found.1.range) := by
  have hshift := charIndices_add offset 0 rest
  have hfind := findFrom_eq c offset rest
  rw [Nat.add_zero] at hshift
  rw [hshift, List.find?_map, Option.map_map] at hfind
  have hrange : (c.findFrom offset rest).map (fun found => found.1.range) =
      ((c.findFrom offset rest).map Prod.fst).map Match.range := by
    rw [Option.map_map]
    rfl
  rw [findAt?, h, Option.map_some, hrange, hfind, Option.map_map]
  rfl

theorem nextFound?_eq (h : sliceFrom? text offset = some rest) :
    c.nextFound? text offset = some ((c.findFrom offset rest).map fun found => found.1.range) := by
  unfold nextFound?
  split
  · rename_i hend
    have hsize := byteSize_of_sliceFrom? h
    cases rest with
    | nil => rfl
    | cons x rest =>
      have := x.utf8Size_pos
      rw [byteSize_cons] at hsize
      omega
  · exact findAt?_eq h

/-- From the offset of what is left of the text, the iteration yields the matches in it. -/
theorem yields_matchesFrom (h : sliceFrom? text offset = some rest) :
    c.Yields text offset ((c.matchesFrom offset rest).map Match.range) := by
  fun_induction matchesFrom c offset rest with
  | case1 offset rest hfind =>
    refine .done ?_
    rw [nextFound?_eq h, hfind]
    rfl
  | case2 offset rest found after hfind ih =>
    obtain ⟨inner, hrest, hstop⟩ := exists_of_findFrom hfind
    refine .next ?_ (ih (hstop ▸ sliceFrom?_add inner h hrest))
    rw [nextFound?_eq h, hfind]
    rfl

theorem Yields.unique {ranges ranges' : List ByteRange} (h : c.Yields text offset ranges)
    (h' : c.Yields text offset ranges') : ranges = ranges' := by
  induction h generalizing ranges' with
  | done hnext =>
    cases h' with
    | done => rfl
    | next hnext' _ => exact nomatch hnext.symm.trans hnext'
  | next hnext _ ih =>
    cases h' with
    | done hnext' => exact nomatch hnext.symm.trans hnext'
    | next hnext' hrest' =>
      obtain rfl := Option.some.inj (Option.some.inj (hnext.symm.trans hnext'))
      rw [ih hrest']

/-! ### What a search finds -/

/-- What the search of a text comes to: the character members of the text, in order, and each as
the bytes that make it up. The iteration by offsets always ends, with the same matches. -/
structure SearchesExactly (c : CharClass) (text : String) : Prop where
  listed : c.matchesIn text =
    ((charIndices 0 text.toList).filter fun p => c.set.contains p.2.toNat).map .ofChar
  found : ∀ found, found ∈ c.matchesIn text ↔
    ∃ before after, text.toList = before ++ found.char :: after ∧ found.char.toNat ∈ c.set ∧
      found.start = byteSize before ∧ found.stop = byteSize before + found.char.utf8Size
  apart : (c.matchesIn text).Pairwise fun m m' => m.start < m'.start ∧ m.stop ≤ m'.start
  first : c.find? text = (c.matchesIn text).head?
  any : c.isMatch text = true ↔ ∃ found, found ∈ c.matchesIn text
  bytes : ∀ found ∈ c.matchesIn text, found.start < found.stop ∧
    String.Pos.Raw.IsValid text ⟨found.start⟩ ∧ String.Pos.Raw.IsValid text ⟨found.stop⟩ ∧
    slice? text.toList found.start found.stop = some [found.char]
  first_bytes : c.findAt? text.toList 0 = some ((c.find? text).map Match.range)
  iterated : ∀ ranges, c.Yields text.toList 0 ranges ↔ ranges = (c.matchesIn text).map Match.range

theorem matchesIn_eq (c : CharClass) (text : String) : c.matchesIn text =
    ((charIndices 0 text.toList).filter fun p => c.holds p.2).map .ofChar :=
  matchesFrom_eq c 0 text.toList

theorem mem_matchesIn {text : String} {found : Match} : found ∈ c.matchesIn text ↔
    ∃ before after, text.toList = before ++ found.char :: after ∧ found.char.toNat ∈ c.set ∧
      found = .ofChar (byteSize before, found.char) := by
  rw [matchesIn, mem_matchesFrom]
  simp only [Nat.zero_add]

theorem pairwise_matchesIn (c : CharClass) (text : String) :
    (c.matchesIn text).Pairwise fun m m' => m.start < m'.start ∧ m.stop ≤ m'.start := by
  rw [matchesIn_eq, List.pairwise_map]
  refine ((pairwise_charIndices 0 text.toList).filter _).imp fun {p q} hpq => ?_
  have := p.2.utf8Size_pos
  exact ⟨by simp only [Match.ofChar]; omega, hpq⟩

theorem find?_eq_head? (c : CharClass) (text : String) :
    c.find? text = (c.matchesIn text).head? := by
  rw [matchesIn_eq, List.head?_map, List.head?_filter]
  exact findFrom_eq c 0 text.toList

theorem isMatch_iff (c : CharClass) (text : String) :
    c.isMatch text = true ↔ ∃ found, found ∈ c.matchesIn text := by
  simp only [isMatch, List.any_eq_true, RangeSet.contains_iff, mem_matchesIn]
  constructor
  · rintro ⟨x, hx, hmem⟩
    obtain ⟨before, after, htext⟩ := List.append_of_mem hx
    exact ⟨.ofChar (byteSize before, x), before, after, htext, hmem, rfl⟩
  · rintro ⟨found, before, after, htext, hmem, -⟩
    exact ⟨found.char, htext ▸ by simp, hmem⟩

/-- A match consists of the bytes of its character. -/
theorem bytes_of_mem_matchesIn {text : String} {found : Match} (h : found ∈ c.matchesIn text) :
    found.start < found.stop ∧
    String.Pos.Raw.IsValid text ⟨found.start⟩ ∧ String.Pos.Raw.IsValid text ⟨found.stop⟩ ∧
    slice? text.toList found.start found.stop = some [found.char] := by
  obtain ⟨before, after, htext, -, hfound⟩ := mem_matchesIn.mp h
  obtain ⟨hstart, hstop⟩ := Match.eq_ofChar_iff.mp hfound
  have hcut : sliceFrom? text.toList found.start = some (found.char :: after) := by
    rw [htext, hstart]
    exact sliceFrom?_append before _
  have hcut' : sliceFrom? text.toList found.stop = some after := by
    have hnext := sliceFrom?_cons hcut
    rwa [hstart, ← hstop] at hnext
  refine ⟨?_, exists_sliceFrom?_iff.mp ⟨_, hcut⟩, exists_sliceFrom?_iff.mp ⟨_, hcut'⟩, ?_⟩
  · have := found.char.utf8Size_pos
    omega
  · exact slice?_eq_some_iff.mpr ⟨before, after, htext, hstart.symm, by simp [hstart, hstop]⟩

theorem yields_iff {text : String} {ranges : List ByteRange} :
    c.Yields text.toList 0 ranges ↔ ranges = (c.matchesIn text).map Match.range := by
  have hyields := yields_matchesFrom (c := c) (sliceFrom?_zero text.toList)
  constructor
  · intro h
    exact h.unique hyields
  · rintro rfl
    exact hyields

theorem search_exact (c : CharClass) (text : String) : c.SearchesExactly text where
  listed := matchesIn_eq c text
  found := by
    intro found
    rw [mem_matchesIn]
    refine exists₂_congr fun before after => and_congr_right fun _ => and_congr_right fun _ => ?_
    exact Match.eq_ofChar_iff
  apart := pairwise_matchesIn c text
  first := find?_eq_head? c text
  any := isMatch_iff c text
  bytes := fun _ => bytes_of_mem_matchesIn
  first_bytes := by
    rw [findAt?_eq (sliceFrom?_zero text.toList), find?, Option.map_map]
    rfl
  iterated := fun _ => yields_iff

end CharClass
end UnicodeClasses

import UnicodeClasses.Proofs.SelfDelimiting
import UnicodeClasses.Proofs.SetAlgebra

/-!
# Members written into a bracket

Ranges are written by their ends in hexadecimal, sets by their escapes. Whatever stands beside a
written member, it is read back as its own set, so a bracket expression is read as the union of the
members written into it.
-/
namespace UnicodeClasses

theorem hexDigit_digitChar {digit : Nat} (h : digit < 16) : HexDigit digit.digitChar digit :=
  ⟨h, false, rfl⟩

theorem hexNumber_toDigits (n : Nat) : HexNumber (Nat.toDigits 16 n) n := by
  induction n using Nat.strongRecOn with
  | ind n ih =>
    by_cases hn : n < 16
    · rw [Nat.toDigits_of_lt_base hn]
      simpa using HexNumber.nil.concat (hexDigit_digitChar hn)
    · have hdiv := (ih (n / 16) (by omega)).concat (hexDigit_digitChar (Nat.mod_lt n (by decide)))
      rw [Nat.toDigits_of_base_le (by decide) (by omega)]
      rwa [Nat.div_add_mod' n 16] at hdiv

/-- A number in hexadecimal, with digits of either case and any number of leading zeros. -/
structure HexText where
  chars : List Char
  value : Nat
  nonempty : chars ≠ []
  number : HexNumber chars value

def HexText.ofNat (n : Nat) : HexText where
  chars := Nat.toDigits 16 n
  value := n
  nonempty := Nat.toDigits_ne_nil
  number := hexNumber_toDigits n

/-- The braced escape of a code point. -/
def HexText.escape (text : HexText) : List Char := '\\' :: 'u' :: '{' :: (text.chars ++ ['}'])

/-- A range of the domain as it is written, by the escapes of its ends. -/
structure RangeText where
  first : HexText
  last : HexText
  ordered : first.value ≤ last.value
  domain : last.value ≤ maxCodePoint

namespace RangeText

def chars (text : RangeText) : List Char := text.first.escape ++ '-' :: text.last.escape

def range (text : RangeText) : CodeRange := ⟨text.first.value, text.last.value, text.ordered⟩

def ofRange (r : CodeRange) (h : r.hi ≤ maxCodePoint) : RangeText :=
  ⟨.ofNat r.lo, .ofNat r.hi, r.lo_le_hi, h⟩

/-- Every set has a text for each of its ranges. -/
theorem exists_texts (s : RangeSet) :
    ∃ texts : List RangeText, texts.map range = s.ranges.toList := by
  refine ⟨s.ranges.toList.attach.map fun r => ofRange r.val (s.normal.hi_le r.property), ?_⟩
  rw [List.map_map]
  exact List.attach_map_subtype_val _

end RangeText

/-- A member as it is written: a range, the escape of a set, or a property escape that compiles. -/
inductive WrittenMember (registry : Registry) (limit : Nat)
  | range (text : RangeText)
  | shorthand (letter : Char) (kind : Shorthand) (negated : Bool)
      (listed : (letter, kind, negated) ∈ ClassItem.setLetters)
  | property (text : List Char) (compiled : CompiledEscape)
      (reads : CompiledEscape.read? registry ⟨true, limit⟩ text = .ok (some (compiled, [])))

namespace WrittenMember

variable {registry : Registry} {limit : Nat}

def chars : WrittenMember registry limit → List Char
  | range text => text.chars
  | shorthand letter _ _ _ => ['\\', letter]
  | property text _ _ => text

def set : WrittenMember registry limit → RangeSet
  | range text => .ofRange text.range
  | shorthand _ kind negated _ => kind.set.negateIf negated
  | property _ compiled _ => compiled.set

def items : WrittenMember registry limit → List ClassItem
  | range text => [.char text.first.value, .dash, .char text.last.value]
  | shorthand _ kind negated _ => [.shorthand kind negated]
  | property _ compiled _ => [.property compiled.escape]

def members : WrittenMember registry limit → List ClassMember
  | range text => [.char text.first.value, .dash, .char text.last.value]
  | shorthand _ kind negated _ => [.set (kind.set.negateIf negated)]
  | property _ compiled _ => [.set compiled.set]

/-- The code points that a member stands for. -/
def Contains : WrittenMember registry limit → Nat → Prop
  | range text, c => text.first.value ≤ c ∧ c ≤ text.last.value
  | shorthand _ kind negated _, c => c ≤ maxCodePoint ∧ (kind.Matches c ↔ negated = false)
  | property _ compiled _, c => compiled.set.contains c = true

theorem contains_set (m : WrittenMember registry limit) (c : Nat) :
    m.set.contains c = true ↔ m.Contains c := by
  rw [RangeSet.contains_iff]
  cases m with
  | range text =>
    have hordered := text.ordered
    have hdomain := text.domain
    simp only [set, RangeSet.ofRange, RangeSet.mem_between, RangeText.range, Contains]
    omega
  | shorthand letter kind negated listed => exact Shorthand.mem_negateIf
  | property text compiled reads => exact RangeSet.contains_iff.symm

/-- The ranges that a member stands for. -/
def pieces : WrittenMember registry limit → List CodeRange
  | range text => [text.range]
  | shorthand _ kind negated _ => (kind.set.negateIf negated).ranges.toList
  | property _ compiled _ => compiled.set.ranges.toList

theorem covered_pieces (m : WrittenMember registry limit) {c : Nat} (hc : c ≤ maxCodePoint) :
    Covered m.pieces c ↔ c ∈ m.set := by
  cases m with
  | range text =>
    have := text.ordered
    simp [pieces, set, RangeText.range, RangeSet.ofRange, RangeSet.mem_between, CodeRange.mem_iff,
      hc, this]
  | shorthand letter kind negated listed => exact Iff.rfl
  | property text compiled reads => exact Iff.rfl

theorem contributes_items (m : WrittenMember registry limit) :
    List.Forall₂ (ClassItem.Contributes registry) m.items m.members := by
  cases m with
  | range text => exact .cons (.char _) (.cons .dash (.cons (.char _) .nil))
  | shorthand letter kind negated listed =>
    exact .cons (ClassItem.contributes_shorthand registry kind negated) .nil
  | property text compiled reads =>
    obtain ⟨-, -, hset⟩ := CompiledEscape.read?_eq_some.mp reads
    exact .cons (.property hset) .nil

theorem spells_escape (text : HexText) (h : text.value ≤ maxCodePoint) (following : List Char) :
    ClassItem.Spells limit text.escape following (.char text.value) :=
  .braced text.nonempty text.number h

/-- A member in front of a text that is cut into items adds its own items. -/
theorem cut_chars (m : WrittenMember registry limit) {following rest : List Char}
    {items : List ClassItem} (h : ClassItem.Cut limit following items rest) :
    ClassItem.Cut limit (m.chars ++ following) (m.items ++ items) rest := by
  cases m with
  | range text =>
    have hlast := ClassItem.Cut.item (spells_escape text.last text.domain following) h
    have hdash := ClassItem.Cut.item
      (.dash (by simp [HexText.escape]) : ClassItem.Spells limit ['-'] _ _) hlast
    have hfirst := Nat.le_trans text.ordered text.domain
    simpa [chars, RangeText.chars, WrittenMember.items] using
      ClassItem.Cut.item (spells_escape text.first hfirst _) hdash
  | shorthand letter kind negated listed => exact .item (.shorthand listed) h
  | property text compiled reads =>
    obtain ⟨-, hscan, -⟩ := CompiledEscape.read?_eq_some.mp reads
    have hmore := PropertyEscape.scan_append hscan following
    exact .item (.property hmore) h

/-- No member begins with a dash. -/
theorem flatMap_members_ne (ms : List (WrittenMember registry limit)) (after : List ClassMember) :
    ms.flatMap members ≠ .dash :: after := by
  cases ms with
  | nil => simp
  | cons m ms => cases m <;> simp [members]

theorem reading_set_members (s : RangeSet) {rest : List ClassMember}
    (h : ∀ after, rest ≠ .dash :: after) :
    ClassMember.reading (.set s :: rest) =
      (s.ranges.toList ++ ·) <$> ClassMember.reading rest := by
  cases rest with
  | nil => rfl
  | cons next rest =>
    have hnext : next ≠ .dash := by
      rintro rfl
      exact h rest rfl
    exact ClassMember.reading_set_cons s hnext rest

theorem reading_members (m : WrittenMember registry limit) {rest : List ClassMember}
    (h : ∀ after, rest ≠ .dash :: after) :
    ClassMember.reading (m.members ++ rest) = (m.pieces ++ ·) <$> ClassMember.reading rest := by
  cases m with
  | range text => exact ClassMember.reading_range text.ordered rest
  | shorthand letter kind negated listed => exact reading_set_members _ h
  | property text compiled reads => exact reading_set_members _ h

theorem reading_flatMap (ms : List (WrittenMember registry limit)) :
    ClassMember.reading (ms.flatMap members) = .ok (ms.flatMap pieces) := by
  induction ms with
  | nil => rfl
  | cons m ms ih =>
    rw [List.flatMap_cons, reading_members m (flatMap_members_ne ms), ih]
    rfl

theorem contributes_flatMap (ms : List (WrittenMember registry limit)) :
    List.Forall₂ (ClassItem.Contributes registry) (ms.flatMap items) (ms.flatMap members) := by
  induction ms with
  | nil => exact .nil
  | cons m ms ih =>
    rw [List.flatMap_cons, List.flatMap_cons]
    exact List.rel_append m.contributes_items ih

/-- The text of members, one after another. -/
def written (ms : List (WrittenMember registry limit)) : List Char := ms.flatMap chars

theorem cut_written (ms : List (WrittenMember registry limit)) (rest : List Char) :
    ClassItem.Cut limit (written ms ++ ']' :: rest) (ms.flatMap items) rest := by
  induction ms with
  | nil => exact .close rest
  | cons m ms ih =>
    rw [written, List.flatMap_cons, List.flatMap_cons, List.append_assoc]
    exact m.cut_chars ih

/-- Every member begins with a backslash. -/
theorem exists_chars_eq (m : WrittenMember registry limit) : ∃ after, m.chars = '\\' :: after := by
  cases m with
  | range text => exact ⟨_, rfl⟩
  | shorthand letter kind negated listed => exact ⟨_, rfl⟩
  | property text compiled reads => exact CompiledEscape.exists_of_read? reads

theorem head?_written (ms : List (WrittenMember registry limit)) (rest : List Char) :
    (written ms ++ ']' :: rest).head? ≠ some '^' := by
  cases ms with
  | nil => simp [written]
  | cons m ms =>
    obtain ⟨after, hafter⟩ := m.exists_chars_eq
    simp [written, hafter]

/-- The union of the members' sets. -/
def union (ms : List (WrittenMember registry limit)) : RangeSet :=
  ms.foldr (fun m s => m.set ∪ s) ∅

theorem mem_union {ms : List (WrittenMember registry limit)} {c : Nat} :
    c ∈ union ms ↔ ∃ m ∈ ms, c ∈ m.set := by
  induction ms with
  | nil => simp [union]
  | cons m ms ih =>
    simp only [union, List.foldr_cons, RangeSet.mem_union, List.mem_cons, exists_eq_or_imp] at ih ⊢
    rw [ih]

theorem ofRanges_flatMap_pieces (ms : List (WrittenMember registry limit)) :
    RangeSet.ofRanges (ms.flatMap pieces) = union ms := by
  apply RangeSet.ext_domain
  intro c hc
  have hpieces : Covered (ms.flatMap pieces) c ↔ ∃ m ∈ ms, Covered m.pieces c := by
    simp only [Covered, List.mem_flatMap]
    constructor
    · rintro ⟨r, ⟨m, hm, hr⟩, hcr⟩
      exact ⟨m, hm, r, hr, hcr⟩
    · rintro ⟨m, hm, r, hr, hcr⟩
      exact ⟨r, ⟨m, hm, hr⟩, hcr⟩
  rw [RangeSet.mem_ofRanges, and_iff_left hc, hpieces, mem_union]
  simp only [covered_pieces _ hc]

/-- Lists with the same members have the same union. -/
theorem union_congr {ms ns : List (WrittenMember registry limit)} (h : ∀ m, m ∈ ms ↔ m ∈ ns) :
    union ms = union ns := by
  apply RangeSet.ext
  intro c
  simp only [mem_union, h]

theorem union_ranges {s : RangeSet} {texts : List RangeText}
    (h : texts.map RangeText.range = s.ranges.toList) :
    union (texts.map (range : RangeText → WrittenMember registry limit)) = s := by
  have hpieces : ∀ texts : List RangeText,
      (texts.map (range : RangeText → WrittenMember registry limit)).flatMap pieces =
        texts.map RangeText.range := by
    intro texts
    induction texts with
    | nil => rfl
    | cons text texts ih =>
      rw [List.map_cons, List.flatMap_cons, ih]
      rfl
  rw [← ofRanges_flatMap_pieces, hpieces, h, RangeSet.ofRanges_ranges]

theorem written_ranges (texts : List RangeText) :
    written (texts.map (range : RangeText → WrittenMember registry limit)) =
      texts.flatMap RangeText.chars := by
  rw [written, List.flatMap_map]
  rfl

end WrittenMember

namespace BracketClass
open WrittenMember

variable {registry : Registry} {limit : Nat}

theorem read_written (ms : List (WrittenMember registry limit)) {text : List Char}
    {negated : Bool} (h : Opens text negated (written ms ++ [']'])) :
    read registry ⟨true, limit⟩ text =
      .ok (⟨(union ms).negateIf negated, negated, byteSize text⟩, []) := by
  have hbody := ClassItem.cut_iff_readAll.mp (cut_written ms [])
  have hread := read_of_readAll h hbody (contributes_flatMap ms) (reading_flatMap ms)
  rw [hread, ofRanges_flatMap_pieces]
  rfl

/-- Members written between brackets are read back as the union of their sets, which neither their
order nor repetition changes, and behind a caret as the complement of the union. Each set has the
code points that its member stands for. A set whose ranges are written is read back as itself. -/
theorem read_written_members (ms : List (WrittenMember registry limit)) :
    (∀ (m : WrittenMember registry limit) c, m.set.contains c = true ↔ m.Contains c) ∧
    (∀ c, (union ms).contains c = true ↔ ∃ m ∈ ms, m.set.contains c = true) ∧
    read registry ⟨true, limit⟩ ('[' :: (written ms ++ [']'])) =
      .ok (⟨union ms, false, byteSize ('[' :: (written ms ++ [']']))⟩, []) ∧
    read registry ⟨true, limit⟩ ('[' :: '^' :: (written ms ++ [']'])) =
      .ok (⟨(union ms).complement, true, byteSize ('[' :: '^' :: (written ms ++ [']']))⟩, []) ∧
    (∀ ns : List (WrittenMember registry limit), (∀ m, m ∈ ns ↔ m ∈ ms) →
      read registry ⟨true, limit⟩ ('[' :: (written ns ++ [']'])) =
        .ok (⟨union ms, false, byteSize ('[' :: (written ns ++ [']']))⟩, [])) ∧
    ∀ s : RangeSet, (∃ texts : List RangeText, texts.map RangeText.range = s.ranges.toList) ∧
      ∀ texts : List RangeText, texts.map RangeText.range = s.ranges.toList →
        read registry ⟨true, limit⟩ ('[' :: (texts.flatMap RangeText.chars ++ [']'])) =
          .ok (⟨s, false, byteSize ('[' :: (texts.flatMap RangeText.chars ++ [']']))⟩, []) := by
  have hplain : ∀ ns : List (WrittenMember registry limit),
      Opens ('[' :: (written ns ++ [']'])) false (written ns ++ [']']) :=
    fun ns => .plain (head?_written ns [])
  refine ⟨contains_set, fun c => ?_, read_written ms (hplain ms), read_written ms (.marked _),
    fun ns h => ?_, fun s => ⟨RangeText.exists_texts s, fun texts h => ?_⟩⟩
  · simp only [RangeSet.contains_iff, mem_union]
  · rw [← union_congr h]
    exact read_written ns (hplain ns)
  · have hread := read_written _ (hplain (texts.map .range))
    rwa [union_ranges h, written_ranges] at hread

end BracketClass
end UnicodeClasses

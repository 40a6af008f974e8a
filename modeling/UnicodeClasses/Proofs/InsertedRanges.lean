import Mathlib.Data.List.Chain
import UnicodeClasses.Proofs.CheckedInsertion
import UnicodeClasses.Proofs.SetAlgebra

/-!
# Ranges inserted one by one

An insertion finds the ranges that it replaces by two binary searches, while unions and
constructors sweep over all ranges. They store the same ranges, over code points and over machine
words alike, so the order of insertions is without effect.
-/
namespace UnicodeClasses

/-- Ranges are in normal form when neighbours leave a gap and all end inside the domain. -/
theorem normal_of_neighbours {rs : List CodeRange} (hmax : ∀ r ∈ rs, r.hi ≤ maxCodePoint)
    (hgap : ∀ k (h : k + 1 < rs.length), rs[k].hi + 1 < rs[k + 1].lo) : Normal rs := by
  have htrans : Trans (fun r s : CodeRange => r.hi + 1 < s.lo)
      (fun r s : CodeRange => r.hi + 1 < s.lo) (fun r s : CodeRange => r.hi + 1 < s.lo) :=
    ⟨fun {r s t} hrs hst => by
      have := s.lo_le_hi
      omega⟩
  exact normal_iff.mpr ⟨hmax, List.isChain_iff_pairwise.mp (List.isChain_iff_getElem.mpr hgap)⟩

namespace RangeSet

theorem insertBetween_eq_union (s : RangeSet) (a b : Nat) :
    s.insertBetween a b = s ∪ between a b := by
  apply ext
  intro c
  rw [mem_insertBetween, mem_union, mem_between]

theorem ofRanges_nil : ofRanges [] = ∅ := by
  apply ext
  intro c
  simp [mem_ofRanges]

/-- The first range of a list adds its code points to those of the others. -/
theorem ofRanges_between_cons (a b : Nat) (rs : List CodeRange) :
    ofRanges (.between a b :: rs) = between a b ∪ ofRanges rs := by
  apply ext
  intro c
  rw [mem_union, mem_between, mem_ofRanges, mem_ofRanges, covered_cons, CodeRange.mem_between,
    or_and_right]

theorem ofRanges_perm {rs ss : List CodeRange} (h : rs.Perm ss) : ofRanges rs = ofRanges ss := by
  apply ext
  intro c
  simp only [mem_ofRanges, Covered, h.mem_iff]

/-- Inserts the code points between pairs of ends, one pair after another. -/
def insertPairs (s : RangeSet) (pairs : List (Nat × Nat)) : RangeSet :=
  pairs.foldl (fun s pair => s.insertBetween pair.1 pair.2) s

theorem insertPairs_eq_union (s : RangeSet) (pairs : List (Nat × Nat)) :
    s.insertPairs pairs = s ∪ ofRanges (pairs.map fun pair => .between pair.1 pair.2) := by
  induction pairs generalizing s with
  | nil =>
    rw [List.map_nil, ofRanges_nil]
    exact (sup_bot_eq s).symm
  | cons pair pairs ih =>
    calc (s.insertBetween pair.1 pair.2).insertPairs pairs
        = s.insertBetween pair.1 pair.2 ∪ ofRanges (pairs.map fun pair => .between pair.1 pair.2) :=
          ih _
      _ = s ∪ between pair.1 pair.2 ∪ ofRanges (pairs.map fun pair => .between pair.1 pair.2) := by
          rw [insertBetween_eq_union]
      _ = s ∪ (between pair.1 pair.2 ∪ ofRanges (pairs.map fun pair => .between pair.1 pair.2)) :=
          sup_assoc ..
      _ = s ∪ ofRanges ((pair :: pairs).map fun pair => .between pair.1 pair.2) := by
          rw [List.map_cons, ofRanges_between_cons]

theorem insertPairs_empty {pairs order : List (Nat × Nat)} (h : order.Perm pairs) :
    insertPairs ∅ order = ofRanges (pairs.map fun pair => .between pair.1 pair.2) := by
  rw [insertPairs_eq_union, ← ofRanges_perm (h.map _)]
  exact bot_sup_eq _

end RangeSet

namespace WordSet

/-- Words in normal form store a set. -/
theorem exists_words {s : WordSet} (h : s.isNormalized = true) :
    ∃ set : RangeSet, set.words = s := by
  obtain ⟨horder, hmax, hgap⟩ := isNormalized_iff.mp h
  let ranges : List CodeRange := s.toList.attach.map fun r =>
    ⟨r.val.lo.toNat, r.val.hi.toNat, horder r.val (Array.mem_toList_iff.mp r.property)⟩
  have hnormal : Normal ranges := by
    refine normal_of_neighbours (fun r hr => ?_) (fun k hk => ?_)
    · obtain ⟨word, -, rfl⟩ := List.mem_map.mp hr
      exact hmax word.val (Array.mem_toList_iff.mp word.property)
    · have hsize : k + 1 < s.size := by simpa [ranges] using hk
      simpa [ranges] using hgap k hsize
  refine ⟨.ofNormal ranges hnormal, ?_⟩
  rw [RangeSet.words_ofNormal]
  simp [ranges, CodeRange.words, Function.comp_def]

/-- Inserts the words between pairs of ends, one pair after another. -/
def insertPairs (s : WordSet) (pairs : List (UInt32 × UInt32)) : Option WordSet :=
  pairs.foldlM (fun s pair => addRange s pair.1 pair.2) s

theorem insertPairs_words (s : RangeSet) (pairs : List (UInt32 × UInt32)) :
    insertPairs s.words pairs =
      some (s.insertPairs (pairs.map fun pair => (pair.1.toNat, pair.2.toNat))).words := by
  induction pairs generalizing s with
  | nil => rfl
  | cons pair pairs ih =>
    rw [insertPairs, List.foldlM_cons, addRange_words]
    exact ih (s.insertBetween pair.1.toNat pair.2.toNat)

end WordSet

/-- Inserting a range in place stores what the union with that range stores, and inserting ranges
one by one in any order stores what the constructor from their list stores. Over words neither
side fails, for any words as ends. -/
theorem insertion_in_place :
    (∀ (s : RangeSet) (a b : Nat), (s.insertBetween a b).ranges = (s ∪ .between a b).ranges) ∧
    (∀ pairs order : List (Nat × Nat), order.Perm pairs →
      (RangeSet.insertPairs ∅ order).ranges =
        (RangeSet.ofRanges (pairs.map fun pair => .between pair.1 pair.2)).ranges) ∧
    (∀ s : WordSet, s.isNormalized = true → ∀ a b : UInt32, ∃ range result,
      WordSet.fromRange a b = some range ∧ WordSet.addRange s a b = some result ∧
        WordSet.union s range = some result) ∧
    ∀ pairs order : List (UInt32 × UInt32), order.Perm pairs → ∃ result,
      WordSet.insertPairs #[] order = some result ∧ WordSet.fromRanges pairs = some result := by
  refine ⟨fun s a b => ?_, fun pairs order h => ?_, fun s hs a b => ?_, fun pairs order h => ?_⟩
  · rw [RangeSet.insertBetween_eq_union]
  · rw [RangeSet.insertPairs_empty h]
  · obtain ⟨set, rfl⟩ := WordSet.exists_words hs
    refine ⟨_, _, WordSet.fromRange_eq a b, WordSet.addRange_words set a b, ?_⟩
    rw [RangeSet.insertBetween_eq_union]
    exact WordSet.union_words set _
  · refine ⟨_, ?_, WordSet.fromRanges_eq pairs⟩
    have hinsert := WordSet.insertPairs_words ∅ order
    rw [RangeSet.words_empty] at hinsert
    rw [hinsert, RangeSet.insertPairs_empty (h.map _), List.map_map]
    rfl

end UnicodeClasses

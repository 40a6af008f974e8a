import UnicodeClasses.RangeMerge
import UnicodeClasses.RangeSweep
import UnicodeClasses.RangeInsertion

/-!
# Sets of code points

A set stores its ranges in normal form. Each operation is described by what it does to
membership, and equality of sets is equality of their stored ranges.
-/
namespace UnicodeClasses

structure RangeSet where
  ranges : Array CodeRange
  normal : Normal ranges.toList
  deriving DecidableEq

namespace RangeSet

def ofNormal (rs : List CodeRange) (h : Normal rs) : RangeSet := ⟨rs.toArray, h⟩

def empty : RangeSet := ofNormal [] trivial

instance : EmptyCollection RangeSet := ⟨empty⟩

instance : Inhabited RangeSet := ⟨∅⟩

/-- Ranges in any order, overlapping or not; what lies outside the domain is dropped. -/
def ofRanges (rs : List CodeRange) : RangeSet := ofNormal (normalise rs) (normalise_normal rs)

/-- The code points between two ends, given in either order. -/
def between (a b : Nat) : RangeSet := ofRanges [CodeRange.between a b]

def singleton (c : Nat) : RangeSet := between c c

/-- The code points of one range, as far as they lie in the domain. -/
def ofRange (r : CodeRange) : RangeSet := between r.lo r.hi

/-- The whole domain. -/
def full : RangeSet := between 0 maxCodePoint

/-- The code points of a data table; inverted entries are ignored. -/
def ofTable (table : CodeTable) : RangeSet := ofRanges (table.filterMap CodeRange.ofEntry?)

/-- Membership by binary search for the first range that ends at `c` or later. -/
def contains (s : RangeSet) (c : Nat) : Bool :=
  match s.ranges[partitionPoint (fun r => r.hi < c) s.ranges]? with
  | some r => r.lo ≤ c
  | none => false

instance : Membership Nat RangeSet := ⟨fun s c => Covered s.ranges.toList c⟩

def isEmpty (s : RangeSet) : Bool := s.ranges.isEmpty

def isFull (s : RangeSet) : Bool := s == full

def rangeCount (s : RangeSet) : Nat := s.ranges.size

def codePointCount (s : RangeSet) : Nat :=
  s.ranges.toList.foldr (fun r count => r.size + count) 0

def union (s t : RangeSet) : RangeSet :=
  ofNormal (unite s.ranges.toList t.ranges.toList) (unite_normal s.normal t.normal)

instance : Union RangeSet := ⟨union⟩

/-- The union as an update of the first set, which an empty second set leaves as it is. -/
def unionWith (s t : RangeSet) : RangeSet := if t.isEmpty then s else s ∪ t

/-- The code points of the domain that are not members. -/
def complement (s : RangeSet) : RangeSet :=
  ofNormal (gapsFrom 0 s.ranges.toList) (gapsFrom_normalFrom s.normal)

def inter (s t : RangeSet) : RangeSet :=
  ofNormal (overlaps s.ranges.toList t.ranges.toList) (overlaps_normalFrom s.normal t.normal)

instance : Inter RangeSet := ⟨inter⟩

def diff (s t : RangeSet) : RangeSet := if t.isEmpty then s else s ∩ t.complement

instance : SDiff RangeSet := ⟨diff⟩

/-- Inserts the code points between two ends, given in either order. -/
def insertBetween (s : RangeSet) (a b : Nat) : RangeSet :=
  match h : (CodeRange.between a b).clip? with
  | none => s
  | some r => ⟨insertRange s.ranges r, insertRange_normal s.normal (by
      have := (CodeRange.clip?_eq_some h).2
      omega)⟩

def insert (s : RangeSet) (c : Nat) : RangeSet := s.insertBetween c c

/-- The set, or its complement. -/
def negateIf (negated : Bool) (s : RangeSet) : RangeSet := if negated then s.complement else s

theorem mem_def {c : Nat} {s : RangeSet} : c ∈ s ↔ Covered s.ranges.toList c := Iff.rfl

/-- Sets with the same members are equal. -/
theorem ext {s t : RangeSet} (h : ∀ c, c ∈ s ↔ c ∈ t) : s = t := by
  have hranges := Array.toList_inj.mp (s.normal.unique t.normal h)
  cases s
  cases t
  simp_all

theorem le_max_of_mem {c : Nat} {s : RangeSet} (h : c ∈ s) : c ≤ maxCodePoint :=
  s.normal.le_max_of_covered h

@[simp] theorem not_mem_empty {c : Nat} : c ∉ (∅ : RangeSet) := covered_nil

theorem mem_ofRanges {rs : List CodeRange} {c : Nat} :
    c ∈ ofRanges rs ↔ Covered rs c ∧ c ≤ maxCodePoint := covered_normalise

theorem mem_between {a b c : Nat} :
    c ∈ between a b ↔ (min a b ≤ c ∧ c ≤ max a b) ∧ c ≤ maxCodePoint := by
  simp [between, mem_ofRanges, CodeRange.mem_between]

theorem mem_singleton {a c : Nat} : c ∈ singleton a ↔ c = a ∧ a ≤ maxCodePoint := by
  rw [singleton, mem_between]
  omega

@[simp] theorem mem_full {c : Nat} : c ∈ full ↔ c ≤ maxCodePoint := by
  rw [full, mem_between]
  omega

theorem mem_ofTable {table : CodeTable} {c : Nat} :
    c ∈ ofTable table ↔ (∃ entry ∈ table, entry.1 ≤ c ∧ c ≤ entry.2) ∧ c ≤ maxCodePoint := by
  rw [ofTable, mem_ofRanges]
  simp only [Covered, List.mem_filterMap, CodeRange.mem_iff]
  apply and_congr_left'
  constructor
  · rintro ⟨r, ⟨entry, hentry, hr⟩, hc⟩
    obtain ⟨hlo, hhi⟩ := CodeRange.ofEntry?_eq_some.mp hr
    exact ⟨entry, hentry, by omega⟩
  · rintro ⟨entry, hentry, hc⟩
    exact ⟨⟨entry.1, entry.2, by omega⟩,
      ⟨entry, hentry, CodeRange.ofEntry?_eq_some.mpr ⟨rfl, rfl⟩⟩, hc⟩

@[simp] theorem mem_union {c : Nat} {s t : RangeSet} : c ∈ s ∪ t ↔ c ∈ s ∨ c ∈ t :=
  covered_unite s.normal t.normal

@[simp] theorem mem_inter {c : Nat} {s t : RangeSet} : c ∈ s ∩ t ↔ c ∈ s ∧ c ∈ t :=
  covered_overlaps s.normal t.normal

@[simp] theorem mem_complement {c : Nat} {s : RangeSet} :
    c ∈ s.complement ↔ c ≤ maxCodePoint ∧ c ∉ s :=
  (covered_gapsFrom s.normal).trans (by simp [mem_def])

theorem isEmpty_iff {s : RangeSet} : s.isEmpty = true ↔ s.ranges = #[] := by
  simp [isEmpty]

theorem not_mem_of_isEmpty {c : Nat} {s : RangeSet} (h : s.isEmpty = true) : c ∉ s := by
  simp [mem_def, isEmpty_iff.mp h]

@[simp] theorem mem_unionWith {c : Nat} {s t : RangeSet} :
    c ∈ s.unionWith t ↔ c ∈ s ∨ c ∈ t := by
  unfold unionWith
  split
  · rename_i h
    simp [not_mem_of_isEmpty h]
  · exact mem_union

@[simp] theorem mem_diff {c : Nat} {s t : RangeSet} : c ∈ s \ t ↔ c ∈ s ∧ c ∉ t := by
  show c ∈ diff s t ↔ _
  unfold diff
  split
  · rename_i h
    simp [not_mem_of_isEmpty h]
  · simp only [mem_inter, mem_complement]
    exact ⟨fun h => ⟨h.1, h.2.2⟩, fun h => ⟨h.1, le_max_of_mem h.1, h.2⟩⟩

theorem mem_negateIf {negated : Bool} {c : Nat} {s : RangeSet} :
    c ∈ s.negateIf negated ↔ c ≤ maxCodePoint ∧ (c ∈ s ↔ negated = false) := by
  cases negated
  · simpa [negateIf] using le_max_of_mem
  · simp [negateIf]

theorem mem_insertBetween {a b c : Nat} {s : RangeSet} :
    c ∈ s.insertBetween a b ↔ c ∈ s ∨ (min a b ≤ c ∧ c ≤ max a b) ∧ c ≤ maxCodePoint := by
  rw [← CodeRange.mem_between, ← CodeRange.exists_clip?_mem]
  unfold insertBetween
  split
  · rename_i h
    simp [h]
  · rename_i r h
    rw [mem_def, covered_insertRange s.normal, or_comm]
    simp [h, mem_def]

theorem mem_insert {a c : Nat} {s : RangeSet} :
    c ∈ s.insert a ↔ c ∈ s ∨ c = a ∧ a ≤ maxCodePoint := by
  rw [insert, mem_insertBetween]
  apply or_congr_right
  omega

/-- The binary search answers membership. -/
@[simp] theorem contains_iff {s : RangeSet} {c : Nat} : s.contains c = true ↔ c ∈ s := by
  have hsorted : s.ranges.toList.Pairwise fun x y =>
      decide (y.hi < c) = true → decide (x.hi < c) = true :=
    s.normal.pairwise.imp fun {x y} hgap => by
      have := y.lo_le_hi
      simp only [decide_eq_true_eq]
      omega
  rw [contains, partitionPoint_eq hsorted, mem_def, ← Array.getElem?_toList]
  clear hsorted
  have hnormal := s.normal
  revert hnormal
  generalize s.ranges.toList = rs
  induction rs with
  | nil => simp
  | cons r rs ih =>
    intro h
    rw [covered_cons]
    by_cases hc : r.hi < c
    · have : c ∉ r := by
        rw [CodeRange.mem_iff]
        omega
      simpa [hc, this] using ih h.2.2.normal
    · have hrest : ¬ Covered rs c := fun hcov => by
        have := h.2.2.floor_le_of_covered hcov
        omega
      simp only [hc, hrest, decide_false, Bool.false_eq_true, not_false_eq_true,
        List.takeWhile_cons_of_neg, List.length_nil, List.getElem?_cons_zero, decide_eq_true_eq,
        CodeRange.mem_iff, or_false]
      omega

instance (c : Nat) (s : RangeSet) : Decidable (c ∈ s) :=
  decidable_of_iff (s.contains c = true) contains_iff

end RangeSet

end UnicodeClasses

/-!
# Code points and inclusive ranges

A code point is a natural number. The domain of every set ends at `maxCodePoint`; a range may
reach beyond it, and is clipped when it enters a set.
-/
namespace UnicodeClasses

def maxCodePoint : Nat := 0x10FFFF

/-- Pairs of first and last code point as a data file lists them, in any order. -/
abbrev CodeTable := List (Nat × Nat)

/-- An inclusive range, never empty. -/
structure CodeRange where
  lo : Nat
  hi : Nat
  lo_le_hi : lo ≤ hi
  deriving DecidableEq, Repr

namespace CodeRange

/-- The range between two code points, given in either order. -/
def between (a b : Nat) : CodeRange := ⟨min a b, max a b, by omega⟩

def single (c : Nat) : CodeRange := ⟨c, c, Nat.le_refl c⟩

/-- A table entry as a range; an inverted entry covers nothing. -/
def ofEntry? (entry : Nat × Nat) : Option CodeRange :=
  if h : entry.1 ≤ entry.2 then some ⟨entry.1, entry.2, h⟩ else none

def size (r : CodeRange) : Nat := r.hi - r.lo + 1

instance : Membership Nat CodeRange := ⟨fun r c => r.lo ≤ c ∧ c ≤ r.hi⟩

theorem mem_iff {c : Nat} {r : CodeRange} : c ∈ r ↔ r.lo ≤ c ∧ c ≤ r.hi := Iff.rfl

instance (c : Nat) (r : CodeRange) : Decidable (c ∈ r) :=
  inferInstanceAs (Decidable (r.lo ≤ c ∧ c ≤ r.hi))

/-- Ranges are ordered by their first code point, then by their last. -/
def le (r s : CodeRange) : Bool := r.lo < s.lo || (r.lo = s.lo && r.hi ≤ s.hi)

/-- The least range that covers both. -/
def hull (r s : CodeRange) : CodeRange :=
  ⟨min r.lo s.lo, max r.hi s.hi, by have := r.lo_le_hi; omega⟩

/-- The part of a range inside the domain. -/
def clip? (r : CodeRange) : Option CodeRange :=
  if h : r.lo ≤ maxCodePoint then
    some ⟨r.lo, min r.hi maxCodePoint, Nat.le_min.mpr ⟨r.lo_le_hi, h⟩⟩
  else none

theorem mem_between {a b c : Nat} : c ∈ between a b ↔ min a b ≤ c ∧ c ≤ max a b := Iff.rfl

theorem mem_single {a c : Nat} : c ∈ single a ↔ c = a := by
  simp only [mem_iff, single]
  omega

theorem le_trans (r s t : CodeRange) (h : le r s = true) (h' : le s t = true) :
    le r t = true := by
  simp only [le, Bool.or_eq_true, Bool.and_eq_true, decide_eq_true_eq] at *
  omega

theorem le_total (r s : CodeRange) : (le r s || le s r) = true := by
  simp only [le, Bool.or_eq_true, Bool.and_eq_true, decide_eq_true_eq]
  omega

theorem lo_le_lo_of_le {r s : CodeRange} (h : le r s = true) : r.lo ≤ s.lo := by
  simp only [le, Bool.or_eq_true, Bool.and_eq_true, decide_eq_true_eq] at h
  omega

theorem clip?_eq_some {r s : CodeRange} (h : r.clip? = some s) :
    s.lo = r.lo ∧ s.hi = min r.hi maxCodePoint := by
  unfold clip? at h
  split at h
  · cases h
    exact ⟨rfl, rfl⟩
  · exact nomatch h

theorem clip?_eq_none {r : CodeRange} : r.clip? = none ↔ maxCodePoint < r.lo := by
  simp [clip?]

/-- Clipping keeps exactly the code points of the domain. -/
theorem exists_clip?_mem {r : CodeRange} {c : Nat} :
    (∃ s, r.clip? = some s ∧ c ∈ s) ↔ c ∈ r ∧ c ≤ maxCodePoint := by
  unfold clip?
  split
  · simp only [Option.some.injEq, exists_eq_left', mem_iff]
    have := r.lo_le_hi
    omega
  · simp only [reduceCtorEq, false_and, exists_false, false_iff, mem_iff]
    omega

theorem ofEntry?_eq_some {entry : Nat × Nat} {r : CodeRange} :
    ofEntry? entry = some r ↔ r.lo = entry.1 ∧ r.hi = entry.2 := by
  unfold ofEntry?
  split
  · constructor
    · rintro ⟨⟩
      exact ⟨rfl, rfl⟩
    · rintro ⟨h₁, h₂⟩
      cases r
      simp_all
  · have := r.lo_le_hi
    simp only [reduceCtorEq, false_iff, not_and]
    omega

end CodeRange

end UnicodeClasses

import Mathlib.Order.BooleanAlgebra.Set
import UnicodeClasses.RangeSet

/-!
# The algebra of sets

Sets with the same members store the same ranges, so the sets of the domain form a Boolean algebra
in which every law holds between the stored ranges themselves.
-/
namespace UnicodeClasses

namespace RangeSet

/-- The members of a set among the code points of the domain. -/
def points (s : RangeSet) : Set {c : Nat // c ≤ maxCodePoint} := {c | c.val ∈ s}

theorem mem_points {s : RangeSet} {c : {c : Nat // c ≤ maxCodePoint}} :
    c ∈ s.points ↔ c.val ∈ s := Iff.rfl

/-- Members of the domain decide a set, since there are no others. -/
theorem ext_domain {s t : RangeSet} (h : ∀ c ≤ maxCodePoint, (c ∈ s ↔ c ∈ t)) : s = t := by
  apply ext
  intro c
  constructor
  · intro hc
    exact (h c (le_max_of_mem hc)).mp hc
  · intro hc
    exact (h c (le_max_of_mem hc)).mpr hc

theorem points_injective : Function.Injective points := by
  intro s t h
  apply ext_domain
  intro c hc
  have hmem : (⟨c, hc⟩ : {c : Nat // c ≤ maxCodePoint}) ∈ s.points ↔ ⟨c, hc⟩ ∈ t.points := by
    rw [h]
  exact hmem

theorem points_union (s t : RangeSet) : (s ∪ t).points = s.points ∪ t.points := by
  ext c
  simp [mem_points]

theorem points_inter (s t : RangeSet) : (s ∩ t).points = s.points ∩ t.points := by
  ext c
  simp [mem_points]

theorem points_full : full.points = Set.univ := by
  ext c
  simp [mem_points, c.property]

theorem points_empty : (∅ : RangeSet).points = ∅ := by
  ext c
  simp [mem_points]

theorem points_complement (s : RangeSet) : s.complement.points = s.pointsᶜ := by
  ext c
  simp [mem_points, c.property]

theorem points_diff (s t : RangeSet) : (s \ t).points = s.points \ t.points := by
  ext c
  simp [mem_points]

instance : Max RangeSet := ⟨union⟩
instance : Min RangeSet := ⟨inter⟩
instance : Top RangeSet := ⟨full⟩
instance : Bot RangeSet := ⟨∅⟩
instance : Compl RangeSet := ⟨complement⟩
instance : HImp RangeSet := ⟨fun s t => t ∪ s.complement⟩
instance : LE RangeSet := ⟨fun s t => s.points ≤ t.points⟩
instance : LT RangeSet := ⟨fun s t => s ≤ t ∧ ¬ t ≤ s⟩

/-- The laws of the sets of code points carry over to the sets of stored ranges. -/
instance : BooleanAlgebra RangeSet :=
  points_injective.booleanAlgebra points Iff.rfl lt_iff_le_not_ge points_union points_inter
    points_full points_empty points_complement points_diff fun s t => by
      rw [himp_eq, ← points_complement]
      exact points_union t s.complement

theorem ranges_inj {s t : RangeSet} : s.ranges = t.ranges ↔ s = t := by
  cases s
  cases t
  simp

/-- Sets are compared by their stored ranges, and these agree when the members do. -/
theorem eq_iff_contains {s t : RangeSet} :
    s = t ↔ ∀ c ≤ maxCodePoint, s.contains c = t.contains c := by
  constructor
  · rintro rfl c _
    rfl
  · intro h
    apply ext_domain
    intro c hc
    rw [← contains_iff, ← contains_iff, h c hc]

theorem isEmpty_iff_forall {s : RangeSet} : s.isEmpty = true ↔ ∀ c, s.contains c = false := by
  constructor
  · intro h c
    have hc : c ∉ s := not_mem_of_isEmpty h
    simpa [← contains_iff] using hc
  · intro h
    have hs : s = ∅ := by
      apply ext
      intro c
      rw [← contains_iff, h c]
      simp
    rw [hs]
    rfl

theorem ranges_full : full.ranges = #[⟨0, maxCodePoint, Nat.zero_le _⟩] := by
  have hnormal : Normal [⟨0, maxCodePoint, Nat.zero_le _⟩] :=
    ⟨Nat.zero_le _, Nat.le_refl _, trivial⟩
  have hcovered : ∀ c, Covered full.ranges.toList c ↔
      Covered [⟨0, maxCodePoint, Nat.zero_le _⟩] c := by
    intro c
    rw [← mem_def, mem_full]
    simp [CodeRange.mem_iff]
  exact Array.toList_inj.mp (full.normal.unique hnormal hcovered)

theorem isFull_iff {s : RangeSet} : s.isFull = true ↔ s = full := beq_iff_eq

theorem isFull_iff_forall {s : RangeSet} :
    s.isFull = true ↔ ∀ c ≤ maxCodePoint, s.contains c = true := by
  rw [isFull_iff, eq_iff_contains]
  apply forall₂_congr
  intro c hc
  have hfull : full.contains c = true := contains_iff.mpr (mem_full.mpr hc)
  rw [hfull]

theorem ofRanges_ranges (s : RangeSet) : ofRanges s.ranges.toList = s := by
  apply ext
  intro c
  rw [mem_ofRanges, ← mem_def]
  exact and_iff_left_of_imp le_max_of_mem

/-- Lists of ranges give equal sets exactly if they cover the same part of the domain. -/
theorem ofRanges_eq_iff {rs ss : List CodeRange} :
    ofRanges rs = ofRanges ss ↔ ∀ c ≤ maxCodePoint, (Covered rs c ↔ Covered ss c) := by
  constructor
  · intro h c hc
    have hmem : c ∈ ofRanges rs ↔ c ∈ ofRanges ss := by rw [h]
    simpa [mem_ofRanges, hc] using hmem
  · intro h
    apply ext_domain
    intro c hc
    simp [mem_ofRanges, hc, h c hc]

/-- Equality of sets is equality of their members, and with it the constructors from ranges are
canonical and the operations satisfy the laws of Boolean algebras on the stored ranges. -/
theorem canonical_boolean_algebra (s t u : RangeSet) :
    ((s == t) = true ↔ s.ranges = t.ranges) ∧
    (s.ranges = t.ranges ↔ ∀ c, (s.contains c = true ↔ t.contains c = true)) ∧
    (s.isEmpty = true ↔ ∀ c, s.contains c = false) ∧
    (s.isFull = true ↔ ∀ c ≤ maxCodePoint, s.contains c = true) ∧
    (s.isFull = true ↔ s.ranges = #[⟨0, maxCodePoint, Nat.zero_le _⟩]) ∧
    ofRanges s.ranges.toList = s ∧
    (∀ rs ss : List CodeRange, ofRanges rs = ofRanges ss ↔
      ∀ c ≤ maxCodePoint, (Covered rs c ↔ Covered ss c)) ∧
    s ∪ t = t ∪ s ∧ s ∩ t = t ∩ s ∧
    s ∪ t ∪ u = s ∪ (t ∪ u) ∧ s ∩ t ∩ u = s ∩ (t ∩ u) ∧
    s ∪ s = s ∧ s ∩ s = s ∧
    s ∪ t ∩ u = (s ∪ t) ∩ (s ∪ u) ∧ s ∩ (t ∪ u) = s ∩ t ∪ s ∩ u ∧
    s.complement.complement = s ∧
    (s ∪ t).complement = s.complement ∩ t.complement ∧
    (s ∩ t).complement = s.complement ∪ t.complement ∧
    s ∪ s.complement = full ∧ s ∩ s.complement = ∅ ∧
    s \ t = s ∩ t.complement := by
  refine ⟨?_, ?_, isEmpty_iff_forall, isFull_iff_forall, ?_, ofRanges_ranges s,
    fun _ _ => ofRanges_eq_iff, sup_comm s t, inf_comm s t, sup_assoc s t u, inf_assoc s t u,
    sup_idem s, inf_idem s, sup_inf_left s t u, inf_sup_left s t u, compl_compl s, compl_sup,
    compl_inf, sup_compl_eq_top, inf_compl_eq_bot, sdiff_eq⟩
  · rw [beq_iff_eq, ranges_inj]
  · rw [ranges_inj]
    constructor
    · rintro rfl c
      rfl
    · intro h
      apply ext
      simpa only [contains_iff] using h
  · rw [isFull_iff, ← ranges_inj, ranges_full]

end RangeSet
end UnicodeClasses

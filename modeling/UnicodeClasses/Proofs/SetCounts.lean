import Mathlib.Algebra.GroupWithZero.Nat
import Mathlib.Order.Bounds.Defs
import Mathlib.Order.Interval.Finset.Nat
import UnicodeClasses.Proofs.CheckedRuns

/-!
# Counts of code points and ranges

The sizes of the stored ranges add up to the number of members, since no two ranges overlap. Each
range begins where a run of members begins, since no two touch, so no fewer intervals make up the
set. Over machine words no step of the sum wraps.
-/
namespace UnicodeClasses

/-- The code points that ranges cover. -/
def pointsOf : List CodeRange → Finset Nat
  | [] => ∅
  | r :: rs => Finset.Icc r.lo r.hi ∪ pointsOf rs

theorem mem_pointsOf {rs : List CodeRange} {c : Nat} : c ∈ pointsOf rs ↔ Covered rs c := by
  induction rs with
  | nil => simp [pointsOf]
  | cons r rs ih =>
    rw [pointsOf, Finset.mem_union, Finset.mem_Icc, covered_cons, ih]
    rfl

/-- Ranges in normal form count each of their code points once. -/
theorem card_pointsOf {floor : Nat} {rs : List CodeRange} (h : NormalFrom floor rs) :
    (pointsOf rs).card = (rs.map CodeRange.size).sum := by
  induction rs generalizing floor with
  | nil => rfl
  | cons r rs ih =>
    obtain ⟨-, -, hrest⟩ := h
    have hdisjoint : Disjoint (Finset.Icc r.lo r.hi) (pointsOf rs) := by
      refine Finset.disjoint_left.mpr fun c hc hcov => ?_
      have := (Finset.mem_Icc.mp hc).2
      have := hrest.floor_le_of_covered (mem_pointsOf.mp hcov)
      omega
    have hsize : r.hi + 1 - r.lo = r.size := by
      have := r.lo_le_hi
      rw [CodeRange.size]
      omega
    rw [pointsOf, Finset.card_union_of_disjoint hdisjoint, Nat.card_Icc, hsize, ih hrest,
      List.map_cons, List.sum_cons]

/-- Where a run of covered code points begins, one of the ranges begins. -/
theorem exists_lo_eq {rs : List CodeRange} {c : Nat} (hc : Covered rs c)
    (hbefore : c = 0 ∨ ¬ Covered rs (c - 1)) : ∃ r ∈ rs, r.lo = c := by
  obtain ⟨r, hr, hlo, hhi⟩ := hc
  refine ⟨r, hr, ?_⟩
  rcases hbefore with rfl | hbefore
  · omega
  · by_contra hne
    exact hbefore ⟨r, hr, by omega, by omega⟩

namespace RangeSet

def codePoints (s : RangeSet) : Finset Nat := pointsOf s.ranges.toList

theorem mem_codePoints {s : RangeSet} {c : Nat} : c ∈ s.codePoints ↔ c ∈ s := mem_pointsOf

theorem codePoints_eq_filter (s : RangeSet) :
    s.codePoints = (Finset.range (maxCodePoint + 1)).filter fun c => s.contains c = true := by
  ext c
  simp only [mem_codePoints, Finset.mem_filter, Finset.mem_range, contains_iff, iff_and_self]
  intro hc
  have := le_max_of_mem hc
  omega

theorem codePointCount_eq_sum (s : RangeSet) :
    s.codePointCount = (s.ranges.toList.map CodeRange.size).sum := by
  rw [codePointCount, List.sum, List.foldr_map]

theorem codePointCount_eq_card (s : RangeSet) : s.codePointCount = s.codePoints.card := by
  rw [codePointCount_eq_sum, codePoints, card_pointsOf s.normal]

theorem codePointCount_le (s : RangeSet) : s.codePointCount ≤ maxCodePoint + 1 := by
  rw [codePointCount_eq_card, codePoints_eq_filter]
  exact (Finset.card_filter_le _ _).trans_eq (Finset.card_range _)

/-- Members of either set are counted twice where they are members of both. -/
theorem codePointCount_union_add_inter (s t : RangeSet) :
    (s ∪ t).codePointCount + (s ∩ t).codePointCount = s.codePointCount + t.codePointCount := by
  have hunion : (s ∪ t).codePoints = s.codePoints ∪ t.codePoints := by
    ext c
    simp [mem_codePoints]
  have hinter : (s ∩ t).codePoints = s.codePoints ∩ t.codePoints := by
    ext c
    simp [mem_codePoints]
  simp only [codePointCount_eq_card, hunion, hinter]
  exact Finset.card_union_add_card_inter _ _

theorem codePointCount_add_complement (s : RangeSet) :
    s.codePointCount + s.complement.codePointCount = maxCodePoint + 1 := by
  have hcomplement : s.complement.codePoints =
      (Finset.range (maxCodePoint + 1)).filter fun c => ¬ s.contains c = true := by
    ext c
    simp only [mem_codePoints, mem_complement, Finset.mem_filter, Finset.mem_range, contains_iff,
      Nat.lt_succ_iff]
  rw [codePointCount_eq_card, codePointCount_eq_card, hcomplement, codePoints_eq_filter,
    Finset.card_filter_add_card_filter_not, Finset.card_range]

/-- The first code points of the stored ranges. -/
def starts (s : RangeSet) : Finset Nat := (s.ranges.toList.map CodeRange.lo).toFinset

theorem card_starts (s : RangeSet) : s.starts.card = s.rangeCount := by
  have hnodup : (s.ranges.toList.map CodeRange.lo).Nodup := by
    refine List.pairwise_map.mpr (s.normal.pairwise.imp fun {r t} hgap => ?_)
    have := r.lo_le_hi
    omega
  rw [starts, List.toFinset_card_of_nodup hnodup, List.length_map, Array.length_toList, rangeCount]

/-- The code point before a stored range lies in no other one. -/
theorem not_mem_before {s : RangeSet} {r : CodeRange} (hr : r ∈ s.ranges.toList) (h : 0 < r.lo) :
    r.lo - 1 ∉ s := by
  rintro ⟨t, ht, hlo, hhi⟩
  have hr' := r.lo_le_hi
  have hne : r ≠ t := by
    rintro rfl
    omega
  have hapart : s.ranges.toList.Pairwise fun r t => r.hi + 1 < t.lo ∨ t.hi + 1 < r.lo :=
    s.normal.pairwise.imp .inl
  have hsymm : Std.Symm fun r t : CodeRange => r.hi + 1 < t.lo ∨ t.hi + 1 < r.lo :=
    ⟨fun _ _ => Or.symm⟩
  have := hapart.forall hr ht hne
  omega

/-- The stored ranges begin where the runs of members begin. -/
theorem mem_starts {s : RangeSet} {c : Nat} :
    c ∈ s.starts ↔ c ∈ s ∧ (c = 0 ∨ c - 1 ∉ s) := by
  rw [starts, List.mem_toFinset, List.mem_map]
  constructor
  · rintro ⟨r, hr, rfl⟩
    refine ⟨⟨r, hr, Nat.le_refl _, r.lo_le_hi⟩, ?_⟩
    rcases Nat.eq_zero_or_pos r.lo with hzero | hpos
    · exact .inl hzero
    · exact .inr (not_mem_before hr hpos)
  · rintro ⟨hc, hbefore⟩
    exact exists_lo_eq hc hbefore

theorem starts_eq_filter (s : RangeSet) :
    s.starts = (Finset.range (maxCodePoint + 1)).filter fun c =>
      s.contains c = true ∧ (c = 0 ∨ s.contains (c - 1) = false) := by
  ext c
  simp only [mem_starts, Finset.mem_filter, Finset.mem_range, ← Bool.not_eq_true, contains_iff,
    iff_and_self]
  rintro ⟨hc, -⟩
  have := le_max_of_mem hc
  omega

/-- Ranges that cover a set are at least as many as those that it stores. -/
theorem rangeCount_le_length {s : RangeSet} {rs : List CodeRange}
    (h : ∀ c, Covered rs c ↔ c ∈ s) : s.rangeCount ≤ rs.length := by
  have hsubset : s.starts ⊆ (rs.map CodeRange.lo).toFinset := by
    intro c hc
    obtain ⟨hmem, hbefore⟩ := mem_starts.mp hc
    obtain ⟨r, hr, hlo⟩ := exists_lo_eq ((h c).mpr hmem) (hbefore.imp_right (mt (h (c - 1)).mp))
    exact List.mem_toFinset.mpr (List.mem_map.mpr ⟨r, hr, hlo⟩)
  calc s.rangeCount = s.starts.card := s.card_starts.symm
    _ ≤ (rs.map CodeRange.lo).toFinset.card := Finset.card_le_card hsubset
    _ ≤ (rs.map CodeRange.lo).length := List.toFinset_card_le _
    _ = rs.length := List.length_map ..

end RangeSet

/-! ### Counting over machine words -/

/-- The sum of two words, if it is one. -/
def plus? (v w : UInt32) : Option UInt32 :=
  if v.toNat + w.toNat < UInt32.size then some (v + w) else none

/-- The difference of two words, if it is one. -/
def minus? (v w : UInt32) : Option UInt32 := if w ≤ v then some (v - w) else none

theorem plus?_ofNat {a b : Nat} (h : a + b < UInt32.size) :
    plus? (.ofNat a) (.ofNat b) = some (.ofNat (a + b)) := by
  rw [plus?, UInt32.toNat_ofNat_of_lt' (by omega), UInt32.toNat_ofNat_of_lt' (by omega), if_pos h,
    UInt32.ofNat_add]

theorem minus?_ofNat {a b : Nat} (h : b ≤ a) (ha : a < UInt32.size) :
    minus? (.ofNat a) (.ofNat b) = some (.ofNat (a - b)) := by
  have hle : UInt32.ofNat b ≤ .ofNat a := (UInt32.ofNat_le_iff_le (by omega) ha).mpr h
  rw [minus?, if_pos hle, UInt32.ofNat_sub h]

/-- The number of words from the one end to the other. -/
def WordRange.count? (r : WordRange) : Option UInt32 := do
  let width ← minus? r.hi r.lo
  next? width

namespace WordSet

/-- Adds the count of one more range. -/
def addCount? (total : UInt32) (r : WordRange) : Option UInt32 := do
  let count ← r.count?
  plus? total count

def codePointCount? (s : WordSet) : Option UInt32 := s.toList.foldlM addCount? 0

theorem count?_words {r : CodeRange} (h : r.hi + 1 < UInt32.size) :
    r.words.count? = some (.ofNat r.size) := by
  have := r.lo_le_hi
  rw [WordRange.count?, CodeRange.words, minus?_ofNat r.lo_le_hi (by omega), Option.bind_eq_bind,
    Option.bind_some, next?_ofNat (by omega), CodeRange.size]

theorem foldlM_addCount? {rs : List CodeRange} (hfits : ∀ r ∈ rs, r.hi + 1 < UInt32.size)
    (total : Nat) (htotal : total + (rs.map CodeRange.size).sum < UInt32.size) :
    (rs.map CodeRange.words).foldlM addCount? (.ofNat total) =
      some (.ofNat (total + (rs.map CodeRange.size).sum)) := by
  induction rs generalizing total with
  | nil => rfl
  | cons r rs ih =>
    rw [List.map_cons (f := CodeRange.size), List.sum_cons, ← Nat.add_assoc] at htotal ⊢
    have hstep : addCount? (.ofNat total) r.words = some (.ofNat (total + r.size)) := by
      rw [addCount?, count?_words (hfits r (List.mem_cons_self ..)), Option.bind_eq_bind,
        Option.bind_some, plus?_ofNat (by omega)]
    rw [List.map_cons, List.foldlM_cons, hstep, Option.bind_eq_bind, Option.bind_some]
    exact ih (fun t ht => hfits t (List.mem_cons_of_mem _ ht)) (total + r.size) htotal

/-- On the words of a set no width, no size and no partial sum leaves the words. -/
theorem codePointCount?_words (s : RangeSet) :
    codePointCount? s.words = some (.ofNat s.codePointCount) := by
  have htotal := s.codePointCount_le
  rw [RangeSet.codePointCount_eq_sum] at *
  have hsum := foldlM_addCount? (fun r hr => lt_size_of_le_max (s.normal.hi_le hr)) 0
    (by simp only [maxCodePoint, UInt32.size] at *; omega)
  rw [Nat.zero_add] at hsum
  rw [codePointCount?, RangeSet.toList_words]
  exact hsum

end WordSet

/-- The counts of a set are exact. The count of code points is the number of members, also where it
is summed up over words; the count of ranges is the number of members that follow no member, and
the least number of intervals that make up the set. -/
theorem counts_exact (s t : RangeSet) :
    s.codePointCount =
      ((Finset.range (maxCodePoint + 1)).filter fun c => s.contains c = true).card ∧
    s.rangeCount = ((Finset.range (maxCodePoint + 1)).filter fun c =>
      s.contains c = true ∧ (c = 0 ∨ s.contains (c - 1) = false)).card ∧
    IsLeast {n | ∃ rs : List CodeRange, rs.length = n ∧ ∀ c, Covered rs c ↔ s.contains c = true}
      s.rangeCount ∧
    (s ∪ t).codePointCount + (s ∩ t).codePointCount = s.codePointCount + t.codePointCount ∧
    s.codePointCount + s.complement.codePointCount = 0x110000 ∧
    s.codePointCount < UInt32.size ∧
    WordSet.codePointCount? s.words = some (.ofNat s.codePointCount) ∧
    ∀ program, ∃ registers, runStepsChecked program = some registers ∧
      ∀ i, (registers i).size = (runSteps program i).rangeCount ∧
        WordSet.codePointCount? (registers i) =
          some (.ofNat (runSteps program i).codePointCount) := by
  refine ⟨?_, ?_, ⟨⟨s.ranges.toList, rfl, fun c => ?_⟩, ?_⟩, s.codePointCount_union_add_inter t,
    s.codePointCount_add_complement, ?_, WordSet.codePointCount?_words s, fun program => ?_⟩
  · rw [RangeSet.codePointCount_eq_card, RangeSet.codePoints_eq_filter]
  · rw [← RangeSet.card_starts, RangeSet.starts_eq_filter]
  · exact RangeSet.mem_def.symm.trans RangeSet.contains_iff.symm
  · rintro _ ⟨rs, rfl, hrs⟩
    exact RangeSet.rangeCount_le_length fun c => (hrs c).trans RangeSet.contains_iff
  · have := s.codePointCount_le
    simp only [maxCodePoint, UInt32.size] at *
    omega
  · refine ⟨_, runStepsChecked_eq program, fun i => ⟨Array.size_map .., ?_⟩⟩
    exact WordSet.codePointCount?_words (runSteps program i)

end UnicodeClasses

import UnicodeClasses.NormalForm

/-!
# Gaps and overlaps of normal lists

`gapsFrom` lists what a normal list leaves out of the domain, `overlaps` what two normal lists
share. Both are single sweeps, and both give normal lists.
-/
namespace UnicodeClasses

/-- The gaps between `next` and the end of the domain. -/
def gapsFrom (next : Nat) : List CodeRange → List CodeRange
  | [] => if h : next ≤ maxCodePoint then [⟨next, maxCodePoint, h⟩] else []
  | r :: rs =>
    if h : next < r.lo then
      ⟨next, r.lo - 1, Nat.le_sub_one_of_lt h⟩ :: gapsFrom (r.hi + 1) rs
    else gapsFrom (r.hi + 1) rs

/-- The range common to both, if they meet. -/
def CodeRange.meet? (r s : CodeRange) : Option CodeRange :=
  if h : max r.lo s.lo ≤ min r.hi s.hi then some ⟨max r.lo s.lo, min r.hi s.hi, h⟩ else none

/-- Two normal lists in step; the range that ends first is left behind. -/
def overlaps : List CodeRange → List CodeRange → List CodeRange
  | [], _ => []
  | _, [] => []
  | r :: rs, s :: ss =>
    if r.hi < s.hi then (r.meet? s).toList ++ overlaps rs (s :: ss)
    else (r.meet? s).toList ++ overlaps (r :: rs) ss
termination_by rs ss => rs.length + ss.length

theorem gapsFrom_normalFrom {next : Nat} {rs : List CodeRange} (h : NormalFrom next rs) :
    NormalFrom next (gapsFrom next rs) := by
  induction rs generalizing next with
  | nil =>
    unfold gapsFrom
    split
    · exact ⟨Nat.le_refl _, Nat.le_refl _, trivial⟩
    · trivial
  | cons r rs ih =>
    obtain ⟨hlo, hhi, hrest⟩ := h
    have hle := r.lo_le_hi
    have hgaps := ih (hrest.mono (by omega : r.hi + 1 ≤ r.hi + 2))
    unfold gapsFrom
    split
    · exact ⟨Nat.le_refl _, by simp only; omega, hgaps.mono (by simp only; omega)⟩
    · exact hgaps.mono (by omega)

theorem covered_gapsFrom {next c : Nat} {rs : List CodeRange} (h : NormalFrom next rs) :
    Covered (gapsFrom next rs) c ↔ next ≤ c ∧ c ≤ maxCodePoint ∧ ¬ Covered rs c := by
  induction rs generalizing next with
  | nil =>
    unfold gapsFrom
    split
    · simp [Covered, CodeRange.mem_iff]
    · simp only [covered_nil, not_false_eq_true, and_true, false_iff]
      omega
  | cons r rs ih =>
    obtain ⟨hlo, hhi, hrest⟩ := h
    have hle := r.lo_le_hi
    have hgaps := ih (hrest.mono (by omega : r.hi + 1 ≤ r.hi + 2))
    have hfloor : Covered rs c → r.hi + 2 ≤ c := hrest.floor_le_of_covered
    unfold gapsFrom
    split
    · rw [covered_cons, covered_cons, hgaps]
      simp only [CodeRange.mem_iff]
      by_cases hc : Covered rs c
      · have := hfloor hc
        simp only [hc, not_true_eq_false, and_false, or_false, or_true, iff_false]
        omega
      · simp only [hc, not_false_eq_true, and_true, or_false]
        omega
    · rw [covered_cons, hgaps]
      simp only [CodeRange.mem_iff]
      by_cases hc : Covered rs c
      · simp [hc]
      · simp only [hc, not_false_eq_true, and_true, or_false]
        omega

theorem meet?_eq_some {r s t : CodeRange} :
    r.meet? s = some t ↔ t.lo = max r.lo s.lo ∧ t.hi = min r.hi s.hi := by
  unfold CodeRange.meet?
  split
  · rename_i h
    rw [Option.some.injEq]
    constructor
    · rintro rfl
      exact ⟨rfl, rfl⟩
    · rintro ⟨hlo, hhi⟩
      cases t
      simp_all
  · have := t.lo_le_hi
    simp only [reduceCtorEq, false_iff]
    omega

theorem mem_meet? {r s : CodeRange} {c : Nat} :
    Covered (r.meet? s).toList c ↔ c ∈ r ∧ c ∈ s := by
  simp only [Covered, Option.mem_toList, CodeRange.mem_iff]
  constructor
  · rintro ⟨t, ht, hc⟩
    obtain ⟨hlo, hhi⟩ := meet?_eq_some.mp ht
    omega
  · rintro ⟨hr, hs⟩
    exact ⟨⟨max r.lo s.lo, min r.hi s.hi, by omega⟩, meet?_eq_some.mpr ⟨rfl, rfl⟩,
      by simp only; omega⟩

theorem meet?_append_normalFrom {floor : Nat} {r s : CodeRange} {rest : List CodeRange}
    (hfloor : floor ≤ max r.lo s.lo) (hmax : min r.hi s.hi ≤ maxCodePoint)
    (hrest : NormalFrom (max floor (min r.hi s.hi + 2)) rest) :
    NormalFrom floor ((r.meet? s).toList ++ rest) := by
  cases h : r.meet? s with
  | none => exact hrest.mono (by omega)
  | some t =>
    obtain ⟨hlo, hhi⟩ := meet?_eq_some.mp h
    exact ⟨by omega, by omega, hrest.mono (by omega)⟩

theorem overlaps_normalFrom {f g : Nat} {rs ss : List CodeRange} (hr : NormalFrom f rs)
    (hs : NormalFrom g ss) : NormalFrom (max f g) (overlaps rs ss) := by
  fun_induction overlaps rs ss generalizing f g with
  | case1 => trivial
  | case2 => trivial
  | case3 r rs s ss hlt ih =>
    have hle := r.lo_le_hi
    apply meet?_append_normalFrom
    · have := hr.1
      have := hs.1
      omega
    · have := hr.2.1
      omega
    · exact (ih hr.2.2 hs).mono (by have := hr.1; omega)
  | case4 r rs s ss hlt ih =>
    have hle := s.lo_le_hi
    apply meet?_append_normalFrom
    · have := hr.1
      have := hs.1
      omega
    · have := hr.2.1
      omega
    · exact (ih hr hs.2.2).mono (by have := hs.1; omega)

theorem covered_overlaps {f g c : Nat} {rs ss : List CodeRange} (hr : NormalFrom f rs)
    (hs : NormalFrom g ss) : Covered (overlaps rs ss) c ↔ Covered rs c ∧ Covered ss c := by
  fun_induction overlaps rs ss generalizing f g with
  | case1 => simp
  | case2 => simp
  | case3 r rs s ss hlt ih =>
    rw [covered_append, mem_meet?, ih hr.2.2 hs, covered_cons, covered_cons]
    have := fun h : Covered rs c => hr.2.2.floor_le_of_covered h
    have := fun h : Covered ss c => hs.2.2.floor_le_of_covered h
    simp only [CodeRange.mem_iff]
    grind
  | case4 r rs s ss hlt ih =>
    rw [covered_append, mem_meet?, ih hr hs.2.2, covered_cons, covered_cons]
    have := fun h : Covered rs c => hr.2.2.floor_le_of_covered h
    have := fun h : Covered ss c => hs.2.2.floor_le_of_covered h
    simp only [CodeRange.mem_iff]
    grind

end UnicodeClasses

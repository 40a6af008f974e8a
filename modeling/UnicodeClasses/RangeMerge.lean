import UnicodeClasses.NormalForm

/-!
# Joining ranges into normal form

Ranges sorted by their start are joined in one pass wherever they overlap or touch. Sorting and
joining normalises any list; merging and joining unites two normal lists.
-/
namespace UnicodeClasses

/-- Joins `current` with the ranges after it as far as they overlap or touch. -/
def joinFrom (current : CodeRange) : List CodeRange → List CodeRange
  | [] => [current]
  | r :: rs =>
    if r.lo ≤ current.hi + 1 then joinFrom (current.hull r) rs
    else current :: joinFrom r rs

/-- One pass over ranges that are sorted by their start. -/
def joinTouching : List CodeRange → List CodeRange
  | [] => []
  | r :: rs => joinFrom r rs

/-- The normal form of arbitrary ranges; what lies outside the domain is dropped. -/
def normalise (rs : List CodeRange) : List CodeRange :=
  joinTouching ((rs.filterMap CodeRange.clip?).mergeSort CodeRange.le)

/-- A linear merge of two normal lists. -/
def unite (rs ss : List CodeRange) : List CodeRange :=
  joinTouching (rs.merge ss fun r s => r.lo ≤ s.lo)

def Sorted (rs : List CodeRange) : Prop := rs.Pairwise fun r s => r.lo ≤ s.lo

theorem joinFrom_normalFrom {current : CodeRange} {rs : List CodeRange} {floor : Nat}
    (hfloor : floor ≤ current.lo) (hcurrent : current.hi ≤ maxCodePoint)
    (hsorted : Sorted (current :: rs)) (hrs : ∀ r ∈ rs, r.hi ≤ maxCodePoint) :
    NormalFrom floor (joinFrom current rs) := by
  induction rs generalizing current floor with
  | nil => exact ⟨hfloor, hcurrent, trivial⟩
  | cons r rs ih =>
    have hr := hrs r (by simp)
    have hrest : ∀ s ∈ rs, s.hi ≤ maxCodePoint := fun s hs => hrs s (by simp [hs])
    simp only [Sorted, List.pairwise_cons] at hsorted
    obtain ⟨hfirst, hsecond, htail⟩ := hsorted
    have hle := hfirst r (by simp)
    unfold joinFrom
    split
    · apply ih
      · simp only [CodeRange.hull]
        omega
      · simp only [CodeRange.hull]
        omega
      · refine List.pairwise_cons.mpr ⟨fun s hs => ?_, htail⟩
        have := hsecond s hs
        simp only [CodeRange.hull]
        omega
      · exact hrest
    · exact ⟨hfloor, hcurrent,
        ih (by omega) hr (List.pairwise_cons.mpr ⟨hsecond, htail⟩) hrest⟩

theorem joinTouching_normal {rs : List CodeRange} (hsorted : Sorted rs)
    (hrs : ∀ r ∈ rs, r.hi ≤ maxCodePoint) : Normal (joinTouching rs) := by
  cases rs with
  | nil => trivial
  | cons r rs =>
    exact joinFrom_normalFrom (Nat.zero_le _) (hrs r (by simp)) hsorted
      fun s hs => hrs s (by simp [hs])

theorem covered_joinFrom {current : CodeRange} {rs : List CodeRange} {c : Nat}
    (hsorted : Sorted (current :: rs)) :
    Covered (joinFrom current rs) c ↔ c ∈ current ∨ Covered rs c := by
  induction rs generalizing current with
  | nil => simp [joinFrom]
  | cons r rs ih =>
    simp only [Sorted, List.pairwise_cons] at hsorted
    obtain ⟨hfirst, hsecond, htail⟩ := hsorted
    have hle := hfirst r (by simp)
    unfold joinFrom
    split
    · rw [ih, covered_cons]
      · simp only [CodeRange.mem_iff, CodeRange.hull]
        have := current.lo_le_hi
        have := r.lo_le_hi
        by_cases h : Covered rs c
        · simp [h]
        · simp only [h, or_false]
          omega
      · refine List.pairwise_cons.mpr ⟨fun s hs => ?_, htail⟩
        have := hsecond s hs
        simp only [CodeRange.hull]
        omega
    · rw [covered_cons, covered_cons, ih (List.pairwise_cons.mpr ⟨hsecond, htail⟩)]

theorem covered_joinTouching {rs : List CodeRange} {c : Nat} (hsorted : Sorted rs) :
    Covered (joinTouching rs) c ↔ Covered rs c := by
  cases rs with
  | nil => exact Iff.rfl
  | cons r rs => rw [joinTouching, covered_joinFrom hsorted, covered_cons]

theorem sorted_clipped (rs : List CodeRange) :
    Sorted ((rs.filterMap CodeRange.clip?).mergeSort CodeRange.le) := by
  have h : ((rs.filterMap CodeRange.clip?).mergeSort CodeRange.le).Pairwise
      fun r s => CodeRange.le r s = true :=
    List.pairwise_mergeSort CodeRange.le_trans CodeRange.le_total _
  exact h.imp CodeRange.lo_le_lo_of_le

theorem normalise_normal (rs : List CodeRange) : Normal (normalise rs) := by
  apply joinTouching_normal (sorted_clipped rs)
  intro r hr
  rw [List.mem_mergeSort, List.mem_filterMap] at hr
  obtain ⟨s, _, hs⟩ := hr
  have := (CodeRange.clip?_eq_some hs).2
  omega

theorem covered_normalise {rs : List CodeRange} {c : Nat} :
    Covered (normalise rs) c ↔ Covered rs c ∧ c ≤ maxCodePoint := by
  rw [normalise, covered_joinTouching (sorted_clipped rs)]
  simp only [Covered, List.mem_mergeSort, List.mem_filterMap]
  constructor
  · rintro ⟨s, ⟨r, hr, hs⟩, hc⟩
    have := CodeRange.exists_clip?_mem.mp ⟨s, hs, hc⟩
    exact ⟨⟨r, hr, this.1⟩, this.2⟩
  · rintro ⟨⟨r, hr, hc⟩, hmax⟩
    obtain ⟨s, hs, hcs⟩ := CodeRange.exists_clip?_mem.mpr ⟨hc, hmax⟩
    exact ⟨s, ⟨r, hr, hs⟩, hcs⟩

theorem NormalFrom.sorted {floor : Nat} {rs : List CodeRange} (h : NormalFrom floor rs) :
    Sorted rs :=
  h.pairwise.imp fun {r _} hgap => by
    have := r.lo_le_hi
    omega

theorem sorted_merge {rs ss : List CodeRange} (hr : Sorted rs) (hs : Sorted ss) :
    Sorted (rs.merge ss fun r s => r.lo ≤ s.lo) := by
  have h : (rs.merge ss fun r s => r.lo ≤ s.lo).Pairwise
      fun r s => decide (r.lo ≤ s.lo) = true :=
    List.pairwise_merge (by simp only [decide_eq_true_eq]; omega)
      (by simp only [Bool.or_eq_true, decide_eq_true_eq]; omega)
      rs ss (hr.imp (by simp)) (hs.imp (by simp))
  exact h.imp (by simp)

theorem unite_normal {rs ss : List CodeRange} (hr : Normal rs) (hs : Normal ss) :
    Normal (unite rs ss) := by
  apply joinTouching_normal (sorted_merge hr.sorted hs.sorted)
  intro r hmem
  rcases List.mem_merge.mp hmem with h | h
  · exact hr.hi_le h
  · exact hs.hi_le h

theorem covered_unite {rs ss : List CodeRange} {c : Nat} (hr : Normal rs) (hs : Normal ss) :
    Covered (unite rs ss) c ↔ Covered rs c ∨ Covered ss c := by
  rw [unite, covered_joinTouching (sorted_merge hr.sorted hs.sorted)]
  simp only [Covered, List.mem_merge, or_and_right, exists_or]

end UnicodeClasses

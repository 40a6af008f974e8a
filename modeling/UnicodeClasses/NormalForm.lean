import UnicodeClasses.CodeRange

/-!
# The normal form of a list of ranges

In normal form the ranges ascend inside the domain and leave a gap between neighbours, so that
each set of code points has one list. `Covered` is the set that a list of ranges denotes.
-/
namespace UnicodeClasses

/-- The ranges start at `floor` or later, end inside the domain, and no two of them touch. -/
def NormalFrom : Nat → List CodeRange → Prop
  | _, [] => True
  | floor, r :: rs => floor ≤ r.lo ∧ r.hi ≤ maxCodePoint ∧ NormalFrom (r.hi + 2) rs

def NormalFrom.decide : (floor : Nat) → (rs : List CodeRange) → Decidable (NormalFrom floor rs)
  | _, [] => isTrue trivial
  | floor, r :: rs =>
    have := NormalFrom.decide (r.hi + 2) rs
    inferInstanceAs (Decidable (floor ≤ r.lo ∧ r.hi ≤ maxCodePoint ∧ NormalFrom (r.hi + 2) rs))

instance (floor : Nat) (rs : List CodeRange) : Decidable (NormalFrom floor rs) :=
  NormalFrom.decide floor rs

abbrev Normal (rs : List CodeRange) : Prop := NormalFrom 0 rs

/-- A code point lies in one of the ranges. -/
def Covered (rs : List CodeRange) (c : Nat) : Prop := ∃ r ∈ rs, c ∈ r

@[simp] theorem covered_nil {c : Nat} : ¬ Covered [] c := by simp [Covered]

@[simp] theorem covered_cons {r : CodeRange} {rs : List CodeRange} {c : Nat} :
    Covered (r :: rs) c ↔ c ∈ r ∨ Covered rs c := by
  simp [Covered]

theorem covered_append {rs ss : List CodeRange} {c : Nat} :
    Covered (rs ++ ss) c ↔ Covered rs c ∨ Covered ss c := by
  simp [Covered, or_and_right, exists_or]

namespace NormalFrom

theorem mono {floor floor' : Nat} {rs : List CodeRange} (h : NormalFrom floor rs)
    (hle : floor' ≤ floor) : NormalFrom floor' rs := by
  cases rs with
  | nil => trivial
  | cons r rs => exact ⟨Nat.le_trans hle h.1, h.2⟩

theorem normal {floor : Nat} {rs : List CodeRange} (h : NormalFrom floor rs) : Normal rs :=
  h.mono (Nat.zero_le _)

theorem floor_le_lo {floor : Nat} {rs : List CodeRange} (h : NormalFrom floor rs)
    {r : CodeRange} (hr : r ∈ rs) : floor ≤ r.lo := by
  induction rs generalizing floor with
  | nil => exact nomatch hr
  | cons s rs ih =>
    obtain ⟨hlo, _, hrest⟩ := h
    rcases List.mem_cons.mp hr with rfl | hr
    · exact hlo
    · have := ih hrest hr
      have := s.lo_le_hi
      omega

theorem hi_le {floor : Nat} {rs : List CodeRange} (h : NormalFrom floor rs)
    {r : CodeRange} (hr : r ∈ rs) : r.hi ≤ maxCodePoint := by
  induction rs generalizing floor with
  | nil => exact nomatch hr
  | cons s rs ih =>
    obtain ⟨_, hhi, hrest⟩ := h
    rcases List.mem_cons.mp hr with rfl | hr
    · exact hhi
    · exact ih hrest hr

theorem pairwise {floor : Nat} {rs : List CodeRange} (h : NormalFrom floor rs) :
    rs.Pairwise fun r s => r.hi + 1 < s.lo := by
  induction rs generalizing floor with
  | nil => exact List.Pairwise.nil
  | cons r rs ih =>
    exact List.Pairwise.cons (fun s hs => floor_le_lo h.2.2 hs) (ih h.2.2)

theorem of_pairwise {floor : Nat} {rs : List CodeRange} (hlo : ∀ r ∈ rs, floor ≤ r.lo)
    (hhi : ∀ r ∈ rs, r.hi ≤ maxCodePoint)
    (hgap : rs.Pairwise fun r s => r.hi + 1 < s.lo) : NormalFrom floor rs := by
  induction rs generalizing floor with
  | nil => trivial
  | cons r rs ih =>
    rw [List.pairwise_cons] at hgap
    exact ⟨hlo r (by simp), hhi r (by simp),
      ih (fun s hs => hgap.1 s hs) (fun s hs => hhi s (by simp [hs])) hgap.2⟩

theorem floor_le_of_covered {floor : Nat} {rs : List CodeRange} (h : NormalFrom floor rs)
    {c : Nat} (hc : Covered rs c) : floor ≤ c := by
  obtain ⟨r, hr, hcr⟩ := hc
  have := h.floor_le_lo hr
  have := hcr.1
  omega

theorem le_max_of_covered {floor : Nat} {rs : List CodeRange} (h : NormalFrom floor rs)
    {c : Nat} (hc : Covered rs c) : c ≤ maxCodePoint := by
  obtain ⟨r, hr, hcr⟩ := hc
  exact Nat.le_trans hcr.2 (h.hi_le hr)

/-- A normal list starts no earlier than its first range. -/
theorem lo_le_of_covered {floor : Nat} {r : CodeRange} {rs : List CodeRange}
    (h : NormalFrom floor (r :: rs)) {c : Nat} (hc : Covered (r :: rs) c) : r.lo ≤ c :=
  have hr : NormalFrom r.lo (r :: rs) := ⟨Nat.le_refl _, h.2⟩
  hr.floor_le_of_covered hc

/-- In a list that starts with `r`, the code points of `r` are those from its start to its end,
and the next code point is not covered. -/
theorem covered_head {floor : Nat} {r : CodeRange} {rs : List CodeRange}
    (h : NormalFrom floor (r :: rs)) {c : Nat} (hc : c ≤ r.hi + 1) :
    Covered (r :: rs) c ↔ c ∈ r := by
  rw [covered_cons, or_iff_left]
  intro hrest
  have := h.2.2.floor_le_of_covered hrest
  omega

/-- Two normal lists that cover the same code points begin with the same range. -/
theorem head_eq {f g : Nat} {r s : CodeRange} {rs ss : List CodeRange}
    (hr : NormalFrom f (r :: rs)) (hs : NormalFrom g (s :: ss))
    (h : ∀ c, Covered (r :: rs) c ↔ Covered (s :: ss) c) : r = s := by
  have hrle := r.lo_le_hi
  have hsle := s.lo_le_hi
  have hlo : r.lo = s.lo := by
    have := hs.lo_le_of_covered ((h r.lo).mp (covered_cons.mpr (.inl ⟨Nat.le_refl _, hrle⟩)))
    have := hr.lo_le_of_covered ((h s.lo).mpr (covered_cons.mpr (.inl ⟨Nat.le_refl _, hsle⟩)))
    omega
  have hhi : r.hi = s.hi := by
    rcases Nat.lt_trichotomy r.hi s.hi with hlt | heq | hlt
    · have := (hr.covered_head (Nat.le_refl _)).mp
        ((h (r.hi + 1)).mpr ((hs.covered_head (by omega)).mpr ⟨by omega, by omega⟩))
      have := this.2
      omega
    · exact heq
    · have := (hs.covered_head (Nat.le_refl _)).mp
        ((h (s.hi + 1)).mp ((hr.covered_head (by omega)).mpr ⟨by omega, by omega⟩))
      have := this.2
      omega
  cases r
  cases s
  simp_all

/-- A set of code points has only one normal list. -/
theorem unique {f g : Nat} {rs ss : List CodeRange} (hr : NormalFrom f rs) (hs : NormalFrom g ss)
    (h : ∀ c, Covered rs c ↔ Covered ss c) : rs = ss := by
  induction rs generalizing f g ss with
  | nil =>
    cases ss with
    | nil => rfl
    | cons s ss =>
      exact absurd ((h s.lo).mpr (covered_cons.mpr (.inl ⟨Nat.le_refl _, s.lo_le_hi⟩)))
        covered_nil
  | cons r rs ih =>
    cases ss with
    | nil =>
      exact absurd ((h r.lo).mp (covered_cons.mpr (.inl ⟨Nat.le_refl _, r.lo_le_hi⟩)))
        covered_nil
    | cons s ss =>
      obtain rfl := head_eq hr hs h
      congr 1
      apply ih hr.2.2 hs.2.2
      intro c
      have hc := h c
      rw [covered_cons, covered_cons] at hc
      have hafter : ∀ {ts}, NormalFrom (r.hi + 2) ts → Covered ts c → c ∉ r := by
        intro ts hts hcov hmem
        have := hts.floor_le_of_covered hcov
        have := hmem.2
        omega
      constructor
      · intro hcov
        exact (hc.mp (.inr hcov)).resolve_left (hafter hr.2.2 hcov)
      · intro hcov
        exact (hc.mpr (.inr hcov)).resolve_left (hafter hs.2.2 hcov)

end NormalFrom

/-- The normal form: domain, order and gaps, stated for all ranges at once. -/
theorem normal_iff {rs : List CodeRange} :
    Normal rs ↔ (∀ r ∈ rs, r.hi ≤ maxCodePoint) ∧ rs.Pairwise fun r s => r.hi + 1 < s.lo :=
  ⟨fun h => ⟨fun _ hr => h.hi_le hr, h.pairwise⟩,
    fun h => NormalFrom.of_pairwise (fun _ _ => Nat.zero_le _) h.1 h.2⟩

end UnicodeClasses

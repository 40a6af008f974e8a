import UnicodeClasses.NormalForm
import UnicodeClasses.PartitionPoint

/-!
# Inserting one range in place

The ranges that a new range overlaps or touches are neighbours. Two binary searches find the
block they form, and the hull of the block and the new range replaces it.
-/
namespace UnicodeClasses

/-- The range ends before `r` begins and leaves a gap. -/
def endsBefore (r : CodeRange) : CodeRange → Bool := fun x => x.hi + 1 < r.lo

/-- The range begins inside `r`, directly after it, or earlier. -/
def beginsBy (r : CodeRange) : CodeRange → Bool := fun x => x.lo ≤ r.hi + 1

/-- Index of the first range that `r` absorbs. -/
def absorbedStart (rs : Array CodeRange) (r : CodeRange) : Nat := partitionPoint (endsBefore r) rs

/-- Index after the last range that `r` absorbs. -/
def absorbedStop (rs : Array CodeRange) (r : CodeRange) : Nat := partitionPoint (beginsBy r) rs

def insertRange (rs : Array CodeRange) (r : CodeRange) : Array CodeRange :=
  let start := absorbedStart rs r
  let stop := absorbedStop rs r
  rs.extract 0 start ++ #[(rs.extract start stop).foldl CodeRange.hull r] ++ rs.extract stop

theorem pairwise_endsBefore {floor : Nat} {rs : List CodeRange} (h : NormalFrom floor rs)
    (r : CodeRange) : rs.Pairwise fun x y => endsBefore r y = true → endsBefore r x = true :=
  h.pairwise.imp fun {x y} hgap => by
    have := y.lo_le_hi
    simp only [endsBefore, decide_eq_true_eq]
    omega

theorem pairwise_beginsBy {floor : Nat} {rs : List CodeRange} (h : NormalFrom floor rs)
    (r : CodeRange) : rs.Pairwise fun x y => beginsBy r y = true → beginsBy r x = true :=
  h.pairwise.imp fun {x y} hgap => by
    have := x.lo_le_hi
    simp only [beginsBy, decide_eq_true_eq]
    omega

theorem beginsBy_of_endsBefore {r x : CodeRange} (h : endsBefore r x = true) :
    beginsBy r x = true := by
  have := x.lo_le_hi
  have := r.lo_le_hi
  simp only [endsBefore, beginsBy, decide_eq_true_eq] at *
  omega

theorem takeWhile_beginsBy (r : CodeRange) (rs : List CodeRange) :
    rs.takeWhile (beginsBy r) =
      rs.takeWhile (endsBefore r) ++ (rs.dropWhile (endsBefore r)).takeWhile (beginsBy r) := by
  induction rs with
  | nil => rfl
  | cons x rs ih =>
    by_cases h : endsBefore r x = true
    · simp [h, beginsBy_of_endsBefore h, ih]
    · simp [h]

/-- The absorbed block lies inside the array. -/
theorem absorbed_bounds {rs : Array CodeRange} (h : Normal rs.toList) (r : CodeRange) :
    absorbedStart rs r ≤ absorbedStop rs r ∧ absorbedStop rs r ≤ rs.size := by
  rw [absorbedStart, absorbedStop, partitionPoint_eq (pairwise_endsBefore h r),
    partitionPoint_eq (pairwise_beginsBy h r)]
  constructor
  · rw [takeWhile_beginsBy, List.length_append]
    exact Nat.le_add_right _ _
  · exact (List.takeWhile_sublist _).length_le

theorem extract_append {α : Type _} {xs : Array α} {before block after : List α}
    (h : xs.toList = before ++ (block ++ after)) :
    (xs.extract 0 before.length).toList = before ∧
      (xs.extract before.length (before.length + block.length)).toList = block ∧
      (xs.extract (before.length + block.length)).toList = after := by
  have hsize : xs.size = before.length + (block.length + after.length) := by
    rw [← Array.length_toList, h, List.length_append, List.length_append]
  refine ⟨?_, ?_, ?_⟩ <;> rw [Array.toList_extract, List.extract_eq_take_drop, h]
  · rw [List.drop_zero, Nat.sub_zero, List.take_left]
  · rw [List.drop_left, Nat.add_sub_cancel_left, List.take_left]
  · rw [← List.append_assoc, List.drop_left' (List.length_append), hsize]
    exact List.take_of_length_le (by omega)

/-- Insertion as a scan: the ranges before the block, the hull, the ranges after the block. -/
def insertScan (r : CodeRange) (rs : List CodeRange) : List CodeRange :=
  rs.takeWhile (endsBefore r) ++
    ((rs.dropWhile (endsBefore r)).takeWhile (beginsBy r)).foldl CodeRange.hull r ::
      (rs.dropWhile (endsBefore r)).dropWhile (beginsBy r)

theorem toList_insertRange {rs : Array CodeRange} (h : Normal rs.toList) (r : CodeRange) :
    (insertRange rs r).toList = insertScan r rs.toList := by
  have hstart : absorbedStart rs r = (rs.toList.takeWhile (endsBefore r)).length :=
    partitionPoint_eq (pairwise_endsBefore h r)
  have hstop : absorbedStop rs r = (rs.toList.takeWhile (endsBefore r)).length +
      ((rs.toList.dropWhile (endsBefore r)).takeWhile (beginsBy r)).length := by
    rw [← List.length_append, ← takeWhile_beginsBy]
    exact partitionPoint_eq (pairwise_beginsBy h r)
  have hsplit : rs.toList = rs.toList.takeWhile (endsBefore r) ++
      ((rs.toList.dropWhile (endsBefore r)).takeWhile (beginsBy r) ++
        (rs.toList.dropWhile (endsBefore r)).dropWhile (beginsBy r)) := by
    rw [List.takeWhile_append_dropWhile, List.takeWhile_append_dropWhile]
  obtain ⟨hbefore, hblock, hafter⟩ := extract_append hsplit
  simp only [insertRange, hstart, hstop, Array.toList_append, hbefore, hafter,
    ← Array.foldl_toList, hblock]
  simp [insertScan]

theorem absorb_normalFrom {reach : Nat} {r : CodeRange} {rs : List CodeRange} {floor next : Nat}
    (hrs : NormalFrom next rs) (hnext : floor ≤ next) (hlo : floor ≤ r.lo)
    (hhi : r.hi ≤ maxCodePoint) (hreach : r.hi + 2 ≤ max (reach + 2) next) :
    NormalFrom floor ((rs.takeWhile fun x => x.lo ≤ reach + 1).foldl CodeRange.hull r ::
      rs.dropWhile fun x => x.lo ≤ reach + 1) := by
  induction rs generalizing r next with
  | nil => exact ⟨hlo, hhi, trivial⟩
  | cons x rs ih =>
    obtain ⟨hxlo, hxhi, hrest⟩ := hrs
    have hx := x.lo_le_hi
    by_cases htouch : x.lo ≤ reach + 1
    · simp only [htouch, decide_true, List.takeWhile_cons_of_pos, List.dropWhile_cons_of_pos,
        List.foldl_cons]
      refine ih hrest (by omega) ?_ ?_ ?_ <;> simp only [CodeRange.hull] <;> omega
    · simp only [htouch, decide_false, Bool.false_eq_true, not_false_eq_true,
        List.takeWhile_cons_of_neg, List.dropWhile_cons_of_neg, List.foldl_nil]
      exact ⟨hlo, hhi, by omega, hxhi, hrest⟩

theorem covered_absorb {reach : Nat} {r : CodeRange} {rs : List CodeRange} {next c : Nat}
    (hrs : NormalFrom next rs) (hreach : reach ≤ r.hi) (htouch : ∀ x ∈ rs, r.lo ≤ x.hi + 1) :
    Covered ((rs.takeWhile fun x => x.lo ≤ reach + 1).foldl CodeRange.hull r ::
      rs.dropWhile fun x => x.lo ≤ reach + 1) c ↔ c ∈ r ∨ Covered rs c := by
  induction rs generalizing r next with
  | nil => simp
  | cons x rs ih =>
    obtain ⟨hxlo, hxhi, hrest⟩ := hrs
    have hx := x.lo_le_hi
    have hr := r.lo_le_hi
    have hfirst := htouch x (by simp)
    by_cases hle : x.lo ≤ reach + 1
    · simp only [hle, decide_true, List.takeWhile_cons_of_pos, List.dropWhile_cons_of_pos,
        List.foldl_cons]
      rw [ih hrest, covered_cons, ← or_assoc]
      · simp only [CodeRange.mem_iff, CodeRange.hull]
        apply or_congr_left
        omega
      · simp only [CodeRange.hull]
        omega
      · intro y hy
        have := htouch y (by simp [hy])
        simp only [CodeRange.hull]
        omega
    · simp [hle]

theorem insertScan_normalFrom {r : CodeRange} {rs : List CodeRange} {floor : Nat}
    (h : NormalFrom floor rs) (hlo : floor ≤ r.lo) (hhi : r.hi ≤ maxCodePoint) :
    NormalFrom floor (insertScan r rs) := by
  induction rs generalizing floor with
  | nil => exact ⟨hlo, hhi, trivial⟩
  | cons x rs ih =>
    by_cases hends : endsBefore r x = true
    · have hx := hends
      simp only [endsBefore, decide_eq_true_eq] at hx
      have := ih h.2.2 (by omega)
      simp only [insertScan, hends, List.takeWhile_cons_of_pos, List.dropWhile_cons_of_pos]
      exact ⟨h.1, h.2.1, this⟩
    · simp only [insertScan, hends, not_false_eq_true, List.takeWhile_cons_of_neg,
        List.dropWhile_cons_of_neg, List.nil_append, Bool.false_eq_true]
      exact absorb_normalFrom h (Nat.le_refl _) hlo hhi (by omega)

theorem covered_insertScan {r : CodeRange} {rs : List CodeRange} {floor c : Nat}
    (h : NormalFrom floor rs) : Covered (insertScan r rs) c ↔ c ∈ r ∨ Covered rs c := by
  induction rs generalizing floor with
  | nil => simp [insertScan]
  | cons x rs ih =>
    by_cases hends : endsBefore r x = true
    · have := ih h.2.2
      simp only [insertScan, hends, List.takeWhile_cons_of_pos, List.dropWhile_cons_of_pos,
        List.cons_append, covered_cons] at this ⊢
      rw [this]
      exact or_left_comm
    · have hx := hends
      simp only [endsBefore, decide_eq_true_eq] at hx
      simp only [insertScan, hends, not_false_eq_true, List.takeWhile_cons_of_neg,
        List.dropWhile_cons_of_neg, List.nil_append, Bool.false_eq_true]
      apply covered_absorb h (Nat.le_refl _)
      intro y hy
      rcases List.mem_cons.mp hy with rfl | hy
      · omega
      · have := h.2.2.floor_le_lo hy
        have := y.lo_le_hi
        omega

theorem insertRange_normal {rs : Array CodeRange} {r : CodeRange} (h : Normal rs.toList)
    (hr : r.hi ≤ maxCodePoint) : Normal (insertRange rs r).toList := by
  rw [toList_insertRange h]
  exact insertScan_normalFrom h (Nat.zero_le _) hr

theorem covered_insertRange {rs : Array CodeRange} {r : CodeRange} {c : Nat}
    (h : Normal rs.toList) :
    Covered (insertRange rs r).toList c ↔ c ∈ r ∨ Covered rs.toList c := by
  rw [toList_insertRange h]
  exact covered_insertScan h

end UnicodeClasses

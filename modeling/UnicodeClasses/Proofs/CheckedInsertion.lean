import UnicodeClasses.Proofs.CheckedMerge

/-!
# Inserting a range of words

Both binary searches find on words what they find on code points. The interval of absorbed ranges
therefore lies inside the array, and the first and the last of them give the ends of the hull.
-/
namespace UnicodeClasses

/-- A search over the images of entries is a search over the entries. -/
theorem partitionBetween_map {α β : Type _} {f : α → β} {p : β → Bool} {q : α → Bool}
    {xs : Array α} (h : ∀ x ∈ xs, p (f x) = q x) (low high : Nat) (hq : high ≤ xs.size)
    (hp : high ≤ (xs.map f).size) :
    partitionBetween p (xs.map f) low high hp = partitionBetween q xs low high hq := by
  fun_induction partitionBetween q xs low high hq with
  | case1 low high hq hlt hmid htest ih =>
    have hmid' : (low + high) / 2 < (xs.map f).size := Array.size_map.symm ▸ hmid
    have htest' : p (xs.map f)[(low + high) / 2] = true := by
      rw [Array.getElem_map, h _ (Array.getElem_mem hmid), htest]
    rw [partitionBetween, dif_pos hlt]
    exact (if_pos htest').trans (ih hp)
  | case2 low high hq hlt hmid htest ih =>
    have hmid' : (low + high) / 2 < (xs.map f).size := Array.size_map.symm ▸ hmid
    have htest' : ¬ p (xs.map f)[(low + high) / 2] = true := by
      rw [Array.getElem_map, h _ (Array.getElem_mem hmid)]
      exact htest
    rw [partitionBetween, dif_pos hlt]
    exact (if_neg htest').trans (ih (Nat.le_of_lt hmid'))
  | case3 low high hq hlt => rw [partitionBetween, dif_neg hlt]

theorem partitionPoint_map {α β : Type _} {f : α → β} {p : β → Bool} {q : α → Bool}
    {xs : Array α} (h : ∀ x ∈ xs, p (f x) = q x) :
    partitionPoint p (xs.map f) = partitionPoint q xs := by
  simp only [partitionPoint, Array.size_map]
  exact partitionBetween_map h 0 xs.size _ _

namespace CodeRange

/-- The hull stays inside what contains all ranges. -/
theorem foldl_hull_inside {low high : Nat} {r : CodeRange} {rs : List CodeRange}
    (hr : low ≤ r.lo ∧ r.hi ≤ high) (hrs : ∀ x ∈ rs, low ≤ x.lo ∧ x.hi ≤ high) :
    low ≤ (rs.foldl hull r).lo ∧ (rs.foldl hull r).hi ≤ high := by
  induction rs generalizing r with
  | nil => exact hr
  | cons x rs ih =>
    have hx := hrs x (by simp)
    apply ih
    · simp only [hull]
      omega
    · exact fun y hy => hrs y (by simp [hy])

/-- The hull contains all ranges. -/
theorem inside_foldl_hull {r x : CodeRange} {rs : List CodeRange} (hx : x ∈ r :: rs) :
    (rs.foldl hull r).lo ≤ x.lo ∧ x.hi ≤ (rs.foldl hull r).hi := by
  induction rs generalizing r x with
  | nil =>
    obtain rfl := List.mem_singleton.mp hx
    exact ⟨Nat.le_refl _, Nat.le_refl _⟩
  | cons y rs ih =>
    have hstart := ih (r := r.hull y) (x := r.hull y) (by simp)
    simp only [hull] at hstart
    rcases List.mem_cons.mp hx with rfl | hx
    · simp only [List.foldl_cons]
      simp only [hull] at *
      omega
    · rcases List.mem_cons.mp hx with rfl | hx
      · simp only [List.foldl_cons]
        simp only [hull] at *
        omega
      · exact ih (by simp [hx])

/-- The ranges of a normal list ascend with their starts and with their ends. -/
theorem getElem_ascend {rs : Array CodeRange} (h : Normal rs.toList) {i j : Nat} (hij : i ≤ j)
    (hj : j < rs.size) : rs[i].lo ≤ rs[j].lo ∧ rs[i].hi ≤ rs[j].hi := by
  rcases Nat.eq_or_lt_of_le hij with rfl | hlt
  · exact ⟨Nat.le_refl _, Nat.le_refl _⟩
  · have hgap : rs[i].hi + 1 < rs[j].lo :=
      List.pairwise_iff_getElem.mp h.pairwise i j (Nat.lt_trans hlt hj) hj hlt
    have := rs[i].lo_le_hi
    have := rs[j].lo_le_hi
    omega

/-- A block of a normal list lies between its first and its last range. -/
theorem mem_block {rs : Array CodeRange} (h : Normal rs.toList) {low high : Nat}
    (hlt : low < high) (hhigh : high ≤ rs.size) {x : CodeRange}
    (hx : x ∈ (rs.extract low high).toList) : rs[low].lo ≤ x.lo ∧ x.hi ≤ rs[high - 1].hi := by
  obtain ⟨k, hk, rfl⟩ := Array.mem_extract_iff_getElem.mp (Array.mem_toList_iff.mp hx)
  have hstart := getElem_ascend h (show low ≤ low + k by omega) (by omega)
  have hstop := getElem_ascend h (show low + k ≤ high - 1 by omega) (by omega)
  exact ⟨hstart.1, hstop.2⟩

/-- The hull of a block in a normal list ends where its first and last ranges do. -/
theorem foldl_hull_extract {rs : Array CodeRange} (h : Normal rs.toList) (r : CodeRange)
    {low high : Nat} (hlt : low < high) (hhigh : high ≤ rs.size) :
    ((rs.extract low high).foldl hull r).lo = min r.lo rs[low].lo ∧
      ((rs.extract low high).foldl hull r).hi = max r.hi rs[high - 1].hi := by
  have hfirst : rs[low] ∈ r :: (rs.extract low high).toList :=
    List.mem_cons_of_mem _ (Array.mem_toList_iff.mpr
      (Array.mem_extract_iff_getElem.mpr ⟨0, by omega, rfl⟩))
  have hlast : rs[high - 1] ∈ r :: (rs.extract low high).toList :=
    List.mem_cons_of_mem _ (Array.mem_toList_iff.mpr
      (Array.mem_extract_iff_getElem.mpr ⟨high - 1 - low, by omega, by congr; omega⟩))
  have hinside : ∀ x ∈ (rs.extract low high).toList,
      min r.lo rs[low].lo ≤ x.lo ∧ x.hi ≤ max r.hi rs[high - 1].hi := fun x hx => by
    have := mem_block h hlt hhigh hx
    omega
  have := foldl_hull_inside (r := r) ⟨Nat.min_le_left _ _, Nat.le_max_left _ _⟩ hinside
  have := inside_foldl_hull (List.mem_cons_self (a := r) (l := (rs.extract low high).toList))
  have := inside_foldl_hull hfirst
  have := inside_foldl_hull hlast
  rw [← Array.foldl_toList]
  omega

end CodeRange

namespace WordSet

theorem absorb_words {rs : Array CodeRange} (h : Normal rs.toList) {r : CodeRange}
    (hr : r.hi < UInt32.size) (low : Nat) {high : Nat} (hhigh : high ≤ rs.size) :
    absorb (rs.map CodeRange.words) low high r.words.lo r.words.hi =
      some ((rs.extract low high).foldl CodeRange.hull r).words := by
  unfold absorb
  split
  · rename_i hlt
    obtain ⟨hlo, hhi⟩ := CodeRange.foldl_hull_extract h r hlt hhigh
    have hfits : ∀ k (hk : k < rs.size), rs[k].hi < UInt32.size := fun k hk =>
      h.fitting _ (Array.getElem_mem_toList hk)
    have hget : ∀ k (hk : k < rs.size), (rs.map CodeRange.words)[k]? = some rs[k].words :=
      fun k hk => by rw [Array.getElem?_map, Array.getElem?_eq_getElem hk, Option.map_some]
    have hmin : min r.words.lo rs[low].words.lo = .ofNat (min r.lo rs[low].lo) :=
      min_ofNat (Nat.lt_of_le_of_lt r.lo_le_hi hr)
        (Nat.lt_of_le_of_lt rs[low].lo_le_hi (hfits low (by omega)))
    have hmax : max r.words.hi rs[high - 1].words.hi = .ofNat (max r.hi rs[high - 1].hi) :=
      max_ofNat hr (hfits (high - 1) (by omega))
    rw [hget low (by omega), hget (high - 1) (by omega)]
    simp only [Option.bind_eq_bind, Option.bind_some, hmin, hmax, ← hlo, ← hhi]
    rfl
  · rename_i hlt
    have hempty : rs.extract low high = #[] :=
      Array.extract_empty_of_stop_le_start (Nat.not_lt.mp hlt)
    rw [hempty, Array.foldl_empty]

/-- The first search counts the ranges that end with a gap before `r`. -/
theorem partitionPoint_endsBefore {rs : Array CodeRange} (h : Normal rs.toList) {r : CodeRange}
    (hr : r.hi < UInt32.size) :
    partitionPoint (fun x : WordRange => nextSaturating x.hi < r.words.lo)
      (rs.map CodeRange.words) = absorbedStart rs r := by
  refine partitionPoint_map fun x hx => ?_
  have hx' := h.fitting x (Array.mem_toList_iff.mpr hx)
  simp only [endsBefore, nextSaturating_lt_iff, hi_words_toNat hx', lo_words_toNat hr]

/-- The second search counts the ranges that begin by the end of `r` or directly after it. -/
theorem partitionPoint_beginsBy {rs : Array CodeRange} (h : Normal rs.toList) {r : CodeRange}
    (hr : r.hi + 1 < UInt32.size) :
    partitionPoint (fun x : WordRange => x.lo ≤ .ofNat (r.hi + 1)) (rs.map CodeRange.words) =
      absorbedStop rs r := by
  refine partitionPoint_map fun x hx => ?_
  have hx' := h.fitting x (Array.mem_toList_iff.mpr hx)
  simp only [beginsBy, UInt32.le_iff_toNat_le, lo_words_toNat hx',
    UInt32.toNat_ofNat_of_lt' hr]

/-- Inserting a range of the domain passes all checks. -/
theorem addRange_clipped (s : RangeSet) {a b : UInt32} {r : CodeRange}
    (hlo : (WordRange.between a b).lo = r.words.lo)
    (hhi : min (WordRange.between a b).hi maxWord = r.words.hi) (hr : r.hi ≤ maxCodePoint) :
    addRange s.words a b = some (RangeSet.words ⟨insertRange s.ranges r,
      insertRange_normal s.normal hr⟩) := by
  have hsize := lt_size_of_le_max hr
  have hin : ¬ maxWord < r.words.lo := by
    rw [UInt32.lt_iff_toNat_lt, lo_words_toNat (Nat.lt_of_succ_lt hsize)]
    exact Nat.not_lt.mpr (Nat.le_trans r.lo_le_hi hr)
  have hafter : next? r.words.hi = some (.ofNat (r.hi + 1)) := next?_ofNat hsize
  have hstart := partitionPoint_endsBefore s.normal (Nat.lt_of_succ_lt hsize)
  have hstop := partitionPoint_beginsBy s.normal hsize
  obtain ⟨hle, hhigh⟩ := absorbed_bounds s.normal r
  have hmerged := absorb_words s.normal (Nat.lt_of_succ_lt hsize) (absorbedStart s.ranges r) hhigh
  have hwords : (s.words.extract 0 (absorbedStart s.ranges r) ++
      #[((s.ranges.extract (absorbedStart s.ranges r) (absorbedStop s.ranges r)).foldl
        CodeRange.hull r).words] ++ s.words.extract (absorbedStop s.ranges r)) =
      RangeSet.words ⟨insertRange s.ranges r, insertRange_normal s.normal hr⟩ := by
    simp [RangeSet.words, insertRange]
  simp only [addRange, hlo, hhi, if_neg hin, hafter, Option.bind_eq_bind, Option.bind_some]
  rw [RangeSet.words, hstart, hstop, if_pos ⟨hle, by rwa [Array.size_map]⟩, hmerged,
    Option.bind_some]
  exact (congrArg asserted hwords).trans (asserted_words _)

theorem addRange_words (s : RangeSet) (a b : UInt32) :
    addRange s.words a b = some (s.insertBetween a.toNat b.toNat).words := by
  have hfits := between_lt_size a b
  unfold RangeSet.insertBetween
  split
  · rename_i hclip
    have hout : maxWord < (CodeRange.between a.toNat b.toNat).words.lo := by
      rw [UInt32.lt_iff_toNat_lt, lo_words_toNat hfits]
      exact CodeRange.clip?_eq_none.mp hclip
    rw [words_between] at hout
    exact if_pos hout
  · rename_i r hclip
    obtain ⟨hlo, hhi⟩ := CodeRange.clip?_eq_some hclip
    refine addRange_clipped s ?_ ?_ (by omega)
    · rw [← words_between]
      simp only [CodeRange.words, hlo]
    · rw [← words_between]
      simp only [CodeRange.words, maxWord_eq, min_ofNat hfits (by decide : maxCodePoint < _), hhi]

end WordSet

end UnicodeClasses

import UnicodeClasses.Proofs.CheckedSets

/-!
# Joining ranges of words

On the words of a set the checks of the normal form hold, and joining, sorting and merging words
gives the words of the set that the same steps on code points give. So the checked constructors
and unions always have a result.
-/
namespace UnicodeClasses

/-- The words that store a set. -/
def RangeSet.words (s : RangeSet) : WordSet := s.ranges.map CodeRange.words

/-- All ranges end inside the words. -/
def Fitting (rs : List CodeRange) : Prop := ∀ r ∈ rs, r.hi < UInt32.size

theorem lt_size_of_le_max {n : Nat} (h : n ≤ maxCodePoint) : n + 1 < UInt32.size := by
  simp only [UInt32.size, maxCodePoint] at *
  omega

theorem NormalFrom.fitting {floor : Nat} {rs : List CodeRange} (h : NormalFrom floor rs) :
    Fitting rs := fun _ hr => by
  have := lt_size_of_le_max (h.hi_le hr)
  omega

theorem RangeSet.words_ofNormal {rs : List CodeRange} (h : Normal rs) :
    (RangeSet.ofNormal rs h).words = (rs.map CodeRange.words).toArray := by
  simp [RangeSet.words, RangeSet.ofNormal]

theorem RangeSet.words_empty : (∅ : RangeSet).words = #[] := by
  have hnil : Normal [] := trivial
  change (RangeSet.ofNormal [] hnil).words = #[]
  rw [RangeSet.words_ofNormal, List.map_nil]

theorem RangeSet.getElem_words (s : RangeSet) (k : Nat) (h : k < s.ranges.size)
    (h' : k < s.words.size) : s.words[k] = s.ranges[k].words := Array.getElem_map ..

theorem RangeSet.toList_words (s : RangeSet) :
    s.words.toList = s.ranges.toList.map CodeRange.words := Array.toList_map

namespace WordSet

/-- The normal form in numbers: order and domain of each range, and a gap between neighbours. -/
structure NormalWords (s : WordSet) : Prop where
  lo_le_hi : ∀ r ∈ s, r.lo.toNat ≤ r.hi.toNat
  hi_le_max : ∀ r ∈ s, r.hi.toNat ≤ maxCodePoint
  gap : ∀ k (h : k + 1 < s.size), s[k].hi.toNat + 1 < s[k + 1].lo.toNat

theorem all_neighbours_iff {α : Type _} {xs : List α} {p : α × α → Bool} :
    (xs.zip xs.tail).all p = true ↔
      ∀ k (h : k + 1 < xs.length), p (xs[k], xs[k + 1]) = true := by
  rw [List.all_eq_true]
  constructor
  · intro hall k h
    have hk : k < (xs.zip xs.tail).length := by
      rw [List.length_zip, List.length_tail]
      omega
    have := hall _ (List.getElem_mem hk)
    rwa [List.getElem_zip, List.getElem_tail] at this
  · intro hall pair hpair
    obtain ⟨k, hk, rfl⟩ := List.getElem_of_mem hpair
    rw [List.length_zip, List.length_tail] at hk
    rw [List.getElem_zip, List.getElem_tail]
    exact hall k (by omega)

/-- The check of the normal form decides it. -/
theorem isNormalized_iff {s : WordSet} : s.isNormalized = true ↔ NormalWords s := by
  rw [isNormalized, Bool.and_eq_true, all_neighbours_iff, List.all_eq_true]
  simp only [Bool.and_eq_true, decide_eq_true_eq, nextSaturating_lt_iff, UInt32.le_iff_toNat_le,
    Array.mem_toList_iff, Array.length_toList, Array.getElem_toList]
  constructor
  · rintro ⟨hall, hgap⟩
    exact ⟨fun r hr => (hall r hr).1, fun r hr => (hall r hr).2, hgap⟩
  · rintro ⟨horder, hmax, hgap⟩
    exact ⟨fun r hr => ⟨horder r hr, hmax r hr⟩, hgap⟩

example : isNormalized #[⟨0x41, 0x43⟩, ⟨0x44, 0x46⟩] = false := by decide

theorem normalWords_words (s : RangeSet) : NormalWords s.words := by
  have hfits := s.normal.fitting
  refine ⟨fun r hr => ?_, fun r hr => ?_, fun k hk => ?_⟩
  · obtain ⟨x, hx, rfl⟩ := Array.mem_map.mp hr
    have hx' := hfits x (Array.mem_toList_iff.mpr hx)
    rw [lo_words_toNat hx', hi_words_toNat hx']
    exact x.lo_le_hi
  · obtain ⟨x, hx, rfl⟩ := Array.mem_map.mp hr
    have hx' := Array.mem_toList_iff.mpr hx
    rw [hi_words_toNat (hfits x hx')]
    exact s.normal.hi_le hx'
  · have hsize : k + 1 < s.ranges.size := Array.size_map ▸ hk
    have hgap := List.pairwise_iff_getElem.mp s.normal.pairwise k (k + 1)
      (Nat.lt_of_succ_lt hsize) hsize (Nat.lt_succ_self k)
    have hword : ∀ i (h : i < s.ranges.size), s.ranges[i].hi < UInt32.size := fun i h =>
      hfits _ (Array.getElem_mem_toList h)
    have hleft := s.getElem_words k (Nat.lt_of_succ_lt hsize) (Nat.lt_of_succ_lt hk)
    have hright := s.getElem_words (k + 1) hsize hk
    rw [hleft, hright, hi_words_toNat (hword _ _), lo_words_toNat (hword _ _)]
    exact hgap

theorem asserted_words (s : RangeSet) : asserted s.words = some s.words :=
  if_pos (isNormalized_iff.mpr (normalWords_words s))

theorem asserted_of_normal {rs : List CodeRange} (h : Normal rs) :
    asserted (rs.map CodeRange.words).toArray = some (RangeSet.ofNormal rs h).words := by
  rw [← RangeSet.words_ofNormal h]
  exact asserted_words _

/-- One step of the joining pass, with `current` as the last range so far. -/
theorem pushMerged_push (out : WordSet) {current r : CodeRange} (hc : current.hi < UInt32.size)
    (hr : r.hi < UInt32.size) (hle : current.lo ≤ r.lo) :
    pushMerged (out.push current.words) r.words =
      if r.lo ≤ current.hi + 1 then out.push (current.hull r).words
      else (out.push current.words).push r.words := by
  simp only [pushMerged, Array.back?_push, Array.pop_push, le_nextSaturating_iff,
    lo_words_toNat hr, hi_words_toNat hc]
  split
  · simp only [hi_words_lt_iff hc hr]
    split
    · rename_i hlt
      simp [CodeRange.words, CodeRange.hull, Nat.min_eq_left hle,
        Nat.max_eq_right (Nat.le_of_lt hlt)]
    · rename_i hlt
      simp [CodeRange.words, CodeRange.hull, Nat.min_eq_left hle,
        Nat.max_eq_left (Nat.not_lt.mp hlt)]
  · rfl

theorem foldl_pushMerged_push (out : WordSet) {rs : List CodeRange} {current : CodeRange}
    (hsorted : Sorted (current :: rs)) (hfits : Fitting (current :: rs)) :
    (rs.map CodeRange.words).foldl pushMerged (out.push current.words) =
      out ++ ((joinFrom current rs).map CodeRange.words).toArray := by
  induction rs generalizing out current with
  | nil => simp [joinFrom]
  | cons r rs ih =>
    have hc := hfits current (by simp)
    have hr := hfits r (by simp)
    simp only [Sorted, List.pairwise_cons] at hsorted
    obtain ⟨hfirst, hsecond, htail⟩ := hsorted
    have hle := hfirst r (by simp)
    rw [List.map_cons, List.foldl_cons, pushMerged_push out hc hr hle, joinFrom]
    split
    · apply ih
      · refine List.pairwise_cons.mpr ⟨fun s hs => ?_, htail⟩
        have := hsecond s hs
        simp only [CodeRange.hull]
        omega
      · intro s hs
        rcases List.mem_cons.mp hs with rfl | hs
        · simp only [CodeRange.hull]
          omega
        · exact hfits s (by simp [hs])
    · rw [ih _ (List.pairwise_cons.mpr ⟨hsecond, htail⟩)
        fun s hs => hfits s (List.mem_cons_of_mem _ hs)]
      simp

theorem foldl_pushMerged {rs : List CodeRange} (hsorted : Sorted rs) (hfits : Fitting rs) :
    (rs.map CodeRange.words).foldl pushMerged #[] =
      ((joinTouching rs).map CodeRange.words).toArray := by
  cases rs with
  | nil => rfl
  | cons r rs =>
    have := foldl_pushMerged_push #[] hsorted hfits
    rw [Array.empty_append] at this
    exact this

theorem clip_words {rs : List CodeRange} (hfits : Fitting rs) :
    ((rs.map CodeRange.words).filter (·.lo ≤ maxWord)).map WordRange.clip =
      (rs.filterMap CodeRange.clip?).map CodeRange.words := by
  induction rs with
  | nil => rfl
  | cons r rs ih =>
    have hr := hfits r (by simp)
    have hrest := ih fun s hs => hfits s (by simp [hs])
    have hiff : r.words.lo ≤ maxWord ↔ r.lo ≤ maxCodePoint := by
      rw [UInt32.le_iff_toNat_le, lo_words_toNat hr]
      rfl
    by_cases h : r.lo ≤ maxCodePoint
    · have hclip : r.words.clip = CodeRange.words ⟨r.lo, min r.hi maxCodePoint,
          Nat.le_min.mpr ⟨r.lo_le_hi, h⟩⟩ := by
        simp only [WordRange.clip, CodeRange.words, maxWord_eq, min_ofNat hr
          (by decide : maxCodePoint < UInt32.size)]
      simp [hiff, h, hrest, hclip, CodeRange.clip?]
    · simp [hiff, h, hrest, CodeRange.clip?]

theorem normalize_words {rs : List CodeRange} (hfits : Fitting rs) :
    normalize (rs.map CodeRange.words) = ((normalise rs).map CodeRange.words).toArray := by
  have hclipped : Fitting (rs.filterMap CodeRange.clip?) := by
    intro s hs
    obtain ⟨r, _, hr⟩ := List.mem_filterMap.mp hs
    have := (CodeRange.clip?_eq_some hr).2
    have := lt_size_of_le_max (n := s.hi) (by omega)
    omega
  have hsort : ((rs.filterMap CodeRange.clip?).map CodeRange.words).mergeSort WordRange.le =
      ((rs.filterMap CodeRange.clip?).mergeSort CodeRange.le).map CodeRange.words :=
    (List.map_mergeSort (f := CodeRange.words)
      fun r hr s hs => le_words (hclipped r hr) (hclipped s hs)).symm
  rw [normalize, clip_words hfits, hsort]
  exact foldl_pushMerged (sorted_clipped rs) fun r hr => hclipped r (List.mem_mergeSort.mp hr)

theorem fromRaw_words {rs : List CodeRange} (hfits : Fitting rs) :
    fromRaw (rs.map CodeRange.words) = some (RangeSet.ofRanges rs).words := by
  rw [fromRaw, normalize_words hfits]
  exact asserted_of_normal (normalise_normal rs)

theorem fromRange_eq (a b : UInt32) :
    fromRange a b = some (RangeSet.between a.toNat b.toNat).words := by
  have hfits : Fitting [CodeRange.between a.toNat b.toNat] := by
    intro r hr
    obtain rfl := List.mem_singleton.mp hr
    exact between_lt_size a b
  have := fromRaw_words hfits
  rw [List.map_cons, List.map_nil, words_between] at this
  exact this

theorem fromCodeRange_eq (a b : UInt32) : fromCodeRange (WordRange.between a b) =
    some (RangeSet.ofRange (CodeRange.between a.toNat b.toNat)).words := by
  have hfits := between_lt_size a b
  rw [← words_between, fromCodeRange, fromRange_eq, lo_words_toNat hfits, hi_words_toNat hfits]
  rfl

theorem full_eq : full = some RangeSet.full.words := fromRange_eq 0 maxWord

theorem fromRanges_eq (ends : List (UInt32 × UInt32)) : fromRanges ends =
    some (RangeSet.ofRanges
      (ends.map fun pair => CodeRange.between pair.1.toNat pair.2.toNat)).words := by
  rw [← fromRaw_words]
  · simp only [fromRanges, List.map_map]
    congr 2
    funext pair
    exact (words_between pair.1 pair.2).symm
  · intro r hr
    obtain ⟨pair, _, rfl⟩ := List.mem_map.mp hr
    exact between_lt_size pair.1 pair.2

theorem filter_table (table : List (UInt32 × UInt32)) :
    ((table.filter fun pair => pair.1 ≤ pair.2 && pair.1 ≤ maxWord).map
        fun pair => WordRange.mk pair.1 pair.2).filter (·.lo ≤ maxWord) =
      (((table.map fun pair => (pair.1.toNat, pair.2.toNat)).filterMap
        CodeRange.ofEntry?).map CodeRange.words).filter (·.lo ≤ maxWord) := by
  induction table with
  | nil => rfl
  | cons pair table ih =>
    by_cases hle : pair.1 ≤ pair.2
    · have hentry : CodeRange.ofEntry? (pair.1.toNat, pair.2.toNat) =
          some ⟨pair.1.toNat, pair.2.toNat, UInt32.le_iff_toNat_le.mp hle⟩ :=
        CodeRange.ofEntry?_eq_some.mpr ⟨rfl, rfl⟩
      by_cases hmax : pair.1 ≤ maxWord <;> simp [hle, hmax, hentry, CodeRange.words, ih]
    · have hentry : CodeRange.ofEntry? (pair.1.toNat, pair.2.toNat) = none :=
        dif_neg (mt UInt32.le_iff_toNat_le.mpr hle)
      simp [hle, hentry, ih]

theorem fromTable_eq (table : List (UInt32 × UInt32)) : fromTable table =
    some (RangeSet.ofTable (table.map fun pair => (pair.1.toNat, pair.2.toNat))).words := by
  rw [RangeSet.ofTable, ← fromRaw_words]
  · rw [fromTable, fromRaw, fromRaw, normalize, normalize, filter_table]
  · intro r hr
    obtain ⟨entry, hentry, hr⟩ := List.mem_filterMap.mp hr
    obtain ⟨pair, _, rfl⟩ := List.mem_map.mp hentry
    rw [(CodeRange.ofEntry?_eq_some.mp hr).2]
    exact pair.2.toNat_lt

/-- The merge that joins as it goes is a merge of the lists and a joining pass. -/
theorem mergeInto_eq (out : WordSet) (rs ss : List WordRange) :
    mergeInto out rs ss = (rs.merge ss fun r s => r.lo ≤ s.lo).foldl pushMerged out := by
  fun_induction mergeInto out rs ss with
  | case1 => simp
  | case2 out r rs ih => simpa using ih
  | case3 out s ss ih => simpa using ih
  | case4 out r rs s ss hle ih => simpa [List.merge, hle] using ih
  | case5 out r rs s ss hle ih => simpa [List.merge, hle] using ih

theorem union_words (s t : RangeSet) : union s.words t.words = some (s ∪ t).words := by
  have hs := s.normal.fitting
  have ht := t.normal.fitting
  have hmerge : (s.ranges.toList.map CodeRange.words).merge (t.ranges.toList.map CodeRange.words)
      (fun r s => r.lo ≤ s.lo) =
      (s.ranges.toList.merge t.ranges.toList fun r s => r.lo ≤ s.lo).map CodeRange.words := by
    refine (List.map_merge fun r hr x hx => ?_).symm
    simp only [lo_words_le_iff (hs r hr) (ht x hx)]
  rw [union, RangeSet.toList_words, RangeSet.toList_words, mergeInto_eq, hmerge, foldl_pushMerged]
  · exact asserted_of_normal (unite_normal s.normal t.normal)
  · exact sorted_merge s.normal.sorted t.normal.sorted
  · intro r hr
    rcases List.mem_merge.mp hr with h | h
    · exact hs r h
    · exact ht r h

theorem isEmpty_words (s : RangeSet) : s.words.isEmpty = s.isEmpty := by
  rw [RangeSet.isEmpty, RangeSet.words, Array.isEmpty, Array.isEmpty, Array.size_map]

theorem unionWith_words (s t : RangeSet) :
    unionWith s.words t.words = some (s.unionWith t).words := by
  rw [unionWith, RangeSet.unionWith, isEmpty_words, union_words]
  split <;> rfl

end WordSet

end UnicodeClasses

import UnicodeClasses.Proofs.CheckedMerge

/-!
# Sweeping over ranges of words

Complements, intersections and differences of words are the words of those sets. The ranges they
append need no merging, and the words next to the ends of a range always exist.
-/
namespace UnicodeClasses

namespace WordSet

theorem gapBefore_words (out : WordSet) {next : Nat} {r : CodeRange} (hnext : next ≤ r.lo)
    (hr : r.hi ≤ maxCodePoint) :
    gapBefore (out, .ofNat next) r.words = some
      (if next < r.lo then out.push ⟨.ofNat next, .ofNat (r.lo - 1)⟩ else out,
        .ofNat (r.hi + 1)) := by
  have hhi := lt_size_of_le_max hr
  have hle := r.lo_le_hi
  have hlt : UInt32.ofNat next < r.words.lo ↔ next < r.lo :=
    UInt32.ofNat_lt_iff_lt (by omega) (by omega)
  have hafter : next? r.words.hi = some (.ofNat (r.hi + 1)) := next?_ofNat hhi
  simp only [gapBefore, hlt, hafter]
  split
  · have hbefore : previous? r.words.lo = some (.ofNat (r.lo - 1)) :=
      previous?_ofNat (by omega) (by omega)
    rw [hbefore]
    rfl
  · rfl

/-- From `next` on, the sweep appends the gaps. -/
theorem foldlM_gapBefore {next : Nat} {rs : List CodeRange} (h : NormalFrom next rs)
    (hnext : next ≤ maxCodePoint + 1) (out : WordSet) :
    ((rs.map CodeRange.words).foldlM gapBefore (out, .ofNat next)).map lastGap =
      some (out ++ ((gapsFrom next rs).map CodeRange.words).toArray) := by
  induction rs generalizing next out with
  | nil =>
    have hle : UInt32.ofNat next ≤ maxWord ↔ next ≤ maxCodePoint :=
      UInt32.ofNat_le_iff_le (by simp only [UInt32.size, maxCodePoint] at *; omega) (by decide)
    simp only [List.map_nil, List.foldlM_nil, Option.pure_def, Option.map_some, lastGap, hle,
      gapsFrom]
    split
    · rfl
    · simp
  | cons r rs ih =>
    obtain ⟨hlo, hhi, hrest⟩ := h
    have hgaps := ih (hrest.mono (by omega : r.hi + 1 ≤ r.hi + 2)) (by omega)
    rw [List.map_cons, List.foldlM_cons, gapBefore_words out hlo hhi, Option.bind_eq_bind,
      Option.bind_some, hgaps, gapsFrom]
    split
    · simp [CodeRange.words]
    · rfl

theorem complement_words (s : RangeSet) : complement s.words = some s.complement.words := by
  obtain ⟨state, hstate, hlast⟩ := Option.map_eq_some_iff.mp
    (foldlM_gapBefore s.normal (Nat.zero_le _) #[])
  rw [complement, s.toList_words]
  change (List.foldlM gapBefore (#[], .ofNat 0) _ >>= _) = _
  rw [hstate, Option.bind_eq_bind, Option.bind_some, hlast, Array.empty_append]
  exact asserted_of_normal (gapsFrom_normalFrom s.normal)

theorem push_meet? (out : WordSet) {r s : CodeRange} (hr : r.hi < UInt32.size)
    (hs : s.hi < UInt32.size) :
    (if max r.words.lo s.words.lo ≤ min r.words.hi s.words.hi then
        out.push ⟨max r.words.lo s.words.lo, min r.words.hi s.words.hi⟩ else out) =
      out ++ ((r.meet? s).toList.map CodeRange.words).toArray := by
  have hrle := r.lo_le_hi
  have hsle := s.lo_le_hi
  have hmax : max r.words.lo s.words.lo = .ofNat (max r.lo s.lo) :=
    max_ofNat (by omega) (by omega)
  have hmin : min r.words.hi s.words.hi = .ofNat (min r.hi s.hi) := min_ofNat hr hs
  have hle : UInt32.ofNat (max r.lo s.lo) ≤ .ofNat (min r.hi s.hi) ↔
      max r.lo s.lo ≤ min r.hi s.hi := UInt32.ofNat_le_iff_le (by omega) (by omega)
  rw [hmax, hmin]
  by_cases h : max r.lo s.lo ≤ min r.hi s.hi
  · simp only [hle, h, CodeRange.meet?, CodeRange.words, dite_true, if_true, Option.toList_some,
      List.map_cons, List.map_nil, Array.push_eq_append]
  · simp only [hle, h, CodeRange.meet?, dite_false, if_false, Option.toList_none, List.map_nil,
      Array.append_empty]

theorem meetInto_words (out : WordSet) {rs ss : List CodeRange} (hr : Fitting rs)
    (hs : Fitting ss) : meetInto out (rs.map CodeRange.words) (ss.map CodeRange.words) =
      out ++ ((overlaps rs ss).map CodeRange.words).toArray := by
  fun_induction overlaps rs ss generalizing out with
  | case1 ss => cases ss <;> simp [meetInto]
  | case2 rs => cases rs <;> simp [meetInto]
  | case3 r rs s ss hlt ih =>
    have hrhi := hr r (by simp)
    have hshi := hs s (by simp)
    rw [List.map_cons, List.map_cons, meetInto, push_meet? out hrhi hshi,
      if_pos ((hi_words_lt_iff hrhi hshi).mpr hlt)]
    have := ih (out ++ ((r.meet? s).toList.map CodeRange.words).toArray)
      (fun x hx => hr x (by simp [hx])) hs
    simpa using this
  | case4 r rs s ss hlt ih =>
    have hrhi := hr r (by simp)
    have hshi := hs s (by simp)
    rw [List.map_cons, List.map_cons, meetInto, push_meet? out hrhi hshi,
      if_neg (mt (hi_words_lt_iff hrhi hshi).mp hlt)]
    have := ih (out ++ ((r.meet? s).toList.map CodeRange.words).toArray) hr
      fun x hx => hs x (by simp [hx])
    simpa using this

theorem intersection_words (s t : RangeSet) :
    intersection s.words t.words = some (s ∩ t).words := by
  rw [intersection, s.toList_words, t.toList_words,
    meetInto_words #[] s.normal.fitting t.normal.fitting, Array.empty_append]
  exact asserted_of_normal (overlaps_normalFrom s.normal t.normal)

theorem difference_words (s t : RangeSet) : difference s.words t.words = some (s \ t).words := by
  change _ = some (RangeSet.diff s t).words
  rw [difference, RangeSet.diff, isEmpty_words, complement_words]
  split
  · rfl
  · exact intersection_words s t.complement

end WordSet

end UnicodeClasses

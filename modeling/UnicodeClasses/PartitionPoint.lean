/-!
# Binary search for a partition point

When the entries of an array that satisfy a test all come first, their number is found by
halving. The law `partitionPoint_eq` says that this number is that of a linear scan.
-/
namespace UnicodeClasses

variable {α : Type _}

/-- The search within `[low, high)`. -/
def partitionBetween (p : α → Bool) (xs : Array α) (low high : Nat) (h : high ≤ xs.size) : Nat :=
  if hlt : low < high then
    have hmid : (low + high) / 2 < xs.size := by omega
    if p xs[(low + high) / 2] then
      partitionBetween p xs ((low + high) / 2 + 1) high h
    else partitionBetween p xs low ((low + high) / 2) (by omega)
  else low
termination_by high - low

/-- The number of leading entries that satisfy `p`, if no other entry does. -/
def partitionPoint (p : α → Bool) (xs : Array α) : Nat :=
  partitionBetween p xs 0 xs.size (Nat.le_refl _)

theorem partitionBetween_eq {p : α → Bool} {xs : Array α} {point : Nat}
    (hp : ∀ i (hi : i < xs.size), p xs[i] = true ↔ i < point)
    (low high : Nat) (h : high ≤ xs.size) (hlow : low ≤ point) (hhigh : point ≤ high) :
    partitionBetween p xs low high h = point := by
  fun_induction partitionBetween p xs low high h with
  | case1 low high h hlt hmid htest ih =>
    have := (hp _ hmid).mp htest
    exact ih (by omega) hhigh
  | case2 low high h hlt hmid htest ih =>
    have := mt (hp _ hmid).mpr htest
    exact ih hlow (by omega)
  | case3 low high h hlt => omega

theorem getElem_iff_lt_takeWhile {p : α → Bool} {xs : List α}
    (h : xs.Pairwise fun x y => p y = true → p x = true) (i : Nat) (hi : i < xs.length) :
    p xs[i] = true ↔ i < (xs.takeWhile p).length := by
  induction xs generalizing i with
  | nil => simp at hi
  | cons x xs ih =>
    rw [List.pairwise_cons] at h
    cases i with
    | zero => by_cases hx : p x = true <;> simp [hx]
    | succ i =>
      have hi' : i < xs.length := by simpa using hi
      by_cases hx : p x = true
      · simpa [hx] using ih h.2 i hi'
      · simp only [List.getElem_cons_succ, hx, List.takeWhile_cons]
        have := mt (h.1 xs[i] (List.getElem_mem hi')) hx
        simpa using this

/-- Halving and scanning agree when the entries that satisfy `p` come first. -/
theorem partitionPoint_eq {p : α → Bool} {xs : Array α}
    (h : xs.toList.Pairwise fun x y => p y = true → p x = true) :
    partitionPoint p xs = (xs.toList.takeWhile p).length := by
  apply partitionBetween_eq
  · intro i hi
    rw [← Array.getElem_toList hi]
    exact getElem_iff_lt_takeWhile h i hi
  · omega
  · exact (List.takeWhile_sublist p).length_le

end UnicodeClasses

import UnicodeClasses.RangeSet

/-!
# Range sets over machine words

The constructors and operations of range sets on 32-bit words. Each one has no result where its
arithmetic would leave the words, an index would leave its array, or the assertion of the normal
form at its end would fail.
-/
namespace UnicodeClasses

/-- A range as the two words that store it. -/
structure WordRange where
  lo : UInt32
  hi : UInt32
  deriving DecidableEq

abbrev WordSet := Array WordRange

/-- The last code point of the domain. -/
def maxWord : UInt32 := 0x10FFFF

/-- The next word, if there is one. -/
def next? (w : UInt32) : Option UInt32 := if w = 0xFFFFFFFF then none else some (w + 1)

/-- The word before, if there is one. -/
def previous? (w : UInt32) : Option UInt32 := if w = 0 then none else some (w - 1)

/-- The next word, or the last word again. -/
def nextSaturating (w : UInt32) : UInt32 := if w = 0xFFFFFFFF then w else w + 1

theorem maxWord_eq : maxWord = .ofNat maxCodePoint := rfl

section Words
variable {a b : Nat}

theorem min_ofNat (ha : a < UInt32.size) (hb : b < UInt32.size) :
    min (UInt32.ofNat a) (.ofNat b) = .ofNat (min a b) := by
  change (if UInt32.ofNat a ≤ .ofNat b then UInt32.ofNat a else .ofNat b) = _
  rw [Nat.min_def, apply_ite UInt32.ofNat]
  simp only [UInt32.ofNat_le_iff_le ha hb]

theorem max_ofNat (ha : a < UInt32.size) (hb : b < UInt32.size) :
    max (UInt32.ofNat a) (.ofNat b) = .ofNat (max a b) := by
  change (if UInt32.ofNat a ≤ .ofNat b then UInt32.ofNat b else .ofNat a) = _
  rw [Nat.max_def, apply_ite UInt32.ofNat]
  simp only [UInt32.ofNat_le_iff_le ha hb]

theorem ofNat_eq_iff (ha : a < UInt32.size) (hb : b < UInt32.size) :
    UInt32.ofNat a = .ofNat b ↔ a = b := by
  constructor
  · intro h
    rw [← UInt32.toNat_ofNat_of_lt' ha, h, UInt32.toNat_ofNat_of_lt' hb]
  · exact congrArg UInt32.ofNat

theorem ofNat_ne_last (h : a + 1 < UInt32.size) : UInt32.ofNat a ≠ 0xFFFFFFFF := by
  refine mt (ofNat_eq_iff (b := 0xFFFFFFFF) (by omega) (by decide)).mp ?_
  simp only [UInt32.size] at h
  omega

theorem next?_ofNat (h : a + 1 < UInt32.size) :
    next? (.ofNat a) = some (.ofNat (a + 1)) := by
  rw [next?, if_neg (ofNat_ne_last h), UInt32.ofNat_add]
  rfl

theorem previous?_ofNat (h : 0 < a) (ha : a < UInt32.size) :
    previous? (.ofNat a) = some (.ofNat (a - 1)) := by
  have hne : UInt32.ofNat a ≠ 0 :=
    mt (ofNat_eq_iff (b := 0) ha (by decide)).mp (by omega)
  rw [previous?, if_neg hne, UInt32.ofNat_sub h]
  rfl

end Words

theorem nextSaturating_lt_iff {v w : UInt32} :
    nextSaturating w < v ↔ w.toNat + 1 < v.toNat := by
  have hv := v.toNat_lt
  rw [nextSaturating, UInt32.lt_iff_toNat_lt]
  split
  · rename_i h
    subst h
    change 4294967295 < v.toNat ↔ 4294967295 + 1 < v.toNat
    omega
  · rename_i h
    have hw : w.toNat ≠ 4294967295 := fun heq => h (UInt32.toNat_inj.mp heq)
    have := w.toNat_lt
    rw [UInt32.toNat_add]
    change (w.toNat + 1) % 2 ^ 32 < v.toNat ↔ _
    omega

theorem le_nextSaturating_iff {v w : UInt32} :
    v ≤ nextSaturating w ↔ v.toNat ≤ w.toNat + 1 := by
  rw [← UInt32.not_lt, nextSaturating_lt_iff, Nat.not_lt]

namespace WordRange

/-- Ends given in reverse order are swapped. -/
def between (a b : UInt32) : WordRange := if b < a then ⟨b, a⟩ else ⟨a, b⟩

def le (r s : WordRange) : Bool := r.lo < s.lo || (r.lo = s.lo && r.hi ≤ s.hi)

def clip (r : WordRange) : WordRange := ⟨r.lo, min r.hi maxWord⟩

end WordRange

/-- The words that store a range. They determine it as long as it ends inside the words. -/
def CodeRange.words (r : CodeRange) : WordRange := ⟨.ofNat r.lo, .ofNat r.hi⟩

theorem words_between (a b : UInt32) :
    (CodeRange.between a.toNat b.toNat).words = WordRange.between a b := by
  unfold WordRange.between
  split
  · rename_i h
    have := UInt32.lt_iff_toNat_lt.mp h
    simp only [CodeRange.words, CodeRange.between, Nat.min_eq_right (Nat.le_of_lt this),
      Nat.max_eq_left (Nat.le_of_lt this), UInt32.ofNat_toNat]
  · rename_i h
    have := Nat.not_lt.mp (mt UInt32.lt_iff_toNat_lt.mpr h)
    simp only [CodeRange.words, CodeRange.between, Nat.min_eq_left this, Nat.max_eq_right this,
      UInt32.ofNat_toNat]

theorem between_lt_size (a b : UInt32) :
    (CodeRange.between a.toNat b.toNat).hi < UInt32.size := by
  have := a.toNat_lt
  have := b.toNat_lt
  simp only [CodeRange.between, UInt32.size]
  omega

section WordsOfRanges
variable {r s : CodeRange}

theorem lo_words_toNat (h : r.hi < UInt32.size) : r.words.lo.toNat = r.lo :=
  UInt32.toNat_ofNat_of_lt' (Nat.lt_of_le_of_lt r.lo_le_hi h)

theorem hi_words_toNat (h : r.hi < UInt32.size) : r.words.hi.toNat = r.hi :=
  UInt32.toNat_ofNat_of_lt' h

theorem lo_words_le_iff (hr : r.hi < UInt32.size) (hs : s.hi < UInt32.size) :
    r.words.lo ≤ s.words.lo ↔ r.lo ≤ s.lo := by
  rw [UInt32.le_iff_toNat_le, lo_words_toNat hr, lo_words_toNat hs]

theorem hi_words_lt_iff (hr : r.hi < UInt32.size) (hs : s.hi < UInt32.size) :
    r.words.hi < s.words.hi ↔ r.hi < s.hi := by
  rw [UInt32.lt_iff_toNat_lt, hi_words_toNat hr, hi_words_toNat hs]

theorem le_words (hr : r.hi < UInt32.size) (hs : s.hi < UInt32.size) :
    CodeRange.le r s = WordRange.le r.words s.words := by
  simp only [CodeRange.le, WordRange.le, ← UInt32.toNat_inj, UInt32.lt_iff_toNat_lt,
    UInt32.le_iff_toNat_le, lo_words_toNat hr, lo_words_toNat hs, hi_words_toNat hr,
    hi_words_toNat hs]

end WordsOfRanges

namespace WordSet

/-- The ranges are in order and inside the domain, and no two neighbours touch. -/
def isNormalized (s : WordSet) : Bool :=
  s.toList.all (fun r => r.lo ≤ r.hi && r.hi ≤ maxWord) &&
    (s.toList.zip s.toList.tail).all fun pair => nextSaturating pair.1.hi < pair.2.lo

def asserted (s : WordSet) : Option WordSet := if s.isNormalized then some s else none

/-- Appends a range, merging it with the last one where they overlap or touch. -/
def pushMerged (out : WordSet) (r : WordRange) : WordSet :=
  match out.back? with
  | some last =>
    if r.lo ≤ nextSaturating last.hi then
      if last.hi < r.hi then out.pop.push ⟨last.lo, r.hi⟩ else out
    else out.push r
  | none => out.push r

def normalize (raw : List WordRange) : WordSet :=
  (((raw.filter (·.lo ≤ maxWord)).map WordRange.clip).mergeSort WordRange.le).foldl pushMerged #[]

def fromRaw (raw : List WordRange) : Option WordSet := asserted (normalize raw)

def fromRange (a b : UInt32) : Option WordSet := fromRaw [WordRange.between a b]

def fromCodePoint (c : UInt32) : Option WordSet := fromRange c c

def full : Option WordSet := fromRange 0 maxWord

/-- The ranges are given by pairs of ends, which may be reversed. -/
def fromRanges (ends : List (UInt32 × UInt32)) : Option WordSet :=
  fromRaw (ends.map fun pair => WordRange.between pair.1 pair.2)

/-- Inverted entries of a table are dropped. -/
def fromTable (table : List (UInt32 × UInt32)) : Option WordSet :=
  fromRaw ((table.filter fun pair => pair.1 ≤ pair.2 && pair.1 ≤ maxWord).map
    fun pair => ⟨pair.1, pair.2⟩)

def fromCodeRange (r : WordRange) : Option WordSet := fromRange r.lo r.hi

/-- The least range around `[lo, hi]` and the ranges at `low`, …, `high - 1`. -/
def absorb (s : WordSet) (low high : Nat) (lo hi : UInt32) : Option WordRange :=
  if low < high then do
    let first ← s[low]?
    let last ← s[high - 1]?
    some ⟨min lo first.lo, max hi last.hi⟩
  else some ⟨lo, hi⟩

def addRange (s : WordSet) (a b : UInt32) : Option WordSet :=
  let r := WordRange.between a b
  if maxWord < r.lo then some s
  else do
    let hi := min r.hi maxWord
    let after ← next? hi
    let low := partitionPoint (fun x : WordRange => nextSaturating x.hi < r.lo) s
    let high := partitionPoint (fun x : WordRange => x.lo ≤ after) s
    if low ≤ high ∧ high ≤ s.size then do
      let merged ← absorb s low high r.lo hi
      asserted (s.extract 0 low ++ #[merged] ++ s.extract high)
    else none

def addCodePoint (s : WordSet) (c : UInt32) : Option WordSet := addRange s c c

/-- The linear merge of two lists into `out`. -/
def mergeInto (out : WordSet) : List WordRange → List WordRange → WordSet
  | [], [] => out
  | r :: rs, [] => mergeInto (pushMerged out r) rs []
  | [], s :: ss => mergeInto (pushMerged out s) [] ss
  | r :: rs, s :: ss =>
    if r.lo ≤ s.lo then mergeInto (pushMerged out r) rs (s :: ss)
    else mergeInto (pushMerged out s) (r :: rs) ss
termination_by rs ss => rs.length + ss.length

def union (s t : WordSet) : Option WordSet := asserted (mergeInto #[] s.toList t.toList)

def unionWith (s t : WordSet) : Option WordSet := if t.isEmpty then some s else union s t

/-- The gap before `r` that starts at `next`, and the start of the gap after `r`. -/
def gapBefore (state : WordSet × UInt32) (r : WordRange) : Option (WordSet × UInt32) := do
  let out ←
    if state.2 < r.lo then do
      let last ← previous? r.lo
      some (state.1.push ⟨state.2, last⟩)
    else some state.1
  let next ← next? r.hi
  some (out, next)

/-- The gap after all ranges. -/
def lastGap (state : WordSet × UInt32) : WordSet :=
  if state.2 ≤ maxWord then state.1.push ⟨state.2, maxWord⟩ else state.1

def complement (s : WordSet) : Option WordSet := do
  let state ← s.toList.foldlM gapBefore (#[], 0)
  asserted (lastGap state)

/-- The overlaps of two lists in step, appended to `out`. -/
def meetInto (out : WordSet) : List WordRange → List WordRange → WordSet
  | [], _ => out
  | _, [] => out
  | r :: rs, s :: ss =>
    let met :=
      if max r.lo s.lo ≤ min r.hi s.hi then out.push ⟨max r.lo s.lo, min r.hi s.hi⟩ else out
    if r.hi < s.hi then meetInto met rs (s :: ss) else meetInto met (r :: rs) ss
termination_by rs ss => rs.length + ss.length

def intersection (s t : WordSet) : Option WordSet := asserted (meetInto #[] s.toList t.toList)

def difference (s t : WordSet) : Option WordSet :=
  if t.isEmpty then some s
  else do
    let rest ← complement t
    intersection s rest

end WordSet

end UnicodeClasses

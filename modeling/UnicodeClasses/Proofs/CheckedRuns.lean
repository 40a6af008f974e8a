import UnicodeClasses.Proofs.CheckedSweep
import UnicodeClasses.Proofs.CheckedInsertion

/-!
# Programs of set operations

A program is a list of steps over numbered registers, which hold the empty set at first. Run over
machine words with all checks, every program has a result, and each register holds in normal form
the set that the same program gives over code points.
-/
namespace UnicodeClasses

/-- The constructors and operations. Their arguments are arbitrary words and registers; the
operations in place take the target as an operand too. -/
inductive SetOperation
  | new
  | full
  | fromCodePoint (c : UInt32)
  | fromRange (a b : UInt32)
  | fromRanges (ends : List (UInt32 × UInt32))
  | collect (ends : List (UInt32 × UInt32))
  | fromTable (table : List (UInt32 × UInt32))
  | fromCodeRange (a b : UInt32)
  | addRange (a b : UInt32)
  | addCodePoint (c : UInt32)
  | union (left right : Nat)
  | unionWith (other : Nat)
  | intersection (left right : Nat)
  | difference (left right : Nat)
  | complement (operand : Nat)

structure SetStep where
  target : Nat
  operation : SetOperation

namespace SetOperation

def apply (registers : Nat → RangeSet) (target : Nat) : SetOperation → RangeSet
  | .new => ∅
  | .full => .full
  | .fromCodePoint c => .singleton c.toNat
  | .fromRange a b => .between a.toNat b.toNat
  | .fromRanges ends | .collect ends =>
    .ofRanges (ends.map fun pair => .between pair.1.toNat pair.2.toNat)
  | .fromTable table => .ofTable (table.map fun pair => (pair.1.toNat, pair.2.toNat))
  | .fromCodeRange a b => .ofRange (.between a.toNat b.toNat)
  | .addRange a b => (registers target).insertBetween a.toNat b.toNat
  | .addCodePoint c => (registers target).insert c.toNat
  | .union left right => registers left ∪ registers right
  | .unionWith other => (registers target).unionWith (registers other)
  | .intersection left right => registers left ∩ registers right
  | .difference left right => registers left \ registers right
  | .complement operand => (registers operand).complement

def applyChecked (registers : Nat → WordSet) (target : Nat) : SetOperation → Option WordSet
  | .new => some #[]
  | .full => WordSet.full
  | .fromCodePoint c => WordSet.fromCodePoint c
  | .fromRange a b => WordSet.fromRange a b
  | .fromRanges ends | .collect ends => WordSet.fromRanges ends
  | .fromTable table => WordSet.fromTable table
  | .fromCodeRange a b => WordSet.fromCodeRange (WordRange.between a b)
  | .addRange a b => WordSet.addRange (registers target) a b
  | .addCodePoint c => WordSet.addCodePoint (registers target) c
  | .union left right => WordSet.union (registers left) (registers right)
  | .unionWith other => WordSet.unionWith (registers target) (registers other)
  | .intersection left right => WordSet.intersection (registers left) (registers right)
  | .difference left right => WordSet.difference (registers left) (registers right)
  | .complement operand => WordSet.complement (registers operand)

theorem applyChecked_words (registers : Nat → RangeSet) (target : Nat)
    (operation : SetOperation) :
    operation.applyChecked (fun i => (registers i).words) target =
      some (operation.apply registers target).words := by
  cases operation with
  | new => rw [applyChecked, apply, RangeSet.words_empty]
  | full => exact WordSet.full_eq
  | fromCodePoint c => exact WordSet.fromRange_eq c c
  | fromRange a b => exact WordSet.fromRange_eq a b
  | fromRanges ends => exact WordSet.fromRanges_eq ends
  | collect ends => exact WordSet.fromRanges_eq ends
  | fromTable table => exact WordSet.fromTable_eq table
  | fromCodeRange a b => exact WordSet.fromCodeRange_eq a b
  | addRange a b => exact WordSet.addRange_words _ a b
  | addCodePoint c => exact WordSet.addRange_words _ c c
  | union left right => exact WordSet.union_words _ _
  | unionWith other => exact WordSet.unionWith_words _ _
  | intersection left right => exact WordSet.intersection_words _ _
  | difference left right => exact WordSet.difference_words _ _
  | complement operand => exact WordSet.complement_words _

end SetOperation

namespace SetStep

/-- The registers after a step; only the target changes. -/
def run (registers : Nat → RangeSet) (step : SetStep) : Nat → RangeSet := fun i =>
  if i = step.target then step.operation.apply registers step.target else registers i

def runChecked (registers : Nat → WordSet) (step : SetStep) : Option (Nat → WordSet) := do
  let result ← step.operation.applyChecked registers step.target
  some fun i => if i = step.target then result else registers i

/-- A step never fails, and keeps the registers the words of sets. -/
theorem runChecked_words (registers : Nat → RangeSet) (step : SetStep) :
    runChecked (fun i => (registers i).words) step =
      some fun i => (run registers step i).words := by
  rw [runChecked, SetOperation.applyChecked_words, Option.bind_eq_bind, Option.bind_some]
  congr 1
  funext i
  rw [run]
  split <;> rfl

theorem foldlM_runChecked (registers : Nat → RangeSet) (program : List SetStep) :
    program.foldlM runChecked (fun i => (registers i).words) =
      some fun i => (program.foldl run registers i).words := by
  induction program generalizing registers with
  | nil => rfl
  | cons step program ih =>
    rw [List.foldlM_cons, runChecked_words, Option.bind_eq_bind, Option.bind_some]
    exact ih (run registers step)

end SetStep

/-- The registers after a program, over code points. -/
def runSteps (program : List SetStep) : Nat → RangeSet := program.foldl SetStep.run fun _ => ∅

/-- The registers after a program, over machine words and with all checks. -/
def runStepsChecked (program : List SetStep) : Option (Nat → WordSet) :=
  program.foldlM SetStep.runChecked fun _ => #[]

theorem runStepsChecked_eq (program : List SetStep) :
    runStepsChecked program = some fun i => (runSteps program i).words := by
  have := SetStep.foldlM_runChecked (fun _ => ∅) program
  rw [RangeSet.words_empty] at this
  exact this

/-- Every program runs without a failing check, overflow or index out of bounds, and leaves in
every register the words of a set, in normal form. -/
theorem runStepsChecked_normal (program : List SetStep) :
    ∃ registers, runStepsChecked program = some registers ∧
      ∀ i, registers i = (runSteps program i).words ∧
        (∀ r ∈ registers i, r.lo ≤ r.hi ∧ r.hi.toNat ≤ maxCodePoint) ∧
        (∀ k (h : k + 1 < (registers i).size),
          (registers i)[k].hi.toNat + 1 < (registers i)[k + 1].lo.toNat) ∧
        (registers i).isNormalized = true := by
  refine ⟨_, runStepsChecked_eq program, fun i => ?_⟩
  have hnormal := WordSet.normalWords_words (runSteps program i)
  exact ⟨rfl, fun r hr => ⟨UInt32.le_iff_toNat_le.mpr (hnormal.lo_le_hi r hr),
    hnormal.hi_le_max r hr⟩, hnormal.gap, WordSet.isNormalized_iff.mpr hnormal⟩

end UnicodeClasses

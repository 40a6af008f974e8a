import Mathlib.Logic.Basic
import UnicodeClasses.Proofs.CheckedRuns

/-!
# Members of sets

Which code points each constructor and operation gives, and, step after step, which ones a program
of set operations leaves in its registers.
-/
namespace UnicodeClasses

/-- The binary search for a code point answers whether a stored range covers it, and every
operation has the members that its arguments determine. Code points outside the domain are never
members. -/
theorem RangeSet.contains_laws (s t : RangeSet) (c : Nat) :
    (s.contains c = true ↔ ∃ r ∈ s.ranges, r.lo ≤ c ∧ c ≤ r.hi) ∧
    ((s ∪ t).contains c = true ↔ s.contains c = true ∨ t.contains c = true) ∧
    ((s.unionWith t).contains c = true ↔ s.contains c = true ∨ t.contains c = true) ∧
    ((s ∩ t).contains c = true ↔ s.contains c = true ∧ t.contains c = true) ∧
    ((s \ t).contains c = true ↔ s.contains c = true ∧ ¬ t.contains c = true) ∧
    (s.complement.contains c = true ↔ c ≤ maxCodePoint ∧ ¬ s.contains c = true) ∧
    (∀ rs : List CodeRange, (ofRanges rs).contains c = true ↔
      c ≤ maxCodePoint ∧ ∃ r ∈ rs, r.lo ≤ c ∧ c ≤ r.hi) ∧
    (∀ table : CodeTable, (ofTable table).contains c = true ↔
      c ≤ maxCodePoint ∧ ∃ entry ∈ table, entry.1 ≤ c ∧ c ≤ entry.2) ∧
    (∀ a b, (s.insertBetween a b).contains c = true ↔
      s.contains c = true ∨ c ≤ maxCodePoint ∧ min a b ≤ c ∧ c ≤ max a b) := by
  simp only [contains_iff]
  refine ⟨?_, mem_union, mem_unionWith, mem_inter, mem_diff, mem_complement, fun rs => ?_,
    fun table => ?_, fun a b => ?_⟩
  · simp only [mem_def, Covered, Array.mem_toList_iff, CodeRange.mem_iff]
  · rw [mem_ofRanges, and_comm]
    rfl
  · rw [mem_ofTable, and_comm]
  · rw [mem_insertBetween, and_comm (b := c ≤ maxCodePoint)]

namespace SetOperation

/-- The members of the result of an operation, from the members of the registers. -/
def Members (registers : Nat → Nat → Prop) (target : Nat) : SetOperation → Nat → Prop
  | .new, _ => False
  | .full, c => c ≤ maxCodePoint
  | .fromCodePoint a, c => c = a.toNat ∧ a.toNat ≤ maxCodePoint
  | .fromRange a b, c | .fromCodeRange a b, c =>
    (min a.toNat b.toNat ≤ c ∧ c ≤ max a.toNat b.toNat) ∧ c ≤ maxCodePoint
  | .fromRanges ends, c | .collect ends, c =>
    (∃ pair ∈ ends, min pair.1.toNat pair.2.toNat ≤ c ∧ c ≤ max pair.1.toNat pair.2.toNat) ∧
      c ≤ maxCodePoint
  | .fromTable table, c =>
    (∃ pair ∈ table, pair.1.toNat ≤ c ∧ c ≤ pair.2.toNat) ∧ c ≤ maxCodePoint
  | .addRange a b, c => registers target c ∨
      (min a.toNat b.toNat ≤ c ∧ c ≤ max a.toNat b.toNat) ∧ c ≤ maxCodePoint
  | .addCodePoint a, c => registers target c ∨ c = a.toNat ∧ a.toNat ≤ maxCodePoint
  | .union left right, c => registers left c ∨ registers right c
  | .unionWith other, c => registers target c ∨ registers other c
  | .intersection left right, c => registers left c ∧ registers right c
  | .difference left right, c => registers left c ∧ ¬ registers right c
  | .complement operand, c => c ≤ maxCodePoint ∧ ¬ registers operand c

theorem mem_ofEnds {ends : List (UInt32 × UInt32)} {c : Nat} :
    c ∈ RangeSet.ofRanges (ends.map fun pair => .between pair.1.toNat pair.2.toNat) ↔
      (∃ pair ∈ ends, min pair.1.toNat pair.2.toNat ≤ c ∧ c ≤ max pair.1.toNat pair.2.toNat) ∧
        c ≤ maxCodePoint := by
  simp only [RangeSet.mem_ofRanges, Covered, List.mem_map, exists_exists_and_eq_and,
    CodeRange.mem_between]

theorem mem_ofPairs {table : List (UInt32 × UInt32)} {c : Nat} :
    c ∈ RangeSet.ofTable (table.map fun pair => (pair.1.toNat, pair.2.toNat)) ↔
      (∃ pair ∈ table, pair.1.toNat ≤ c ∧ c ≤ pair.2.toNat) ∧ c ≤ maxCodePoint := by
  simp only [RangeSet.mem_ofTable, List.mem_map, exists_exists_and_eq_and]

theorem mem_apply (registers : Nat → RangeSet) (target : Nat) (operation : SetOperation)
    (c : Nat) : c ∈ operation.apply registers target ↔
      operation.Members (fun i c => c ∈ registers i) target c := by
  cases operation with
  | new => exact iff_of_false RangeSet.not_mem_empty id
  | full => exact RangeSet.mem_full
  | fromCodePoint a => exact RangeSet.mem_singleton
  | fromRange a b => exact RangeSet.mem_between
  | fromRanges ends => exact mem_ofEnds
  | collect ends => exact mem_ofEnds
  | fromTable table => exact mem_ofPairs
  | fromCodeRange a b =>
    refine RangeSet.mem_between.trans ?_
    simp only [CodeRange.between, Members]
    omega
  | addRange a b => exact RangeSet.mem_insertBetween
  | addCodePoint a => exact RangeSet.mem_insert
  | union left right => exact RangeSet.mem_union
  | unionWith other => exact RangeSet.mem_unionWith
  | intersection left right => exact RangeSet.mem_inter
  | difference left right => exact RangeSet.mem_diff
  | complement operand => exact RangeSet.mem_complement

end SetOperation

/-- The members of the registers after a step. -/
def SetStep.Members (registers : Nat → Nat → Prop) (step : SetStep) : Nat → Nat → Prop :=
  fun i => if i = step.target then step.operation.Members registers step.target else registers i

theorem SetStep.mem_run (registers : Nat → RangeSet) (step : SetStep) (i c : Nat) :
    c ∈ step.run registers i ↔ step.Members (fun i c => c ∈ registers i) i c := by
  unfold SetStep.run SetStep.Members
  split
  · exact SetOperation.mem_apply registers step.target step.operation c
  · rfl

/-- A program leaves the members that its steps determine one after another. -/
theorem mem_runSteps (program : List SetStep) (i c : Nat) :
    c ∈ runSteps program i ↔ program.foldl SetStep.Members (fun _ _ => False) i c := by
  suffices h : ∀ registers : Nat → RangeSet, c ∈ program.foldl SetStep.run registers i ↔
      program.foldl SetStep.Members (fun i c => c ∈ registers i) i c by
    refine (h fun _ => ∅).trans ?_
    simp
  intro registers
  induction program generalizing registers with
  | nil => rfl
  | cons step program ih =>
    rw [List.foldl_cons, List.foldl_cons, ih]
    simp only [SetStep.mem_run]

end UnicodeClasses

import UnicodeClasses.ClassBuilder

/-!
# A builder that is changed in place

The same builder with a tag for its stage beside the pending member, and each push as a sequence of
changes. A push that is refused stops there, and what it has changed by then stays changed. Tag and
pending member nevertheless always fit together, and the answers are those of the builder that
keeps both in one.
-/
namespace UnicodeClasses

inductive BuilderStage
  | start
  | value
  | range
  | complete
  deriving DecidableEq

inductive PendingMember
  | nothing
  | literal (code : Nat)
  | set
  deriving DecidableEq

structure TaggedBuilder where
  set : RangeSet := ∅
  stage : BuilderStage := .start
  pending : PendingMember := .nothing
  deriving DecidableEq

namespace TaggedBuilder

/-- Changes of a builder, up to an error; the changes made before the error are kept. -/
abbrev Edit := ExceptT CompileError (StateM TaggedBuilder)

def flushed (builder : TaggedBuilder) : TaggedBuilder :=
  match builder.pending with
  | .literal code => { builder with set := builder.set.insert code, pending := .nothing }
  | .nothing | .set => { builder with pending := .nothing }

def setPending (pending : PendingMember) : Edit Unit := modify ({ · with pending })

def setStage (stage : BuilderStage) : Edit Unit := modify ({ · with stage })

def pushRange (first last : Nat) : Edit Unit := do
  if last < first then throw (.ofCause .emptyRange)
  else
    modify fun builder => { builder with set := builder.set.insertBetween first last }
    setPending .nothing
    setStage .complete

def pushChar (code : Nat) : Edit Unit := do
  match (← get).stage with
  | .range =>
    match (← get).pending with
    | .literal first => pushRange first code
    | .nothing | .set => throw (.ofCause .setAtRangeStart)
  | .value =>
    modify flushed
    setPending (.literal code)
  | .start | .complete =>
    setPending (.literal code)
    setStage .value

def pushDash : Edit Unit := do
  match (← get).stage, (← get).pending with
  | .value, .literal _ => setStage .range
  | .value, _ => throw (.ofCause .setAtRangeStart)
  | _, _ => pushChar dashCode

def pushSet (members : RangeSet) : Edit Unit := do
  if (← get).stage = .range then throw (.ofCause .setAtRangeEnd)
  modify flushed
  modify fun builder => { builder with set := builder.set.unionWith members }
  setPending .set
  setStage .value

def push : ClassMember → Edit Unit
  | .char code => pushChar code
  | .dash => pushDash
  | .set members => pushSet members

/-- Pushes a member: the error, if there is one, and the builder as the push leaves it. -/
def offer (builder : TaggedBuilder) (member : ClassMember) : Option CompileError × TaggedBuilder :=
  match (push member).run.run builder with
  | (.ok _, next) => (none, next)
  | (.error e, next) => (some e, next)

def finish (builder : TaggedBuilder) (negated : Bool) : RangeSet :=
  let last := builder.flushed
  (if last.stage = .range then last.set.insert dashCode else last.set).negateIf negated

/-- The pending members that fit a stage. -/
inductive Fits : BuilderStage → PendingMember → Prop
  | start : Fits .start .nothing
  | literal (code : Nat) : Fits .value (.literal code)
  | set : Fits .value .set
  | range (code : Nat) : Fits .range (.literal code)
  | complete : Fits .complete .nothing

def Linked (builder : TaggedBuilder) : Prop := Fits builder.stage builder.pending

/-- The builder with stage and pending member in one. -/
def untag (builder : TaggedBuilder) : ClassBuilder :=
  ⟨builder.set, match builder.stage, builder.pending with
    | .value, .literal code => .literal code
    | .value, .set => .set
    | .range, .literal code => .rangeFrom code
    | _, _ => .nothing⟩

theorem linked_new : Linked {} := .start

/-- The ends of a range are compared before anything is changed. -/
theorem run_pushRange (first last : Nat) (builder : TaggedBuilder) :
    (pushRange first last).run.run builder =
      if last < first then (.error (.ofCause .emptyRange), builder)
      else (.ok (), ⟨builder.set.insertBetween first last, .complete, .nothing⟩) := by
  unfold pushRange
  split <;> rfl

theorem offer_char_range (set : RangeSet) (first code : Nat) :
    offer ⟨set, .range, .literal first⟩ (.char code) =
      if code < first then (some (.ofCause .emptyRange), ⟨set, .range, .literal first⟩)
      else (none, ⟨set.insertBetween first code, .complete, .nothing⟩) := by
  have hrun : (push (.char code)).run.run ⟨set, .range, .literal first⟩ = _ :=
    run_pushRange first code ⟨set, .range, .literal first⟩
  rw [offer, hrun]
  split <;> split <;> simp_all

/-- Where a tagged builder and the builder that it stands for are offered the same member, both
answer alike and the one stands for the other again. A refusal changes nothing. -/
structure Agrees (builder : TaggedBuilder) (member : ClassMember) : Prop where
  answer : (builder.offer member).1 = (builder.untag.offer member).1
  untag : (builder.offer member).2.untag = (builder.untag.offer member).2
  linked : (builder.offer member).2.Linked
  unchanged : ∀ e, (builder.offer member).1 = some e → (builder.offer member).2 = builder

variable {builder : TaggedBuilder} {member : ClassMember}

theorem Agrees.of_eq {answer : Option CompileError} {next : TaggedBuilder}
    (htagged : builder.offer member = (answer, next))
    (huntagged : builder.untag.offer member = (answer, next.untag)) (hlinked : next.Linked)
    (hrefused : ∀ e, answer = some e → next = builder) : builder.Agrees member := by
  constructor
  · rw [htagged, huntagged]
  · rw [htagged, huntagged]
  · rwa [htagged]
  · rwa [htagged]

theorem agrees_range (set : RangeSet) (first code : Nat) :
    Agrees ⟨set, .range, .literal first⟩ (.char code) := by
  have htagged := offer_char_range set first code
  by_cases hlt : code < first
  · rw [if_pos hlt] at htagged
    refine .of_eq htagged ?_ (.range first) fun _ _ => rfl
    simp [TaggedBuilder.untag, ClassBuilder.offer, ClassBuilder.push, ClassBuilder.pushChar, hlt]
  · rw [if_neg hlt] at htagged
    refine .of_eq htagged ?_ .complete nofun
    simp [TaggedBuilder.untag, ClassBuilder.offer, ClassBuilder.push, ClassBuilder.pushChar, hlt]

theorem agrees_char (h : builder.Linked) (code : Nat) : builder.Agrees (.char code) := by
  obtain ⟨set, stage, pending⟩ := builder
  cases h with
  | range first => exact agrees_range set first code
  | _ => exact ⟨rfl, rfl, .literal code, nofun⟩

theorem agrees_dash (h : builder.Linked) : builder.Agrees .dash := by
  obtain ⟨set, stage, pending⟩ := builder
  cases h with
  | start | complete => exact ⟨rfl, rfl, .literal dashCode, nofun⟩
  | literal code => exact ⟨rfl, rfl, .range code, nofun⟩
  | set => exact ⟨rfl, rfl, .set, fun _ _ => rfl⟩
  | range first =>
    obtain ⟨hanswer, huntag, hlinked, hunchanged⟩ := agrees_range set first dashCode
    exact ⟨hanswer, huntag, hlinked, hunchanged⟩

theorem agrees_set (h : builder.Linked) (members : RangeSet) : builder.Agrees (.set members) := by
  obtain ⟨set, stage, pending⟩ := builder
  cases h with
  | range first => exact ⟨rfl, rfl, .range first, fun _ _ => rfl⟩
  | _ => exact ⟨rfl, rfl, .set, nofun⟩

theorem agrees (h : builder.Linked) (member : ClassMember) : builder.Agrees member := by
  cases member with
  | char code => exact agrees_char h code
  | dash => exact agrees_dash h
  | set members => exact agrees_set h members

theorem finish_untag (h : builder.Linked) (negated : Bool) :
    builder.finish negated = builder.untag.finish negated := by
  obtain ⟨set, stage, pending⟩ := builder
  cases h <;> rfl

end TaggedBuilder
end UnicodeClasses

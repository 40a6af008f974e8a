import UnicodeClasses.CompileError
import UnicodeClasses.RangeSet

/-!
# Collecting the members of a class

Members arrive one at a time. A literal stays pending until the next member shows whether a dash
after it is a range operator.
-/
namespace UnicodeClasses

inductive ClassMember
  | char (code : Nat)
  | dash
  | set (members : RangeSet)

/-- What the next member may still attach to. -/
inductive Pending
  | nothing
  | literal (code : Nat)
  | set
  | rangeFrom (code : Nat)
  deriving DecidableEq

structure ClassBuilder where
  set : RangeSet := ∅
  pending : Pending := .nothing
  deriving DecidableEq

def dashCode : Nat := 0x2D

namespace ClassBuilder

/-- The members so far, with the pending literal. -/
def flushed (builder : ClassBuilder) : RangeSet :=
  match builder.pending with
  | .literal code | .rangeFrom code => builder.set.insert code
  | .nothing | .set => builder.set

def pushChar (builder : ClassBuilder) (code : Nat) : Except CompileError ClassBuilder :=
  match builder.pending with
  | .rangeFrom first =>
    if code < first then .error (.ofCause .emptyRange)
    else .ok ⟨builder.set.insertBetween first code, .nothing⟩
  | _ => .ok ⟨builder.flushed, .literal code⟩

/-- A dash is a range operator after a literal, and a literal at the start, after a range or as
the end of a range. -/
def pushDash (builder : ClassBuilder) : Except CompileError ClassBuilder :=
  match builder.pending with
  | .literal code => .ok ⟨builder.set, .rangeFrom code⟩
  | .set => .error (.ofCause .setAtRangeStart)
  | _ => builder.pushChar dashCode

def pushSet (builder : ClassBuilder) (members : RangeSet) : Except CompileError ClassBuilder :=
  match builder.pending with
  | .rangeFrom _ => .error (.ofCause .setAtRangeEnd)
  | _ => .ok ⟨builder.flushed.unionWith members, .set⟩

def push (builder : ClassBuilder) : ClassMember → Except CompileError ClassBuilder
  | .char code => builder.pushChar code
  | .dash => builder.pushDash
  | .set members => builder.pushSet members

/-- Pushes members in order, up to the first that is refused. -/
def pushAll (builder : ClassBuilder) (members : List ClassMember) :
    Except CompileError ClassBuilder :=
  members.foldlM push builder

/-- Pushes a member if it is accepted; a refused member leaves the builder as it was. -/
def offer (builder : ClassBuilder) (member : ClassMember) : Option CompileError × ClassBuilder :=
  match builder.push member with
  | .ok next => (none, next)
  | .error e => (some e, builder)

/-- All members before negation; a range operator without an end is a literal dash. -/
def members (builder : ClassBuilder) : RangeSet :=
  match builder.pending with
  | .rangeFrom _ => builder.flushed.insert dashCode
  | _ => builder.flushed

def finish (builder : ClassBuilder) (negated : Bool) : RangeSet :=
  builder.members.negateIf negated

theorem pushAll_nil (builder : ClassBuilder) : builder.pushAll [] = .ok builder := rfl

theorem pushAll_cons (builder : ClassBuilder) (member : ClassMember)
    (rest : List ClassMember) :
    builder.pushAll (member :: rest) = builder.push member >>= (·.pushAll rest) :=
  List.foldlM_cons

theorem mem_finish {builder : ClassBuilder} {negated : Bool} {c : Nat} :
    c ∈ builder.finish negated ↔ c ≤ maxCodePoint ∧ (c ∈ builder.members ↔ negated = false) := by
  rw [finish, RangeSet.mem_negateIf]

end ClassBuilder

end UnicodeClasses

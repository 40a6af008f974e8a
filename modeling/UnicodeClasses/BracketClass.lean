import UnicodeClasses.ClassBuilder
import UnicodeClasses.ClassItem
import UnicodeClasses.Resolution

/-!
# Bracket expressions

A bracket expression is read item by item, each item is resolved and pushed before the next one
is read, and the result is complemented once if the expression is negated.
-/
namespace UnicodeClasses

/-- The member that an item contributes. -/
def ClassItem.member (registry : Registry) : ClassItem → Except CompileError ClassMember
  | .char code => .ok (.char code)
  | .dash => .ok .dash
  | .shorthand kind negated => .ok (.set (kind.set.negateIf negated))
  | .property escape => (registry.resolve escape).map .set

/-- What an item leaves in the log when it is resolved. -/
def ClassItem.log (registry : Registry) : ClassItem → List LogRecord
  | .property escape => registry.resolveLog escape
  | _ => []

namespace ClassBuilder

def pushItem (registry : Registry) (builder : ClassBuilder) (item : ClassItem) :
    Except CompileError ClassBuilder := do
  builder.push (← item.member registry)

def pushItems (registry : Registry) (builder : ClassBuilder) (items : List ClassItem) :
    Except CompileError ClassBuilder :=
  items.foldlM (pushItem registry) builder

/-- Reads items up to the closing bracket and pushes each as soon as it is read; also gives the
text after the bracket. -/
def collect (registry : Registry) (options : Options) (builder : ClassBuilder) :
    List Char → Except CompileError (ClassBuilder × List Char)
  | [] => .error (.ofCause .unclosedClass)
  | ']' :: rest => .ok (builder, rest)
  | c :: text =>
    match _ : ClassItem.read options c text with
    | .error e => .error e
    | .ok (item, rest) =>
      match builder.pushItem registry item with
      | .error e => .error e
      | .ok next => collect registry options next rest
termination_by text => text.length
decreasing_by
  have := ClassItem.shrinks_read options c text item rest ‹_›
  simp only [List.length_cons]
  omega

theorem collect_nil (registry : Registry) (options : Options) (builder : ClassBuilder) :
    collect registry options builder [] = .error (.ofCause .unclosedClass) := by
  rw [collect]

theorem collect_close (registry : Registry) (options : Options) (builder : ClassBuilder)
    (rest : List Char) : collect registry options builder (']' :: rest) = .ok (builder, rest) := by
  rw [collect]

theorem collect_cons (registry : Registry) (options : Options) (builder : ClassBuilder) {c : Char}
    (hc : c ≠ ']') (text : List Char) :
    collect registry options builder (c :: text) =
      ClassItem.read options c text >>= fun (item, rest) =>
        builder.pushItem registry item >>= fun next => collect registry options next rest := by
  rw [collect]
  · split
    · rename_i hread
      rw [hread]
      rfl
    · rename_i hread
      rw [hread]
      show _ = builder.pushItem registry _ >>= fun next => collect registry options next _
      split
      · rename_i hpush
        rw [hpush]
        rfl
      · rename_i hpush
        rw [hpush]
        rfl
  · exact hc

theorem collect_ok {registry : Registry} {options : Options} {builder next : ClassBuilder}
    {c : Char} {text rest : List Char} {item : ClassItem} (hc : c ≠ ']')
    (hread : ClassItem.read options c text = .ok (item, rest))
    (hpush : builder.pushItem registry item = .ok next) :
    collect registry options builder (c :: text) = collect registry options next rest := by
  rw [collect_cons _ _ _ hc, hread]
  exact congrArg (· >>= (collect registry options · rest)) hpush

/-- Pushing while reading gives what reading everything first and pushing afterwards would give:
an error of reading counts only once all items before it are pushed. -/
theorem collect_eq (registry : Registry) (options : Options) (builder : ClassBuilder)
    (text : List Char) :
    collect registry options builder text = do
      let last ← pushItems registry builder (ClassItem.readAll options text).1
      let rest ← (ClassItem.readAll options text).2
      return (last, rest) := by
  fun_induction collect registry options builder text with
  | case1 builder =>
    rw [ClassItem.readAll_nil]
    rfl
  | case2 builder rest =>
    rw [ClassItem.readAll_close]
    rfl
  | case3 builder c text hc e hread =>
    rw [ClassItem.readAll_error hc hread]
    rfl
  | case4 builder c text hc item rest hread e hpush =>
    rw [ClassItem.readAll_ok hc hread]
    simp only [pushItems, List.foldlM_cons, hpush]
    rfl
  | case5 builder c text hc item rest hread next hpush ih =>
    rw [ClassItem.readAll_ok hc hread, ih]
    simp only [pushItems, List.foldlM_cons, hpush]
    rfl

/-- The log of collecting items, which ends with the first item that is refused. -/
def pushLog (registry : Registry) (builder : ClassBuilder) : List ClassItem → List LogRecord
  | [] => []
  | item :: items =>
    item.log registry ++
      match builder.pushItem registry item with
      | .ok builder => pushLog registry builder items
      | .error _ => []

end ClassBuilder

structure BracketClass where
  /-- The code points matched, negation included. -/
  set : RangeSet
  negated : Bool
  /-- Bytes up to the closing bracket and including it. -/
  length : Nat
  deriving DecidableEq

namespace BracketClass

/-- The text between the brackets and whether the expression is negated. -/
def opened? : List Char → Option (Bool × List Char)
  | '[' :: '^' :: text => some (true, text)
  | '[' :: text => some (false, text)
  | _ => none

/-- Reads the bracket expression at the start of a text, and gives the text after it. -/
def read (registry : Registry) (options : Options) (text : List Char) :
    Except CompileError (BracketClass × List Char) :=
  match opened? text with
  | none => .error (.ofCause .notAClass)
  | some (negated, body) => do
    let (builder, rest) ← ClassBuilder.collect registry options {} body
    return (⟨builder.finish negated, negated, byteSize text - byteSize rest⟩, rest)

def readLog (registry : Registry) (options : Options) (text : List Char) : List LogRecord :=
  match opened? text with
  | none => []
  | some (_, body) => ClassBuilder.pushLog registry {} (ClassItem.readAll options body).1

end BracketClass

end UnicodeClasses

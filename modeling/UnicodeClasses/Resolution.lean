import UnicodeClasses.LogRecord
import UnicodeClasses.Options

/-!
# Resolving property escapes

A lone name is looked up as a shorthand; a name with a value must be an enumerated property and
one of its values. Negation is applied last.
-/
namespace UnicodeClasses

namespace Registry

/-- The set that a token names. -/
def tokenSet (registry : Registry) : PropertyToken → Except CompileError RangeSet
  | .lone name =>
    match registry.shorthand? name with
    | some set => .ok set
    | none => .error (.unknownShorthand name)
  | .pair name value =>
    match registry.findProperty? name with
    | none => .error (.unknownName name)
    | some property =>
      match registry.findValue? property value with
      | none => .error (.unknownValue name value)
      | some id => registry.valueSet property id

def resolve (registry : Registry) (escape : PropertyEscape) : Except CompileError RangeSet :=
  (registry.tokenSet escape.token).map (.negateIf escape.negated)

/-- A resolution is recorded only when it succeeds. -/
def resolveLog (registry : Registry) (escape : PropertyEscape) : List LogRecord :=
  match registry.resolve escape with
  | .ok set => [escape.resolvedRecord set]
  | .error _ => []

end Registry

/-- A property escape with the code points that it matches. -/
structure CompiledEscape where
  escape : PropertyEscape
  set : RangeSet

namespace CompiledEscape

/-- Compiles the property escape at the start of a text, and gives the text after it. There is
none outside Unicode mode, nor in a text that does not start with `\p` or `\P`. -/
def read? (registry : Registry) (options : Options) (text : List Char) :
    Except CompileError (Option (CompiledEscape × List Char)) :=
  if !options.unicode then .ok none
  else
    match PropertyEscape.scan options.nameLimit text with
    | .error e => .error e
    | .ok none => .ok none
    | .ok (some (escape, rest)) =>
      (registry.resolve escape).map fun set => some (⟨escape, set⟩, rest)

/-- An escape compiles in Unicode mode if it is well formed and its names resolve. -/
theorem read?_eq_some {registry : Registry} {options : Options} {text rest : List Char}
    {compiled : CompiledEscape} :
    read? registry options text = .ok (some (compiled, rest)) ↔
      options.unicode = true ∧
      PropertyEscape.scan options.nameLimit text = .ok (some (compiled.escape, rest)) ∧
      registry.resolve compiled.escape = .ok compiled.set := by
  unfold read?
  cases options.unicode with
  | false => simp
  | true =>
    simp only [Bool.not_true, Bool.false_eq_true, if_false, true_and]
    constructor
    · intro h
      split at h
      · exact nomatch h
      · exact nomatch h
      · rename_i escape after hscan
        obtain ⟨set, hset, hpair⟩ := map_eq_ok_iff.mp h
        obtain ⟨rfl, rfl⟩ := Prod.mk.inj (Option.some.inj hpair)
        exact ⟨hscan, hset⟩
    · rintro ⟨hscan, hset⟩
      rw [hscan]
      exact map_eq_ok_iff.mpr ⟨compiled.set, hset, rfl⟩

def readLog (registry : Registry) (options : Options) (text : List Char) : List LogRecord :=
  match read? registry options text with
  | .ok (some (compiled, _)) => [compiled.escape.resolvedRecord compiled.set]
  | _ => []

end CompiledEscape

end UnicodeClasses

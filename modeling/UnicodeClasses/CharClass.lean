import UnicodeClasses.BracketClass

/-!
# Character classes

A pattern is exactly one bracket expression or one property escape. A compiled class is searched
for in text, character by character.
-/
namespace UnicodeClasses

structure CharClass where
  set : RangeSet
  deriving DecidableEq

/-- A member character in a text; offsets count bytes. -/
structure Match where
  start : Nat
  stop : Nat
  char : Char
  deriving DecidableEq, Repr

def Match.length (found : Match) : Nat := found.stop - found.start

def Match.isEmpty (found : Match) : Bool := found.start == found.stop

namespace CharClass

/-- The code points that the start of a pattern describes, and the text after it. -/
def readSet (registry : Registry) (options : Options) (pattern : List Char) :
    Except CompileError (RangeSet × List Char) :=
  if pattern.head? == some '[' then
    (BracketClass.read registry options pattern).map fun (bracket, rest) => (bracket.set, rest)
  else
    match CompiledEscape.read? registry options pattern with
    | .error e => .error e
    | .ok none => .error (.ofCause .notAClass)
    | .ok (some (compiled, rest)) => .ok (compiled.set, rest)

def compile (registry : Registry) (options : Options) (pattern : String) :
    Except CompileError CharClass :=
  match readSet registry options pattern.toList with
  | .error e => .error e
  | .ok (set, []) => .ok ⟨set⟩
  | .ok (_, c :: rest) => .error (.ofCauseAbout .trailingText (String.ofList (c :: rest)))

def compileLog (registry : Registry) (options : Options) (pattern : String) : List LogRecord :=
  if pattern.toList.head? == some '[' then
    BracketClass.readLog registry options pattern.toList
  else CompiledEscape.readLog registry options pattern.toList

/-- The first member in a text that begins at an offset, and the text after it. -/
def findFrom (c : CharClass) (offset : Nat) : List Char → Option (Match × List Char)
  | [] => none
  | x :: text =>
    if c.set.contains x.toNat then some (⟨offset, offset + x.utf8Size, x⟩, text)
    else findFrom c (offset + x.utf8Size) text

theorem length_of_findFrom {c : CharClass} {offset : Nat} {text rest : List Char} {found : Match}
    (h : findFrom c offset text = some (found, rest)) : rest.length < text.length := by
  induction text generalizing offset with
  | nil => exact nomatch h
  | cons x text ih =>
    unfold findFrom at h
    split at h
    · obtain ⟨_, rfl⟩ := Prod.mk.inj (Option.some.inj h)
      exact Nat.lt_succ_self _
    · exact Nat.lt_succ_of_lt (ih h)

/-- Every member in a text that begins at an offset; each search resumes after the last match. -/
def matchesFrom (c : CharClass) (offset : Nat) (text : List Char) : List Match :=
  match _ : findFrom c offset text with
  | none => []
  | some (found, rest) => found :: matchesFrom c found.stop rest
termination_by text.length
decreasing_by exact length_of_findFrom ‹_›

theorem matchesFrom_of_none {c : CharClass} {offset : Nat} {text : List Char}
    (h : findFrom c offset text = none) : matchesFrom c offset text = [] := by
  rw [matchesFrom]
  split <;> simp_all

theorem matchesFrom_of_some {c : CharClass} {offset : Nat} {text rest : List Char} {found : Match}
    (h : findFrom c offset text = some (found, rest)) :
    matchesFrom c offset text = found :: matchesFrom c found.stop rest := by
  rw [matchesFrom]
  split <;> simp_all

def find? (c : CharClass) (text : String) : Option Match :=
  (c.findFrom 0 text.toList).map (·.1)

def matchesIn (c : CharClass) (text : String) : List Match := c.matchesFrom 0 text.toList

def isMatch (c : CharClass) (text : String) : Bool :=
  text.toList.any fun x => c.set.contains x.toNat

end CharClass

end UnicodeClasses

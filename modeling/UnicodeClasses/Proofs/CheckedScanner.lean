import UnicodeClasses.BracketClass
import UnicodeClasses.Proofs.ByteOffsets

/-!
# Scanning at byte positions

A second account of how a bracket expression is read. The text stays whole, and a position in bytes
moves over it: by the size of a character, by a count of digits, to the end of an escape whose
length is known, and back to a position that was saved. Every cut, every index and every move is
checked, and a check that fails is an outcome of its own, apart from the refusals of the readers.
-/
namespace UnicodeClasses

inductive ScanFault
  /-- A cut, an index or a move behind the end of a text or into a character. -/
  | outOfBounds
  | refused (e : CompileError)

/-- A scan carries the position along. -/
abbrev Scan := StateT Nat (Except ScanFault)

namespace Scan
open ClassItem

section Checks

variable {m : Type → Type} [Monad m] [MonadExceptOf ScanFault m] {α : Type}

def refuse (e : CompileError) : m α := throw (.refused e)

/-- The value of a check, or a fault where the check fails. -/
def checked : Option α → m α
  | some a => pure a
  | none => throw .outOfBounds

def lift : Except CompileError α → m α
  | .ok a => pure a
  | .error e => refuse e

end Checks

section Moves

variable (text : List Char)

def cutAt (pos : Nat) : Scan (List Char) := checked (sliceFrom? text pos)

/-- The text from the position on. -/
def remaining : Scan (List Char) := do
  cutAt text (← get)

/-- Moves to a position where the text can be cut. No position changes in any other way. -/
def moveTo (pos : Nat) : Scan Unit := do
  let _ ← cutAt text pos
  set pos

def advance (bytes : Nat) : Scan Unit := do
  moveTo text ((← get) + bytes)

/-- The position one byte back. -/
def previous : Scan Nat := do
  let pos ← get
  checked (if 1 ≤ pos then some (pos - 1) else none)

def peek : Scan (Option Char) := do
  let rest ← remaining text
  return rest.head?

def nextChar : Scan (Option Char) := do
  match ← peek text with
  | none => return none
  | some c =>
    advance text c.utf8Size
    return some c

end Moves

section Items

variable (options : Options) (text : List Char)

/-- Takes exactly `count` hexadecimal digits, or nothing. -/
def scanHex (count : Nat) : Scan (Option Nat) := do
  let pos ← get
  match (slice? text pos (pos + count)).bind hexNumber? with
  | none => return none
  | some value =>
    advance text count
    return some value

def scanIdentity (c : Char) : Scan ClassItem :=
  if options.unicode then refuse (invalidEscape c) else return .char c.toNat

def scanNull : Scan ClassItem := do
  if options.unicode && (← peek text).any Char.isDigit then refuse (invalidEscape '0')
  else return .char 0

def scanControl : Scan ClassItem := do
  match ← peek text with
  | none => scanIdentity options 'c'
  | some letter =>
    if letter.isAlpha then do
      advance text 1
      return .char (letter.toNat % 32)
    else scanIdentity options 'c'

def scanByte : Scan ClassItem := do
  match ← scanHex text 2 with
  | none => scanIdentity options 'x'
  | some code => return .char code

/-- Takes an escaped trail surrogate. The position is saved before the digits are looked for, and
restored unless they are taken. -/
def scanTrail : Scan (Option Nat) := do
  let rest ← remaining text
  if ['\\', 'u'].isPrefixOf rest then do
    let saved ← get
    advance text 2
    match (← scanHex text 4).filter isTrail with
    | some trail => return some trail
    | none =>
      moveTo text saved
      return none
  else return none

/-- The four digits of a code unit, and after a lead surrogate those of its trail surrogate. -/
def scanUnit : Scan (Option Nat) := do
  match ← scanHex text 4 with
  | none => return none
  | some lead =>
    if options.unicode && isLead lead then do
      match ← scanTrail text with
      | some trail => return some (joinSurrogates lead trail)
      | none => return some lead
    else return some lead

def scanUnitEscape : Scan ClassItem := do
  match ← scanUnit options text with
  | none => scanIdentity options 'u'
  | some code => return .char code

/-- The braces of a code point, with the offset of the closing one found by a search through the
text behind the opening one. -/
def scanBraced : Scan ClassItem := do
  let rest ← cutAt text ((← get) + 1)
  match (splitAt? '}' rest).map fun (before, _) => byteSize before with
  | none => refuse (invalidEscape 'u')
  | some close =>
    let body ← checked (slice? rest 0 close)
    match body.mapM hexDigit? with
    | none | some [] => refuse (invalidEscape 'u')
    | some digits =>
      match codePoint? digits with
      | none => refuse (.ofCause .codePointTooLarge)
      | some code => do
        advance text (1 + close + 1)
        return .char code

def scanCodePoint : Scan ClassItem := do
  if options.unicode && (← peek text) == some '{' then scanBraced text
  else scanUnitEscape options text

/-- Reads the braces of the property escape at the start of a text by their bytes, from the third
on; also gives the bytes that the escape takes. -/
def scanBraces (limit : Nat) (negated : Bool) (text : List Char) :
    Except ScanFault (PropertyEscape × Nat) := do
  let bytes := bytesOf text
  if bytes[2]? != some (byteOf '{') then refuse (.ofCause .missingBrace)
  else
    let following ← checked (if 3 ≤ bytes.length then some (bytes.drop 3) else none)
    match following.idxOf? (byteOf '}') with
    | none => refuse (.ofCause .unclosedBrace)
    | some close =>
      let body ← checked (slice? text 3 (3 + close))
      let token ← lift (PropertyEscape.readToken limit body)
      return (⟨negated, token⟩, 3 + close + 1)

/-- Reads a property escape at the start of a text, unless its first two bytes are others. -/
def scanProperty (limit : Nat) (text : List Char) :
    Except ScanFault (Option (PropertyEscape × Nat)) := do
  let bytes := bytesOf text
  if bytes.length < 2 then return none
  else
    let first ← checked bytes[0]?
    let second ← checked bytes[1]?
    if first != byteOf '\\' || !(second == byteOf 'p' || second == byteOf 'P') then return none
    else
      let escape ← scanBraces limit (second == byteOf 'P') text
      return some escape

/-- A property escape is read from its backslash on, and the position moves to its end. -/
def scanPropertyAt (start : Nat) (c : Char) : Scan ClassItem := do
  match ← scanProperty options.nameLimit (← cutAt text start) with
  | none => refuse (invalidEscape c)
  | some (escape, length) =>
    moveTo text (start + length)
    return .property escape

def scanLetter (c : Char) : Scan ClassItem :=
  match c with
  | '0' => scanNull options text
  | 'c' => scanControl options text
  | 'x' => scanByte options text
  | 'u' => scanCodePoint options text
  | c =>
    if patternChars.contains c then return .char c.toNat else scanIdentity options c

/-- Scans an escape from behind its backslash. -/
def scanEscape : Scan ClassItem := do
  let start ← previous
  match ← nextChar text with
  | none => refuse (.ofCause .unfinishedEscape)
  | some c =>
    if options.unicode && (c == 'p' || c == 'P') then scanPropertyAt options text start c
    else
      match shorthand? c, controlCode? c with
      | some item, _ => return item
      | none, some code => return .char code
      | none, none => scanLetter options text c

/-- Scans an item from behind its first character. -/
def scanItem (c : Char) : Scan ClassItem :=
  match c with
  | '\\' => scanEscape options text
  | '-' => do
    if (← peek text) == some ']' then return .char '-'.toNat else return .dash
  | c => return .char c.toNat

end Items

/-- Scans the opening bracket and the sign of a negation. -/
def opening (text : List Char) : Scan Bool := do
  if text.head? != some '[' then refuse (.ofCause .notAClass)
  else do
    moveTo text 1
    if (← peek text) == some '^' then do
      advance text 1
      return true
    else return false

section Runs

variable (registry : Registry) (options : Options) (text : List Char)

/-- One turn of the loop over the members. It gives no builder at the closing bracket. -/
def turn (builder : ClassBuilder) : Scan (Option ClassBuilder) := do
  match ← nextChar text with
  | none => refuse (.ofCause .unclosedClass)
  | some c =>
    if c = ']' then return none
    else do
      let item ← scanItem options text c
      let next ← lift (builder.pushItem registry item)
      return some next

/-- The loop over the members, from a builder and a position on. It has run through the positions
`trail`, before its first turn and after each, and has ended with an outcome. -/
inductive Runs : ClassBuilder → Nat → List Nat → Except ScanFault (ClassBuilder × Nat) → Prop
  | fault {builder pos e} (h : (turn registry options text builder).run pos = .error e) :
    Runs builder pos [pos] (.error e)
  | closed {builder pos stop}
    (h : (turn registry options text builder).run pos = .ok (none, stop)) :
    Runs builder pos [pos, stop] (.ok (builder, stop))
  | member {builder next pos stop trail outcome}
    (h : (turn registry options text builder).run pos = .ok (some next, stop))
    (hrun : Runs next stop trail outcome) : Runs builder pos (pos :: trail) outcome

/-- A scan of the whole expression: the positions of its loop and its outcome. -/
inductive Scans : List Nat → Except ScanFault BracketClass → Prop
  | unopened {e} (h : (opening text).run 0 = .error e) : Scans [] (.error e)
  | opened {negated pos trail outcome} (h : (opening text).run 0 = .ok (negated, pos))
    (hrun : Runs registry options text {} pos trail outcome) :
    Scans trail (outcome.map fun (builder, stop) => ⟨builder.finish negated, negated, stop⟩)

end Runs

end Scan
end UnicodeClasses

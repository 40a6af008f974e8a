import UnicodeClasses.Hexadecimal
import UnicodeClasses.Options
import UnicodeClasses.PropertyEscape
import UnicodeClasses.RangeSet

/-!
# The items of a bracket expression

The text between the brackets is cut into items before any of them is interpreted. Outside
Unicode mode an escape without a meaning stands for its letter; in Unicode mode it is refused.
-/
namespace UnicodeClasses

inductive Shorthand
  | digit
  | space
  | word
  deriving DecidableEq, Repr

def Shorthand.table : Shorthand → CodeTable
  | digit => [(0x30, 0x39)]
  | space =>
    [(0x09, 0x0D), (0x20, 0x20), (0xA0, 0xA0), (0x1680, 0x1680), (0x2000, 0x200A),
      (0x2028, 0x2029), (0x202F, 0x202F), (0x205F, 0x205F), (0x3000, 0x3000), (0xFEFF, 0xFEFF)]
  | word => [(0x30, 0x39), (0x41, 0x5A), (0x5F, 0x5F), (0x61, 0x7A)]

def Shorthand.set (shorthand : Shorthand) : RangeSet := .ofTable shorthand.table

/-- The code points that a shorthand stands for: decimal digits, white space with line terminators,
and the characters of words. -/
def Shorthand.Matches : Shorthand → Nat → Prop
  | digit, c => 0x30 ≤ c ∧ c ≤ 0x39
  | space, c => 0x09 ≤ c ∧ c ≤ 0x0D ∨ c = 0x20 ∨ c = 0xA0 ∨ c = 0x1680 ∨ 0x2000 ≤ c ∧ c ≤ 0x200A ∨
      0x2028 ≤ c ∧ c ≤ 0x2029 ∨ c = 0x202F ∨ c = 0x205F ∨ c = 0x3000 ∨ c = 0xFEFF
  | word, c => 0x30 ≤ c ∧ c ≤ 0x39 ∨ 0x41 ≤ c ∧ c ≤ 0x5A ∨ c = 0x5F ∨ 0x61 ≤ c ∧ c ≤ 0x7A

theorem Shorthand.mem_set {shorthand : Shorthand} {c : Nat} :
    c ∈ shorthand.set ↔ shorthand.Matches c := by
  rw [set, RangeSet.mem_ofTable]
  cases shorthand <;>
    simp only [table, Matches, maxCodePoint, List.mem_cons, List.not_mem_nil, or_false,
      exists_eq_or_imp, exists_eq_left] <;>
    omega

theorem Shorthand.mem_negateIf {shorthand : Shorthand} {negated : Bool} {c : Nat} :
    c ∈ shorthand.set.negateIf negated ↔
      c ≤ maxCodePoint ∧ (shorthand.Matches c ↔ negated = false) := by
  rw [RangeSet.mem_negateIf, mem_set]

inductive ClassItem
  | char (code : Nat)
  | dash
  | shorthand (kind : Shorthand) (negated : Bool)
  | property (escape : PropertyEscape)
  deriving DecidableEq, Repr

namespace ClassItem

/-- A read item and the text after it. -/
abbrev Reading := Except CompileError (ClassItem × List Char)

def invalidEscape (c : Char) : CompileError := .ofCauseAbout .invalidEscape c.toString

/-- An escape without a meaning. -/
def readIdentity (options : Options) (c : Char) (text : List Char) : Reading :=
  if options.unicode then .error (invalidEscape c) else .ok (.char c.toNat, text)

def shorthand? : Char → Option ClassItem
  | 'd' => some (.shorthand .digit false)
  | 'D' => some (.shorthand .digit true)
  | 's' => some (.shorthand .space false)
  | 'S' => some (.shorthand .space true)
  | 'w' => some (.shorthand .word false)
  | 'W' => some (.shorthand .word true)
  | _ => none

def controlCode? : Char → Option Nat
  | 'b' => some 0x08
  | 't' => some 0x09
  | 'n' => some 0x0A
  | 'v' => some 0x0B
  | 'f' => some 0x0C
  | 'r' => some 0x0D
  | _ => none

/-- The characters that a backslash always makes literal. -/
def patternChars : List Char :=
  ['^', '$', '\\', '.', '*', '+', '?', '(', ')', '[', ']', '{', '}', '|', '/', '-']

/-- Reads what follows `\0`; a decimal digit may not follow in Unicode mode. -/
def readNull (options : Options) (text : List Char) : Reading :=
  if options.unicode && text.head?.any Char.isDigit then .error (invalidEscape '0')
  else .ok (.char 0, text)

/-- Reads the letter of a control escape. -/
def readControl (options : Options) : List Char → Reading
  | [] => readIdentity options 'c' []
  | letter :: text =>
    if letter.isAlpha then .ok (.char (letter.toNat % 32), text)
    else readIdentity options 'c' (letter :: text)

/-- Reads the two digits of a byte escape. -/
def readByte (options : Options) (text : List Char) : Reading :=
  match readHex? 2 text with
  | some (code, rest) => .ok (.char code, rest)
  | none => readIdentity options 'x' text

def isLead (unit : Nat) : Bool := 0xD800 ≤ unit && unit ≤ 0xDBFF

def isTrail (unit : Nat) : Bool := 0xDC00 ≤ unit && unit ≤ 0xDFFF

/-- The supplementary code point that a surrogate pair stands for. -/
def joinSurrogates (lead trail : Nat) : Nat := 0x10000 + (lead - 0xD800) * 0x400 + (trail - 0xDC00)

/-- Reads an escaped trail surrogate. -/
def readTrail? : List Char → Option (Nat × List Char)
  | '\\' :: 'u' :: text => (readHex? 4 text).filter fun (unit, _) => isTrail unit
  | _ => none

/-- A code unit; in Unicode mode a lead surrogate takes an escaped trail surrogate with it. -/
def joinUnit (options : Options) (unit : Nat) (text : List Char) : Nat × List Char :=
  if options.unicode && isLead unit then
    match readTrail? text with
    | some (trail, rest) => (joinSurrogates unit trail, rest)
    | none => (unit, text)
  else (unit, text)

/-- Reads the four digits of a code unit escape. -/
def readUnit (options : Options) (text : List Char) : Reading :=
  match readHex? 4 text with
  | some (unit, rest) =>
    let joined := joinUnit options unit rest
    .ok (.char joined.1, joined.2)
  | none => readIdentity options 'u' text

/-- The value of hexadecimal digits, given up as soon as it leaves the domain. -/
def codePoint? (digits : List Nat) : Option Nat :=
  digits.foldlM (fun value digit =>
    if value * 16 + digit ≤ maxCodePoint then some (value * 16 + digit) else none) 0

/-- Reads the digits and the closing brace of a braced code point. -/
def readBraced (text : List Char) : Reading :=
  match splitAt? '}' text with
  | none => .error (invalidEscape 'u')
  | some (body, rest) =>
    match body.mapM hexDigit? with
    | none | some [] => .error (invalidEscape 'u')
    | some digits =>
      match codePoint? digits with
      | none => .error (.ofCause .codePointTooLarge)
      | some code => .ok (.char code, rest)

/-- Reads what follows `\u`; the braced form exists in Unicode mode only. -/
def readCodePoint (options : Options) : List Char → Reading
  | [] => readUnit options []
  | c :: text =>
    if options.unicode && c == '{' then readBraced text else readUnit options (c :: text)

def readProperty (options : Options) (negated : Bool) (text : List Char) : Reading :=
  (PropertyEscape.readBraces options.nameLimit negated text).map fun (escape, rest) =>
    (.property escape, rest)

/-- Reads the escape that a letter after a backslash begins. -/
def readLetter (options : Options) (c : Char) (text : List Char) : Reading :=
  match c with
  | '0' => readNull options text
  | 'c' => readControl options text
  | 'x' => readByte options text
  | 'u' => readCodePoint options text
  | c =>
    if patternChars.contains c then .ok (.char c.toNat, text) else readIdentity options c text

/-- A letter without an escape of its own stands for itself or has no meaning. -/
theorem readLetter_of_other (options : Options) {c : Char} (text : List Char) (h0 : c ≠ '0')
    (hc : c ≠ 'c') (hx : c ≠ 'x') (hu : c ≠ 'u') :
    readLetter options c text =
      if patternChars.contains c then .ok (.char c.toNat, text)
      else readIdentity options c text := by
  unfold readLetter
  split
  · exact absurd rfl h0
  · exact absurd rfl hc
  · exact absurd rfl hx
  · exact absurd rfl hu
  · rfl

/-- Reads what follows a backslash. -/
def readEscape (options : Options) : List Char → Reading
  | [] => .error (.ofCause .unfinishedEscape)
  | c :: text =>
    if options.unicode && (c == 'p' || c == 'P') then readProperty options (c == 'P') text
    else
      match shorthand? c, controlCode? c with
      | some item, _ => .ok (item, text)
      | none, some code => .ok (.char code, text)
      | none, none => readLetter options c text

/-- Reads the item that begins with `c`. A dash just before the closing bracket is literal. -/
def read (options : Options) (c : Char) (text : List Char) : Reading :=
  match c with
  | '\\' => readEscape options text
  | '-' => if text.head? == some ']' then .ok (.char '-'.toNat, text) else .ok (.dash, text)
  | c => .ok (.char c.toNat, text)

/-- Any other character is a literal. -/
theorem read_of_other (options : Options) {c : Char} (text : List Char) (hescape : c ≠ '\\')
    (hdash : c ≠ '-') : read options c text = .ok (.char c.toNat, text) := by
  unfold read
  split
  · exact absurd rfl hescape
  · exact absurd rfl hdash
  · rfl

/-- A reading leaves no more text than it was given. -/
def Shrinks (text : List Char) (reading : Reading) : Prop :=
  ∀ item rest, reading = .ok (item, rest) → rest.length ≤ text.length

theorem shrinks_error (text : List Char) (e : CompileError) : Shrinks text (.error e) :=
  fun _ _ h => nomatch h

theorem shrinks_ok {text rest : List Char} (item : ClassItem) (h : rest.length ≤ text.length) :
    Shrinks text (.ok (item, rest)) := by
  rintro _ _ ⟨⟩
  exact h

theorem Shrinks.mono {text text' : List Char} {reading : Reading} (h : Shrinks text reading)
    (hle : text.length ≤ text'.length) : Shrinks text' reading :=
  fun item rest hread => Nat.le_trans (h item rest hread) hle

theorem shrinks_readIdentity (options : Options) (c : Char) (text : List Char) :
    Shrinks text (readIdentity options c text) := by
  unfold readIdentity
  split
  · exact shrinks_error _ _
  · exact shrinks_ok _ (Nat.le_refl _)

theorem shrinks_readNull (options : Options) (text : List Char) :
    Shrinks text (readNull options text) := by
  unfold readNull
  split
  · exact shrinks_error _ _
  · exact shrinks_ok _ (Nat.le_refl _)

theorem shrinks_readControl (options : Options) (text : List Char) :
    Shrinks text (readControl options text) := by
  unfold readControl
  split
  · exact shrinks_readIdentity _ _ _
  · split
    · exact shrinks_ok _ (Nat.le_succ _)
    · exact shrinks_readIdentity _ _ _

theorem shrinks_readByte (options : Options) (text : List Char) :
    Shrinks text (readByte options text) := by
  unfold readByte
  split
  · rename_i h
    have := length_of_readHex? h
    exact shrinks_ok _ (by omega)
  · exact shrinks_readIdentity _ _ _

theorem length_of_readTrail? {text rest : List Char} {unit : Nat}
    (h : readTrail? text = some (unit, rest)) : rest.length < text.length := by
  unfold readTrail? at h
  split at h
  · have := length_of_readHex? (Option.filter_eq_some_iff.mp h).1
    simp only [List.length_cons]
    omega
  · exact nomatch h

theorem length_joinUnit (options : Options) (unit : Nat) (text : List Char) :
    (joinUnit options unit text).2.length ≤ text.length := by
  unfold joinUnit
  split
  · split
    · rename_i h
      exact Nat.le_of_lt (length_of_readTrail? h)
    · exact Nat.le_refl _
  · exact Nat.le_refl _

theorem shrinks_readUnit (options : Options) (text : List Char) :
    Shrinks text (readUnit options text) := by
  unfold readUnit
  split
  · rename_i unit rest h
    have hdigits := length_of_readHex? h
    have hjoin := length_joinUnit options unit rest
    exact shrinks_ok _ (Nat.le_trans hjoin (by omega))
  · exact shrinks_readIdentity _ _ _

theorem shrinks_readBraced (text : List Char) : Shrinks text (readBraced text) := by
  unfold readBraced
  split
  · exact shrinks_error _ _
  · rename_i h
    split
    · exact shrinks_error _ _
    · exact shrinks_error _ _
    · split
      · exact shrinks_error _ _
      · refine shrinks_ok _ ?_
        rw [(splitAt?_eq_some h).1]
        simp only [List.length_append, List.length_cons]
        omega

theorem shrinks_readCodePoint (options : Options) (text : List Char) :
    Shrinks text (readCodePoint options text) := by
  unfold readCodePoint
  split
  · exact shrinks_readUnit _ _
  · split
    · exact (shrinks_readBraced _).mono (Nat.le_succ _)
    · exact shrinks_readUnit _ _

theorem readProperty_eq_ok {options : Options} {negated : Bool} {text rest : List Char}
    {item : ClassItem} : readProperty options negated text = .ok (item, rest) ↔
      ∃ escape, PropertyEscape.readBraces options.nameLimit negated text = .ok (escape, rest) ∧
        item = .property escape := by
  rw [readProperty, map_eq_ok_iff]
  constructor
  · rintro ⟨⟨escape, after⟩, hread, hpair⟩
    obtain ⟨rfl, rfl⟩ := Prod.mk.inj hpair
    exact ⟨escape, hread, rfl⟩
  · rintro ⟨escape, hread, rfl⟩
    exact ⟨(escape, rest), hread, rfl⟩

theorem shrinks_readProperty (options : Options) (negated : Bool) (text : List Char) :
    Shrinks text (readProperty options negated text) := by
  intro item rest h
  obtain ⟨escape, hread, _⟩ := readProperty_eq_ok.mp h
  exact Nat.le_of_lt (PropertyEscape.length_of_readBraces hread)

theorem shrinks_readLetter (options : Options) (c : Char) (text : List Char) :
    Shrinks text (readLetter options c text) := by
  unfold readLetter
  split
  · exact shrinks_readNull _ _
  · exact shrinks_readControl _ _
  · exact shrinks_readByte _ _
  · exact shrinks_readCodePoint _ _
  · split
    · exact shrinks_ok _ (Nat.le_refl _)
    · exact shrinks_readIdentity _ _ _

theorem shrinks_readEscape (options : Options) (text : List Char) :
    Shrinks text (readEscape options text) := by
  unfold readEscape
  split
  · exact shrinks_error _ _
  · split
    · exact (shrinks_readProperty _ _ _).mono (Nat.le_succ _)
    · split
      · exact shrinks_ok _ (Nat.le_succ _)
      · exact shrinks_ok _ (Nat.le_succ _)
      · exact (shrinks_readLetter _ _ _).mono (Nat.le_succ _)

theorem shrinks_read (options : Options) (c : Char) (text : List Char) :
    Shrinks text (read options c text) := by
  unfold read
  split
  · exact shrinks_readEscape _ _
  · split <;> exact shrinks_ok _ (Nat.le_refl _)
  · exact shrinks_ok _ (Nat.le_refl _)

/-- Reads up to the closing bracket: the items, and then the text after the bracket or the error
that ends the reading. -/
def readAll (options : Options) :
    List Char → List ClassItem × Except CompileError (List Char)
  | [] => ([], .error (.ofCause .unclosedClass))
  | ']' :: rest => ([], .ok rest)
  | c :: text =>
    match _ : read options c text with
    | .error e => ([], .error e)
    | .ok (item, rest) =>
      let (items, ending) := readAll options rest
      (item :: items, ending)
termination_by text => text.length
decreasing_by
  have := shrinks_read options c text item rest ‹_›
  simp only [List.length_cons]
  omega

theorem readAll_nil (options : Options) :
    readAll options [] = ([], .error (.ofCause .unclosedClass)) := by
  rw [readAll]

theorem readAll_close (options : Options) (rest : List Char) :
    readAll options (']' :: rest) = ([], .ok rest) := by
  rw [readAll]

theorem readAll_error {options : Options} {c : Char} {text : List Char} {e : CompileError}
    (hc : c ≠ ']') (h : read options c text = .error e) :
    readAll options (c :: text) = ([], .error e) := by
  rw [readAll]
  · split <;> simp_all
  · exact hc

theorem readAll_ok {options : Options} {c : Char} {text rest : List Char} {item : ClassItem}
    (hc : c ≠ ']') (h : read options c text = .ok (item, rest)) :
    readAll options (c :: text) =
      (item :: (readAll options rest).1, (readAll options rest).2) := by
  rw [readAll]
  · split <;> simp_all
  · exact hc

end ClassItem

end UnicodeClasses

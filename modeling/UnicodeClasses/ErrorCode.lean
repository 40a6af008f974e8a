/-!
# Error codes and their wording

Every refusal has a cause, a number and a wording. A wording either stands alone or names the
offending text, which is shown in printable ASCII only.
-/
namespace UnicodeClasses

inductive Cause
  | unclosedBrace
  | missingBrace
  | emptyName
  | emptyValue
  | repeatedSeparator
  | invalidNameCharacter
  | nameTooLong
  | unclosedClass
  | emptyRange
  | setAtRangeEnd
  | setAtRangeStart
  | unfinishedEscape
  | invalidEscape
  | codePointTooLarge
  | trailingText
  | notAClass
  | unknownName
  | unknownValue
  | unknownShorthand
  deriving DecidableEq, Repr

namespace Cause

def all : List Cause :=
  [unclosedBrace, missingBrace, emptyName, emptyValue, repeatedSeparator, invalidNameCharacter,
    nameTooLong, unclosedClass, emptyRange, setAtRangeEnd, setAtRangeStart, unfinishedEscape,
    invalidEscape, codePointTooLarge, trailingText, notAClass, unknownName, unknownValue,
    unknownShorthand]

def code : Cause → Int
  | unclosedBrace => -100
  | missingBrace => -101
  | emptyName => -102
  | emptyValue => -103
  | repeatedSeparator => -104
  | invalidNameCharacter => -105
  | nameTooLong => -106
  | unclosedClass => -110
  | emptyRange => -111
  | setAtRangeEnd => -112
  | setAtRangeStart => -113
  | unfinishedEscape => -114
  | invalidEscape => -115
  | codePointTooLarge => -116
  | trailingText => -117
  | notAClass => -118
  | unknownName => -223
  | unknownValue => -224
  | unknownShorthand => -225

def ofCode? (code : Int) : Option Cause := all.find? (·.code = code)

theorem ofCode?_code (cause : Cause) : ofCode? cause.code = some cause := by
  cases cause <;> decide

end Cause

/-- A text, possibly with one place for the offending text. -/
inductive Wording
  | plain (text : String)
  | about (before after : String)
  deriving DecidableEq, Repr

def Cause.wording : Cause → Wording
  | unclosedBrace => .plain "end pattern at left brace"
  | missingBrace => .plain "invalid property escape (expected '\x7b')"
  | emptyName => .plain "property name is empty"
  | emptyValue => .plain "property value is empty"
  | repeatedSeparator => .about "multiple '=' in property escape \x7b" "\x7d"
  | invalidNameCharacter => .about "invalid char in property name \x7b" "\x7d"
  | nameTooLong => .plain "too long property name"
  | unclosedClass => .plain "premature end of char-class"
  | emptyRange => .plain "empty range in char class"
  | setAtRangeEnd => .plain "char-class value at end of range"
  | setAtRangeStart => .plain "char-class value at start of range"
  | unfinishedEscape => .plain "end pattern at escape"
  | invalidEscape => .about "invalid escape \\" ""
  | codePointTooLarge => .plain "invalid code point value"
  | trailingText => .about "unexpected characters after char-class <" ">"
  | notAClass => .plain "pattern is not a char-class or property escape"
  | unknownName => .about "invalid character property name \x7b" "\x7d"
  | unknownValue => .about "invalid character property value \x7b" "\x7d"
  | unknownShorthand => .about "invalid character property name or value \x7b" "\x7d"

/-- A visible ASCII character or a space. -/
def isPrintable (c : Char) : Bool := 0x20 ≤ c.toNat && c.toNat ≤ 0x7E

/-- Other characters are shown by their number in lower-case hexadecimal. -/
def shownChar (c : Char) : List Char :=
  if isPrintable c then [c] else ['\\', 'u', '{'] ++ Nat.toDigits 16 c.toNat ++ ['}']

def shown (text : String) : String := String.ofList (text.toList.flatMap shownChar)

namespace Wording

/-- The wording with its place marked. -/
def format : Wording → String
  | plain text => text
  | about before after => before ++ "%n" ++ after

def takesText : Wording → Bool
  | plain _ => false
  | about _ _ => true

/-- The wording about a text; nothing stands in its place if there is none. -/
def fill (text : Option String) : Wording → String
  | plain words => words
  | about before after => before ++ (text.map shown).getD "" ++ after

end Wording

/-- The wording of a code; zero is success. -/
def wordingOf (code : Int) : Wording :=
  match Cause.ofCode? code with
  | some cause => cause.wording
  | none => .plain (if code = 0 then "success" else "undefined error code")

theorem wordingOf_code (cause : Cause) : wordingOf cause.code = cause.wording := by
  simp [wordingOf, Cause.ofCode?_code]

def isEscapeSyntaxCode (code : Int) : Bool := -109 ≤ code && code ≤ -100

def isClassSyntaxCode (code : Int) : Bool := -199 ≤ code && code ≤ -110

end UnicodeClasses

import UnicodeClasses.ErrorCode

/-!
# Errors of compilation

A malformed property escape and a malformed class carry a code and its wording; the other kinds
carry the names that did not resolve, exactly as they were written.
-/
namespace UnicodeClasses

inductive CompileError
  | malformedEscape (code : Int) (detail : String)
  | unknownName (name : String)
  | unknownValue (property value : String)
  | unknownShorthand (token : String)
  | malformedClass (code : Int) (detail : String)
  deriving DecidableEq, Repr

namespace CompileError

/-- Codes of escape shape are malformed escapes, and all others malformed classes. -/
def ofCode (code : Int) (text : Option String) : CompileError :=
  let detail := (wordingOf code).fill text
  if isEscapeSyntaxCode code then malformedEscape code detail else malformedClass code detail

def ofCause (cause : Cause) : CompileError := ofCode cause.code none

def ofCauseAbout (cause : Cause) (text : String) : CompileError := ofCode cause.code (some text)

def code : CompileError → Int
  | malformedEscape code _ => code
  | unknownName _ => Cause.unknownName.code
  | unknownValue _ _ => Cause.unknownValue.code
  | unknownShorthand _ => Cause.unknownShorthand.code
  | malformedClass code _ => code

/-- The text itself is malformed, whatever the names in it mean. -/
def isSyntax : CompileError → Bool
  | malformedEscape _ _ => true
  | malformedClass _ _ => true
  | _ => false

def message : CompileError → String
  | malformedEscape _ detail => "invalid property escape: " ++ detail
  | unknownName name => Cause.unknownName.wording.fill (some name)
  | unknownValue property value => Cause.unknownValue.wording.fill (some (property ++ "=" ++ value))
  | unknownShorthand token => Cause.unknownShorthand.wording.fill (some token)
  | malformedClass _ detail => "invalid char-class: " ++ detail

theorem code_ofCode (code : Int) (text : Option String) : (ofCode code text).code = code := by
  unfold ofCode
  dsimp only
  split <;> rfl

end CompileError

end UnicodeClasses

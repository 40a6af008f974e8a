import UnicodeClasses.CompileError
import UnicodeClasses.ExceptLemmas
import UnicodeClasses.Text

/-!
# Property escapes

A property escape is written `\p{name}` or `\p{name=value}`, and negated `\P{...}`. Names and
values consist of ASCII letters, digits and underscores, and are kept as they are written.
-/
namespace UnicodeClasses

/-- What stands between the braces. -/
inductive PropertyToken
  | lone (name : String)
  | pair (name value : String)
  deriving DecidableEq, Repr

def PropertyToken.text : PropertyToken → String
  | lone name => name
  | pair name value => name ++ "=" ++ value

structure PropertyEscape where
  negated : Bool
  token : PropertyToken
  deriving DecidableEq, Repr

namespace PropertyEscape

/-- The written form. -/
def text (escape : PropertyEscape) : String :=
  (if escape.negated then "\\P\x7b" else "\\p\x7b") ++ escape.token.text ++ "\x7d"

/-- Bytes of the written form. -/
def length (escape : PropertyEscape) : Nat := escape.text.utf8ByteSize

def isNameChar (c : Char) : Bool := c.isAlphanum || c == '_'

/-- Reads a body of at most `limit` bytes. -/
def readToken (limit : Nat) (body : List Char) : Except CompileError PropertyToken :=
  if limit < byteSize body then .error (.ofCause .nameTooLong)
  else if body.isEmpty then .error (.ofCause .emptyName)
  else if !body.all (fun c => isNameChar c || c == '=') then
    .error (.ofCauseAbout .invalidNameCharacter (String.ofList body))
  else
    match splitAt? '=' body with
    | none => .ok (.lone (String.ofList body))
    | some (name, value) =>
      if value.contains '=' then .error (.ofCauseAbout .repeatedSeparator (String.ofList body))
      else if name.isEmpty then .error (.ofCause .emptyName)
      else if value.isEmpty then .error (.ofCause .emptyValue)
      else .ok (.pair (String.ofList name) (String.ofList value))

/-- Reads the braces and their body, which follow `\p` or `\P`; also gives the text after them. -/
def readBraces (limit : Nat) (negated : Bool) :
    List Char → Except CompileError (PropertyEscape × List Char)
  | '{' :: text =>
    match splitAt? '}' text with
    | none => .error (.ofCause .unclosedBrace)
    | some (body, rest) => (readToken limit body).map fun token => (⟨negated, token⟩, rest)
  | _ => .error (.ofCause .missingBrace)

/-- Reads a property escape at the start of a text, unless the text starts otherwise. -/
def scan (limit : Nat) : List Char → Except CompileError (Option (PropertyEscape × List Char))
  | '\\' :: 'p' :: text => (readBraces limit false text).map some
  | '\\' :: 'P' :: text => (readBraces limit true text).map some
  | _ => .ok none

theorem scan_letter {limit : Nat} (negated : Bool) (text : List Char) :
    scan limit ('\\' :: (if negated then 'P' else 'p') :: text) =
      (readBraces limit negated text).map some := by
  cases negated <;> rfl

/-- The characters of an escape, and text after it. -/
def chars (negated : Bool) (body rest : List Char) : List Char :=
  '\\' :: (if negated then 'P' else 'p') :: '{' :: (body ++ '}' :: rest)

/-- Up to the first closing brace everything is body. -/
theorem readBraces_body {limit : Nat} {body : List Char} (h : '}' ∉ body) (negated : Bool)
    (rest : List Char) : readBraces limit negated ('{' :: (body ++ '}' :: rest)) =
      (readToken limit body).map fun token => (⟨negated, token⟩, rest) := by
  rw [readBraces, splitAt?_append h]

/-- What is read ends with the closing brace. -/
theorem exists_body_of_readBraces {limit : Nat} {negated : Bool} {text rest : List Char}
    {escape : PropertyEscape} (h : readBraces limit negated text = .ok (escape, rest)) :
    ∃ body, text = '{' :: (body ++ '}' :: rest) := by
  unfold readBraces at h
  split at h
  · split at h
    · exact nomatch h
    · rename_i text body after hsplit
      obtain ⟨token, _, hpair⟩ := map_eq_ok_iff.mp h
      obtain ⟨_, rfl⟩ := Prod.mk.inj hpair
      exact ⟨body, congrArg _ (splitAt?_eq_some hsplit).1⟩
  · exact nomatch h

theorem length_of_readBraces {limit : Nat} {negated : Bool} {text rest : List Char}
    {escape : PropertyEscape} (h : readBraces limit negated text = .ok (escape, rest)) :
    rest.length < text.length := by
  obtain ⟨body, rfl⟩ := exists_body_of_readBraces h
  simp only [List.length_cons, List.length_append]
  omega

end PropertyEscape

end UnicodeClasses

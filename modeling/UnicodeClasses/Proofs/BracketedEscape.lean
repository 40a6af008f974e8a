import UnicodeClasses.Proofs.BracketNegation
import UnicodeClasses.Proofs.RegistryContents

/-!
# Escapes in and outside brackets

A pattern may be a property escape by itself, or a bracket expression with the escape as its only
member. Whatever stands between the braces, both come to what the body of the escape names, or to
the same refusal of it, and an escape may be negated by its letter or by the mark of the bracket.
-/
namespace UnicodeClasses

namespace RangeSet

theorem negateIf_negateIf (marked negated : Bool) (s : RangeSet) :
    (s.negateIf negated).negateIf marked = s.negateIf (marked != negated) := by
  cases marked <;> cases negated <;> first | rfl | exact s.complement_complement

theorem empty_unionWith (s : RangeSet) : (∅ : RangeSet).unionWith s = s := by
  apply ext
  intro c
  simp

end RangeSet

/-- An escape with any body, which need not be well formed. -/
def PropertyEscape.withBody (negated : Bool) (body : String) : String :=
  (if negated then "\\P\x7b" else "\\p\x7b") ++ body ++ "\x7d"

/-- A bracket expression with any text inside. -/
def BracketClass.enclosing (marked : Bool) (inner : String) : String :=
  (if marked then "[^" else "[") ++ inner ++ "]"

/-- The set that the body of an escape names. -/
def Registry.bodySet (registry : Registry) (limit : Nat) (body : List Char) :
    Except CompileError RangeSet :=
  PropertyEscape.readToken limit body >>= registry.tokenSet

variable {registry : Registry} {limit : Nat} {body : List Char}

namespace PropertyEscape

theorem toList_withBody (negated : Bool) (body : String) :
    (withBody negated body).toList = chars negated body.toList [] := by
  cases negated <;> simp [withBody, chars]

end PropertyEscape

open PropertyEscape

theorem ClassItem.read_escape (h : '}' ∉ body) (negated : Bool) (rest : List Char) :
    read ⟨true, limit⟩ '\\'
        ((if negated then 'P' else 'p') :: '{' :: (body ++ '}' :: rest)) =
      (readToken limit body).map fun token => (.property ⟨negated, token⟩, rest) := by
  have hproperty : readProperty ⟨true, limit⟩ negated ('{' :: (body ++ '}' :: rest)) =
      (readToken limit body).map fun token => (.property ⟨negated, token⟩, rest) := by
    rw [readProperty, readBraces_body h]
    cases readToken limit body <;> rfl
  rw [← hproperty]
  cases negated <;> rfl

theorem Registry.bodySet_of_readToken {token : PropertyToken}
    (h : readToken limit body = .ok token) :
    registry.bodySet limit body = registry.tokenSet token := by
  rw [bodySet, h]
  rfl

namespace ClassBuilder

/-- As the first member an escape is taken as it is resolved. -/
theorem pushItem_property (token : PropertyToken) (negated : Bool) :
    pushItem registry {} (.property ⟨negated, token⟩) =
      (registry.tokenSet token).map fun s => ⟨s.negateIf negated, .set⟩ := by
  rw [pushItem, ClassItem.member, Registry.resolve]
  cases registry.tokenSet token with
  | error e => rfl
  | ok s =>
    show Except.ok (⟨(∅ : RangeSet).unionWith (s.negateIf negated), .set⟩ : ClassBuilder) = _
    rw [RangeSet.empty_unionWith]
    rfl

/-- An escape that is the only member is read, resolved and collected. -/
theorem collect_escape (h : '}' ∉ body) (negated : Bool) :
    collect registry ⟨true, limit⟩ {} (chars negated body [']']) =
      (registry.bodySet limit body).map fun s => (⟨s.negateIf negated, .set⟩, []) := by
  rw [chars, collect_cons _ _ _ (by decide), ClassItem.read_escape h]
  cases hread : readToken limit body with
  | error e =>
    rw [Registry.bodySet, hread]
    rfl
  | ok token =>
    show pushItem registry {} (.property ⟨negated, token⟩) >>= (collect registry _ · [']']) = _
    rw [pushItem_property, Registry.bodySet_of_readToken hread]
    cases registry.tokenSet token with
    | error e => rfl
    | ok s => exact collect_close ..

end ClassBuilder

namespace BracketClass

theorem opens_enclosing (marked negated : Bool) (body : String) :
    Opens (enclosing marked (withBody negated body)).toList marked
      (chars negated body.toList [']']) := by
  have hlist : (enclosing marked (withBody negated body)).toList =
      (if marked then ['[', '^'] else ['[']) ++ chars negated body.toList [']'] := by
    rw [enclosing, String.toList_append, String.toList_append, toList_withBody]
    cases marked <;> simp [chars]
  rw [hlist]
  cases marked with
  | false => exact .plain (by simp [chars])
  | true => exact .marked _

/-- The mark of the bracket and the letter of the escape negate alike. -/
theorem read_enclosing (marked negated : Bool) {body : String} (h : '}' ∉ body.toList) :
    read registry ⟨true, limit⟩ (enclosing marked (withBody negated body)).toList =
      (registry.bodySet limit body.toList).map fun s =>
        (⟨s.negateIf (marked != negated), marked,
          byteSize (enclosing marked (withBody negated body)).toList⟩, []) := by
  rw [read_of_opens (opens_enclosing marked negated body), ClassBuilder.collect_escape h]
  simp only [← RangeSet.negateIf_negateIf]
  cases registry.bodySet limit body.toList <;> rfl

end BracketClass

namespace CharClass

theorem readSet_escape (h : '}' ∉ body) (negated : Bool) (rest : List Char) :
    readSet registry ⟨true, limit⟩ (chars negated body rest) =
      (registry.bodySet limit body).map fun s => (s.negateIf negated, rest) := by
  have hscan : scan limit (chars negated body rest) =
      (readToken limit body).map fun token => some (⟨negated, token⟩, rest) := by
    rw [chars, scan_letter, readBraces_body h]
    cases readToken limit body <;> rfl
  rw [readSet, if_neg (by simp [chars]), CompiledEscape.read?, hscan, Registry.bodySet]
  cases readToken limit body with
  | error e => rfl
  | ok token =>
    simp only [Except.map, Registry.resolve, bind, Except.bind]
    cases registry.tokenSet token <;> rfl

theorem compile_of_readSet {options : Options} {α : Type} {x : Except CompileError α}
    {pattern : String} {set : α → RangeSet}
    (h : readSet registry options pattern.toList = x.map fun a => (set a, [])) :
    compile registry options pattern = x.map fun a => ⟨set a⟩ := by
  rw [compile, h]
  cases x <;> rfl

theorem compile_withBody (negated : Bool) {body : String} (h : '}' ∉ body.toList) :
    compile registry ⟨true, limit⟩ (withBody negated body) =
      (registry.bodySet limit body.toList).map fun s => ⟨s.negateIf negated⟩ := by
  apply compile_of_readSet
  rw [toList_withBody]
  exact readSet_escape h negated []

theorem compile_enclosing (marked negated : Bool) {body : String} (h : '}' ∉ body.toList) :
    compile registry ⟨true, limit⟩ (BracketClass.enclosing marked (withBody negated body)) =
      (registry.bodySet limit body.toList).map fun s => ⟨s.negateIf (marked != negated)⟩ := by
  apply compile_of_readSet
  have hopen : (BracketClass.enclosing marked (withBody negated body)).toList.head? = some '[' := by
    cases marked <;> simp [BracketClass.enclosing]
  rw [readSet, if_pos (by simp [hopen]), BracketClass.read_enclosing marked negated h]
  cases registry.bodySet limit body.toList <;> rfl

/-- A property escape compiles to the same result by itself and as the only member of a bracket
expression, and the mark of the bracket negates it as its letter does. The two forms of an escape
fail with the same error, that of their body, or their sets are complements of each other. -/
theorem compile_bracketed_escape (registry : Registry) (limit : Nat) {body : String}
    (h : '}' ∉ body.toList) :
    (∀ negated : Bool,
      compile registry ⟨true, limit⟩ (BracketClass.enclosing false (withBody negated body)) =
        compile registry ⟨true, limit⟩ (withBody negated body) ∧
      compile registry ⟨true, limit⟩ (BracketClass.enclosing true (withBody (!negated) body)) =
        compile registry ⟨true, limit⟩ (withBody negated body)) ∧
    ((∃ e, registry.bodySet limit body.toList = .error e ∧
        ∀ negated : Bool, compile registry ⟨true, limit⟩ (withBody negated body) = .error e) ∨
      ∃ s t : RangeSet, registry.bodySet limit body.toList = .ok s ∧
        compile registry ⟨true, limit⟩ (withBody false body) = .ok ⟨s⟩ ∧
        compile registry ⟨true, limit⟩ (withBody true body) = .ok ⟨t⟩ ∧
        t = s.complement ∧ s = t.complement) := by
  constructor
  · intro negated
    rw [compile_enclosing _ _ h, compile_enclosing _ _ h, compile_withBody _ h]
    cases negated <;> exact ⟨rfl, rfl⟩
  · simp only [compile_withBody _ h]
    cases registry.bodySet limit body.toList with
    | error e => exact .inl ⟨e, rfl, fun _ => rfl⟩
    | ok s =>
      exact .inr ⟨s, s.complement, rfl, rfl, rfl, rfl, s.complement_complement.symm⟩

/-- The hexadecimal digits as the only property. -/
def hexDigitData : PropertyData where
  version := ⟨1, 0, 0⟩
  binary := [⟨"ASCII_Hex_Digit", ["AHex"], [(0x30, 0x39), (0x41, 0x46), (0x61, 0x66)]⟩]
  enumerated := []

theorem compile_bracketed_hexDigit : '}' ∉ "AHex".toList ∧
    ∃ registry, Registry.build hexDigitData = .ok registry ∧ ∃ c,
      compile registry {} "\\p\x7bAHex\x7d" = .ok c ∧
      compile registry {} "[\\p\x7bAHex\x7d]" = .ok c ∧
      compile registry {} "[^\\P\x7bAHex\x7d]" = .ok c ∧
      c.set.contains 0x46 = true ∧ c.set.contains 0x47 = false := by
  have h : '}' ∉ "AHex".toList := by decide
  obtain ⟨registry, hbuild⟩ := Registry.exists_build_iff.mpr
    (show _ ∧ _ ∧ ∀ entry ∈ hexDigitData.enumerated, _ from ⟨by decide, by decide, nofun⟩)
  have hbody : registry.bodySet 128 "AHex".toList = .ok (.ofTable _) :=
    Registry.tokenSet_binary hbuild (List.mem_singleton.mpr rfl) (by decide)
  obtain ⟨hsame, hresult⟩ := compile_bracketed_escape registry 128 h
  rcases hresult with ⟨e, he, -⟩ | ⟨s, t, hs, hcompile, -⟩
  · exact nomatch hbody.symm.trans he
  · obtain rfl := Except.ok.inj (hbody.symm.trans hs)
    refine ⟨h, registry, hbuild, _, hcompile, (hsame false).1.trans hcompile,
      (hsame false).2.trans hcompile, ?_, Bool.eq_false_iff.mpr fun hmem => ?_⟩
    · exact RangeSet.contains_iff.mpr (RangeSet.mem_ofTable.mpr (by decide))
    · exact absurd (RangeSet.mem_ofTable.mp (RangeSet.contains_iff.mp hmem)) (by decide)

end CharClass

end UnicodeClasses

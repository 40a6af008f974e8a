import UnicodeClasses.Proofs.BracketNegation
import UnicodeClasses.Proofs.EscapeGrammar

/-!
# Limits on names

The limit on the body of a property escape comes before all other rules for the body, and no other
rule depends on it. Under a smaller limit a text is thus read as under a larger one up to the first
body that is too long for the smaller limit.
-/
namespace UnicodeClasses

/-- What the smaller limit comes to: the same as the larger one, or the refusal of a long name. -/
def Tightens {α : Type} (long : Prop) (small large : Except CompileError α) : Prop :=
  small = large ∨ small = .error (.ofCause .nameTooLong) ∧ long

namespace Tightens

variable {α β : Type} {long long' : Prop} {x y : Except CompileError α}

theorem mono (h : Tightens long x y) (hlong : long → long') : Tightens long' x y :=
  h.imp_right (And.imp_right hlong)

theorem map (h : Tightens long x y) (f : α → β) : Tightens long (x.map f) (y.map f) := by
  rcases h with rfl | ⟨rfl, hlong⟩
  · exact .inl rfl
  · exact .inr ⟨rfl, hlong⟩

end Tightens

/-- The options with the limit that a request puts in force. -/
def Options.limited (options : Options) (requested : Nat) : Options :=
  { options with nameLimit := nameLimitFor requested }

namespace PropertyEscape

/-- The text begins with a property escape whose body, up to the next closing brace, is longer than
the limit. -/
def OpensLong (limit : Nat) (text : List Char) : Prop :=
  ∃ negated body rest, text = chars negated body rest ∧ '}' ∉ body ∧ limit < byteSize body

/-- Such an escape begins somewhere in the text. -/
def HasLong (limit : Nat) (text : List Char) : Prop := ∃ tail, tail <:+ text ∧ OpensLong limit tail

theorem OpensLong.hasLong {limit : Nat} {text : List Char} (h : OpensLong limit text) :
    HasLong limit text := ⟨text, List.suffix_refl _, h⟩

theorem HasLong.of_suffix {limit : Nat} {text rest : List Char} (h : HasLong limit rest)
    (hrest : rest <:+ text) : HasLong limit text := by
  obtain ⟨tail, htail, hlong⟩ := h
  exact ⟨tail, htail.trans hrest, hlong⟩

variable {small large : Nat} (h : small ≤ large)
include h

theorem tightens_readToken (body : List Char) :
    Tightens (small < byteSize body) (readToken small body) (readToken large body) := by
  unfold readToken
  by_cases hsmall : small < byteSize body
  · exact .inr ⟨if_pos hsmall, hsmall⟩
  · have hlarge : ¬ large < byteSize body := by omega
    rw [if_neg hsmall, if_neg hlarge]
    exact .inl rfl

theorem tightens_readBraces (negated : Bool) (text : List Char) :
    Tightens (OpensLong small (opening negated ++ text)) (readBraces small negated text)
      (readBraces large negated text) := by
  unfold readBraces
  split
  · split
    · exact .inl rfl
    · rename_i body rest hsplit
      obtain ⟨rfl, hclose⟩ := splitAt?_eq_some hsplit
      exact ((tightens_readToken h body).map _).mono fun hlong =>
        ⟨negated, body, rest, rfl, hclose, hlong⟩
  · exact .inl rfl

theorem tightens_scan (text : List Char) :
    Tightens (OpensLong small text) (scan small text) (scan large text) := by
  rcases no_opening_or text with hnone | ⟨negated, after, rfl⟩
  · rw [scan_of_no_opening hnone, scan_of_no_opening hnone]
    exact .inl rfl
  · rw [scan_opening, scan_opening]
    exact (tightens_readBraces h negated after).map some

end PropertyEscape

open PropertyEscape

variable {small large : Nat} (registry : Registry) (options : Options)

theorem CompiledEscape.tightens_escape (h : small ≤ large) (text : List Char) :
    Tightens (OpensLong small text) (read? registry { options with nameLimit := small } text)
      (read? registry { options with nameLimit := large } text) := by
  unfold read?
  split
  · exact .inl rfl
  · rcases tightens_scan h text with heq | ⟨herror, hlong⟩
    · simp only [heq]
      exact .inl rfl
    · simp only [herror]
      exact .inr ⟨rfl, hlong⟩

namespace ClassItem

/-- The escapes of letters do not know of the limit. -/
theorem readLetter_limit (limit : Nat) (c : Char) (text : List Char) :
    readLetter { options with nameLimit := limit } c text = readLetter options c text := rfl

theorem tightens_readEscape (h : small ≤ large) (text : List Char) :
    Tightens (OpensLong small ('\\' :: text)) (readEscape { options with nameLimit := small } text)
      (readEscape { options with nameLimit := large } text) := by
  cases text with
  | nil => exact .inl rfl
  | cons c text =>
    by_cases hproperty : (options.unicode && (c == 'p' || c == 'P')) = true
    · have hletter : c = if c == 'P' then 'P' else 'p' := by
        simp only [Bool.and_eq_true, Bool.or_eq_true, beq_iff_eq] at hproperty
        rcases hproperty.2 with rfl | rfl <;> rfl
      simp only [readEscape, if_pos hproperty]
      refine ((tightens_readBraces h (c == 'P') text).map _).mono fun hlong => ?_
      rw [hletter]
      exact hlong
    · simp only [readEscape, if_neg hproperty, readLetter_limit]
      exact .inl rfl

theorem tightens_item (h : small ≤ large) (c : Char) (text : List Char) :
    Tightens (OpensLong small (c :: text)) (read { options with nameLimit := small } c text)
      (read { options with nameLimit := large } c text) := by
  unfold read
  split
  · exact tightens_readEscape options h text
  · exact .inl rfl
  · exact .inl rfl

end ClassItem

/-- The same items are collected, up to the first name that only the smaller limit refuses. -/
theorem ClassBuilder.tightens_collect (h : small ≤ large) (builder : ClassBuilder)
    (text : List Char) :
    Tightens (HasLong small text)
      (builder.collect registry { options with nameLimit := small } text)
      (builder.collect registry { options with nameLimit := large } text) := by
  fun_induction collect registry { options with nameLimit := small } builder text with
  | case1 builder => exact .inl (collect_nil ..).symm
  | case2 builder rest => exact .inl (collect_close ..).symm
  | case3 builder c text hc e hread =>
    have hitem := hread ▸ ClassItem.tightens_item options h c text
    rw [collect_cons _ _ _ hc]
    rcases hitem with heq | ⟨herror, hlong⟩
    · rw [← heq]
      exact .inl rfl
    · exact .inr ⟨congrArg Except.error (Except.error.inj herror), hlong.hasLong⟩
  | case4 builder c text hc item rest hread e hpush =>
    have hitem := hread ▸ ClassItem.tightens_item options h c text
    rcases hitem with heq | ⟨herror, -⟩
    · rw [collect_cons _ _ _ hc, ← heq]
      exact .inl (congrArg (· >>= (collect registry _ · rest)) hpush).symm
    · cases herror
  | case5 builder c text hc item rest hread next hpush ih =>
    have hitem := hread ▸ ClassItem.tightens_item options h c text
    rcases hitem with heq | ⟨herror, -⟩
    · obtain ⟨hsuffix, -⟩ := ClassItem.settled_read _ text c item rest hread
      rw [collect_ok hc heq.symm hpush]
      exact ih.mono fun hlong => hlong.of_suffix (hsuffix.trans (List.suffix_cons c text))
    · cases herror

theorem BracketClass.tightens_bracket (h : small ≤ large) (text : List Char) :
    Tightens (HasLong small text) (read registry { options with nameLimit := small } text)
      (read registry { options with nameLimit := large } text) := by
  cases hopened : opened? text with
  | none =>
    unfold read
    rw [hopened]
    exact .inl rfl
  | some opening =>
    obtain ⟨negated, body⟩ := opening
    have hopens := opened?_eq_some.mp hopened
    obtain ⟨mark, hmark⟩ := hopens.exists_eq_append
    rw [read_of_opens hopens, read_of_opens hopens]
    refine ((ClassBuilder.tightens_collect registry options h {} body).map _).mono fun hlong => ?_
    exact hlong.of_suffix (hmark ▸ List.suffix_append mark body)

namespace CharClass

theorem tightens_readSet (h : small ≤ large) (pattern : List Char) :
    Tightens (HasLong small pattern) (readSet registry { options with nameLimit := small } pattern)
      (readSet registry { options with nameLimit := large } pattern) := by
  unfold readSet
  split
  · exact (BracketClass.tightens_bracket registry options h pattern).map _
  · rcases CompiledEscape.tightens_escape registry options h pattern with heq | ⟨herror, hlong⟩
    · simp only [heq]
      exact .inl rfl
    · simp only [herror]
      exact .inr ⟨rfl, hlong.hasLong⟩

theorem tightens_compile (h : small ≤ large) (pattern : String) :
    Tightens (HasLong small pattern.toList)
      (compile registry { options with nameLimit := small } pattern)
      (compile registry { options with nameLimit := large } pattern) := by
  unfold compile
  rcases tightens_readSet registry options h pattern.toList with heq | ⟨herror, hlong⟩
  · simp only [heq]
    exact .inl rfl
  · simp only [herror]
    exact .inr ⟨rfl, hlong⟩

end CharClass

/-- A smaller limit only adds refusals of names that are too long. Every reader comes to the same
value or the same error under two limits, or the smaller one refuses a name and the text has a
property escape with a body beyond that limit. Scanned alone, it is the escape at the start. -/
theorem limits_only_refuse {small large : Nat} (hpos : 0 < small) (hle : small ≤ large)
    (registry : Registry) (options : Options) (pattern : String) :
    Tightens (OpensLong small pattern.toList)
      (scan (options.limited small).nameLimit pattern.toList)
      (scan (options.limited large).nameLimit pattern.toList) ∧
    Tightens (OpensLong small pattern.toList)
      (CompiledEscape.read? registry (options.limited small) pattern.toList)
      (CompiledEscape.read? registry (options.limited large) pattern.toList) ∧
    Tightens (HasLong small pattern.toList)
      (BracketClass.read registry (options.limited small) pattern.toList)
      (BracketClass.read registry (options.limited large) pattern.toList) ∧
    Tightens (HasLong small pattern.toList)
      (CharClass.compile registry (options.limited small) pattern)
      (CharClass.compile registry (options.limited large) pattern) := by
  have hlimited : ∀ limit, small ≤ limit →
      options.limited limit = { options with nameLimit := limit } := by
    intro limit hlimit
    rw [Options.limited, nameLimitFor, if_neg (by omega)]
  rw [hlimited small (Nat.le_refl _), hlimited large hle]
  exact ⟨tightens_scan hle _, CompiledEscape.tightens_escape registry options hle _,
    BracketClass.tightens_bracket registry options hle _,
    CharClass.tightens_compile registry options hle pattern⟩

/-- An escape without a value, which only the larger limit comes to see. -/
theorem limits_only_refuse_empty_value :
    0 < 2 ∧ 2 ≤ 128 ∧
    BracketClass.read ⟨⟨14, 0, 0⟩, {}⟩ (Options.limited {} 2) "[a\\p\x7bAny=\x7d]".toList =
      .error (.ofCause .nameTooLong) ∧
    BracketClass.read ⟨⟨14, 0, 0⟩, {}⟩ (Options.limited {} 128) "[a\\p\x7bAny=\x7d]".toList =
      .error (.ofCause .emptyValue) ∧
    HasLong 2 "[a\\p\x7bAny=\x7d]".toList := by
  have hpos : 0 < 2 := by decide
  have hle : 2 ≤ 128 := by decide
  have hescape : '\\' ≠ ']' := by decide
  have hopens : BracketClass.Opens "[a\\p\x7bAny=\x7d]".toList false
      ['a', '\\', 'p', '{', 'A', 'n', 'y', '=', '}', ']'] := .plain (by decide)
  have hliteral : ∀ requested,
      ClassBuilder.collect ⟨⟨14, 0, 0⟩, {}⟩ (Options.limited {} requested) {}
          ['a', '\\', 'p', '{', 'A', 'n', 'y', '=', '}', ']'] =
        ClassBuilder.collect ⟨⟨14, 0, 0⟩, {}⟩ (Options.limited {} requested) ⟨∅, .literal 0x61⟩
          ['\\', 'p', '{', 'A', 'n', 'y', '=', '}', ']'] :=
    fun _ => ClassBuilder.collect_ok (by decide) rfl rfl
  have hrefused : BracketClass.read ⟨⟨14, 0, 0⟩, {}⟩ (Options.limited {} 2)
      "[a\\p\x7bAny=\x7d]".toList = .error (.ofCause .nameTooLong) := by
    rw [BracketClass.read_of_opens hopens, hliteral, ClassBuilder.collect_cons _ _ _ hescape]
    rfl
  have hempty : BracketClass.read ⟨⟨14, 0, 0⟩, {}⟩ (Options.limited {} 128)
      "[a\\p\x7bAny=\x7d]".toList = .error (.ofCause .emptyValue) := by
    rw [BracketClass.read_of_opens hopens, hliteral, ClassBuilder.collect_cons _ _ _ hescape]
    rfl
  obtain ⟨-, -, hbracket, -⟩ := limits_only_refuse hpos hle ⟨⟨14, 0, 0⟩, {}⟩ {} "[a\\p\x7bAny=\x7d]"
  rcases hbracket with heq | ⟨-, hlong⟩
  · exact nomatch Except.error.inj (hrefused.symm.trans (heq.trans hempty))
  · exact ⟨hpos, hle, hrefused, hempty, hlong⟩

end UnicodeClasses

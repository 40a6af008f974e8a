import UnicodeClasses.CharClass
import UnicodeClasses.Proofs.EscapeGrammar
import UnicodeClasses.Proofs.RefusedPushes

/-!
# The form of errors

An error is of the kind that its code belongs to, and its message is visible ASCII, whatever text
it is about. This holds of every way in which reading, resolving and collecting can fail.
-/
namespace UnicodeClasses

/-- A text of visible ASCII characters and spaces. -/
def Printable (text : List Char) : Prop := ∀ c ∈ text, 0x20 ≤ c.toNat ∧ c.toNat ≤ 0x7E

theorem all_isPrintable_iff {text : List Char} : text.all isPrintable = true ↔ Printable text := by
  simp [Printable, isPrintable]

instance : DecidablePred Printable := fun _ => decidable_of_iff _ all_isPrintable_iff

theorem printable_append {a b : List Char} : Printable (a ++ b) ↔ Printable a ∧ Printable b :=
  List.forall_mem_append

theorem printable_ofList {text : List Char} (h : Printable text) :
    Printable (String.ofList text).toList := by
  rwa [String.toList_ofList]

theorem printable_string_append {a b : String} (ha : Printable a.toList) (hb : Printable b.toList) :
    Printable (a ++ b).toList := by
  rw [String.toList_append]
  exact printable_append.mpr ⟨ha, hb⟩

theorem printable_digitChar : ∀ digit < 16, Printable [Nat.digitChar digit] := by decide

theorem printable_toDigits (n : Nat) : Printable (Nat.toDigits 16 n) := by
  induction n using Nat.strongRecOn with
  | ind n ih =>
    by_cases hn : n < 16
    · rw [Nat.toDigits_of_lt_base hn]
      exact printable_digitChar n hn
    · rw [Nat.toDigits_of_base_le (by decide) (by omega), printable_append]
      exact ⟨ih (n / 16) (by omega), printable_digitChar (n % 16) (by omega)⟩

/-- A character that is not visible is shown by characters that are. -/
theorem printable_shownChar (c : Char) : Printable (shownChar c) := by
  unfold shownChar
  split
  · rename_i hc
    simpa [Printable, isPrintable] using hc
  · rw [printable_append, printable_append]
    exact ⟨⟨by decide, printable_toDigits c.toNat⟩, by decide⟩

/-- Any text is shown in visible ASCII. -/
theorem printable_shown (text : String) : Printable (shown text).toList := by
  intro d hd
  rw [shown, String.toList_ofList] at hd
  obtain ⟨c, -, hd⟩ := List.mem_flatMap.mp hd
  exact printable_shownChar c d hd

/-- The words themselves are visible, whatever they are about. -/
def Wording.Visible : Wording → Prop
  | plain words => Printable words.toList
  | about before after => Printable before.toList ∧ Printable after.toList

theorem Wording.Visible.printable_fill {wording : Wording} (h : wording.Visible)
    (about : Option String) : Printable (wording.fill about).toList := by
  cases wording with
  | plain words => exact h
  | about before after =>
    refine printable_string_append (printable_string_append h.1 ?_) h.2
    cases about with
    | none => exact fun _ hc => nomatch hc
    | some text => exact printable_shown text

theorem Cause.visible_wording (cause : Cause) : cause.wording.Visible := by
  cases cause with
  | repeatedSeparator | invalidNameCharacter | invalidEscape | trailingText | unknownName
  | unknownValue | unknownShorthand =>
    exact ⟨printable_ofList (by decide), printable_ofList (by decide)⟩
  | _ => exact printable_ofList (by decide)

theorem Cause.printable_fill (cause : Cause) (about : Option String) :
    Printable (cause.wording.fill about).toList :=
  cause.visible_wording.printable_fill about

namespace CompileError

/-- A name did not resolve. -/
def IsUnknown (e : CompileError) : Prop :=
  (∃ name, e = unknownName name) ∨ (∃ property value, e = unknownValue property value) ∨
    ∃ token, e = unknownShorthand token

/-- The kind of an error, whether it is one of syntax and what its message is made of. -/
structure WellFormed (e : CompileError) : Prop where
  escape_iff : (∃ code detail, e = malformedEscape code detail) ↔ isEscapeSyntaxCode e.code = true
  class_iff : (∃ code detail, e = malformedClass code detail) ↔ isClassSyntaxCode e.code = true
  unknown_iff : e.IsUnknown ↔
    isEscapeSyntaxCode e.code = false ∧ isClassSyntaxCode e.code = false
  isSyntax_iff : e.isSyntax = true ↔
    isEscapeSyntaxCode e.code = true ∨ isClassSyntaxCode e.code = true
  printable : Printable e.message.toList

/-- No code is of both kinds. -/
theorem not_class_of_escape {code : Int} (h : isEscapeSyntaxCode code = true) :
    isClassSyntaxCode code = false := by
  simp only [isEscapeSyntaxCode, isClassSyntaxCode, Bool.and_eq_true, decide_eq_true_eq,
    Bool.and_eq_false_iff, decide_eq_false_iff_not] at h ⊢
  omega

theorem wellFormed_malformedEscape {code : Int} {detail : String}
    (hcode : isEscapeSyntaxCode code = true) (hdetail : Printable detail.toList) :
    (malformedEscape code detail).WellFormed where
  escape_iff := iff_of_true ⟨code, detail, rfl⟩ hcode
  class_iff := iff_of_false (by rintro ⟨_, _, ⟨⟩⟩) (ne_true_of_eq_false (not_class_of_escape hcode))
  unknown_iff := by simp [IsUnknown, CompileError.code, hcode]
  isSyntax_iff := iff_of_true rfl (.inl hcode)
  printable := printable_string_append (printable_ofList (by decide)) hdetail

theorem wellFormed_malformedClass {code : Int} {detail : String}
    (hescape : isEscapeSyntaxCode code = false) (hcode : isClassSyntaxCode code = true)
    (hdetail : Printable detail.toList) : (malformedClass code detail).WellFormed where
  escape_iff := iff_of_false (by rintro ⟨_, _, ⟨⟩⟩) (ne_true_of_eq_false hescape)
  class_iff := iff_of_true ⟨code, detail, rfl⟩ hcode
  unknown_iff := by simp [IsUnknown, CompileError.code, hcode]
  isSyntax_iff := iff_of_true rfl (.inr hcode)
  printable := printable_string_append (printable_ofList (by decide)) hdetail

/-- A cause of syntax gives an error of its kind, whatever text it is about. -/
theorem wellFormed_ofCode (cause : Cause)
    (h : isEscapeSyntaxCode cause.code = true ∨ isClassSyntaxCode cause.code = true)
    (about : Option String) : (ofCode cause.code about).WellFormed := by
  have hdetail : Printable ((wordingOf cause.code).fill about).toList := by
    rw [wordingOf_code]
    exact cause.printable_fill about
  unfold ofCode
  dsimp only
  split
  · rename_i hescape
    exact wellFormed_malformedEscape hescape hdetail
  · rename_i hescape
    exact wellFormed_malformedClass (eq_false_of_ne_true hescape) (h.resolve_left hescape) hdetail

/-- What did not resolve may be any text. -/
theorem printable_of_isUnknown {e : CompileError} (h : e.IsUnknown) :
    Printable e.message.toList := by
  obtain ⟨name, rfl⟩ | ⟨property, value, rfl⟩ | ⟨token, rfl⟩ := h
  · exact Cause.printable_fill .unknownName (some name)
  · exact Cause.printable_fill .unknownValue (some (property ++ "=" ++ value))
  · exact Cause.printable_fill .unknownShorthand (some token)

/-- A name that did not resolve is no matter of syntax. -/
theorem wellFormed_of_isUnknown {e : CompileError} (h : e.IsUnknown) : e.WellFormed := by
  have hkind : e.isSyntax = false := by
    obtain ⟨_, rfl⟩ | ⟨_, _, rfl⟩ | ⟨_, rfl⟩ := h <;> rfl
  have hcodes : isEscapeSyntaxCode e.code = false ∧ isClassSyntaxCode e.code = false := by
    obtain ⟨_, rfl⟩ | ⟨_, _, rfl⟩ | ⟨_, rfl⟩ := h <;> exact ⟨rfl, rfl⟩
  refine ⟨iff_of_false ?_ ?_, iff_of_false ?_ ?_, iff_of_true h hcodes, ?_,
    printable_of_isUnknown h⟩
  · rintro ⟨_, _, rfl⟩
    exact nomatch hkind
  · exact ne_true_of_eq_false hcodes.1
  · rintro ⟨_, _, rfl⟩
    exact nomatch hkind
  · exact ne_true_of_eq_false hcodes.2
  · simp [hkind, hcodes]

/-- The computation fails with well-formed errors only. -/
def FailsWell {α : Type} (result : Except CompileError α) : Prop :=
  ∀ e, result = .error e → e.WellFormed

namespace FailsWell

variable {α β : Type} {result : Except CompileError α}

theorem ok (a : α) : FailsWell (.ok a) := nofun

theorem error {e : CompileError} (h : e.WellFormed) : FailsWell (.error e : Except _ α) := by
  rintro _ ⟨⟩
  exact h

theorem map (h : FailsWell result) (f : α → β) : FailsWell (result.map f) :=
  fun e he => h e ((map_eq_error_iff f).mp he)

theorem bind (h : FailsWell result) {f : α → Except CompileError β}
    (hf : ∀ a, FailsWell (f a)) : FailsWell (result >>= f) := by
  intro e he
  rcases bind_eq_error_iff.mp he with he | ⟨a, -, he⟩
  · exact h e he
  · exact hf a e he

end FailsWell

end CompileError

open CompileError

namespace PropertyEscape

variable {limit : Nat}

theorem wellFormed_of_bodyFault? {body : List Char} {e : CompileError}
    (h : bodyFault? limit body = some e) : e.WellFormed := by
  unfold bodyFault? at h
  split_ifs at h <;> obtain rfl := Option.some.inj h <;> exact wellFormed_ofCode _ (.inl rfl) _

theorem Refused.wellFormed {text : List Char} {e : CompileError} (h : Refused limit text e) :
    e.WellFormed := by
  cases h with
  | unopened => exact wellFormed_ofCode _ (.inl rfl) none
  | unclosed => exact wellFormed_ofCode _ (.inl rfl) none
  | faulty _ hfault => exact wellFormed_of_bodyFault? hfault

theorem failsWell_readBraces (limit : Nat) (negated : Bool) (text : List Char) :
    FailsWell (readBraces limit negated text) :=
  fun _ h => (readBraces_eq_error_iff.mp h).wellFormed

theorem failsWell_scan (limit : Nat) (text : List Char) : FailsWell (scan limit text) := by
  intro e h
  obtain ⟨_, _, -, hrefused⟩ := scan_eq_error_iff.mp h
  exact hrefused.wellFormed

end PropertyEscape

namespace ClassItem

variable (options : Options) (c : Char) (text : List Char)

/-- The letter of an escape may be any character. -/
theorem wellFormed_invalidEscape : (invalidEscape c).WellFormed :=
  wellFormed_ofCode .invalidEscape (.inr rfl) (some c.toString)

theorem failsWell_readIdentity : FailsWell (readIdentity options c text) := by
  unfold readIdentity
  split
  · exact .error (wellFormed_invalidEscape c)
  · exact .ok _

theorem failsWell_readNull : FailsWell (readNull options text) := by
  unfold readNull
  split
  · exact .error (wellFormed_invalidEscape '0')
  · exact .ok _

theorem failsWell_readControl : FailsWell (readControl options text) := by
  unfold readControl
  split
  · exact failsWell_readIdentity _ _ _
  · split
    · exact .ok _
    · exact failsWell_readIdentity _ _ _

theorem failsWell_readByte : FailsWell (readByte options text) := by
  unfold readByte
  split
  · exact .ok _
  · exact failsWell_readIdentity _ _ _

theorem failsWell_readUnit : FailsWell (readUnit options text) := by
  unfold readUnit
  split
  · exact .ok _
  · exact failsWell_readIdentity _ _ _

theorem failsWell_readBraced : FailsWell (readBraced text) := by
  unfold readBraced
  split
  · exact .error (wellFormed_invalidEscape 'u')
  · split
    · exact .error (wellFormed_invalidEscape 'u')
    · exact .error (wellFormed_invalidEscape 'u')
    · split
      · exact .error (wellFormed_ofCode _ (.inr rfl) none)
      · exact .ok _

theorem failsWell_readCodePoint : FailsWell (readCodePoint options text) := by
  unfold readCodePoint
  split
  · exact failsWell_readUnit _ _
  · split
    · exact failsWell_readBraced _
    · exact failsWell_readUnit _ _

theorem failsWell_readLetter : FailsWell (readLetter options c text) := by
  unfold readLetter
  split
  · exact failsWell_readNull _ _
  · exact failsWell_readControl _ _
  · exact failsWell_readByte _ _
  · exact failsWell_readCodePoint _ _
  · split
    · exact .ok _
    · exact failsWell_readIdentity _ _ _

theorem failsWell_readEscape : FailsWell (readEscape options text) := by
  unfold readEscape
  split
  · exact .error (wellFormed_ofCode _ (.inr rfl) none)
  · split
    · exact (PropertyEscape.failsWell_readBraces _ _ _).map _
    · split
      · exact .ok _
      · exact .ok _
      · exact failsWell_readLetter _ _ _

theorem failsWell_read : FailsWell (read options c text) := by
  unfold read
  split
  · exact failsWell_readEscape _ _
  · split <;> exact .ok _
  · exact .ok _

end ClassItem

section resolution

variable (registry : Registry) (options : Options)

theorem Registry.failsWell_valueSet (property : PropertyId) (value : ValueId) :
    FailsWell (registry.valueSet property value) := by
  unfold Registry.valueSet
  dsimp only
  split
  · exact .error (wellFormed_of_isUnknown (.inr (.inl ⟨_, _, rfl⟩)))
  · split
    · exact .error (wellFormed_of_isUnknown (.inr (.inl ⟨_, _, rfl⟩)))
    · exact .ok _

/-- Any token may be looked up, also one that no text is read as. -/
theorem Registry.failsWell_tokenSet (token : PropertyToken) :
    FailsWell (registry.tokenSet token) := by
  cases token with
  | lone name =>
    unfold tokenSet
    dsimp only
    split
    · exact .ok _
    · exact .error (wellFormed_of_isUnknown (.inr (.inr ⟨name, rfl⟩)))
  | pair name value =>
    unfold tokenSet
    dsimp only
    split
    · exact .error (wellFormed_of_isUnknown (.inl ⟨name, rfl⟩))
    · split
      · exact .error (wellFormed_of_isUnknown (.inr (.inl ⟨name, value, rfl⟩)))
      · exact failsWell_valueSet _ _ _

theorem Registry.failsWell_resolve (escape : PropertyEscape) :
    FailsWell (registry.resolve escape) :=
  (registry.failsWell_tokenSet escape.token).map _

theorem CompiledEscape.failsWell_read? (text : List Char) :
    FailsWell (read? registry options text) := by
  unfold read?
  split
  · exact .ok _
  · split
    · rename_i e hscan
      exact .error (PropertyEscape.failsWell_scan _ _ e hscan)
    · exact .ok _
    · exact (registry.failsWell_resolve _).map _

end resolution

namespace ClassBuilder

theorem failsWell_push (builder : ClassBuilder) (member : ClassMember) :
    FailsWell (builder.push member) := by
  intro e h
  obtain ⟨cause, hcause, rfl⟩ := exists_refusal_of_push h
  have hcode : ∀ cause ∈ refusals, isClassSyntaxCode cause.code = true := by decide
  exact wellFormed_ofCode _ (.inr (hcode cause hcause)) none

variable (registry : Registry) (options : Options)

theorem failsWell_pushItem (builder : ClassBuilder) (item : ClassItem) :
    FailsWell (builder.pushItem registry item) := by
  refine FailsWell.bind ?_ builder.failsWell_push
  cases item with
  | property escape => exact (registry.failsWell_resolve escape).map _
  | _ => exact .ok _

/-- One item read, resolved and pushed fails well, and so does a run of them. -/
theorem failsWell_collect (builder : ClassBuilder) (text : List Char) :
    FailsWell (builder.collect registry options text) := by
  fun_induction collect registry options builder text with
  | case1 builder => exact .error (wellFormed_ofCode _ (.inr rfl) none)
  | case2 builder rest => exact .ok _
  | case3 builder c text hc e hread => exact .error (ClassItem.failsWell_read _ _ _ e hread)
  | case4 builder c text hc item rest hread e hpush =>
    exact .error (builder.failsWell_pushItem registry item e hpush)
  | case5 builder c text hc item rest hread next hpush ih => exact ih

end ClassBuilder

section patterns

variable (registry : Registry) (options : Options)

theorem BracketClass.failsWell_read (text : List Char) :
    FailsWell (read registry options text) := by
  unfold read
  split
  · exact .error (wellFormed_ofCode _ (.inr rfl) none)
  · exact (ClassBuilder.failsWell_collect _ _ _ _).bind fun _ => .ok _

theorem CharClass.failsWell_readSet (pattern : List Char) :
    FailsWell (readSet registry options pattern) := by
  unfold readSet
  split
  · exact (BracketClass.failsWell_read _ _ _).map _
  · split
    · rename_i e hread
      exact .error (CompiledEscape.failsWell_read? _ _ _ e hread)
    · exact .error (wellFormed_ofCode _ (.inr rfl) none)
    · exact .ok _

theorem CharClass.failsWell_compile (pattern : String) :
    FailsWell (compile registry options pattern) := by
  unfold compile
  split
  · rename_i e hread
    exact .error (failsWell_readSet _ _ _ e hread)
  · exact .ok _
  · exact .error (wellFormed_ofCode _ (.inr rfl) _)

/-- Whatever fails, be it the scanning of an escape, its compilation from text or from any token,
the reading of a bracket expression, a push on a builder or a pattern as a whole, the error is of
the kind that its code belongs to and its message is visible ASCII. -/
theorem errors_wellFormed (registry : Registry) (options : Options) :
    (∀ limit text, FailsWell (PropertyEscape.scan limit text)) ∧
    (∀ text, FailsWell (CompiledEscape.read? registry options text)) ∧
    (∀ escape, FailsWell (registry.resolve escape)) ∧
    (∀ text, FailsWell (BracketClass.read registry options text)) ∧
    (∀ (builder : ClassBuilder) member, FailsWell (builder.push member)) ∧
    ∀ pattern, FailsWell (CharClass.compile registry options pattern) :=
  ⟨PropertyEscape.failsWell_scan, CompiledEscape.failsWell_read? registry options,
    registry.failsWell_resolve, BracketClass.failsWell_read registry options,
    ClassBuilder.failsWell_push, CharClass.failsWell_compile registry options⟩

/-- The letter of an escape without a meaning is shown by its number. -/
theorem errors_wellFormed_letter :
    ∃ e, CharClass.compile ⟨⟨14, 0, 0⟩, {}⟩ ⟨true, 128⟩ "[\\é]" = .error e ∧
      e.message = "invalid char-class: invalid escape \\\\u\x7be9\x7d" ∧ e.WellFormed := by
  have hcollect : ClassBuilder.collect ⟨⟨14, 0, 0⟩, {}⟩ ⟨true, 128⟩ {} ['\\', 'é', ']'] =
      .error (ClassItem.invalidEscape 'é') := by
    rw [ClassBuilder.collect_cons _ _ _ (by decide)]
    rfl
  have hread : BracketClass.read ⟨⟨14, 0, 0⟩, {}⟩ ⟨true, 128⟩ ['[', '\\', 'é', ']'] =
      .error (ClassItem.invalidEscape 'é') := bind_eq_error_iff.mpr (.inl hcollect)
  have hset : CharClass.readSet ⟨⟨14, 0, 0⟩, {}⟩ ⟨true, 128⟩ ['[', '\\', 'é', ']'] =
      .error (ClassItem.invalidEscape 'é') :=
    (if_pos (by decide)).trans ((map_eq_error_iff _).mpr hread)
  have hcompile : CharClass.compile ⟨⟨14, 0, 0⟩, {}⟩ ⟨true, 128⟩ "[\\é]" =
      .error (ClassItem.invalidEscape 'é') := by
    have htext : "[\\é]".toList = ['[', '\\', 'é', ']'] := String.toList_ofList
    rw [CharClass.compile, htext, hset]
  obtain ⟨-, -, -, -, -, hwell⟩ := errors_wellFormed ⟨⟨14, 0, 0⟩, {}⟩ ⟨true, 128⟩
  exact ⟨_, hcompile, by decide +kernel, hwell _ _ hcompile⟩

end patterns

end UnicodeClasses

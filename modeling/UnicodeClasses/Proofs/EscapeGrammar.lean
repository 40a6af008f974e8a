import UnicodeClasses.Proofs.EscapeMeaning

/-!
# The grammar of property escapes

An escape is its opening, a brace, a name or two names with a separator between them, and a closing
brace. Every text that begins with an opening is such an escape with text after it, or it is
refused for the first fault in the order of the rules.
-/
namespace UnicodeClasses

namespace PropertyEscape

/-- The two characters that every escape begins with. -/
def opening (negated : Bool) : List Char := ['\\', if negated then 'P' else 'p']

/-- The first fault of a body, if it has any. -/
def bodyFault? (limit : Nat) (body : List Char) : Option CompileError :=
  if limit < byteSize body then some (.ofCause .nameTooLong)
  else if body = [] then some (.ofCause .emptyName)
  else if body.any fun c => !c.isAlphanum && c != '_' && c != '=' then
    some (.ofCauseAbout .invalidNameCharacter (String.ofList body))
  else if 2 ≤ body.count '=' then some (.ofCauseAbout .repeatedSeparator (String.ofList body))
  else if body.head? = some '=' then some (.ofCause .emptyName)
  else if body.getLast? = some '=' then some (.ofCause .emptyValue)
  else none

/-- What cannot follow an opening, and the error for it. A body goes up to the first closing
brace. -/
inductive Refused (limit : Nat) : List Char → CompileError → Prop
  | unopened {text : List Char} (hopen : text.head? ≠ some '{') :
      Refused limit text (.ofCause .missingBrace)
  | unclosed {text : List Char} (hclose : '}' ∉ text) :
      Refused limit ('{' :: text) (.ofCause .unclosedBrace)
  | faulty {body rest : List Char} {e : CompileError} (hclose : '}' ∉ body)
      (hfault : bodyFault? limit body = some e) : Refused limit ('{' :: (body ++ '}' :: rest)) e

variable {limit : Nat} {body text rest : List Char} {token : PropertyToken} {e : CompileError}
  {escape : PropertyEscape}

section separators

variable {name value : List Char}

theorem count_separator (h : splitAt? '=' body = some (name, value)) :
    2 ≤ body.count '=' ↔ '=' ∈ value := by
  obtain ⟨rfl, hname⟩ := splitAt?_eq_some h
  rw [List.count_append, List.count_cons_self, List.count_eq_zero_of_not_mem hname,
    ← List.count_pos_iff]
  omega

theorem head?_separator (h : splitAt? '=' body = some (name, value)) :
    body.head? = some '=' ↔ name = [] := by
  obtain ⟨rfl, hname⟩ := splitAt?_eq_some h
  cases name with
  | nil => simp
  | cons c name =>
    have hc : c ≠ '=' := fun heq => hname (heq ▸ List.mem_cons_self ..)
    simp [hc]

theorem getLast?_separator (h : splitAt? '=' body = some (name, value)) (hvalue : '=' ∉ value) :
    body.getLast? = some '=' ↔ value = [] := by
  obtain ⟨rfl, -⟩ := splitAt?_eq_some h
  constructor
  · intro hlast
    by_contra hne
    obtain ⟨c, hc⟩ := Option.ne_none_iff_exists'.mp (mt List.getLast?_eq_none_iff.mp hne)
    simp only [List.getLast?_append, List.getLast?_cons, hc, Option.getD_some, Option.some_or,
      Option.some.injEq] at hlast
    exact hvalue (hlast ▸ List.mem_of_getLast? hc)
  · rintro rfl
    simp

end separators

/-- A body is refused exactly for its first fault. -/
theorem readToken_eq_error_iff :
    readToken limit body = .error e ↔ bodyFault? limit body = some e := by
  have hchars : (!body.all fun c => isNameChar c || c == '=') =
      body.any fun c => !c.isAlphanum && c != '_' && c != '=' := by
    simp only [isNameChar, List.not_all_eq_any_not, Bool.not_or, bne]
  unfold readToken bodyFault?
  simp only [List.isEmpty_iff, hchars]
  cases hsplit : splitAt? '=' body with
  | none =>
    have hmem : '=' ∉ body := splitAt?_eq_none_iff.mp hsplit
    have hcount : ¬ 2 ≤ body.count '=' := by simp [List.count_eq_zero_of_not_mem hmem]
    have hhead : body.head? ≠ some '=' := fun h => hmem (List.mem_of_head? h)
    have hlast : body.getLast? ≠ some '=' := fun h => hmem (List.mem_of_getLast? h)
    simp only [if_neg hcount, if_neg hhead, if_neg hlast]
    split_ifs <;> simp
  | some parts =>
    obtain ⟨name, value⟩ := parts
    simp only [count_separator hsplit, head?_separator hsplit, List.contains_iff_mem]
    by_cases hvalue : '=' ∈ value
    · simp only [if_pos hvalue]
      split_ifs <;> simp
    · simp only [if_neg hvalue, getLast?_separator hsplit hvalue]
      split_ifs <;> simp

theorem isName_ofList {chars : List Char} (hne : chars ≠ [])
    (hall : ∀ c ∈ chars, isNameChar c = true) : IsName (String.ofList chars) := by
  refine ⟨fun hempty => hne ?_, by simpa [isNameChar_iff] using hall⟩
  simpa using congrArg String.toList hempty

/-- A body that is read is the text of its token. -/
theorem wellFormed_of_readToken (h : readToken limit body = .ok token) :
    token.WellFormed ∧ token.text.toList = body ∧ token.text.utf8ByteSize ≤ limit := by
  have hsize : ∀ token : PropertyToken, token.text.toList = body →
      token.text.utf8ByteSize = byteSize body := fun token htext => by
    rw [← htext, byteSize_toList]
  simp only [readToken, List.isEmpty_iff, List.contains_iff_mem] at h
  split_ifs at h with hlong hempty hinvalid
  have hall : ∀ c ∈ body, isNameChar c = true ∨ c = '=' := by
    simpa [or_iff_not_imp_left] using hinvalid
  have hname : ∀ chars : List Char, (∀ c ∈ chars, c ∈ body) → '=' ∉ chars →
      ∀ c ∈ chars, isNameChar c = true := by
    intro chars hsub hmark c hc
    exact (hall c (hsub c hc)).resolve_right fun heq => hmark (heq ▸ hc)
  cases hsplit : splitAt? '=' body with
  | none =>
    rw [hsplit] at h
    obtain rfl := Except.ok.inj h
    have htext : (PropertyToken.lone (String.ofList body)).text.toList = body := by
      simp [PropertyToken.text]
    refine ⟨isName_ofList hempty (hname body (fun _ hc => hc) (splitAt?_eq_none_iff.mp hsplit)),
      htext, ?_⟩
    rw [hsize _ htext]
    exact Nat.not_lt.mp hlong
  | some parts =>
    obtain ⟨name, value⟩ := parts
    obtain ⟨hbody, hmark⟩ := splitAt?_eq_some hsplit
    rw [hsplit] at h
    simp only at h
    split_ifs at h with hrepeat hnone hnovalue
    obtain rfl := Except.ok.inj h
    have htext : (PropertyToken.pair (String.ofList name) (String.ofList value)).text.toList =
        body := by
      simp [toList_pair, hbody]
    refine ⟨⟨isName_ofList hnone (hname name ?_ hmark),
      isName_ofList hnovalue (hname value ?_ hrepeat)⟩, htext, ?_⟩
    · intro c hc
      exact hbody ▸ List.mem_append_left _ hc
    · intro c hc
      exact hbody ▸ List.mem_append_right _ (List.mem_cons_of_mem _ hc)
    · rw [hsize _ htext]
      exact Nat.not_lt.mp hlong

theorem readToken_eq_ok_iff : readToken limit body = .ok token ↔
    token.WellFormed ∧ token.text.toList = body ∧ token.text.utf8ByteSize ≤ limit := by
  refine ⟨wellFormed_of_readToken, ?_⟩
  rintro ⟨hform, rfl, hlimit⟩
  exact readToken_text hform hlimit

/-- What follows an opening is refused for its first fault. -/
theorem readBraces_eq_error_iff {negated : Bool} :
    readBraces limit negated text = .error e ↔ Refused limit text e := by
  constructor
  · intro h
    unfold readBraces at h
    split at h
    · rename_i after
      split at h
      · rename_i hsplit
        obtain rfl := Except.error.inj h
        exact .unclosed (splitAt?_eq_none_iff.mp hsplit)
      · rename_i body rest hsplit
        obtain ⟨rfl, hclose⟩ := splitAt?_eq_some hsplit
        exact .faulty hclose (readToken_eq_error_iff.mp ((map_eq_error_iff _).mp h))
    · rename_i hopen
      obtain rfl := Except.error.inj h
      refine .unopened fun hhead => ?_
      obtain ⟨after, rfl⟩ := List.head?_eq_some_iff.mp hhead
      exact hopen after rfl
  · rintro (hopen | hclose | ⟨hclose, hfault⟩)
    · unfold readBraces
      split
      · exact absurd rfl hopen
      · rfl
    · rw [readBraces, splitAt?_eq_none hclose]
    · rw [readBraces_body hclose]
      exact (map_eq_error_iff _).mpr (readToken_eq_error_iff.mpr hfault)

/-- What follows an opening is read if it is the text of a token in braces. -/
theorem readBraces_eq_ok_iff {negated : Bool} :
    readBraces limit negated text = .ok (escape, rest) ↔ escape.negated = negated ∧
      text = '{' :: (escape.token.text.toList ++ '}' :: rest) ∧
      escape.token.WellFormed ∧ escape.token.text.utf8ByteSize ≤ limit := by
  constructor
  · intro h
    unfold readBraces at h
    split at h
    · split at h
      · exact nomatch h
      · rename_i body after hsplit
        obtain ⟨token, htoken, hpair⟩ := map_eq_ok_iff.mp h
        obtain ⟨rfl, rfl⟩ := Prod.mk.inj hpair
        obtain ⟨hform, rfl, hlimit⟩ := readToken_eq_ok_iff.mp htoken
        exact ⟨rfl, congrArg _ (splitAt?_eq_some hsplit).1, hform, hlimit⟩
    · exact nomatch h
  · rintro ⟨rfl, rfl, hform, hlimit⟩
    exact readBraces_text escape.negated hform hlimit rest

theorem scan_opening (negated : Bool) (text : List Char) :
    scan limit (opening negated ++ text) = (readBraces limit negated text).map some :=
  scan_letter negated text

theorem eq_of_opening_prefix {negated negated' : Bool}
    (h : opening negated' <+: opening negated ++ text) : negated' = negated := by
  cases negated <;> cases negated' <;> simp [opening] at h ⊢

/-- A text has no opening, or it is an opening and the text after it. -/
theorem no_opening_or (text : List Char) :
    (∀ negated, ¬ opening negated <+: text) ∨ ∃ negated after, text = opening negated ++ after := by
  by_cases h : ∃ negated, opening negated <+: text
  · obtain ⟨negated, after, rfl⟩ := h
    exact .inr ⟨negated, after, rfl⟩
  · exact .inl (not_exists.mp h)

/-- A text without an opening is left to other readers. -/
theorem scan_of_no_opening (h : ∀ negated, ¬ opening negated <+: text) :
    scan limit text = .ok none := by
  unfold scan
  split
  · exact absurd (List.prefix_append (opening false) _) (h false)
  · exact absurd (List.prefix_append (opening true) _) (h true)
  · rfl

theorem scan_eq_ok_none_iff :
    scan limit text = .ok none ↔ ∀ negated, ¬ opening negated <+: text := by
  refine ⟨fun hscan negated => ?_, scan_of_no_opening⟩
  rintro ⟨after, rfl⟩
  rw [scan_opening] at hscan
  obtain ⟨_, -, hnone⟩ := map_eq_ok_iff.mp hscan
  exact nomatch hnone

theorem scan_eq_ok_some_iff : scan limit text = .ok (some (escape, rest)) ↔
    text = opening escape.negated ++ '{' :: (escape.token.text.toList ++ '}' :: rest) ∧
      escape.token.WellFormed ∧ escape.token.text.utf8ByteSize ≤ limit := by
  rcases no_opening_or text with hnone | ⟨negated, after, rfl⟩
  · rw [scan_of_no_opening hnone]
    refine iff_of_false (fun h => nomatch h) fun h => hnone escape.negated ?_
    exact h.1 ▸ List.prefix_append ..
  · rw [scan_opening, map_eq_ok_iff]
    constructor
    · rintro ⟨_, hread, hsome⟩
      obtain rfl := Option.some.inj hsome
      obtain ⟨rfl, rfl, hform⟩ := readBraces_eq_ok_iff.mp hread
      exact ⟨rfl, hform⟩
    · rintro ⟨htext, hform⟩
      obtain rfl := eq_of_opening_prefix (htext ▸ List.prefix_append ..)
      have hafter := List.append_cancel_left htext
      exact ⟨_, readBraces_eq_ok_iff.mpr ⟨rfl, hafter, hform⟩, rfl⟩

theorem scan_eq_error_iff : scan limit text = .error e ↔
    ∃ negated after, text = opening negated ++ after ∧ Refused limit after e := by
  rcases no_opening_or text with hnone | ⟨negated, after, rfl⟩
  · rw [scan_of_no_opening hnone]
    refine iff_of_false (fun h => nomatch h) ?_
    rintro ⟨negated, after, rfl, -⟩
    exact hnone negated (List.prefix_append ..)
  · rw [scan_opening]
    refine (map_eq_error_iff _).trans (readBraces_eq_error_iff.trans ⟨fun h => ⟨_, _, rfl, h⟩, ?_⟩)
    rintro ⟨negated', after', htext, h⟩
    obtain rfl := eq_of_opening_prefix (htext ▸ List.prefix_append ..)
    exact List.append_cancel_left htext ▸ h

/-- The error is one of malformed escapes. -/
def IsMalformed (e : CompileError) : Prop :=
  ∃ (cause : Cause) (about : Option String),
    e = .malformedEscape cause.code (cause.wording.fill about)

theorem isMalformed_ofCode {cause : Cause} (h : isEscapeSyntaxCode cause.code = true)
    (about : Option String) : IsMalformed (.ofCode cause.code about) := by
  refine ⟨cause, about, ?_⟩
  rw [CompileError.ofCode, if_pos h, wordingOf_code]

theorem isMalformed_of_bodyFault? (h : bodyFault? limit body = some e) : IsMalformed e := by
  unfold bodyFault? at h
  split_ifs at h <;> obtain rfl := Option.some.inj h <;> exact isMalformed_ofCode rfl _

theorem Refused.isMalformed (h : Refused limit text e) : IsMalformed e := by
  cases h with
  | unopened => exact isMalformed_ofCode rfl none
  | unclosed => exact isMalformed_ofCode rfl none
  | faulty _ hfault => exact isMalformed_of_bodyFault? hfault

/-- A text without an opening is no escape. A text is read as an escape exactly if it begins with
the opening and, in braces, the text of a well-formed token within the limit. Then the escape is
what is consumed, byte for byte. Any other text is refused with the one error of its first fault,
which is always a malformed escape. -/
theorem scan_decides_grammar (limit : Nat) (text : List Char) :
    (scan limit text = .ok none ↔ ∀ negated, ¬ opening negated <+: text) ∧
    (∀ escape rest, scan limit text = .ok (some (escape, rest)) ↔
      text = opening escape.negated ++ '{' :: (escape.token.text.toList ++ '}' :: rest) ∧
        escape.token.WellFormed ∧ escape.token.text.utf8ByteSize ≤ limit) ∧
    (∀ escape rest, scan limit text = .ok (some (escape, rest)) →
      text = escape.text.toList ++ rest ∧ byteSize escape.text.toList = escape.length ∧
        escape.length = escape.token.text.utf8ByteSize + 4) ∧
    (∀ e, scan limit text = .error e ↔
      ∃ negated after, text = opening negated ++ after ∧ Refused limit after e) ∧
    ∀ e, scan limit text = .error e → IsMalformed e := by
  refine ⟨scan_eq_ok_none_iff, fun _ _ => scan_eq_ok_some_iff, fun escape rest h => ?_,
    fun _ => scan_eq_error_iff, fun e h => ?_⟩
  · obtain ⟨rfl, -⟩ := scan_eq_ok_some_iff.mp h
    refine ⟨?_, byteSize_toList _, length_eq escape⟩
    rw [toList_text]
    simp [opening]
  · obtain ⟨_, _, -, hrefused⟩ := scan_eq_error_iff.mp h
    exact hrefused.isMalformed

end PropertyEscape
end UnicodeClasses

import UnicodeClasses.ErrorCode
import UnicodeClasses.Proofs.WrittenMembers

/-!
# Texts in messages

The format of a code that is about a text marks one place for it. The message has the text there
and the words of the format around it, whatever the text is, marks and braces included. As long as
texts hold no backslash, different ones are shown differently.
-/
namespace UnicodeClasses

/-! ### Shown texts -/

theorem HexNumber.unique {text : List Char} {value value' : Nat} (h : HexNumber text value)
    (h' : HexNumber text value') : value = value' := by
  obtain ⟨digits, hdigits, rfl⟩ := hexNumber_iff.mp h
  obtain ⟨digits', hdigits', rfl⟩ := hexNumber_iff.mp h'
  rw [Option.some.inj (hdigits.symm.trans hdigits')]

theorem toDigits_inj {m n : Nat} (h : Nat.toDigits 16 m = Nat.toDigits 16 n) : m = n := by
  have hm := hexNumber_toDigits m
  rw [h] at hm
  exact hm.unique (hexNumber_toDigits n)

theorem brace_notMem_toDigits (n : Nat) : '}' ∉ Nat.toDigits 16 n :=
  fun h => nomatch (hexNumber_toDigits n).isSome_of_mem h

theorem shownChar_of_printable {c : Char} (h : isPrintable c = true) : shownChar c = [c] :=
  if_pos h

theorem shownChar_of_not_printable {c : Char} (h : isPrintable c = false) :
    shownChar c = '\\' :: 'u' :: '{' :: (Nat.toDigits 16 c.toNat ++ ['}']) :=
  if_neg (ne_true_of_eq_false h)

/-- The number of a character ends with its brace. -/
theorem number_append_inj {m n : Nat} {rest rest' : List Char}
    (h : Nat.toDigits 16 m ++ '}' :: rest = Nat.toDigits 16 n ++ '}' :: rest') :
    m = n ∧ rest = rest' := by
  have hsplit := splitAt?_append (brace_notMem_toDigits m) rest
  rw [h, splitAt?_append (brace_notMem_toDigits n)] at hsplit
  obtain ⟨hdigits, hrest⟩ := Prod.mk.inj (Option.some.inj hsplit)
  exact ⟨toDigits_inj hdigits.symm, hrest.symm⟩

/-- A backslash begins the number of a character unless it is one itself. Backslashes apart, the
first character of a text can thus be told from the way the text is shown. -/
theorem shownChar_append_inj {c d : Char} {rest rest' : List Char} (hc : c ≠ '\\') (hd : d ≠ '\\')
    (h : shownChar c ++ rest = shownChar d ++ rest') : c = d ∧ rest = rest' := by
  cases hcp : isPrintable c <;> cases hdp : isPrintable d
  · rw [shownChar_of_not_printable hcp, shownChar_of_not_printable hdp] at h
    simp only [List.cons_append, List.append_assoc, List.nil_append, List.cons.injEq,
      true_and] at h
    obtain ⟨hnumber, hrest⟩ := number_append_inj h
    exact ⟨Char.toNat_inj.mp hnumber, hrest⟩
  · rw [shownChar_of_not_printable hcp, shownChar_of_printable hdp] at h
    exact absurd (List.cons.inj h).1.symm hd
  · rw [shownChar_of_printable hcp, shownChar_of_not_printable hdp] at h
    exact absurd (List.cons.inj h).1 hc
  · rw [shownChar_of_printable hcp, shownChar_of_printable hdp] at h
    exact List.cons.inj h

theorem shownChar_ne_nil (c : Char) : shownChar c ≠ [] := by
  unfold shownChar
  split <;> simp

theorem flatMap_shownChar_inj {p q : List Char} (hp : '\\' ∉ p) (hq : '\\' ∉ q)
    (h : p.flatMap shownChar = q.flatMap shownChar) : p = q := by
  induction p generalizing q with
  | nil =>
    cases q with
    | nil => rfl
    | cons d q => simp [shownChar_ne_nil] at h
  | cons c p ih =>
    cases q with
    | nil => simp [shownChar_ne_nil] at h
    | cons d q =>
      rw [List.flatMap_cons, List.flatMap_cons] at h
      simp only [List.mem_cons, not_or] at hp hq
      obtain ⟨rfl, hrest⟩ := shownChar_append_inj (Ne.symm hp.1) (Ne.symm hq.1) h
      rw [ih hp.2 hq.2 hrest]

/-- Texts without a backslash are shown in different ways if they differ. -/
theorem shown_inj {p q : String} (hp : '\\' ∉ p.toList) (hq : '\\' ∉ q.toList)
    (h : shown p = shown q) : p = q := by
  simp only [shown, String.ofList_inj] at h
  exact String.toList_inj.mp (flatMap_shownChar_inj hp hq h)

/-- With a backslash a text can look like one that is shown by numbers. -/
example : shown "\\u\x7be9\x7d" = shown "é" := by decide

/-! ### Marks -/

/-- Puts a text in the place of each mark of a format, from the left. Marks in the text itself are
not looked for. -/
def fillMarks (text : List Char) : List Char → List Char
  | '%' :: 'n' :: rest => text ++ fillMarks text rest
  | c :: rest => c :: fillMarks text rest
  | [] => []

theorem fillMarks_cons {c : Char} (hc : c ≠ '%') (text rest : List Char) :
    fillMarks text (c :: rest) = c :: fillMarks text rest := by
  rw [fillMarks]
  rintro _ rfl
  exact absurd rfl hc

theorem fillMarks_append {words : List Char} (h : '%' ∉ words) (text rest : List Char) :
    fillMarks text (words ++ rest) = words ++ fillMarks text rest := by
  induction words with
  | nil => rfl
  | cons c words ih =>
    simp only [List.mem_cons, not_or] at h
    rw [List.cons_append, fillMarks_cons (Ne.symm h.1), ih h.2, List.cons_append]

theorem fillMarks_mark (text rest : List Char) :
    fillMarks text ('%' :: 'n' :: rest) = text ++ fillMarks text rest := rfl

/-- A format without a mark is left as it is. -/
theorem fillMarks_words {words : List Char} (h : '%' ∉ words) (text : List Char) :
    fillMarks text words = words := by
  simpa [fillMarks] using fillMarks_append h text []

/-- Around its only mark a format falls apart in one way. -/
theorem mark_unique {before after before' after' : List Char} (hbefore : '%' ∉ before)
    (hafter : '%' ∉ after)
    (h : before' ++ '%' :: 'n' :: after' = before ++ '%' :: 'n' :: after) :
    before' = before ∧ after' = after := by
  have hcount := congrArg (List.count '%') h
  rw [List.count_append, List.count_append, List.count_cons_self, List.count_cons_self,
    List.count_eq_zero.mpr hbefore] at hcount
  have htail : List.count '%' ('n' :: after) = 0 := by simpa [List.count_eq_zero] using hafter
  have hbefore' : '%' ∉ before' := List.count_eq_zero.mp (by omega)
  have hsplit := splitAt?_append hbefore' ('n' :: after')
  rw [h, splitAt?_append hbefore] at hsplit
  obtain ⟨rfl, htails⟩ := Prod.mk.inj (Option.some.inj hsplit)
  exact ⟨rfl, (List.cons.inj htails).2.symm⟩

namespace Wording

/-- No word begins a mark. -/
def Unmarked : Wording → Prop
  | plain words => '%' ∉ words.toList
  | about before after => '%' ∉ before.toList ∧ '%' ∉ after.toList

/-- The message as the format with its marks replaced, where the code takes a text. -/
def replaced (text : Option String) (wording : Wording) : List Char :=
  if wording.takesText then fillMarks ((text.map shown).getD "").toList wording.format.toList
  else wording.format.toList

theorem toList_format (before after : String) :
    (about before after).format.toList = before.toList ++ '%' :: 'n' :: after.toList := by
  simp [format]

theorem toList_fill (before after p : String) :
    ((about before after).fill (some p)).toList =
      before.toList ++ (shown p).toList ++ after.toList := by
  simp [fill]

/-- Filling the place for the text is replacing the mark. -/
theorem Unmarked.replaced_eq {wording : Wording} (h : wording.Unmarked) (text : Option String) :
    wording.replaced text = (wording.fill text).toList := by
  cases wording with
  | plain words => rfl
  | about before after =>
    show fillMarks _ (about before after).format.toList = _
    rw [toList_format, fillMarks_append h.1, fillMarks_mark, fillMarks_words h.2]
    simp [fill]

end Wording

theorem notMem_ofList {c : Char} {text : List Char} (h : c ∉ text) :
    c ∉ (String.ofList text).toList := by
  rwa [String.toList_ofList]

theorem Cause.unmarked_wording (cause : Cause) : cause.wording.Unmarked := by
  cases cause with
  | repeatedSeparator | invalidNameCharacter | invalidEscape | trailingText | unknownName
  | unknownValue | unknownShorthand =>
    exact ⟨notMem_ofList (by decide), notMem_ofList (by decide)⟩
  | _ => exact notMem_ofList (by decide)

theorem unmarked_wordingOf (code : Int) : (wordingOf code).Unmarked := by
  unfold wordingOf
  split
  · exact Cause.unmarked_wording _
  · split <;> exact notMem_ofList (by decide)

/-- The codes whose message is about a text. -/
def textCodes : List Int := [-104, -105, -115, -117, -223, -224, -225]

theorem takesText_wordingOf_iff (code : Int) :
    (wordingOf code).takesText = true ↔ code ∈ textCodes := by
  constructor
  · intro h
    unfold wordingOf at h
    split at h
    · rename_i cause hcause
      have hcode : cause.code = code := by simpa using List.find?_some hcause
      subst hcode
      revert h
      cases cause <;> decide
    · exact nomatch h
  · intro h
    simp only [textCodes, List.mem_cons, List.not_mem_nil, or_false] at h
    rcases h with rfl | rfl | rfl | rfl | rfl | rfl | rfl <;> decide

/-- A message about a text is the format of its code with the text, as it is shown, in the place of
the only mark. Texts without a backslash can be told from their messages. -/
theorem filled_once_injectively :
    (∀ code about, ((wordingOf code).fill about).toList = (wordingOf code).replaced about) ∧
    (∀ code, (wordingOf code).takesText = true ↔ code ∈ textCodes) ∧
    ∀ code, (wordingOf code).takesText = true →
      (∃ before after : List Char,
        (wordingOf code).format.toList = before ++ '%' :: 'n' :: after ∧
        (∀ before' after',
          (wordingOf code).format.toList = before' ++ '%' :: 'n' :: after' →
            before' = before ∧ after' = after) ∧
        ∀ p : String, ((wordingOf code).fill (some p)).toList =
          before ++ p.toList.flatMap shownChar ++ after) ∧
      ∀ p q : String, '\\' ∉ p.toList → '\\' ∉ q.toList →
        (wordingOf code).fill (some p) = (wordingOf code).fill (some q) → p = q := by
  refine ⟨fun code about => ((unmarked_wordingOf code).replaced_eq about).symm,
    takesText_wordingOf_iff, fun code htakes => ?_⟩
  have hunmarked := unmarked_wordingOf code
  cases hwording : wordingOf code with
  | plain words =>
    rw [hwording] at htakes
    exact nomatch htakes
  | about before after =>
    rw [hwording] at hunmarked
    constructor
    · refine ⟨before.toList, after.toList, Wording.toList_format before after,
        fun before' after' h => ?_, fun p => ?_⟩
      · rw [Wording.toList_format] at h
        exact mark_unique hunmarked.1 hunmarked.2 h.symm
      · rw [Wording.toList_fill, shown, String.toList_ofList]
    · intro p q hp hq h
      have hlists := congrArg String.toList h
      rw [Wording.toList_fill, Wording.toList_fill] at hlists
      have hshown := List.append_cancel_left (List.append_cancel_right hlists)
      exact shown_inj hp hq (String.toList_inj.mp hshown)

/-- A control character before a digit is not confused with the character whose number has that
digit. -/
theorem filled_once_injectively_digit :
    (wordingOf (-105)).takesText = true ∧ '\\' ∉ "\x080".toList ∧ '\\' ∉ "\u0080".toList ∧
      (wordingOf (-105)).fill (some "\x080") ≠ (wordingOf (-105)).fill (some "\u0080") := by
  obtain ⟨-, -, hcodes⟩ := filled_once_injectively
  have htakes : (wordingOf (-105)).takesText = true := by decide
  have hp : '\\' ∉ "\x080".toList := by decide
  have hq : '\\' ∉ "\u0080".toList := by decide
  refine ⟨htakes, hp, hq, fun h => ?_⟩
  exact absurd ((hcodes (-105) htakes).2 _ _ hp hq h) (by decide)

end UnicodeClasses

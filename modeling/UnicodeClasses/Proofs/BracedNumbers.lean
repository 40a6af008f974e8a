import Mathlib.Data.Nat.Digits.Defs
import UnicodeClasses.Proofs.BracketNegation
import UnicodeClasses.Proofs.ScannerPositions
import UnicodeClasses.Proofs.SetCounts
import UnicodeClasses.Proofs.UnitEscapes

/-!
# Numbers between braces

Any number of digits between braces is read as the number that they write in base sixteen, as long
as that is a code point. The reader works with words of 32 bits. It gives up behind the first digits
whose number has left the domain, which no further digit brings back, and until then each product
and each sum is a word.
-/
namespace UnicodeClasses

/-! ### Written digits -/

/-- The value of digits is the number that they write in base sixteen, from the last digit on. -/
theorem hexValue_eq_ofDigits (digits : List Nat) :
    hexValue digits = Nat.ofDigits 16 digits.reverse := by
  rw [Nat.ofDigits_eq_foldr, List.foldr_reverse, hexValue]
  simp only [Nat.cast_id, Nat.add_comm, Nat.mul_comm]

/-- The hexadecimal digits of either case. -/
def IsHexDigit (c : Char) : Prop :=
  '0' ≤ c ∧ c ≤ '9' ∨ 'A' ≤ c ∧ c ≤ 'F' ∨ 'a' ≤ c ∧ c ≤ 'f'

theorem isSome_hexDigit?_iff {c : Char} : (hexDigit? c).isSome = true ↔ IsHexDigit c := by
  unfold hexDigit? IsHexDigit
  split_ifs <;> simp_all

instance : DecidablePred IsHexDigit := fun _ => decidable_of_iff _ isSome_hexDigit?_iff

/-- A digit as it is written, with its case. -/
structure DigitText where
  capital : Bool
  digit : Fin 16

namespace DigitText

def char (text : DigitText) : Char := hexChar text.capital text.digit

/-- The text of digits, one after another. -/
def written (texts : List DigitText) : List Char := texts.map char

/-- The number that digits write in base sixteen, the most significant digit first. -/
def number (texts : List DigitText) : Nat :=
  Nat.ofDigits 16 (texts.map fun text => text.digit.val).reverse

theorem hexDigit?_char (text : DigitText) : hexDigit? text.char = some text.digit.val :=
  hexDigit?_hexChar text.capital text.digit text.digit.isLt

theorem char_eq_zero_iff (text : DigitText) : text.char = '0' ↔ text.digit = 0 := by
  have hzero : ∀ capital, ∀ digit : Fin 16, hexChar capital digit = '0' ↔ digit = 0 := by decide
  exact hzero text.capital text.digit

theorem mapM_written (texts : List DigitText) :
    (written texts).mapM hexDigit? = some (texts.map fun text => text.digit.val) := by
  induction texts with
  | nil => rfl
  | cons text texts ih =>
    rw [written, List.map_cons, ← written, List.mapM_cons, hexDigit?_char, ih]
    rfl

theorem number_eq_foldl (texts : List DigitText) :
    number texts = texts.foldl (fun value text => value * 16 + text.digit.val) 0 := by
  rw [number, ← hexValue_eq_ofDigits, hexValue, List.foldl_map]

theorem hexNumber_written (texts : List DigitText) : HexNumber (written texts) (number texts) :=
  hexNumber_iff.mpr ⟨_, mapM_written texts, hexValue_eq_ofDigits _⟩

theorem written_ne_nil {texts : List DigitText} (h : texts ≠ []) : written texts ≠ [] :=
  mt List.map_eq_nil_iff.mp h

theorem isHexDigit_of_mem_written {texts : List DigitText} {c : Char} (hc : c ∈ written texts) :
    IsHexDigit c :=
  isSome_hexDigit?_iff.mp ((hexNumber_written texts).isSome_of_mem hc)

theorem exists_written {body : List Char} (h : ∀ c ∈ body, IsHexDigit c) :
    ∃ texts, written texts = body := by
  induction body with
  | nil => exact ⟨[], rfl⟩
  | cons c body ih =>
    have hc := isSome_hexDigit?_iff.mpr (h c (List.mem_cons_self ..))
    obtain ⟨digit, hdigit⟩ := Option.isSome_iff_exists.mp hc
    obtain ⟨hlt, capital, rfl⟩ := hexDigit?_eq_some_iff.mp hdigit
    obtain ⟨texts, rfl⟩ := ih fun c' hc => h c' (List.mem_cons_of_mem _ hc)
    exact ⟨⟨capital, digit, hlt⟩ :: texts, rfl⟩

/-- Texts of hexadecimal digits are what digits are written as. -/
theorem exists_written_iff {body : List Char} :
    (∃ texts, written texts = body) ↔ ∀ c ∈ body, IsHexDigit c := by
  refine ⟨?_, exists_written⟩
  rintro ⟨texts, rfl⟩
  exact fun c => isHexDigit_of_mem_written

/-- Zeros at the beginning of a number write nothing. -/
theorem number_dropWhile_zero (texts : List DigitText) :
    number (texts.dropWhile fun text => text.char == '0') = number texts := by
  simp only [number_eq_foldl]
  induction texts with
  | nil => rfl
  | cons text texts ih =>
    rw [List.dropWhile_cons]
    split
    · rename_i hzero
      rw [ih, List.foldl_cons, (char_eq_zero_iff text).mp (by simpa using hzero)]
      rfl
    · rfl

theorem le_foldl_digit (value : Nat) (texts : List DigitText) :
    value ≤ texts.foldl (fun value text => value * 16 + text.digit.val) value := by
  have hle := le_foldl_digits value (texts.map fun text => text.digit.val)
  rwa [List.foldl_map] at hle

end DigitText

/-! ### Numbers over machine words -/

/-- The product of two words, if it is one. -/
def times? (v w : UInt32) : Option UInt32 :=
  if v.toNat * w.toNat < UInt32.size then some (v * w) else none

theorem times?_ofNat {a b : Nat} (ha : a < UInt32.size) (hb : b < UInt32.size)
    (h : a * b < UInt32.size) : times? (.ofNat a) (.ofNat b) = some (.ofNat (a * b)) := by
  rw [times?, UInt32.toNat_ofNat_of_lt' ha, UInt32.toNat_ofNat_of_lt' hb, if_pos h,
    UInt32.ofNat_mul]

/-- Why the text between braces gives no code point. -/
inductive NumberFault
  | notDigits
  /-- A step without a result: a product or a sum that is no word, a character that is no digit. -/
  | stuck
  | tooLarge
  deriving DecidableEq

/-- How a fault is reported. A step without a result passes for a number that is too large. -/
def NumberFault.error : NumberFault → CompileError
  | notDigits => ClassItem.invalidEscape 'u'
  | stuck | tooLarge => .ofCause .codePointTooLarge

def orStuck {α : Type} : Option α → Except NumberFault α
  | some a => .ok a
  | none => .error .stuck

/-- Takes one more digit into a number. -/
def takeDigit (value : UInt32) (c : Char) : Except NumberFault UInt32 := do
  let shifted ← orStuck (times? value 16)
  let digit ← orStuck (hexDigit? c)
  let next ← orStuck (plus? shifted (.ofNat digit))
  if next ≤ maxWord then return next else throw .tooLarge

/-- The number of the text between braces. Zeros at its beginning are left out. -/
def wordNumber (body : List Char) : Except NumberFault UInt32 :=
  if body.isEmpty || !body.all fun c => (hexDigit? c).isSome then .error .notDigits
  else (body.dropWhile (· == '0')).foldlM takeDigit 0

/-- The word of a code point; other numbers are too large. -/
def codePointWord (value : Nat) : Except NumberFault UInt32 :=
  if value ≤ maxCodePoint then .ok (.ofNat value) else .error .tooLarge

theorem codePointWord_ne_stuck (value : Nat) : codePointWord value ≠ .error .stuck := by
  unfold codePointWord
  split <;> simp

/-- With one more digit the number of a code point is still a word. -/
theorem takeDigit_ofNat {value : Nat} (h : value ≤ maxCodePoint) (text : DigitText) :
    takeDigit (.ofNat value) text.char = codePointWord (value * 16 + text.digit.val) := by
  have hdigit := text.digit.isLt
  simp only [maxCodePoint] at h
  have htimes : times? (.ofNat value) 16 = some (.ofNat (value * 16)) :=
    times?_ofNat (by simp only [UInt32.size]; omega) (by decide) (by simp only [UInt32.size]; omega)
  have hplus : plus? (.ofNat (value * 16)) (.ofNat text.digit.val) =
      some (.ofNat (value * 16 + text.digit.val)) :=
    plus?_ofNat (by simp only [UInt32.size]; omega)
  have hle : UInt32.ofNat (value * 16 + text.digit.val) ≤ maxWord ↔
      value * 16 + text.digit.val ≤ maxCodePoint :=
    UInt32.ofNat_le_iff_le (by simp only [UInt32.size]; omega) (by decide)
  simp only [takeDigit, htimes, text.hexDigit?_char, hplus, orStuck, ok_bind, hle, codePointWord]
  rfl

/-- Once the number is beyond the domain, the digits that are left do not matter. -/
theorem foldlM_takeDigit {value : Nat} (h : value ≤ maxCodePoint) (texts : List DigitText) :
    (DigitText.written texts).foldlM takeDigit (.ofNat value) =
      codePointWord (texts.foldl (fun value text => value * 16 + text.digit.val) value) := by
  induction texts generalizing value with
  | nil => exact (if_pos h).symm
  | cons text texts ih =>
    rw [DigitText.written, List.map_cons, ← DigitText.written, List.foldlM_cons,
      takeDigit_ofNat h, List.foldl_cons]
    by_cases hnext : value * 16 + text.digit.val ≤ maxCodePoint
    · rw [codePointWord, if_pos hnext, ok_bind]
      exact ih hnext
    · have hle := DigitText.le_foldl_digit (value * 16 + text.digit.val) texts
      rw [codePointWord, codePointWord, if_neg hnext, if_neg (by omega)]
      rfl

/-- Digits give the word of the number that they write, if it is a code point. -/
theorem wordNumber_written {texts : List DigitText} (h : texts ≠ []) :
    wordNumber (DigitText.written texts) = codePointWord (DigitText.number texts) := by
  have hdigits : (DigitText.written texts).all (fun c => (hexDigit? c).isSome) = true := by
    rw [List.all_eq_true]
    exact fun c hc => (DigitText.hexNumber_written texts).isSome_of_mem hc
  have hempty : (DigitText.written texts).isEmpty = false := by
    simpa using DigitText.written_ne_nil h
  have hfold := foldlM_takeDigit (Nat.zero_le _) (texts.dropWhile fun text => text.char == '0')
  rw [← DigitText.number_eq_foldl, DigitText.number_dropWhile_zero] at hfold
  rw [wordNumber, hdigits, hempty, ← hfold, DigitText.written, List.dropWhile_map]
  rfl

/-- The text between braces writes no number. -/
def NoNumber (body : List Char) : Prop := body = [] ∨ ∃ c ∈ body, ¬ IsHexDigit c

theorem noNumber_or_written (body : List Char) :
    NoNumber body ∨ ∃ texts, texts ≠ [] ∧ DigitText.written texts = body := by
  by_cases h : ∀ c ∈ body, IsHexDigit c
  · obtain ⟨texts, rfl⟩ := DigitText.exists_written h
    by_cases hempty : texts = []
    · exact .inl (.inl (by rw [hempty]; rfl))
    · exact .inr ⟨texts, hempty, rfl⟩
  · simp only [not_forall] at h
    obtain ⟨c, hc, hother⟩ := h
    exact .inl (.inr ⟨c, hc, hother⟩)

/-- Any other text is refused before a digit is taken. -/
theorem NoNumber.wordNumber_eq {body : List Char} (h : NoNumber body) :
    wordNumber body = .error .notDigits := by
  refine if_pos ?_
  rcases h with rfl | ⟨c, hc, hother⟩
  · rfl
  · rw [← isSome_hexDigit?_iff] at hother
    rw [Bool.or_eq_true, Bool.not_eq_true', List.all_eq_false]
    exact .inr ⟨c, hc, hother⟩

/-- For every text between braces, all products and sums are words. -/
theorem wordNumber_ne_stuck (body : List Char) : wordNumber body ≠ .error .stuck := by
  rcases noNumber_or_written body with h | ⟨texts, hne, rfl⟩
  · rw [h.wordNumber_eq]
    simp
  · rw [wordNumber_written hne]
    exact codePointWord_ne_stuck _

/-! ### Braced numbers in a bracket -/

namespace ClassItem
open DigitText

/-- The reading of a text between braces over machine words. -/
def readWords (body after : List Char) : Reading :=
  match wordNumber body with
  | .ok word => .ok (.char word.toNat, after)
  | .error fault => .error fault.error

theorem codePoint?_eq_none {digits : List Nat} (h : ¬ hexValue digits ≤ maxCodePoint) :
    codePoint? digits = none := by
  rw [Option.eq_none_iff_forall_not_mem]
  intro code hcode
  obtain ⟨rfl, hmax⟩ := codePoint?_eq_some_iff.mp hcode
  exact h hmax

theorem readWords_written {texts : List DigitText} (h : texts ≠ []) (after : List Char) :
    readWords (written texts) after =
      if number texts ≤ maxCodePoint then .ok (.char (number texts), after)
      else .error (.ofCause .codePointTooLarge) := by
  rw [readWords, wordNumber_written h, codePointWord]
  by_cases hle : number texts ≤ maxCodePoint
  · have hword : (UInt32.ofNat (number texts)).toNat = number texts :=
      UInt32.toNat_ofNat_of_lt' (Nat.lt_of_succ_lt (lt_size_of_le_max hle))
    simp only [if_pos hle, hword]
  · simp only [if_neg hle]
    rfl

theorem readBraced_written {texts : List DigitText} (h : texts ≠ []) (after : List Char) :
    readBraced (written texts ++ '}' :: after) =
      if number texts ≤ maxCodePoint then .ok (.char (number texts), after)
      else .error (.ofCause .codePointTooLarge) := by
  have hnumber := hexNumber_written texts
  by_cases hle : number texts ≤ maxCodePoint
  · rw [if_pos hle]
    exact readBraced_eq_ok.mpr ⟨_, _, rfl, written_ne_nil h, hnumber, hle, rfl⟩
  · have hmark : '}' ∉ written texts := fun hc => nomatch hnumber.isSome_of_mem hc
    obtain ⟨digits, hdigits, hvalue⟩ := hexNumber_iff.mp hnumber
    rw [← hvalue] at hle ⊢
    rw [if_neg hle, readBraced, splitAt?_append hmark]
    cases digits with
    | nil => exact absurd (Nat.zero_le _) hle
    | cons digit digits => simp only [hdigits, codePoint?_eq_none hle]

theorem readBraced_of_noNumber {body : List Char} (h : NoNumber body) (hmark : '}' ∉ body)
    (after : List Char) : readBraced (body ++ '}' :: after) = .error (invalidEscape 'u') := by
  rw [readBraced, splitAt?_append hmark]
  rcases h with rfl | ⟨c, hc, hother⟩
  · rfl
  · cases hdigits : body.mapM hexDigit? with
    | none => simp only [hdigits]
    | some digits =>
      have hnumber := hexNumber_iff.mpr ⟨digits, hdigits, rfl⟩
      exact absurd (isSome_hexDigit?_iff.mp (hnumber.isSome_of_mem hc)) hother

theorem readBraced_unclosed {text : List Char} (h : '}' ∉ text) :
    readBraced text = .error (invalidEscape 'u') := by
  rw [readBraced, splitAt?_eq_none h]

/-- A text between braces is read as over machine words. -/
theorem readBraced_eq_readWords {body : List Char} (h : '}' ∉ body) (after : List Char) :
    readBraced (body ++ '}' :: after) = readWords body after := by
  rcases noNumber_or_written body with hother | ⟨texts, hne, rfl⟩
  · rw [readBraced_of_noNumber hother h, readWords, hother.wordNumber_eq]
    rfl
  · rw [readBraced_written hne, readWords_written hne]

end ClassItem

namespace BracketClass
open ClassItem DigitText

variable {registry : Registry} {limit : Nat} {text rest : List Char}

/-- A text that begins with the opening of a braced number. -/
def bracedOpening (text : List Char) : List Char := '[' :: '\\' :: 'u' :: '{' :: text

/-- The pattern of a text between braces. -/
def bracedClass (body : List Char) : List Char := bracedOpening (body ++ ['}', ']'])

theorem opens_bracedOpening (text : List Char) :
    Opens (bracedOpening text) false ('\\' :: 'u' :: '{' :: text) := .plain (by simp)

theorem read_bracedOpening_error {e : CompileError} (h : readBraced text = .error e) :
    read registry ⟨true, limit⟩ (bracedOpening text) = .error e := by
  have hitem : ClassItem.read ⟨true, limit⟩ '\\' ('u' :: '{' :: text) = .error e := h
  rw [read_of_opens (opens_bracedOpening text), ClassBuilder.collect_cons _ _ _ (by decide), hitem]
  rfl

theorem read_bracedOpening_ok {code : Nat} (h : readBraced text = .ok (.char code, ']' :: rest)) :
    read registry ⟨true, limit⟩ (bracedOpening text) =
      .ok (⟨.ofCodes [code], false, byteSize (bracedOpening text) - byteSize rest⟩, rest) := by
  refine read_literals registry (opens_bracedOpening text) ?_
  have hitem : ClassItem.read ⟨true, limit⟩ '\\' ('u' :: '{' :: text) =
      .ok (.char code, ']' :: rest) := h
  rw [readAll_ok (by decide) hitem, readAll_close]
  rfl

theorem ofCodes_singleton (code : Nat) : RangeSet.ofCodes [code] = RangeSet.singleton code := by
  apply RangeSet.ext
  intro c
  rw [RangeSet.mem_ofCodes, RangeSet.mem_singleton, List.mem_singleton]
  exact and_congr_right fun h => by rw [h]

theorem bracedClass_append (body rest : List Char) :
    bracedClass body ++ rest = bracedOpening (body ++ '}' :: ']' :: rest) := by
  simp [bracedClass, bracedOpening]

theorem read_bracedClass_written {texts : List DigitText} (h : texts ≠ [])
    (hle : number texts ≤ maxCodePoint) :
    read registry ⟨true, limit⟩ (bracedClass (written texts) ++ rest) =
      .ok (⟨.singleton (number texts), false, byteSize (bracedClass (written texts))⟩, rest) := by
  have hbraced := (readBraced_written h (']' :: rest)).trans (if_pos hle)
  rw [bracedClass_append, read_bracedOpening_ok hbraced, ofCodes_singleton, ← bracedClass_append,
    byteSize_append, Nat.add_sub_cancel]

/-- A number of any length between braces is read exactly. Digits of either case, at least one of
them, are read as the set of the number that they write in base sixteen if it is a code point, and
refused as too large otherwise. Any other text up to the first closing brace, and a text without
one, is an invalid escape. Over machine words the reading is the same: no product and no sum leaves
the words, and no number of the domain is given up. -/
theorem read_braced_numbers (registry : Registry) (limit : Nat) :
    (∀ body, (∃ texts, written texts = body) ↔ ∀ c ∈ body, IsHexDigit c) ∧
    (∀ texts : List DigitText, texts ≠ [] → number texts ≤ maxCodePoint →
      wordNumber (written texts) = .ok (.ofNat (number texts)) ∧
      ∀ rest, read registry ⟨true, limit⟩ (bracedClass (written texts) ++ rest) =
        .ok (⟨.singleton (number texts), false, byteSize (bracedClass (written texts))⟩, rest)) ∧
    (∀ texts : List DigitText, texts ≠ [] → maxCodePoint < number texts →
      wordNumber (written texts) = .error .tooLarge ∧
      ∀ after, read registry ⟨true, limit⟩ (bracedOpening (written texts ++ '}' :: after)) =
        .error (.ofCause .codePointTooLarge)) ∧
    (∀ body, NoNumber body → '}' ∉ body → ∀ after,
      read registry ⟨true, limit⟩ (bracedOpening (body ++ '}' :: after)) =
        .error (invalidEscape 'u')) ∧
    (∀ text, '}' ∉ text →
      read registry ⟨true, limit⟩ (bracedOpening text) = .error (invalidEscape 'u')) ∧
    ∀ body, wordNumber body ≠ .error .stuck ∧ ('}' ∉ body → ∀ after,
      readBraced (body ++ '}' :: after) = readWords body after) := by
  refine ⟨fun _ => exists_written_iff, fun texts h hle => ⟨?_, fun rest => ?_⟩,
    fun texts h hlt => ⟨?_, fun after => ?_⟩, fun body h hmark after => ?_, fun text h => ?_,
    fun body => ⟨wordNumber_ne_stuck body, fun hmark => readBraced_eq_readWords hmark⟩⟩
  · exact (wordNumber_written h).trans (if_pos hle)
  · exact read_bracedClass_written h hle
  · exact (wordNumber_written h).trans (if_neg (Nat.not_le_of_lt hlt))
  · exact read_bracedOpening_error
      ((readBraced_written h after).trans (if_neg (Nat.not_le_of_lt hlt)))
  · exact read_bracedOpening_error (readBraced_of_noNumber h hmark after)
  · exact read_bracedOpening_error (readBraced_unclosed h)

/-- The last code point, with a zero before it and digits of both cases, and the number after it. -/
theorem read_braced_last :
    read ⟨⟨14, 0, 0⟩, {}⟩ ⟨true, 128⟩ "[\\u\x7b010fFfF\x7d]".toList =
      .ok (⟨.singleton 0x10FFFF, false, 13⟩, []) ∧
    read ⟨⟨14, 0, 0⟩, {}⟩ ⟨true, 128⟩ "[\\u\x7b110000\x7d]".toList =
      .error (.ofCause .codePointTooLarge) ∧
    read ⟨⟨14, 0, 0⟩, {}⟩ ⟨true, 128⟩ "[\\u\x7bg\x7d]".toList = .error (invalidEscape 'u') ∧
    read ⟨⟨14, 0, 0⟩, {}⟩ ⟨true, 128⟩ "[\\u\x7b1".toList = .error (invalidEscape 'u') := by
  obtain ⟨-, hread, hlarge, hother, hunclosed, -⟩ := read_braced_numbers ⟨⟨14, 0, 0⟩, {}⟩ 128
  refine ⟨?_, ?_, ?_, ?_⟩
  · exact (hread [⟨false, 0⟩, ⟨false, 1⟩, ⟨false, 0⟩, ⟨false, 15⟩, ⟨true, 15⟩, ⟨false, 15⟩,
      ⟨true, 15⟩] (by simp) (by decide)).2 []
  · exact (hlarge [⟨false, 1⟩, ⟨false, 1⟩, ⟨false, 0⟩, ⟨false, 0⟩, ⟨false, 0⟩, ⟨false, 0⟩]
      (by simp) (by decide)).2 [']']
  · exact hother ['g'] (.inr ⟨'g', by simp, by decide⟩) (by decide) [']']
  · exact hunclosed ['1'] (by decide)

end BracketClass
end UnicodeClasses

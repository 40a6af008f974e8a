import UnicodeClasses.ClassItem

/-!
# The grammar of items in Unicode mode

`Spells` lists the spellings of an item and what it stands for. Some rules look at the text that
follows: a dash before the closing bracket, a digit after a null, and the second half of a
surrogate pair. `Cut` cuts a text into items up to the closing bracket, and the readers cut it in
exactly this way.
-/
namespace UnicodeClasses

/-- A text of hexadecimal digits and its value, digit after digit. -/
inductive HexNumber : List Char → Nat → Prop
  | nil : HexNumber [] 0
  | concat {text : List Char} {value digit : Nat} {c : Char} (number : HexNumber text value)
      (last : HexDigit c digit) : HexNumber (text ++ [c]) (value * 16 + digit)

theorem HexNumber.append {front text : List Char} {value : Nat} {digits : List Nat}
    (h : HexNumber front value) (hdigits : text.mapM hexDigit? = some digits) :
    HexNumber (front ++ text)
      (digits.foldl (fun value digit => value * 16 + digit) value) := by
  induction text generalizing front value digits with
  | nil =>
    obtain rfl := Option.some.inj hdigits
    rwa [List.append_nil]
  | cons c text ih =>
    rw [List.mapM_cons] at hdigits
    obtain ⟨digit, hdigit, hdigits⟩ := Option.bind_eq_some_iff.mp hdigits
    obtain ⟨rest, hrest, hdigits⟩ := Option.bind_eq_some_iff.mp hdigits
    obtain rfl := Option.some.inj hdigits
    rw [← List.singleton_append, ← List.append_assoc, List.foldl_cons]
    exact ih (h.concat (hexDigit?_eq_some_iff.mp hdigit)) hrest

/-- The readers find the digits and sum them up. -/
theorem hexNumber_iff {text : List Char} {value : Nat} :
    HexNumber text value ↔ ∃ digits, text.mapM hexDigit? = some digits ∧ hexValue digits = value := by
  constructor
  · intro h
    induction h with
    | nil => exact ⟨[], rfl, rfl⟩
    | @concat _ _ digit _ _ last ih =>
      obtain ⟨digits, hdigits, rfl⟩ := ih
      refine ⟨digits ++ [digit], ?_, by simp [hexValue]⟩
      rw [List.mapM_append, hdigits]
      simp [hexDigit?_eq_some_iff.mpr last]
  · rintro ⟨digits, hdigits, rfl⟩
    exact HexNumber.nil.append hdigits

theorem hexNumber?_eq_some_iff {text : List Char} {value : Nat} :
    hexNumber? text = some value ↔ text ≠ [] ∧ HexNumber text value := by
  unfold hexNumber?
  rw [hexNumber_iff]
  cases text with
  | nil => simp
  | cons c text =>
    simp only [List.isEmpty_cons, Bool.false_eq_true, if_false, Option.map_eq_some_iff, ne_eq,
      reduceCtorEq, not_false_eq_true, true_and]

/-- A fixed count of digits is read from the start of a text. -/
theorem readHex?_eq_some_iff {count value : Nat} {text rest : List Char} (hcount : 0 < count) :
    readHex? count text = some (value, rest) ↔
      ∃ digits, text = digits ++ rest ∧ digits.length = count ∧ HexNumber digits value := by
  unfold readHex?
  constructor
  · intro h
    split at h
    · exact nomatch h
    · rename_i hlength
      obtain ⟨_, hvalue, hpair⟩ := Option.map_eq_some_iff.mp h
      obtain ⟨rfl, rfl⟩ := Prod.mk.inj hpair
      refine ⟨text.take count, (List.take_append_drop count text).symm, ?_,
        (hexNumber?_eq_some_iff.mp hvalue).2⟩
      rw [List.length_take] at hlength ⊢
      omega
  · rintro ⟨digits, rfl, rfl, hvalue⟩
    have hne : digits ≠ [] := List.length_pos_iff.mp hcount
    rw [List.take_left, List.drop_left, hexNumber?_eq_some_iff.mpr ⟨hne, hvalue⟩]
    simp

theorem HexNumber.isSome_of_mem {text : List Char} {value : Nat} (h : HexNumber text value)
    {c : Char} (hc : c ∈ text) : (hexDigit? c).isSome = true := by
  induction h with
  | nil => exact nomatch hc
  | concat number last ih =>
    rcases List.mem_append.mp hc with hc | hc
    · exact ih hc
    · rw [List.mem_singleton.mp hc, hexDigit?_eq_some_iff.mpr last]
      rfl

/-- Further digits never make a value smaller. -/
theorem le_foldl_digits (value : Nat) (digits : List Nat) :
    value ≤ digits.foldl (fun value digit => value * 16 + digit) value := by
  induction digits generalizing value with
  | nil => exact Nat.le_refl _
  | cons d digits ih =>
    have := ih (value * 16 + d)
    simp only [List.foldl_cons]
    omega

/-- The characters that have a meaning in a pattern and lose it behind a backslash. -/
def quotedChars : List Char :=
  ['^', '$', '\\', '.', '*', '+', '?', '(', ')', '[', ']', '{', '}', '|', '/', '-']

namespace ClassItem

theorem mem_patternChars_iff {c : Char} : c ∈ patternChars ↔ c ∈ quotedChars := Iff.rfl

theorem foldlM_codePoint {value code : Nat} {digits : List Nat} (hvalue : value ≤ maxCodePoint) :
    (digits.foldlM (fun value digit =>
      if value * 16 + digit ≤ maxCodePoint then some (value * 16 + digit) else none) value) =
        some code ↔
      digits.foldl (fun value digit => value * 16 + digit) value = code ∧
        code ≤ maxCodePoint := by
  induction digits generalizing value with
  | nil =>
    simp only [List.foldlM_nil, List.foldl_nil]
    constructor
    · rintro ⟨⟩
      exact ⟨rfl, hvalue⟩
    · rintro ⟨rfl, _⟩
      rfl
  | cons d digits ih =>
    rw [List.foldlM_cons, List.foldl_cons]
    by_cases hnext : value * 16 + d ≤ maxCodePoint
    · rw [if_pos hnext]
      exact ih hnext
    · rw [if_neg hnext]
      have := le_foldl_digits (value * 16 + d) digits
      constructor
      · intro h
        exact nomatch h
      · rintro ⟨rfl, hmax⟩
        omega

/-- Giving up early loses no value of the domain. -/
theorem codePoint?_eq_some_iff {digits : List Nat} {code : Nat} :
    codePoint? digits = some code ↔ hexValue digits = code ∧ code ≤ maxCodePoint :=
  foldlM_codePoint (Nat.zero_le _)

/-! ### Spellings -/

/-- The letters whose escape stands for a set. -/
def setLetters : List (Char × Shorthand × Bool) :=
  [('d', .digit, false), ('D', .digit, true), ('s', .space, false), ('S', .space, true),
    ('w', .word, false), ('W', .word, true)]

/-- The letters whose escape stands for a control character. -/
def controlLetters : List (Char × Nat) :=
  [('n', 0x0A), ('r', 0x0D), ('t', 0x09), ('f', 0x0C), ('v', 0x0B), ('b', 0x08)]

/-- The code units that begin a surrogate pair. -/
def LeadUnit (unit : Nat) : Prop := 0xD800 ≤ unit ∧ unit ≤ 0xDBFF

/-- The code units that end a surrogate pair. -/
def TrailUnit (unit : Nat) : Prop := 0xDC00 ≤ unit ∧ unit ≤ 0xDFFF

theorem isLead_iff {unit : Nat} : isLead unit = true ↔ LeadUnit unit := by
  simp [isLead, LeadUnit]

theorem isTrail_iff {unit : Nat} : isTrail unit = true ↔ TrailUnit unit := by
  simp [isTrail, TrailUnit]

/-- The escape of a code unit, by four digits. -/
def UnitEscape (spelled : List Char) (unit : Nat) : Prop :=
  ∃ digits, spelled = '\\' :: 'u' :: digits ∧ digits.length = 4 ∧ HexNumber digits unit

/-- `Spells limit spelled following item`: where `following` comes next, the characters `spelled`
are the item `item`. -/
inductive Spells (limit : Nat) : List Char → List Char → ClassItem → Prop
  | literal {c : Char} {following : List Char} (plain : c ∉ ['\\', ']', '-']) :
      Spells limit [c] following (.char c.toNat)
  | finalDash {rest : List Char} : Spells limit ['-'] (']' :: rest) (.char 0x2D)
  | dash {following : List Char} (inner : following.head? ≠ some ']') :
      Spells limit ['-'] following .dash
  | property {spelled following : List Char} {escape : PropertyEscape}
      (scanned :
        PropertyEscape.scan limit (spelled ++ following) = .ok (some (escape, following))) :
      Spells limit spelled following (.property escape)
  | shorthand {c : Char} {kind : Shorthand} {negated : Bool} {following : List Char}
      (letter : (c, kind, negated) ∈ setLetters) :
      Spells limit ['\\', c] following (.shorthand kind negated)
  | control {c : Char} {code : Nat} {following : List Char}
      (letter : (c, code) ∈ controlLetters) : Spells limit ['\\', c] following (.char code)
  | null {following : List Char}
      (alone : ∀ d, following.head? = some d → d.isDigit = false) :
      Spells limit ['\\', '0'] following (.char 0)
  | controlLetter {letter : Char} {following : List Char} (alpha : letter.isAlpha = true) :
      Spells limit ['\\', 'c', letter] following (.char (letter.toNat % 32))
  | byte {digits following : List Char} {code : Nat} (two : digits.length = 2)
      (value : HexNumber digits code) : Spells limit ('\\' :: 'x' :: digits) following (.char code)
  | braced {digits following : List Char} {code : Nat} (some : digits ≠ [])
      (value : HexNumber digits code) (domain : code ≤ 0x10FFFF) :
      Spells limit ('\\' :: 'u' :: '{' :: (digits ++ ['}'])) following (.char code)
  | unit {spelled following : List Char} {unit : Nat} (escape : UnitEscape spelled unit)
      (alone : LeadUnit unit → ∀ next rest trail, following = next ++ rest →
        UnitEscape next trail → ¬ TrailUnit trail) :
      Spells limit spelled following (.char unit)
  | pair {first second following : List Char} {lead trail : Nat}
      (leading : UnitEscape first lead) (trailing : UnitEscape second trail)
      (surrogates : LeadUnit lead ∧ TrailUnit trail) :
      Spells limit (first ++ second) following
        (.char (0x10000 + (lead - 0xD800) * 0x400 + (trail - 0xDC00)))
  | quoted {c : Char} {following : List Char} (syntactic : c ∈ quotedChars) :
      Spells limit ['\\', c] following (.char c.toNat)

/-- `Cut limit text items rest`: the text begins with the spellings of `items` and a closing
bracket, after which `rest` remains. -/
inductive Cut (limit : Nat) : List Char → List ClassItem → List Char → Prop
  | close (rest : List Char) : Cut limit (']' :: rest) [] rest
  | item {spelled following rest : List Char} {item : ClassItem} {items : List ClassItem}
      (spells : Spells limit spelled following item) (tail : Cut limit following items rest) :
      Cut limit (spelled ++ following) (item :: items) rest

/-! ### Readers give spellings -/

variable {limit : Nat} {text rest : List Char} {item : ClassItem}

/-- The text begins with a spelling of the item. -/
def Begins (limit : Nat) (text : List Char) (item : ClassItem) (rest : List Char) : Prop :=
  ∃ spelled, text = spelled ++ rest ∧ Spells limit spelled rest item

theorem readNull_eq_ok : readNull ⟨true, limit⟩ text = .ok (item, rest) ↔
    rest = text ∧ item = .char 0 ∧ ∀ d, text.head? = some d → d.isDigit = false := by
  have halone : (∀ d, text.head? = some d → d.isDigit = false) ↔
      ¬ text.head?.any Char.isDigit = true := by
    cases text <;> simp
  unfold readNull
  rw [halone]
  by_cases hdigit : text.head?.any Char.isDigit = true
  · simp [hdigit]
  · simp only [hdigit, Bool.and_false, Bool.false_eq_true, if_false, Except.ok.injEq,
      Prod.mk.injEq, not_false_eq_true, and_true]
    constructor
    · rintro ⟨rfl, rfl⟩
      exact ⟨rfl, rfl⟩
    · rintro ⟨rfl, rfl⟩
      exact ⟨rfl, rfl⟩

theorem readControl_eq_ok : readControl ⟨true, limit⟩ text = .ok (item, rest) ↔
    ∃ letter, text = letter :: rest ∧ letter.isAlpha = true ∧
      item = .char (letter.toNat % 32) := by
  unfold readControl
  cases text with
  | nil => simp [readIdentity]
  | cons letter text =>
    by_cases halpha : letter.isAlpha = true
    · simp only [halpha, if_true, Except.ok.injEq, Prod.mk.injEq, List.cons.injEq]
      constructor
      · rintro ⟨rfl, rfl⟩
        exact ⟨letter, ⟨rfl, rfl⟩, halpha, rfl⟩
      · rintro ⟨_, ⟨rfl, rfl⟩, _, rfl⟩
        exact ⟨rfl, rfl⟩
    · simp only [halpha, readIdentity]
      constructor
      · intro h
        exact nomatch h
      · rintro ⟨_, hcons, halpha', _⟩
        rw [(List.cons.inj hcons).1] at halpha
        exact absurd halpha' halpha

theorem readByte_eq_ok : readByte ⟨true, limit⟩ text = .ok (item, rest) ↔
    ∃ digits code, text = digits ++ rest ∧ digits.length = 2 ∧ HexNumber digits code ∧
      item = .char code := by
  unfold readByte
  constructor
  · intro h
    split at h
    · rename_i code after hread
      obtain ⟨rfl, rfl⟩ := Prod.mk.inj (Except.ok.inj h)
      obtain ⟨digits, htext, hlength, hvalue⟩ := (readHex?_eq_some_iff (by decide)).mp hread
      exact ⟨digits, code, htext, hlength, hvalue, rfl⟩
    · exact nomatch h
  · rintro ⟨digits, code, htext, hlength, hvalue, rfl⟩
    rw [(readHex?_eq_some_iff (by decide)).mpr ⟨digits, htext, hlength, hvalue⟩]

theorem readTrail?_eq_some {trail : Nat} : readTrail? text = some (trail, rest) ↔
    ∃ second, text = second ++ rest ∧ UnitEscape second trail ∧ TrailUnit trail := by
  unfold readTrail?
  constructor
  · intro h
    split at h
    · obtain ⟨hread, htrail⟩ := Option.filter_eq_some_iff.mp h
      obtain ⟨digits, rfl, hlength, hvalue⟩ := (readHex?_eq_some_iff (by decide)).mp hread
      exact ⟨'\\' :: 'u' :: digits, rfl, ⟨digits, rfl, hlength, hvalue⟩, isTrail_iff.mp htrail⟩
    · exact nomatch h
  · rintro ⟨_, rfl, ⟨digits, rfl, hlength, hvalue⟩, htrail⟩
    refine Option.filter_eq_some_iff.mpr ⟨?_, isTrail_iff.mpr htrail⟩
    exact (readHex?_eq_some_iff (by decide)).mpr ⟨digits, rfl, hlength, hvalue⟩

theorem readBraced_eq_ok : readBraced text = .ok (item, rest) ↔
    ∃ digits code, text = digits ++ '}' :: rest ∧ digits ≠ [] ∧ HexNumber digits code ∧
      code ≤ maxCodePoint ∧ item = .char code := by
  unfold readBraced
  constructor
  · intro h
    split at h
    · exact nomatch h
    · rename_i body after hsplit
      split at h
      · exact nomatch h
      · exact nomatch h
      · rename_i digits hne hdigits
        split at h
        · exact nomatch h
        · rename_i code hcode
          obtain ⟨rfl, rfl⟩ := Prod.mk.inj (Except.ok.inj h)
          obtain ⟨hvalue, hmax⟩ := codePoint?_eq_some_iff.mp hcode
          refine ⟨body, code, (splitAt?_eq_some hsplit).1, ?_,
            hexNumber_iff.mpr ⟨digits, hdigits, hvalue⟩, hmax, rfl⟩
          rintro rfl
          exact hne (Option.some.inj hdigits).symm
  · rintro ⟨body, code, rfl, hne, hvalue, hmax, rfl⟩
    have hmark : '}' ∉ body := fun h => nomatch hvalue.isSome_of_mem h
    obtain ⟨digits, hdigits, hvalue⟩ := hexNumber_iff.mp hvalue
    have hsome : digits ≠ [] := by
      rintro rfl
      cases body with
      | nil => exact hne rfl
      | cons c body => simp [Option.bind_eq_some_iff] at hdigits
    rw [splitAt?_append hmark]
    simp only [hdigits, codePoint?_eq_some_iff.mpr ⟨hvalue, hmax⟩]

theorem begins_of_readBraced (h : readBraced text = .ok (item, rest)) :
    Begins limit ('\\' :: 'u' :: '{' :: text) item rest := by
  obtain ⟨digits, code, rfl, hne, hvalue, hmax, rfl⟩ := readBraced_eq_ok.mp h
  exact ⟨'\\' :: 'u' :: '{' :: (digits ++ ['}']), by simp, .braced hne hvalue hmax⟩

/-- A lead surrogate takes the trail surrogate with it that follows it, if one does. -/
theorem begins_joinUnit {first : List Char} {unit : Nat} (hunit : UnitEscape first unit)
    (text : List Char) :
    Begins limit (first ++ text) (.char (joinUnit ⟨true, limit⟩ unit text).1)
      (joinUnit ⟨true, limit⟩ unit text).2 := by
  unfold joinUnit
  simp only [Bool.true_and]
  split
  · rename_i hlead
    split
    · rename_i trail rest htrail
      obtain ⟨second, rfl, hsecond, histrail⟩ := readTrail?_eq_some.mp htrail
      exact ⟨first ++ second, by simp, .pair hunit hsecond ⟨isLead_iff.mp hlead, histrail⟩⟩
    · rename_i htrail
      refine ⟨first, rfl, .unit hunit fun _ next rest trail hsplit hnext histrail => ?_⟩
      rw [readTrail?_eq_some.mpr ⟨next, hsplit, hnext, histrail⟩] at htrail
      exact nomatch htrail
  · rename_i hlead
    exact ⟨first, rfl, .unit hunit fun htrue => absurd (isLead_iff.mpr htrue) hlead⟩

theorem begins_of_readUnit (h : readUnit ⟨true, limit⟩ text = .ok (item, rest)) :
    Begins limit ('\\' :: 'u' :: text) item rest := by
  unfold readUnit at h
  split at h
  · rename_i unit after hread
    obtain ⟨rfl, rfl⟩ := Prod.mk.inj (Except.ok.inj h)
    obtain ⟨digits, rfl, hlength, hvalue⟩ := (readHex?_eq_some_iff (by decide)).mp hread
    exact begins_joinUnit ⟨digits, rfl, hlength, hvalue⟩ after
  · exact nomatch h

theorem begins_of_readCodePoint (h : readCodePoint ⟨true, limit⟩ text = .ok (item, rest)) :
    Begins limit ('\\' :: 'u' :: text) item rest := by
  unfold readCodePoint at h
  split at h
  · exact begins_of_readUnit h
  · rename_i c after
    simp only [Bool.true_and, beq_iff_eq] at h
    split at h
    · rename_i hbrace
      subst hbrace
      exact begins_of_readBraced h
    · exact begins_of_readUnit h

theorem begins_of_readProperty {negated : Bool}
    (h : readProperty ⟨true, limit⟩ negated text = .ok (item, rest)) :
    Begins limit ('\\' :: (if negated then 'P' else 'p') :: text) item rest := by
  obtain ⟨escape, hread, rfl⟩ := readProperty_eq_ok.mp h
  obtain ⟨body, rfl⟩ := PropertyEscape.exists_body_of_readBraces hread
  refine ⟨'\\' :: (if negated then 'P' else 'p') :: '{' :: (body ++ ['}']), by simp, .property ?_⟩
  rw [List.cons_append, List.cons_append, PropertyEscape.scan_letter, List.cons_append,
    List.append_assoc]
  exact map_eq_ok_iff.mpr ⟨_, hread, rfl⟩

theorem begins_of_readLetter {c : Char} (h : readLetter ⟨true, limit⟩ c text = .ok (item, rest)) :
    Begins limit ('\\' :: c :: text) item rest := by
  unfold readLetter at h
  split at h
  · obtain ⟨rfl, rfl, halone⟩ := readNull_eq_ok.mp h
    exact ⟨['\\', '0'], rfl, .null halone⟩
  · obtain ⟨letter, rfl, halpha, rfl⟩ := readControl_eq_ok.mp h
    exact ⟨['\\', 'c', letter], rfl, .controlLetter halpha⟩
  · obtain ⟨digits, code, rfl, hlength, hvalue, rfl⟩ := readByte_eq_ok.mp h
    exact ⟨'\\' :: 'x' :: digits, rfl, .byte hlength hvalue⟩
  · exact begins_of_readCodePoint h
  · split at h
    · rename_i hquoted
      obtain ⟨rfl, rfl⟩ := Prod.mk.inj (Except.ok.inj h)
      have hpattern := List.contains_iff_mem.mp hquoted
      exact ⟨['\\', c], rfl, .quoted (mem_patternChars_iff.mp hpattern)⟩
    · exact nomatch h

theorem setLetters_of_shorthand? {c : Char} (h : shorthand? c = some item) :
    ∃ kind negated, item = .shorthand kind negated ∧ (c, kind, negated) ∈ setLetters := by
  unfold shorthand? at h
  split at h <;> cases h <;> exact ⟨_, _, rfl, by simp [setLetters]⟩

theorem controlLetters_of_controlCode? {c : Char} {code : Nat} (h : controlCode? c = some code) :
    (c, code) ∈ controlLetters := by
  unfold controlCode? at h
  split at h <;> cases h <;> simp [controlLetters]

theorem begins_of_readEscape (h : readEscape ⟨true, limit⟩ text = .ok (item, rest)) :
    Begins limit ('\\' :: text) item rest := by
  unfold readEscape at h
  split at h
  · exact nomatch h
  · rename_i c after
    simp only [Bool.true_and, Bool.or_eq_true, beq_iff_eq] at h
    split at h
    · rename_i hletter
      have hc : c = if (c == 'P') = true then 'P' else 'p' := by
        rcases hletter with rfl | rfl <;> rfl
      rw [hc]
      exact begins_of_readProperty h
    · split at h
      · rename_i hset
        obtain ⟨rfl, rfl⟩ := Prod.mk.inj (Except.ok.inj h)
        obtain ⟨kind, negated, rfl, hmem⟩ := setLetters_of_shorthand? hset
        exact ⟨['\\', c], rfl, .shorthand hmem⟩
      · rename_i hcode
        obtain ⟨rfl, rfl⟩ := Prod.mk.inj (Except.ok.inj h)
        exact ⟨['\\', c], rfl, .control (controlLetters_of_controlCode? hcode)⟩
      · exact begins_of_readLetter h

theorem begins_of_read {c : Char} (hc : c ≠ ']')
    (h : read ⟨true, limit⟩ c text = .ok (item, rest)) : Begins limit (c :: text) item rest := by
  unfold read at h
  split at h
  · exact begins_of_readEscape h
  · split at h
    · rename_i hclose
      obtain ⟨rfl, rfl⟩ := Prod.mk.inj (Except.ok.inj h)
      cases text with
      | nil => exact nomatch hclose
      | cons d text =>
        obtain rfl : d = ']' := by simpa using hclose
        exact ⟨['-'], rfl, .finalDash⟩
    · rename_i hinner
      obtain ⟨rfl, rfl⟩ := Prod.mk.inj (Except.ok.inj h)
      exact ⟨['-'], rfl, .dash (by simpa using hinner)⟩
  · rename_i hescape hdash
    obtain ⟨rfl, rfl⟩ := Prod.mk.inj (Except.ok.inj h)
    exact ⟨[c], rfl, .literal (by simp_all)⟩

/-! ### Spellings are read -/

theorem read_literal (options : Options) {c : Char} (h : c ∉ ['\\', ']', '-'])
    (text : List Char) : read options c text = .ok (.char c.toNat, text) := by
  simp only [List.mem_cons, List.not_mem_nil, or_false, not_or] at h
  exact read_of_other options text h.1 h.2.2

/-- A pattern character behind a backslash is itself in both modes. -/
theorem read_quoted (options : Options) {c : Char} (h : c ∈ quotedChars) (text : List Char) :
    read options '\\' (c :: text) = .ok (.char c.toNat, text) := by
  obtain ⟨unicode, limit⟩ := options
  simp only [quotedChars, List.mem_cons, List.not_mem_nil, or_false] at h
  rcases h with
    rfl | rfl | rfl | rfl | rfl | rfl | rfl | rfl | rfl | rfl | rfl | rfl | rfl | rfl | rfl | rfl
    <;> cases unicode <;> rfl

theorem readUnit_of_hex (options : Options) {digits : List Char} {unit : Nat}
    (hlength : digits.length = 4) (hvalue : HexNumber digits unit) (text : List Char) :
    readUnit options (digits ++ text) =
      .ok (.char (joinUnit options unit text).1, (joinUnit options unit text).2) := by
  unfold readUnit
  rw [(readHex?_eq_some_iff (by decide)).mpr ⟨digits, rfl, hlength, hvalue⟩]

/-- Four digits never begin with a brace. -/
theorem readCodePoint_of_hex (options : Options) {digits : List Char} {unit : Nat}
    (hlength : digits.length = 4) (hvalue : HexNumber digits unit) (text : List Char) :
    readCodePoint options (digits ++ text) =
      .ok (.char (joinUnit options unit text).1, (joinUnit options unit text).2) := by
  cases digits with
  | nil => exact nomatch hlength
  | cons c digits =>
    have hc : c ≠ '{' := by
      rintro rfl
      exact nomatch hvalue.isSome_of_mem (List.mem_cons_self ..)
    rw [← readUnit_of_hex options hlength hvalue, List.cons_append, readCodePoint]
    simp [hc]

/-- The escape of a code unit is read in both modes. -/
theorem read_unitEscape (options : Options) {spelled : List Char} {unit : Nat}
    (h : UnitEscape spelled unit) (text : List Char) :
    ∃ after, spelled ++ text = '\\' :: after ∧ read options '\\' after =
      .ok (.char (joinUnit options unit text).1, (joinUnit options unit text).2) := by
  obtain ⟨digits, rfl, hlength, hvalue⟩ := h
  refine ⟨'u' :: (digits ++ text), rfl, ?_⟩
  rw [← readCodePoint_of_hex options hlength hvalue]
  show readEscape options ('u' :: (digits ++ text)) = _
  simp [readEscape, readLetter, shorthand?, controlCode?]

theorem joinUnit_alone (limit : Nat) {unit : Nat}
    (h : LeadUnit unit → readTrail? text = none) :
    joinUnit ⟨true, limit⟩ unit text = (unit, text) := by
  unfold joinUnit
  cases hlead : isLead unit with
  | false => rfl
  | true => simp [h (isLead_iff.mp hlead)]

theorem joinUnit_pair (limit : Nat) {second : List Char} {lead trail : Nat}
    (hlead : LeadUnit lead) (htrail : TrailUnit trail)
    (hsecond : UnitEscape second trail) (text : List Char) :
    joinUnit ⟨true, limit⟩ lead (second ++ text) = (joinSurrogates lead trail, text) := by
  unfold joinUnit
  simp [isLead_iff.mpr hlead, readTrail?_eq_some.mpr ⟨second, rfl, hsecond, htrail⟩]

theorem readTrail?_eq_none
    (h : ∀ next rest trail, text = next ++ rest → UnitEscape next trail → ¬ TrailUnit trail) :
    readTrail? text = none := by
  cases hread : readTrail? text with
  | none => rfl
  | some pair =>
    obtain ⟨second, hsplit, hsecond, htrail⟩ := readTrail?_eq_some.mp hread
    exact absurd htrail (h second _ _ hsplit hsecond)

theorem scan_eq_some {escape : PropertyEscape}
    (h : PropertyEscape.scan limit text = .ok (some (escape, rest))) :
    ∃ negated after, text = '\\' :: (if negated then 'P' else 'p') :: after ∧
      PropertyEscape.readBraces limit negated after = .ok (escape, rest) := by
  have hbraces : ∀ negated after,
      (PropertyEscape.readBraces limit negated after).map some = .ok (some (escape, rest)) →
        PropertyEscape.readBraces limit negated after = .ok (escape, rest) := by
    intro negated after hmap
    obtain ⟨_, hread, hsome⟩ := map_eq_ok_iff.mp hmap
    rw [hread, Option.some.inj hsome]
  unfold PropertyEscape.scan at h
  split at h
  · exact ⟨false, _, rfl, hbraces false _ h⟩
  · exact ⟨true, _, rfl, hbraces true _ h⟩
  · exact nomatch h

/-- A spelling is read as its item, whatever comes after what the rule looks at. -/
theorem read_of_spells {spelled : List Char} (h : Spells limit spelled rest item) :
    ∃ c text, spelled ++ rest = c :: text ∧ c ≠ ']' ∧
      read ⟨true, limit⟩ c text = .ok (item, rest) := by
  cases h with
  | @literal c _ plain =>
    have hclose : c ≠ ']' := fun h => plain (by simp [h])
    exact ⟨c, rest, rfl, hclose, read_literal _ plain rest⟩
  | finalDash => exact ⟨'-', _, rfl, by decide, rfl⟩
  | dash inner => exact ⟨'-', rest, rfl, by decide, by simp [read, inner]⟩
  | @property _ _ escape scanned =>
    obtain ⟨negated, text, htext, hread⟩ := scan_eq_some scanned
    refine ⟨'\\', _, htext, by decide, ?_⟩
    have hproperty : readProperty ⟨true, limit⟩ negated text = .ok (.property escape, rest) :=
      readProperty_eq_ok.mpr ⟨escape, hread, rfl⟩
    rw [← hproperty]
    cases negated <;> rfl
  | @shorthand c _ _ _ letter =>
    refine ⟨'\\', c :: rest, rfl, by decide, ?_⟩
    simp only [setLetters, List.mem_cons, Prod.mk.injEq, List.not_mem_nil, or_false] at letter
    rcases letter with h | h | h | h | h | h <;> obtain ⟨rfl, rfl, rfl⟩ := h <;> rfl
  | @control c _ _ letter =>
    refine ⟨'\\', c :: rest, rfl, by decide, ?_⟩
    simp only [controlLetters, List.mem_cons, Prod.mk.injEq, List.not_mem_nil, or_false] at letter
    rcases letter with h | h | h | h | h | h <;> obtain ⟨rfl, rfl⟩ := h <;> rfl
  | null alone =>
    exact ⟨'\\', '0' :: rest, rfl, by decide, readNull_eq_ok.mpr ⟨rfl, rfl, alone⟩⟩
  | @controlLetter letter _ alpha =>
    exact ⟨'\\', 'c' :: letter :: rest, rfl, by decide,
      readControl_eq_ok.mpr ⟨letter, rfl, alpha, rfl⟩⟩
  | @byte digits _ code two value =>
    exact ⟨'\\', 'x' :: (digits ++ rest), rfl, by decide,
      readByte_eq_ok.mpr ⟨digits, code, rfl, two, value, rfl⟩⟩
  | @braced digits _ code some value domain =>
    exact ⟨'\\', 'u' :: '{' :: (digits ++ '}' :: rest), by simp, by decide,
      readBraced_eq_ok.mpr ⟨digits, code, rfl, some, value, domain, rfl⟩⟩
  | unit escape alone =>
    have halone := joinUnit_alone limit fun hlead => readTrail?_eq_none (alone hlead)
    obtain ⟨after, hafter, hread⟩ := read_unitEscape ⟨true, limit⟩ escape rest
    rw [halone] at hread
    exact ⟨'\\', after, hafter, by decide, hread⟩
  | @pair first second _ _ _ leading trailing surrogates =>
    have hjoin := joinUnit_pair limit surrogates.1 surrogates.2 trailing rest
    obtain ⟨after, hafter, hread⟩ := read_unitEscape ⟨true, limit⟩ leading (second ++ rest)
    rw [hjoin] at hread
    exact ⟨'\\', after, by rw [List.append_assoc, hafter], by decide, hread⟩
  | @quoted c _ syntactic =>
    exact ⟨'\\', c :: rest, rfl, by decide, read_quoted _ syntactic rest⟩

/-- A cut ends with the closing bracket, before the rest. -/
theorem Cut.exists_eq_append {items : List ClassItem} (h : Cut limit text items rest) :
    ∃ inner, text = inner ++ ']' :: rest := by
  induction h with
  | close rest => exact ⟨[], rfl⟩
  | @item spelled _ _ _ _ _ _ ih =>
    obtain ⟨inner, rfl⟩ := ih
    exact ⟨spelled ++ inner, (List.append_assoc ..).symm⟩

theorem readAll_of_cut {items : List ClassItem} (h : Cut limit text items rest) :
    readAll ⟨true, limit⟩ text = (items, .ok rest) := by
  induction h with
  | close rest => exact readAll_close _ rest
  | item spells _ ih =>
    obtain ⟨c, text, hsplit, hc, hread⟩ := read_of_spells spells
    rw [hsplit, readAll_ok hc hread, ih]

theorem cut_of_readAll {items : List ClassItem}
    (h : readAll ⟨true, limit⟩ text = (items, .ok rest)) : Cut limit text items rest := by
  fun_induction readAll ⟨true, limit⟩ text generalizing items with
  | case1 => exact nomatch (Prod.mk.inj h).2
  | case2 after =>
    obtain ⟨rfl, hrest⟩ := Prod.mk.inj h
    obtain rfl := Except.ok.inj hrest
    exact .close _
  | case3 c text hc e hread => exact nomatch (Prod.mk.inj h).2
  | case4 c text hc item after hread items' ending hafter ih =>
    obtain ⟨rfl, rfl⟩ := Prod.mk.inj h
    obtain ⟨spelled, hsplit, hspells⟩ := begins_of_read hc hread
    rw [hsplit]
    exact .item hspells (ih hafter)

/-- The readers cut a text as the grammar does. -/
theorem cut_iff_readAll {items : List ClassItem} :
    Cut limit text items rest ↔ readAll ⟨true, limit⟩ text = (items, .ok rest) :=
  ⟨readAll_of_cut, cut_of_readAll⟩

end ClassItem

end UnicodeClasses

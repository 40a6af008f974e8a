import UnicodeClasses.CharClass
import UnicodeClasses.Proofs.BracketGrammar

/-!
# Patterns delimit themselves

The readers of a bracket expression look ahead of what they take: for the digits of an escape, for
the second half of a surrogate pair, for a closing brace. Up to the closing bracket no such look
reaches the end of the text, so that text after a complete pattern never changes its meaning.
-/
namespace UnicodeClasses

/-- A text of digits holds no bracket, so a window of digits never extends beyond one. -/
theorem hexNumber?_eq_none {text : List Char} (h : ']' ∈ text) : hexNumber? text = none := by
  cases hvalue : hexNumber? text with
  | none => rfl
  | some value =>
    have hdigit := (hexNumber?_eq_some_iff.mp hvalue).2.isSome_of_mem h
    exact nomatch hdigit

theorem readHex?_append {text : List Char} (h : ']' ∈ text) (count : Nat) (more : List Char) :
    readHex? count (text ++ more) =
      (readHex? count text).map fun read => (read.1, read.2 ++ more) := by
  by_cases hcount : count ≤ text.length
  · simp only [readHex?, List.take_append_of_le_length hcount, List.drop_append_of_le_length hcount]
    split
    · rfl
    · rw [Option.map_map]
      rfl
  · -- the window reaches beyond the bracket, with or without the further text
    have hshort : (text.take count).length < count := by
      rw [List.length_take]
      omega
    have hwindow : ']' ∈ (text ++ more).take count := by
      rw [List.take_append, List.take_of_length_le (by omega)]
      exact List.mem_append_left _ h
    simp only [readHex?, hshort, if_true, hexNumber?_eq_none hwindow]
    split <;> rfl

theorem PropertyEscape.readBraces_append {limit : Nat} {negated : Bool} {text rest : List Char}
    {escape : PropertyEscape} (h : readBraces limit negated text = .ok (escape, rest))
    (more : List Char) : readBraces limit negated (text ++ more) = .ok (escape, rest ++ more) := by
  unfold readBraces at h
  split at h
  · rename_i text
    split at h
    · cases h
    · rename_i body after hsplit
      obtain ⟨token, htoken, hpair⟩ := map_eq_ok_iff.mp h
      obtain ⟨rfl, rfl⟩ := Prod.mk.inj hpair
      rw [List.cons_append, readBraces, splitAt?_append_right hsplit more]
      exact map_eq_ok_iff.mpr ⟨token, htoken, rfl⟩
  · cases h

namespace ClassItem

/-- A reading takes a first part of the text. As long as the closing bracket is still to come,
text after the end changes only what is left. -/
def Settled (reading : List Char → Reading) (text : List Char) : Prop :=
  ∀ item rest, reading text = .ok (item, rest) →
    rest <:+ text ∧ (']' ∈ rest → ∀ more, reading (text ++ more) = .ok (item, rest ++ more))

variable (options : Options) (text : List Char)

theorem Settled.congr {reading reading' : List Char → Reading} {text : List Char}
    (h : Settled reading text) (heq : ∀ more, reading' (text ++ more) = reading (text ++ more)) :
    Settled reading' text := by
  have htext : reading' text = reading text := by simpa using heq []
  intro item rest hread
  obtain ⟨hsuffix, hmore⟩ := h item rest (htext.symm.trans hread)
  exact ⟨hsuffix, fun hclose more => (heq more).trans (hmore hclose more)⟩

theorem Settled.cons {reading reading' : List Char → Reading} {text : List Char}
    (h : Settled reading text) {c : Char} (heq : ∀ text, reading' (c :: text) = reading text) :
    Settled reading' (c :: text) := by
  intro item rest hread
  obtain ⟨hsuffix, hmore⟩ := h item rest ((heq text).symm.trans hread)
  exact ⟨hsuffix.trans (List.suffix_cons c text),
    fun hclose more => (heq (text ++ more)).trans (hmore hclose more)⟩

/-- Where the text has ended, no closing bracket is to come. -/
theorem settled_nil {reading : List Char → Reading}
    (h : ∀ item rest, reading [] = .ok (item, rest) → rest <:+ []) : Settled reading [] := by
  intro item rest hread
  have hsuffix := h item rest hread
  refine ⟨hsuffix, fun hclose => ?_⟩
  exact nomatch hsuffix.subset hclose

/-- A reader that takes nothing more is settled. -/
theorem settled_ok (item : ClassItem) : Settled (fun text => .ok (item, text)) text := by
  rintro _ _ ⟨⟩
  exact ⟨List.suffix_refl _, fun _ _ => rfl⟩

theorem settled_error (e : CompileError) : Settled (fun _ => .error e) text :=
  fun _ _ h => nomatch h

theorem settled_readIdentity (c : Char) : Settled (readIdentity options c) text := by
  by_cases hunicode : options.unicode = true
  · exact (settled_error text _).congr fun _ => if_pos hunicode
  · exact (settled_ok text _).congr fun _ => if_neg hunicode

theorem settled_readNull : Settled (readNull options) text := by
  cases text with
  | nil =>
    refine settled_nil fun item rest h => ?_
    simp only [readNull, List.head?_nil, Option.any_none, Bool.and_false] at h
    exact (settled_ok [] _ item rest h).1
  | cons d text =>
    by_cases hdigit : (options.unicode && d.isDigit) = true
    · exact (settled_error (d :: text) _).congr fun _ => if_pos hdigit
    · exact (settled_ok (d :: text) _).congr fun _ => if_neg hdigit

theorem settled_readControl : Settled (readControl options) text := by
  cases text with
  | nil => exact settled_nil fun item rest h => (settled_readIdentity options [] 'c' item rest h).1
  | cons letter text =>
    by_cases halpha : letter.isAlpha = true
    · exact (settled_ok text _).cons fun _ => if_pos halpha
    · exact (settled_readIdentity options (letter :: text) 'c').congr fun _ => if_neg halpha

theorem settled_readByte : Settled (readByte options) text := by
  intro item rest h
  unfold readByte at h
  split at h
  · rename_i code after hread
    obtain ⟨rfl, rfl⟩ := Prod.mk.inj (Except.ok.inj h)
    obtain ⟨digits, rfl, -, -⟩ := (readHex?_eq_some_iff (by decide)).mp hread
    refine ⟨List.suffix_append _ _, fun hclose more => ?_⟩
    unfold readByte
    rw [readHex?_append (List.mem_append_right _ hclose), hread]
    rfl
  · rename_i hread
    obtain ⟨hsuffix, hmore⟩ := settled_readIdentity options text 'x' item rest h
    refine ⟨hsuffix, fun hclose more => ?_⟩
    unfold readByte
    rw [readHex?_append (hsuffix.subset hclose), hread]
    exact hmore hclose more

theorem readTrail?_append {text : List Char} (h : ']' ∈ text) (more : List Char) :
    readTrail? (text ++ more) = (readTrail? text).map fun read => (read.1, read.2 ++ more) := by
  rcases text with _ | ⟨c, _ | ⟨d, text⟩⟩
  · exact nomatch h
  · obtain rfl := List.mem_singleton.mp h
    rfl
  · by_cases hescape : c = '\\' ∧ d = 'u'
    · obtain ⟨rfl, rfl⟩ := hescape
      have hclose : ']' ∈ text := by simpa using h
      simp only [readTrail?, List.cons_append, readHex?_append hclose]
      cases readHex? 4 text with
      | none => rfl
      | some read => cases htrail : isTrail read.1 <;> simp [Option.filter, htrail]
    · have hnone : ∀ text, readTrail? (c :: d :: text) = none := by
        intro text
        unfold readTrail?
        split
        · simp_all
        · rfl
      rw [List.cons_append, List.cons_append, hnone, hnone]
      rfl

theorem suffix_of_readTrail? {text rest : List Char} {trail : Nat}
    (h : readTrail? text = some (trail, rest)) : rest <:+ text := by
  obtain ⟨second, rfl, -⟩ := readTrail?_eq_some.mp h
  exact List.suffix_append _ _

theorem joinUnit_suffix (unit : Nat) : (joinUnit options unit text).2 <:+ text := by
  unfold joinUnit
  split
  · split
    · exact suffix_of_readTrail? ‹_›
    · exact List.suffix_refl _
  · exact List.suffix_refl _

theorem joinUnit_append {text : List Char} (h : ']' ∈ text) (unit : Nat) (more : List Char) :
    joinUnit options unit (text ++ more) =
      ((joinUnit options unit text).1, (joinUnit options unit text).2 ++ more) := by
  unfold joinUnit
  rw [readTrail?_append h]
  split
  · cases readTrail? text with
    | none => rfl
    | some read =>
      obtain ⟨trail, rest⟩ := read
      simp only [Option.map_some]
  · rfl

theorem settled_readUnit : Settled (readUnit options) text := by
  intro item rest h
  unfold readUnit at h
  split at h
  · rename_i unit after hread
    obtain ⟨rfl, rfl⟩ := Prod.mk.inj (Except.ok.inj h)
    obtain ⟨digits, rfl, -, -⟩ := (readHex?_eq_some_iff (by decide)).mp hread
    have hjoin := joinUnit_suffix options after unit
    refine ⟨hjoin.trans (List.suffix_append _ _), fun hclose more => ?_⟩
    have hafter : ']' ∈ after := hjoin.subset hclose
    unfold readUnit
    rw [readHex?_append (List.mem_append_right _ hafter), hread]
    simp only [Option.map_some, joinUnit_append options hafter]
  · rename_i hread
    obtain ⟨hsuffix, hmore⟩ := settled_readIdentity options text 'u' item rest h
    refine ⟨hsuffix, fun hclose more => ?_⟩
    unfold readUnit
    rw [readHex?_append (hsuffix.subset hclose), hread]
    exact hmore hclose more

theorem settled_readBraced : Settled readBraced text := by
  intro item rest h
  obtain ⟨digits, code, rfl, hne, hvalue, hmax, rfl⟩ := readBraced_eq_ok.mp h
  refine ⟨(List.suffix_cons '}' rest).trans (List.suffix_append _ _), fun _ more => ?_⟩
  exact readBraced_eq_ok.mpr ⟨digits, code, by simp, hne, hvalue, hmax, rfl⟩

theorem settled_readCodePoint : Settled (readCodePoint options) text := by
  cases text with
  | nil => exact settled_nil fun item rest h => (settled_readUnit options [] item rest h).1
  | cons c text =>
    by_cases hbrace : (options.unicode && c == '{') = true
    · exact (settled_readBraced text).cons fun _ => if_pos hbrace
    · exact (settled_readUnit options (c :: text)).congr fun _ => if_neg hbrace

theorem settled_readProperty (negated : Bool) : Settled (readProperty options negated) text := by
  intro item rest h
  obtain ⟨escape, hread, rfl⟩ := readProperty_eq_ok.mp h
  refine ⟨?_, fun _ more => ?_⟩
  · obtain ⟨body, rfl⟩ := PropertyEscape.exists_body_of_readBraces hread
    exact ((List.suffix_cons '}' rest).trans (List.suffix_append _ _)).trans
      (List.suffix_cons '{' _)
  · exact readProperty_eq_ok.mpr ⟨escape, PropertyEscape.readBraces_append hread more, rfl⟩

theorem settled_readLetter (c : Char) : Settled (readLetter options c) text := by
  by_cases h0 : c = '0'
  · subst h0
    exact settled_readNull options text
  by_cases hc : c = 'c'
  · subst hc
    exact settled_readControl options text
  by_cases hx : c = 'x'
  · subst hx
    exact settled_readByte options text
  by_cases hu : c = 'u'
  · subst hu
    exact settled_readCodePoint options text
  have hother := fun text => readLetter_of_other options text h0 hc hx hu
  by_cases hquoted : patternChars.contains c = true
  · exact (settled_ok text _).congr fun _ => (hother _).trans (if_pos hquoted)
  · exact (settled_readIdentity options text c).congr fun _ => (hother _).trans (if_neg hquoted)

theorem settled_readEscape : Settled (readEscape options) text := by
  cases text with
  | nil => exact settled_nil fun _ _ h => nomatch h
  | cons c text =>
    by_cases hproperty : (options.unicode && (c == 'p' || c == 'P')) = true
    · exact (settled_readProperty options text _).cons fun _ => if_pos hproperty
    cases hset : shorthand? c with
    | some item =>
      refine (settled_ok text item).cons fun text => ?_
      rw [readEscape, if_neg hproperty, hset]
    | none =>
      cases hcode : controlCode? c with
      | some code =>
        refine (settled_ok text (.char code)).cons fun text => ?_
        rw [readEscape, if_neg hproperty, hset, hcode]
      | none =>
        refine (settled_readLetter options text c).cons fun text => ?_
        rw [readEscape, if_neg hproperty, hset, hcode]

theorem settled_read (c : Char) : Settled (read options c) text := by
  by_cases hescape : c = '\\'
  · subst hescape
    exact settled_readEscape options text
  by_cases hdash : c = '-'
  · subst hdash
    cases text with
    | nil => exact settled_nil fun item rest h => (settled_ok [] .dash item rest h).1
    | cons d text =>
      by_cases hclose : d = ']'
      · exact (settled_ok (d :: text) _).congr fun _ => if_pos (by simp [hclose])
      · exact (settled_ok (d :: text) _).congr fun _ => if_neg (by simp [hclose])
  · exact (settled_ok text (.char c.toNat)).congr fun more =>
      read_of_other options (text ++ more) hescape hdash

/-- A reading that comes to the closing bracket finds it in the text, and text after the end stays
behind it. -/
theorem readAll_append {text rest : List Char} (h : (readAll options text).2 = .ok rest) :
    ']' ∈ text ∧ ∀ more,
      readAll options (text ++ more) = ((readAll options text).1, .ok (rest ++ more)) := by
  fun_induction readAll options text with
  | case1 => simp at h
  | case2 after =>
    obtain rfl := Except.ok.inj h
    exact ⟨List.mem_cons_self .., fun more => readAll_close options (after ++ more)⟩
  | case3 c text hc e hread => simp at h
  | case4 c text hc item after hread items ending hafter ih =>
    rw [hafter] at ih
    obtain ⟨hclose, hmore⟩ := ih h
    obtain ⟨hsuffix, hsettled⟩ := settled_read options text c item after hread
    refine ⟨List.mem_cons_of_mem _ (hsuffix.subset hclose), fun more => ?_⟩
    rw [List.cons_append, readAll_ok hc (hsettled hclose more), hmore more]

end ClassItem

variable {registry : Registry} {options : Options} {text rest : List Char}

theorem ClassBuilder.collect_append {builder last : ClassBuilder}
    (h : builder.collect registry options text = .ok (last, rest)) (more : List Char) :
    text ≠ [] ∧ builder.collect registry options (text ++ more) = .ok (last, rest ++ more) := by
  obtain ⟨hrest, hpush⟩ := collect_eq_ok_iff.mp h
  obtain ⟨hclose, hmore⟩ := ClassItem.readAll_append options hrest
  refine ⟨List.ne_nil_of_mem hclose, collect_eq_ok_iff.mpr ?_⟩
  rw [hmore more]
  exact ⟨rfl, hpush⟩

namespace BracketClass

theorem Opens.append {body : List Char} {negated : Bool} (h : Opens text negated body)
    (hbody : body ≠ []) (more : List Char) : Opens (text ++ more) negated (body ++ more) := by
  cases h with
  | plain unmarked =>
    obtain ⟨c, body, rfl⟩ := List.exists_cons_of_ne_nil hbody
    exact .plain unmarked
  | marked => exact .marked (body ++ more)

theorem read_append {bracket : BracketClass} (h : read registry options text = .ok (bracket, rest))
    (more : List Char) : read registry options (text ++ more) = .ok (bracket, rest ++ more) := by
  obtain ⟨body, builder, hopens, hcollect, hset, hlength⟩ := read_eq_ok.mp h
  obtain ⟨hbody, hmore⟩ := ClassBuilder.collect_append hcollect more
  refine read_eq_ok.mpr ⟨body ++ more, builder, hopens.append hbody more, hmore, hset, ?_⟩
  rw [hlength, byteSize_append, byteSize_append]
  omega

end BracketClass

theorem PropertyEscape.scan_append {limit : Nat} {escape : PropertyEscape}
    (h : scan limit text = .ok (some (escape, rest))) (more : List Char) :
    scan limit (text ++ more) = .ok (some (escape, rest ++ more)) := by
  obtain ⟨negated, after, rfl, hread⟩ := ClassItem.scan_eq_some h
  rw [List.cons_append, List.cons_append, scan_letter, readBraces_append hread more]
  rfl

theorem CompiledEscape.read?_append {compiled : CompiledEscape}
    (h : read? registry options text = .ok (some (compiled, rest))) (more : List Char) :
    read? registry options (text ++ more) = .ok (some (compiled, rest ++ more)) := by
  obtain ⟨hunicode, hscan, hresolve⟩ := read?_eq_some.mp h
  exact read?_eq_some.mpr ⟨hunicode, PropertyEscape.scan_append hscan more, hresolve⟩

theorem CompiledEscape.exists_of_read? {compiled : CompiledEscape}
    (h : read? registry options text = .ok (some (compiled, rest))) :
    ∃ after, text = '\\' :: after := by
  obtain ⟨-, hscan, -⟩ := read?_eq_some.mp h
  obtain ⟨negated, after, rfl, -⟩ := ClassItem.scan_eq_some hscan
  exact ⟨_, rfl⟩

namespace CharClass

/-- The start of a pattern is a bracket expression or a property escape. -/
theorem readSet_eq_ok {set : RangeSet} : readSet registry options text = .ok (set, rest) ↔
    (text.head? = some '[' ∧ ∃ bracket,
      BracketClass.read registry options text = .ok (bracket, rest) ∧ bracket.set = set) ∨
    (text.head? ≠ some '[' ∧ ∃ compiled,
      CompiledEscape.read? registry options text = .ok (some (compiled, rest)) ∧
        compiled.set = set) := by
  unfold readSet
  by_cases hopen : text.head? = some '['
  · simp only [hopen, BEq.rfl, if_true, true_and, ne_eq, not_true_eq_false, false_and, or_false]
    rw [map_eq_ok_iff]
    constructor
    · rintro ⟨⟨bracket, after⟩, hread, hpair⟩
      obtain ⟨hset, rfl⟩ := Prod.mk.inj hpair
      exact ⟨bracket, hread, hset⟩
    · rintro ⟨bracket, hread, rfl⟩
      exact ⟨(bracket, rest), hread, rfl⟩
  · simp only [hopen, beq_iff_eq, if_false, false_and, ne_eq, not_false_eq_true, true_and, false_or]
    constructor
    · intro h
      split at h
      · exact nomatch h
      · exact nomatch h
      · rename_i compiled after hread
        obtain ⟨hset, rfl⟩ := Prod.mk.inj (Except.ok.inj h)
        exact ⟨compiled, hread, hset⟩
    · rintro ⟨compiled, hread, rfl⟩
      rw [hread]

theorem readSet_append {set : RangeSet} (h : readSet registry options text = .ok (set, rest))
    (more : List Char) : readSet registry options (text ++ more) = .ok (set, rest ++ more) := by
  rcases readSet_eq_ok.mp h with ⟨hopen, bracket, hread, hset⟩ | ⟨hopen, compiled, hread, hset⟩
  · have hopen' : (text ++ more).head? = some '[' := by simp [hopen]
    exact readSet_eq_ok.mpr (.inl ⟨hopen', bracket, BracketClass.read_append hread more, hset⟩)
  · obtain ⟨after, rfl⟩ := CompiledEscape.exists_of_read? hread
    exact readSet_eq_ok.mpr (.inr ⟨hopen, compiled, CompiledEscape.read?_append hread more, hset⟩)

theorem compile_eq_ok {pattern : String} {c : CharClass} :
    compile registry options pattern = .ok c ↔
      readSet registry options pattern.toList = .ok (c.set, []) := by
  unfold compile
  constructor
  · intro h
    split at h
    · exact nomatch h
    · rename_i set hread
      obtain rfl := Except.ok.inj h
      exact hread
    · exact nomatch h
  · intro h
    rw [h]

/-- Text that a reading leaves is refused, and the error names all of it. -/
theorem compile_trailing {pattern more : String} {set : RangeSet} (hmore : more ≠ "")
    (h : readSet registry options pattern.toList = .ok (set, more.toList)) :
    compile registry options pattern = .error (.ofCauseAbout .trailingText more) := by
  unfold compile
  rw [h]
  cases hlist : more.toList with
  | nil => exact absurd (String.toList_eq_nil_iff.mp hlist) hmore
  | cons c rest =>
    simp only
    rw [← hlist, String.ofList_toList]

/-- A pattern that compiles delimits itself. Any text after it is refused as trailing text, and a
bracket expression is read as before, up to and including its last byte. -/
theorem compile_self_delimiting (registry : Registry) (options : Options) {pattern : String}
    {c : CharClass} (h : compile registry options pattern = .ok c) :
    (∀ more : String, more ≠ "" → compile registry options (pattern ++ more) =
      .error (.malformedClass Cause.trailingText.code
        ((wordingOf Cause.trailingText.code).fill (some more)))) ∧
    (pattern.toList.head? = some '[' → ∃ bracket,
      BracketClass.read registry options pattern.toList = .ok (bracket, []) ∧
      bracket.set = c.set ∧ bracket.length = pattern.utf8ByteSize ∧
      ∀ more : String, BracketClass.read registry options (pattern ++ more).toList =
        .ok (bracket, more.toList)) := by
  have hread := compile_eq_ok.mp h
  constructor
  · intro more hmore
    apply compile_trailing hmore
    rw [String.toList_append]
    exact readSet_append hread more.toList
  · intro hopen
    obtain ⟨-, bracket, hbracket, hset⟩ :=
      (readSet_eq_ok.mp hread).resolve_right fun hescape => hescape.1 hopen
    obtain ⟨_, _, -, -, -, hlength⟩ := BracketClass.read_eq_ok.mp hbracket
    refine ⟨bracket, hbracket, hset, ?_, fun more => ?_⟩
    · rw [hlength, byteSize_toList]
      rfl
    · rw [String.toList_append]
      exact BracketClass.read_append hbracket more.toList

/-- A pair of escaped surrogates is one item. -/
theorem read_surrogate_pair (registry : Registry) :
    BracketClass.read registry {} "[\\uD83D\\uDE00]".toList =
      .ok (⟨(∅ : RangeSet).insert 0x1F600, false, 14⟩, []) := by
  have hitem : ClassItem.read {} '\\'
      ['u', 'D', '8', '3', 'D', '\\', 'u', 'D', 'E', '0', '0', ']'] =
        .ok (.char 0x1F600, [']']) := rfl
  have hcollect : ClassBuilder.collect registry {} {}
      ['\\', 'u', 'D', '8', '3', 'D', '\\', 'u', 'D', 'E', '0', '0', ']'] =
        .ok (⟨∅, .literal 0x1F600⟩, []) := by
    apply ClassBuilder.collect_eq_ok_iff.mpr
    rw [ClassItem.readAll_ok (by decide) hitem, ClassItem.readAll_close]
    exact ⟨rfl, rfl⟩
  exact BracketClass.read_eq_ok.mpr ⟨_, _, .plain (by decide), hcollect, rfl, by decide⟩

/-- Behind the bracket, a further trail surrogate is trailing text. -/
theorem surrogate_pair_self_delimiting :
    compile ⟨⟨14, 0, 0⟩, {}⟩ {} "[\\uD83D\\uDE00]" = .ok ⟨(∅ : RangeSet).insert 0x1F600⟩ ∧
      compile ⟨⟨14, 0, 0⟩, {}⟩ {} ("[\\uD83D\\uDE00]" ++ "\\uDE00]") =
        .error (.malformedClass (-117) ((wordingOf (-117)).fill (some "\\uDE00]"))) ∧
      BracketClass.read ⟨⟨14, 0, 0⟩, {}⟩ {} ("[\\uD83D\\uDE00]" ++ "\\uDE00]").toList =
        .ok (⟨(∅ : RangeSet).insert 0x1F600, false, 14⟩, "\\uDE00]".toList) := by
  have hread := read_surrogate_pair ⟨⟨14, 0, 0⟩, {}⟩
  have h : compile ⟨⟨14, 0, 0⟩, {}⟩ {} "[\\uD83D\\uDE00]" =
      .ok ⟨(∅ : RangeSet).insert 0x1F600⟩ :=
    compile_eq_ok.mpr (readSet_eq_ok.mpr (.inl ⟨rfl, _, hread, rfl⟩))
  obtain ⟨htrailing, hbracket⟩ := compile_self_delimiting ⟨⟨14, 0, 0⟩, {}⟩ {} h
  obtain ⟨bracket, hbracket, -, -, hmore⟩ := hbracket rfl
  rw [hread] at hbracket
  obtain ⟨rfl, -⟩ := Prod.mk.inj (Except.ok.inj hbracket)
  exact ⟨h, htrailing "\\uDE00]" (by decide), hmore "\\uDE00]"⟩

end CharClass
end UnicodeClasses

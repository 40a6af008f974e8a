import UnicodeClasses.Proofs.CheckedScanner
import UnicodeClasses.Proofs.SelfDelimiting

/-!
# The positions of the scanner

The scanner and the readers keep step: wherever the readers have a text left, the scanner stands
where that text begins.
-/
namespace UnicodeClasses

theorem toNat_lt_of_isAlpha {c : Char} (h : c.isAlpha = true) : c.toNat < 128 := by
  have hcase : (c.isUpper || c.isLower) = true := h
  rcases Bool.or_eq_true_iff.mp hcase with hletter | hletter
  · have hbounds : 'A' ≤ c ∧ c ≤ 'Z' := of_decide_eq_true hletter
    exact toNat_lt_of_le hbounds.2 (by decide)
  · have hbounds : (decide ('a' ≤ c) && decide (c ≤ 'z')) = true := hletter
    have hle : c ≤ 'z' := of_decide_eq_true (Bool.and_eq_true_iff.mp hbounds).2
    exact toNat_lt_of_le hle (by decide)

theorem HexNumber.byteSize_eq {text : List Char} {value : Nat} (h : HexNumber text value) :
    byteSize text = text.length :=
  byteSize_eq_length fun _ hc => toNat_lt_of_isSome_hexDigit? (h.isSome_of_mem hc)

/-- Digits counted in bytes are digits counted in characters. -/
theorem hexNumber?_slice? {text rest : List Char} {pos count : Nat}
    (h : sliceFrom? text pos = some rest) (hcount : 0 < count) :
    (slice? text pos (pos + count)).bind hexNumber? = (readHex? count rest).map Prod.fst := by
  obtain ⟨before, rfl, rfl⟩ := sliceFrom?_eq_some_iff.mp h
  apply Option.ext
  intro value
  rw [Option.bind_eq_some_iff, Option.map_eq_some_iff]
  constructor
  · rintro ⟨digits, hslice, hvalue⟩
    obtain ⟨before', after, htext, hbefore, hsize⟩ := slice?_eq_some_iff.mp hslice
    obtain ⟨-, hvalue⟩ := hexNumber?_eq_some_iff.mp hvalue
    have hrest : rest = digits ++ after := by
      have hcut := cutBytes?_append before' (digits ++ after)
      rw [hbefore, ← htext, cutBytes?_append] at hcut
      exact (Prod.mk.inj (Option.some.inj hcut)).2
    refine ⟨(value, after), (readHex?_eq_some_iff hcount).mpr ⟨digits, hrest, ?_, hvalue⟩, rfl⟩
    rw [← hvalue.byteSize_eq]
    omega
  · rintro ⟨⟨_, after⟩, hread, rfl⟩
    obtain ⟨digits, rfl, hlength, hvalue⟩ := (readHex?_eq_some_iff hcount).mp hread
    have hne : digits ≠ [] := by
      rintro rfl
      exact absurd hlength (by simp; omega)
    refine ⟨digits, slice?_eq_some_iff.mpr ⟨before, after, rfl, rfl, ?_⟩,
      hexNumber?_eq_some_iff.mpr ⟨hne, hvalue⟩⟩
    rw [hvalue.byteSize_eq, hlength]

namespace Scan
open ClassItem

theorem checked_some {α : Type} (a : α) : (checked (some a) : Except ScanFault α) = .ok a := rfl

section Moves

variable {text rest after : List Char} {pos : Nat}

theorem run_pure {α : Type} {a : α} : (pure a : Scan α).run pos = .ok (a, pos) := rfl

theorem run_get : (get : Scan Nat).run pos = .ok (pos, pos) := rfl

/-- A computation without a position leaves the position alone. -/
theorem run_liftM {α : Type} {a : α} :
    (liftM (pure a : Except ScanFault α) : Scan α).run pos = .ok (a, pos) := rfl

theorem run_checked {α : Type} {a : α} : (checked (some a) : Scan α).run pos = .ok (a, pos) := rfl

theorem run_bind_ok {α β : Type} {x : Scan α} {a : α} {stop : Nat}
    (h : x.run pos = .ok (a, stop)) (f : α → Scan β) : (x >>= f).run pos = (f a).run stop := by
  rw [StateT.run_bind, h]
  rfl

theorem run_bind_error {α β : Type} {x : Scan α} {fault : ScanFault}
    (h : x.run pos = .error fault) (f : α → Scan β) : (x >>= f).run pos = .error fault := by
  rw [StateT.run_bind, h]
  rfl

theorem run_cutAt {start : Nat} (h : sliceFrom? text start = some rest) :
    (cutAt text start).run pos = .ok (rest, pos) := by
  rw [cutAt, h]
  rfl

theorem run_remaining (h : sliceFrom? text pos = some rest) :
    (remaining text).run pos = .ok (rest, pos) :=
  run_cutAt h

theorem run_moveTo {target : Nat} (h : sliceFrom? text target = some rest) :
    (moveTo text target).run pos = .ok ((), target) := by
  rw [moveTo, run_bind_ok (run_cutAt h)]
  rfl

theorem run_advance {bytes : Nat} (h : sliceFrom? text (pos + bytes) = some rest) :
    (advance text bytes).run pos = .ok ((), pos + bytes) :=
  run_moveTo h

theorem run_peek (h : sliceFrom? text pos = some rest) :
    (peek text).run pos = .ok (rest.head?, pos) := by
  rw [peek, run_bind_ok (run_remaining h)]
  rfl

theorem run_nextChar_nil (h : sliceFrom? text pos = some []) :
    (nextChar text).run pos = .ok (none, pos) := by
  rw [nextChar, run_bind_ok (run_peek h)]
  rfl

theorem run_nextChar_cons {c : Char} (h : sliceFrom? text pos = some (c :: rest)) :
    (nextChar text).run pos = .ok (some c, pos + c.utf8Size) := by
  rw [nextChar, run_bind_ok (run_peek h)]
  show (advance text c.utf8Size >>= fun _ => pure (some c)).run pos = _
  rw [run_bind_ok (run_advance (sliceFrom?_cons h))]
  rfl

end Moves

/-- A scan and a reader of the text behind the position keep step: the scan refuses where the reader
does, with the same error, and else gives the same and stands where the text begins that the reader
leaves. -/
inductive Tracks {α : Type} (text : List Char) :
    Except ScanFault (α × Nat) → Except CompileError (α × List Char) → Prop
  | refused (e : CompileError) : Tracks text (.error (.refused e)) (.error e)
  | ok (a : α) {pos rest} (h : sliceFrom? text pos = some rest) :
    Tracks text (.ok (a, pos)) (.ok (a, rest))

theorem Tracks.of_error {α : Type} {text : List Char} {scan : Except ScanFault (α × Nat)}
    {e : CompileError} (h : Tracks text scan (.error e)) : scan = .error (.refused e) := by
  cases h
  rfl

theorem Tracks.exists_of_ok {α : Type} {text rest : List Char} {a : α}
    {scan : Except ScanFault (α × Nat)} (h : Tracks text scan (.ok (a, rest))) :
    ∃ pos, scan = .ok (a, pos) ∧ sliceFrom? text pos = some rest := by
  cases h with
  | ok _ hrest => exact ⟨_, rfl, hrest⟩

theorem Tracks.of_refused {α : Type} {text : List Char} {e : CompileError}
    {reading : Except CompileError (α × List Char)}
    (h : Tracks text (.error (.refused e)) reading) : reading = .error e := by
  cases h
  rfl

theorem Tracks.of_ok {α : Type} {text : List Char} {a : α} {pos : Nat}
    {reading : Except CompileError (α × List Char)} (h : Tracks text (.ok (a, pos)) reading) :
    ∃ rest, reading = .ok (a, rest) ∧ sliceFrom? text pos = some rest := by
  cases h with
  | ok _ hrest => exact ⟨_, rfl, hrest⟩

section Items

variable {options : Options} {text rest after : List Char} {pos : Nat}

theorem run_scanHex_none {count : Nat} (hcount : 0 < count) (h : sliceFrom? text pos = some rest)
    (hread : readHex? count rest = none) : (scanHex text count).run pos = .ok (none, pos) := by
  have hslice := hexNumber?_slice? h hcount
  rw [hread, Option.map_none] at hslice
  rw [scanHex, run_bind_ok run_get, hslice]
  rfl

/-- A count of digits that ends inside of a character takes nothing. -/
example : (scanHex "1é".toList 2).run 0 = .ok (none, 0) := rfl

theorem run_scanHex_some {count value : Nat} (hcount : 0 < count)
    (h : sliceFrom? text pos = some rest) (hread : readHex? count rest = some (value, after)) :
    (scanHex text count).run pos = .ok (some value, pos + count) ∧
      sliceFrom? text (pos + count) = some after := by
  have hslice := hexNumber?_slice? h hcount
  rw [hread, Option.map_some] at hslice
  obtain ⟨digits, hrest, hlength, hvalue⟩ := (readHex?_eq_some_iff hcount).mp hread
  have hafter := sliceFrom?_add digits h hrest
  rw [hvalue.byteSize_eq, hlength] at hafter
  refine ⟨?_, hafter⟩
  rw [scanHex, run_bind_ok run_get, hslice]
  show (advance text count >>= fun _ => pure (some value)).run pos = _
  rw [run_bind_ok (run_advance hafter)]
  rfl

theorem tracks_identity (h : sliceFrom? text pos = some rest) (c : Char) :
    Tracks text ((scanIdentity options c).run pos) (readIdentity options c rest) := by
  unfold scanIdentity readIdentity
  split
  · exact .refused _
  · exact .ok _ h

theorem tracks_null (h : sliceFrom? text pos = some rest) :
    Tracks text ((scanNull options text).run pos) (readNull options rest) := by
  rw [scanNull, run_bind_ok (run_peek h), readNull]
  split
  · exact .refused _
  · exact .ok _ h

theorem tracks_control (h : sliceFrom? text pos = some rest) :
    Tracks text ((scanControl options text).run pos) (readControl options rest) := by
  rw [scanControl, run_bind_ok (run_peek h)]
  cases rest with
  | nil => exact tracks_identity h 'c'
  | cons letter rest =>
    simp only [List.head?_cons, readControl]
    split
    · rename_i halpha
      have hnext := sliceFrom?_cons h
      rw [utf8Size_eq_one (toNat_lt_of_isAlpha halpha)] at hnext
      rw [run_bind_ok (run_advance hnext)]
      exact .ok _ hnext
    · exact tracks_identity h 'c'

theorem tracks_byte (h : sliceFrom? text pos = some rest) :
    Tracks text ((scanByte options text).run pos) (readByte options rest) := by
  rw [scanByte, readByte]
  cases hread : readHex? 2 rest with
  | none =>
    rw [run_bind_ok (run_scanHex_none (by decide) h hread)]
    exact tracks_identity h 'x'
  | some read =>
    obtain ⟨hrun, hafter⟩ := run_scanHex_some (by decide) h hread
    rw [run_bind_ok hrun]
    exact .ok _ hafter

/-- Where no escaped trail surrogate follows, the look for one leaves the position as it was. -/
theorem run_scanTrail_none (h : sliceFrom? text pos = some rest) (hread : readTrail? rest = none) :
    (scanTrail text).run pos = .ok (none, pos) := by
  rw [scanTrail, run_bind_ok (run_remaining h)]
  split
  · rename_i hescape
    obtain ⟨digits, rfl⟩ := List.isPrefixOf_iff_prefix.mp hescape
    have hdigits : sliceFrom? text (pos + 2) = some digits := sliceFrom?_add ['\\', 'u'] h rfl
    have hfilter : (readHex? 4 digits).filter (fun read => isTrail read.1) = none := hread
    rw [run_bind_ok run_get, run_bind_ok (run_advance hdigits)]
    cases hhex : readHex? 4 digits with
    | none =>
      rw [run_bind_ok (run_scanHex_none (by decide) hdigits hhex)]
      exact run_bind_ok (run_moveTo h) fun _ => pure none
    | some read =>
      obtain ⟨trail, after⟩ := read
      rw [hhex] at hfilter
      have htrail : isTrail trail = false := by simpa [Option.filter] using hfilter
      rw [run_bind_ok (run_scanHex_some (by decide) hdigits hhex).1]
      simp only [Option.filter, htrail]
      exact run_bind_ok (run_moveTo h) fun _ => pure none
  · rfl

theorem run_scanTrail_some {trail : Nat} (h : sliceFrom? text pos = some rest)
    (hread : readTrail? rest = some (trail, after)) :
    (scanTrail text).run pos = .ok (some trail, pos + 6) ∧
      sliceFrom? text (pos + 6) = some after := by
  unfold readTrail? at hread
  split at hread
  · rename_i digits
    obtain ⟨hhex, htrail⟩ := Option.filter_eq_some_iff.mp hread
    have hdigits : sliceFrom? text (pos + 2) = some digits := sliceFrom?_add ['\\', 'u'] h rfl
    obtain ⟨hrun, hafter⟩ := run_scanHex_some (by decide) hdigits hhex
    refine ⟨?_, hafter⟩
    have hescape : ['\\', 'u'].isPrefixOf ('\\' :: 'u' :: digits) = true :=
      List.isPrefixOf_iff_prefix.mpr (List.prefix_append ['\\', 'u'] digits)
    rw [scanTrail, run_bind_ok (run_remaining h), if_pos hescape, run_bind_ok run_get,
      run_bind_ok (run_advance hdigits), run_bind_ok hrun]
    simp only [Option.filter, htrail]
    rfl
  · exact nomatch hread

theorem run_scanUnit_none (h : sliceFrom? text pos = some rest) (hread : readHex? 4 rest = none) :
    (scanUnit options text).run pos = .ok (none, pos) := by
  rw [scanUnit, run_bind_ok (run_scanHex_none (by decide) h hread)]
  rfl

theorem run_scanUnit_some (options : Options) {lead : Nat} (h : sliceFrom? text pos = some rest)
    (hread : readHex? 4 rest = some (lead, after)) :
    ∃ stop, (scanUnit options text).run pos = .ok (some (joinUnit options lead after).1, stop) ∧
      sliceFrom? text stop = some (joinUnit options lead after).2 := by
  obtain ⟨hrun, hafter⟩ := run_scanHex_some (by decide) h hread
  rw [scanUnit, run_bind_ok hrun, joinUnit]
  simp only
  split
  · cases htrail : readTrail? after with
    | none =>
      rw [run_bind_ok (run_scanTrail_none hafter htrail)]
      exact ⟨_, rfl, hafter⟩
    | some read =>
      obtain ⟨trail, rest⟩ := read
      obtain ⟨hrun, hrest⟩ := run_scanTrail_some hafter htrail
      rw [run_bind_ok hrun]
      exact ⟨pos + 4 + 6, run_pure, hrest⟩
  · exact ⟨_, rfl, hafter⟩

/-- A lead surrogate without a trail surrogate takes its own digits and no more. -/
theorem run_scanUnit_alone {lead : Nat} (h : sliceFrom? text pos = some rest)
    (hread : readHex? 4 rest = some (lead, after)) (htrail : readTrail? after = none) :
    (scanUnit options text).run pos = .ok (some lead, pos + 4) := by
  obtain ⟨stop, hrun, hstop⟩ := run_scanUnit_some options h hread
  have hjoin : joinUnit options lead after = (lead, after) := by simp [joinUnit, htrail]
  rw [hjoin] at hrun hstop
  have hdigits := byteSize_of_sliceFrom? (run_scanHex_some (by decide) h hread).2
  have hsize : stop + byteSize after = byteSize text := byteSize_of_sliceFrom? hstop
  rw [hrun, show stop = pos + 4 by omega]

theorem tracks_unitEscape (h : sliceFrom? text pos = some rest) :
    Tracks text ((scanUnitEscape options text).run pos) (readUnit options rest) := by
  rw [scanUnitEscape, readUnit]
  cases hread : readHex? 4 rest with
  | none =>
    rw [run_bind_ok (run_scanUnit_none h hread)]
    exact tracks_identity h 'u'
  | some read =>
    obtain ⟨stop, hrun, hafter⟩ := run_scanUnit_some options h hread
    rw [run_bind_ok hrun]
    exact .ok _ hafter

theorem tracks_braced (h : sliceFrom? text pos = some ('{' :: rest)) :
    Tracks text ((scanBraced text).run pos) (readBraced rest) := by
  have hrest : sliceFrom? text (pos + 1) = some rest := sliceFrom?_cons h
  rw [scanBraced, run_bind_ok run_get, run_bind_ok (run_cutAt hrest), readBraced]
  cases hsplit : splitAt? '}' rest with
  | none => exact .refused _
  | some split =>
    obtain ⟨body, after⟩ := split
    obtain ⟨rfl, -⟩ := splitAt?_eq_some hsplit
    have hbody : slice? (body ++ '}' :: after) 0 (byteSize body) = some body :=
      slice?_eq_some_iff.mpr ⟨[], '}' :: after, rfl, rfl, Nat.zero_add _⟩
    have hafter : sliceFrom? text (pos + (1 + byteSize body + 1)) = some after := by
      have hclose := sliceFrom?_cons (sliceFrom?_add body hrest rfl)
      rwa [Nat.add_assoc, Nat.add_assoc, ← Nat.add_assoc 1] at hclose
    simp only [Option.map_some]
    rw [hbody, run_bind_ok run_checked]
    cases body.mapM hexDigit? with
    | none => exact .refused _
    | some digits =>
      cases digits with
      | nil => exact .refused _
      | cons digit digits =>
        simp only
        cases codePoint? (digit :: digits) with
        | none => exact .refused _
        | some code =>
          simp only
          rw [run_bind_ok (run_advance hafter)]
          exact .ok _ hafter

theorem tracks_codePoint (h : sliceFrom? text pos = some rest) :
    Tracks text ((scanCodePoint options text).run pos) (readCodePoint options rest) := by
  rw [scanCodePoint, run_bind_ok (run_peek h)]
  cases rest with
  | nil =>
    rw [List.head?_nil, if_neg (by simp)]
    exact tracks_unitEscape h
  | cons c rest =>
    rw [List.head?_cons, Option.some_beq_some, readCodePoint]
    by_cases hbrace : (options.unicode && c == '{') = true
    · have hc : c = '{' := by simpa using (Bool.and_eq_true_iff.mp hbrace).2
      subst hc
      rw [if_pos hbrace, if_pos hbrace]
      exact tracks_braced h
    · rw [if_neg hbrace, if_neg hbrace]
      exact tracks_unitEscape h

theorem tracks_letter (h : sliceFrom? text pos = some rest) (c : Char) :
    Tracks text ((scanLetter options text c).run pos) (readLetter options c rest) := by
  unfold scanLetter
  split
  · exact tracks_null h
  · exact tracks_control h
  · exact tracks_byte h
  · exact tracks_codePoint h
  · rename_i h0 hc hx hu
    rw [readLetter_of_other options rest h0 hc hx hu]
    split
    · exact .ok _ h
    · exact tracks_identity h c

/-- The length of an escape is the position in its text where the braces end. -/
theorem tracks_braces (limit : Nat) (negated : Bool) {a b : Char} (ha : a.toNat < 128)
    (hb : b.toNat < 128) (rest : List Char) :
    Tracks (a :: b :: rest) (scanBraces limit negated (a :: b :: rest))
      (PropertyEscape.readBraces limit negated rest) := by
  have hbytes : bytesOf (a :: b :: rest) = byteOf a :: byteOf b :: bytesOf rest := by
    rw [bytesOf_cons ha, bytesOf_cons hb]
  have hthird : (bytesOf (a :: b :: rest))[2]? = (bytesOf rest).head? := by
    rw [hbytes, List.head?_eq_getElem?]
    rfl
  unfold scanBraces
  simp only [hthird, bne_iff_ne, ne_eq, head?_bytesOf (show '{'.toNat < 128 by decide)]
  split
  · rename_i hother
    have hmissing : PropertyEscape.readBraces limit negated rest =
        .error (.ofCause .missingBrace) := by
      unfold PropertyEscape.readBraces
      split <;> first | contradiction | rfl
    rw [hmissing]
    exact .refused _
  · rename_i hbrace
    obtain ⟨following, rfl⟩ := List.head?_eq_some_iff.mp (Decidable.not_not.mp hbrace)
    have hfollowing : (if 3 ≤ (bytesOf (a :: b :: '{' :: following)).length then
        some ((bytesOf (a :: b :: '{' :: following)).drop 3) else none) =
          some (bytesOf following) := by
      rw [hbytes, bytesOf_cons (by decide), if_pos (by simp)]
      rfl
    rw [hfollowing, checked_some, ok_bind, idxOf?_bytesOf (show '}'.toNat < 128 by decide),
      PropertyEscape.readBraces]
    cases hsplit : splitAt? '}' following with
    | none => exact .refused _
    | some split =>
      obtain ⟨body, after⟩ := split
      obtain ⟨rfl, -⟩ := splitAt?_eq_some hsplit
      have hstart : byteSize [a, b, '{'] = 3 := by
        simp [utf8Size_eq_one ha, utf8Size_eq_one hb]
        decide
      have hbody : slice? (a :: b :: '{' :: (body ++ '}' :: after)) 3 (3 + byteSize body) =
          some body :=
        slice?_eq_some_iff.mpr ⟨[a, b, '{'], '}' :: after, rfl, hstart, rfl⟩
      have hafter : sliceFrom? (a :: b :: '{' :: (body ++ '}' :: after)) (3 + byteSize body + 1) =
          some after := by
        have hopen := sliceFrom?_append [a, b, '{'] (body ++ '}' :: after)
        rw [hstart] at hopen
        exact sliceFrom?_cons (sliceFrom?_add body hopen rfl)
      simp only [Option.map_some]
      rw [hbody, checked_some, ok_bind]
      cases PropertyEscape.readToken limit body with
      | error e => exact .refused e
      | ok token => exact .ok _ hafter

/-- The first two bytes of an escape tell that it is one, and its sign. -/
theorem scanProperty_escape (limit : Nat) {c : Char} (hc : c = 'p' ∨ c = 'P') (rest : List Char) :
    scanProperty limit ('\\' :: c :: rest) = do
      let escape ← scanBraces limit (c == 'P') ('\\' :: c :: rest)
      return some escape := by
  have hascii : c.toNat < 128 := by rcases hc with rfl | rfl <;> decide
  have hletter : (byteOf c == byteOf 'p' || byteOf c == byteOf 'P') = true := by
    rcases hc with rfl | rfl <;> decide
  have hnegated : (byteOf c == byteOf 'P') = (c == 'P') := by
    rcases hc with rfl | rfl <;> decide
  have hbytes : bytesOf ('\\' :: c :: rest) = byteOf '\\' :: byteOf c :: bytesOf rest := by
    rw [bytesOf_cons (by decide), bytesOf_cons hascii]
  rw [scanProperty, hbytes, if_neg (by simp)]
  simp only [List.getElem?_cons_zero, List.getElem?_cons_succ, checked_some, ok_bind]
  rw [hletter, hnegated, if_neg (by simp)]

theorem tracks_propertyAt {start : Nat} {c : Char} (hc : c = 'p' ∨ c = 'P')
    (h : sliceFrom? text start = some ('\\' :: c :: rest)) :
    Tracks text ((scanPropertyAt options text start c).run pos)
      (readProperty options (c == 'P') rest) := by
  have hascii : c.toNat < 128 := by rcases hc with rfl | rfl <;> decide
  have hbraces := tracks_braces options.nameLimit (c == 'P') (a := '\\') (by decide) hascii rest
  rw [scanPropertyAt, run_bind_ok (run_cutAt h), scanProperty_escape _ hc, readProperty]
  generalize hscan : scanBraces options.nameLimit (c == 'P') ('\\' :: c :: rest) = scan at hbraces ⊢
  generalize hread : PropertyEscape.readBraces options.nameLimit (c == 'P') rest = read at hbraces ⊢
  cases hbraces with
  | refused e => exact .refused e
  | ok escape hafter =>
    have hstop := sliceFrom?_trans h hafter
    rw [ok_bind, run_bind_ok run_liftM]
    simp only
    rw [run_bind_ok (run_moveTo hstop)]
    exact .ok _ hstop

theorem tracks_escape {start : Nat} (h : sliceFrom? text start = some ('\\' :: rest)) :
    Tracks text ((scanEscape options text).run (start + 1)) (readEscape options rest) := by
  have hrest : sliceFrom? text (start + 1) = some rest := sliceFrom?_cons h
  have hprevious : previous.run (start + 1) = .ok (start, start + 1) := by
    rw [previous, run_bind_ok run_get, if_pos (by omega)]
    rfl
  rw [scanEscape, run_bind_ok hprevious]
  cases rest with
  | nil =>
    rw [run_bind_ok (run_nextChar_nil hrest)]
    exact .refused _
  | cons c rest =>
    have hnext := sliceFrom?_cons hrest
    rw [run_bind_ok (run_nextChar_cons hrest), readEscape]
    simp only
    split
    · rename_i hproperty
      have hc : c = 'p' ∨ c = 'P' := by simpa using (Bool.and_eq_true_iff.mp hproperty).2
      exact tracks_propertyAt hc h
    · cases shorthand? c with
      | some item => exact .ok _ hnext
      | none =>
        cases controlCode? c with
        | some code => exact .ok _ hnext
        | none => exact tracks_letter hnext c

/-- From behind its first character, an item is scanned as it is read. -/
theorem tracks_item (options : Options) {start : Nat} {c : Char}
    (h : sliceFrom? text start = some (c :: rest)) :
    Tracks text ((scanItem options text c).run (start + c.utf8Size))
      (ClassItem.read options c rest) := by
  have hrest := sliceFrom?_cons h
  unfold scanItem
  split
  · exact tracks_escape h
  · rw [run_bind_ok (run_peek hrest), ClassItem.read]
    split
    · exact .ok _ hrest
    · exact .ok _ hrest
  · rename_i hescape hdash
    rw [ClassItem.read_of_other options rest hescape hdash]
    exact .ok _ hrest

end Items

end Scan
end UnicodeClasses

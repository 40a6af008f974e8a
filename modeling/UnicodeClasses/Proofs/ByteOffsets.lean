import UnicodeClasses.Text

/-!
# Offsets in bytes

A text is cut at an offset in bytes only between two characters. Where the offset falls into a
character, or behind the end, there is no cut. A character below 128 is found in the bytes of a text
exactly where it is in the text.
-/
namespace UnicodeClasses

/-- Cuts a text after a number of bytes. -/
def cutBytes? : Nat → List Char → Option (List Char × List Char)
  | 0, text => some ([], text)
  | _ + 1, [] => none
  | n + 1, c :: text =>
    if c.utf8Size ≤ n + 1 then
      (cutBytes? (n + 1 - c.utf8Size) text).map fun (before, after) => (c :: before, after)
    else none

/-- The text from an offset on. -/
def sliceFrom? (text : List Char) (start : Nat) : Option (List Char) :=
  (cutBytes? start text).map Prod.snd

/-- The text between two offsets, the second of which may not come first. -/
def slice? (text : List Char) (start stop : Nat) : Option (List Char) :=
  if stop < start then none
  else (sliceFrom? text start).bind fun rest => (cutBytes? (stop - start) rest).map Prod.fst

theorem cutBytes?_append (before after : List Char) :
    cutBytes? (byteSize before) (before ++ after) = some (before, after) := by
  induction before with
  | nil => exact cutBytes?.eq_1 after
  | cons c before ih =>
    obtain ⟨n, hn⟩ : ∃ n, byteSize (c :: before) = n + 1 :=
      Nat.exists_eq_succ_of_ne_zero (by
        have := c.utf8Size_pos
        rw [byteSize_cons]
        omega)
    have hrest : n + 1 - c.utf8Size = byteSize before := by
      rw [byteSize_cons] at hn
      omega
    have hfits : c.utf8Size ≤ n + 1 := by
      rw [← hn, byteSize_cons]
      omega
    rw [hn, List.cons_append, cutBytes?, if_pos hfits, hrest, ih]
    rfl

theorem cutBytes?_eq_some_iff {n : Nat} {text before after : List Char} :
    cutBytes? n text = some (before, after) ↔ text = before ++ after ∧ byteSize before = n := by
  constructor
  · intro h
    induction text generalizing n before with
    | nil =>
      cases n with
      | zero =>
        obtain ⟨rfl, rfl⟩ := Prod.mk.inj (Option.some.inj h)
        exact ⟨rfl, rfl⟩
      | succ n => exact nomatch h
    | cons c text ih =>
      cases n with
      | zero =>
        obtain ⟨rfl, rfl⟩ := Prod.mk.inj (Option.some.inj h)
        exact ⟨rfl, rfl⟩
      | succ n =>
        rw [cutBytes?] at h
        split at h
        · rename_i hfits
          obtain ⟨⟨inner, after'⟩, hcut, hpair⟩ := Option.map_eq_some_iff.mp h
          obtain ⟨rfl, rfl⟩ := Prod.mk.inj hpair
          obtain ⟨rfl, hsize⟩ := ih hcut
          refine ⟨rfl, ?_⟩
          rw [byteSize_cons]
          omega
        · exact nomatch h
  · rintro ⟨rfl, rfl⟩
    exact cutBytes?_append before after

theorem sliceFrom?_eq_some_iff {text rest : List Char} {start : Nat} :
    sliceFrom? text start = some rest ↔
      ∃ before, text = before ++ rest ∧ byteSize before = start := by
  simp [sliceFrom?, Option.map_eq_some_iff, cutBytes?_eq_some_iff]

theorem sliceFrom?_append (before rest : List Char) :
    sliceFrom? (before ++ rest) (byteSize before) = some rest :=
  sliceFrom?_eq_some_iff.mpr ⟨before, rfl, rfl⟩

theorem sliceFrom?_zero (text : List Char) : sliceFrom? text 0 = some text :=
  sliceFrom?_append [] text

/-- Offsets of parts of a text are those of the text, shifted. -/
theorem sliceFrom?_add {text rest after : List Char} {start : Nat} (inner : List Char)
    (h : sliceFrom? text start = some rest) (hrest : rest = inner ++ after) :
    sliceFrom? text (start + byteSize inner) = some after := by
  obtain ⟨before, rfl, rfl⟩ := sliceFrom?_eq_some_iff.mp h
  subst hrest
  rw [← List.append_assoc, ← byteSize_append]
  exact sliceFrom?_append (before ++ inner) after

theorem sliceFrom?_cons {text rest : List Char} {pos : Nat} {c : Char}
    (h : sliceFrom? text pos = some (c :: rest)) :
    sliceFrom? text (pos + c.utf8Size) = some rest :=
  sliceFrom?_add [c] h rfl

/-- A cut in what a cut has left is a cut in the text. -/
theorem sliceFrom?_trans {text rest after : List Char} {start bytes : Nat}
    (h : sliceFrom? text start = some rest) (hrest : sliceFrom? rest bytes = some after) :
    sliceFrom? text (start + bytes) = some after := by
  obtain ⟨inner, hinner, rfl⟩ := sliceFrom?_eq_some_iff.mp hrest
  exact sliceFrom?_add inner h hinner

theorem slice?_eq_some_iff {text inner : List Char} {start stop : Nat} :
    slice? text start stop = some inner ↔ ∃ before after, text = before ++ (inner ++ after) ∧
      byteSize before = start ∧ start + byteSize inner = stop := by
  unfold slice?
  split
  · rename_i hlt
    refine iff_of_false (fun h => nomatch h) ?_
    rintro ⟨before, after, -, -, hstop⟩
    omega
  · rename_i hle
    constructor
    · intro h
      obtain ⟨rest, hrest, hmap⟩ := Option.bind_eq_some_iff.mp h
      obtain ⟨⟨front, after⟩, hcut, hfront⟩ := Option.map_eq_some_iff.mp hmap
      obtain rfl : front = inner := hfront
      obtain ⟨before, rfl, rfl⟩ := sliceFrom?_eq_some_iff.mp hrest
      obtain ⟨rfl, hsize⟩ := cutBytes?_eq_some_iff.mp hcut
      exact ⟨before, after, rfl, rfl, by omega⟩
    · rintro ⟨before, after, rfl, rfl, rfl⟩
      rw [sliceFrom?_append, Option.bind_some, Nat.add_sub_cancel_left, cutBytes?_append]
      rfl

/-- What stands at an offset is as long as the bytes behind it. -/
theorem byteSize_of_sliceFrom? {text rest : List Char} {start : Nat}
    (h : sliceFrom? text start = some rest) : start + byteSize rest = byteSize text := by
  obtain ⟨before, rfl, rfl⟩ := sliceFrom?_eq_some_iff.mp h
  exact (byteSize_append before rest).symm

/-- There is a cut at the offsets that are positions of the string, as its bytes tell. -/
theorem exists_sliceFrom?_iff {text : String} {start : Nat} :
    (∃ rest, sliceFrom? text.toList start = some rest) ↔ String.Pos.Raw.IsValid text ⟨start⟩ := by
  simp only [sliceFrom?_eq_some_iff, String.Pos.Raw.isValid_iff_exists_append,
    String.Pos.Raw.ext_iff, String.byteIdx_rawEndPos]
  constructor
  · rintro ⟨rest, before, htext, rfl⟩
    refine ⟨String.ofList before, String.ofList rest, ?_, ?_⟩
    · rw [← String.ofList_append, ← htext, String.ofList_toList]
    · rw [← byteSize_toList, String.toList_ofList]
  · rintro ⟨front, back, rfl, rfl⟩
    exact ⟨back.toList, front.toList, String.toList_append .., byteSize_toList front⟩

/-! ### Bytes -/

/-- The bytes of a text. -/
def bytesOf (text : List Char) : List UInt8 := text.flatMap String.utf8EncodeChar

/-- The byte of a character below 128. -/
def byteOf (c : Char) : UInt8 := c.val.toUInt8

theorem bytesOf_toList (s : String) : bytesOf s.toList = s.toUTF8.data.toList := by
  have hbytes : s.toByteArray = s.toList.utf8Encode := by
    rw [← String.toByteArray_ofList, String.ofList_toList]
  rw [String.toUTF8, hbytes, List.utf8Encode, List.data_toByteArray]
  rfl

theorem length_bytesOf (text : List Char) : (bytesOf text).length = byteSize text := by
  induction text with
  | nil => rfl
  | cons c text ih =>
    rw [bytesOf, List.flatMap_cons, List.length_append, ← bytesOf, ih,
      String.length_utf8EncodeChar, byteSize_cons]

theorem bytesOf_append (a b : List Char) : bytesOf (a ++ b) = bytesOf a ++ bytesOf b :=
  List.flatMap_append

theorem utf8Size_eq_one {c : Char} (h : c.toNat < 128) : c.utf8Size = 1 :=
  Char.utf8Size_eq_one_iff.mpr (UInt32.le_iff_toNat_le.mpr (Nat.le_of_lt_succ h))

/-- A text of characters below 128 has one byte for each of them. -/
theorem byteSize_eq_length {text : List Char} (h : ∀ c ∈ text, c.toNat < 128) :
    byteSize text = text.length := by
  induction text with
  | nil => rfl
  | cons c text ih =>
    have htext := ih fun d hd => h d (List.mem_cons_of_mem _ hd)
    rw [byteSize_cons, utf8Size_eq_one (h c (List.mem_cons_self ..)), htext, List.length_cons,
      Nat.add_comm]

theorem bytesOf_cons {c : Char} (h : c.toNat < 128) (text : List Char) :
    bytesOf (c :: text) = byteOf c :: bytesOf text := by
  rw [bytesOf, List.flatMap_cons, String.utf8EncodeChar_eq_singleton (utf8Size_eq_one h)]
  rfl

theorem toNat_byteOf {c : Char} (h : c.toNat < 128) : (byteOf c).toNat = c.toNat := by
  show c.val.toNat % 256 = c.val.toNat
  exact Nat.mod_eq_of_lt (Nat.lt_trans h (by decide))

/-- All bytes of a character from 128 on are from 128 on. -/
theorem le_toNat_of_mem_encode {c : Char} {b : UInt8} (h : 128 ≤ c.toNat)
    (hb : b ∈ String.utf8EncodeChar c) : 128 ≤ b.toNat := by
  have hwide : ¬ c.val.toNat ≤ 127 := Nat.not_le.mpr h
  have hbyte : ∀ {n : Nat}, b = .ofNat n → b.toNat = n % 256 := by
    rintro n rfl
    rfl
  simp only [String.utf8EncodeChar, if_neg hwide] at hb
  split at hb
  · simp only [List.mem_cons, List.not_mem_nil, or_false] at hb
    rcases hb with hb | hb <;> rw [hbyte hb] <;> omega
  · split at hb
    · simp only [List.mem_cons, List.not_mem_nil, or_false] at hb
      rcases hb with hb | hb | hb <;> rw [hbyte hb] <;> omega
    · simp only [List.mem_cons, List.not_mem_nil, or_false] at hb
      rcases hb with hb | hb | hb | hb <;> rw [hbyte hb] <;> omega

theorem byteOf_notMem_encode {mark c : Char} (h : mark.toNat < 128) (hne : c ≠ mark) :
    byteOf mark ∉ String.utf8EncodeChar c := by
  intro hmem
  have hmark := toNat_byteOf h
  by_cases hc : c.toNat < 128
  · rw [String.utf8EncodeChar_eq_singleton (utf8Size_eq_one hc)] at hmem
    have hequal : byteOf mark = byteOf c := List.mem_singleton.mp hmem
    rw [hequal, toNat_byteOf hc] at hmark
    exact hne (Char.toNat_inj.mp hmark)
  · have := le_toNat_of_mem_encode (Nat.not_lt.mp hc) hmem
    omega

theorem byteOf_notMem_bytesOf {mark : Char} (h : mark.toNat < 128) {text : List Char}
    (hmark : mark ∉ text) : byteOf mark ∉ bytesOf text := by
  intro hmem
  obtain ⟨c, hc, hbyte⟩ := List.mem_flatMap.mp hmem
  exact byteOf_notMem_encode h (fun heq => hmark (heq ▸ hc)) hbyte

/-- The first byte of a text shows whether the text begins with a character below 128. -/
theorem head?_bytesOf {mark : Char} (h : mark.toNat < 128) (text : List Char) :
    (bytesOf text).head? = some (byteOf mark) ↔ text.head? = some mark := by
  cases text with
  | nil => exact iff_of_false (fun h => nomatch h) (fun h => nomatch h)
  | cons c text =>
    by_cases hc : c = mark
    · subst hc
      rw [bytesOf_cons h]
      exact iff_of_true rfl rfl
    · refine iff_of_false (fun hhead => ?_) (fun hhead => hc (Option.some.inj hhead))
      have hbyte := byteOf_notMem_encode h hc
      have hlength := String.length_utf8EncodeChar c
      have hpos := c.utf8Size_pos
      rw [bytesOf, List.flatMap_cons] at hhead
      cases hencode : String.utf8EncodeChar c with
      | nil =>
        rw [hencode, List.length_nil] at hlength
        omega
      | cons b bytes =>
        rw [hencode] at hhead hbyte
        exact hbyte (Option.some.inj hhead ▸ List.mem_cons_self ..)

/-- A search through the bytes for a character below 128 stops where the character is. -/
theorem idxOf?_bytesOf {mark : Char} (h : mark.toNat < 128) (text : List Char) :
    (bytesOf text).idxOf? (byteOf mark) =
      (splitAt? mark text).map fun (before, _) => byteSize before := by
  cases hsplit : splitAt? mark text with
  | none =>
    exact List.idxOf?_eq_none_iff.mpr (byteOf_notMem_bytesOf h (splitAt?_eq_none_iff.mp hsplit))
  | some split =>
    obtain ⟨before, after⟩ := split
    obtain ⟨rfl, hmark⟩ := splitAt?_eq_some hsplit
    have hbefore := List.idxOf?_eq_none_iff.mpr (byteOf_notMem_bytesOf h hmark)
    rw [List.idxOf?] at hbefore ⊢
    rw [bytesOf_append, bytesOf_cons h, List.findIdx?_append, hbefore, List.findIdx?_cons,
      if_pos (by simp), length_bytesOf]
    simp

/-- The byte at the offset of a character below 128. -/
theorem getElem?_bytesOf {c : Char} (h : c.toNat < 128) (before after : List Char) :
    (bytesOf (before ++ c :: after))[byteSize before]? = some (byteOf c) := by
  rw [bytesOf_append, bytesOf_cons h, ← length_bytesOf, List.getElem?_append_right (Nat.le_refl _)]
  simp

end UnicodeClasses

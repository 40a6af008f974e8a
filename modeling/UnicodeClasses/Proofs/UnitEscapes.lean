import UnicodeClasses.Proofs.LiteralBodies
import UnicodeClasses.Proofs.WrittenMembers

/-!
# Escaped code units

A list of 16-bit code units, each written by its four hexadecimal digits, is read in Unicode mode as
UTF-16 decodes it, lone surrogates included, and in the other mode unit by unit. The look for the
second half of a pair takes six characters or none.
-/
namespace UnicodeClasses

/-! ### UTF-16 -/

/-- The code points of a list of code units, from left to right. A lead surrogate directly before a
trail surrogate makes one code point with it, and every other unit is its own. -/
def decodeUnits : List UInt16 → List Nat
  | [] => []
  | [unit] => [unit.toNat]
  | lead :: trail :: units =>
    if (0xD800 ≤ lead.toNat ∧ lead.toNat ≤ 0xDBFF) ∧
        (0xDC00 ≤ trail.toNat ∧ trail.toNat ≤ 0xDFFF) then
      (0x10000 + (lead.toNat - 0xD800) * 0x400 + (trail.toNat - 0xDC00)) :: decodeUnits units
    else lead.toNat :: decodeUnits (trail :: units)

/-- The code units of a character. -/
def encodeChar (c : Char) : List UInt16 :=
  if c.toNat < 0x10000 then [.ofNat c.toNat]
  else [.ofNat (0xD800 + (c.toNat - 0x10000) / 0x400),
    .ofNat (0xDC00 + (c.toNat - 0x10000) % 0x400)]

def encodeUnits (text : List Char) : List UInt16 := text.flatMap encodeChar

theorem unit_le_maxCodePoint (unit : UInt16) : unit.toNat ≤ maxCodePoint :=
  Nat.le_trans (Nat.le_of_lt unit.toNat_lt) (by decide)

theorem le_maxCodePoint_of_mem_decodeUnits {units : List UInt16} {c : Nat}
    (h : c ∈ decodeUnits units) : c ≤ maxCodePoint := by
  fun_induction decodeUnits units with
  | case1 => exact nomatch h
  | case2 unit =>
    obtain rfl := List.mem_singleton.mp h
    exact unit_le_maxCodePoint unit
  | case3 lead trail units hpair ih =>
    rcases List.mem_cons.mp h with hjoined | h
    · simp only [maxCodePoint]
      omega
    · exact ih h
  | case4 lead trail units hpair ih =>
    rcases List.mem_cons.mp h with rfl | h
    · exact unit_le_maxCodePoint lead
    · exact ih h

theorem decodeUnits_cons_of_not_lead {unit : UInt16}
    (h : ¬ (0xD800 ≤ unit.toNat ∧ unit.toNat ≤ 0xDBFF)) (units : List UInt16) :
    decodeUnits (unit :: units) = unit.toNat :: decodeUnits units := by
  cases units with
  | nil => rfl
  | cons next units => rw [decodeUnits, if_neg fun hpair => h hpair.1]

/-- The units of a character are not confused with what follows them. -/
theorem decodeUnits_encodeChar (c : Char) (units : List UInt16) :
    decodeUnits (encodeChar c ++ units) = c.toNat :: decodeUnits units := by
  have hvalid : c.toNat < 0xD800 ∨ 0xDFFF < c.toNat ∧ c.toNat < 0x110000 := c.valid
  have hunit : ∀ n < 0x10000, (UInt16.ofNat n).toNat = n := fun n h =>
    UInt16.toNat_ofNat_of_lt h
  unfold encodeChar
  split
  · rename_i hbasic
    have hchar := hunit c.toNat hbasic
    rw [List.singleton_append, decodeUnits_cons_of_not_lead (by omega), hchar]
  · rename_i hsupplementary
    have hlead := hunit (0xD800 + (c.toNat - 0x10000) / 0x400) (by omega)
    have htrail := hunit (0xDC00 + (c.toNat - 0x10000) % 0x400) (by omega)
    rw [List.cons_append, List.singleton_append, decodeUnits, hlead, htrail, if_pos (by omega)]
    exact congrArg (· :: decodeUnits units) (by omega)

theorem decodeUnits_encodeUnits (text : List Char) :
    decodeUnits (encodeUnits text) = text.map Char.toNat := by
  induction text with
  | nil => rfl
  | cons c text ih =>
    rw [encodeUnits, List.flatMap_cons, decodeUnits_encodeChar, ← encodeUnits, ih, List.map_cons]

/-! ### Written units -/

/-- A code unit as it is written, with the case of each of its digits. -/
structure UnitText where
  unit : UInt16
  capital : Fin 4 → Bool

namespace UnitText

/-- The digits, the most significant first. -/
def digits (text : UnitText) : List Char :=
  [hexChar (text.capital 0) (text.unit.toNat / 0x1000 % 16),
    hexChar (text.capital 1) (text.unit.toNat / 0x100 % 16),
    hexChar (text.capital 2) (text.unit.toNat / 0x10 % 16),
    hexChar (text.capital 3) (text.unit.toNat % 16)]

def chars (text : UnitText) : List Char := '\\' :: 'u' :: text.digits

/-- The text of code units, one after another. -/
def written (texts : List UnitText) : List Char := texts.flatMap chars

/-- Written code units between brackets. -/
def bracketed (texts : List UnitText) : List Char := '[' :: (written texts ++ [']'])

theorem hexNumber_digits (text : UnitText) : HexNumber text.digits text.unit.toNat := by
  have hunit := text.unit.toNat_lt
  have hdigit : ∀ i n, HexDigit (hexChar (text.capital i) (n % 16)) (n % 16) := fun i n =>
    ⟨Nat.mod_lt n (by decide), text.capital i, rfl⟩
  have hvalue : text.unit.toNat = (((0 * 16 + text.unit.toNat / 0x1000 % 16) * 16 +
      text.unit.toNat / 0x100 % 16) * 16 + text.unit.toNat / 0x10 % 16) * 16 +
        text.unit.toNat % 16 := by omega
  rw [hvalue]
  exact (((HexNumber.nil.concat (hdigit 0 _)).concat (hdigit 1 _)).concat (hdigit 2 _)).concat
    (hdigit 3 _)

theorem unitEscape (text : UnitText) : ClassItem.UnitEscape text.chars text.unit.toNat :=
  ⟨text.digits, rfl, rfl, text.hexNumber_digits⟩

example : bracketed [⟨0xD83D, fun _ => true⟩, ⟨0xDE00, fun _ => false⟩] =
    "[\\uD83D\\ude00]".toList := by decide

/-- Every list of code units can be written. -/
theorem exists_map_unit (units : List UInt16) :
    ∃ texts : List UnitText, texts.map unit = units :=
  ⟨units.map fun unit => ⟨unit, fun _ => false⟩, by rw [List.map_map]; exact List.map_id units⟩

end UnitText

namespace ClassItem
open UnitText

variable {limit : Nat}

/-- A text begins with the escape of at most one code unit. -/
theorem UnitEscape.unique {first second rest rest' : List Char} {unit unit' : Nat}
    (h : UnitEscape first unit) (h' : UnitEscape second unit')
    (hsplit : first ++ rest = second ++ rest') : unit = unit' := by
  obtain ⟨digits, rfl, hlength, hvalue⟩ := h
  obtain ⟨digits', rfl, hlength', hvalue'⟩ := h'
  have hdigits : digits ++ rest = digits' ++ rest' := by simpa using hsplit
  have hread : readHex? 4 (digits ++ rest) = some (unit, rest) :=
    (readHex?_eq_some_iff (by decide)).mpr ⟨digits, rfl, hlength, hvalue⟩
  have hread' : readHex? 4 (digits ++ rest) = some (unit', rest') :=
    (readHex?_eq_some_iff (by decide)).mpr ⟨digits', hdigits, hlength', hvalue'⟩
  exact (Prod.mk.inj (Option.some.inj (hread.symm.trans hread'))).1

/-- A written unit stands for itself where it makes no pair with the next one. -/
theorem spells_unit (text : UnitText) (texts : List UnitText) (rest : List Char)
    (h : ∀ next, texts.head? = some next → ¬ (LeadUnit text.unit.toNat ∧
      TrailUnit next.unit.toNat)) :
    Spells limit text.chars (written texts ++ ']' :: rest) (.char text.unit.toNat) := by
  refine .unit text.unitEscape fun hlead second after trail hsplit hsecond => ?_
  cases texts with
  | nil =>
    obtain ⟨digits, rfl, -, -⟩ := hsecond
    exact nomatch hsplit
  | cons next texts =>
    rw [written, List.flatMap_cons, List.append_assoc] at hsplit
    rw [← next.unitEscape.unique hsecond hsplit]
    exact fun htrail => h next rfl ⟨hlead, htrail⟩

/-- In Unicode mode the readers decode what is written. -/
theorem cut_written_units (rest : List Char) : ∀ texts : List UnitText,
    Cut limit (written texts ++ ']' :: rest) ((decodeUnits (texts.map unit)).map .char) rest
  | [] => .close rest
  | [text] => .item (spells_unit text [] rest (by simp)) (.close rest)
  | lead :: trail :: texts => by
    by_cases hpair : (0xD800 ≤ lead.unit.toNat ∧ lead.unit.toNat ≤ 0xDBFF) ∧
        (0xDC00 ≤ trail.unit.toNat ∧ trail.unit.toNat ≤ 0xDFFF)
    · have htext : written (lead :: trail :: texts) ++ ']' :: rest =
          (lead.chars ++ trail.chars) ++ (written texts ++ ']' :: rest) := by simp [written]
      rw [htext, List.map_cons, List.map_cons, decodeUnits, if_pos hpair]
      exact .item (.pair lead.unitEscape trail.unitEscape hpair) (cut_written_units rest texts)
    · have htext : written (lead :: trail :: texts) ++ ']' :: rest =
          lead.chars ++ (written (trail :: texts) ++ ']' :: rest) := by simp [written]
      rw [htext, List.map_cons, List.map_cons, decodeUnits, if_neg hpair]
      refine .item (spells_unit lead (trail :: texts) rest ?_)
        (cut_written_units rest (trail :: texts))
      rintro _ ⟨⟩
      exact hpair

/-- In the other mode the readers take unit by unit. -/
theorem readAll_written_units (limit : Nat) (texts : List UnitText) (rest : List Char) :
    readAll ⟨false, limit⟩ (written texts ++ ']' :: rest) =
      ((texts.map (·.unit.toNat)).map .char, .ok rest) := by
  induction texts with
  | nil => exact readAll_close _ rest
  | cons text texts ih =>
    have hjoin : ∀ following,
        joinUnit ⟨false, limit⟩ text.unit.toNat following = (text.unit.toNat, following) :=
      fun _ => rfl
    obtain ⟨after, hafter, hread⟩ :=
      read_unitEscape ⟨false, limit⟩ text.unitEscape (written texts ++ ']' :: rest)
    rw [hjoin] at hread
    rw [written, List.flatMap_cons, List.append_assoc, ← written, hafter,
      readAll_ok (by decide) hread, ih]
    rfl

end ClassItem

namespace BracketClass
open UnitText

theorem opens_bracketed (texts : List UnitText) :
    Opens (bracketed texts) false (written texts ++ [']']) := by
  refine .plain ?_
  cases texts with
  | nil => simp [written]
  | cons text texts => simp [written, chars]

/-- Escaped code units are read as UTF-16. In Unicode mode a bracket expression of code units, each
written by four digits of either case, is the set of the code points that they decode to; in the
other mode it is the set of the units. The code units of a text are thus read back in Unicode mode
as the set of its characters. -/
theorem read_escaped_units (registry : Registry) (limit : Nat) :
    (∀ texts : List UnitText, ∃ decoded separate : RangeSet,
      read registry ⟨true, limit⟩ (bracketed texts) =
        .ok (⟨decoded, false, byteSize (bracketed texts)⟩, []) ∧
      (∀ c, decoded.contains c = true ↔ c ∈ decodeUnits (texts.map unit)) ∧
      read registry ⟨false, limit⟩ (bracketed texts) =
        .ok (⟨separate, false, byteSize (bracketed texts)⟩, []) ∧
      ∀ c, separate.contains c = true ↔ ∃ text ∈ texts, text.unit.toNat = c) ∧
    ∀ s : String, (∃ texts : List UnitText, texts.map unit = encodeUnits s.toList) ∧
      ∀ texts : List UnitText, texts.map unit = encodeUnits s.toList → ∃ set : RangeSet,
        read registry ⟨true, limit⟩ (bracketed texts) =
          .ok (⟨set, false, byteSize (bracketed texts)⟩, []) ∧
        ∀ c, set.contains c = true ↔ ∃ x ∈ s.toList, x.toNat = c := by
  have hdecoded : ∀ texts : List UnitText, read registry ⟨true, limit⟩ (bracketed texts) =
      .ok (⟨.ofCodes (decodeUnits (texts.map unit)), false, byteSize (bracketed texts)⟩, []) :=
    fun texts => read_literals registry (opens_bracketed texts)
      (ClassItem.cut_iff_readAll.mp (ClassItem.cut_written_units [] texts))
  have hmem : ∀ (units : List UInt16) (c : Nat),
      (RangeSet.ofCodes (decodeUnits units)).contains c = true ↔ c ∈ decodeUnits units :=
    fun units => RangeSet.contains_ofCodes fun code => le_maxCodePoint_of_mem_decodeUnits
  constructor
  · intro texts
    have hseparate := read_literals registry (opens_bracketed texts)
      (ClassItem.readAll_written_units limit texts [])
    refine ⟨_, _, hdecoded texts, hmem _, hseparate, fun c => ?_⟩
    rw [RangeSet.contains_ofCodes, List.mem_map]
    exact List.forall_mem_map.mpr fun text _ => unit_le_maxCodePoint text.unit
  · refine fun s => ⟨exists_map_unit _, fun texts hunits => ⟨_, hdecoded texts, fun c => ?_⟩⟩
    rw [hmem, hunits, decodeUnits_encodeUnits, List.mem_map]

end BracketClass
end UnicodeClasses

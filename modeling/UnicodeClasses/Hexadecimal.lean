/-!
# Hexadecimal numbers

Digits may be of either case. A number is read either as a whole text or as a fixed count of
digits at the start of one.
-/
namespace UnicodeClasses

def hexDigit? (c : Char) : Option Nat :=
  if '0' ≤ c ∧ c ≤ '9' then some (c.toNat - 0x30)
  else if 'A' ≤ c ∧ c ≤ 'F' then some (c.toNat - 0x41 + 10)
  else if 'a' ≤ c ∧ c ≤ 'f' then some (c.toNat - 0x61 + 10)
  else none

theorem toNat_lt_of_le {c d : Char} (h : c ≤ d) (hd : d.toNat < 128) : c.toNat < 128 :=
  Nat.lt_of_le_of_lt (UInt32.le_iff_toNat_le.mp h) hd

theorem toNat_lt_of_isSome_hexDigit? {c : Char} (h : (hexDigit? c).isSome = true) :
    c.toNat < 128 := by
  unfold hexDigit? at h
  split at h
  · rename_i hdigit
    exact toNat_lt_of_le hdigit.2 (by decide)
  · split at h
    · rename_i hcapital
      exact toNat_lt_of_le hcapital.2 (by decide)
    · split at h
      · rename_i hsmall
        exact toNat_lt_of_le hsmall.2 (by decide)
      · exact nomatch h

/-- The character of a hexadecimal digit, of either case. -/
def hexChar (capital : Bool) (digit : Nat) : Char :=
  if capital then digit.digitChar.toUpper else digit.digitChar

theorem hexDigit?_hexChar :
    ∀ capital, ∀ digit < 16, hexDigit? (hexChar capital digit) = some digit := by
  decide

/-- The character writes the digit, in one of the cases. -/
def HexDigit (c : Char) (digit : Nat) : Prop := digit < 16 ∧ ∃ capital, hexChar capital digit = c

/-- The characters of digits are below 128 and are checked one by one. -/
theorem hexDigit?_eq_some_iff {c : Char} {digit : Nat} :
    hexDigit? c = some digit ↔ HexDigit c digit := by
  constructor
  · intro h
    have hascii : ∀ n < 128, ∀ digit ∈ hexDigit? (Char.ofNat n), digit < 16 ∧
        (hexChar false digit = Char.ofNat n ∨ hexChar true digit = Char.ofNat n) := by
      decide
    have hc := toNat_lt_of_isSome_hexDigit? (Option.isSome_of_eq_some h)
    rw [← Char.ofNat_toNat c] at h ⊢
    obtain ⟨hdigit, hchar | hchar⟩ := hascii c.toNat hc digit h
    · exact ⟨hdigit, false, hchar⟩
    · exact ⟨hdigit, true, hchar⟩
  · rintro ⟨hdigit, capital, rfl⟩
    exact hexDigit?_hexChar capital digit hdigit

/-- The positional value of hexadecimal digits, the most significant first. -/
def hexValue (digits : List Nat) : Nat := digits.foldl (fun value digit => value * 16 + digit) 0

/-- The value of a text of one or more hexadecimal digits. -/
def hexNumber? (text : List Char) : Option Nat :=
  if text.isEmpty then none else (text.mapM hexDigit?).map hexValue

/-- Reads exactly `count` hexadecimal digits. -/
def readHex? (count : Nat) (text : List Char) : Option (Nat × List Char) :=
  if (text.take count).length < count then none
  else (hexNumber? (text.take count)).map fun value => (value, text.drop count)

theorem length_of_readHex? {count value : Nat} {text rest : List Char}
    (h : readHex? count text = some (value, rest)) : rest.length + count = text.length := by
  unfold readHex? at h
  split at h
  · exact nomatch h
  · rename_i hlength
    obtain ⟨_, _, hrest⟩ := Option.map_eq_some_iff.mp h
    rw [← (Prod.mk.inj hrest).2, List.length_drop]
    rw [List.length_take] at hlength
    omega

end UnicodeClasses

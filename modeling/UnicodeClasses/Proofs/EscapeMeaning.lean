import UnicodeClasses.Proofs.RegistryContents

/-!
# What a property escape matches

A written escape is read back as the token between its braces. Where a registry has been built from
property data, every name in the data thus leads to the code points that the data lists for it.
-/
namespace UnicodeClasses

namespace PropertyEscape

/-- Names and values are non-empty words of letters, digits and underscores. -/
def IsName (text : String) : Prop :=
  text ≠ "" ∧ ∀ c ∈ text.toList, c.isAlphanum = true ∨ c = '_'

theorem isNameChar_iff {c : Char} : isNameChar c = true ↔ c.isAlphanum = true ∨ c = '_' := by
  simp [isNameChar]

instance (text : String) : Decidable (IsName text) :=
  decidable_of_iff (text ≠ "" ∧ text.toList.all isNameChar = true)
    (by simp only [IsName, List.all_eq_true, isNameChar_iff])

theorem IsName.not_mem {text : String} (h : IsName text) {c : Char} (hc : isNameChar c = false) :
    c ∉ text.toList := by
  intro hmem
  have := isNameChar_iff.mpr (h.2 c hmem)
  rw [hc] at this
  exact nomatch this

end PropertyEscape

open PropertyEscape

/-- The parts of a token are names. -/
def PropertyToken.WellFormed : PropertyToken → Prop
  | lone name => IsName name
  | pair name value => IsName name ∧ IsName value

namespace PropertyEscape

variable {limit : Nat} {token : PropertyToken}

theorem toList_pair (name value : String) :
    (PropertyToken.pair name value).text.toList = name.toList ++ '=' :: value.toList := by
  simp [PropertyToken.text]

theorem isNameChar_of_mem_text (h : token.WellFormed) :
    ∀ c ∈ token.text.toList, isNameChar c = true ∨ c = '=' := by
  intro c hc
  cases token with
  | lone name => exact .inl (isNameChar_iff.mpr (h.2 c hc))
  | pair name value =>
    rw [toList_pair, List.mem_append, List.mem_cons] at hc
    rcases hc with hc | rfl | hc
    · exact .inl (isNameChar_iff.mpr (h.1.2 c hc))
    · exact .inr rfl
    · exact .inl (isNameChar_iff.mpr (h.2.2 c hc))

theorem IsName.isEmpty_toList {text : String} (h : IsName text) : text.toList.isEmpty = false := by
  have := h.1
  simpa

/-- A token is read back from its text. -/
theorem readToken_text (h : token.WellFormed) (hlimit : token.text.utf8ByteSize ≤ limit) :
    readToken limit token.text.toList = .ok token := by
  have hall : token.text.toList.all (fun c => isNameChar c || c == '=') = true := by
    simpa using isNameChar_of_mem_text h
  unfold readToken
  rw [byteSize_toList, if_neg (Nat.not_lt.mpr hlimit), hall]
  cases token with
  | lone name =>
    have hempty : name.toList.isEmpty = false := h.isEmpty_toList
    have hsplit : splitAt? '=' name.toList = none := splitAt?_eq_none (h.not_mem (by decide))
    simp [PropertyToken.text, hempty, hsplit]
  | pair name value =>
    have hname : name.toList.isEmpty = false := h.1.isEmpty_toList
    have hvalue : value.toList.isEmpty = false := h.2.isEmpty_toList
    -- the name holds no separator, so the text is split at the one between name and value
    rw [toList_pair, splitAt?_append (h.1.not_mem (by decide))]
    have hvalue' : '=' ∉ value.toList := h.2.not_mem (by decide)
    simp [hname, hvalue, hvalue']

theorem toList_text (escape : PropertyEscape) : escape.text.toList = '\\' ::
    (if escape.negated then 'P' else 'p') :: '{' :: (escape.token.text.toList ++ ['}']) := by
  unfold text
  cases escape.negated <;> simp

theorem length_eq (escape : PropertyEscape) :
    escape.length = escape.token.text.utf8ByteSize + 4 := by
  unfold length
  rw [← byteSize_toList, toList_text]
  have hescape : Char.utf8Size '\\' = 1 ∧ Char.utf8Size 'P' = 1 ∧ Char.utf8Size 'p' = 1 ∧
      Char.utf8Size '{' = 1 ∧ Char.utf8Size '}' = 1 := by decide
  cases escape.negated <;> simp [byteSize_toList, hescape] <;> omega

/-- Braces around the text of a token are read back, whatever follows them. -/
theorem readBraces_text (negated : Bool) (h : token.WellFormed)
    (hlimit : token.text.utf8ByteSize ≤ limit) (trailing : List Char) :
    readBraces limit negated ('{' :: (token.text.toList ++ '}' :: trailing)) =
      .ok (⟨negated, token⟩, trailing) := by
  have hclose : '}' ∉ token.text.toList := by
    intro hmem
    rcases isNameChar_of_mem_text h '}' hmem with hname | heq
    · exact absurd hname (by decide)
    · exact absurd heq (by decide)
  rw [readBraces_body hclose, readToken_text h hlimit]
  rfl

/-- A written escape is read back, whatever follows it. -/
theorem scan_text {escape : PropertyEscape} (h : escape.token.WellFormed)
    (hlimit : escape.token.text.utf8ByteSize ≤ limit) (trailing : List Char) :
    scan limit (escape.text.toList ++ trailing) = .ok (some (escape, trailing)) := by
  rw [toList_text]
  simp only [List.cons_append, List.append_assoc, List.nil_append]
  rw [scan_letter, readBraces_text escape.negated h hlimit]
  rfl

end PropertyEscape

/-- A set and its complement divide the domain by a property of code points. -/
def RangeSet.Divides (s : RangeSet) (p : Nat → Prop) : Prop :=
  ∀ c, (s.contains c = true ↔ c ≤ maxCodePoint ∧ p c) ∧
    (s.complement.contains c = true ↔ c ≤ maxCodePoint ∧ ¬ p c)

theorem RangeSet.divides_of_mem {s : RangeSet} {p : Nat → Prop}
    (h : ∀ c, c ∈ s ↔ c ≤ maxCodePoint ∧ p c) : s.Divides p := by
  intro c
  rw [contains_iff, contains_iff, mem_complement, h c]
  refine ⟨Iff.rfl, and_congr_right fun hc => ?_⟩
  rw [and_iff_right hc]

theorem RangeSet.Divides.contains_eq_false {s : RangeSet} {p : Nat → Prop} {c : Nat}
    (h : s.Divides p) (hc : ¬ p c) : s.contains c = false :=
  Bool.eq_false_iff.mpr fun hcontains => hc ((h c).1.mp hcontains).2

namespace CompiledEscape

variable {registry : Registry} {limit : Nat} {token : PropertyToken} {set : RangeSet}

/-- The escape of a token compiles whatever text follows it. It takes `length` bytes and matches a
set, or in its negated form the complement. -/
def Compiles (registry : Registry) (limit : Nat) (token : PropertyToken) (length : Nat)
    (set : RangeSet) : Prop :=
  ∀ (negated : Bool) (trailing : List Char), ∃ compiled : CompiledEscape,
    read? registry ⟨true, limit⟩ ((PropertyEscape.mk negated token).text.toList ++ trailing) =
      .ok (some (compiled, trailing)) ∧
    compiled.escape = ⟨negated, token⟩ ∧ compiled.escape.length = length ∧
    compiled.set = if negated then set.complement else set

theorem compiles_of_tokenSet (h : registry.tokenSet token = .ok set) (hform : token.WellFormed)
    (hlimit : token.text.utf8ByteSize ≤ limit) :
    Compiles registry limit token (token.text.utf8ByteSize + 4) set := by
  intro negated trailing
  have hscan := scan_text (show (PropertyEscape.mk negated token).token.WellFormed from hform)
    hlimit trailing
  have hset : registry.resolve ⟨negated, token⟩ = .ok (set.negateIf negated) :=
    map_eq_ok_iff.mpr ⟨set, h, rfl⟩
  exact ⟨⟨⟨negated, token⟩, set.negateIf negated⟩, read?_eq_some.mpr ⟨rfl, hscan, hset⟩, rfl,
    length_eq _, rfl⟩

theorem compiles_lone {name : String} (h : registry.tokenSet (.lone name) = .ok set)
    (hname : IsName name) (hlimit : name.utf8ByteSize ≤ limit) :
    Compiles registry limit (.lone name) (name.utf8ByteSize + 4) set :=
  compiles_of_tokenSet h hname hlimit

theorem compiles_pair {name value : String} (h : registry.tokenSet (.pair name value) = .ok set)
    (hname : IsName name) (hvalue : IsName value)
    (hlimit : name.utf8ByteSize + value.utf8ByteSize + 1 ≤ limit) :
    Compiles registry limit (.pair name value) (name.utf8ByteSize + value.utf8ByteSize + 5)
      set := by
  have hsize : (PropertyToken.pair name value).text.utf8ByteSize =
      name.utf8ByteSize + value.utf8ByteSize + 1 := by
    simp only [PropertyToken.text, String.utf8ByteSize_append]
    have hmark : ("=" : String).utf8ByteSize = 1 := by decide
    omega
  have hcompiles := compiles_of_tokenSet h ⟨hname, hvalue⟩ (hsize ▸ hlimit)
  rwa [hsize] at hcompiles

/-- In a registry that has been built every name leads to the code points that the data lists for
it: the name of a binary property by itself, and the name of a value with that of its property. A
general category is also found by itself, unless a binary property has its name. -/
theorem compiles_of_build {data : PropertyData} (h : Registry.build data = .ok registry)
    (limit : Nat) :
    (∀ entry ∈ data.binary, ∃ set : RangeSet, set.Divides entry.table.Covers ∧
      ∀ n ∈ entry.names, IsName n → n.utf8ByteSize ≤ limit →
        Compiles registry limit (.lone n) (n.utf8ByteSize + 4) set) ∧
    ∀ entry ∈ data.enumerated, ∀ value ∈ entry.values, ∃ set : RangeSet,
      set.Divides (entry.Covers value) ∧
      ∀ v ∈ value.names, IsName v →
        (∀ n ∈ entry.names, IsName n → n.utf8ByteSize + v.utf8ByteSize + 1 ≤ limit →
          Compiles registry limit (.pair n v) (n.utf8ByteSize + v.utf8ByteSize + 5) set) ∧
        (entry.name = "General_Category" → (∀ binary ∈ data.binary, v ∉ binary.names) →
          v.utf8ByteSize ≤ limit →
            Compiles registry limit (.lone v) (v.utf8ByteSize + 4) set) := by
  constructor
  · intro entry hentry
    refine ⟨.ofTable entry.table, RangeSet.divides_of_mem fun c => ?_, fun n hn hname hlimit => ?_⟩
    · rw [RangeSet.mem_ofTable, and_comm]
      rfl
    · exact compiles_lone (Registry.tokenSet_binary h hentry hn) hname hlimit
  · intro entry hentry value hvalue
    obtain ⟨set, hmem, htokens⟩ := Registry.exists_tokenSet h hentry hvalue
    refine ⟨set, RangeSet.divides_of_mem hmem, fun v hv hvname => ⟨?_, ?_⟩⟩
    · intro n hn hname hlimit
      exact compiles_pair ((htokens v hv).1 n hn) hname hvname hlimit
    · intro hcategory hbinary hlimit
      exact compiles_lone ((htokens v hv).2 hcategory hbinary) hvname hlimit

/-- A binary property, and a general category in which one value groups the others. -/
def letterData : PropertyData where
  version := ⟨1, 0, 0⟩
  binary := [⟨"ASCII_Hex_Digit", ["AHex"], [(0x30, 0x39), (0x41, 0x46), (0x61, 0x66)]⟩]
  enumerated := [⟨"General_Category", ["gc"], [
    ⟨"Cased_Letter", ["LC"], [], ["Lu", "Ll"]⟩,
    ⟨"Uppercase_Letter", ["Lu"], [(0x41, 0x5A)], []⟩,
    ⟨"Lowercase_Letter", ["Ll"], [(0x61, 0x7A)], []⟩]⟩]

theorem letterData_compiles : ∃ registry, Registry.build letterData = .ok registry ∧
    (∃ set, Compiles registry 128 (.lone "AHex") 8 set ∧
      set.contains 0x41 = true ∧ set.contains 0x47 = false) ∧
    ∃ set, Compiles registry 128 (.pair "gc" "LC") 9 set ∧
      Compiles registry 128 (.lone "LC") 6 set ∧
      set.contains 0x47 = true ∧ set.contains 0x67 = true ∧ set.contains 0x30 = false := by
  have hsets : ∀ entry ∈ letterData.enumerated, ∃ sets, entry.valueSets = .ok sets := by
    intro entry hentry
    obtain rfl := List.mem_singleton.mp hentry
    exact EnumeratedEntry.exists_valueSets_iff.mpr ⟨by decide, by decide, by decide⟩
  obtain ⟨registry, h⟩ := Registry.exists_build_iff.mpr ⟨by decide, by decide, hsets⟩
  obtain ⟨hbinary, henumerated⟩ := compiles_of_build h 128
  obtain ⟨hexadecimal, hdigits, hhex⟩ := hbinary _ (List.mem_singleton.mpr rfl)
  obtain ⟨cased, hletters, hcased⟩ := henumerated _ (List.mem_singleton.mpr rfl) _
    (List.mem_cons_self ..)
  obtain ⟨hpair, hlone⟩ := hcased "LC" (by decide) (by decide)
  refine ⟨registry, h, ⟨hexadecimal, hhex "AHex" (by decide) (by decide) (by decide), ?_, ?_⟩,
    cased, hpair "gc" (by decide) (by decide) (by decide), hlone rfl (by decide) (by decide), ?_⟩
  · exact (hdigits 0x41).1.mpr (by decide)
  · exact hdigits.contains_eq_false (by decide)
  · exact ⟨(hletters 0x47).1.mpr (by decide), (hletters 0x67).1.mpr (by decide),
      hletters.contains_eq_false (by decide)⟩

end CompiledEscape

end UnicodeClasses

import UnicodeClasses.Proofs.GroupedValues

/-!
# Strict resolution

What a token stands for is read off the property data: `Denotes` gives the sets and `Unknown` the
errors. A registry that has been built resolves each token in exactly this way, and negation only
complements the set.
-/
namespace UnicodeClasses

/-- Each code point of the domain is in one of a set and its complement, and no other is in
either. -/
theorem RangeSet.contains_complement (s : RangeSet) (c : Nat) :
    (c ≤ maxCodePoint → s.complement.contains c = !s.contains c) ∧
    (maxCodePoint < c → s.contains c = false ∧ s.complement.contains c = false) := by
  constructor
  · intro hc
    rw [Bool.eq_iff_iff, Bool.not_eq_true', ← Bool.not_eq_true, RangeSet.contains_iff,
      RangeSet.contains_iff, RangeSet.mem_complement, and_iff_right hc]
  · intro hc
    have houtside : ∀ t : RangeSet, t.contains c = false := fun t =>
      Bool.eq_false_iff.mpr fun hmem => by
        have := RangeSet.le_max_of_mem (RangeSet.contains_iff.mp hmem)
        omega
    exact ⟨houtside s, houtside s.complement⟩

namespace PropertyData

/-- The set that a token stands for. A lone text is a binary property before it is a value of the
general category, and nothing else. -/
inductive Denotes (data : PropertyData) : PropertyToken → RangeSet → Prop
  | binary {text : String} {entry : BinaryEntry} (hentry : entry ∈ data.binary)
      (htext : text ∈ entry.names) : Denotes data (.lone text) (.ofTable entry.table)
  | category {text : String} {entry : EnumeratedEntry} {value : ValueEntry}
      (hbinary : ∀ binary ∈ data.binary, text ∉ binary.names) (hentry : entry ∈ data.enumerated)
      (hcategory : entry.name = "General_Category") (hvalue : value ∈ entry.values)
      (htext : text ∈ value.names) : Denotes data (.lone text) (.ofTable (entry.pooledTable value))
  | value {name text : String} {entry : EnumeratedEntry} {value : ValueEntry}
      (hentry : entry ∈ data.enumerated) (hname : name ∈ entry.names)
      (hvalue : value ∈ entry.values) (htext : text ∈ value.names) :
      Denotes data (.pair name text) (.ofTable (entry.pooledTable value))

/-- The error of a token that stands for nothing. -/
inductive Unknown (data : PropertyData) : PropertyToken → CompileError → Prop
  | shorthand {text : String} (hbinary : ∀ binary ∈ data.binary, text ∉ binary.names)
      (hcategory : ∀ entry ∈ data.enumerated, entry.name = "General_Category" →
        ∀ value ∈ entry.values, text ∉ value.names) :
      Unknown data (.lone text) (.unknownShorthand text)
  | name {name text : String} (hentries : ∀ entry ∈ data.entries, name ∉ entry.names) :
      Unknown data (.pair name text) (.unknownName name)
  | binary {name text : String} {entry : BinaryEntry} (hentry : entry ∈ data.binary)
      (hname : name ∈ entry.names) : Unknown data (.pair name text) (.unknownValue name text)
  | value {name text : String} {entry : EnumeratedEntry} (hentry : entry ∈ data.enumerated)
      (hname : name ∈ entry.names) (hvalues : ∀ value ∈ entry.values, text ∉ value.names) :
      Unknown data (.pair name text) (.unknownValue name text)

/-- Each token stands for a set or has an error. -/
theorem denotes_or_unknown (data : PropertyData) (token : PropertyToken) :
    (∃ set, data.Denotes token set) ∨ ∃ e, data.Unknown token e := by
  cases token with
  | lone text =>
    by_cases hbinary : ∃ entry ∈ data.binary, text ∈ entry.names
    · obtain ⟨entry, hentry, htext⟩ := hbinary
      exact .inl ⟨_, .binary hentry htext⟩
    have hnone : ∀ entry ∈ data.binary, text ∉ entry.names :=
      fun entry hentry htext => hbinary ⟨entry, hentry, htext⟩
    by_cases hcategory : ∃ entry ∈ data.enumerated, entry.name = "General_Category" ∧
        ∃ value ∈ entry.values, text ∈ value.names
    · obtain ⟨entry, hentry, hname, value, hvalue, htext⟩ := hcategory
      exact .inl ⟨_, .category hnone hentry hname hvalue htext⟩
    · exact .inr ⟨_, .shorthand hnone fun entry hentry hname value hvalue htext =>
        hcategory ⟨entry, hentry, hname, value, hvalue, htext⟩⟩
  | pair name text =>
    by_cases hentries : ∃ entry ∈ data.entries, name ∈ entry.names
    · obtain ⟨entry, hentry, hname⟩ := hentries
      rcases Registry.mem_entries.mp hentry with ⟨binary, hbinary, rfl⟩ | ⟨entry, hmem, rfl⟩
      · exact .inr ⟨_, .binary hbinary hname⟩
      · by_cases hvalue : ∃ value ∈ entry.values, text ∈ value.names
        · obtain ⟨value, hvalue, htext⟩ := hvalue
          exact .inl ⟨_, .value hmem hname hvalue htext⟩
        · exact .inr ⟨_, .value hmem hname fun value hin htext => hvalue ⟨value, hin, htext⟩⟩
    · exact .inr ⟨_, .name fun entry hentry hname => hentries ⟨entry, hentry, hname⟩⟩

end PropertyData

namespace Registry

/-- Under its name a property is found at the place of its entry. -/
theorem exists_findProperty? {data : PropertyData} {registry : Registry}
    (h : build data = .ok registry) {entry : PropertyEntry} (hentry : entry ∈ data.entries)
    {name : String} (hname : name ∈ entry.names) :
    ∃ p, registry.findProperty? name = some p ∧ data.entries[p.index]? = some entry := by
  obtain ⟨i, hi⟩ := List.mem_iff_getElem?.mp hentry
  exact ⟨⟨i⟩, (findProperty?_eq_some_iff h).mpr ⟨entry, hi, hname⟩, hi⟩

section built

variable {data : PropertyData} {registry : Registry} {token : PropertyToken} {set : RangeSet}
  {e : CompileError} (h : build data = .ok registry)
include h

theorem tokenSet_of_denotes (hdenotes : data.Denotes token set) :
    registry.tokenSet token = .ok set := by
  -- the sets of values are known by their members, which are those of the pooled table
  have hvalues : ∀ {entry value}, entry ∈ data.enumerated → value ∈ entry.values →
      ∀ v ∈ value.names,
        (∀ n ∈ entry.names,
          registry.tokenSet (.pair n v) = .ok (.ofTable (entry.pooledTable value))) ∧
        (entry.name = generalCategoryName → (∀ binary ∈ data.binary, v ∉ binary.names) →
          registry.tokenSet (.lone v) = .ok (.ofTable (entry.pooledTable value))) := by
    intro entry value hentry hvalue
    obtain ⟨set, hmem, htokens⟩ := exists_tokenSet h hentry hvalue
    exact EnumeratedEntry.eq_pooled_of_mem_iff hmem ▸ htokens
  cases hdenotes with
  | binary hentry htext => exact tokenSet_binary h hentry htext
  | category hbinary hentry hcategory hvalue htext =>
    exact (hvalues hentry hvalue _ htext).2 hcategory hbinary
  | value hentry hname hvalue htext => exact (hvalues hentry hvalue _ htext).1 _ hname

/-- A text that names neither a binary property nor a general category is no shorthand. -/
theorem shorthand?_eq_none {text : String} (hbinary : ∀ binary ∈ data.binary, text ∉ binary.names)
    (hcategory : ∀ entry ∈ data.enumerated, entry.name = generalCategoryName →
      ∀ value ∈ entry.values, text ∉ value.names) : registry.shorthand? text = none := by
  rw [shorthand?_of_not_binary h hbinary]
  cases hfound : registry.generalCategory? with
  | none => rfl
  | some p =>
    obtain ⟨values, hentry⟩ := (generalCategory?_eq_some_iff (lists_of_build h)).mp hfound
    obtain ⟨category, hget, hname, -⟩ := (lists_of_build h).exists_of_entry hentry
    have hnone : registry.findValue? p text = none := by
      refine (findValue?_eq_none_iff h).mpr fun entry hplace => ?_
      obtain rfl := Option.some.inj (hget.symm.trans hplace)
      have hmem : entry ∈ data.enumerated := by
        rcases mem_entries.mp (List.mem_of_getElem? hplace) with ⟨_, -, hkind⟩ | ⟨_, hmem, hkind⟩
        · exact nomatch hkind
        · exact PropertyEntry.enumerated.inj hkind ▸ hmem
      exact hcategory entry hmem hname
    rw [Option.bind_some, hnone]
    rfl

/-- A property is found, but no value of it. -/
theorem tokenSet_pair_of_no_value {name text : String} {entry : PropertyEntry}
    (hentry : entry ∈ data.entries) (hname : name ∈ entry.names)
    (hvalues : ∀ value ∈ entry.values, text ∉ value.names) :
    registry.tokenSet (.pair name text) = .error (.unknownValue name text) := by
  obtain ⟨p, hp, hplace⟩ := exists_findProperty? h hentry hname
  have hnone : registry.findValue? p text = none := by
    refine (findValue?_eq_none_iff h).mpr fun enumerated hget => ?_
    obtain rfl := Option.some.inj (hplace.symm.trans hget)
    exact hvalues
  simp only [tokenSet, hp, hnone]

theorem tokenSet_of_unknown (hunknown : data.Unknown token e) :
    registry.tokenSet token = .error e := by
  cases hunknown with
  | shorthand hbinary hcategory => simp only [tokenSet, shorthand?_eq_none h hbinary hcategory]
  | name hentries => simp only [tokenSet, (findProperty?_eq_none_iff h).mpr hentries]
  | binary hentry hname =>
    exact tokenSet_pair_of_no_value h (mem_entries.mpr (.inl ⟨_, hentry, rfl⟩)) hname
      fun _ hvalue => absurd hvalue List.not_mem_nil
  | value hentry hname hvalues =>
    exact tokenSet_pair_of_no_value h (mem_entries.mpr (.inr ⟨_, hentry, rfl⟩)) hname hvalues

theorem tokenSet_eq_ok_iff : registry.tokenSet token = .ok set ↔ data.Denotes token set := by
  refine ⟨fun hset => ?_, tokenSet_of_denotes h⟩
  rcases data.denotes_or_unknown token with ⟨set', hdenotes⟩ | ⟨e, hunknown⟩
  · obtain rfl := Except.ok.inj (hset.symm.trans (tokenSet_of_denotes h hdenotes))
    exact hdenotes
  · exact nomatch hset.symm.trans (tokenSet_of_unknown h hunknown)

theorem tokenSet_eq_error_iff : registry.tokenSet token = .error e ↔ data.Unknown token e := by
  refine ⟨fun herror => ?_, tokenSet_of_unknown h⟩
  rcases data.denotes_or_unknown token with ⟨set, hdenotes⟩ | ⟨e', hunknown⟩
  · exact nomatch herror.symm.trans (tokenSet_of_denotes h hdenotes)
  · obtain rfl := Except.error.inj (herror.symm.trans (tokenSet_of_unknown h hunknown))
    exact hunknown

end built

/-- A registry resolves tokens as the data says. A negated escape gives the complement, or the same
error, and the answers are those of the registry over arrays, which checks kinds on its own. -/
structure ResolvesStrictly (data : PropertyData) (registry : Registry) : Prop where
  resolved : ∀ negated token set, registry.resolve ⟨negated, token⟩ = .ok set ↔
    ∃ plain, data.Denotes token plain ∧ plain.negateIf negated = set
  refused : ∀ negated token e,
    registry.resolve ⟨negated, token⟩ = .error e ↔ data.Unknown token e
  negation : ∀ token,
    registry.resolve ⟨true, token⟩ = (registry.resolve ⟨false, token⟩).map RangeSet.complement
  divided : ∀ token plain negated, registry.resolve ⟨false, token⟩ = .ok plain →
    registry.resolve ⟨true, token⟩ = .ok negated → ∀ c,
      (c ≤ maxCodePoint → negated.contains c = !plain.contains c) ∧
      (maxCodePoint < c → plain.contains c = false ∧ negated.contains c = false)
  stored : ∃ stored, ParallelRegistry.build data = .ok stored ∧
    ∀ token, stored.tokenSet token = registry.tokenSet token

theorem resolve_true (registry : Registry) (token : PropertyToken) :
    registry.resolve ⟨true, token⟩ =
      (registry.resolve ⟨false, token⟩).map RangeSet.complement := by
  unfold resolve
  cases registry.tokenSet token <;> rfl

theorem resolution_strict {data : PropertyData} {registry : Registry}
    (h : build data = .ok registry) : registry.ResolvesStrictly data where
  resolved := by
    intro negated token set
    rw [resolve, map_eq_ok_iff]
    simp only [tokenSet_eq_ok_iff h]
  refused := by
    intro negated token e
    exact (map_eq_error_iff _).trans (tokenSet_eq_error_iff h)
  negation := resolve_true registry
  divided := by
    intro token plain negated hplain hnegated c
    rw [resolve_true, hplain] at hnegated
    obtain rfl := Except.ok.inj hnegated
    exact plain.contains_complement c
  stored := by
    obtain ⟨stored, hstored, hanswers⟩ := exists_answers h
    exact ⟨stored, hstored, hanswers.token⟩

/-- A binary property, a general category and an enumerated property share names. -/
def overlappingNames : PropertyData where
  version := ⟨1, 0, 0⟩
  binary := [⟨"Lowercase", ["Lower", "Ll"], [(0x61, 0x7A), (0xAA, 0xAA)]⟩]
  enumerated := [
    ⟨"General_Category", ["gc"], [⟨"Lowercase_Letter", ["Ll"], [(0x61, 0x7A)], []⟩,
      ⟨"Currency_Symbol", ["Sc"], [(0x24, 0x24)], []⟩]⟩,
    ⟨"Script", ["Sc"], [⟨"Latin", ["Latn"], [(0x41, 0x5A), (0x61, 0x7A)], []⟩]⟩]

theorem overlappingNames_strict : ∃ registry, build overlappingNames = .ok registry ∧
    registry.resolve ⟨false, .lone "Ll"⟩ = .ok (.ofTable [(0x61, 0x7A), (0xAA, 0xAA)]) ∧
    registry.resolve ⟨true, .lone "Sc"⟩ = .ok (RangeSet.ofTable [(0x24, 0x24)]).complement ∧
    registry.resolve ⟨false, .lone "Latin"⟩ = .error (.unknownShorthand "Latin") ∧
    registry.resolve ⟨true, .pair "Ll" "Yes"⟩ = .error (.unknownValue "Ll" "Yes") ∧
    registry.resolve ⟨true, .pair "Sc" "Ll"⟩ = .error (.unknownValue "Sc" "Ll") ∧
    registry.resolve ⟨false, .pair "Scirpt" "Latn"⟩ = .error (.unknownName "Scirpt") := by
  obtain ⟨registry, h⟩ : ∃ registry, build overlappingNames = .ok registry :=
    exists_build (by decide)
  have hstrict := resolution_strict h
  refine ⟨registry, h, ?_, ?_, ?_, ?_, ?_, ?_⟩
  · exact (hstrict.resolved _ _ _).mpr ⟨_, .binary (List.mem_cons_self ..) (by decide), rfl⟩
  · have hcategory : overlappingNames.Denotes (.lone "Sc")
        (.ofTable (overlappingNames.enumerated[0].pooledTable
          overlappingNames.enumerated[0].values[1])) :=
      .category (by decide) (by decide) (by decide) (by decide) (by decide)
    exact (hstrict.resolved _ _ _).mpr ⟨_, hcategory, rfl⟩
  · exact (hstrict.refused _ _ _).mpr (.shorthand (by decide) (by decide))
  · exact (hstrict.refused _ _ _).mpr (.binary (List.mem_cons_self ..) (by decide))
  · have hscript : overlappingNames.enumerated[1] ∈ overlappingNames.enumerated := by decide
    exact (hstrict.refused _ _ _).mpr (.value hscript (by decide) (by decide))
  · exact (hstrict.refused _ _ _).mpr (.name (by decide))

end Registry
end UnicodeClasses

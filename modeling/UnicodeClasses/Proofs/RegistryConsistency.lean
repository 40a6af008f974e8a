import UnicodeClasses.Proofs.EscapeMeaning
import UnicodeClasses.Proofs.ParallelLookup

/-!
# Consistency of a registry

A registry knows its properties and values by number, by name and by listing. In a registry that
has been built these views agree, for the numbers that it gives out and for all others, and the
numbers are those of the data. Nothing that it finds is missing later.
-/
namespace UnicodeClasses

namespace Registry

variable {data : PropertyData} {registry : Registry} {listed : List PropertyEntry}

/-- What a registry says about one number agrees, whoever gave out the number. -/
structure Consistent (registry : Registry) : Prop where
  kind : ∀ p, (registry.kind? p).isSome = true ↔ p.index < registry.propertyCount
  name : ∀ p, (registry.propertyName? p).isSome = true ↔ p.index < registry.propertyCount
  binary : ∀ p, (∃ set, registry.binarySet p = .ok set) ↔ registry.kind? p = some .binary
  no_values : ∀ p, registry.kind? p ≠ some .enumerated →
    registry.valueCount p = 0 ∧ ∀ v set, registry.valueSet p v ≠ .ok set
  value : ∀ p v, (∃ set, registry.valueSet p v = .ok set) ↔ v.index < registry.valueCount p
  value_name : ∀ p v, (registry.valueName? p v).isSome = true ↔ v.index < registry.valueCount p
  found : ∀ text p, registry.findProperty? text = some p → p.index < registry.propertyCount
  found_value : ∀ p text v, registry.findValue? p text = some v →
    registry.kind? p = some .enumerated ∧ v.index < registry.valueCount p
  category : ∀ p, registry.generalCategory? = some p → registry.kind? p = some .enumerated
  properties : ∀ p name kind, (p, name, kind) ∈ registry.properties ↔
    registry.propertyName? p = some name ∧ registry.kind? p = some kind
  values : ∀ p v name, (v, name) ∈ registry.values p ↔ registry.valueName? p v = some name
  normal : ∀ p v set, registry.binarySet p = .ok set ∨ registry.valueSet p v = .ok set →
    Normal set.ranges.toList

/-- The properties have the numbers of their entries in the data, and values those of theirs. -/
structure Numbers (data : PropertyData) (registry : Registry) : Prop where
  count : registry.propertyCount = data.binary.length + data.enumerated.length
  binary : ∀ (i : Nat) (entry : BinaryEntry), data.binary[i]? = some entry →
    registry.kind? ⟨i⟩ = some .binary ∧ registry.propertyName? ⟨i⟩ = some entry.name
  enumerated : ∀ (i : Nat) (entry : EnumeratedEntry), data.enumerated[i]? = some entry →
    registry.kind? ⟨data.binary.length + i⟩ = some .enumerated ∧
    registry.propertyName? ⟨data.binary.length + i⟩ = some entry.name ∧
    registry.valueCount ⟨data.binary.length + i⟩ = entry.values.length ∧
    ∀ (j : Nat) (value : ValueEntry), entry.values[j]? = some value →
      registry.valueName? ⟨data.binary.length + i⟩ ⟨j⟩ = some value.name
  category : registry.generalCategory?.isSome = true ↔
    ∃ entry ∈ data.enumerated, entry.name = "General_Category"

/-- An escape fails only for a text that is not found. -/
structure ResolvesFound (registry : Registry) : Prop where
  lone : ∀ negated text, (∃ set, registry.resolve ⟨negated, .lone text⟩ = .ok set) ↔
    (∃ p, registry.findProperty? text = some p ∧ registry.kind? p = some .binary) ∨
    ∃ p v, registry.generalCategory? = some p ∧ registry.findValue? p text = some v
  pair : ∀ negated name text, (∃ set, registry.resolve ⟨negated, .pair name text⟩ = .ok set) ↔
    ∃ p v, registry.findProperty? name = some p ∧ registry.kind? p = some .enumerated ∧
      registry.findValue? p text = some v

theorem kind?_isSome_iff (registry : Registry) (p : PropertyId) :
    (registry.kind? p).isSome = true ↔ p.index < registry.propertyCount := by
  simp [kind?, NameTable.get?, propertyCount, NameTable.size]

theorem propertyName?_isSome_iff (registry : Registry) (p : PropertyId) :
    (registry.propertyName? p).isSome = true ↔ p.index < registry.propertyCount := by
  simp [propertyName?, NameTable.name?, propertyCount, NameTable.size]

theorem exists_binarySet_iff (registry : Registry) (p : PropertyId) :
    (∃ set, registry.binarySet p = .ok set) ↔ registry.kind? p = some .binary := by
  simp only [binarySet_eq_ok_iff, kind?, Option.map_eq_some_iff]
  constructor
  · rintro ⟨set, hset⟩
    exact ⟨_, hset, rfl⟩
  · rintro ⟨sets, hsets, hkind⟩
    cases sets with
    | binary set => exact ⟨set, hsets⟩
    | enumerated values => cases hkind

/-- The enumerated properties are those that have values, maybe none of them. -/
theorem exists_valuesOf?_iff (registry : Registry) (p : PropertyId) :
    (∃ values, registry.valuesOf? p = some values) ↔ registry.kind? p = some .enumerated := by
  simp only [valuesOf?_eq_some_iff, kind?, Option.map_eq_some_iff]
  constructor
  · rintro ⟨values, hvalues⟩
    exact ⟨_, hvalues, rfl⟩
  · rintro ⟨sets, hsets, hkind⟩
    cases sets with
    | binary set => cases hkind
    | enumerated values => exact ⟨values, hsets⟩

theorem exists_valueSet_iff (registry : Registry) (p : PropertyId) (v : ValueId) :
    (∃ set, registry.valueSet p v = .ok set) ↔ v.index < registry.valueCount p := by
  unfold valueSet valueCount
  cases registry.valuesOf? p with
  | none => simp
  | some values =>
    simp only [NameTable.get?, NameTable.size, Option.map_some, Option.getD_some]
    by_cases hv : v.index < values.entries.size <;> simp [hv]

theorem valueName?_isSome_iff (registry : Registry) (p : PropertyId) (v : ValueId) :
    (registry.valueName? p v).isSome = true ↔ v.index < registry.valueCount p := by
  unfold valueName? valueCount
  cases registry.valuesOf? p with
  | none => simp
  | some values => simp [NameTable.name?, NameTable.size]

theorem valueCount_eq_zero {p : PropertyId} (h : registry.kind? p ≠ some .enumerated) :
    registry.valueCount p = 0 := by
  have hnone : registry.valuesOf? p = none := by
    cases hvalues : registry.valuesOf? p with
    | none => rfl
    | some values => exact absurd ((exists_valuesOf?_iff registry p).mp ⟨values, hvalues⟩) h
  rw [valueCount, hnone]
  rfl

theorem mem_properties_iff {p : PropertyId} {name : String} {kind : PropertyKind} :
    (p, name, kind) ∈ registry.properties ↔
      registry.propertyName? p = some name ∧ registry.kind? p = some kind := by
  simp only [properties, propertyName?, kind?, NameTable.name?, NameTable.get?, List.mem_map,
    Prod.exists, List.mk_mem_zipIdx_iff_getElem?, Array.getElem?_toList]
  constructor
  · rintro ⟨name', sets, i, hentry, ⟨⟩⟩
    simp [hentry]
  · rintro ⟨hname, hkind⟩
    obtain ⟨⟨name', sets⟩, hentry, rfl⟩ := Option.map_eq_some_iff.mp hname
    rw [hentry] at hkind
    obtain rfl := Option.some.inj hkind
    exact ⟨name', sets, p.index, hentry, rfl⟩

theorem mem_values_iff {p : PropertyId} {v : ValueId} {name : String} :
    (v, name) ∈ registry.values p ↔ registry.valueName? p v = some name := by
  unfold values valueName?
  cases registry.valuesOf? p with
  | none => simp
  | some values =>
    simp only [NameTable.name?, Option.bind_eq_bind, Option.bind_some, List.mem_map, Prod.exists,
      List.mk_mem_zipIdx_iff_getElem?, Array.getElem?_toList, Option.map_eq_some_iff]
    constructor
    · rintro ⟨_, set, i, hentry, ⟨⟩⟩
      exact ⟨_, set, hentry, rfl⟩
    · rintro ⟨_, set, hentry, rfl⟩
      exact ⟨_, set, v.index, hentry, rfl⟩

theorem getElem?_entries_binary {i : Nat} {entry : BinaryEntry}
    (hentry : data.binary[i]? = some entry) : data.entries[i]? = some (.binary entry) := by
  have hi : i < data.binary.length := (List.getElem?_eq_some_iff.mp hentry).1
  rw [PropertyData.entries, List.getElem?_append_left (by simpa using hi), List.getElem?_map,
    hentry]
  rfl

theorem getElem?_entries_enumerated {i : Nat} {entry : EnumeratedEntry}
    (hentry : data.enumerated[i]? = some entry) :
    data.entries[data.binary.length + i]? = some (.enumerated entry) := by
  rw [PropertyData.entries, List.getElem?_append_right (by simp)]
  simp [hentry]

theorem exists_resolve_iff (negated : Bool) (token : PropertyToken) :
    (∃ set, registry.resolve ⟨negated, token⟩ = .ok set) ↔
      ∃ set, registry.tokenSet token = .ok set := exists_map_eq_ok_iff

section built

variable (h : build data = .ok registry)
include h

/-- The values under a number are those of the entry in that place. -/
theorem exists_entry_of_valuesOf? {p : PropertyId} {values : NameTable RangeSet}
    (hvalues : registry.valuesOf? p = some values) : ∃ entry : EnumeratedEntry,
      data.entries[p.index]? = some (.enumerated entry) ∧ entry.valueSets = .ok values := by
  obtain ⟨⟨name, sets⟩, hentry, rfl⟩ := Option.map_eq_some_iff.mp (valuesOf?_eq_some_iff.mp hvalues)
  obtain ⟨entry, hget, -, hload⟩ := (lists_of_build h).exists_of_entry hentry
  cases entry with
  | binary entry => exact nomatch hload
  | enumerated entry =>
    obtain ⟨sets, hsets, ⟨⟩⟩ := map_eq_ok_iff.mp hload
    exact ⟨entry, hget, hsets⟩

/-- An entry of the data has its values under its own number. -/
theorem exists_valuesOf?_of_entry {p : PropertyId} {entry : EnumeratedEntry}
    (hentry : data.entries[p.index]? = some (.enumerated entry)) :
    ∃ values, entry.valueSets = .ok values ∧ registry.valuesOf? p = some values := by
  obtain ⟨sets, hload, hget⟩ := (lists_of_build h).entry p.index _ hentry
  obtain ⟨values, hvalues, rfl⟩ := map_eq_ok_iff.mp hload
  refine ⟨values, hvalues, ?_⟩
  rw [valuesOf?_eq_some_iff, NameTable.get?, hget]
  rfl

theorem propertyName?_of_entry {p : PropertyId} {entry : PropertyEntry}
    (hentry : data.entries[p.index]? = some entry) :
    registry.propertyName? p = some entry.name := by
  obtain ⟨sets, -, hget⟩ := (lists_of_build h).entry p.index _ hentry
  rw [propertyName?, NameTable.name?, hget]
  rfl

theorem lt_of_findValue? {p : PropertyId} {text : String} {v : ValueId}
    (hfind : registry.findValue? p text = some v) :
    registry.kind? p = some .enumerated ∧ v.index < registry.valueCount p := by
  obtain ⟨values, hvalues, hfind⟩ := Option.bind_eq_some_iff.mp hfind
  obtain ⟨i, hi, ⟨⟩⟩ := Option.bind_eq_some_iff.mp hfind
  obtain ⟨entry, -, hsets⟩ := exists_entry_of_valuesOf? h hvalues
  obtain ⟨_, -, hlists⟩ := EnumeratedEntry.lists_valueSets hsets
  refine ⟨(exists_valuesOf?_iff registry p).mp ⟨values, hvalues⟩, ?_⟩
  rw [valueCount, hvalues]
  exact hlists.bounded text i hi

theorem agrees_of_build : registry.Consistent where
  kind := kind?_isSome_iff registry
  name := propertyName?_isSome_iff registry
  binary := exists_binarySet_iff registry
  no_values := by
    intro p hkind
    have hcount := valueCount_eq_zero hkind
    refine ⟨hcount, fun v set hset => ?_⟩
    exact Nat.not_lt_zero _ (hcount ▸ (exists_valueSet_iff registry p v).mp ⟨set, hset⟩)
  value := exists_valueSet_iff registry
  value_name := valueName?_isSome_iff registry
  found := by
    intro text p hfind
    obtain ⟨i, hi, rfl⟩ := Option.map_eq_some_iff.mp hfind
    exact (lists_of_build h).bounded text i hi
  found_value := fun p text v => lt_of_findValue? h
  category := by
    intro p hcategory
    obtain ⟨values, hentry⟩ := (generalCategory?_eq_some_iff (lists_of_build h)).mp hcategory
    rw [kind?, NameTable.get?, hentry]
    rfl
  properties := fun p name kind => mem_properties_iff
  values := fun p v name => mem_values_iff
  normal := fun p v set _ => set.normal

theorem enumerated_numbers {i : Nat} {entry : EnumeratedEntry}
    (hentry : data.entries[i]? = some (.enumerated entry)) :
    registry.kind? ⟨i⟩ = some .enumerated ∧ registry.propertyName? ⟨i⟩ = some entry.name ∧
    registry.valueCount ⟨i⟩ = entry.values.length ∧
    ∀ (j : Nat) (value : ValueEntry), entry.values[j]? = some value →
      registry.valueName? ⟨i⟩ ⟨j⟩ = some value.name := by
  obtain ⟨values, hvalues, hfound⟩ := exists_valuesOf?_of_entry h (p := ⟨i⟩) hentry
  obtain ⟨_, -, hlists⟩ := EnumeratedEntry.lists_valueSets hvalues
  refine ⟨(exists_valuesOf?_iff registry _).mp ⟨values, hfound⟩,
    propertyName?_of_entry h (p := ⟨i⟩) hentry, ?_, fun j value hvalue => ?_⟩
  · rw [valueCount, hfound]
    exact hlists.size_eq
  · obtain ⟨set, -, hset⟩ := hlists.entry j value hvalue
    simp [valueName?, hfound, NameTable.name?, hset]

theorem generalCategory?_isSome_iff : registry.generalCategory?.isSome = true ↔
    ∃ entry ∈ data.enumerated, entry.name = generalCategoryName := by
  simp only [Option.isSome_iff_exists, generalCategory?_eq_some_iff (lists_of_build h)]
  constructor
  · rintro ⟨p, values, hentry⟩
    obtain ⟨entry, hget, hname, hload⟩ := (lists_of_build h).exists_of_entry hentry
    rcases mem_entries.mp (List.mem_of_getElem? hget) with
      ⟨binary, -, rfl⟩ | ⟨enumerated, hmem, rfl⟩
    · exact nomatch hload
    · exact ⟨enumerated, hmem, hname⟩
  · rintro ⟨entry, hmem, hname⟩
    obtain ⟨i, hi⟩ := List.mem_iff_getElem?.mp hmem
    obtain ⟨sets, hload, hget⟩ := (lists_of_build h).entry _ _ (getElem?_entries_enumerated hi)
    obtain ⟨values, -, rfl⟩ := map_eq_ok_iff.mp hload
    exact ⟨⟨_⟩, values, by rw [hget, ← hname]; rfl⟩

theorem numbers_of_build : registry.Numbers data where
  count := by
    rw [propertyCount, (lists_of_build h).size_eq]
    simp [PropertyData.entries]
  binary := by
    intro i entry hentry
    obtain ⟨sets, hload, hget⟩ := (lists_of_build h).entry i _ (getElem?_entries_binary hentry)
    obtain ⟨⟩ := hload
    refine ⟨?_, propertyName?_of_entry h (p := ⟨i⟩) (getElem?_entries_binary hentry)⟩
    rw [kind?, NameTable.get?, hget]
    rfl
  enumerated := fun _ _ hentry => enumerated_numbers h (getElem?_entries_enumerated hentry)
  category := generalCategory?_isSome_iff h

/-- A value that is found has a set. -/
theorem exists_valueSet_of_findValue? {p : PropertyId} {text : String} {v : ValueId}
    (hfind : registry.findValue? p text = some v) : ∃ set, registry.valueSet p v = .ok set :=
  (exists_valueSet_iff registry p v).mpr (lt_of_findValue? h hfind).2

theorem exists_resolve_pair_iff (negated : Bool) (name text : String) :
    (∃ set, registry.resolve ⟨negated, .pair name text⟩ = .ok set) ↔
      ∃ p v, registry.findProperty? name = some p ∧ registry.kind? p = some .enumerated ∧
        registry.findValue? p text = some v := by
  rw [exists_resolve_iff]
  constructor
  · rintro ⟨set, hset⟩
    cases hproperty : registry.findProperty? name with
    | none => simp [tokenSet, hproperty] at hset
    | some p =>
      cases hvalue : registry.findValue? p text with
      | none => simp [tokenSet, hproperty, hvalue] at hset
      | some v => exact ⟨p, v, rfl, (lt_of_findValue? h hvalue).1, hvalue⟩
  · rintro ⟨p, v, hproperty, -, hvalue⟩
    simp only [tokenSet, hproperty, hvalue]
    exact exists_valueSet_of_findValue? h hvalue

/-- A shorthand is a binary property or a value of the general category. -/
theorem exists_shorthand?_iff (text : String) : (∃ set, registry.shorthand? text = some set) ↔
    (∃ p, registry.findProperty? text = some p ∧ registry.kind? p = some .binary) ∨
    ∃ p v, registry.generalCategory? = some p ∧ registry.findValue? p text = some v := by
  unfold shorthand?
  cases hset : (registry.findProperty? text).bind fun p => (registry.binarySet p).toOption with
  | some set =>
    obtain ⟨p, hp, hbinary⟩ := Option.bind_eq_some_iff.mp hset
    have hkind := (exists_binarySet_iff registry p).mp ⟨set, toOption_eq_some_iff.mp hbinary⟩
    exact iff_of_true ⟨set, rfl⟩ (.inl ⟨p, hp, hkind⟩)
  | none =>
    have hbinary : ¬ ∃ p, registry.findProperty? text = some p ∧
        registry.kind? p = some .binary := by
      rintro ⟨p, hp, hkind⟩
      obtain ⟨set, hbinary⟩ := (exists_binarySet_iff registry p).mpr hkind
      simp [hp, hbinary, Except.toOption] at hset
    rw [or_iff_right hbinary]
    constructor
    · rintro ⟨set, hset⟩
      obtain ⟨p, hp, hset⟩ := Option.bind_eq_some_iff.mp hset
      obtain ⟨v, hv, -⟩ := Option.bind_eq_some_iff.mp hset
      exact ⟨p, v, hp, hv⟩
    · rintro ⟨p, v, hp, hv⟩
      obtain ⟨set, hset⟩ := exists_valueSet_of_findValue? h hv
      exact ⟨set, by simp [hp, hv, hset, Except.toOption]⟩

theorem exists_resolve_lone_iff (negated : Bool) (text : String) :
    (∃ set, registry.resolve ⟨negated, .lone text⟩ = .ok set) ↔
      (∃ p, registry.findProperty? text = some p ∧ registry.kind? p = some .binary) ∨
      ∃ p v, registry.generalCategory? = some p ∧ registry.findValue? p text = some v := by
  rw [exists_resolve_iff, ← exists_shorthand?_iff h, tokenSet]
  cases registry.shorthand? text <;> simp

theorem propertyCount_le : registry.propertyCount ≤ maxEntries := by
  rw [propertyCount, (lists_of_build h).size_eq]
  exact (exists_build_iff.mp ⟨registry, h⟩).1

theorem valueCount_le (p : PropertyId) : registry.valueCount p ≤ maxEntries := by
  unfold valueCount
  cases hvalues : registry.valuesOf? p with
  | none => exact Nat.zero_le _
  | some values =>
    obtain ⟨entry, -, hsets⟩ := exists_entry_of_valuesOf? h hvalues
    obtain ⟨_, -, hlists⟩ := EnumeratedEntry.lists_valueSets hsets
    have hroom := (EnumeratedEntry.exists_valueSets_iff.mp ⟨values, hsets⟩).1
    show values.size ≤ maxEntries
    rw [hlists.size_eq]
    exact hroom

theorem exists_answers : ∃ stored, ParallelRegistry.build data = .ok stored ∧
    stored.Answers registry := by
  have hfollows := ParallelRegistry.follows_build data
  rw [h] at hfollows
  obtain ⟨stored, hstored, hrepresents⟩ := hfollows
  exact ⟨stored, hstored, hrepresents.answers (propertyCount_le h) (valueCount_le h)⟩

end built

/-- A registry that has been built is consistent, numbers its data in order and resolves what it
finds. Its names and sets can be stored apart in arrays; the build then reads no number outside
them, and each answer stays the same. -/
theorem consistent_of_build (h : build data = .ok registry) :
    registry.Consistent ∧ registry.Numbers data ∧ registry.ResolvesFound ∧
      ∃ stored, ParallelRegistry.build data = .ok stored ∧ stored.Answers registry :=
  ⟨agrees_of_build h, numbers_of_build h,
    ⟨exists_resolve_lone_iff h, exists_resolve_pair_iff h⟩, exists_answers h⟩

open CompiledEscape (letterData)

theorem letterData_consistent : ∃ registry stored, build letterData = .ok registry ∧
    ParallelRegistry.build letterData = .ok stored ∧ stored.Answers registry ∧
    registry.Consistent ∧ registry.propertyCount = 2 ∧ registry.kind? ⟨0⟩ = some .binary ∧
    registry.kind? ⟨1⟩ = some .enumerated ∧ registry.valueCount ⟨1⟩ = 3 ∧
    registry.generalCategory?.isSome = true ∧ registry.kind? ⟨2⟩ = none := by
  have hsets : ∀ entry ∈ letterData.enumerated, ∃ sets, entry.valueSets = .ok sets := by
    intro entry hentry
    obtain rfl := List.mem_singleton.mp hentry
    exact EnumeratedEntry.exists_valueSets_iff.mpr ⟨by decide, by decide, by decide⟩
  obtain ⟨registry, h⟩ := exists_build_iff.mpr ⟨by decide, by decide, hsets⟩
  obtain ⟨hconsistent, hnumbers, -, stored, hstored, hanswers⟩ := consistent_of_build h
  have hbinary := hnumbers.binary 0 _ rfl
  have henumerated := hnumbers.enumerated 0 _ rfl
  have hcategory := hnumbers.category.mpr ⟨_, List.mem_singleton.mpr rfl, rfl⟩
  have hforeign := hconsistent.kind ⟨2⟩
  rw [hnumbers.count] at hforeign
  exact ⟨registry, stored, h, hstored, hanswers, hconsistent, hnumbers.count, hbinary.1,
    henumerated.1, henumerated.2.2.1, hcategory,
    Option.not_isSome_iff_eq_none.mp (mt hforeign.mp (by decide))⟩

end Registry

end UnicodeClasses

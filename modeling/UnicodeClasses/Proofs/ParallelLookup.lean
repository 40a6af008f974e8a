import UnicodeClasses.Proofs.ParallelBuild

/-!
# Lookups in parallel arrays

Whatever number it is asked about, its own or not, a registry over parallel arrays answers as the
registry that it follows.
-/
namespace UnicodeClasses

namespace Registry

variable {registry : Registry} {property : PropertyId} {listed : List PropertyEntry}

/-- The number of distinct names among the values of a property. -/
def valueNameCount : PropertySets → Nat
  | .binary _ => 0
  | .enumerated values => values.nameCount

theorem aliasCount_eq_sum (registry : Registry) : registry.aliasCount =
    registry.table.nameCount +
      (registry.table.entries.toList.map fun entry => valueNameCount entry.2).sum := by
  rw [aliasCount, ← Array.foldl_toList]
  generalize registry.table.nameCount = count
  induction registry.table.entries.toList generalizing count with
  | nil => rfl
  | cons entry entries ih =>
    obtain ⟨name, sets⟩ := entry
    rw [List.foldl_cons, ih, List.map_cons, List.sum_cons]
    cases sets with
    | binary set => simp [valueNameCount]
    | enumerated values => simp [valueNameCount, Nat.add_assoc]

/-- The general category is the enumerated property of that name. -/
theorem generalCategory?_eq_some_iff
    (hlists : ParallelRegistry.ListsProperties registry.table listed) :
    registry.generalCategory? = some property ↔
      ParallelRegistry.IsCategory registry.table.entries property.index := by
  constructor
  · intro h
    obtain ⟨found, hfound, h⟩ := Option.bind_eq_some_iff.mp h
    split at h
    · rename_i hcategory
      obtain rfl := Option.some.inj h
      obtain ⟨hkind, hname⟩ := hcategory
      obtain ⟨⟨name, data⟩, hentry, rfl⟩ := Option.map_eq_some_iff.mp hname
      obtain ⟨sets, hsets, hkind⟩ := Option.map_eq_some_iff.mp hkind
      obtain ⟨_, hentry', rfl⟩ := Option.map_eq_some_iff.mp hsets
      obtain rfl := Option.some.inj (hentry.symm.trans hentry')
      cases data with
      | binary set => exact nomatch hkind
      | enumerated values => exact ⟨values, hentry⟩
    · exact nomatch h
  · rintro ⟨values, hentry⟩
    obtain ⟨entry, hget, hname, -⟩ := hlists.exists_of_entry hentry
    have hfind := (hlists.find generalCategoryName property.index).mpr
      ⟨entry, hget, hname ▸ List.mem_cons_self ..⟩
    have hfound : registry.findProperty? generalCategoryName = some property := by
      rw [findProperty?, hfind]
      rfl
    have hvalues : registry.valuesOf? property = some values := by
      rw [valuesOf?_eq_some_iff, NameTable.get?, hentry]
      rfl
    have hname : registry.propertyName? property = some generalCategoryName := by
      rw [propertyName?, NameTable.name?, hentry]
      rfl
    exact generalCategory?_eq_some hfound hvalues hname

end Registry

namespace ParallelRegistry

variable {stored : ParallelRegistry} {registry : Registry}

/-- Under each number there is nothing in either, the same binary property in both, or an enumerated
property with the same names and sets. -/
theorem Represents.cases {table : NameTable PropertySets} (h : Represents stored table) (i : Nat) :
    (table.get? i = none ∧ table.name? i = none ∧ stored.names.properties[i]? = none ∧
      stored.sets[i]? = none) ∨
    (∃ names set, table.get? i = some (.binary set) ∧ table.name? i = some names.canonical ∧
      stored.names.properties[i]? = some names ∧ names.valueNames = #[] ∧ names.valueIndex = ∅ ∧
      stored.sets[i]? = some (.binary set)) ∨
    ∃ names values, table.get? i = some (.enumerated values) ∧
      table.name? i = some names.canonical ∧ stored.names.properties[i]? = some names ∧
      values.Holds names.valueNames names.valueIndex ∧
      stored.sets[i]? = some (.enumerated (values.entries.map (·.2))) := by
  unfold NameTable.get? NameTable.name?
  cases hentry : table.entries[i]? with
  | none =>
    have hlength : table.size ≤ i := Array.getElem?_eq_none_iff.mp hentry
    exact .inl ⟨rfl, rfl, Array.getElem?_eq_none (h.properties_size ▸ hlength),
      Array.getElem?_eq_none (h.size ▸ hlength)⟩
  | some entry =>
    obtain ⟨names, sets, hnames, hsets, hname, hstores⟩ := h.sets i entry.1 entry.2 hentry
    obtain ⟨name, data⟩ := entry
    obtain rfl : names.canonical = name := hname
    cases data with
    | binary set =>
      obtain ⟨hvalues, hindex, rfl⟩ := hstores
      exact .inr (.inl ⟨names, set, rfl, rfl, hnames, hvalues, hindex, hsets⟩)
    | enumerated values =>
      obtain ⟨hholds, rfl⟩ := hstores
      exact .inr (.inr ⟨names, values, rfl, rfl, hnames, hholds, hsets⟩)

theorem Stores.kind_eq {names : PropertyNames} {sets : StoredSets} {data : PropertySets}
    (h : Stores names sets data) : sets.kind = data.kind := by
  cases data with
  | binary set => exact congrArg StoredSets.kind h.2.2
  | enumerated values => exact congrArg StoredSets.kind h.2

section accessors

variable (h : Represents stored registry.table)
include h

theorem Represents.kind?_eq (p : UInt16) : stored.kind? p = registry.kind? ⟨p.toNat⟩ := by
  unfold kind? Registry.kind?
  rcases h.cases p.toNat with ⟨hget, -, -, hsets⟩ | ⟨_, _, hget, -, -, -, -, hsets⟩ |
    ⟨_, _, hget, -, -, -, hsets⟩
  all_goals
    rw [hget, hsets]
    rfl

theorem Represents.propertyName?_eq (p : UInt16) :
    stored.names.propertyName? p = registry.propertyName? ⟨p.toNat⟩ := by
  unfold NameStore.propertyName? Registry.propertyName?
  rcases h.cases p.toNat with ⟨-, hname, hnames, -⟩ | ⟨_, _, -, hname, hnames, -⟩ |
    ⟨_, _, -, hname, hnames, -⟩
  all_goals
    rw [hname, hnames]
    rfl

theorem Represents.propertyCount_eq : stored.names.propertyCount = registry.propertyCount :=
  h.properties_size

theorem Represents.findProperty?_eq (text : String) :
    (stored.names.findProperty? text).map (fun p => ⟨p.toNat⟩) = registry.findProperty? text := by
  rw [Registry.findProperty?, NameTable.find?, h.holds.reads text, Option.map_map]
  rfl

/-- The values of a property are those of the registry; an absent property and a binary one have
no values. -/
theorem Represents.values_cases (p : UInt16) :
    (registry.valuesOf? ⟨p.toNat⟩ = none ∧
      ∀ names, stored.names.properties[p.toNat]? = some names →
        names.valueNames = #[] ∧ names.valueIndex = ∅) ∨
    ∃ names values, registry.valuesOf? ⟨p.toNat⟩ = some values ∧
      stored.names.properties[p.toNat]? = some names ∧
      values.Holds names.valueNames names.valueIndex := by
  unfold Registry.valuesOf?
  rcases h.cases p.toNat with ⟨hget, -, hnames, -⟩ |
    ⟨names, _, hget, -, hnames, hvalues, hindex, -⟩ | ⟨names, values, hget, -, hnames, hholds, -⟩
  · exact .inl ⟨by rw [hget], fun _ h => nomatch hnames.symm.trans h⟩
  · refine .inl ⟨by rw [hget], fun names' h => ?_⟩
    obtain rfl := Option.some.inj (hnames.symm.trans h)
    exact ⟨hvalues, hindex⟩
  · exact .inr ⟨names, values, by rw [hget], hnames, hholds⟩

theorem Represents.valueName?_eq (p v : UInt16) :
    stored.names.valueName? p v = registry.valueName? ⟨p.toNat⟩ ⟨v.toNat⟩ := by
  unfold NameStore.valueName? Registry.valueName?
  rcases h.values_cases p with ⟨hvalues, hnames⟩ | ⟨names, values, hvalues, hnames, hholds⟩
  · cases hproperty : stored.names.properties[p.toNat]? with
    | none => simp [hvalues]
    | some names => simp [hvalues, hnames names hproperty]
  · simp [hvalues, hnames, hholds.listed_eq, NameTable.name?]

theorem Represents.findValue?_eq (p : UInt16) (text : String) :
    (stored.names.findValue? p text).map (fun v => ⟨v.toNat⟩) =
      registry.findValue? ⟨p.toNat⟩ text := by
  unfold NameStore.findValue? Registry.findValue?
  rcases h.values_cases p with ⟨hvalues, hnames⟩ | ⟨names, values, hvalues, hnames, hholds⟩
  · cases hproperty : stored.names.properties[p.toNat]? with
    | none => simp [hvalues]
    | some names => simp [hvalues, hnames names hproperty]
  · simp only [hvalues, hnames, NameTable.find?, hholds.reads text, Option.bind_eq_bind,
      Option.bind_some]
    cases names.valueIndex[text]? <;> rfl

theorem Represents.valueCount_eq (p : UInt16) :
    stored.names.valueCount p = registry.valueCount ⟨p.toNat⟩ := by
  unfold NameStore.valueCount Registry.valueCount
  rcases h.values_cases p with ⟨hvalues, hnames⟩ | ⟨names, values, hvalues, hnames, hholds⟩
  · cases hproperty : stored.names.properties[p.toNat]? with
    | none => simp [hvalues]
    | some names => simp [hvalues, hnames names hproperty]
  · simp [hvalues, hnames, hholds.listed_eq, NameTable.size]

/-- Both indices of names know the same names. -/
theorem Represents.aliasCount_eq : stored.names.aliasCount = registry.aliasCount := by
  have hnames : stored.names.index.size = registry.table.nameCount := h.holds.reads.size_eq
  have hvalues : stored.names.properties.toList.map (·.valueIndex.size) =
      registry.table.entries.toList.map fun entry => Registry.valueNameCount entry.2 := by
    apply List.ext_getElem?
    intro i
    have hcounts : (registry.table.entries.toList.map fun entry =>
        Registry.valueNameCount entry.2)[i]? =
          (registry.table.get? i).map Registry.valueNameCount := by
      rw [NameTable.get?, Option.map_map, List.getElem?_map, Array.getElem?_toList]
      rfl
    rw [hcounts, List.getElem?_map, Array.getElem?_toList]
    rcases h.cases i with ⟨hget, -, hproperty, -⟩ | ⟨_, _, hget, -, hproperty, -, hindex, -⟩ |
      ⟨_, _, hget, -, hproperty, hholds, -⟩
    · rw [hget, hproperty]
      rfl
    · simp [hget, hproperty, hindex, Registry.valueNameCount]
    · simp [hget, hproperty, hholds.reads.size_eq, Registry.valueNameCount, NameTable.nameCount]
  rw [NameStore.aliasCount, Registry.aliasCount_eq_sum, hnames, hvalues]

theorem Represents.binarySet_eq (p : UInt16) :
    stored.binarySet p = registry.binarySet ⟨p.toNat⟩ := by
  unfold binarySet Registry.binarySet
  rw [h.propertyName?_eq p]
  rcases h.cases p.toNat with ⟨hget, -, -, hsets⟩ | ⟨_, _, hget, -, -, -, -, hsets⟩ |
    ⟨_, _, hget, -, -, -, hsets⟩
  all_goals rw [hget, hsets]

theorem Represents.valueSet_eq (p v : UInt16) :
    stored.valueSet p v = registry.valueSet ⟨p.toNat⟩ ⟨v.toNat⟩ := by
  unfold valueSet Registry.valueSet
  rw [h.propertyName?_eq p, h.valueName?_eq p v]
  unfold Registry.valueName? Registry.valuesOf?
  rcases h.cases p.toNat with ⟨hget, -, -, hsets⟩ | ⟨_, _, hget, -, -, -, -, hsets⟩ |
    ⟨_, values, hget, -, -, -, hsets⟩
  · rw [hget, hsets]
    rfl
  · rw [hget, hsets]
    rfl
  · rw [hget, hsets]
    simp only [Array.getElem?_map, NameTable.get?]
    cases values.entries[v.toNat]? <;> rfl

/-- The remembered general category is the one found by name. -/
theorem Represents.generalCategory_eq :
    stored.generalCategory.map (fun p => ⟨p.toNat⟩) = registry.generalCategory? := by
  obtain ⟨listed, hlisted⟩ := h.lists
  ext property
  rw [Registry.generalCategory?_eq_some_iff hlisted, Option.map_eq_some_iff]
  constructor
  · rintro ⟨p, hp, rfl⟩
    exact (h.category p).mp hp
  · rintro ⟨values, hentry⟩
    obtain ⟨entry, hget, hname, -⟩ := hlisted.exists_of_entry hentry
    have hfind := (hlisted.find Registry.generalCategoryName property.index).mpr
      ⟨entry, hget, hname ▸ List.mem_cons_self ..⟩
    rw [NameTable.find?, h.holds.reads] at hfind
    obtain ⟨p, -, hp⟩ := Option.map_eq_some_iff.mp hfind
    exact ⟨p, (h.category p).mpr ⟨values, hp ▸ hentry⟩, congrArg PropertyId.mk hp⟩

theorem Represents.shorthand?_eq (text : String) :
    stored.shorthand? text = registry.shorthand? text := by
  have hbinary : ((stored.names.findProperty? text).bind fun p => (stored.binarySet p).toOption) =
      (registry.findProperty? text).bind fun p => (registry.binarySet p).toOption := by
    rw [← h.findProperty?_eq, Option.bind_map]
    simp only [h.binarySet_eq, Function.comp_def]
  have hvalue : (stored.generalCategory.bind fun category =>
        (stored.names.findValue? category text).bind fun value =>
          (stored.valueSet category value).toOption) =
      registry.generalCategory?.bind fun category =>
        (registry.findValue? category text).bind fun value =>
          (registry.valueSet category value).toOption := by
    rw [← h.generalCategory_eq, Option.bind_map]
    simp only [Function.comp_def, ← h.findValue?_eq, Option.bind_map, h.valueSet_eq]
  unfold shorthand? Registry.shorthand?
  rw [hbinary]
  cases (registry.findProperty? text).bind fun p => (registry.binarySet p).toOption with
  | none => exact hvalue
  | some set => rfl

theorem Represents.tokenSet_eq (token : PropertyToken) :
    stored.tokenSet token = registry.tokenSet token := by
  cases token with
  | lone name =>
    have hset := h.shorthand?_eq name
    simp only [tokenSet, Registry.tokenSet]
    cases hfound : registry.shorthand? name <;> rw [hset.trans hfound]
  | pair name value =>
    simp only [tokenSet, Registry.tokenSet, ← h.findProperty?_eq]
    cases stored.names.findProperty? name with
    | none => rfl
    | some p =>
      simp only [Option.map_some, ← h.findValue?_eq, kind?]
      -- a property without values has none of this name either
      rcases h.cases p.toNat with ⟨-, -, hnames, hsets⟩ |
        ⟨names, set, -, -, hnames, -, hindex, hsets⟩ | ⟨names, values, -, -, -, -, hsets⟩
      · simp [hsets, NameStore.findValue?, hnames]
      · simp [hsets, NameStore.findValue?, hnames, hindex, StoredSets.kind]
      · simp only [hsets, Option.map_some, StoredSets.kind]
        cases stored.names.findValue? p value with
        | none => rfl
        | some v => exact h.valueSet_eq p v

/-- The properties are listed alike as long as their numbers fit. -/
theorem Represents.properties_eq (hroom : registry.propertyCount ≤ maxEntries) :
    stored.properties.map (fun entry => (⟨entry.1.toNat⟩, entry.2)) = registry.properties := by
  apply List.ext_getElem?
  intro i
  simp only [properties, Registry.properties, List.getElem?_map, List.getElem?_zipIdx,
    Array.getElem?_toList, Nat.zero_add, Option.map_map]
  cases hentry : registry.table.entries[i]? with
  | none =>
    have hlength : registry.table.size ≤ i := Array.getElem?_eq_none_iff.mp hentry
    rw [Array.getElem?_eq_none (h.size ▸ hlength)]
    rfl
  | some entry =>
    obtain ⟨names, sets, hnames, hsets, hname, hstores⟩ := h.sets i entry.1 entry.2 hentry
    have hi : i < registry.table.size := (Array.getElem?_eq_some_iff.mp hentry).1
    have hnumber := toNat_ofNat_of_lt (Nat.lt_of_lt_of_le hi hroom)
    have hlisted : stored.names.propertyName? (.ofNat i) = some entry.1 := by
      rw [NameStore.propertyName?, hnumber, hnames, Option.map_some, hname]
    simp only [hsets, Option.map_some, Function.comp_apply, hlisted, Option.getD_some, hnumber,
      hstores.kind_eq]

/-- The values of a property are listed alike as long as their numbers fit. -/
theorem Represents.values_eq (p : UInt16) (hroom : registry.valueCount ⟨p.toNat⟩ ≤ maxEntries) :
    (stored.values p).map (fun entry => (⟨entry.1.toNat⟩, entry.2)) =
      registry.values ⟨p.toNat⟩ := by
  simp only [values, Registry.values, h.valueCount_eq, h.valueName?_eq]
  unfold Registry.valueCount Registry.valueName? at *
  cases hvalues : registry.valuesOf? ⟨p.toNat⟩ with
  | none => rfl
  | some values =>
    simp only [hvalues, Option.map_some, Option.getD_some] at hroom ⊢
    apply List.ext_getElem?
    intro i
    simp only [List.getElem?_map, List.getElem?_zipIdx, Array.getElem?_toList, Nat.zero_add]
    cases hentry : values.entries[i]? with
    | none =>
      have hlength : values.size ≤ i := Array.getElem?_eq_none_iff.mp hentry
      rw [List.getElem?_eq_none (by simpa using hlength)]
      rfl
    | some entry =>
      have hi : i < values.size := (Array.getElem?_eq_some_iff.mp hentry).1
      have hnumber := toNat_ofNat_of_lt (Nat.lt_of_lt_of_le hi hroom)
      rw [List.getElem?_range hi]
      simp only [Option.map_some, Option.bind_eq_bind, Option.bind_some, hnumber, NameTable.name?,
        hentry, Option.getD_some]

end accessors

/-- The answers about 16-bit numbers are those of the registry. -/
structure Answers (stored : ParallelRegistry) (registry : Registry) : Prop where
  kind : ∀ p, stored.kind? p = registry.kind? ⟨p.toNat⟩
  name : ∀ p, stored.names.propertyName? p = registry.propertyName? ⟨p.toNat⟩
  value_name : ∀ p v, stored.names.valueName? p v = registry.valueName? ⟨p.toNat⟩ ⟨v.toNat⟩
  count : stored.names.propertyCount = registry.propertyCount
  value_count : ∀ p, stored.names.valueCount p = registry.valueCount ⟨p.toNat⟩
  alias_count : stored.names.aliasCount = registry.aliasCount
  found : ∀ text,
    (stored.names.findProperty? text).map (fun p => ⟨p.toNat⟩) = registry.findProperty? text
  found_value : ∀ p text, (stored.names.findValue? p text).map (fun v => ⟨v.toNat⟩) =
    registry.findValue? ⟨p.toNat⟩ text
  binary : ∀ p, stored.binarySet p = registry.binarySet ⟨p.toNat⟩
  value : ∀ p v, stored.valueSet p v = registry.valueSet ⟨p.toNat⟩ ⟨v.toNat⟩
  category : stored.generalCategory.map (fun p => ⟨p.toNat⟩) = registry.generalCategory?
  shorthand : ∀ text, stored.shorthand? text = registry.shorthand? text
  token : ∀ token, stored.tokenSet token = registry.tokenSet token
  properties :
    stored.properties.map (fun entry => (⟨entry.1.toNat⟩, entry.2)) = registry.properties
  values : ∀ p, (stored.values p).map (fun entry => (⟨entry.1.toNat⟩, entry.2)) =
    registry.values ⟨p.toNat⟩

theorem Represents.answers (h : Represents stored registry.table)
    (hroom : registry.propertyCount ≤ maxEntries)
    (hvalues : ∀ p, registry.valueCount p ≤ maxEntries) : stored.Answers registry where
  kind := h.kind?_eq
  name := h.propertyName?_eq
  value_name := h.valueName?_eq
  count := h.propertyCount_eq
  value_count := h.valueCount_eq
  alias_count := h.aliasCount_eq
  found := h.findProperty?_eq
  found_value := h.findValue?_eq
  binary := h.binarySet_eq
  value := h.valueSet_eq
  category := h.generalCategory_eq
  shorthand := h.shorthand?_eq
  token := h.tokenSet_eq
  properties := h.properties_eq hroom
  values := fun p => h.values_eq p (hvalues _)

end ParallelRegistry

end UnicodeClasses

import UnicodeClasses.Proofs.NamedEntries
import UnicodeClasses.Resolution

/-!
# What a registry holds

A registry that has been built knows the names of its data, and no others. Behind each it keeps the
code points that the data lists: those in the table of a binary property, and those in the table of
a value or of one of its components.
-/
namespace UnicodeClasses

def BinaryEntry.names (entry : BinaryEntry) : List String := entry.name :: entry.aliases

def ValueEntry.names (value : ValueEntry) : List String := value.name :: value.aliases

def EnumeratedEntry.names (entry : EnumeratedEntry) : List String := entry.name :: entry.aliases

def PropertyEntry.names (entry : PropertyEntry) : List String := entry.name :: entry.aliases

/-- A pair of the table spans the code point. -/
def CodeTable.Covers (table : CodeTable) (c : Nat) : Prop :=
  ∃ pair ∈ table, pair.1 ≤ c ∧ c ≤ pair.2

instance (table : CodeTable) (c : Nat) : Decidable (table.Covers c) :=
  inferInstanceAs (Decidable (∃ pair ∈ table, pair.1 ≤ c ∧ c ≤ pair.2))

namespace EnumeratedEntry

/-- The code point lies in the value's own table or in that of a value it is composed of. -/
def Covers (entry : EnumeratedEntry) (value : ValueEntry) (c : Nat) : Prop :=
  value.table.Covers c ∨ ∃ component ∈ value.composedOf, ∃ member ∈ entry.values,
    component ∈ member.names ∧ member.table.Covers c

instance (entry : EnumeratedEntry) (value : ValueEntry) (c : Nat) :
    Decidable (entry.Covers value c) :=
  inferInstanceAs (Decidable (value.table.Covers c ∨ ∃ component ∈ value.composedOf,
    ∃ member ∈ entry.values, component ∈ member.names ∧ member.table.Covers c))

/-- The table holds the values of the property as they are listed. -/
abbrev ListsValues (entry : EnumeratedEntry) (values : NameTable ValueEntry) : Prop :=
  values.Lists ValueEntry.name ValueEntry.aliases (Except.ok : ValueEntry → Except BuildError _)
    entry.values

variable {entry : EnumeratedEntry} {values : NameTable ValueEntry} {value : ValueEntry}
  {component : String} {set start : RangeSet}

theorem listsValues (h : entry.valueTable = .ok values) : entry.ListsValues values :=
  NameTable.lists_of_fill h

theorem componentTable?_eq_some (h : entry.ListsValues values) {table : CodeTable} :
    componentTable? values component = some table ↔ ∃ member ∈ entry.values,
      component ∈ member.names ∧ member.isGrouped = false ∧ member.table = table := by
  have hlookup : componentTable? values component =
      ((values.find? component).bind values.get?).bind fun member =>
        if member.isGrouped then none else some member.table := (Option.bind_assoc ..).symm
  rw [hlookup, Option.bind_eq_some_iff]
  simp only [h.get?_find?_iff]
  constructor
  · rintro ⟨member, ⟨member', hmem, hname, ⟨⟩⟩, htable⟩
    split at htable
    · exact nomatch htable
    · rename_i hplain
      exact ⟨member, hmem, hname, Bool.eq_false_iff.mpr hplain, Option.some.inj htable⟩
  · rintro ⟨member, hmem, hname, hplain, rfl⟩
    exact ⟨member, ⟨member, hmem, hname, rfl⟩, by simp [hplain]⟩

/-- Texts name one value each. -/
theorem ListsValues.unique (h : entry.ListsValues values) {member member' : ValueEntry}
    (hmem : member ∈ entry.values) (hmem' : member' ∈ entry.values) {text : String}
    (hname : text ∈ member.names) (hname' : text ∈ member'.names) : member = member' := by
  have hget := h.get?_find?_iff.mpr ⟨member, hmem, hname, rfl⟩
  have hget' := h.get?_find?_iff.mpr ⟨member', hmem', hname', rfl⟩
  exact Option.some.inj (hget.symm.trans hget')

/-- Adds the table of a component to a set. -/
def addComponent (entry : EnumeratedEntry) (values : NameTable ValueEntry) (set : RangeSet)
    (component : String) : Except BuildError RangeSet :=
  match componentTable? values component with
  | some table => .ok (set ∪ .ofTable table)
  | none => .error (.unknownComponent entry.name component)

theorem valueSet_eq_foldlM (entry : EnumeratedEntry) (values : NameTable ValueEntry)
    (value : ValueEntry) : entry.valueSet values value =
      value.composedOf.foldlM (entry.addComponent values) (.ofTable value.table) := rfl

theorem addComponent_eq_ok_iff : entry.addComponent values start component = .ok set ↔
    ∃ table, componentTable? values component = some table ∧ start ∪ .ofTable table = set := by
  unfold addComponent
  cases componentTable? values component with
  | none => simp
  | some table => simp

/-- Components are added one after another, as long as there is a table for each. -/
theorem exists_foldlM_addComponent_iff {components : List String} :
    (∃ set, components.foldlM (entry.addComponent values) start = .ok set) ↔
      ∀ component ∈ components, ∃ table, componentTable? values component = some table := by
  induction components generalizing start with
  | nil => exact iff_of_true ⟨start, rfl⟩ (fun _ h => nomatch h)
  | cons component components ih =>
    constructor
    · rintro ⟨set, h⟩
      obtain ⟨next, hadd, hrest⟩ := bind_eq_ok_iff.mp h
      obtain ⟨table, htable, -⟩ := addComponent_eq_ok_iff.mp hadd
      exact List.forall_mem_cons.mpr ⟨⟨table, htable⟩, ih.mp ⟨set, hrest⟩⟩
    · intro h
      obtain ⟨⟨table, htable⟩, hrest⟩ := List.forall_mem_cons.mp h
      have hadd : entry.addComponent values start component = .ok (start ∪ .ofTable table) :=
        addComponent_eq_ok_iff.mpr ⟨table, htable, rfl⟩
      obtain ⟨set, hset⟩ := (@ih (start ∪ .ofTable table)).mpr hrest
      exact ⟨set, bind_eq_ok_iff.mpr ⟨_, hadd, hset⟩⟩

/-- The components add the members of their tables. -/
theorem mem_foldlM_addComponent {components : List String}
    (h : components.foldlM (entry.addComponent values) start = .ok set) {c : Nat} :
    c ∈ set ↔ c ∈ start ∨ ∃ component ∈ components, ∃ table,
      componentTable? values component = some table ∧ c ∈ RangeSet.ofTable table := by
  induction components generalizing start with
  | nil =>
    obtain rfl := Except.ok.inj h
    simp
  | cons component components ih =>
    rw [List.foldlM_cons] at h
    obtain ⟨next, hadd, hrest⟩ := bind_eq_ok_iff.mp h
    obtain ⟨table, htable, rfl⟩ := addComponent_eq_ok_iff.mp hadd
    simp [ih hrest, htable, or_assoc]

/-- The table of a component is that of the value which it names. -/
theorem covers_component (hvalues : entry.ListsValues values) {table : CodeTable}
    (htable : componentTable? values component = some table) {c : Nat} :
    table.Covers c ↔
      ∃ member ∈ entry.values, component ∈ member.names ∧ member.table.Covers c := by
  obtain ⟨member, hmem, hname, -, rfl⟩ := (componentTable?_eq_some hvalues).mp htable
  constructor
  · intro hcovers
    exact ⟨member, hmem, hname, hcovers⟩
  · rintro ⟨member', hmem', hname', hcovers⟩
    obtain rfl := hvalues.unique hmem hmem' hname hname'
    exact hcovers

/-- The set of a value holds what the data lists for it. -/
theorem mem_valueSet (hvalues : entry.ListsValues values)
    (h : entry.valueSet values value = .ok set) {c : Nat} :
    c ∈ set ↔ c ≤ maxCodePoint ∧ entry.Covers value c := by
  rw [valueSet_eq_foldlM] at h
  have htables := exists_foldlM_addComponent_iff.mp ⟨set, h⟩
  simp only [mem_foldlM_addComponent h, RangeSet.mem_ofTable]
  constructor
  · rintro (⟨hcovers, hc⟩ | ⟨component, hcomponent, table, htable, hcovers, hc⟩)
    · exact ⟨hc, .inl hcovers⟩
    · exact ⟨hc, .inr ⟨component, hcomponent, (covers_component hvalues htable).mp hcovers⟩⟩
  · rintro ⟨hc, hcovers | ⟨component, hcomponent, hmember⟩⟩
    · exact .inl ⟨hcovers, hc⟩
    · -- the build has found a table for the component, and only one value has the component's name
      obtain ⟨table, htable⟩ := htables component hcomponent
      have hcovers := (covers_component hvalues htable).mpr hmember
      exact .inr ⟨component, hcomponent, table, htable, hcovers, hc⟩

/-- The sets of the values are listed under the values' own names. -/
theorem lists_valueSets {sets : NameTable RangeSet} (h : entry.valueSets = .ok sets) :
    ∃ values, entry.ListsValues values ∧
      sets.Lists ValueEntry.name ValueEntry.aliases (entry.valueSet values) entry.values := by
  obtain ⟨values, hvalues, hsets⟩ := bind_eq_ok_iff.mp h
  exact ⟨values, listsValues hvalues, (listsValues hvalues).mapM hsets⟩

/-- The values of a property have sets exactly if there is room for them, no two share a name and
each component is an ungrouped value of the same property. -/
theorem exists_valueSets_iff : (∃ sets, entry.valueSets = .ok sets) ↔
    entry.values.length ≤ maxEntries ∧
    entry.values.Pairwise (fun x y => ∀ text ∈ x.names, text ∉ y.names) ∧
    ∀ value ∈ entry.values, ∀ component ∈ value.composedOf,
      ∃ member ∈ entry.values, component ∈ member.names ∧ member.isGrouped = false := by
  have hfill : (∃ values, entry.valueTable = .ok values) ↔
      entry.values.length ≤ maxEntries ∧
      entry.values.Pairwise fun x y => ∀ text ∈ x.names, text ∉ y.names := by
    refine NameTable.exists_fill_iff.trans ?_
    simp [ValueEntry.names]
  have hmap : ∀ values, entry.ListsValues values →
      ((∃ sets, values.mapM (entry.valueSet values) = .ok sets) ↔
        ∀ value ∈ entry.values, ∀ component ∈ value.composedOf,
          ∃ member ∈ entry.values, component ∈ member.names ∧ member.isGrouped = false) := by
    intro values hvalues
    refine hvalues.exists_mapM_iff.trans (forall₂_congr fun value _ => ?_)
    refine exists_foldlM_addComponent_iff.trans (forall₂_congr fun component _ => ?_)
    simp [componentTable?_eq_some hvalues]
  constructor
  · rintro ⟨sets, hsets⟩
    obtain ⟨values, hvalues, hmapped⟩ := bind_eq_ok_iff.mp hsets
    obtain ⟨hroom, hpairs⟩ := hfill.mp ⟨values, hvalues⟩
    exact ⟨hroom, hpairs, (hmap values (listsValues hvalues)).mp ⟨sets, hmapped⟩⟩
  · rintro ⟨hroom, hpairs, hcomponents⟩
    obtain ⟨values, hvalues⟩ := hfill.mpr ⟨hroom, hpairs⟩
    obtain ⟨sets, hsets⟩ := (hmap values (listsValues hvalues)).mpr hcomponents
    exact ⟨sets, bind_eq_ok_iff.mpr ⟨values, hvalues, hsets⟩⟩

theorem exists_valueSet {sets : NameTable RangeSet} (h : entry.valueSets = .ok sets)
    (hvalue : value ∈ entry.values) : ∃ id set, sets.get? id = some set ∧
      (∀ c, c ∈ set ↔ c ≤ maxCodePoint ∧ entry.Covers value c) ∧
      ∀ v ∈ value.names, sets.find? v = some id := by
  obtain ⟨values, hvalues, hsets⟩ := lists_valueSets h
  obtain ⟨id, set, hset, hget, -, hfind⟩ := hsets.exists_number hvalue
  exact ⟨id, set, hget, fun _ => mem_valueSet hvalues hset, hfind⟩

end EnumeratedEntry

namespace Registry

variable {data : PropertyData} {registry : Registry} {text : String} {set : RangeSet}
  {property : PropertyId}

/-- The properties by name, with their sets. -/
def propertyTable (data : PropertyData) : Except BuildError (NameTable PropertySets) :=
  NameTable.fill (fun entry => .ofPropertyClash entry.name) PropertyEntry.name
    PropertyEntry.aliases PropertyEntry.sets data.entries {}

theorem build_eq (data : PropertyData) :
    build data = (propertyTable data).map (⟨data.version, ·⟩) := rfl

theorem lists_of_build (h : build data = .ok registry) :
    registry.table.Lists PropertyEntry.name PropertyEntry.aliases PropertyEntry.sets
      data.entries := by
  rw [build_eq] at h
  obtain ⟨table, htable, rfl⟩ := map_eq_ok_iff.mp h
  exact NameTable.lists_of_fill htable

theorem binarySet_eq_ok_iff :
    registry.binarySet property = .ok set ↔
      registry.table.get? property.index = some (.binary set) := by
  unfold binarySet
  split
  · rename_i hget
    simp [hget]
  · rename_i hget
    exact iff_of_false (fun h => nomatch h) (hget set)

theorem valuesOf?_eq_some_iff {sets : NameTable RangeSet} :
    registry.valuesOf? property = some sets ↔
      registry.table.get? property.index = some (.enumerated sets) := by
  unfold valuesOf?
  split
  · rename_i hget
    simp [hget]
  · rename_i hget
    exact iff_of_false (fun h => nomatch h) (hget sets)

theorem mem_entries {entry : PropertyEntry} : entry ∈ data.entries ↔
    (∃ binary ∈ data.binary, .binary binary = entry) ∨
      ∃ enumerated ∈ data.enumerated, .enumerated enumerated = entry := by
  simp [PropertyData.entries]

/-- A registry can be built exactly if there is room for the properties, no two share a name and
the values of each have sets. -/
theorem exists_build_iff : (∃ registry, build data = .ok registry) ↔
    data.entries.length ≤ maxEntries ∧
    data.entries.Pairwise (fun x y => ∀ text ∈ x.names, text ∉ y.names) ∧
    ∀ entry ∈ data.enumerated, ∃ sets, entry.valueSets = .ok sets := by
  have hsets : (∀ entry ∈ data.entries, ∃ sets, entry.sets = .ok sets) ↔
      ∀ entry ∈ data.enumerated, ∃ sets, entry.valueSets = .ok sets := by
    constructor
    · intro h entry hentry
      have hload := h (.enumerated entry) (mem_entries.mpr (.inr ⟨entry, hentry, rfl⟩))
      exact exists_map_eq_ok_iff.mp hload
    · intro h entry hentry
      rcases mem_entries.mp hentry with ⟨binary, -, rfl⟩ | ⟨enumerated, hmem, rfl⟩
      · exact ⟨_, rfl⟩
      · exact exists_map_eq_ok_iff.mpr (h enumerated hmem)
  simp only [build_eq, exists_map_eq_ok_iff]
  rw [← hsets]
  exact NameTable.exists_fill_iff

/-- Conditions on the data itself that are enough for a build. -/
theorem exists_build (h : data.entries.length ≤ maxEntries ∧
    data.entries.Pairwise (fun x y => ∀ text ∈ x.names, text ∉ y.names) ∧
    ∀ entry ∈ data.enumerated, entry.values.length ≤ maxEntries ∧
      entry.values.Pairwise (fun x y => ∀ text ∈ x.names, text ∉ y.names) ∧
      ∀ value ∈ entry.values, ∀ component ∈ value.composedOf,
        ∃ member ∈ entry.values, component ∈ member.names ∧ member.isGrouped = false) :
    ∃ registry, build data = .ok registry :=
  exists_build_iff.mpr ⟨h.1, h.2.1, fun entry hentry =>
    EnumeratedEntry.exists_valueSets_iff.mpr (h.2.2 entry hentry)⟩

/-- A text names a set by itself if it names a binary property. -/
theorem binarySet_of_build (h : build data = .ok registry) :
    (registry.findProperty? text).bind (fun property => (registry.binarySet property).toOption) =
        some set ↔
      ∃ entry ∈ data.binary, text ∈ entry.names ∧ RangeSet.ofTable entry.table = set := by
  have hlookup : (registry.findProperty? text).bind
        (fun property => (registry.binarySet property).toOption) = some set ↔
      (registry.table.find? text).bind registry.table.get? = some (.binary set) := by
    simp only [findProperty?, Option.bind_map, Option.bind_eq_some_iff, Function.comp_apply,
      toOption_eq_some_iff, binarySet_eq_ok_iff]
  rw [hlookup, (lists_of_build h).get?_find?_iff]
  constructor
  · rintro ⟨entry, hentry, htext, hsets⟩
    rcases mem_entries.mp hentry with ⟨binary, hbinary, rfl⟩ | ⟨enumerated, -, rfl⟩
    · obtain ⟨⟩ := hsets
      exact ⟨binary, hbinary, htext, rfl⟩
    · obtain ⟨_, -, hsets⟩ := map_eq_ok_iff.mp hsets
      exact nomatch hsets
  · rintro ⟨binary, hbinary, htext, rfl⟩
    exact ⟨.binary binary, mem_entries.mpr (.inl ⟨binary, hbinary, rfl⟩), htext, rfl⟩

/-- An enumerated property is known under all its names, with the sets of its values. -/
theorem exists_enumerated {entry : EnumeratedEntry} (h : build data = .ok registry)
    (hentry : entry ∈ data.enumerated) : ∃ property sets,
      entry.valueSets = .ok sets ∧ registry.valuesOf? property = some sets ∧
      registry.propertyName? property = some entry.name ∧
      ∀ n ∈ entry.names, registry.findProperty? n = some property := by
  have hmem : .enumerated entry ∈ data.entries := mem_entries.mpr (.inr ⟨entry, hentry, rfl⟩)
  obtain ⟨i, _, hload, hget, hname, hfind⟩ := (lists_of_build h).exists_number hmem
  obtain ⟨sets, hsets, rfl⟩ := map_eq_ok_iff.mp hload
  refine ⟨⟨i⟩, sets, hsets, valuesOf?_eq_some_iff.mpr hget, hname, fun n hn => ?_⟩
  exact congrArg (Option.map _) (hfind n hn)

theorem generalCategory?_eq_some {sets : NameTable RangeSet}
    (hfind : registry.findProperty? generalCategoryName = some property)
    (hvalues : registry.valuesOf? property = some sets)
    (hname : registry.propertyName? property = some generalCategoryName) :
    registry.generalCategory? = some property := by
  have hkind : registry.kind? property = some .enumerated := by
    rw [kind?, valuesOf?_eq_some_iff.mp hvalues]
    rfl
  simp [generalCategory?, hfind, hkind, hname]

theorem tokenSet_binary {entry : BinaryEntry} (h : build data = .ok registry)
    (hentry : entry ∈ data.binary) (htext : text ∈ entry.names) :
    registry.tokenSet (.lone text) = .ok (.ofTable entry.table) := by
  have hshorthand : registry.shorthand? text = some (.ofTable entry.table) := by
    unfold shorthand?
    rw [(binarySet_of_build h).mpr ⟨entry, hentry, htext, rfl⟩]
  simp [tokenSet, hshorthand]

/-- A text that names no binary property is looked up among the general categories. -/
theorem shorthand?_of_not_binary (h : build data = .ok registry)
    (htext : ∀ entry ∈ data.binary, text ∉ entry.names) :
    registry.shorthand? text = registry.generalCategory?.bind fun category =>
      (registry.findValue? category text).bind fun value =>
        (registry.valueSet category value).toOption := by
  unfold shorthand?
  split
  · rename_i set hset
    obtain ⟨entry, hentry, hname, -⟩ := (binarySet_of_build h).mp hset
    exact absurd hname (htext entry hentry)
  · rfl

/-- A value is reached through all names of its property and its own, and a general category by its
own names alone. -/
theorem exists_tokenSet {entry : EnumeratedEntry} {value : ValueEntry}
    (h : build data = .ok registry) (hentry : entry ∈ data.enumerated)
    (hvalue : value ∈ entry.values) : ∃ set : RangeSet,
      (∀ c, c ∈ set ↔ c ≤ maxCodePoint ∧ entry.Covers value c) ∧
      ∀ v ∈ value.names, (∀ n ∈ entry.names, registry.tokenSet (.pair n v) = .ok set) ∧
        (entry.name = generalCategoryName → (∀ binary ∈ data.binary, v ∉ binary.names) →
          registry.tokenSet (.lone v) = .ok set) := by
  obtain ⟨property, sets, hsets, hvalues, hname, hfind⟩ := exists_enumerated h hentry
  obtain ⟨id, set, hget, hmem, hnames⟩ := EnumeratedEntry.exists_valueSet hsets hvalue
  have hid : ∀ v ∈ value.names, registry.findValue? property v = some ⟨id⟩ := by
    intro v hv
    simp [findValue?, hvalues, hnames v hv]
  have hset : registry.valueSet property ⟨id⟩ = .ok set := by
    simp [valueSet, hvalues, hget]
  refine ⟨set, hmem, fun v hv => ⟨fun n hn => ?_, fun hcategory hbinary => ?_⟩⟩
  · simp [tokenSet, hfind n hn, hid v hv, hset]
  · have hproperty : registry.generalCategory? = some property := by
      rw [hcategory] at hname
      refine generalCategory?_eq_some (hfind _ ?_) hvalues hname
      rw [← hcategory]
      exact List.mem_cons_self ..
    have hshorthand : registry.shorthand? v = some set := by
      rw [shorthand?_of_not_binary h hbinary]
      simp [hproperty, hid v hv, hset, Except.toOption]
    simp [tokenSet, hshorthand]

end Registry

end UnicodeClasses

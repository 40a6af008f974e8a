import UnicodeClasses.Proofs.ParallelNames

/-!
# Building over parallel arrays

The build over parallel arrays goes step by step with the build of a registry. It never reads
outside an array, it is refused with the same errors, and names and sets end up under the same
numbers.
-/
namespace UnicodeClasses

theorem setIfInBounds_push_size {α : Type} (xs : Array α) (x y : α) :
    (xs.push x).setIfInBounds xs.size y = xs.push y := by
  apply Array.ext'
  simp

namespace ParallelRegistry

section values

variable {entry : EnumeratedEntry} {index : WordIndex} {properties : Array PropertyNames}
  {property : UInt16}

/-- The last property has the values of the table, and each value the set of its own table. -/
structure HoldsPlain (entry : EnumeratedEntry) (index : WordIndex)
    (properties : Array PropertyNames) (state : NameStore × Array RangeSet)
    (values : NameTable ValueEntry) : Prop where
  store : ∃ names : PropertyNames, names.canonical = entry.name ∧
    values.Holds names.valueNames names.valueIndex ∧ state.1 = ⟨index, properties.push names⟩
  sets : state.2 = values.entries.map fun value => .ofTable value.2.table
  lists : ∃ listed : List ValueEntry, values.Lists ValueEntry.name ValueEntry.aliases
    (Except.ok : ValueEntry → Except BuildError _) listed

theorem follows_addPlainValue (hproperty : property.toNat = properties.size)
    {state : NameStore × Array RangeSet} {values : NameTable ValueEntry}
    (h : HoldsPlain entry index properties state values) (value : ValueEntry) :
    Follows (HoldsPlain entry index properties) (addPlainValue property state value)
      (values.addWith (.ofValueClash entry.name value.name) value.name value.aliases
        (.ok value)) := by
  obtain ⟨⟨names, hcanonical, hnames, hstore⟩, hsets, listed, hlisted⟩ := h
  obtain ⟨store, sets⟩ := state
  obtain rfl : store = _ := hstore
  obtain rfl : sets = _ := hsets
  have hregister := hnames.register hlisted.bounded (.ofValueClash entry.name value.name)
    (fun text existing => .duplicateAlias (entry.name ++ "=" ++ text) existing value.name) rfl
    (fun _ _ => rfl) value.name value.aliases
  have hget : (properties.push names)[property.toNat]? = some names := by
    rw [hproperty, Array.getElem?_push_size]
  rw [NameTable.addWith_eq_bind]
  simp only [addPlainValue, NameStore.addValue, hget, hcanonical, bind_assoc]
  refine hregister.bind fun number index' hindex hnumber => .ok ?_
  have hnames' := hnumber.2 value
  refine ⟨⟨⟨entry.name, names.valueNames.push value.name, number.2⟩, rfl, hnames', ?_⟩, ?_, ?_⟩
  · simp [hproperty, setIfInBounds_push_size]
  · simp
  · exact ⟨listed ++ [value], hlisted.push hindex rfl⟩

theorem follows_valueTable (hproperty : property.toNat = properties.size) (index : WordIndex) :
    Follows (HoldsPlain entry index properties)
      (entry.values.foldlM (addPlainValue property)
        (⟨index, properties.push { canonical := entry.name }⟩, #[])) entry.valueTable :=
  Follows.foldlM (fun _ _ value _ h => follows_addPlainValue hproperty h value)
    ⟨⟨_, rfl, NameTable.holds_empty, rfl⟩, by simp, [], NameTable.lists_nil⟩

end values

section groups

variable {entry : EnumeratedEntry} {values : NameTable ValueEntry} {names : NameStore}
  {property : UInt16} {base : Array RangeSet} {value : ValueEntry} {i : Nat}

/-- The values that are not grouped have the sets of their own tables. -/
def PlainSets (entry : EnumeratedEntry) (sets : Array RangeSet) : Prop :=
  ∀ (j : Nat) (member : ValueEntry), entry.values[j]? = some member → member.isGrouped = false →
    sets[j]? = some (.ofTable member.table)

/-- The table of a component, unless the component is unknown. -/
def componentTable (entry : EnumeratedEntry) (values : NameTable ValueEntry) (component : String) :
    Except BuildError CodeTable :=
  match EnumeratedEntry.componentTable? values component with
  | some table => .ok table
  | none => .error (.unknownComponent entry.name component)

theorem addComponent_eq_bind (set : RangeSet) (component : String) :
    entry.addComponent values set component =
      componentTable entry values component >>= fun table => .ok (set ∪ .ofTable table) := by
  unfold EnumeratedEntry.addComponent componentTable
  cases EnumeratedEntry.componentTable? values component <;> rfl

/-- The number of a component is that of an ungrouped value with its table. -/
theorem follows_componentNumber (hvalues : entry.ListsValues values)
    (hnames : ∀ text, values.find? text = (names.findValue? property text).map UInt16.toNat)
    (component : String) :
    Follows (fun number table => ∃ member, entry.values[number.toNat]? = some member ∧
        member.isGrouped = false ∧ member.table = table)
      (componentNumber names property entry component) (componentTable entry values component) := by
  have hname := hnames component
  unfold componentNumber componentTable EnumeratedEntry.componentTable?
  cases hnumber : names.findValue? property component with
  | none =>
    rw [hnumber] at hname
    simp only [hname, Option.map_none]
    exact .error _
  | some number =>
    rw [hnumber] at hname
    obtain ⟨member, hmember, -⟩ := (hvalues.find component number.toNat).mp hname
    obtain ⟨_, ⟨⟩, hentry⟩ := hvalues.entry number.toNat member hmember
    have hget : values.get? number.toNat = some member := by simp [NameTable.get?, hentry]
    have hread : readAt entry.values.toArray number.toNat = .ok member :=
      readAt_eq_ok (by simpa using hmember)
    simp only [hname, Option.map_some, hread, ok_bind, Option.bind_eq_bind, Option.bind_some, hget]
    cases hplain : member.isGrouped with
    | true => exact .error _
    | false => exact .ok ⟨member, hmember, hplain, rfl⟩

/-- The set of a component is read at its own number, which is not that of a grouped value. -/
theorem follows_uniteComponent (hvalues : entry.ListsValues values)
    (hnames : ∀ text, values.find? text = (names.findValue? property text).map UInt16.toNat)
    (hbase : PlainSets entry base) (hvalue : entry.values[i]? = some value)
    (hgrouped : value.isGrouped = true) (hi : i < base.size) (set : RangeSet) (component : String) :
    Follows (fun sets set => sets = base.setIfInBounds i set)
      (uniteComponent names property entry i (base.setIfInBounds i set) component)
      (entry.addComponent values set component) := by
  rw [addComponent_eq_bind]
  refine (follows_componentNumber hvalues hnames component).bind fun number table _ hnumber => ?_
  obtain ⟨member, hmember, hplain, rfl⟩ := hnumber
  have hne : i ≠ number.toNat := by
    rintro rfl
    obtain rfl := Option.some.inj (hvalue.symm.trans hmember)
    exact Bool.false_ne_true (hplain.symm.trans hgrouped)
  have hown : readAt (base.setIfInBounds i set) i = .ok set := readAt_eq_ok (by simp [hi])
  have hother : readAt (base.setIfInBounds i set) number.toNat = .ok (.ofTable member.table) := by
    refine readAt_eq_ok ?_
    rw [Array.getElem?_setIfInBounds_ne hne]
    exact hbase _ member hmember hplain
  rw [hown, hother]
  exact .ok (Array.setIfInBounds_setIfInBounds set)

/-- The set of a value grows in its own place to the union with its components. -/
theorem follows_uniteGroup (hvalues : entry.ListsValues values)
    (hnames : ∀ text, values.find? text = (names.findValue? property text).map UInt16.toNat)
    (hbase : PlainSets entry base) (hvalue : entry.values[i]? = some value)
    (hi : base[i]? = some (.ofTable value.table)) :
    Follows (fun sets set => sets = base.setIfInBounds i set)
      (uniteGroup names property entry base (value, i)) (entry.valueSet values value) := by
  have hlt : i < base.size := (Array.getElem?_eq_some_iff.mp hi).1
  have hstart : base = base.setIfInBounds i (.ofTable value.table) := by
    apply Array.ext_getElem?
    intro j
    rw [Array.getElem?_setIfInBounds]
    split
    · rename_i hj
      rw [← hj, hi]
    · rfl
  rw [EnumeratedEntry.valueSet_eq_foldlM]
  refine Follows.foldlM (fun sets set component hcomponent hsets => ?_) hstart
  obtain rfl : sets = _ := hsets
  refine follows_uniteComponent hvalues hnames hbase hvalue ?_ hlt set component
  simp [ValueEntry.isGrouped, List.ne_nil_of_mem hcomponent]

theorem valueSet_of_not_grouped (h : value.isGrouped = false) :
    entry.valueSet values value = .ok (.ofTable value.table) := by
  rw [EnumeratedEntry.valueSet_eq_foldlM, ValueEntry.isGrouped_eq_false_iff.mp h]
  rfl

/-- The values are resolved one after another; those before are done, those behind are plain. -/
theorem follows_uniteGroups (hvalues : entry.ListsValues values)
    (hnames : ∀ text, values.find? text = (names.findValue? property text).map UInt16.toNat)
    {before todo : List ValueEntry} (hsplit : entry.values = before ++ todo)
    {done : List RangeSet} (hdone : done.length = before.length) {sets : Array RangeSet}
    (hsets : sets.toList = done ++ todo.map fun value => .ofTable value.table)
    (hplain : PlainSets entry sets) :
    Follows (fun sets new => sets.toList = done ++ new.map Prod.snd)
      ((todo.zipIdx before.length).foldlM (uniteGroup names property entry) sets)
      (todo.mapM fun value => (entry.valueSet values value).map (value.name, ·)) := by
  induction todo generalizing before done sets with
  | nil => exact .ok hsets
  | cons value todo ih =>
    have hvalue : entry.values[before.length]? = some value := by simp [hsplit]
    have hi : sets[before.length]? = some (.ofTable value.table) := by
      rw [← Array.getElem?_toList, hsets, ← hdone]
      simp
    have hgroup := follows_uniteGroup hvalues hnames hplain hvalue hi
    rw [List.zipIdx_cons, List.foldlM_cons, List.mapM_cons, bind_mapped]
    refine hgroup.bind fun sets' set hset hsets' => ?_
    obtain rfl : sets' = _ := hsets'
    have hsplit' : entry.values = (before ++ [value]) ++ todo := by simp [hsplit]
    have hdone' : (done ++ [set]).length = (before ++ [value]).length := by simp [hdone]
    have hsets' : (sets.setIfInBounds before.length set).toList =
        (done ++ [set]) ++ todo.map fun value => .ofTable value.table := by
      simp [hsets, ← hdone]
    have hplain' : PlainSets entry (sets.setIfInBounds before.length set) := by
      intro j member hmember hungrouped
      rw [Array.getElem?_setIfInBounds]
      split
      · -- the union of an ungrouped value has no components, so its place keeps its own table
        rename_i hj
        obtain rfl := Option.some.inj (hvalue.symm.trans (hj ▸ hmember))
        rw [valueSet_of_not_grouped hungrouped] at hset
        rw [← Except.ok.inj hset, if_pos (Array.getElem?_eq_some_iff.mp hi).1]
      · exact hplain j member hmember hungrouped
    have hrest := ih hsplit' hdone' hsets' hplain'
    rw [List.length_append, List.length_singleton] at hrest
    rw [bind_pure_comp]
    exact hrest.map fun _ _ _ h => h.trans (by simp)

/-- The data of a table is replaced value by value. -/
theorem mapM_eq_map (hvalues : entry.ListsValues values) {α : Type}
    (f : ValueEntry → Except BuildError α) :
    values.mapM f = (entry.values.mapM fun value => (f value).map (value.name, ·)).map
      fun entries => ⟨entries.toArray, values.index⟩ := by
  have hentries : values.entries.toList = entry.values.map fun value => (value.name, value) := by
    rw [← List.map_id values.entries.toList]
    refine hvalues.map_entries fun value data hdata => ?_
    obtain rfl := Except.ok.inj hdata
    rfl
  rw [NameTable.mapM, Array.mapM_eq_mapM_toList, hentries, List.mapM_map]
  show Except.map _ (List.toArray <$> entry.values.mapM fun value =>
    (f value).map (value.name, ·)) = _
  cases entry.values.mapM fun value => (f value).map (value.name, ·) <;> rfl

/-- The sets of the values end up under the numbers of their names. -/
theorem follows_valueSets (hvalues : entry.ListsValues values)
    (hnames : ∀ text, values.find? text = (names.findValue? property text).map UInt16.toNat)
    {plain : Array RangeSet}
    (hplain : plain = values.entries.map fun value => .ofTable value.2.table) :
    Follows (fun sets table => sets = table.entries.map Prod.snd)
      (entry.values.zipIdx.foldlM (uniteGroup names property entry) plain)
      (values.mapM (entry.valueSet values)) := by
  rw [mapM_eq_map hvalues]
  have hlist : plain.toList = [] ++ entry.values.map fun value => .ofTable value.table := by
    rw [hplain, Array.toList_map]
    refine hvalues.map_entries fun value data hdata => ?_
    obtain rfl := Except.ok.inj hdata
    rfl
  have hstart : PlainSets entry plain := by
    intro j member hmember _
    rw [← Array.getElem?_toList, hlist]
    simp [hmember]
  refine (follows_uniteGroups hvalues hnames (List.nil_append _).symm rfl hlist hstart).map ?_
  intro sets new _ hsets
  apply Array.ext'
  simpa using hsets

end groups

section registries

/-- The entries have the general category in this place. -/
def IsCategory (entries : Array (String × PropertySets)) (i : Nat) : Prop :=
  ∃ values, entries[i]? = some (Registry.generalCategoryName, .enumerated values)

/-- The table holds the properties as they are listed. -/
abbrev ListsProperties (table : NameTable PropertySets) (listed : List PropertyEntry) : Prop :=
  table.Lists PropertyEntry.name PropertyEntry.aliases PropertyEntry.sets listed

/-- A property with these names and sets has this data. -/
def Stores (names : PropertyNames) (sets : StoredSets) : PropertySets → Prop
  | .binary set => names.valueNames = #[] ∧ names.valueIndex = ∅ ∧ sets = .binary set
  | .enumerated values =>
    values.Holds names.valueNames names.valueIndex ∧ sets = .enumerated (values.entries.map (·.2))

/-- The names and sets of the properties in a table, each under its number. -/
structure Represents (stored : ParallelRegistry) (table : NameTable PropertySets) : Prop where
  holds : table.Holds (stored.names.properties.map PropertyNames.canonical) stored.names.index
  size : stored.sets.size = table.size
  sets : ∀ (i : Nat) (name : String) (data : PropertySets), table.entries[i]? = some (name, data) →
    ∃ names sets, stored.names.properties[i]? = some names ∧ stored.sets[i]? = some sets ∧
      names.canonical = name ∧ Stores names sets data
  category : ∀ p, stored.generalCategory = some p ↔ IsCategory table.entries p.toNat
  lists : ∃ listed, ListsProperties table listed

theorem represents_empty : Represents {} {} where
  holds := ⟨by simp, reads_empty⟩
  size := rfl
  sets := fun _ _ _ h => by simp at h
  category := fun p => by simp [IsCategory]
  lists := ⟨[], NameTable.lists_nil⟩

variable {stored : ParallelRegistry} {table : NameTable PropertySets} {index : NameIndex}
  {number : UInt16} {name : String} {listed : List PropertyEntry}

theorem Represents.properties_size (h : Represents stored table) :
    stored.names.properties.size = table.size := by
  rw [← Array.size_map (f := PropertyNames.canonical), h.holds.listed_eq, Array.size_map]
  rfl

/-- One more property is represented by its names and its sets at the ends of the arrays. -/
theorem Represents.push (h : Represents stored table) {words : WordIndex} {names : PropertyNames}
    {sets : StoredSets} {data : PropertySets} {category : Option UInt16}
    (hname : names.canonical = name)
    (hholds : NameTable.Holds ((stored.names.properties.map (·.canonical)).push name) words
      ⟨table.entries.push (name, data), index⟩)
    (hstores : Stores names sets data)
    (hcategory : ∀ p : UInt16,
      category = some p ↔ IsCategory (table.entries.push (name, data)) p.toNat)
    (hlists : ∃ listed, ListsProperties ⟨table.entries.push (name, data), index⟩ listed) :
    Represents ⟨⟨words, stored.names.properties.push names⟩, stored.sets.push sets, category⟩
      ⟨table.entries.push (name, data), index⟩ := by
  have hproperties : stored.names.properties.size = table.entries.size := h.properties_size
  have hsets : stored.sets.size = table.entries.size := h.size
  subst hname
  refine ⟨by simpa using hholds, by simp [NameTable.size, hsets], ?_, hcategory, hlists⟩
  intro i name data' hentry
  rw [Array.getElem?_push] at hentry
  simp only [Array.getElem?_push, hproperties, hsets]
  split at hentry
  · rename_i hi
    obtain ⟨rfl, rfl⟩ := Prod.mk.inj (Option.some.inj hentry)
    simp only [hi, if_true]
    exact ⟨names, sets, rfl, rfl, rfl, hstores⟩
  · rename_i hi
    simp only [hi, if_false]
    exact h.sets i name data' hentry

theorem category_push_binary (h : Represents stored table) (set : RangeSet) (p : UInt16) :
    stored.generalCategory = some p ↔
      IsCategory (table.entries.push (name, .binary set)) p.toNat := by
  rw [h.category, IsCategory, IsCategory, Array.getElem?_push]
  split
  · rename_i hp
    simp [hp]
  · rfl

/-- The general category is the entry with its name, wherever that is. -/
theorem category_push_enumerated (h : Represents stored table) (hnumber : number.toNat = table.size)
    {sets : NameTable RangeSet}
    (hlists : ListsProperties ⟨table.entries.push (name, .enumerated sets), index⟩ listed)
    (p : UInt16) :
    (if name = Registry.generalCategoryName then some number else stored.generalCategory) = some p ↔
      IsCategory (table.entries.push (name, .enumerated sets)) p.toNat := by
  have hlast : (table.entries.push (name, .enumerated sets))[number.toNat]? =
      some (name, .enumerated sets) := by
    rw [hnumber]
    exact Array.getElem?_push_size
  split
  · rename_i hname
    subst hname
    constructor
    · rintro ⟨⟩
      exact ⟨sets, hlast⟩
    · rintro ⟨values, hvalues⟩
      exact congrArg some (UInt16.toNat_inj.mp (hlists.eq_of_entry hlast hvalues))
  · rename_i hname
    rw [h.category, IsCategory, IsCategory, Array.getElem?_push]
    split
    · rename_i hp
      simp [hp, hname]
    · rfl

theorem follows_addProperty (h : Represents stored table) (entry : PropertyEntry) :
    Follows (fun added index => added.1.toNat = table.size ∧
        (∀ data, NameTable.Holds ((stored.names.properties.map (·.canonical)).push entry.name)
          added.2.index ⟨table.entries.push (entry.name, data), index⟩) ∧
        added.2.properties = stored.names.properties.push { canonical := entry.name })
      (stored.names.addProperty entry.name entry.aliases)
      ((NameTable.assign table.entries table.index entry.name entry.aliases).mapError
        (.ofPropertyClash entry.name)) := by
  obtain ⟨listed, hlisted⟩ := h.lists
  have hregister := h.holds.register hlisted.bounded (.ofPropertyClash entry.name)
    (fun text existing => .duplicateAlias text existing entry.name) rfl (fun _ _ => rfl) entry.name
    entry.aliases
  exact hregister.result fun _ _ _ h => ⟨h.1, h.2, rfl⟩

theorem follows_addBinary (h : Represents stored table) (entry : BinaryEntry) :
    Follows Represents (stored.addBinary entry)
      (table.addWith (.ofPropertyClash entry.name) entry.name entry.aliases
        (PropertyEntry.binary entry).sets) := by
  rw [NameTable.addWith_eq_bind]
  refine (follows_addProperty h (.binary entry)).bind fun added index hindex hadded => .ok ?_
  obtain ⟨-, hholds, hproperties⟩ := hadded
  obtain ⟨listed, hlisted⟩ := h.lists
  obtain ⟨number, words, properties⟩ := added
  obtain rfl : properties = _ := hproperties
  have hlists := hlisted.push (x := .binary entry) hindex rfl
  exact h.push rfl (hholds _) ⟨rfl, rfl, rfl⟩ (category_push_binary h _) ⟨_, hlists⟩

theorem follows_addEnumerated (h : Represents stored table) (entry : EnumeratedEntry) :
    Follows Represents (stored.addEnumerated entry)
      (table.addWith (.ofPropertyClash entry.name) entry.name entry.aliases
        (PropertyEntry.enumerated entry).sets) := by
  rw [NameTable.addWith_eq_bind, PropertyEntry.sets]
  simp only [bind_mapped, EnumeratedEntry.valueSets, bind_assoc]
  refine (follows_addProperty h (.enumerated entry)).bind fun added index hindex hadded => ?_
  obtain ⟨number, words, properties⟩ := added
  obtain ⟨hnumber, hholds, hproperties⟩ := hadded
  obtain rfl : properties = _ := hproperties
  have hsize : number.toNat = stored.names.properties.size := hnumber.trans h.properties_size.symm
  refine (follows_valueTable hsize words).bind fun state values hvalues hstate => ?_
  obtain ⟨⟨names, hcanonical, hnames, hstore⟩, hplain, -⟩ := hstate
  obtain ⟨store, plain⟩ := state
  obtain rfl : store = _ := hstore
  have hfind : ∀ text, values.find? text = (NameStore.findValue?
      ⟨words, stored.names.properties.push names⟩ number text).map UInt16.toNat := by
    intro text
    rw [NameTable.find?, hnames.reads text, NameStore.findValue?, hsize]
    simp
  have hlisted := EnumeratedEntry.listsValues hvalues
  refine (follows_valueSets hlisted hfind hplain).bind fun sets new hnew hsets => .ok ?_
  obtain ⟨listed, hlisted'⟩ := h.lists
  have hload : (PropertyEntry.enumerated entry).sets = .ok (.enumerated new) := by
    rw [PropertyEntry.sets, EnumeratedEntry.valueSets, hvalues, ok_bind, hnew]
    rfl
  have hlists := hlisted'.push hindex hload
  exact h.push hcanonical (hholds _) ⟨hnames.mapM hlisted hnew, congrArg _ hsets⟩
    (category_push_enumerated h hnumber hlists) ⟨_, hlists⟩

/-- The two builds go step by step, from the empty registry on. -/
theorem follows_build (data : PropertyData) :
    Follows (fun stored registry => Represents stored registry.table) (build data)
      (Registry.build data) := by
  rw [Registry.build, PropertyData.entries, List.foldlM_append, List.foldlM_map]
  simp only [List.foldlM_map]
  refine Follows.map ?_ fun _ _ _ h => h
  refine Follows.bind (Follows.foldlM (fun _ _ entry _ h => ?_) represents_empty) fun _ _ _ h => ?_
  · exact follows_addBinary h entry
  · exact Follows.foldlM (fun _ _ entry _ h => follows_addEnumerated h entry) h

/-- The build never reads outside an array, whether it succeeds or not. -/
theorem build_ne_outOfBounds (data : PropertyData) : build data ≠ .error .outOfBounds := by
  have hbuild := follows_build data
  cases hregistry : Registry.build data with
  | error e =>
    rw [hregistry] at hbuild
    rw [show build data = .error (.refused e) from hbuild]
    simp
  | ok registry =>
    rw [hregistry] at hbuild
    obtain ⟨stored, hstored, -⟩ := hbuild
    rw [hstored]
    exact fun h => nomatch h

end registries

end ParallelRegistry

end UnicodeClasses

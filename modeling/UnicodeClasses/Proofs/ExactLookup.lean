import Mathlib.Data.Finset.Card
import UnicodeClasses.Proofs.RegistryConsistency

/-!
# Exact lookup

In a registry that has been built a text leads to the entry that lists it, and to nothing else. A
name that repeats inside its entry counts once, and the values of a property are named apart from
those of all others.
-/
namespace UnicodeClasses

/-- The values of a property; a binary property has none. -/
def PropertyEntry.values : PropertyEntry → List ValueEntry
  | binary _ => []
  | enumerated entry => entry.values

/-- A table knows each listed name once. -/
theorem NameTable.Lists.nameCount_eq {α X ε : Type} {name : X → String} {aliases : X → List String}
    {load : X → Except ε α} {table : NameTable α} {xs : List X}
    (h : Lists name aliases load table xs) :
    table.nameCount = (xs.flatMap fun x => name x :: aliases x).toFinset.card := by
  have hkeys : ∀ text, text ∈ table.index.keys ↔ text ∈ xs.flatMap fun x => name x :: aliases x := by
    intro text
    rw [Std.HashMap.mem_keys, Std.HashMap.mem_iff_isSome_getElem?, Option.isSome_iff_exists,
      List.mem_flatMap]
    constructor
    · rintro ⟨i, hi⟩
      obtain ⟨x, hx, htext⟩ := (h.find text i).mp hi
      exact ⟨x, List.mem_of_getElem? hx, htext⟩
    · rintro ⟨x, hx, htext⟩
      obtain ⟨i, hi⟩ := List.mem_iff_getElem?.mp hx
      exact ⟨i, (h.find text i).mpr ⟨x, hi, htext⟩⟩
  rw [nameCount, ← Std.HashMap.length_keys, ← List.toFinset_card_of_nodup Std.HashMap.nodup_keys]
  exact congrArg _ (Finset.ext fun text => by simp only [List.mem_toFinset, hkeys])

namespace Registry

theorem valueNameCount_eq {entry : PropertyEntry} {sets : PropertySets}
    (hload : entry.sets = .ok sets) :
    valueNameCount sets = (entry.values.flatMap ValueEntry.names).toFinset.card := by
  cases entry with
  | binary entry =>
    obtain ⟨⟩ := hload
    rfl
  | enumerated entry =>
    obtain ⟨values, hsets, rfl⟩ := map_eq_ok_iff.mp hload
    obtain ⟨_, -, hlists⟩ := EnumeratedEntry.lists_valueSets hsets
    exact hlists.nameCount_eq

/-- What a registry finds is what the data lists, under the numbers of the data. -/
structure Exact (data : PropertyData) (registry : Registry) : Prop where
  property : ∀ text p, registry.findProperty? text = some p ↔
    ∃ entry, data.entries[p.index]? = some entry ∧ text ∈ entry.names
  no_property : ∀ text, registry.findProperty? text = none ↔
    ∀ entry ∈ data.entries, text ∉ entry.names
  value : ∀ p text v, registry.findValue? p text = some v ↔
    ∃ entry value, data.entries[p.index]? = some (.enumerated entry) ∧
      entry.values[v.index]? = some value ∧ text ∈ value.names
  no_value : ∀ p text, registry.findValue? p text = none ↔
    ∀ entry, data.entries[p.index]? = some (.enumerated entry) →
      ∀ value ∈ entry.values, text ∉ value.names
  no_values : ∀ p, (∃ entry, data.entries[p.index]? = some (.binary entry)) ∨
    data.entries.length ≤ p.index → ∀ text, registry.findValue? p text = none
  independent : ∀ data' registry' p, build data' = .ok registry' →
    data'.entries[p.index]? = data.entries[p.index]? →
      registry'.findValue? p = registry.findValue? p
  property_name : ∀ p, p.index < data.entries.length →
    (registry.propertyName? p).bind registry.findProperty? = some p
  value_name : ∀ p entry v, data.entries[p.index]? = some (.enumerated entry) →
    v.index < entry.values.length →
      (registry.valueName? p v).bind (registry.findValue? p) = some v
  aliases : registry.aliasCount = (data.entries.flatMap PropertyEntry.names).toFinset.card +
    (data.entries.map fun entry => (entry.values.flatMap ValueEntry.names).toFinset.card).sum

section built

variable {data : PropertyData} {registry : Registry} {p : PropertyId} {v : ValueId} {text : String}
  (h : build data = .ok registry)
include h

theorem findProperty?_eq_some_iff : registry.findProperty? text = some p ↔
    ∃ entry, data.entries[p.index]? = some entry ∧ text ∈ entry.names := by
  refine Iff.trans ?_ ((lists_of_build h).find text p.index)
  rw [findProperty?, Option.map_eq_some_iff]
  constructor
  · rintro ⟨i, hi, rfl⟩
    exact hi
  · intro hi
    exact ⟨p.index, hi, rfl⟩

theorem findProperty?_eq_none_iff :
    registry.findProperty? text = none ↔ ∀ entry ∈ data.entries, text ∉ entry.names := by
  rw [Option.eq_none_iff_forall_ne_some]
  constructor
  · intro hnone entry hentry htext
    obtain ⟨i, hi⟩ := List.mem_iff_getElem?.mp hentry
    exact hnone ⟨i⟩ ((findProperty?_eq_some_iff h).mpr ⟨entry, hi, htext⟩)
  · intro hnone p hfind
    obtain ⟨entry, hentry, htext⟩ := (findProperty?_eq_some_iff h).mp hfind
    exact hnone entry (List.mem_of_getElem? hentry) htext

/-- A name leads back to the number that it was asked for. -/
theorem findProperty?_propertyName? (hp : p.index < data.entries.length) :
    (registry.propertyName? p).bind registry.findProperty? = some p := by
  have hentry := List.getElem?_eq_getElem hp
  rw [propertyName?_of_entry h hentry]
  exact (findProperty?_eq_some_iff h).mpr ⟨_, hentry, List.mem_cons_self ..⟩

theorem findValue?_eq_some_iff : registry.findValue? p text = some v ↔
    ∃ entry value, data.entries[p.index]? = some (.enumerated entry) ∧
      entry.values[v.index]? = some value ∧ text ∈ value.names := by
  have hfind : registry.findValue? p text = some v ↔
      ∃ values, registry.valuesOf? p = some values ∧ values.find? text = some v.index := by
    simp only [findValue?, Option.bind_eq_bind, Option.bind_eq_some_iff]
    constructor
    · rintro ⟨values, hvalues, i, hi, ⟨⟩⟩
      exact ⟨values, hvalues, hi⟩
    · rintro ⟨values, hvalues, hi⟩
      exact ⟨values, hvalues, v.index, hi, rfl⟩
  rw [hfind]
  constructor
  · rintro ⟨values, hvalues, hi⟩
    obtain ⟨entry, hentry, hsets⟩ := exists_entry_of_valuesOf? h hvalues
    obtain ⟨_, -, hlists⟩ := EnumeratedEntry.lists_valueSets hsets
    obtain ⟨value, hvalue, htext⟩ := (hlists.find text v.index).mp hi
    exact ⟨entry, value, hentry, hvalue, htext⟩
  · rintro ⟨entry, value, hentry, hvalue, htext⟩
    obtain ⟨values, hsets, hvalues⟩ := exists_valuesOf?_of_entry h hentry
    obtain ⟨_, -, hlists⟩ := EnumeratedEntry.lists_valueSets hsets
    exact ⟨values, hvalues, (hlists.find text v.index).mpr ⟨value, hvalue, htext⟩⟩

theorem findValue?_eq_none_iff : registry.findValue? p text = none ↔
    ∀ entry, data.entries[p.index]? = some (.enumerated entry) →
      ∀ value ∈ entry.values, text ∉ value.names := by
  rw [Option.eq_none_iff_forall_ne_some]
  constructor
  · intro hnone entry hentry value hvalue htext
    obtain ⟨i, hi⟩ := List.mem_iff_getElem?.mp hvalue
    exact hnone ⟨i⟩ ((findValue?_eq_some_iff h).mpr ⟨entry, value, hentry, hi, htext⟩)
  · intro hnone v hfind
    obtain ⟨entry, value, hentry, hvalue, htext⟩ := (findValue?_eq_some_iff h).mp hfind
    exact hnone entry hentry value (List.mem_of_getElem? hvalue) htext

theorem findValue?_eq_none (hp : (∃ entry, data.entries[p.index]? = some (.binary entry)) ∨
    data.entries.length ≤ p.index) : registry.findValue? p text = none := by
  refine (findValue?_eq_none_iff h).mpr fun entry hentry => ?_
  rcases hp with ⟨binary, hbinary⟩ | hunissued
  · exact nomatch hbinary.symm.trans hentry
  · rw [List.getElem?_eq_none hunissued] at hentry
    exact nomatch hentry

/-- The values of a property are found by its own entry, whatever else the data lists. -/
theorem findValue?_congr {data' : PropertyData} {registry' : Registry}
    (h' : build data' = .ok registry') (hentry : data'.entries[p.index]? = data.entries[p.index]?) :
    registry'.findValue? p = registry.findValue? p := by
  funext text
  apply Option.ext
  intro v
  rw [findValue?_eq_some_iff h', findValue?_eq_some_iff h, hentry]

theorem findValue?_valueName? {entry : EnumeratedEntry}
    (hentry : data.entries[p.index]? = some (.enumerated entry))
    (hv : v.index < entry.values.length) :
    (registry.valueName? p v).bind (registry.findValue? p) = some v := by
  have hvalue := List.getElem?_eq_getElem hv
  rw [(enumerated_numbers h hentry).2.2.2 v.index _ hvalue]
  exact (findValue?_eq_some_iff h).mpr ⟨entry, _, hentry, hvalue, List.mem_cons_self ..⟩

theorem aliasCount_of_build : registry.aliasCount =
    (data.entries.flatMap PropertyEntry.names).toFinset.card +
      (data.entries.map fun entry =>
        (entry.values.flatMap ValueEntry.names).toFinset.card).sum := by
  have hlists := lists_of_build h
  rw [aliasCount_eq_sum, hlists.nameCount_eq,
    hlists.map_entries (f := fun entry => valueNameCount entry.2)
      fun _ _ hload => valueNameCount_eq hload]
  rfl

end built

/-- Lookup in a registry that has been built is exact and inverts naming. -/
theorem exact_of_build {data : PropertyData} {registry : Registry}
    (h : build data = .ok registry) : Exact data registry where
  property := fun _ _ => findProperty?_eq_some_iff h
  no_property := fun _ => findProperty?_eq_none_iff h
  value := fun _ _ _ => findValue?_eq_some_iff h
  no_value := fun _ _ => findValue?_eq_none_iff h
  no_values := fun _ hp _ => findValue?_eq_none h hp
  independent := fun _ _ _ h' hentry => findValue?_congr h h' hentry
  property_name := fun _ hp => findProperty?_propertyName? h hp
  value_name := fun _ _ _ hentry hv => findValue?_valueName? h hentry hv
  aliases := aliasCount_of_build h

/-- An alias is listed twice, and two properties name a value alike. -/
def sharedNames : PropertyData where
  version := ⟨1, 0, 0⟩
  binary := [⟨"White_Space", ["space", "space"], [(0x20, 0x20)]⟩]
  enumerated := [
    ⟨"General_Category", ["gc"], [⟨"Letter", ["L"], [(0x61, 0x7A)], []⟩,
      ⟨"Number", ["N"], [(0x30, 0x39)], []⟩]⟩,
    ⟨"East_Asian_Width", ["ea"], [⟨"Neutral", ["N"], [(0x80, 0xA0)], []⟩]⟩]

theorem sharedNames_exact : ∃ registry, build sharedNames = .ok registry ∧
    registry.findProperty? "space" = some ⟨0⟩ ∧ registry.findProperty? "Space" = none ∧
    registry.findValue? ⟨1⟩ "N" = some ⟨1⟩ ∧ registry.findValue? ⟨2⟩ "N" = some ⟨0⟩ ∧
    registry.findValue? ⟨0⟩ "N" = none ∧ registry.findValue? ⟨3⟩ "N" = none ∧
    (registry.propertyName? ⟨2⟩).bind registry.findProperty? = some ⟨2⟩ ∧
    (registry.valueName? ⟨1⟩ ⟨1⟩).bind (registry.findValue? ⟨1⟩) = some ⟨1⟩ ∧
    registry.aliasCount = 12 := by
  have hsets : ∀ entry ∈ sharedNames.enumerated, ∃ sets, entry.valueSets = .ok sets := by
    intro entry hentry
    refine EnumeratedEntry.exists_valueSets_iff.mpr ?_
    revert entry
    decide
  obtain ⟨registry, h⟩ := exists_build_iff.mpr ⟨by decide, by decide, hsets⟩
  have hexact := exact_of_build h
  refine ⟨registry, h, ?_, ?_, ?_, ?_, ?_, ?_, ?_, ?_, ?_⟩
  · exact (hexact.property _ _).mpr ⟨_, rfl, by decide⟩
  · exact (hexact.no_property _).mpr (by decide)
  · exact (hexact.value _ _ _).mpr ⟨_, _, rfl, rfl, by decide⟩
  · exact (hexact.value _ _ _).mpr ⟨_, _, rfl, rfl, by decide⟩
  · exact hexact.no_values ⟨0⟩ (.inl ⟨_, rfl⟩) "N"
  · exact hexact.no_values ⟨3⟩ (.inr (by decide)) "N"
  · exact hexact.property_name ⟨2⟩ (by decide)
  · exact hexact.value_name ⟨1⟩ _ ⟨1⟩ rfl (by decide)
  · exact hexact.aliases.trans (by decide)

end Registry
end UnicodeClasses

import UnicodeClasses.BuildError
import UnicodeClasses.CompileError
import UnicodeClasses.PropertyData
import UnicodeClasses.RangeSet

/-!
# The property registry

A registry holds the sets of every property under exact names. It is built once from property
data, property by property: the names of the property, then those of its values, then the sets
of its values.
-/
namespace UnicodeClasses

inductive PropertyKind
  | binary
  | enumerated
  deriving DecidableEq, Repr

/-- The number of a property in its registry. -/
structure PropertyId where
  index : Nat
  deriving DecidableEq, Repr

/-- The number of a value in its property. -/
structure ValueId where
  index : Nat
  deriving DecidableEq, Repr

inductive PropertySets
  | binary (set : RangeSet)
  | enumerated (values : NameTable RangeSet)

def PropertySets.kind : PropertySets → PropertyKind
  | binary _ => .binary
  | enumerated _ => .enumerated

structure Registry where
  version : Version
  table : NameTable PropertySets

namespace EnumeratedEntry

/-- The values by name, before any group is resolved. -/
def valueTable (entry : EnumeratedEntry) : Except BuildError (NameTable ValueEntry) :=
  entry.values.foldlM (fun table value => table.addWith (.ofValueClash entry.name value.name)
    value.name value.aliases (.ok value)) {}

/-- The table of a component, which must be an ungrouped value of the same property. -/
def componentTable? (values : NameTable ValueEntry) (component : String) : Option CodeTable := do
  let value ← values.get? (← values.find? component)
  if value.isGrouped then none else some value.table

/-- The union of a value's own table and those of its components. -/
def valueSet (entry : EnumeratedEntry) (values : NameTable ValueEntry) (value : ValueEntry) :
    Except BuildError RangeSet :=
  value.composedOf.foldlM (fun set component =>
    match componentTable? values component with
    | some table => .ok (set ∪ .ofTable table)
    | none => .error (.unknownComponent entry.name component)) (.ofTable value.table)

def valueSets (entry : EnumeratedEntry) : Except BuildError (NameTable RangeSet) := do
  let values ← entry.valueTable
  values.mapM (entry.valueSet values)

end EnumeratedEntry

def PropertyEntry.sets : PropertyEntry → Except BuildError PropertySets
  | binary entry => .ok (.binary (.ofTable entry.table))
  | enumerated entry => entry.valueSets.map .enumerated

namespace Registry

def build (data : PropertyData) : Except BuildError Registry :=
  (data.entries.foldlM (fun (table : NameTable PropertySets) entry =>
    table.addWith (.ofPropertyClash entry.name) entry.name entry.aliases entry.sets) {}).map
      (⟨data.version, ·⟩)

def findProperty? (registry : Registry) (text : String) : Option PropertyId :=
  (registry.table.find? text).map (⟨·⟩)

/-- The values of an enumerated property. -/
def valuesOf? (registry : Registry) (property : PropertyId) : Option (NameTable RangeSet) :=
  match registry.table.get? property.index with
  | some (.enumerated values) => some values
  | _ => none

def findValue? (registry : Registry) (property : PropertyId) (text : String) : Option ValueId := do
  let values ← registry.valuesOf? property
  return ⟨← values.find? text⟩

/-- The kind of a property that the registry holds. -/
def kind? (registry : Registry) (property : PropertyId) : Option PropertyKind :=
  (registry.table.get? property.index).map PropertySets.kind

def propertyName? (registry : Registry) (property : PropertyId) : Option String :=
  registry.table.name? property.index

def valueName? (registry : Registry) (property : PropertyId) (value : ValueId) : Option String := do
  (← registry.valuesOf? property).name? value.index

def binarySet (registry : Registry) (property : PropertyId) : Except CompileError RangeSet :=
  match registry.table.get? property.index with
  | some (.binary set) => .ok set
  | _ => .error (.unknownName ((registry.propertyName? property).getD ""))

/-- The set of a value; a missing value of an enumerated property is named by its number. -/
def valueSet (registry : Registry) (property : PropertyId) (value : ValueId) :
    Except CompileError RangeSet :=
  let name := (registry.propertyName? property).getD ""
  match registry.valuesOf? property with
  | none => .error (.unknownValue name "")
  | some values =>
    match values.get? value.index with
    | none => .error (.unknownValue name ("#" ++ toString value.index))
    | some set => .ok set

def generalCategoryName : String := "General_Category"

/-- The enumerated property whose canonical name is that of the general category. -/
def generalCategory? (registry : Registry) : Option PropertyId := do
  let property ← registry.findProperty? generalCategoryName
  if registry.kind? property = some .enumerated ∧
      registry.propertyName? property = some generalCategoryName then some property
  else none

/-- A lone name is a binary property, or else a value of the general category. -/
def shorthand? (registry : Registry) (text : String) : Option RangeSet :=
  match (registry.findProperty? text).bind fun p => (registry.binarySet p).toOption with
  | some set => some set
  | none => do
    let category ← registry.generalCategory?
    let value ← registry.findValue? category text
    (registry.valueSet category value).toOption

def propertyCount (registry : Registry) : Nat := registry.table.size

def valueCount (registry : Registry) (property : PropertyId) : Nat :=
  ((registry.valuesOf? property).map NameTable.size).getD 0

/-- The number of distinct property names, and of distinct value names in each property. -/
def aliasCount (registry : Registry) : Nat :=
  registry.table.entries.foldl (fun count entry =>
    match entry.2 with
    | .binary _ => count
    | .enumerated values => count + values.nameCount) registry.table.nameCount

/-- Every property with its name and kind, in order. -/
def properties (registry : Registry) : List (PropertyId × String × PropertyKind) :=
  registry.table.entries.toList.zipIdx.map fun ((name, sets), i) => (⟨i⟩, name, sets.kind)

/-- Every value of a property with its name, in order. -/
def values (registry : Registry) (property : PropertyId) : List (ValueId × String) :=
  match registry.valuesOf? property with
  | none => []
  | some values => values.entries.toList.zipIdx.map fun ((name, _), i) => (⟨i⟩, name)

end Registry

end UnicodeClasses

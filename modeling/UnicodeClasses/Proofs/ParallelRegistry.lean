import Mathlib.Algebra.GroupWithZero.Nat
import UnicodeClasses.Resolution

/-!
# A registry over parallel arrays

The same registry with its names and its sets stored apart: one array holds the names of every
property and of its values, a second one the sets, and a name stands for a 16-bit number. Building
it reads the arrays by number, and a number outside an array is a fault of its own.
-/
namespace UnicodeClasses

/-- How the build over arrays can stop. -/
inductive BuildFault
  | outOfBounds
  | refused (e : BuildError)
  deriving DecidableEq, Repr

def readAt {α : Type} (xs : Array α) (i : Nat) : Except BuildFault α :=
  match xs[i]? with
  | some x => .ok x
  | none => .error .outOfBounds

/-- The number of the next entry, as long as there is one. -/
def numberFor (size : Nat) : Except BuildFault UInt16 :=
  if size < UInt16.size then .ok (.ofNat size) else .error (.refused .tooManyEntries)

abbrev WordIndex := Std.HashMap String UInt16

/-- The names of a property and of its values. -/
structure PropertyNames where
  canonical : String
  valueNames : Array String := #[]
  valueIndex : WordIndex := ∅

structure NameStore where
  index : WordIndex := ∅
  properties : Array PropertyNames := #[]

/-- Lets each name stand for `id`; a name that stands for another entry is refused with the
canonical name of its holder. -/
def assignWords (id : UInt16) (holders : Array String) (clash : String → String → BuildError)
    (index : WordIndex) : List String → Except BuildFault WordIndex
  | [] => .ok index
  | name :: names =>
    match index[name]? with
    | none => assignWords id holders clash (index.insert name id) names
    | some owner =>
      if owner = id then assignWords id holders clash index names
      else do
        let existing ← readAt holders owner.toNat
        .error (.refused (clash name existing))

/-- Numbers the next entry after those with the canonical names `listed`, and lets its own names
stand for that number. -/
def register (clash : String → String → BuildError) (index : WordIndex) (listed : Array String)
    (canonical : String) (aliases : List String) : Except BuildFault (UInt16 × WordIndex) := do
  let id ← numberFor listed.size
  let index ← assignWords id (listed.push canonical) clash index (canonical :: aliases)
  .ok (id, index)

namespace NameStore

def addProperty (store : NameStore) (canonical : String) (aliases : List String) :
    Except BuildFault (UInt16 × NameStore) := do
  let listed := store.properties.map PropertyNames.canonical
  let (id, index) ← register (.duplicateAlias · · canonical) store.index listed canonical aliases
  .ok (id, ⟨index, store.properties.push { canonical }⟩)

def addValue (store : NameStore) (property : UInt16) (canonical : String)
    (aliases : List String) : Except BuildFault NameStore :=
  match store.properties[property.toNat]? with
  | none => .error (.refused .tooManyEntries)
  | some names => do
    let clash := fun text existing =>
      .duplicateAlias (names.canonical ++ "=" ++ text) existing canonical
    let (_, index) ← register clash names.valueIndex names.valueNames canonical aliases
    let grown : PropertyNames := ⟨names.canonical, names.valueNames.push canonical, index⟩
    .ok { store with properties := store.properties.setIfInBounds property.toNat grown }

def findProperty? (store : NameStore) (text : String) : Option UInt16 := store.index[text]?

def findValue? (store : NameStore) (property : UInt16) (text : String) : Option UInt16 := do
  (← store.properties[property.toNat]?).valueIndex[text]?

def propertyName? (store : NameStore) (property : UInt16) : Option String :=
  store.properties[property.toNat]?.map PropertyNames.canonical

def valueName? (store : NameStore) (property value : UInt16) : Option String := do
  (← store.properties[property.toNat]?).valueNames[value.toNat]?

def propertyCount (store : NameStore) : Nat := store.properties.size

def valueCount (store : NameStore) (property : UInt16) : Nat :=
  (store.properties[property.toNat]?.map fun names => names.valueNames.size).getD 0

/-- The number of distinct property names, and of distinct value names in each property. -/
def aliasCount (store : NameStore) : Nat :=
  store.index.size + (store.properties.toList.map (·.valueIndex.size)).sum

end NameStore

inductive StoredSets
  | binary (set : RangeSet)
  | enumerated (values : Array RangeSet)

def StoredSets.kind : StoredSets → PropertyKind
  | binary _ => .binary
  | enumerated _ => .enumerated

structure ParallelRegistry where
  names : NameStore := {}
  sets : Array StoredSets := #[]
  generalCategory : Option UInt16 := none

namespace ParallelRegistry

def addBinary (registry : ParallelRegistry) (entry : BinaryEntry) :
    Except BuildFault ParallelRegistry := do
  let (_, names) ← registry.names.addProperty entry.name entry.aliases
  .ok { registry with names, sets := registry.sets.push (.binary (.ofTable entry.table)) }

/-- Adds the names of a value, and the set of its own table. -/
def addPlainValue (property : UInt16) (state : NameStore × Array RangeSet) (value : ValueEntry) :
    Except BuildFault (NameStore × Array RangeSet) := do
  let names ← state.1.addValue property value.name value.aliases
  .ok (names, state.2.push (.ofTable value.table))

/-- The number of a component, which must be an ungrouped value of the property. -/
def componentNumber (names : NameStore) (property : UInt16) (entry : EnumeratedEntry)
    (component : String) : Except BuildFault UInt16 :=
  match names.findValue? property component with
  | none => .error (.refused (.unknownComponent entry.name component))
  | some number => do
    let member ← readAt entry.values.toArray number.toNat
    if member.isGrouped then .error (.refused (.unknownComponent entry.name component))
    else .ok number

/-- Adds the set of a component to that of the value with number `i`. -/
def uniteComponent (names : NameStore) (property : UInt16) (entry : EnumeratedEntry) (i : Nat)
    (sets : Array RangeSet) (component : String) : Except BuildFault (Array RangeSet) := do
  let number ← componentNumber names property entry component
  let own ← readAt sets i
  let other ← readAt sets number.toNat
  .ok (sets.setIfInBounds i (own ∪ other))

/-- Adds the sets of all its components to that of a value. -/
def uniteGroup (names : NameStore) (property : UInt16) (entry : EnumeratedEntry)
    (sets : Array RangeSet) (value : ValueEntry × Nat) : Except BuildFault (Array RangeSet) :=
  value.1.composedOf.foldlM (uniteComponent names property entry value.2) sets

def addEnumerated (registry : ParallelRegistry) (entry : EnumeratedEntry) :
    Except BuildFault ParallelRegistry := do
  let (property, names) ← registry.names.addProperty entry.name entry.aliases
  let generalCategory :=
    if entry.name = Registry.generalCategoryName then some property else registry.generalCategory
  let (names, plain) ← entry.values.foldlM (addPlainValue property) (names, #[])
  let sets ← entry.values.zipIdx.foldlM (uniteGroup names property entry) plain
  .ok ⟨names, registry.sets.push (.enumerated sets), generalCategory⟩

def build (data : PropertyData) : Except BuildFault ParallelRegistry := do
  let registry ← data.binary.foldlM addBinary {}
  data.enumerated.foldlM addEnumerated registry

def kind? (registry : ParallelRegistry) (property : UInt16) : Option PropertyKind :=
  registry.sets[property.toNat]?.map StoredSets.kind

def binarySet (registry : ParallelRegistry) (property : UInt16) : Except CompileError RangeSet :=
  match registry.sets[property.toNat]? with
  | some (.binary set) => .ok set
  | _ => .error (.unknownName ((registry.names.propertyName? property).getD ""))

def valueSet (registry : ParallelRegistry) (property value : UInt16) :
    Except CompileError RangeSet :=
  let name := (registry.names.propertyName? property).getD ""
  match registry.sets[property.toNat]? with
  | some (.enumerated sets) =>
    match sets[value.toNat]? with
    | some set => .ok set
    | none => .error (.unknownValue name ("#" ++ toString value.toNat))
  | _ => .error (.unknownValue name ((registry.names.valueName? property value).getD ""))

def shorthand? (registry : ParallelRegistry) (text : String) : Option RangeSet :=
  match (registry.names.findProperty? text).bind fun p => (registry.binarySet p).toOption with
  | some set => some set
  | none => do
    let category ← registry.generalCategory
    let value ← registry.names.findValue? category text
    (registry.valueSet category value).toOption

/-- The set that a token names. -/
def tokenSet (registry : ParallelRegistry) : PropertyToken → Except CompileError RangeSet
  | .lone name =>
    match registry.shorthand? name with
    | some set => .ok set
    | none => .error (.unknownShorthand name)
  | .pair name value =>
    match registry.names.findProperty? name with
    | none => .error (.unknownName name)
    | some property =>
      match registry.kind? property with
      | some .enumerated =>
        match registry.names.findValue? property value with
        | none => .error (.unknownValue name value)
        | some id => registry.valueSet property id
      | some .binary | none => .error (.unknownValue name value)

/-- Every property with its name and kind, in order. -/
def properties (registry : ParallelRegistry) : List (UInt16 × String × PropertyKind) :=
  registry.sets.toList.zipIdx.map fun (sets, i) =>
    (.ofNat i, (registry.names.propertyName? (.ofNat i)).getD "", sets.kind)

/-- Every value of a property with its name, in order. -/
def values (registry : ParallelRegistry) (property : UInt16) : List (UInt16 × String) :=
  (List.range (registry.names.valueCount property)).map fun i =>
    (.ofNat i, (registry.names.valueName? property (.ofNat i)).getD "")

end ParallelRegistry

end UnicodeClasses

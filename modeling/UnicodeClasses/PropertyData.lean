import UnicodeClasses.CodeRange

/-!
# Property data

A data source lists binary properties, which a code point has or lacks, and enumerated
properties, which give each code point a named value. Tables are kept exactly as listed.
-/
namespace UnicodeClasses

structure Version where
  major : Nat
  minor : Nat
  update : Nat
  deriving DecidableEq, Repr

structure BinaryEntry where
  name : String
  aliases : List String := []
  table : CodeTable := []
  deriving DecidableEq, Repr

/-- One value of an enumerated property. A grouped value names the values it is composed of. -/
structure ValueEntry where
  name : String
  aliases : List String := []
  table : CodeTable := []
  composedOf : List String := []
  deriving DecidableEq, Repr

def ValueEntry.isGrouped (value : ValueEntry) : Bool := !value.composedOf.isEmpty

theorem ValueEntry.isGrouped_eq_false_iff {value : ValueEntry} :
    value.isGrouped = false ↔ value.composedOf = [] := by
  simp [isGrouped]

structure EnumeratedEntry where
  name : String
  aliases : List String := []
  values : List ValueEntry := []
  deriving DecidableEq, Repr

structure PropertyData where
  version : Version
  binary : List BinaryEntry
  enumerated : List EnumeratedEntry
  deriving DecidableEq, Repr

/-- The entry of a property. -/
inductive PropertyEntry
  | binary (entry : BinaryEntry)
  | enumerated (entry : EnumeratedEntry)
  deriving DecidableEq, Repr

namespace PropertyEntry

def name : PropertyEntry → String
  | binary entry => entry.name
  | enumerated entry => entry.name

def aliases : PropertyEntry → List String
  | binary entry => entry.aliases
  | enumerated entry => entry.aliases

end PropertyEntry

/-- All entries in their order, the binary ones first. -/
def PropertyData.entries (data : PropertyData) : List PropertyEntry :=
  data.binary.map .binary ++ data.enumerated.map .enumerated

/-- The first entry with this canonical name. -/
def PropertyData.find? (data : PropertyData) (name : String) : Option PropertyEntry :=
  data.entries.find? (·.name == name)

end UnicodeClasses

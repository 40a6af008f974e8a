import UnicodeClasses.Hexadecimal
import UnicodeClasses.PropertyData

/-!
# Tables as text

A table is written as the character database writes it: ranges such as `0041..005A` and single
code points, in hexadecimal and separated by blanks and line ends.
-/
namespace UnicodeClasses.Ucd

/-- A range or a single code point. -/
def field? (text : String) : Option (Nat × Nat) :=
  match text.splitOn ".." with
  | [single] => (hexNumber? single.toList).map fun code => (code, code)
  | [first, last] => do return (← hexNumber? first.toList, ← hexNumber? last.toList)
  | _ => none

def tableOfText (text : String) : CodeTable :=
  ((text.splitOn "
").flatMap (·.splitOn " ")).filterMap field?

def binaryEntry (name : String) (aliases : List String) (table : String) : BinaryEntry :=
  ⟨name, aliases, tableOfText table⟩

def plainValue (name : String) (aliases : List String) (table : String) : ValueEntry :=
  ⟨name, aliases, tableOfText table, []⟩

def groupedValue (name : String) (aliases composedOf : List String) : ValueEntry :=
  ⟨name, aliases, [], composedOf⟩

end UnicodeClasses.Ucd

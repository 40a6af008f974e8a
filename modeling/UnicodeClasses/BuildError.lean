import UnicodeClasses.NameTable

/-!
# Errors of a registry build
-/
namespace UnicodeClasses

inductive BuildError
  | duplicateAlias (name existing conflicting : String)
  | unknownComponent (property value : String)
  | tooManyEntries
  deriving DecidableEq, Repr

namespace BuildError

def message : BuildError → String
  | duplicateAlias name existing conflicting =>
    "alias `" ++ name ++ "` maps to both `" ++ existing ++ "` and `" ++ conflicting ++ "`"
  | unknownComponent property value =>
    "grouped value of `" ++ property ++ "` names unknown component `" ++ value ++ "`"
  | tooManyEntries => "too many properties or values"

/-- A clash between the names of two properties. -/
def ofPropertyClash (conflicting : String) : Clash → BuildError
  | .full => tooManyEntries
  | .taken name existing => duplicateAlias name existing conflicting

/-- A clash between the names of two values; the alias is shown with its property. -/
def ofValueClash (property conflicting : String) : Clash → BuildError
  | .full => tooManyEntries
  | .taken name existing => duplicateAlias (property ++ "=" ++ name) existing conflicting

end BuildError

end UnicodeClasses

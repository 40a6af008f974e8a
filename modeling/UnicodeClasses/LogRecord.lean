import UnicodeClasses.PropertyEscape
import UnicodeClasses.Registry

/-!
# Log records

What a build and a resolved escape leave in the log.
-/
namespace UnicodeClasses

inductive LogLevel
  | debug
  | trace
  deriving DecidableEq, Repr

structure LogRecord where
  level : LogLevel
  text : String
  deriving DecidableEq, Repr

def Version.text (version : Version) : String :=
  "(" ++ toString version.major ++ ", " ++ toString version.minor ++ ", " ++
    toString version.update ++ ")"

def Registry.builtRecord (registry : Registry) : LogRecord :=
  ⟨.debug, "property registry built: unicode " ++ registry.version.text ++ ", " ++
    toString registry.propertyCount ++ " properties, " ++
    toString registry.aliasCount ++ " aliases"⟩

/-- A build is recorded only when it succeeds. -/
def Registry.buildLog (data : PropertyData) : List LogRecord :=
  match Registry.build data with
  | .ok registry => [registry.builtRecord]
  | .error _ => []

def PropertyEscape.resolvedRecord (escape : PropertyEscape) (set : RangeSet) : LogRecord :=
  ⟨.trace, "resolved " ++ escape.text ++ " to " ++ toString set.rangeCount ++ " ranges"⟩

end UnicodeClasses

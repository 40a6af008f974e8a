/-!
# Compile options

Unicode mode decides which escapes exist. The name limit bounds the body of a property escape.
-/
namespace UnicodeClasses

def defaultNameLimit : Nat := 128

/-- The limit that a request puts in force; zero asks for the default. -/
def nameLimitFor (requested : Nat) : Nat := if requested = 0 then defaultNameLimit else requested

structure Options where
  unicode : Bool := true
  /-- The most bytes between the braces of a property escape. -/
  nameLimit : Nat := defaultNameLimit
  deriving DecidableEq, Repr

/-- Bit 0 of an option word is Unicode mode; no other bit has a meaning. -/
def Options.withBits (options : Options) (bits : UInt32) : Options :=
  { options with unicode := bits &&& 1 != 0 }

end UnicodeClasses

import UnicodeClasses.Ucd.BidiClass
import UnicodeClasses.Ucd.Binary
import UnicodeClasses.Ucd.Block
import UnicodeClasses.Ucd.EastAsianWidth
import UnicodeClasses.Ucd.GeneralCategory
import UnicodeClasses.Ucd.HangulSyllableType
import UnicodeClasses.Ucd.LineBreak
import UnicodeClasses.Ucd.Script
import UnicodeClasses.Ucd.ScriptExtensions
import UnicodeClasses.Registry

/-!
# The bundled character database

Version 14.0.0 of the character database, and the registry built from it.
-/
namespace UnicodeClasses.Ucd

def data : PropertyData where
  version := ⟨14, 0, 0⟩
  binary := binaryProperties
  enumerated :=
    [generalCategory, script, scriptExtensions, block, lineBreak, eastAsianWidth, bidiClass,
      hangulSyllableType]

def registry : Except BuildError Registry := Registry.build data

end UnicodeClasses.Ucd

import UnicodeClasses.CharClass
import UnicodeClasses.Ucd
import UnicodeClasses.Proofs.MemberGrammar
import UnicodeClasses.Proofs.BracketGrammar
import UnicodeClasses.Proofs.SetMembership
import UnicodeClasses.Proofs.SelfDelimiting
import UnicodeClasses.Proofs.SetAlgebra
import UnicodeClasses.Proofs.WrittenMembers
import UnicodeClasses.Proofs.EscapeMeaning
import UnicodeClasses.Proofs.BracketedEscape
import UnicodeClasses.Proofs.BodyComposition
import UnicodeClasses.Proofs.ModeAgreement
import UnicodeClasses.Proofs.InsertedRanges
import UnicodeClasses.Proofs.EscapeGrammar
import UnicodeClasses.Proofs.BuildFaults
import UnicodeClasses.Proofs.RegistryConsistency
import UnicodeClasses.Proofs.RefusedPushes
import UnicodeClasses.Proofs.LiteralBodies
import UnicodeClasses.Proofs.UnitEscapes
import UnicodeClasses.Proofs.ExactLookup
import UnicodeClasses.Proofs.ReorderedData
import UnicodeClasses.Proofs.TextSearch
import UnicodeClasses.Proofs.ScannerSafety
import UnicodeClasses.Proofs.NameLimits
import UnicodeClasses.Proofs.OutsideUnicode
import UnicodeClasses.Proofs.SetCounts
import UnicodeClasses.Proofs.ErrorForms
import UnicodeClasses.Proofs.FilledMessages
import UnicodeClasses.Proofs.BracedNumbers

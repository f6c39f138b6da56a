import UnicodeIdentifier.IntervalTable.Cursor
import UnicodeIdentifier.Main
import UnicodeIdentifier.Picture
import UnicodeIdentifier.Proofs.AsciiMask.Characteristic
import UnicodeIdentifier.Proofs.Classifier.Lines
import UnicodeIdentifier.Proofs.Classifier.Source
import UnicodeIdentifier.Proofs.CodeSet.NormalForm
import UnicodeIdentifier.Proofs.CodeValue.Denotation
import UnicodeIdentifier.Proofs.Database.Arithmetic
import UnicodeIdentifier.Proofs.Generator.Bound
import UnicodeIdentifier.Proofs.Generator.Check
import UnicodeIdentifier.Proofs.Generator.Frame
import UnicodeIdentifier.Proofs.Generator.Growth
import UnicodeIdentifier.Proofs.Generator.LineEnd
import UnicodeIdentifier.Proofs.Generator.Refusal
import UnicodeIdentifier.Proofs.Generator.Regeneration
import UnicodeIdentifier.Proofs.IntervalTable.Find
import UnicodeIdentifier.Proofs.IntervalTable.LongestRun
import UnicodeIdentifier.Proofs.Picture
import UnicodeIdentifier.Proofs.Standard
import UnicodeIdentifier.Proofs.Token.Join
import UnicodeIdentifier.Token

import LogicFree.Compiler
import LogicFree.Proofs.PassReplay
import LogicFree.Proofs.TemplateWalk
import LogicFree.Proofs.ErrorModes
import LogicFree.Proofs.AdmissibleTemplates
import LogicFree.Proofs.SourceOrder
import LogicFree.Proofs.PassOperations
import LogicFree.Proofs.Translation
import LogicFree.Proofs.OutputForms
import LogicFree.Proofs.PrintedWords
import LogicFree.Proofs.QuotedReading
import LogicFree.Proofs.PrintedCode
import LogicFree.Proofs.PrintedProgram
import LogicFree.Proofs.SignificantSyntax
import LogicFree.Proofs.PlainScripts
import LogicFree.Proofs.MemberChains
import LogicFree.Proofs.ViolationLog
import LogicFree.Proofs.DeclaredNames
import LogicFree.Proofs.NumberReading
import LogicFree.Proofs.ParseSteps
import LogicFree.Proofs.SourceSpelling
import LogicFree.Proofs.PlacedScripts
import LogicFree.Proofs.PlacedMarkup
import LogicFree.Proofs.PlacedExpressions
import LogicFree.Proofs.PlacedReading
import LogicFree.Proofs.SpelledTemplates
import LogicFree.Proofs.StringLiterals
import LogicFree.Proofs.ElementCalls
import LogicFree.Proofs.ElementLog
import LogicFree.Proofs.Recovery
import LogicFree.Proofs.ReportLayout
import LogicFree.Proofs.SourceLocations
import LogicFree.Proofs.CaretPlacement
import LogicFree.Proofs.InnerOffsets
import LogicFree.Proofs.ValuedReading
import LogicFree.Proofs.ConstantValues
import LogicFree.Proofs.TrailingSpaces
import LogicFree.Proofs.BareKeys

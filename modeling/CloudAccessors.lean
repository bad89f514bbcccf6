import CloudAccessors.Unicode.Letter
import CloudAccessors.Unicode.Printable
import CloudAccessors.Noun.Singular
import CloudAccessors.Noun.Bytewise
import CloudAccessors.Go.Identifier
import CloudAccessors.Go.Comment
import CloudAccessors.Binary64.Shortest
import CloudAccessors.Json.Printer
import CloudAccessors.Json.Numeral
import CloudAccessors.Json.Skip
import CloudAccessors.Shape
import CloudAccessors.Descriptor.Edit
import CloudAccessors.Descriptor.Reader
import CloudAccessors.Lint.Basic
import CloudAccessors.Source.File
import CloudAccessors.CommandLine.Run
import CloudAccessors.Main
import CloudAccessors.Proofs.CharacterClasses
import CloudAccessors.Proofs.Checks
import CloudAccessors.Proofs.Outcome
import CloudAccessors.Proofs.ShadowedFields
import CloudAccessors.Proofs.GoIdentifiers
import CloudAccessors.Proofs.Concatenation
import CloudAccessors.Proofs.Lines
import CloudAccessors.Proofs.Comments
import CloudAccessors.Proofs.Reindentation
import CloudAccessors.Proofs.Openings
import CloudAccessors.Proofs.MethodNames
import CloudAccessors.Proofs.JsonStrings
import CloudAccessors.Proofs.RoundTrip
import CloudAccessors.Proofs.JsonGrammar
import CloudAccessors.Proofs.PassedOver
import CloudAccessors.Proofs.ObjectTexts
import CloudAccessors.Proofs.AdmittedMembers
import CloudAccessors.Proofs.Inspection
import CloudAccessors.Proofs.Declarations
import CloudAccessors.Proofs.MethodLines
import CloudAccessors.Proofs.Accumulators
import CloudAccessors.Proofs.LastWords
import CloudAccessors.Proofs.WordBlocks
import CloudAccessors.Proofs.CarriedCase
import CloudAccessors.Proofs.Rewrites
import CloudAccessors.Proofs.WordCasing
import CloudAccessors.Proofs.SingularTwice
import CloudAccessors.Proofs.BarePlurals
import CloudAccessors.Proofs.DerivedNames
import CloudAccessors.Proofs.CatalogRuns
import CloudAccessors.Proofs.AttachedValues
import CloudAccessors.Proofs.RunLogs
import CloudAccessors.Proofs.RegularPlurals
import CloudAccessors.Proofs.ListIssues
import CloudAccessors.Proofs.AttributePaths
import CloudAccessors.Proofs.MethodBodies
import CloudAccessors.Proofs.LastEdits
import CloudAccessors.Proofs.DottedNames
import CloudAccessors.Proofs.SoundCuts

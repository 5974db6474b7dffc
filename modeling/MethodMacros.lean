import MethodMacros.Host.Arrangement
import MethodMacros.Main
import MethodMacros.Pattern.Matching
import MethodMacros.Proofs.CommandLine.ExitCodes
import MethodMacros.Proofs.Report.Pairing
import MethodMacros.Proofs.Report.RoundTrip
import MethodMacros.Proofs.HeaderFile.Generating
import MethodMacros.Proofs.Naming
import MethodMacros.Proofs.Report.StandardRecords
import MethodMacros.Proofs.Header.Lines
import MethodMacros.Proofs.Header.Definitions
import MethodMacros.Proofs.Header.Decoding
import MethodMacros.Proofs.Report.ClassMembers
import MethodMacros.Proofs.Report.Concatenation
import MethodMacros.Proofs.FileSystem.Timeless
import MethodMacros.Proofs.Host.Timeless
import MethodMacros.Proofs.Text.Utf8
import MethodMacros.Proofs.HeaderFile.Timeless
import MethodMacros.Proofs.CommandLine.Requests
import MethodMacros.Proofs.CommandLine.Agreement
import MethodMacros.Proofs.Host.Runs
import MethodMacros.Proofs.CommandLine.Outcomes
import MethodMacros.Proofs.Path
import MethodMacros.Proofs.FileSystem.Descending
import MethodMacros.Proofs.Host.Faults
import MethodMacros.Proofs.HeaderFile.Readers
import MethodMacros.Proofs.Report.StandardLanguage
import MethodMacros.Proofs.Pattern.Ways
import MethodMacros.Proofs.Report.Sufficiency
import MethodMacros.Proofs.Time
import MethodMacros.Proofs.FileSystem.Moving
import MethodMacros.Proofs.HeaderFile.Ages
import MethodMacros.Proofs.Host.Endings
import MethodMacros.Proofs.CommandLine.Settling
import MethodMacros.Proofs.FileSystem.Resolving
import MethodMacros.Proofs.FileSystem.Absolute
import MethodMacros.Proofs.Host.Executing
import MethodMacros.Proofs.Host.Arguments
import MethodMacros.Proofs.CommandLine.WorkingFolder
import MethodMacros.Proofs.Naming.Words
import MethodMacros.Proofs.Naming.CamelCase
import MethodMacros.Proofs.Report.Induction
import MethodMacros.Proofs.Report.NormalForm
import MethodMacros.Proofs.Report.Accounting
import MethodMacros.Proofs.Report.Causality
import MethodMacros.Proofs.Naming.PlainNames
import MethodMacros.Proofs.Header.Preprocessing
import MethodMacros.Proofs.Header.Directives
import MethodMacros.Proofs.Jdk.Order
import MethodMacros.Proofs.Jdk.Environments
import MethodMacros.Proofs.Header.Guards
import MethodMacros.Proofs.Path.SourceFiles

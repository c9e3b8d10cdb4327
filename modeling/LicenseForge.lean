import LicenseForge.Main
import LicenseForge.Proofs.Steps
import LicenseForge.Proofs.Year
import LicenseForge.Proofs.License.Filling
import LicenseForge.Proofs.Text.Line
import LicenseForge.Proofs.Template.Reading
import LicenseForge.Proofs.Template.Canonical
import LicenseForge.Proofs.FileTree.Route
import LicenseForge.Proofs.FileTree.Save
import LicenseForge.Proofs.Program.Files
import LicenseForge.Proofs.Catalog.Builtin
import LicenseForge.Proofs.Catalog.Lookup
import LicenseForge.Proofs.Catalog.History
import LicenseForge.Proofs.Catalog.Folder
import LicenseForge.Proofs.FileTree.Folder
import LicenseForge.Proofs.Stream.Line
import LicenseForge.Proofs.Dialog.Question
import LicenseForge.Proofs.Dialog.Year
import LicenseForge.Proofs.Dialog.Filling
import LicenseForge.Proofs.Dialog.Session
import LicenseForge.Proofs.Dialog.Agreement
import LicenseForge.Proofs.CommandLine.Reading
import LicenseForge.Proofs.CommandLine.Shell
import LicenseForge.Proofs.CommandLine.Invocation
import LicenseForge.Proofs.Palette.Erase
import LicenseForge.Proofs.Dialog.Palette
import LicenseForge.Proofs.Program.Palette
import LicenseForge.Proofs.Template.LineEnd
import LicenseForge.Proofs.CommandLine.Order
import LicenseForge.Proofs.CommandLine.Verbosity
import LicenseForge.Proofs.Program.Streams
import LicenseForge.Proofs.Program.Logging
import LicenseForge.Proofs.EditDistance.Script
import LicenseForge.Proofs.EditDistance.Table
import LicenseForge.Proofs.EditDistance.Buffers
import LicenseForge.Proofs.Catalog.Suggestion
import LicenseForge.Proofs.Year.Grammar
import LicenseForge.Proofs.FileTree.Calls
import LicenseForge.Proofs.FileTree.History
import LicenseForge.Proofs.Year.Number
import LicenseForge.Proofs.Stream.Writing
import LicenseForge.Proofs.Program.Truncation
import LicenseForge.Proofs.Catalog.Listing
import LicenseForge.Proofs.License.Details

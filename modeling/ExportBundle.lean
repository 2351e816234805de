import ExportBundle.Datum.Keys
import ExportBundle.Identifier.Counter
import ExportBundle.Main
import ExportBundle.Tool.Rehearsal
import ExportBundle.Proofs.Export.Reading
import ExportBundle.Proofs.Export.Validation
import ExportBundle.Proofs.Export.Statements
import ExportBundle.Proofs.OrderedMap
import ExportBundle.Proofs.Export.References
import ExportBundle.Proofs.Export.Scope
import ExportBundle.Proofs.Export.Assembly
import ExportBundle.Proofs.Export.Readback
import ExportBundle.Proofs.Disk
import ExportBundle.Proofs.Act
import ExportBundle.Proofs.Build.Frame
import ExportBundle.Proofs.Build.Lockstep
import ExportBundle.Proofs.Json.Strings
import ExportBundle.Proofs.Json.Spelling
import ExportBundle.Proofs.Text.Utf8
import ExportBundle.Proofs.Build.Record
import ExportBundle.Proofs.Canonical
import ExportBundle.Proofs.Build.Inputs
import ExportBundle.Proofs.Build.Repetition
import ExportBundle.Proofs.Build.Rebuild
import ExportBundle.Proofs.Dependency.Replacement
import ExportBundle.Proofs.Export.OneByOne
import ExportBundle.Proofs.Build.NoTrace
import ExportBundle.Proofs.Build.Commands
import ExportBundle.Proofs.Build.Growth
import ExportBundle.Proofs.Json.Depth
import ExportBundle.Proofs.Export.Renaming
import ExportBundle.Proofs.Build.Again
import ExportBundle.Proofs.Build.History
import ExportBundle.Proofs.Identifier.Counter
import ExportBundle.Proofs.Dependency.Lockfile
import ExportBundle.Proofs.Export.Construction
import ExportBundle.Proofs.Json.Arrangement
import ExportBundle.Proofs.Canonical.Faithful
import ExportBundle.Proofs.Dependency.Decisions
import ExportBundle.Proofs.Export.Leads
import ExportBundle.Proofs.Export.Collisions
import ExportBundle.Proofs.Version.RoundTrip
import ExportBundle.Proofs.Version.Distance
import ExportBundle.Proofs.Build.Unreadable
import ExportBundle.Proofs.Config.Merge
import ExportBundle.Proofs.Identifier.Random
import ExportBundle.Proofs.Build.Leftovers
import ExportBundle.Proofs.Config.Layers
import ExportBundle.Proofs.Canonical.Entries
import ExportBundle.Proofs.CommandLine.Externals
import ExportBundle.Proofs.Export.Concatenation
import ExportBundle.Proofs.Build.Polyfills
import ExportBundle.Proofs.Console

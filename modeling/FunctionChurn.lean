import FunctionChurn.Command
import FunctionChurn.Journal.Stamp
import FunctionChurn.Main
import FunctionChurn.Proofs.Source.Definition
import FunctionChurn.Proofs.Receiver
import FunctionChurn.Proofs.ReceiverType
import FunctionChurn.Proofs.Workers
import FunctionChurn.Proofs.Source.Order
import FunctionChurn.Shell.Run
import FunctionChurn.Proofs.Extraction
import FunctionChurn.Proofs.Report.Dispatch
import FunctionChurn.Proofs.Report.Sites
import FunctionChurn.Proofs.Path
import FunctionChurn.Proofs.Disk.Resolve
import FunctionChurn.Proofs.Disk.Tree
import FunctionChurn.Proofs.Discovery
import FunctionChurn.Proofs.Report.Rows
import FunctionChurn.Proofs.Report.Narrowing
import FunctionChurn.Proofs.Report.Faults
import FunctionChurn.Proofs.Disk.Walk
import FunctionChurn.Proofs.Disk.Search
import FunctionChurn.Proofs.Disk.Spelling
import FunctionChurn.Proofs.Report.Spelling
import FunctionChurn.Proofs.Source.Reading
import FunctionChurn.Proofs.Source.Go.Scan
import FunctionChurn.Proofs.Source.Go.Declared
import FunctionChurn.Proofs.Source.Bare
import FunctionChurn.Proofs.Source.Rust.Syntax
import FunctionChurn.Proofs.Source.Rust.Scan
import FunctionChurn.Proofs.Source.Rust.Defined
import FunctionChurn.Proofs.Source.Lua.Syntax
import FunctionChurn.Proofs.Source.Lua.Scan
import FunctionChurn.Proofs.Source.Lua.Named
import FunctionChurn.Proofs.Text.Utf8
import FunctionChurn.Proofs.Source.Position
import FunctionChurn.Proofs.Placement
import FunctionChurn.Proofs.Report.Progress
import FunctionChurn.Proofs.Report.Delivery
import FunctionChurn.Proofs.Command.Layers
import FunctionChurn.Proofs.Command.Escapes
import FunctionChurn.Proofs.Command.Root
import FunctionChurn.Proofs.Command.Verbosity
import FunctionChurn.Proofs.History
import FunctionChurn.Proofs.Workers.Schedule
import FunctionChurn.Proofs.Workers.Lifetime
import FunctionChurn.Proofs.Grammar.Kept
import FunctionChurn.Proofs.Report.Reuse
import FunctionChurn.Proofs.Extraction.Session
import FunctionChurn.Proofs.Settings.Valid
import FunctionChurn.Proofs.Language
import FunctionChurn.Proofs.Report.Reading

import LintBridge.Log.Setup
import LintBridge.Main
import LintBridge.Wire
import LintBridge.Proofs.Members
import LintBridge.Proofs.ErrorBatch
import LintBridge.Proofs.Json.Reading
import LintBridge.Proofs.Shown
import LintBridge.Proofs.Config
import LintBridge.Proofs.Config.Expansion
import LintBridge.Proofs.Session.Basic
import LintBridge.Proofs.Session.Course
import LintBridge.Proofs.LintModule.Imports
import LintBridge.Proofs.Resolver.Basic
import LintBridge.Proofs.Resolver.Reset
import LintBridge.Proofs.Loop.Basic
import LintBridge.Proofs.Loop.Course
import LintBridge.Proofs.Loop.Turns
import LintBridge.Proofs.Loop.Run
import LintBridge.Proofs.Loop.Closing
import LintBridge.Proofs.Documents
import LintBridge.Proofs.Manifest
import LintBridge.Proofs.Workspace
import LintBridge.Proofs.LintModule.Execution
import LintBridge.Proofs.Loop.View
import LintBridge.Proofs.Loop.Upkeep
import LintBridge.Proofs.LintModule.Search
import LintBridge.Proofs.Resolver.Holding
import LintBridge.Proofs.Resolver.Ending
import LintBridge.Proofs.Loop.Awaiting
import LintBridge.Proofs.Loop.Occasion
import LintBridge.Proofs.Server.View
import LintBridge.Proofs.LintModule.Siblings
import LintBridge.Proofs.Resolver.Siblings
import LintBridge.Proofs.Resolver.Agreement
import LintBridge.Proofs.Session.Verdict
import LintBridge.Proofs.Batch.Round
import LintBridge.Proofs.Batch.Turns
import LintBridge.Proofs.Batch.Ending
import LintBridge.Proofs.Batch.InTurn
import LintBridge.Proofs.LintModule.Anew
import LintBridge.Proofs.Resolver.Anew
import LintBridge.Proofs.Batch.InLine
import LintBridge.Proofs.Text.Position
import LintBridge.Proofs.Text.Offset
import LintBridge.Proofs.Json
import LintBridge.Proofs.Report
import LintBridge.Proofs.Session.Published
import LintBridge.Proofs.Session.CodeAction
import LintBridge.Proofs.Session.Skipping
import LintBridge.Proofs.Loop.Work
import LintBridge.Proofs.Loop.Attended
import LintBridge.Proofs.Loop.Progress
import LintBridge.Proofs.Loop.Raising
import LintBridge.Proofs.Loop.Returning
import LintBridge.Proofs.Session.Anew
import LintBridge.Proofs.Batch.Hearing
import LintBridge.Proofs.Batch.Agreement
import LintBridge.Proofs.Batch.Anew
import LintBridge.Proofs.Resolver.Repair
import LintBridge.Proofs.Report.Telling
import LintBridge.Proofs.Text.Utf8
import LintBridge.Proofs.Path
import LintBridge.Proofs.Uri
import LintBridge.Proofs.FileSystem.Edit
import LintBridge.Proofs.Log.Pruning
import LintBridge.Proofs.Workspace.Checks

import SqlPipeline.Main
import SqlPipeline.Storage.Transaction
import SqlPipeline.Proofs.Graph.WellFormed
import SqlPipeline.Proofs.Graph.InTurn
import SqlPipeline.Proofs.Graph.Order
import SqlPipeline.Proofs.Graph.Build
import SqlPipeline.Proofs.Run.Requests
import SqlPipeline.Proofs.Run.Visits
import SqlPipeline.Proofs.Run.Batch
import SqlPipeline.Proofs.Materialization
import SqlPipeline.Proofs.Sql.Leading
import SqlPipeline.Proofs.Template.Function
import SqlPipeline.Proofs.Run.Model
import SqlPipeline.Proofs.Run.Incremental
import SqlPipeline.Proofs.Graph.Least
import SqlPipeline.Proofs.Model.Select
import SqlPipeline.Proofs.Model.Compile
import SqlPipeline.Proofs.Run.Selection
import SqlPipeline.Proofs.Run.Attempts
import SqlPipeline.Proofs.Run.Report
import SqlPipeline.Proofs.Graph.Cycle
import SqlPipeline.Proofs.RefScan
import SqlPipeline.Proofs.Model.Alone
import SqlPipeline.Proofs.Run.Alike
import SqlPipeline.Proofs.Run.FullRefresh
import SqlPipeline.Proofs.Run.Reads
import SqlPipeline.Proofs.Run.Apart
import SqlPipeline.Proofs.Run.Context
import SqlPipeline.Proofs.Run.Names
import SqlPipeline.Proofs.Run.Merge
import SqlPipeline.Proofs.Template.Tracking
import SqlPipeline.Proofs.Template.Plain
import SqlPipeline.Proofs.Run.Rerender
import SqlPipeline.Proofs.Run.Oversight
import SqlPipeline.Proofs.Model.Unreported
import SqlPipeline.Proofs.Model.Files
import SqlPipeline.Proofs.Project.Names
import SqlPipeline.Proofs.Storage.Operation
import SqlPipeline.Proofs.Storage.Client
import SqlPipeline.Proofs.Storage.Accounts
import SqlPipeline.Proofs.Storage.Wrapped
import SqlPipeline.Proofs.Console.Markup
import SqlPipeline.Proofs.Console.Escape
import SqlPipeline.Proofs.Seed.Loads
import SqlPipeline.Proofs.Command.Carry
import SqlPipeline.Proofs.Command.Gate
import SqlPipeline.Proofs.Graph.InPlace
import SqlPipeline.Proofs.Sql.Header
import SqlPipeline.Proofs.Sql.Comments
import SqlPipeline.Proofs.Sql.Written
import SqlPipeline.Proofs.Project.Scaffold
import SqlPipeline.Proofs.Text.Lines
import SqlPipeline.Proofs.Storage.Transaction
import SqlPipeline.Proofs.Project.Variables
import SqlPipeline.Proofs.Project.Target
import SqlPipeline.Proofs.Command.Verdict
import SqlPipeline.Proofs.Command.Shown
import SqlPipeline.Proofs.FileTree.Way
import SqlPipeline.Proofs.Project.Laid
import SqlPipeline.Proofs.Sql.Pieces
import SqlPipeline.Proofs.Lookup
import SqlPipeline.Proofs.Run.Located
import SqlPipeline.Proofs.Seed.Quoted

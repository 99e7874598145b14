import DocSchema.Bootstrap.Error
import DocSchema.Bootstrap.Report
import DocSchema.Bootstrap.Run
import DocSchema.Bootstrap.Task
import DocSchema.Calendar
import DocSchema.CommandLine
import DocSchema.Config.Basic
import DocSchema.Config.Files
import DocSchema.Duration
import DocSchema.Filter
import DocSchema.Index.Definition
import DocSchema.Index.Spec
import DocSchema.Json.Basic
import DocSchema.Json.Decoder
import DocSchema.Json.Fault
import DocSchema.Json.Pass
import DocSchema.Json.Reader
import DocSchema.Json.Record
import DocSchema.Json.Token
import DocSchema.Json.Tree
import DocSchema.Json.Writer
import DocSchema.Main
import DocSchema.Name
import DocSchema.Number.Binary64
import DocSchema.Number.Shortest
import DocSchema.Schema.Basic
import DocSchema.Schema.Builtin
import DocSchema.Schema.Document
import DocSchema.Schema.Error
import DocSchema.Server.Address
import DocSchema.Server.ConnectionString
import DocSchema.Server.Credential
import DocSchema.Server.OptionName
import DocSchema.Server.Session
import DocSchema.Server.Settings
import DocSchema.Server.Wire
import DocSchema.SoftDelete
import DocSchema.Store.Collections
import DocSchema.Store.Error
import DocSchema.Store.Host
import DocSchema.Store.Memory
import DocSchema.Store.Request
import DocSchema.Text.Base16
import DocSchema.Text.Base64
import DocSchema.Text.Blank
import DocSchema.Text.Hidden
import DocSchema.Text.LowerCase
import DocSchema.Text.Percent
import DocSchema.Text.Quoted
import DocSchema.Text.Similarity
import DocSchema.Text.Split
import DocSchema.Text.Utf8
import DocSchema.Value.Basic
import DocSchema.Value.Path
import DocSchema.Value.Text
import DocSchema.Proofs.ValueEquality
import DocSchema.Proofs.Coverage
import DocSchema.Proofs.UniqueKeys
import DocSchema.Proofs.ConsistentSchemas
import DocSchema.Proofs.CatalogChanges
import DocSchema.Proofs.Clients
import DocSchema.Proofs.Uniqueness
import DocSchema.Proofs.TaskRuns
import DocSchema.Proofs.CatalogGrowth
import DocSchema.Proofs.ApplyRuns
import DocSchema.Proofs.PlanRuns
import DocSchema.Proofs.AppliedCatalogs
import DocSchema.Proofs.Reapplying
import DocSchema.Proofs.ApplyEffect
import DocSchema.Proofs.PlanAndApply
import DocSchema.Proofs.FailedRequests
import DocSchema.Proofs.Permanence
import DocSchema.Proofs.Interference
import DocSchema.Proofs.StableApplies
import DocSchema.Proofs.Agreement
import DocSchema.Proofs.Enforcement
import DocSchema.Proofs.Turns
import DocSchema.Proofs.Stages
import DocSchema.Proofs.ConcurrentApplies
import DocSchema.Proofs.Conversations
import DocSchema.Proofs.CallSequences
import DocSchema.Proofs.RequestOrder
import DocSchema.Proofs.OrderlyCalls
import DocSchema.Proofs.Exchanges
import DocSchema.Proofs.ServerFailures
import DocSchema.Proofs.Reorderings
import DocSchema.Proofs.RelistedIndexes
import DocSchema.Proofs.DeclarationOrder
import DocSchema.Proofs.JsonTokens
import DocSchema.Proofs.JsonReading
import DocSchema.Proofs.SchemaTexts
import DocSchema.Proofs.ReportTexts
import DocSchema.Proofs.Accumulation
import DocSchema.Proofs.Selections
import DocSchema.Proofs.IndexSets
import DocSchema.Proofs.EqualFilters
import DocSchema.Proofs.Insertions
import DocSchema.Proofs.StalledRuns
import DocSchema.Proofs.SoftDeletions
import DocSchema.Proofs.Disturbances
import DocSchema.Proofs.CreationRaces
import DocSchema.Proofs.AddedIndexes
import DocSchema.Proofs.CreatedReports
import DocSchema.Proofs.Marks
import DocSchema.Proofs.DuplicateKeyTexts
import DocSchema.Proofs.WeakerFilters
import DocSchema.Proofs.FirstFaults
import DocSchema.Proofs.ComposedPaths
import DocSchema.Proofs.RelatedIndexes
import DocSchema.Proofs.SuccessiveIndexes
import DocSchema.Proofs.CommandLines
import DocSchema.Proofs.Targets

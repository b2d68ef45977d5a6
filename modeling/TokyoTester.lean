import TokyoTester.Library.Json
import TokyoTester.Library.Table
import TokyoTester.Library.Trace
import TokyoTester.Library.Versioned
import TokyoTester.Database.Schema
import TokyoTester.Database.WorkflowJobs
import TokyoTester.Database.Client
import TokyoTester.Jobs.Transitions
import TokyoTester.Jobs.Lifecycle
import TokyoTester.Sync.Server
import TokyoTester.Sync.Versions
import TokyoTester.Sync.Isolation
import TokyoTester.Sync.Client
import TokyoTester.Sync.Acceptance
import TokyoTester.Sync.Convergence
import TokyoTester.Bundle.Definition
import TokyoTester.Bundle.Executable
import TokyoTester.Bundle.Images
import TokyoTester.Bundle.References
import TokyoTester.Jobs.Admission
import TokyoTester.Jobs.Capacity
import TokyoTester.Jobs.Records
import TokyoTester.Library.CriticalSections
import TokyoTester.Library.Cursor
import TokyoTester.Library.Pool
import TokyoTester.Library.Serial
import TokyoTester.Runs.Calls
import TokyoTester.Runs.Closing
import TokyoTester.Runs.SessionLeases
import TokyoTester.Runs.Submission
import TokyoTester.Sync.Durability
import TokyoTester.Sync.Hydration
import TokyoTester.Tests.Agreement
import TokyoTester.Tests.Completeness
import TokyoTester.Library.Journal
import TokyoTester.Runs.Dependencies
import TokyoTester.Runs.Success
import TokyoTester.Bundle.Names
import TokyoTester.Translator.Names
import TokyoTester.Runs.Plans
import TokyoTester.Runs.Restores
import TokyoTester.Runs.Resume
import TokyoTester.Sync.Optimistic
import TokyoTester.Sync.Finished
import TokyoTester.Projects.Owners
import TokyoTester.Bundle.Strict
import TokyoTester.Tests.Validated
import TokyoTester.Realtime.Statuses
import TokyoTester.Library.Replay
import TokyoTester.Realtime.Replay
import TokyoTester.Realtime.Cursor
import TokyoTester.Bundle.Cycles
import TokyoTester.Bundle.Depths
import TokyoTester.Runs.LogPages
import TokyoTester.Jobs.Positions
import TokyoTester.Janitor.Sweep
import TokyoTester.Runs.StoredResults
import TokyoTester.Bundle.InitScripts
import TokyoTester.Tests.Documents
import TokyoTester.Tests.Rows
import TokyoTester.Tests.Bodies
import TokyoTester.Realtime.Timeline
import TokyoTester.Sync.FastQueue
import TokyoTester.Ui.EdgeModel
import TokyoTester.Ui.Graph
import TokyoTester.Library.Renaming
import TokyoTester.Ui.WorkflowBundle
import TokyoTester.Ui.Migration
import TokyoTester.Ui.Import
import TokyoTester.Ui.Export
import TokyoTester.Provider.Generic
import TokyoTester.Provider.Leaks
import TokyoTester.Provider.Ports
import TokyoTester.Provider.Provisioning
import TokyoTester.Runs.CleanUp
import TokyoTester.Runs.Persisting
import TokyoTester.Runs.Recorded
import TokyoTester.Runs.Recovery
import TokyoTester.Runs.Totals
import TokyoTester.Runs.Manager
import TokyoTester.Database.Migrations
import TokyoTester.Library.Base64
import TokyoTester.Agent.Assertions
import TokyoTester.Agent.Authority
import TokyoTester.Agent.Receipts
import TokyoTester.Runs.Workers
import TokyoTester.Runs.Cancellation
import TokyoTester.Runs.Payloads
import TokyoTester.Runs.Resubmission

import Trokk.Library.Keyset
import Trokk.Library.Relational
import Trokk.Library.Json
import Trokk.Library.JsonType
import Trokk.Library.JsonText
import Trokk.Library.Base64
import Trokk.Library.UrlQuery
import Trokk.Library.ReadCommitted
import Trokk.Library.Program
import Trokk.Schema
import Trokk.CursorCodec
import Trokk.MessageQueries
import Trokk.MessageCounts
import Trokk.AgentStats
import Trokk.SignalDelivery
import Trokk.InterruptedTicks
import Trokk.SignalBatches
import Trokk.ConsensusTriggers
import Trokk.PausedAgents
import Trokk.StrandedTasks
import Trokk.TaskFindings
import Trokk.StreamWalk
import Trokk.Toggles
import Trokk.TaskClaims
import Trokk.Statements
import Trokk.Api
import Trokk.Orchestrator
import Trokk.System
import Trokk.AccessControl
import Trokk.ConsensusRace
import Trokk.ConsensusRequest
import Trokk.TaskDrain
import Trokk.TaskOutcomes
import Trokk.ConsensusAgent
import Trokk.CompletionRecord
import Trokk.ErrorAnswers
import Trokk.InvestigationCreation
import Trokk.AssignmentViews
import Trokk.ReportedTasks
import Trokk.Specialists
import Trokk.PublishedFindings
import Trokk.ClaimedTasks
import Trokk.CursorText
import Trokk.CursorRoundTrip
import Trokk.StreamCache
import Trokk.StreamView
import Trokk.ClientTypes
import Trokk.Library.Placeholder
import Trokk.Library.Strconv
import Trokk.ListPages
import Trokk.PartialUpdates
import Trokk.Library.Jsonb
import Trokk.FailureMessages
import Trokk.ReportPublishing
import Trokk.TaskOrder
import Trokk.Library.Trace
import Trokk.PollingHooks
import Trokk.Library.Selection
import Trokk.LatestSelection
import Trokk.Dashboard
import Trokk.Library.JavaScript
import Trokk.ReportSchema
import Trokk.Library.Middleware
import Trokk.RequestLogs
import Trokk.ThreadReads
import Trokk.Library.PythonText
import Trokk.FencedReplies
import Trokk.Library.Evolution
import Trokk.Permanence
import Trokk.TickRules
import Trokk.TaskRecords
import Trokk.Acknowledgements
import Trokk.AgentKeys
import Trokk.Bearers
import Trokk.Voices
import Trokk.Library.Alike
import Trokk.SpecialistCache
import Trokk.Library.Guarded
import Trokk.UntickedAgents
import Trokk.UnreportedInvestigations
import Trokk.Library.Forest
import Trokk.ReplyTrees
import Trokk.MockStore
import Trokk.MockRuns
import Trokk.MockCalls
import Trokk.KeySecrecy
import Trokk.SettingsPage
import Trokk.Library.JsonDump
import Trokk.Library.DistinctNames
import Trokk.SentTexts
import Trokk.PausedVoices

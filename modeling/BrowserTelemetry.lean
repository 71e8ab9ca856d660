import BrowserTelemetry.Browser.Basic
import BrowserTelemetry.Browser.Config
import BrowserTelemetry.Browser.Error
import BrowserTelemetry.Browser.Volume
import BrowserTelemetry.Calendar.Moment
import BrowserTelemetry.Calendar.Timestamp
import BrowserTelemetry.FilePath
import BrowserTelemetry.Json.Basic
import BrowserTelemetry.Json.Codec
import BrowserTelemetry.Json.Document
import BrowserTelemetry.Json.Issue
import BrowserTelemetry.Json.Labelled
import BrowserTelemetry.Json.Map
import BrowserTelemetry.Json.Memory
import BrowserTelemetry.Json.Name
import BrowserTelemetry.Json.Numeral
import BrowserTelemetry.Json.Printer
import BrowserTelemetry.Json.Reader
import BrowserTelemetry.Json.Record
import BrowserTelemetry.Json.Tagged
import BrowserTelemetry.Json.Token
import BrowserTelemetry.Log
import BrowserTelemetry.Number.Binary64
import BrowserTelemetry.SortedMap
import BrowserTelemetry.Startup.Lifecycle
import BrowserTelemetry.Startup.Log
import BrowserTelemetry.Storage.Affinity
import BrowserTelemetry.Storage.Database
import BrowserTelemetry.Storage.Migration
import BrowserTelemetry.Store.Middleware
import BrowserTelemetry.Store.Probe
import BrowserTelemetry.Tab.Action
import BrowserTelemetry.Tab.Format
import BrowserTelemetry.Tab.Reduce
import BrowserTelemetry.Tab.Session
import BrowserTelemetry.Tab.State
import BrowserTelemetry.Telemetry.Attribution
import BrowserTelemetry.Telemetry.Clock
import BrowserTelemetry.Telemetry.Format
import BrowserTelemetry.Telemetry.Metrics
import BrowserTelemetry.Telemetry.OpenTabs
import BrowserTelemetry.Telemetry.RedirectChain
import BrowserTelemetry.Telemetry.Reporting
import BrowserTelemetry.Text.Blank
import BrowserTelemetry.Text.CodePoints
import BrowserTelemetry.Text.Escaped
import BrowserTelemetry.Text.Quoted
import BrowserTelemetry.Unicode.Composition
import BrowserTelemetry.Unicode.CompositionTable
import BrowserTelemetry.Unicode.Direction
import BrowserTelemetry.Unicode.DirectionTable
import BrowserTelemetry.Unicode.LowerCase
import BrowserTelemetry.Unicode.LowerCaseTable
import BrowserTelemetry.Unicode.Mapping
import BrowserTelemetry.Unicode.MappingTable
import BrowserTelemetry.Url.Basic
import BrowserTelemetry.Url.Domain
import BrowserTelemetry.Url.Ipv4
import BrowserTelemetry.Url.Ipv6
import BrowserTelemetry.Url.Parse
import BrowserTelemetry.Url.PercentCode
import BrowserTelemetry.Url.Punycode
import BrowserTelemetry.Proofs.SessionLists
import BrowserTelemetry.Proofs.StateInvariant
import BrowserTelemetry.Proofs.Places
import BrowserTelemetry.Proofs.RedirectTracker
import BrowserTelemetry.Proofs.Turns
import BrowserTelemetry.Proofs.SinkEffects
import BrowserTelemetry.Proofs.Transparency
import BrowserTelemetry.Proofs.OpenChains
import BrowserTelemetry.Proofs.AdClicks
import BrowserTelemetry.Proofs.SessionLookup
import BrowserTelemetry.Proofs.TabCount
import BrowserTelemetry.Proofs.EngineLinks
import BrowserTelemetry.Proofs.EngineKills
import BrowserTelemetry.Proofs.ChainRoots
import BrowserTelemetry.Proofs.Interleaving
import BrowserTelemetry.Proofs.SchemaMigration
import BrowserTelemetry.Proofs.SettingsCache
import BrowserTelemetry.Proofs.Digits
import BrowserTelemetry.Proofs.JsonTokens
import BrowserTelemetry.Proofs.JsonText
import BrowserTelemetry.Proofs.CodecLaws
import BrowserTelemetry.Proofs.TimestampText
import BrowserTelemetry.Proofs.ActionText
import BrowserTelemetry.Proofs.PageLoads
import BrowserTelemetry.Proofs.Uploads
import BrowserTelemetry.Proofs.MiddlewareChain
import BrowserTelemetry.Proofs.SessionIds
import BrowserTelemetry.Proofs.StartupFanout
import BrowserTelemetry.Proofs.TabRemoval
import BrowserTelemetry.Proofs.BulkRemoval
import BrowserTelemetry.Proofs.ClickCalls
import BrowserTelemetry.Proofs.ClosingTabs
import BrowserTelemetry.Proofs.TabOrder
import BrowserTelemetry.Proofs.BatchAdditions
import BrowserTelemetry.Proofs.SelectionMoves
import BrowserTelemetry.Proofs.Replays
import BrowserTelemetry.Proofs.OpeningTabs
import BrowserTelemetry.Proofs.StoredProviders
import BrowserTelemetry.Proofs.SoundReading
import BrowserTelemetry.Proofs.ConfigFiles
import BrowserTelemetry.Proofs.SmallLetters
import BrowserTelemetry.Proofs.HostCase
import BrowserTelemetry.Proofs.HostLabels
import BrowserTelemetry.Proofs.KillAges

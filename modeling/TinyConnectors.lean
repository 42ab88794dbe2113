import TinyConnectors.RustStr
import TinyConnectors.Base64
import TinyConnectors.PercentEncoding
import TinyConnectors.Webhook.Readings
import TinyConnectors.Webhook.Accept
import TinyConnectors.Webhook.Versions
import TinyConnectors.PreferenceMap
import TinyConnectors.Json
import TinyConnectors.Scope
import TinyConnectors.Catalog.Lookup
import TinyConnectors.Prepare
import TinyConnectors.Prefs
import TinyConnectors.ScopeCheck
import TinyConnectors.Await
import TinyConnectors.Storage
import TinyConnectors.Migration.MigratePreference
import TinyConnectors.Migration.Follow
import TinyConnectors.Migration.Ownership
import TinyConnectors.Migration.MigrateStreams
import TinyConnectors.Migration.StreamCopy
import TinyConnectors.Migration.StreamRecords
import TinyConnectors.Migration.StreamRace
import TinyConnectors.Migration.MigratePreferences
import TinyConnectors.Migration.ReadBack
import TinyConnectors.Migration.StreamSettle
import TinyConnectors.Migration.PrepareStorage
import TinyConnectors.Migration.Resume
import TinyConnectors.Contracts.Caches
import TinyConnectors.Contracts.Reconfigure
import TinyConnectors.Contracts.SharedFetch
import TinyConnectors.Contracts.Lookups
import TinyConnectors.Contracts.Probe
import TinyConnectors.Catalog.Slugs
import TinyConnectors.Listing.Members
import TinyConnectors.Listing.Surfaces
import TinyConnectors.Listing.Offered
import TinyConnectors.Listing.WellFormed
import TinyConnectors.Direct.Route
import TinyConnectors.Direct.Ownership
import TinyConnectors.Direct.Gate
import TinyConnectors.Direct.GateRuns
import TinyConnectors.Direct.Listings
import TinyConnectors.Direct.Pages
import TinyConnectors.Direct.TriggerFilter
import TinyConnectors.JsonText
import TinyConnectors.Newest
import TinyConnectors.Archive.Entry
import TinyConnectors.Archive.ListRecent
import TinyConnectors.Archive.History
import TinyConnectors.Execute.Classify
import TinyConnectors.Execute.Retry
import TinyConnectors.Execute.TaskWindow
import TinyConnectors.Execute.Arguments
import TinyConnectors.Webhook.Decode
import TinyConnectors.Direct.UrlValues
import TinyConnectors.Direct.Verdict
import TinyConnectors.Client.Envelope
import TinyConnectors.StrSlices
import TinyConnectors.Execute.CalendarDate
import TinyConnectors.Substrings
import TinyConnectors.Client.StatusMessage
import TinyConnectors.Execute.Reported
import TinyConnectors.Execute.FilterResponse
import TinyConnectors.Client.Authorize
import TinyConnectors.Client.Handoff
import TinyConnectors.Migration.StoredForms
import TinyConnectors.Webhook.ToolkitOf
import TinyConnectors.Heuristics
import TinyConnectors.Words
import TinyConnectors.Vocabulary.PromptSection
import TinyConnectors.Lowercase
import TinyConnectors.Vocabulary.Canonicalize
import TinyConnectors.Vocabulary.EvaluateActions
import TinyConnectors.LevelOrder
import TinyConnectors.Contracts.ArrayPath
import TinyConnectors.Client.IpAddr
import TinyConnectors.Client.Bypass
import TinyConnectors.OnceInit
import TinyConnectors.TinybusModule.StorageLink
import TinyConnectors.Archive.Prepared
import TinyConnectors.TinybusModule.Archives
import TinyConnectors.Sessions
import TinyConnectors.Client.Operations
import TinyConnectors.Client.ProxyRequests
import TinyConnectors.Catalog.Identity
import TinyConnectors.TinybusModule.Members
import TinyConnectors.TinybusModule.MemberRuns
import TinyConnectors.TinybusModule.IdentityRuns
import TinyConnectors.TinybusModule.Agreement
import TinyConnectors.Client.DirectRequests
import TinyConnectors.Client.Confinement

import CacheAside.Access.Schedule
import CacheAside.Key.Hashable
import CacheAside.Key.Text
import CacheAside.Main
import CacheAside.Proofs.Access.Operations
import CacheAside.Record.Text
import CacheAside.Proofs.Access.Ledger
import CacheAside.Proofs.Access.Transparency
import CacheAside.Proofs.Access.History
import CacheAside.Proofs.Access.ReadYourWrites
import CacheAside.Proofs.Json.Canonical
import CacheAside.Proofs.Key.Unambiguous
import CacheAside.Proofs.Json.Distinct
import CacheAside.Proofs.Key.EqualTuples
import CacheAside.Proofs.Channel.SingleResolution
import CacheAside.Proofs.Access.GridFirst
import CacheAside.Proofs.Access.Notices
import CacheAside.Proofs.Span.Tiling
import CacheAside.Proofs.Store.Keyed
import CacheAside.Proofs.Warmup.Turns
import CacheAside.Proofs.Grid.Entries
import CacheAside.Proofs.Warmup.Conservation
import CacheAside.Proofs.Warmup.Exact
import CacheAside.Proofs.Access.Removal
import CacheAside.Proofs.Document.Agreement
import CacheAside.Proofs.Document.KeyFilter
import CacheAside.Proofs.Warmup.Isolation
import CacheAside.Proofs.Map.Calls
import CacheAside.Proofs.Map.Refinement
import CacheAside.Proofs.Grid.Registry
import CacheAside.Proofs.Access.Ahead
import CacheAside.Proofs.Access.Overtaken
import CacheAside.Proofs.Span.Division
import CacheAside.Proofs.Access.Counts
import CacheAside.Proofs.Grid.Atomic
import CacheAside.Proofs.Number.Rounding
import CacheAside.Proofs.Number.Shortest
import CacheAside.Proofs.Number.Written
import CacheAside.Proofs.Json.Readable
import CacheAside.Proofs.Meter.Occurrences
import CacheAside.Proofs.Grid.FirstUse
import CacheAside.Proofs.Access.Finds
import CacheAside.Proofs.Access.Alone
import CacheAside.Proofs.Access.Loads
import CacheAside.Proofs.Access.ReadThrough
import CacheAside.Proofs.Store.Loading
import CacheAside.Proofs.Meter.Mean
import CacheAside.Proofs.Settings.Numerals
import CacheAside.Proofs.Settings.Sources
import CacheAside.Proofs.Settings.Maps
import CacheAside.Proofs.Access.Scheduled

import Catwalk.Theory.StepSystem
import Catwalk.Theory.WorkPool
import Catwalk.Theory.WaitFor
import Catwalk.Theory.BreadthFirst
import Catwalk.Theory.DepthFirst
import Catwalk.Theory.FuturePool
import Catwalk.Catalog.Epoch
import Catwalk.Data.OrderedDict
import Catwalk.Data.Updates
import Catwalk.Cache.TTLCache
import Catwalk.Cache.Runs
import Catwalk.Cache.Ledger
import Catwalk.Cache.Recency
import Catwalk.Cache.Flight
import Catwalk.Cache.Contents
import Catwalk.Cache.SingleFlight
import Catwalk.Cache.Integrity
import Catwalk.Catalog.Path
import Catwalk.Catalog.Components
import Catwalk.Catalog.Timestamp
import Catwalk.Data.Tally
import Catwalk.Rollup.FolderStats
import Catwalk.Rollup.Aggregate
import Catwalk.Rollup.Pipeline
import Catwalk.Rollup.Compute
import Catwalk.Rollup.Overlap
import Catwalk.Rollup.Backlog
import Catwalk.Rollup.Finish
import Catwalk.Rollup.Sequential
import Catwalk.Rollup.DeepSize
import Catwalk.Rollup.Scan
import Catwalk.Rollup.Ceiling
import Catwalk.Catalog.Tree
import Catwalk.Rollup.Drilldown
import Catwalk.Data.SortKey
import Catwalk.Data.StableSort
import Catwalk.Data.Generator
import Catwalk.Data.Regex
import Catwalk.Data.Strings
import Catwalk.Data.Csv
import Catwalk.Data.Numeral
import Catwalk.Data.Percent
import Catwalk.Listing.Entry
import Catwalk.Listing.Page
import Catwalk.Listing.Query
import Catwalk.Listing.Directory
import Catwalk.Warmer.Pass
import Catwalk.Warmer.Refresh
import Catwalk.Warmer.Lifecycle
import Catwalk.Warmer.Stopping
import Catwalk.Warmer.Workers
import Catwalk.Jobs.Manager
import Catwalk.Jobs.Steps
import Catwalk.Jobs.Heap
import Catwalk.Jobs.Watchers
import Catwalk.Jobs.Lifecycle
import Catwalk.Jobs.Outcome
import Catwalk.Jobs.Closing
import Catwalk.Jobs.Detached
import Catwalk.Jobs.Dedup
import Catwalk.Jobs.Slots
import Catwalk.Jobs.Refusal
import Catwalk.Jobs.Executor
import Catwalk.Jobs.Backlog
import Catwalk.Jobs.Shutdown
import Catwalk.Api.Rollup
import Catwalk.Rollup.Repeatable
import Catwalk.Rollup.Report
import Catwalk.Api.Freshness
import Catwalk.Api.Disposition
import Catwalk.Api.Export
import Catwalk.Service.Machine
import Catwalk.Service.Contents
import Catwalk.Service.Listings
import Catwalk.Service.Epochs
import Catwalk.Service.Steps
import Catwalk.Service.Reports
import Catwalk.Service.Prefetches
import Catwalk.Service.Flights
import Catwalk.Service.Landing
import Catwalk.Service.Joins
import Catwalk.Service.Waits
import Catwalk.Service.Registry
import Catwalk.Service.Speculation
import Catwalk.Frontend.Machine
import Catwalk.Frontend.Steps
import Catwalk.Frontend.Tokens
import Catwalk.Frontend.Abandon
import Catwalk.Frontend.Screen
import Catwalk.Frontend.Repaint
import Catwalk.Frontend.Paths
import Catwalk.Frontend.PageCache
import Catwalk.Frontend.Badges
import Catwalk.Frontend.Cells
import Catwalk.Frontend.Display
import Catwalk.Cli.EnvFile
import Catwalk.Cli.EnvFormat
import Catwalk.Cli.Instance
import Catwalk.Cli.Managed
import Catwalk.Cli.Sequence
import Catwalk.Cli.Settings
import Catwalk.Cli.Layers
import Catwalk.Net.ProcTcp
import Catwalk.Net.Listening
import Catwalk.Catalog.Snapshot
import Catwalk.Frontend.Tree
import Catwalk.Frontend.TreeNodes

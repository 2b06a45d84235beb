import PinballScout.Decimal.Shortest
import PinballScout.Decimal.Layout
import PinballScout.Json.Basic
import PinballScout.Json.Read
import PinballScout.Stats.Percentile
import PinballScout.Stats.Group
import PinballScout.Compare.Edge
import PinballScout.Compare.Confidence
import PinballScout.Store.Aggregate
import PinballScout.Analysis.Verdict
import PinballScout.Report.Encode
import PinballScout.Json.Shape
import PinballScout.Relational.Cell
import PinballScout.Relational.Fault
import PinballScout.League.Snapshot
import PinballScout.League.Cohort
import PinballScout.Text.Blank
import PinballScout.Text.Search
import PinballScout.League.Catalog
import PinballScout.Store.Basic
import PinballScout.Store.Snapshot
import PinballScout.Analysis.Basic
import PinballScout.Analysis.Summary
import PinballScout.Analysis.Scout
import PinballScout.Analysis.Profile
import PinballScout.Analysis.Matchup
import PinballScout.Analysis.Recommend
import PinballScout.Report.Analysis
import PinballScout.Decimal.Rounded
import PinballScout.Relational.Order
import PinballScout.Relational.Affinity
import PinballScout.Relational.Like
import PinballScout.Relational.Table
import PinballScout.Relational.Query
import PinballScout.Relational.Eval
import PinballScout.Relational.Script
import PinballScout.Store.Schema
import PinballScout.Store.Database
import PinballScout.Decimal.Read
import PinballScout.Toml.Value
import PinballScout.Toml.Read
import PinballScout.Config.Basic
import PinballScout.Config.Read
import PinballScout.Report.Config
import PinballScout.CommandLine.Spec
import PinballScout.CommandLine.Similar
import PinballScout.CommandLine.Help
import PinballScout.CommandLine.Complaint
import PinballScout.CommandLine.Parse
import PinballScout.Tool.Interface
import PinballScout.Tool.Files
import PinballScout.Tool.Failure
import PinballScout.Tool.Run
import PinballScout.Checks.Basic
import PinballScout.Checks.Fixture
import PinballScout.Checks.Stats
import PinballScout.Checks.Store
import PinballScout.Checks.Compare
import PinballScout.Checks.Cohort
import PinballScout.Checks.Catalog
import PinballScout.Checks.Memory
import PinballScout.Checks.Database
import PinballScout.Checks.Config
import PinballScout.Checks.Summary
import PinballScout.Checks.Scout
import PinballScout.Checks.Matchup
import PinballScout.Checks.Profile
import PinballScout.Checks.Recommend
import PinballScout.Checks.Integration
import PinballScout.Checks.CommandLine
import PinballScout.Main
import PinballScout.Proofs.Grouping
import PinballScout.Proofs.Cohort
import PinballScout.Proofs.Scout
import PinballScout.Proofs.LeagueTables
import PinballScout.Proofs.Evaluation
import PinballScout.Proofs.StoreParity
import PinballScout.Proofs.Float.Order
import PinballScout.Proofs.Float.Sign
import PinballScout.Proofs.Float.Round
import PinballScout.Proofs.Float.Sum
import PinballScout.Proofs.Compare
import PinballScout.Proofs.Matchup
import PinballScout.Proofs.MatchupRows
import PinballScout.Proofs.NearestRank
import PinballScout.Proofs.Aggregation
import PinballScout.Proofs.Assessment
import PinballScout.Proofs.NarrowedQuery
import PinballScout.Proofs.VenueView
import PinballScout.Proofs.GroupedStats
import PinballScout.Proofs.Float.Normal
import PinballScout.Proofs.Float.Grid
import PinballScout.Proofs.Favors
import PinballScout.Proofs.StableSort
import PinballScout.Proofs.SearchPattern
import PinballScout.Proofs.CurrentTeam
import PinballScout.Proofs.StrengthSummary
import PinballScout.Proofs.Listings
import PinballScout.Proofs.ConfigValidation
import PinballScout.Proofs.Placeholders

import DesignMetrics.Main
import DesignMetrics.Proofs.OrderedMap
import DesignMetrics.Proofs.Hierarchy.Merge
import DesignMetrics.Proofs.Hierarchy.Ascent
import DesignMetrics.Proofs.Hierarchy.Cycle
import DesignMetrics.Proofs.Hierarchy.Links
import DesignMetrics.Proofs.Hierarchy.CycleReport
import DesignMetrics.Proofs.Hierarchy.Depth
import DesignMetrics.Proofs.Hierarchy.Level
import DesignMetrics.Proofs.Factor.Sum
import DesignMetrics.Proofs.Hierarchy.Agreement
import DesignMetrics.Proofs.Source.Token
import DesignMetrics.Proofs.Source.Reader
import DesignMetrics.Proofs.Source.Written
import DesignMetrics.Proofs.Source.Members
import DesignMetrics.Proofs.Source.RoundTrip
import DesignMetrics.Proofs.Except
import DesignMetrics.Proofs.Hierarchy.Coherence
import DesignMetrics.Proofs.Sorting
import DesignMetrics.Proofs.Source.Layout
import DesignMetrics.Proofs.Text.Split
import DesignMetrics.Proofs.Files.Walk
import DesignMetrics.Proofs.Search.Reach
import DesignMetrics.Proofs.Search.Report
import DesignMetrics.Proofs.Ignore.Confined
import DesignMetrics.Proofs.Files.Content
import DesignMetrics.Proofs.Ignore.Nested
import DesignMetrics.Proofs.Files.Writing
import DesignMetrics.Proofs.Number.UnitInterval
import DesignMetrics.Proofs.Factor.Tally
import DesignMetrics.Proofs.Factor.Bounds
import DesignMetrics.Proofs.Hierarchy.Extension
import DesignMetrics.Proofs.Ignore.Precedence
import DesignMetrics.Proofs.Source.Team
import DesignMetrics.Proofs.Analysis
import DesignMetrics.Proofs.Files.NullPath
import DesignMetrics.Proofs.Command.Escape
import DesignMetrics.Proofs.Hierarchy.Union
import DesignMetrics.Proofs.Report.Rebuild
import DesignMetrics.Proofs.Source.Pool
import DesignMetrics.Proofs.Files.Listing
import DesignMetrics.Proofs.Search.Order
import DesignMetrics.Proofs.Hierarchy.Chain
import DesignMetrics.Proofs.Source.Cut
import DesignMetrics.Proofs.Source.Header
import DesignMetrics.Proofs.Source.Occurrence
import DesignMetrics.Proofs.Source.Declaration
import DesignMetrics.Proofs.Source.Coverage
import DesignMetrics.Proofs.Source.MemberScan
import DesignMetrics.Proofs.Ignore.Decision
import DesignMetrics.Proofs.Ignore.Moved
import DesignMetrics.Proofs.Ignore.Stepwise
import DesignMetrics.Proofs.Ignore.Standing
import DesignMetrics.Proofs.Text.Lines
import DesignMetrics.Proofs.Number.Notation
import DesignMetrics.Proofs.Report.Names
import DesignMetrics.Proofs.Report.Rows
import DesignMetrics.Proofs.Files.Effect
import DesignMetrics.Proofs.Command.Delivery
import DesignMetrics.Proofs.Distinct
import DesignMetrics.Proofs.Hierarchy.Replacement
import DesignMetrics.Proofs.Text.Lowercase
import DesignMetrics.Proofs.Command.Extensions
import DesignMetrics.Proofs.Number.Rounding
import DesignMetrics.Proofs.Number.Nearest
import DesignMetrics.Proofs.Text.Width
import DesignMetrics.Proofs.Report.Markup
import DesignMetrics.Proofs.Report.Fold
import DesignMetrics.Proofs.Report.Labels

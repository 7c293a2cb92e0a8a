import Playout.Chain.Fragment
import Playout.Chain.Graph
import Playout.Chain.Record
import Playout.Chain.Segment
import Playout.Clock
import Playout.Command.Highlight
import Playout.Command.Options
import Playout.Command.Run
import Playout.Command.Terminal
import Playout.Config.Basic
import Playout.Config.Document
import Playout.Config.Loader
import Playout.Datum.Basic
import Playout.Datum.Distance
import Playout.Datum.Moment
import Playout.Datum.Set
import Playout.Datum.Text
import Playout.Fault
import Playout.Filter.Custom
import Playout.Filter.Item
import Playout.Filter.Logo
import Playout.Filter.LowerThird
import Playout.Filter.Operator
import Playout.Filter.Program
import Playout.Filter.Registry
import Playout.Filter.Step
import Playout.FrameRate
import Playout.Json.Printer
import Playout.Json.Reader
import Playout.Main
import Playout.Media.Basic
import Playout.Media.Probe
import Playout.Media.Ratio
import Playout.Media.Report
import Playout.Number.Binary64
import Playout.Number.Decimal
import Playout.Number.Numeral
import Playout.Number.Scalar
import Playout.Number.Shortest
import Playout.Number.SixPlaces
import Playout.Pattern.Basic
import Playout.Pattern.Reader
import Playout.Pattern.Search
import Playout.Proofs.Chain.Arguments
import Playout.Proofs.Chain.Calls
import Playout.Proofs.Chain.Growth
import Playout.Proofs.Chain.Interleaving
import Playout.Proofs.Chain.Invariant
import Playout.Proofs.Chain.Labels
import Playout.Proofs.Chain.Life
import Playout.Proofs.Chain.Phases
import Playout.Proofs.Chain.Records
import Playout.Proofs.Chain.Refusal
import Playout.Proofs.Command.PrintedLine
import Playout.Proofs.Config.Document
import Playout.Proofs.Config.Exact
import Playout.Proofs.Config.Nulls
import Playout.Proofs.Config.Ranges
import Playout.Proofs.Config.Times
import Playout.Proofs.Datum.Entries
import Playout.Proofs.Filter.CustomLeaks
import Playout.Proofs.Filter.CustomLinks
import Playout.Proofs.Filter.CustomParts
import Playout.Proofs.Filter.Extension
import Playout.Proofs.Filter.Fades
import Playout.Proofs.Filter.Geometry
import Playout.Proofs.Filter.LiveFeed
import Playout.Proofs.Filter.LogoPath
import Playout.Proofs.Filter.Operators
import Playout.Proofs.Filter.Order
import Playout.Proofs.Filter.Outline
import Playout.Proofs.Filter.PlanGraph
import Playout.Proofs.Filter.Provenance
import Playout.Proofs.Filter.Registry
import Playout.Proofs.Filter.Selectors
import Playout.Proofs.Filter.StreamNumbers
import Playout.Proofs.Filter.TitleQuoting
import Playout.Proofs.Filter.Titles
import Playout.Proofs.Filter.Tracks
import Playout.Proofs.Media.Attachment
import Playout.Proofs.Media.Calls
import Playout.Proofs.Media.Failure
import Playout.Proofs.Media.Measures
import Playout.Proofs.Media.TrimPoints
import Playout.Proofs.Number.Digits
import Playout.Proofs.Number.ExactDecimals
import Playout.Proofs.Number.Finite
import Playout.Proofs.Number.Floats
import Playout.Proofs.Number.Millionths
import Playout.Proofs.Number.Notations
import Playout.Proofs.Number.OptionTexts
import Playout.Proofs.Number.Spelling
import Playout.Proofs.Pattern.Groups
import Playout.Proofs.Results
import Playout.Proofs.Runs
import Playout.Proofs.Schedule.DayEnd
import Playout.Proofs.Schedule.Distance
import Playout.Proofs.Schedule.Speed
import Playout.Proofs.Shell.Words
import Playout.Proofs.Text.Fields
import Playout.Proofs.Text.Links
import Playout.Proofs.Text.Marks
import Playout.Proofs.Text.Unquoting
import Playout.Schedule
import Playout.Shell.Word
import Playout.Site
import Playout.Text.Blank
import Playout.Text.Case
import Playout.Text.Columns
import Playout.Text.Digit
import Playout.Text.Fields
import Playout.Text.Identifier
import Playout.Text.Name
import Playout.Text.Printable
import Playout.Text.Quoted
import Playout.Text.Word
import Playout.Timecode
import Playout.Yaml.Cursor
import Playout.Yaml.Node
import Playout.Yaml.Property
import Playout.Yaml.Scalar.Block
import Playout.Yaml.Scalar.Plain
import Playout.Yaml.Scalar.Quoted
import Playout.Yaml.Scalar.Value
import Playout.Yaml.Tag
import Playout.Yaml.Token
import Playout.Yaml.Value

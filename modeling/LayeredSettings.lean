import LayeredSettings.Binary64
import LayeredSettings.Binary64.Shortest
import LayeredSettings.Calendar
import LayeredSettings.Console
import LayeredSettings.Console.Arguments
import LayeredSettings.Console.Grid
import LayeredSettings.Console.PictureTable
import LayeredSettings.Console.Pictures
import LayeredSettings.Console.Printed
import LayeredSettings.Files
import LayeredSettings.Handle
import LayeredSettings.Layer
import LayeredSettings.Lock
import LayeredSettings.Log.Bindings
import LayeredSettings.Log.Event
import LayeredSettings.Log.Sink
import LayeredSettings.Log.Threshold
import LayeredSettings.Main
import LayeredSettings.Mandatory
import LayeredSettings.Override
import LayeredSettings.Path
import LayeredSettings.Proofs.Accounts
import LayeredSettings.Proofs.Assignment
import LayeredSettings.Proofs.Beside
import LayeredSettings.Proofs.Collecting
import LayeredSettings.Proofs.Configuring
import LayeredSettings.Proofs.Confined
import LayeredSettings.Proofs.Contact
import LayeredSettings.Proofs.Cutting
import LayeredSettings.Proofs.Defaults
import LayeredSettings.Proofs.DigitLimit
import LayeredSettings.Proofs.Escaping
import LayeredSettings.Proofs.Exclusion
import LayeredSettings.Proofs.Filling
import LayeredSettings.Proofs.Flattening
import LayeredSettings.Proofs.Gaps
import LayeredSettings.Proofs.History
import LayeredSettings.Proofs.Ignoring
import LayeredSettings.Proofs.Interchange
import LayeredSettings.Proofs.Joining
import LayeredSettings.Proofs.Kinds
import LayeredSettings.Proofs.Leaves
import LayeredSettings.Proofs.LineEnds
import LayeredSettings.Proofs.Linearization
import LayeredSettings.Proofs.Mandatory
import LayeredSettings.Proofs.Nesting
import LayeredSettings.Proofs.NullFree
import LayeredSettings.Proofs.Options
import LayeredSettings.Proofs.Origin
import LayeredSettings.Proofs.OverrideText
import LayeredSettings.Proofs.Overriding
import LayeredSettings.Proofs.PathText
import LayeredSettings.Proofs.Precedence
import LayeredSettings.Proofs.Preference
import LayeredSettings.Proofs.Provenance
import LayeredSettings.Proofs.Reachable
import LayeredSettings.Proofs.Reading
import LayeredSettings.Proofs.Regrouping
import LayeredSettings.Proofs.Remainder
import LayeredSettings.Proofs.Requests
import LayeredSettings.Proofs.Revalidation
import LayeredSettings.Proofs.RoundTrip
import LayeredSettings.Proofs.Secrecy
import LayeredSettings.Proofs.Service
import LayeredSettings.Proofs.Session
import LayeredSettings.Proofs.Shape
import LayeredSettings.Proofs.Spelling
import LayeredSettings.Proofs.Stages
import LayeredSettings.Proofs.Straying
import LayeredSettings.Proofs.Telling
import LayeredSettings.Proofs.TextLimit
import LayeredSettings.Proofs.UnknownPath
import LayeredSettings.Proofs.Utf8
import LayeredSettings.Proofs.VariableName
import LayeredSettings.Proofs.Veiled
import LayeredSettings.Proofs.VersionGate
import LayeredSettings.Proofs.Wakeup
import LayeredSettings.Report
import LayeredSettings.Resolution
import LayeredSettings.Schema
import LayeredSettings.Schema.Issue
import LayeredSettings.Schema.Kind
import LayeredSettings.Schema.Numeral
import LayeredSettings.Settings
import LayeredSettings.Source
import LayeredSettings.Text.CaseTable
import LayeredSettings.Text.CellTable
import LayeredSettings.Text.Cells
import LayeredSettings.Text.Composition
import LayeredSettings.Text.CompositionTable
import LayeredSettings.Text.Digits
import LayeredSettings.Text.Lowercase
import LayeredSettings.Text.MarkTable
import LayeredSettings.Text.Pieces
import LayeredSettings.Text.PrintTable
import LayeredSettings.Text.Quoted
import LayeredSettings.Text.Ranges
import LayeredSettings.Text.Utf8
import LayeredSettings.Toml.Document
import LayeredSettings.Toml.Expression
import LayeredSettings.Toml.Fault
import LayeredSettings.Toml.Namespace
import LayeredSettings.Toml.Scalar
import LayeredSettings.Toml.Text
import LayeredSettings.Url
import LayeredSettings.Url.Address
import LayeredSettings.Url.Direction
import LayeredSettings.Url.Domain
import LayeredSettings.Url.DomainTable
import LayeredSettings.Url.Joining
import LayeredSettings.Url.Percent
import LayeredSettings.Url.Punycode
import LayeredSettings.Url.Route
import LayeredSettings.Value
import LayeredSettings.Value.Json
import LayeredSettings.Value.Merge
import LayeredSettings.Value.Text

import Phrasebook.Bank.Basic
import Phrasebook.Bank.Document
import Phrasebook.Bank.Key
import Phrasebook.Bank.Load
import Phrasebook.Bank.Sample
import Phrasebook.CommandLine.Arguments
import Phrasebook.CommandLine.Probe
import Phrasebook.Fault
import Phrasebook.Json.Reader
import Phrasebook.Json.Writer
import Phrasebook.Main
import Phrasebook.Markdown
import Phrasebook.Number.Double
import Phrasebook.Number.Numeral
import Phrasebook.Number.Shortest
import Phrasebook.Pairs
import Phrasebook.Panel
import Phrasebook.Pattern.Expression
import Phrasebook.Pattern.Match
import Phrasebook.Pattern.Matcher
import Phrasebook.Pattern.Token
import Phrasebook.Proofs.Account
import Phrasebook.Proofs.BankSwap
import Phrasebook.Proofs.Changes
import Phrasebook.Proofs.Channels
import Phrasebook.Proofs.DigitForms
import Phrasebook.Proofs.Display
import Phrasebook.Proofs.Document
import Phrasebook.Proofs.Escape
import Phrasebook.Proofs.Expression
import Phrasebook.Proofs.Findable
import Phrasebook.Proofs.FirstFlaw
import Phrasebook.Proofs.Histogram
import Phrasebook.Proofs.Instruments
import Phrasebook.Proofs.Json.Grammar
import Phrasebook.Proofs.Json.InQuotes
import Phrasebook.Proofs.Json.Number
import Phrasebook.Proofs.Json.Parts
import Phrasebook.Proofs.Json.Reading
import Phrasebook.Proofs.Key
import Phrasebook.Proofs.KeySpelling
import Phrasebook.Proofs.Lines
import Phrasebook.Proofs.Load
import Phrasebook.Proofs.LogSetup
import Phrasebook.Proofs.Lookup
import Phrasebook.Proofs.MemberOrder
import Phrasebook.Proofs.Narrowing
import Phrasebook.Proofs.Numeral
import Phrasebook.Proofs.Obstacle
import Phrasebook.Proofs.Pairs
import Phrasebook.Proofs.Panel
import Phrasebook.Proofs.Probe
import Phrasebook.Proofs.Reach
import Phrasebook.Proofs.Search
import Phrasebook.Proofs.Size
import Phrasebook.Proofs.Spelling
import Phrasebook.Proofs.Symmetry
import Phrasebook.Proofs.Threshold
import Phrasebook.Proofs.Tiers
import Phrasebook.Proofs.Utf8
import Phrasebook.Proofs.Wildcard
import Phrasebook.Session.Application
import Phrasebook.Session.Desk
import Phrasebook.Session.Finder
import Phrasebook.Session.Instruments
import Phrasebook.Session.Meters
import Phrasebook.Session.Run
import Phrasebook.Session.Selection
import Phrasebook.Settings
import Phrasebook.Storage
import Phrasebook.Telemetry.Histogram
import Phrasebook.Telemetry.Log
import Phrasebook.Telemetry.LogSetup
import Phrasebook.Telemetry.Metric
import Phrasebook.Telemetry.Registry
import Phrasebook.Telemetry.Span
import Phrasebook.Telemetry.Threshold
import Phrasebook.Text.Blank
import Phrasebook.Text.Digit
import Phrasebook.Text.Hex
import Phrasebook.Text.Letter
import Phrasebook.Text.LineBreak
import Phrasebook.Text.Printable
import Phrasebook.Text.Quoted
import Phrasebook.Text.Utf8
import Phrasebook.Value
import Phrasebook.Value.Writer

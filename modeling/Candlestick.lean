import Candlestick.Calendar.Date
import Candlestick.Calendar.IsoText
import Candlestick.Calendar.Moment
import Candlestick.Command.Fetch
import Candlestick.Command.Folder
import Candlestick.Command.Intervals
import Candlestick.Command.Invocation
import Candlestick.Command.Options
import Candlestick.Command.Outcome
import Candlestick.Command.Path
import Candlestick.Command.Run
import Candlestick.Config.Chart
import Candlestick.Config.Environment
import Candlestick.Config.Fault
import Candlestick.Config.Lenient
import Candlestick.Config.Settings
import Candlestick.Failure
import Candlestick.Json.Basic
import Candlestick.Json.Parser
import Candlestick.Json.Printer
import Candlestick.Json.Token
import Candlestick.Loader.Cache
import Candlestick.Loader.Fetch
import Candlestick.Loader.Gaps
import Candlestick.Loader.Load
import Candlestick.Loader.Settings
import Candlestick.Loader.Window
import Candlestick.Main
import Candlestick.Market.Candle
import Candlestick.Market.Interval
import Candlestick.Market.Names
import Candlestick.Market.Source
import Candlestick.Market.Symbol
import Candlestick.Market.TimeFrame
import Candlestick.Network.Connection
import Candlestick.Network.Dialogue
import Candlestick.Network.Http
import Candlestick.Network.Paging
import Candlestick.Network.Transcript
import Candlestick.Network.Withdrawal
import Candlestick.Number.Double
import Candlestick.Number.Notation
import Candlestick.Number.Reading
import Candlestick.Number.Shortest
import Candlestick.Proofs.Calendar.Date
import Candlestick.Proofs.Calendar.IsoText
import Candlestick.Proofs.Calendar.Moment
import Candlestick.Proofs.Command.Containment
import Candlestick.Proofs.Command.OpenEnded
import Candlestick.Proofs.Config.Accepted
import Candlestick.Proofs.Loader.Bisection
import Candlestick.Proofs.Loader.Border
import Candlestick.Proofs.Loader.Cache
import Candlestick.Proofs.Loader.Closing
import Candlestick.Proofs.Loader.Covering
import Candlestick.Proofs.Loader.Failures
import Candlestick.Proofs.Loader.Feed
import Candlestick.Proofs.Loader.Fetch
import Candlestick.Proofs.Loader.Fill
import Candlestick.Proofs.Loader.Freshness
import Candlestick.Proofs.Loader.Gaps
import Candlestick.Proofs.Loader.Honest
import Candlestick.Proofs.Loader.Isolation
import Candlestick.Proofs.Loader.Listing
import Candlestick.Proofs.Loader.Months
import Candlestick.Proofs.Loader.Nominal
import Candlestick.Proofs.Loader.Partition
import Candlestick.Proofs.Loader.Reach
import Candlestick.Proofs.Loader.Resumption
import Candlestick.Proofs.Loader.Session
import Candlestick.Proofs.Loader.Steady
import Candlestick.Proofs.Loader.Strict
import Candlestick.Proofs.Loader.Tenancy
import Candlestick.Proofs.Loader.Tiling
import Candlestick.Proofs.Loader.Trailing
import Candlestick.Proofs.Loader.Transparency
import Candlestick.Proofs.Loader.Visible
import Candlestick.Proofs.Loader.Window
import Candlestick.Proofs.Loader.Withdrawal
import Candlestick.Proofs.Market.Interval
import Candlestick.Proofs.Market.Resolution
import Candlestick.Proofs.Market.Symbol
import Candlestick.Proofs.Network.Answerable
import Candlestick.Proofs.Network.Cursors
import Candlestick.Proofs.Network.Dialogue
import Candlestick.Proofs.Network.Failing
import Candlestick.Proofs.Network.Lockstep
import Candlestick.Proofs.Network.Paging
import Candlestick.Proofs.Network.Withdrawal
import Candlestick.Proofs.Number.Decimal
import Candlestick.Proofs.Number.Opposite
import Candlestick.Proofs.Number.Order
import Candlestick.Proofs.Number.Range
import Candlestick.Proofs.Number.Reading
import Candlestick.Proofs.Number.Rounding
import Candlestick.Proofs.Number.Spelling
import Candlestick.Proofs.Number.Sum
import Candlestick.Proofs.Provider.Alike
import Candlestick.Proofs.Provider.Answers
import Candlestick.Proofs.Provider.Archive
import Candlestick.Proofs.Provider.Attention
import Candlestick.Proofs.Provider.Bars
import Candlestick.Proofs.Provider.Decoration
import Candlestick.Proofs.Provider.Failures
import Candlestick.Proofs.Provider.History
import Candlestick.Proofs.Provider.Klines
import Candlestick.Proofs.Provider.Layouts
import Candlestick.Proofs.Provider.Legible
import Candlestick.Proofs.Provider.Lenient
import Candlestick.Proofs.Provider.Malformed
import Candlestick.Proofs.Provider.Newest
import Candlestick.Proofs.Provider.Oldest
import Candlestick.Proofs.Provider.Ownership
import Candlestick.Proofs.Provider.Pages
import Candlestick.Proofs.Provider.Progress
import Candlestick.Proofs.Provider.Reordered
import Candlestick.Proofs.Provider.Rows
import Candlestick.Proofs.Provider.Service
import Candlestick.Proofs.Provider.Shown
import Candlestick.Proofs.Provider.StartTime
import Candlestick.Proofs.Provider.Untimed
import Candlestick.Proofs.Provider.Written
import Candlestick.Proofs.Series.Buckets
import Candlestick.Proofs.Series.Clipping
import Candlestick.Proofs.Series.Faultless
import Candlestick.Proofs.Series.FaultlessRollUp
import Candlestick.Proofs.Series.Keyed
import Candlestick.Proofs.Series.Order
import Candlestick.Proofs.Series.Pieces
import Candlestick.Proofs.Series.Quality
import Candlestick.Proofs.Series.Regrouping
import Candlestick.Proofs.Series.RollUp
import Candlestick.Proofs.Text.Leg
import Candlestick.Proofs.Text.Lower
import Candlestick.Proofs.Text.Upper
import Candlestick.Provider.Binance
import Candlestick.Provider.Bitget
import Candlestick.Provider.Bybit
import Candlestick.Provider.Coinbase
import Candlestick.Provider.Directory
import Candlestick.Provider.Gateio
import Candlestick.Provider.Htx
import Candlestick.Provider.Klines
import Candlestick.Provider.Kraken
import Candlestick.Provider.Kucoin
import Candlestick.Provider.Mexc
import Candlestick.Provider.Okx
import Candlestick.Provider.Reading
import Candlestick.Provider.Request
import Candlestick.Series.Frame
import Candlestick.Series.Issue
import Candlestick.Series.Keyed
import Candlestick.Series.Order
import Candlestick.Series.Quality
import Candlestick.Series.RollUp
import Candlestick.Text.Blank
import Candlestick.Text.Case
import Candlestick.Text.CaseTable
import Candlestick.Text.Digit
import Candlestick.Text.Lines
import Candlestick.Text.Printable
import Candlestick.Text.Quoted
import Candlestick.Yaml.Base64
import Candlestick.Yaml.Cursor
import Candlestick.Yaml.Display
import Candlestick.Yaml.Fault
import Candlestick.Yaml.Lexer
import Candlestick.Yaml.Meaning
import Candlestick.Yaml.Node
import Candlestick.Yaml.Scalar
import Candlestick.Yaml.Tag
import Candlestick.Yaml.Timestamp
import Candlestick.Yaml.Token
import Candlestick.Yaml.Value

import GitCensus.Bytes
import GitCensus.CatFile.Client
import GitCensus.CatFile.Server
import GitCensus.Census.Basic
import GitCensus.Census.Pending
import GitCensus.Census.Sizing
import GitCensus.Census.Table
import GitCensus.Channel.Basic
import GitCensus.Channel.Reply
import GitCensus.Channel.ReplyStream
import GitCensus.Channel.Transport
import GitCensus.CommandLine.Arguments
import GitCensus.CommandLine.Invocation
import GitCensus.CommandLine.Run
import GitCensus.CommandLine.Session
import GitCensus.CommandLine.Usage
import GitCensus.Database.Basic
import GitCensus.Database.Loose
import GitCensus.Database.Pack
import GitCensus.Digest.Sha1
import GitCensus.Fault
import GitCensus.Inflate.Block
import GitCensus.Inflate.Code
import GitCensus.Inflate.Fault
import GitCensus.Inflate.Source
import GitCensus.Inflate.Stream
import GitCensus.Main
import GitCensus.ObjectId
import GitCensus.ObjectKind
import GitCensus.Pattern.Basic
import GitCensus.Pattern.Character
import GitCensus.Pattern.Escape
import GitCensus.Pattern.Fault
import GitCensus.Pattern.Matching
import GitCensus.Pattern.Option
import GitCensus.Pattern.Reader
import GitCensus.Pattern.Set
import GitCensus.Pattern.Token
import GitCensus.Proofs.CatFile.Acceptance
import GitCensus.Proofs.CatFile.Ends
import GitCensus.Proofs.CatFile.Serving
import GitCensus.Proofs.CatFile.Session
import GitCensus.Proofs.CatFile.Steady
import GitCensus.Proofs.CatFile.Unreported
import GitCensus.Proofs.Census.Alike
import GitCensus.Proofs.Census.Call
import GitCensus.Proofs.Census.Clearing
import GitCensus.Proofs.Census.Collapse
import GitCensus.Proofs.Census.Growth
import GitCensus.Proofs.Census.History
import GitCensus.Proofs.Census.Measured
import GitCensus.Proofs.Census.Outcome
import GitCensus.Proofs.Census.Provenance
import GitCensus.Proofs.Census.Records
import GitCensus.Proofs.Census.Refinement
import GitCensus.Proofs.Census.Requests
import GitCensus.Proofs.Census.Retry
import GitCensus.Proofs.Census.Run
import GitCensus.Proofs.Census.Sound
import GitCensus.Proofs.Census.Statistics
import GitCensus.Proofs.Census.Survey
import GitCensus.Proofs.Census.Trace
import GitCensus.Proofs.Census.Verdict
import GitCensus.Proofs.Census.Visit
import GitCensus.Proofs.Channel.Exchange
import GitCensus.Proofs.Channel.Reading
import GitCensus.Proofs.Channel.Reply
import GitCensus.Proofs.Channel.Skipping
import GitCensus.Proofs.CommandLine.Arguments
import GitCensus.Proofs.CommandLine.Names
import GitCensus.Proofs.CommandLine.Peel
import GitCensus.Proofs.CommandLine.Rules
import GitCensus.Proofs.CommandLine.Scan
import GitCensus.Proofs.CommandLine.Session
import GitCensus.Proofs.CommandLine.Together
import GitCensus.Proofs.Database.Answers
import GitCensus.Proofs.Database.EntryHeader
import GitCensus.Proofs.Database.Loose
import GitCensus.Proofs.Database.Packed
import GitCensus.Proofs.Database.Unreported
import GitCensus.Proofs.Inflate.Prefix
import GitCensus.Proofs.Inflate.Reading
import GitCensus.Proofs.Inflate.Yield
import GitCensus.Proofs.ObjectId.Reading
import GitCensus.Proofs.Report.Maxima
import GitCensus.Proofs.Report.Writing
import GitCensus.Proofs.Repository.Access
import GitCensus.Proofs.Repository.Headers
import GitCensus.Proofs.Repository.Peel
import GitCensus.Proofs.Selection.LastRule
import GitCensus.Proofs.Size.Clamp
import GitCensus.Proofs.Size.Entries
import GitCensus.Proofs.Size.Growth
import GitCensus.Proofs.Size.Tallied
import GitCensus.Proofs.Size.Totals
import GitCensus.Proofs.Store.Alike
import GitCensus.Proofs.Store.Failing
import GitCensus.Proofs.Store.Fixed
import GitCensus.Proofs.Store.PathCounts
import GitCensus.Proofs.Store.Paths
import GitCensus.Proofs.Store.Probe
import GitCensus.Proofs.Store.Serving
import GitCensus.Proofs.Store.Spending
import GitCensus.Proofs.Store.Trees
import GitCensus.Proofs.Text.Digits
import GitCensus.Proofs.Text.Hexadecimal
import GitCensus.Proofs.Text.Separators
import GitCensus.Proofs.Text.Utf8
import GitCensus.Proofs.Tree.Decode
import GitCensus.Proofs.Tree.Grammar
import GitCensus.Proofs.Tree.Octal
import GitCensus.Proofs.Tree.RoundTrip
import GitCensus.Report.Format
import GitCensus.Report.Json
import GitCensus.Report.Maxima
import GitCensus.Report.Sizes
import GitCensus.Repository.Access
import GitCensus.Repository.Basic
import GitCensus.Repository.Files
import GitCensus.Repository.Object
import GitCensus.Selection.Filter
import GitCensus.Selection.Group
import GitCensus.Selection.Order
import GitCensus.Selection.Rule
import GitCensus.Size.Capped
import GitCensus.Size.Record
import GitCensus.Size.Tally
import GitCensus.Store.Basic
import GitCensus.Store.Metered
import GitCensus.Store.ObjectMap
import GitCensus.Text.Decimal
import GitCensus.Text.Hex
import GitCensus.Text.Lossy
import GitCensus.Text.Quoted
import GitCensus.Tree.Entry
import GitCensus.Tree.Listing
import GitCensus.Tree.Octal
import GitCensus.Unicode.Alphanumeric
import GitCensus.Unicode.Blank
import GitCensus.Unicode.Boundaries
import GitCensus.Unicode.Digit
import GitCensus.Unicode.Identifier
import GitCensus.Unicode.Lowercase
import GitCensus.Unicode.Printable

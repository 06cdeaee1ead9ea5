import BlockIndexer.Block.Basic
import BlockIndexer.Block.Decode
import BlockIndexer.Block.Encode
import BlockIndexer.Config.Basic
import BlockIndexer.Config.Decode
import BlockIndexer.Config.Encode
import BlockIndexer.Config.Setting
import BlockIndexer.Config.Yaml
import BlockIndexer.Dispatch
import BlockIndexer.Error
import BlockIndexer.Feed.Delivery
import BlockIndexer.Feed.Lines
import BlockIndexer.Feed.Pump
import BlockIndexer.Gap.Scan
import BlockIndexer.Gap.Window
import BlockIndexer.Json.Canonical
import BlockIndexer.Json.Decode
import BlockIndexer.Json.Layout
import BlockIndexer.Json.Printer
import BlockIndexer.Json.Reader
import BlockIndexer.Json.Surplus
import BlockIndexer.Json.Token
import BlockIndexer.Json.Value
import BlockIndexer.Pipeline.Basic
import BlockIndexer.Pipeline.Run
import BlockIndexer.Pipeline.Supervision
import BlockIndexer.Pipeline.Timeline
import BlockIndexer.Proofs.Dispatch
import BlockIndexer.Proofs.Feed.Lines
import BlockIndexer.Proofs.Gap.Pass
import BlockIndexer.Proofs.Gap.Repair
import BlockIndexer.Proofs.Gap.Window
import BlockIndexer.Proofs.Pipeline.Conservation
import BlockIndexer.Proofs.Pipeline.Coverage
import BlockIndexer.Proofs.Pipeline.Ledger
import BlockIndexer.Proofs.Pipeline.Timeline
import BlockIndexer.Proofs.Pipeline.Trace
import BlockIndexer.Proofs.Queue
import BlockIndexer.Proofs.Replay.Deliver
import BlockIndexer.Proofs.Replay.Restart
import BlockIndexer.Proofs.Replay.Run
import BlockIndexer.Proofs.Replay.Step
import BlockIndexer.Proofs.Row.Mapping
import BlockIndexer.Proofs.Store.Blocks
import BlockIndexer.Proofs.Store.Consistency
import BlockIndexer.Proofs.Store.History
import BlockIndexer.Proofs.Store.Missing
import BlockIndexer.Proofs.Store.Rows
import BlockIndexer.Proofs.Store.WriteOnce
import BlockIndexer.Proofs.Tip
import BlockIndexer.Quantity
import BlockIndexer.Queue
import BlockIndexer.Receiver
import BlockIndexer.Record
import BlockIndexer.Replay
import BlockIndexer.Report
import BlockIndexer.Row.Basic
import BlockIndexer.Row.Encode
import BlockIndexer.Row.Mapping
import BlockIndexer.Rpc.Backoff
import BlockIndexer.Rpc.Block
import BlockIndexer.Rpc.Client
import BlockIndexer.Rpc.Envelope
import BlockIndexer.Rpc.Node
import BlockIndexer.Rpc.Status
import BlockIndexer.Source
import BlockIndexer.Store.Basic
import BlockIndexer.Store.Database
import BlockIndexer.Text.Base58
import BlockIndexer.Text.Blank
import BlockIndexer.Text.Hex
import BlockIndexer.Text.Hidden
import BlockIndexer.Text.Numeral
import BlockIndexer.Text.Quoted
import BlockIndexer.Text.Symbol
import BlockIndexer.Tip
import BlockIndexer.Word
import BlockIndexer.Yaml.BlockScalar
import BlockIndexer.Yaml.Character
import BlockIndexer.Yaml.Cursor
import BlockIndexer.Yaml.Folding
import BlockIndexer.Yaml.Node
import BlockIndexer.Yaml.Reader
import BlockIndexer.Yaml.Scalar
import BlockIndexer.Yaml.Tag
import BlockIndexer.Yaml.Token
import BlockIndexer.Yaml.Tree
import BlockIndexer.Proofs.Replay.Sequence
import BlockIndexer.Proofs.Replay.Resume
import BlockIndexer.Proofs.Replay.Redelivery
import BlockIndexer.Proofs.Store.Failures
import BlockIndexer.Proofs.Journal
import BlockIndexer.Proofs.Pipeline.Supervision
import BlockIndexer.Proofs.Pipeline.Outcome
import BlockIndexer.Proofs.Json.Token
import BlockIndexer.Proofs.Text.Utf8
import BlockIndexer.Proofs.Json.Grammar
import BlockIndexer.Proofs.Json.RoundTrip
import BlockIndexer.Proofs.Json.Decode
import BlockIndexer.Proofs.Block.RoundTrip
import BlockIndexer.Proofs.Block.Spelling
import BlockIndexer.Proofs.Block.Decoding
import BlockIndexer.Proofs.Feed.Framing
import BlockIndexer.Proofs.Rpc.Block
import BlockIndexer.Proofs.Text.Numeral
import BlockIndexer.Proofs.Rpc.Join
import BlockIndexer.Proofs.Rpc.Missing
import BlockIndexer.Proofs.Gap.Meanwhile
import BlockIndexer.Proofs.Store.Accounting
import BlockIndexer.Proofs.Row.Acceptance
import BlockIndexer.Proofs.Queue.History
import BlockIndexer.Proofs.Quantity
import BlockIndexer.Proofs.Rpc.Retry
import BlockIndexer.Proofs.Row.Restore
import BlockIndexer.Proofs.Replay.Report
import BlockIndexer.Proofs.Json.Canonical
import BlockIndexer.Proofs.Rpc.Envelope
import BlockIndexer.Proofs.Config.Layers
import BlockIndexer.Proofs.Timestamp
import BlockIndexer.Proofs.Gap.Tiling
import BlockIndexer.Proofs.Store.Query
import BlockIndexer.Proofs.Rpc.Height

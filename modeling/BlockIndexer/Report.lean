import BlockIndexer.Gap.Scan
import BlockIndexer.Replay

/-! The values that report what was done: outcomes of inserts, events of dispatches, totals of gap
scans and replays. -/

namespace BlockIndexer

open Json (Value)

def Outcome.toValue (o : Outcome) : Value := .object
  [("height", Json.nat o.height),
    ("block_inserted", .bool o.blockInserted),
    ("transactions_inserted", Json.nat o.transactionsInserted),
    ("transactions_skipped", Json.nat o.transactionsSkipped),
    ("logs_inserted", Json.nat o.logsInserted),
    ("logs_skipped", Json.nat o.logsSkipped)]

/-- An event under the name of its kind. -/
def DispatchEvent.toValue : DispatchEvent → Value
  | .indexed height outcome => .object
    [("Indexed", .object [("height", Json.nat height), ("outcome", outcome.toValue)])]
  | .alreadyIndexed height => .object [("AlreadyIndexed", .object [("height", Json.nat height)])]
  | .dropped height cause => .object
    [("Dropped", .object [("height", Json.nat height), ("reason", .string cause.message)])]
  | .undecodable sequence => .object
    [("Undecodable", .object [("sequence", Json.nat sequence)])]

def GapReport.toValue (report : GapReport) : Value := .object
  [("windows", Json.nat report.windows), ("enqueued", Json.nat report.enqueued)]

def ReplayReport.toValue (report : ReplayReport) : Value := .object
  [("resumed_at", Json.nat report.resumedAt),
    ("indexed", Json.nat report.indexed),
    ("already_indexed", Json.nat report.alreadyIndexed),
    ("dropped", Json.nat report.dropped),
    ("redelivered", Json.nat report.redelivered),
    ("last_sequence", Json.ofOption Json.nat report.lastSequence)]

end BlockIndexer

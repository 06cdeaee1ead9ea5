import BlockIndexer.Rpc.Client

/-! The height that a node reports as its latest. Only an integer counts that is not negative and
fits in a word; the node's `status` method reports it. -/

namespace BlockIndexer.Rpc

open Json (Document Value)

/-- The height of a value that a node reports. -/
def height? (v : Value) : Except Error Nat :=
  let malformed : Except Error Nat :=
    .error (.protocol ("node reported non-numeric height " ++ v.text))
  match v with
  | .number n =>
    match n.toInt? with
    | some i =>
      if UInt64.size ≤ i ∨ i < Int64.minValue.toInt then malformed
      else if i < 0 then .error (.protocol s!"node reported negative height {i}")
      else .ok i.toNat
    | none => malformed
  | _ => malformed

/-- What the latest height is given as, in the result of the `status` method. -/
def latestHeight? (d : Document) : Option Value := do
  let status ← d.fields? (.ofNames ["sync_info"] 1)
  let info ← status.required? "sync_info" (Document.fields? (.ofNames ["latest_block_height"] 1))
  info.required? "latest_block_height" (Document.value? Json.maxDepth)

def Client.height (c : Client) : Except Error Nat × Client :=
  match c.call "status" (.array []) latestHeight? with
  | (.error e, c) => (.error e.toError, c)
  | (.ok v, c) => (height? v, c)

end BlockIndexer.Rpc

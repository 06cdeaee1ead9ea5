import BlockIndexer.Config.Basic
import BlockIndexer.Rpc.Backoff
import BlockIndexer.Rpc.Node

/-! A client of a node. Each call has an id of its own, counted from 1. A request that gets no
response is sent again as it is, until the retries are used up; a fault is an answer and is not. -/

namespace BlockIndexer.Rpc

open Json (Document Value)

inductive CallError where
  | transport (failure : TransportFailure)
  | fault (fault : Fault)
  | decode (method : String)
  deriving Repr

/-- The error that a failed call leads to. -/
def CallError.toError : CallError → Error
  | .transport f => .rpc f.message
  | .fault f => .rpc f.text
  | .decode m => .decode m "unexpected result"

/-- The waiting times of a configuration double from one retry to the next. -/
def Backoff.ofConfig (config : RpcConfig) : Backoff :=
  ⟨config.maxRetries.toNat, config.initialBackoffMs, config.maxBackoffMs, 2⟩

structure Client where
  backoff : Backoff
  nextId : UInt64
  node : Node
  deriving Repr

namespace Client

def connect (backoff : Backoff) (node : Node) : Client := ⟨backoff, 1, node⟩

/-- Sends a request, for the `attempt`th time, and again until a response comes or the retries are
used up. -/
def exchange (backoff : Backoff) (request : Request) (attempt : Nat) (node : Node) :
    Except TransportFailure Response × Node :=
  match node.post request with
  | (.ok response, node) => (.ok response, node)
  | (.error failure, node) =>
    match _h : backoff.delay? attempt with
    | some _ => exchange backoff request (attempt + 1) node
    | none => (.error failure, node)
termination_by backoff.maxRetries + 1 - attempt
decreasing_by
  have := Backoff.le_maxRetries_of_delay? _h
  omega

def call (c : Client) (method : String) (params : Value) (read : Document → Option α) :
    Except CallError α × Client :=
  let (answer, node) := exchange c.backoff (.call c.nextId method params) 1 c.node
  let c := { c with nextId := c.nextId + 1, node }
  match answer with
  | .error failure => (.error (.transport failure), c)
  | .ok response =>
    match response.outcome with
    | .error fault => (.error (.fault fault), c)
    | .ok value =>
      match read value.document with
      | some a => (.ok a, c)
      | none => (.error (.decode method), c)

end Client

end BlockIndexer.Rpc

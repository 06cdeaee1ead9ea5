import BlockIndexer.Rpc.Envelope

/-! A node as its clients see it. A node that is within reach notes each request and answers it with
the next reply it has; without one, and from a node out of reach, no answer comes. -/

namespace BlockIndexer.Rpc

open Json (Value)

/-- What comes back on a request. Statuses have three digits; with any other one it is no answer. -/
structure Reply where
  status : Nat
  body : String
  deriving DecidableEq, Repr

structure Node where
  reachable : Bool
  /-- The replies still to come. -/
  replies : List Reply
  /-- The requests that have come in, the first one first. -/
  requests : List Request
  deriving Repr

/-- Why a request got no response. -/
inductive TransportFailure where
  | outOfReach
  | noAnswer
  | status (code : Nat) (body : String)
  | notAResponse
  deriving DecidableEq, Repr

def TransportFailure.message : TransportFailure → String
  | .outOfReach => "the node is out of reach"
  | .noAnswer => "the connection was closed without an answer"
  | .status code body => s!"HTTP {code}: {body}"
  | .notAResponse => "the answer is not a response"

namespace Reply

def isSuccess (r : Reply) : Bool := 200 ≤ r.status && r.status < 300

def isAnswer (r : Reply) : Bool := 100 ≤ r.status && r.status < 1000

def response (r : Reply) : Except TransportFailure Response :=
  if r.isSuccess then
    match Response.ofString? r.body with
    | some response => .ok response
    | none => .error .notAResponse
  else if r.isAnswer then .error (.status r.status r.body)
  else .error .noAnswer

end Reply

namespace Node

def scripted (reachable : Bool) (replies : List Reply) : Node := ⟨reachable, replies, []⟩

def post (node : Node) (request : Request) : Except TransportFailure Response × Node :=
  if node.reachable then
    let requests := node.requests ++ [request]
    match node.replies with
    | [] => (.error .noAnswer, { node with requests })
    | reply :: replies => (reply.response, { node with replies, requests })
  else (.error .outOfReach, node)

end Node

end BlockIndexer.Rpc

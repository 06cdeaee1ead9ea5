import BlockIndexer.Error
import BlockIndexer.Queue

/-! Following the tip of the chain. Each answer of the node puts the heights above the watermark
into the queue, lowest first, and raises the watermark; a tip below the watermark is an error. -/

namespace BlockIndexer

/-- How far the tip has been followed. -/
structure Follower where
  watermark : Nat
  deriving DecidableEq, Repr

/-- The heights above `low` up to `high`, lowest first. -/
def heightsAbove (low high : Nat) : List Nat := List.range' (low + 1) (high - low)

namespace Follower

/-- Takes the node's answer. The heights are those that were put into the queue. In 64 bits there is
no height after the greatest word: a watermark that is as high is outside of what this says. -/
def poll (f : Follower) (q : Queue) (answer : Except Error Nat) :
    Except Error (List Nat) × Follower × Queue :=
  match answer with
  | .error e => (.error e, f, q)
  | .ok current =>
    if current < f.watermark then (.error (.tipRegressed f.watermark current), f, q)
    else
      let heights := heightsAbove f.watermark current
      (.ok heights, ⟨current⟩, q.pushAll heights)

/-- Poll after poll, also after one that fails, and what each of them gives. -/
def pollAll (f : Follower) (q : Queue) :
    List (Except Error Nat) → List (Except Error (List Nat)) × Follower × Queue
  | [] => ([], f, q)
  | answer :: answers =>
    let (result, f, q) := f.poll q answer
    let (results, f, q) := pollAll f q answers
    (result :: results, f, q)

/-- Polls until one fails, and gives its error; without one it is still at it. -/
def run (f : Follower) (q : Queue) : List (Except Error Nat) → Option Error × Follower × Queue
  | [] => (none, f, q)
  | answer :: answers =>
    match f.poll q answer with
    | (.error e, f, q) => (some e, f, q)
    | (.ok _, f, q) => run f q answers

end Follower

/-- What comes of asking the node for its tip. -/
inductive TipAnswer where
  | height (h : Nat)
  | failed (e : Error)
  | crashed
  deriving DecidableEq, Repr

namespace TipAnswer

/-- The answer as the one who asks sees it: a crash ends its task. -/
def toExcept : TipAnswer → Except Error Nat
  | .height h => .ok h
  | .failed e => .error e
  | .crashed => .error (.taskFailed "tip follower")

/-- The answer to a question that no answer is left for. -/
def exhausted : TipAnswer := .failed (.rpc "script exhausted")

def next : List TipAnswer → TipAnswer × List TipAnswer
  | [] => (exhausted, [])
  | a :: as => (a, as)

end TipAnswer

end BlockIndexer

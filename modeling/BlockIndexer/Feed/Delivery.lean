/-! Deliveries of a durable log: payloads under sequence numbers. A log held in memory numbers what
is appended to it, and can be given deliveries under any number. -/

namespace BlockIndexer

structure Delivery where
  sequence : Nat
  payload : List UInt8
  deriving DecidableEq, Repr

/-- A log held in memory, the oldest delivery first. -/
structure MemoryFeed where
  deliveries : List Delivery
  deriving DecidableEq, Repr

namespace MemoryFeed

def empty : MemoryFeed := ⟨[]⟩

/-- The number after the last one, or 1 for the first. -/
def nextSequence (feed : MemoryFeed) : Nat := feed.deliveries.getLast?.elim 1 (·.sequence + 1)

def push (feed : MemoryFeed) (d : Delivery) : MemoryFeed := ⟨feed.deliveries ++ [d]⟩

def append (feed : MemoryFeed) (payload : List UInt8) : MemoryFeed :=
  feed.push ⟨feed.nextSequence, payload⟩

def size (feed : MemoryFeed) : Nat := feed.deliveries.length

def subscribe (feed : MemoryFeed) (start : Nat) : List Delivery :=
  feed.deliveries.filter (start ≤ ·.sequence)

end MemoryFeed

end BlockIndexer

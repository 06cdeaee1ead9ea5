/-! Waiting times between attempts. They grow by a factor from one retry to the next, up to a cap,
and end when the retries are used up. -/

namespace BlockIndexer.Rpc

/-- Times in milliseconds. -/
structure Backoff where
  maxRetries : Nat
  initial : UInt64
  cap : UInt64
  multiplier : Float
  deriving Repr

/-- The product of `r` and the `n`th power of `a`, by squaring. -/
def powerFrom (r a : Float) (n : Nat) : Float :=
  let r := if n % 2 = 1 then r * a else r
  if n < 2 then r else powerFrom r (a * a) (n / 2)
termination_by n

/-- A power with a whole exponent; a negative one gives the reciprocal. -/
def power (a : Float) (n : Int) : Float :=
  if n < 0 then 1 / powerFrom 1 a n.natAbs else powerFrom 1 a n.natAbs

/-- The lesser number, or the second one if the first is none. -/
def lesser (a b : Float) : Float := if a ≤ b then a else b

namespace Backoff

/-- The time before the retry after `attempt`, uncapped. Exponents are 32-bit words with a sign. -/
def growth (b : Backoff) (attempt : Nat) : Float :=
  b.initial.toFloat * power b.multiplier (Int.bmod ((attempt : Int) - 1) UInt32.size)

/-- The waiting time after the `attempt`th attempt, counted from 1, unless it was the last. -/
def delay? (b : Backoff) (attempt : Nat) : Option UInt64 :=
  if attempt = 0 ∨ b.maxRetries < attempt then none
  else some (lesser (b.growth attempt) b.cap.toFloat).toUInt64

theorem le_maxRetries_of_delay? {b : Backoff} {attempt : Nat} {ms : UInt64}
    (h : b.delay? attempt = some ms) : attempt ≤ b.maxRetries := by
  unfold delay? at h
  split at h
  next => simp at h
  next hn => omega

end Backoff

end BlockIndexer.Rpc

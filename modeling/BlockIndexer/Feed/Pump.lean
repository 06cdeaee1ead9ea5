import BlockIndexer.Feed.Lines

/-! Reading a log file that may still grow. A pump reads up to the next newline or to the end of
what is written, and keeps what it has of a line from one read to the next. At the end, one that
follows the file waits for more; any other takes what it has as the last line and closes. -/

namespace BlockIndexer.Feed

/-- The bytes up to the first newline, which is the last of them, or all if there is none; and the
bytes after them. -/
def readLine : List UInt8 → List UInt8 × List UInt8
  | [] => ([], [])
  | b :: bytes =>
    if b = newline then ([b], bytes)
    else
      let (read, rest) := readLine bytes
      (b :: read, rest)

theorem length_readLine (bytes : List UInt8) :
    (readLine bytes).1.length + (readLine bytes).2.length = bytes.length := by
  induction bytes with
  | nil => rfl
  | cons b bytes ih =>
    rw [readLine]
    split
    · rw [List.length_singleton, List.length_cons, Nat.add_comm]
    · rw [List.length_cons, List.length_cons, ← ih, Nat.add_right_comm]

structure Pump where
  follow : Bool
  start : Nat
  /-- The number of lines that it has taken. -/
  sequence : Nat
  /-- What it has read of the next line. -/
  line : List UInt8
  deriving DecidableEq, Repr

namespace Pump

def subscribe (follow : Bool) (start : Nat) : Pump := ⟨follow, start, 0, []⟩

/-- What a read leads to. -/
inductive Turn where
  | closes
  | waits (line : List UInt8)
  | takes (line rest : List UInt8)

/-- Reads once from what is unread. -/
def turn (p : Pump) (unread : List UInt8) : Turn :=
  let (read, rest) := readLine unread
  let line := p.line ++ read
  if read.isEmpty || line.getLast? != some newline then
    -- The end of the file, perhaps in the middle of a line that is still being written.
    if p.follow then .waits line
    else if line.isEmpty then .closes
    else .takes line rest
  else .takes line rest

/-- The pump after it has taken a line. -/
def next (p : Pump) : Pump := { p with sequence := p.sequence + 1, line := [] }

theorem eq_of_takes {p : Pump} {unread line rest : List UInt8}
    (h : p.turn unread = .takes line rest) :
    line = p.line ++ (readLine unread).1 ∧ rest = (readLine unread).2 ∧ line ≠ [] := by
  unfold turn at h
  dsimp only at h
  split at h
  · split at h
    · contradiction
    · split at h
      · contradiction
      next nonempty =>
        cases h
        exact ⟨rfl, rfl, fun nil => nonempty (List.isEmpty_iff.mpr nil)⟩
  next read =>
    cases h
    refine ⟨rfl, rfl, fun nil => read ?_⟩
    rw [(List.append_eq_nil_iff.mp nil).2]
    rfl

/-- With each line that is taken, less is left. -/
theorem length_of_takes {p : Pump} {unread line rest : List UInt8}
    (h : p.turn unread = .takes line rest) :
    rest.length + p.next.line.length < unread.length + p.line.length := by
  obtain ⟨rfl, rfl, nonempty⟩ := eq_of_takes h
  have length := length_readLine unread
  have positive := List.length_pos_iff.mpr nonempty
  rw [List.length_append] at positive
  simp only [next, List.length_nil]
  omega

/-- Reads until the pump waits or closes: what it delivers, and the pump if it waits. -/
def run (p : Pump) (unread : List UInt8) : List Delivery × Option Pump :=
  match _h : p.turn unread with
  | .closes => ([], none)
  | .waits line => ([], some { p with line })
  | .takes line rest =>
    let d : Delivery := ⟨p.next.sequence, line⟩
    let (ds, last) := run p.next rest
    (if isDelivered p.start d then d :: ds else ds, last)
termination_by unread.length + p.line.length
decreasing_by exact length_of_takes _h

/-- Reads each of the chunks when it is appended to the file: what is delivered after each, and the
pump after all of them if it waits. -/
def runChunks (p : Pump) : List (List UInt8) → List (List Delivery) × Option Pump
  | [] => ([], some p)
  | chunk :: chunks =>
    match p.run chunk with
    | (ds, none) => (ds :: chunks.map fun _ => [], none)
    | (ds, some p) =>
      let (more, last) := runChunks p chunks
      (ds :: more, last)

end Pump

end BlockIndexer.Feed

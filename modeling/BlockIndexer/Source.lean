import BlockIndexer.Block.Basic

/-! Sources of blocks. A scripted source has fixed answers for some heights, and for all others an
empty block or an error. -/

namespace BlockIndexer

/-- Where blocks come from: the answer for each height. -/
abbrev Source := Nat → Except Error Block

/-- Answers by height; the last one given for a height counts, and an error before a block. -/
structure ScriptedSource where
  blocks : List (Nat × Block)
  errors : List (Nat × Error)
  /-- The chain of the empty blocks for all other heights, if there are such. -/
  emptyChain : Option UInt64
  deriving Repr

namespace ScriptedSource

def fetch (s : ScriptedSource) : Source := fun height =>
  match s.errors.reverse.lookup height with
  | some e => .error e
  | none =>
    match s.blocks.reverse.lookup height with
    | some b => .ok b
    | none =>
      match s.emptyChain with
      | some chainId => .ok (.empty chainId (UInt64.ofNat height))
      | none => .error (.rpc s!"no block #{height}")

end ScriptedSource

end BlockIndexer

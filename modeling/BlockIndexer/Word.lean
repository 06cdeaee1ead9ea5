/-! Words: the numbers that a given number of bits can write. -/

namespace BlockIndexer

/-- The number can be written in so many bits. -/
abbrev FitsIn (bits n : Nat) : Prop := n < 1 <<< bits

end BlockIndexer

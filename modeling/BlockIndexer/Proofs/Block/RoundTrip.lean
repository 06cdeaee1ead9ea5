import BlockIndexer.Proofs.Block.Spelling
import BlockIndexer.Proofs.Json.RoundTrip

/-! Blocks are read back from the text that they are encoded as, which is one of the ways to write
them. -/

namespace BlockIndexer

open Json (Document Suits document)

namespace Block

theorem ofDocument?_document (b : Block) (fits : ∀ n ∈ b.sequence, FitsIn 64 n) :
    ofDocument? (document b.toValue) = some b :=
  b.spells_document.ofDocument? fits

theorem suits (b : Block) : Suits layout (document b.toValue) := b.spells_document.suits

/-- Every block is read back from its text, and from the bytes of its text, as it was written. -/
theorem round_trip (b : Block) (fits : ∀ n ∈ b.sequence, FitsIn 64 n) :
    ofString? b.toValue.text = some b ∧ ofBytes? (Text.utf8 b.toValue.text) = some b := by
  have text := Document.ofText?_text b.suits
  have bytes := Document.ofBytes?_utf8 b.suits
  constructor
  · rw [ofString?, text, Option.bind_some, ofDocument?_document b fits]
  · rw [ofBytes?, bytes, Option.bind_some, ofDocument?_document b fits]

theorem odd_block_round_trip :
    let near : ExistingBlock := ⟨"", "\"quoted\"", "é\\n"⟩
    let b : Block :=
      { Block.empty 1 (.ofNat (UInt64.size - 1)) with
        timestamp := -1
        gasLimit := ⟨"\x07 no number \n\u2028"⟩
        near := some (.existing near)
        sequence := some (UInt64.size - 1) }
    ofString? b.toValue.text = some b ∧ ofBytes? (Text.utf8 b.toValue.text) = some b := by
  intro near b
  have fits : ∀ n ∈ b.sequence, FitsIn 64 n := by
    rintro n ⟨⟩
    decide
  exact round_trip b fits

end Block

end BlockIndexer

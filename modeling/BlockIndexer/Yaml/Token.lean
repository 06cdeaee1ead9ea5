import BlockIndexer.Yaml.Node

/-! The tokens of YAML text: the marks that are written, the scalars between them, and the starts
and ends of block collections, which are written as indentation. -/

namespace BlockIndexer.Yaml

inductive Token where
  | version (major minor : Nat)
  /-- From here on, a handle stands for the start of tags. -/
  | handle (name : String) (start : Tag)
  | documentStart
  | documentEnd
  | textEnd
  | blockSequence
  | blockMapping
  | blockEnd
  | flowSequence
  | flowSequenceEnd
  | flowMapping
  | flowMappingEnd
  | item
  | comma
  | key
  | value
  | reference (name : String)
  | anchor (name : String)
  /-- A tag after its handle; one without a handle is complete. -/
  | tag (handle : Option String) (rest : Tag)
  | scalar (text : String) (style : Style)
  deriving DecidableEq, Repr

end BlockIndexer.Yaml

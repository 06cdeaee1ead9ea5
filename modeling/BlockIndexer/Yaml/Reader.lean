import BlockIndexer.Yaml.Cursor
import BlockIndexer.Yaml.Tree

/-! Text to YAML documents. -/

namespace BlockIndexer.Yaml

def Document.ofString? (s : String) : Option Document :=
  if s.toList.all isAllowed then (Cursor.ofText s.toList).tokens?.bind ofTokens? else none

end BlockIndexer.Yaml

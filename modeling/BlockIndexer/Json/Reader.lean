import BlockIndexer.Json.Layout
import BlockIndexer.Json.Surplus

/-! Text to documents. The reader keeps the containers it is inside of on a list, innermost first,
and each token takes it from one state to the next, so documents may nest without limit. The layout
of the document goes along, because a run of bytes of known length ends by its length: once it is
full, one value that is no byte may still follow, and is passed over. -/

namespace BlockIndexer.Json

open BlockIndexer.Text

/-- A container whose end has not been read, with what is read of it, the last part first. -/
inductive Container where
  | array (more : Items) (items : List Document)
  | object (layout : Layout) (members : List (Option String × Document)) (key : Option String)
  deriving Repr

/-- What the reader expects next, inside the containers `within`. -/
inductive Reading where
  | value (layout : Layout) (within : List Container)
  | firstItem (items : Items) (within : List Container)
  | firstMember (layout : Layout) (within : List Container)
  | member (layout : Layout) (members : List (Option String × Document)) (within : List Container)
  | colon (layout : Layout) (members : List (Option String × Document)) (key : Option String)
      (within : List Container)
  | after (document : Document) (within : List Container)
  deriving Repr

namespace Reading

/-- A token where a value must start. -/
def start (layout : Layout) (within : List Container) : Token → Option Reading
  | .beginArray => some (.firstItem layout.items within)
  | .beginObject => some (.firstMember layout within)
  | .null => some (.after .null within)
  | .bool b => some (.after (.bool b) within)
  | .number n => some (.after (.number n) within)
  | .string s => some (.after (.string s) within)
  | .endArray | .endObject | .comma | .colon => none

def step : Reading → Token → Option Reading
  | .value layout within, t => start layout within t
  | .firstItem _ within, .endArray => some (.after (.array []) within)
  | .firstItem items within, t => start items.next (.array items.afterNext [] :: within) t
  | .firstMember _ within, .endObject => some (.after (.object []) within)
  | .firstMember layout within, .string k => some (.colon layout [] k within)
  | .member layout members within, .string k => some (.colon layout members k within)
  | .colon layout members k within, .colon =>
    some (.value (layout.member k) (.object layout members k :: within))
  | .after d (.array more items :: within), .comma =>
    some (.value more.next (.array more.afterNext (d :: items) :: within))
  | .after d (.array _ items :: within), .endArray =>
    some (.after (.array (d :: items).reverse) within)
  | .after d (.object layout members k :: within), .comma =>
    some (.member layout ((k, d) :: members) within)
  | .after d (.object _ members k :: within), .endObject =>
    some (.after (.object ((k, d) :: members).reverse) within)
  | _, _ => none

/-- The document, when nothing but its end may follow. -/
def result? : Reading → Option Document
  | .after d [] => some d
  | _ => none

/-- The state after a full run of bytes whose bracket has been passed. -/
def closeRun? : Reading → Option Reading
  | .after d (.array (.bytes 0) items :: within) =>
    some (.after (.array (d :: items).reverse) within)
  | _ => none

/-- The state after the next part of the text, and what follows that part: the rest of a full run
if a comma stands here, and a token otherwise. -/
def next? (r : Reading) (cs : List Symbol) : Option (Reading × List Symbol) :=
  match cs, r.closeRun? with
  | .char ',' :: rest, some closed => (Surplus.close? rest).map (closed, ·)
  | cs, _ => (Token.next? cs).bind fun (t, rest) => (r.step t).map (·, rest)

theorem length_of_next? {r r' : Reading} {cs rest : List Symbol}
    (h : r.next? cs = some (r', rest)) : rest.length < cs.length := by
  unfold next? at h
  split at h
  next =>
    obtain ⟨rest', hc, he⟩ := Option.map_eq_some_iff.1 h
    have := Surplus.length_of_close? hc
    rw [← (Prod.mk.inj he).2, List.length_cons]
    omega
  next =>
    obtain ⟨⟨t, rest'⟩, ht, h⟩ := Option.bind_eq_some_iff.1 h
    obtain ⟨r'', _, he⟩ := Option.map_eq_some_iff.1 h
    rw [← (Prod.mk.inj he).2]
    exact Token.length_of_next? ht

/-- The document that a text goes on to write. -/
def run (r : Reading) : List Symbol → Option Document
  | [] => r.result?
  | s :: rest =>
    if isSpace s then run r rest
    else match _h : r.next? (s :: rest) with
      | some (r', rest') => run r' rest'
      | none => none
termination_by cs => cs.length
decreasing_by
  · simp
  · exact length_of_next? _h

end Reading

namespace Document

def ofSymbols? (layout : Layout) (cs : List Symbol) : Option Document :=
  (Reading.value layout []).run cs

/-- The document with a layout that a text writes. -/
def ofText? (layout : Layout) (s : String) : Option Document :=
  ofSymbols? layout (Symbol.ofString s)

def ofBytes? (layout : Layout) (bytes : List UInt8) : Option Document :=
  ofSymbols? layout (Symbol.ofBytes bytes)

def ofString? (s : String) : Option Document := ofText? .free s

end Document

end BlockIndexer.Json

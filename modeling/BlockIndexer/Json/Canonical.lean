import BlockIndexer.Json.Printer
import BlockIndexer.Json.Reader

/-! Values of documents. An object's members stand in the order of their keys, each key once, and
the last member of a key counts. A value nests no deeper than its reader allows. An object whose
first key is the one set apart for it stands for a number. -/

namespace BlockIndexer.Json

/-- The depth of nesting that a document read into a value may have. -/
def maxDepth : Nat := 127

/-- Members in order of their keys with one more; it takes the place of one with its key. -/
def putMember (k : String) (v : Value) : List (String × Value) → List (String × Value)
  | [] => [(k, v)]
  | (k', v') :: ms =>
    if k < k' then (k, v) :: (k', v') :: ms
    else if k = k' then (k, v) :: ms
    else (k', v') :: putMember k v ms

def sortMembers (ms : List (String × Value)) : List (String × Value) :=
  ms.foldl (fun sorted m => putMember m.1 m.2 sorted) []

/-- The key that is set apart for objects that stand for numbers. -/
def numberKey : String := "$serde_json::private::Number"

namespace Document

/-- Whether the members of an object say by their first key that it stands for a number. -/
def isTagged : List (Option String × Document) → Bool
  | (some key, _) :: _ => key == numberKey
  | _ => false

/-- The number that the members of such an object write: a text under the key and nothing else. -/
def taggedNumber? : List (Option String × Document) → Option Number
  | [(_, .string (some s))] => Number.ofString? s
  | _ => none

mutual

/-- The value of a document with at most `levels` levels and no unreadable text. -/
def value? (levels : Nat) : Document → Option Value
  | .null => some .null
  | .bool b => some (.bool b)
  | .number n => some (.number n)
  | .string s => s.map .string
  | .array items =>
    if levels = 0 then none else (values? (levels - 1) items).map .array
  | .object members =>
    if levels = 0 then none
    else if isTagged members then (taggedNumber? members).map .number
    else (namedValues? (levels - 1) members).map fun ms => .object (sortMembers ms)

def values? (levels : Nat) : List Document → Option (List Value)
  | [] => some []
  | d :: ds => (value? levels d).bind fun v => (values? levels ds).map (v :: ·)

def namedValues? (levels : Nat) :
    List (Option String × Document) → Option (List (String × Value))
  | [] => some []
  | (k, d) :: ms =>
    k.bind fun k => (value? levels d).bind fun v => (namedValues? levels ms).map ((k, v) :: ·)

end

end Document

mutual

def document : Value → Document
  | .null => .null
  | .bool b => .bool b
  | .number n => .number n
  | .string s => .string (some s)
  | .array items => .array (documents items)
  | .object members => .object (namedDocuments members)

def documents : List Value → List Document
  | [] => []
  | v :: vs => document v :: documents vs

def namedDocuments : List (String × Value) → List (Option String × Document)
  | [] => []
  | (k, v) :: ms => (some k, document v) :: namedDocuments ms

end

def ofString? (s : String) : Option Value :=
  (Document.ofString? s).bind (Document.value? maxDepth)

end BlockIndexer.Json

import BlockIndexer.Json.Decode

/-! The envelopes of JSON-RPC: requests, responses and the faults they may carry. Ids that are not
unsigned words are kept as text, and what is null in an optional place counts as absent. -/

namespace BlockIndexer.Rpc

open Json (Document Value)

inductive Id where
  | number (n : UInt64)
  | string (s : String)
  | null
  deriving DecidableEq, Repr

structure Request where
  version : String
  method : String
  params : Value
  id : Id
  deriving Repr

structure Fault where
  code : Int64
  message : String
  data : Option Value
  deriving Repr

structure Response where
  version : String
  id : Id
  result : Option Value
  fault : Option Fault
  deriving Repr

/-- The levels that a value in an envelope may nest. -/
def valueDepth : Nat := Json.maxDepth - 1

namespace Id

/-- The id of a number: itself if it is an unsigned word, else its text. -/
def ofNumber (n : Json.Number) : Id :=
  match (n.plainInt?.bind Int.toNat?).filter (FitsIn 64 ·) with
  | some i => .number (UInt64.ofNat i)
  | none => .string n.text

def ofValue? : Value → Option Id
  | .number n => some (ofNumber n)
  | .string s => some (.string s)
  | .null => some .null
  | _ => none

def ofDocument? (d : Document) : Option Id := (d.value? valueDepth).bind ofValue?

def toValue : Id → Value
  | .number n => Json.nat n.toNat
  | .string s => .string s
  | .null => .null

def text : Id → String
  | .number n => n.toNat.repr
  | .string s => s
  | .null => "null"

end Id

/-- A value in an optional place. -/
def optionalValue? (levels : Nat) (d : Document) : Option (Option Value) :=
  d.nullable? (Document.value? levels)

namespace Fault

def shape : Shape := .ofNames ["code", "message", "data"] 2

/-- The fault at a depth that leaves `levels` levels for its data. -/
def ofDocument? (levels : Nat) (d : Document) : Option Fault := do
  let fields ← d.fields? shape
  return {
    code := ← fields.required? "code" Document.int64?
    message := ← fields.required? "message" Document.string?
    data := ← fields.orElse? "data" none (optionalValue? levels) }

def toValue (f : Fault) : Value := .object <|
  [("code", Json.int f.code.toInt), ("message", .string f.message)]
    ++ (f.data.map fun data => ("data", data)).toList

def text (f : Fault) : String := s!"JSON-RPC error {f.code.toInt}: {f.message}"

/-- Whether `needle` stands somewhere in `cs`. -/
def occurs (needle : List Char) : List Char → Bool
  | [] => needle.isEmpty
  | c :: cs => needle.isPrefixOf (c :: cs) || occurs needle cs

/-- Whether the message, or the text of the data, holds `needle`. -/
def mentions (f : Fault) (needle : String) : Bool :=
  occurs needle.toList f.message.toList || f.data.any fun data => occurs needle.toList data.chars

end Fault

namespace Request

def shape : Shape := .ofNames ["jsonrpc", "method", "params", "id"] 4

def ofDocument? (d : Document) : Option Request := do
  let fields ← d.fields? shape
  return {
    version := ← fields.required? "jsonrpc" Document.string?
    method := ← fields.required? "method" Document.string?
    params := ← fields.required? "params" (Document.value? valueDepth)
    id := ← fields.required? "id" Id.ofDocument? }

def toValue (r : Request) : Value := .object
  [("jsonrpc", .string r.version), ("method", .string r.method), ("params", r.params),
    ("id", r.id.toValue)]

def call (id : UInt64) (method : String) (params : Value) : Request :=
  ⟨"2.0", method, params, .number id⟩

end Request

namespace Response

def shape : Shape := .ofNames ["jsonrpc", "id", "result", "error"] 2

def ofDocument? (d : Document) : Option Response := do
  let fields ← d.fields? shape
  return {
    version := ← fields.required? "jsonrpc" Document.string?
    id := ← fields.required? "id" Id.ofDocument?
    result := ← fields.orElse? "result" none (optionalValue? valueDepth)
    fault := ←
      fields.orElse? "error" none (Document.nullable? (Fault.ofDocument? (valueDepth - 1))) }

def ofString? (s : String) : Option Response := (Document.ofString? s).bind ofDocument?

def toValue (r : Response) : Value := .object <|
  [("jsonrpc", .string r.version), ("id", r.id.toValue)]
    ++ (r.result.map fun result => ("result", result)).toList
    ++ (r.fault.map fun fault => ("error", fault.toValue)).toList

/-- The fault, or the result, which is null when there is none. -/
def outcome (r : Response) : Except Fault Value :=
  match r.fault with
  | some fault => .error fault
  | none => .ok (r.result.getD .null)

end Response

end BlockIndexer.Rpc

import BlockIndexer.Config.Decode
import BlockIndexer.Yaml.Reader
import BlockIndexer.Text.Blank

/-! Configurations kept as YAML, and the overrides that come on top of them. A plain scalar is read
by what is asked for. A tag after one exclamation mark names one of several choices; of the usual
tags, those of null, of integers and of truth values are heeded. -/

namespace BlockIndexer

namespace Yaml

/-- A node and the document that it is part of. -/
structure Element where
  document : Document
  node : Yaml
  deriving Repr

def isNullWord (text : String) : Bool := ["~", "null", "Null", "NULL"].contains text

namespace Scalar

/-- Whether the scalar may be a value of the kind that a usual tag has: a plain one may always. -/
def mayBe (kind : String) (s : Scalar) : Bool :=
  s.style = .plain || (s.style = .literal && s.tag = some (usualTag kind))

/-- The number that a text writes: decimal without needless zeros, or of another base after its
marker, with a plus sign or without. -/
def natOf? (cs : List Char) : Option Nat :=
  let digits := match cs with
    | '+' :: rest => rest
    | _ => cs
  match digits with
  | '0' :: 'x' :: rest => ofDigits? 16 rest
  | '0' :: 'o' :: rest => ofDigits? 8 rest
  | '0' :: 'b' :: rest => ofDigits? 2 rest
  | '0' :: _ :: _ => none
  | _ => ofDigits? 10 digits
where
  ofDigits? (base : Nat) (cs : List Char) : Option Nat :=
    if cs.isEmpty || cs.contains '_' then none else Text.natOfDigits? base cs 0

def nat? (s : Scalar) : Option Nat := if s.mayBe "int" then natOf? s.text.toList else none

def flag? (s : Scalar) : Option Bool :=
  if !s.mayBe "bool" then none
  else if ["true", "True", "TRUE"].contains s.text then some true
  else if ["false", "False", "FALSE"].contains s.text then some false
  else none

/-- The text, or none for null. A plain scalar with the tag of null must be null. -/
def optionalText? (s : Scalar) : Option (Option String) :=
  if s.style ≠ .plain then some (some s.text)
  else match s.tag with
    | none => some (if s.text = "" || isNullWord s.text then none else some s.text)
    | some tag =>
      if tag ≠ usualTag "null" then some (some s.text)
      else if isNullWord s.text then some none
      else none

/-- The choice that the tag of the scalar names. -/
def tagged? (s : Scalar) : Option String :=
  match s.tag with
  | some (.char '!' :: name) =>
    if name.isEmpty then some "!" else (name.mapM Text.Symbol.char?).map String.ofList
  | _ => none

/-- The choice that the scalar names, by its tag and then with nothing or null behind it, or by its
text. -/
def choice? (s : Scalar) : Option String :=
  match s.tagged? with
  | some name =>
    if s.style = .plain && (s.text = "" || isNullWord s.text) then some name else none
  | none => some s.text

def isNothing (s : Scalar) : Bool := s.style = .plain && s.text = ""

end Scalar

namespace Element

def scalar? (e : Element) : Option Scalar :=
  match e.document.resolve e.node with
  | .scalar s => some s
  | _ => none

/-- The fields of a mapping; what is written as nothing has none. -/
def fields? (shape : Shape) (e : Element) : Option (Fields Element) :=
  match e.document.resolve e.node with
  | .mapping entries =>
    let named := entries.mapM fun (key, value) =>
      (scalar? ⟨e.document, key⟩).map fun (s : Scalar) =>
        (s.text, (⟨e.document, value⟩ : Element))
    named.bind shape.named?
  | .scalar s => if s.isNothing then some [] else none
  | _ => none

instance : ConfigDocument Element where
  fields? := fields?
  nat? e := e.scalar?.bind Scalar.nat?
  optionalText? e := e.scalar?.bind Scalar.optionalText?
  flag? e := e.scalar?.bind Scalar.flag?
  choice? e := e.scalar?.bind Scalar.choice?

end Element

def Document.element (d : Document) : Element := ⟨d, d.root⟩

end Yaml

/-- What the command line gives in place of the file. -/
structure Overrides where
  database : Option String
  endpoint : Option String
  deriving DecidableEq, Repr

namespace IndexerConfig

/-- The configuration that a YAML text writes; a blank text writes the usual one. -/
def ofYaml? (s : String) : Option IndexerConfig :=
  if (Text.trim s.toList).isEmpty then some default
  else (Yaml.Document.ofString? s).bind fun d => ofDocument? d.element

def override (c : IndexerConfig) (o : Overrides) : IndexerConfig :=
  { c with
    databaseUrl := o.database <|> c.databaseUrl
    endpointUrl := o.endpoint <|> c.endpointUrl }

/-- Where the text of a configuration comes from. -/
inductive Origin where
  | none
  | unreadable
  | text (s : String)
  deriving DecidableEq, Repr

/-- What the errors say of a file: where it is, why the system cannot read it, and what the reader
of YAML finds wrong with its text. -/
structure FileReport where
  path : String := "config/local.yaml"
  unreadable : String := "no such file"
  malformed : String → String := fun _ => "no configuration"

/-- The configuration of a text, if there is one, with the overrides on top. -/
def load (origin : Origin) (o : Overrides) (file : FileReport := {}) :
    Except Error IndexerConfig :=
  match origin with
  | .none => .ok (default.override o)
  | .unreadable => .error (.config s!"cannot read {file.path}: {file.unreadable}")
  | .text s =>
    match ofYaml? s with
    | some c => .ok (c.override o)
    | Option.none => .error (.config s!"{file.path}: {file.malformed s}")

end IndexerConfig

end BlockIndexer

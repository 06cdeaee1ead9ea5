import BlockIndexer.Yaml.Token

/-! Tokens to trees. The collections whose ends have not been read are kept on a list, innermost
first. Before a token is taken, what it shows to be missing is filled in: a node that is not written
is an empty plain scalar, and a sequence whose items stand no deeper than their key ends where no
item follows. -/

namespace BlockIndexer.Yaml

/-- A collection whose end has not been read, with what is read of it, the last part first. -/
inductive Part where
  | items (before : List Yaml)
  /-- Items that stand no deeper than the key before them. -/
  | looseItems (before : List Yaml)
  | entries (before : List (Yaml × Yaml))
  | value (before : List (Yaml × Yaml)) (key : Yaml)
  | flowItems (before : List Yaml)
  /-- An item that is a mapping with one entry and no braces. -/
  | pair (before : List Yaml)
  | pairValue (before : List Yaml) (key : Yaml)
  /-- Entries between braces; what follows without the mark of a key has no value. -/
  | flowEntries (before : List (Yaml × Yaml))
  | flowKey (before : List (Yaml × Yaml))
  | flowValue (before : List (Yaml × Yaml)) (key : Yaml)
  deriving Repr

structure Collection where
  part : Part
  /-- How many nodes with names start before it, if it has a name. -/
  rank : Option Nat
  deriving Repr

structure Properties where
  anchor : Option String
  tag : Option Tag
  deriving DecidableEq, Repr

def Properties.none : Properties := ⟨.none, .none⟩

def Properties.isNone (p : Properties) : Bool := p.anchor.isNone && p.tag.isNone

/-- What the next token belongs to. -/
inductive Place where
  | start
  | directives (hasVersion : Bool)
  /-- Right behind the mark that starts the document. -/
  | content
  /-- A node starts, after what stands before it. -/
  | node (properties : Properties)
  | between
  | finished (root : Yaml)
  deriving Repr

/-- A document as far as its tokens have been read. -/
structure Tree where
  place : Place
  collections : List Collection
  /-- What the handles of tags stand for. -/
  handles : List (String × Tag)
  /-- The names of nodes and the numbers they stand for, the node that starts last first. -/
  numbers : List (String × Nat)
  /-- The nodes with names whose ends have been read, by their ranks. -/
  named : List (Nat × Yaml)
  deriving Repr

namespace Tree

def start : Tree := ⟨.start, [], [], [], []⟩

/-- What a handle stands for, also where no directive says it. -/
def handle? (t : Tree) (name : String) : Option Tag :=
  (t.handles ++ [("!", [.char '!']), ("!!", usualTag "")]).lookup name

def put (node : Yaml) (t : Tree) : Tree :=
  match t.collections with
  | [] => { t with place := .finished node }
  | c :: rest =>
    let part := match c.part with
      | .items before => .items (node :: before)
      | .looseItems before => .looseItems (node :: before)
      | .entries before => .value before node
      | .value before key => .entries ((key, node) :: before)
      | .flowItems before => .flowItems (node :: before)
      | .pair before => .pairValue before node
      | .pairValue before key => .flowItems (.mapping [(key, node)] :: before)
      | .flowEntries before => .flowEntries ((node, nothing) :: before)
      | .flowKey before => .flowValue before node
      | .flowValue before key => .flowEntries ((key, node) :: before)
    { t with place := .between, collections := { c with part } :: rest }

/-- The number that the next name stands for: how many different names there are before it. -/
def nextNumber (t : Tree) : Nat := (t.numbers.map (·.1)).eraseDups.length

/-- The rank of the node that starts here, and its name among the others, if it has one. -/
def nameNode (p : Properties) (t : Tree) : Option Nat × Tree :=
  match p.anchor with
  | some name =>
    (some t.numbers.length, { t with numbers := (name, t.nextNumber) :: t.numbers })
  | none => (none, t)

def keep (rank : Option Nat) (node : Yaml) (t : Tree) : Tree :=
  { t with named := (rank.map (·, node)).toList ++ t.named }

/-- The nodes by the numbers of their names, the one that starts last first. A name that was given
before leaves its number to the next one, and then both stand for the later node. -/
def referents (t : Tree) : List (Nat × Yaml) :=
  t.numbers.zipIdx.filterMap fun ((_, number), later) =>
    (t.named.lookup (t.numbers.length - 1 - later)).map (number, ·)

def putScalar (s : Scalar) (p : Properties) (t : Tree) : Tree :=
  let (rank, t) := t.nameNode p
  (t.keep rank (.scalar s)).put (.scalar s)

def enter (part : Part) (place : Place) (p : Properties) (t : Tree) : Tree :=
  let (rank, t) := t.nameNode p
  { t with place, collections := ⟨part, rank⟩ :: t.collections }

def close (node : Yaml) (t : Tree) : Tree :=
  let rank := t.collections.head?.bind (·.rank)
  ({ t with collections := t.collections.tail }.keep rank node).put node

/-- Goes on inside the innermost collection. -/
def goOn (part : Part) (place : Place) (t : Tree) : Tree :=
  match t.collections with
  | c :: rest => { t with place, collections := { c with part } :: rest }
  | [] => t

def part? (t : Tree) : Option Part := t.collections.head?.map (·.part)

/-! ### What a token shows to be missing -/

/-- Whether the token stands where the node of a part would, and is none. -/
def isMissing : Option Part → Token → Bool
  | some (.items _), .item | some (.items _), .blockEnd => true
  | some (.looseItems _), .item | some (.looseItems _), .key | some (.looseItems _), .value
  | some (.looseItems _), .blockEnd => true
  | some (.entries _), .key | some (.entries _), .value | some (.entries _), .blockEnd => true
  | some (.value ..), .key | some (.value ..), .value | some (.value ..), .blockEnd => true
  | some (.pairValue ..), .comma | some (.pairValue ..), .flowSequenceEnd => true
  | some (.flowKey _), .value | some (.flowKey _), .comma
  | some (.flowKey _), .flowMappingEnd => true
  | some (.flowValue ..), .comma | some (.flowValue ..), .flowMappingEnd => true
  | _, _ => false

/-- Whether loose items may stand where the node of a part would. -/
def takesLooseItems : Option Part → Bool
  | some (.entries _) | some (.value ..) => true
  | _ => false

/-- Whether the node goes on with this token after what stands before it. -/
def goesOn (p : Properties) (part : Option Part) : Token → Bool
  | .scalar .. | .flowSequence | .flowMapping | .blockSequence | .blockMapping => true
  | .item => takesLooseItems part
  | .anchor _ => p.anchor.isNone
  | .tag .. => p.tag.isNone
  | _ => false

/-- Fills in a node that is not written. -/
def fillNode (token : Token) (t : Tree) : Tree :=
  match t.place, token with
  | .start, .version .. | .start, .handle .. | .start, .documentStart | .start, .textEnd => t
  | .start, _ => { t with place := .node .none }
  | .content, .version .. | .content, .handle .. | .content, .documentStart
  | .content, .documentEnd | .content, .textEnd => t.put nothing
  | .content, _ => { t with place := .node .none }
  | .node p, _ =>
    if p.isNone then if isMissing t.part? token then t.put nothing else t
    else if goesOn p t.part? token then t
    else t.putScalar ⟨"", .plain, p.tag⟩ p
  | _, _ => t

/-- Ends loose items where no item follows. -/
def endLooseItems (token : Token) (t : Tree) : Tree :=
  match t.place, t.part?, token with
  | .between, some (.looseItems _), .item => t
  | .between, some (.looseItems before), _ => t.close (.sequence before.reverse)
  | _, _, _ => t

/-- Fills in a value that is not written. -/
def fillValue (token : Token) (t : Tree) : Tree :=
  match t.place, t.part?, token with
  | .between, _, .value => t
  | .between, some (.value ..), _ | .between, some (.pairValue ..), _
  | .between, some (.flowValue ..), _ => t.put nothing
  | _, _, _ => t

/-! ### Tokens -/

def takeDirective? (hasVersion : Bool) (t : Tree) : Token → Option Tree
  | .version major minor =>
    if !hasVersion && major = 1 && (minor = 1 || minor = 2) then
      some { t with place := .directives true }
    else none
  | .handle name start =>
    if (t.handles.lookup name).isSome then none
    else some { t with place := .directives hasVersion, handles := (name, start) :: t.handles }
  | .documentStart => some { t with place := .content }
  | _ => none

def takeNode? (p : Properties) (t : Tree) : Token → Option Tree
  | .scalar text style => some (t.putScalar ⟨text, style, p.tag⟩ p)
  | .flowSequence => some (t.enter (.flowItems []) (.node .none) p)
  | .flowMapping => some (t.enter (.flowEntries []) (.node .none) p)
  | .blockSequence => some (t.enter (.items []) .between p)
  | .blockMapping => some (t.enter (.entries []) .between p)
  | .item =>
    if takesLooseItems t.part? then some (t.enter (.looseItems []) (.node .none) p) else none
  | .anchor name => some { t with place := .node { p with anchor := some name } }
  | .tag none tag => some { t with place := .node { p with tag := some tag } }
  | .tag (some handle) rest =>
    (t.handle? handle).map fun start =>
      { t with place := .node { p with tag := some (start ++ rest) } }
  | _ => none

def takeStart? (t : Tree) (token : Token) : Option Tree :=
  match t.part?, token with
  | some (.flowItems before), .flowSequenceEnd => some (t.close (.sequence before.reverse))
  | some (.flowItems before), .key => some (t.goOn (.pair before) (.node .none))
  | some (.pair _), .value | some (.pair _), .comma | some (.pair _), .flowSequenceEnd =>
    some (t.put nothing)
  | some (.flowEntries before), .flowMappingEnd => some (t.close (.mapping before.reverse))
  | some (.flowEntries before), .key => some (t.goOn (.flowKey before) (.node .none))
  | _, .reference name => (t.numbers.lookup name).map fun number => t.put (.reference number)
  | _, token => t.takeNode? .none token

def takeBetween? (t : Tree) (token : Token) : Option Tree :=
  match t.part?, token with
  | some (.items before), .blockEnd => some (t.close (.sequence before.reverse))
  | some (.entries before), .blockEnd => some (t.close (.mapping before.reverse))
  | some (.flowItems before), .flowSequenceEnd => some (t.close (.sequence before.reverse))
  | some (.flowEntries before), .flowMappingEnd => some (t.close (.mapping before.reverse))
  | some (.items _), .item | some (.looseItems _), .item | some (.entries _), .key
  | some (.value ..), .value | some (.flowItems _), .comma | some (.pairValue ..), .value
  | some (.flowEntries _), .comma | some (.flowValue ..), .value =>
    some { t with place := .node .none }
  | _, _ => none

def take? (t : Tree) (token : Token) : Option Tree :=
  match t.place, token with
  | .start, .textEnd => some { t with place := .finished nothing }
  | .start, token => t.takeDirective? false token
  | .directives hasVersion, token => t.takeDirective? hasVersion token
  | .content, _ => none
  | .node p, token => if p.isNone then t.takeStart? token else t.takeNode? p token
  | .between, token => t.takeBetween? token
  | .finished _, .documentEnd | .finished _, .textEnd => some t
  | .finished _, _ => none

def step? (t : Tree) (token : Token) : Option Tree :=
  take? (fillValue token (endLooseItems token (fillNode token t))) token

end Tree

/-- The document that tokens write. There is at most one; without any, nothing is written. -/
def Document.ofTokens? (tokens : List Token) : Option Document :=
  (tokens.foldlM Tree.step? .start).bind fun t =>
    match t.place with
    | .finished root => some ⟨root, t.referents⟩
    | _ => none

end BlockIndexer.Yaml

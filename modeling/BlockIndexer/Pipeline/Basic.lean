import BlockIndexer.Dispatch
import BlockIndexer.Gap.Scan
import BlockIndexer.Pipeline.Supervision
import BlockIndexer.Tip

/-! A pipeline between two steps. The follower and the scanner put heights into the queue, starting
from one tip, and a consumer takes them out. Each function here is one step of one of the three;
in which order the steps come is left open. -/

namespace BlockIndexer

structure Pipeline where
  db : Database
  scanner : GapScanner
  follower : Follower
  /-- The windows that the scanner has still to look at. -/
  windows : ScanWindows
  queue : Queue
  deriving Repr

namespace Pipeline

/-- What a step of a producer leads to. -/
inductive Step where
  | goesOn (p : Pipeline)
  | ends (how : TaskEnd)
  deriving Repr

/-- A pipeline that starts at a tip: the follower goes up from there, the scanner down. -/
def start (db : Database) (scanner : GapScanner) (tip : Nat) : Pipeline where
  db
  scanner
  follower := ⟨tip⟩
  windows := scanner.windows tip
  queue := .empty

/-- The follower takes an answer of the node. The first poll that fails ends its task. -/
def poll (p : Pipeline) (answer : TipAnswer) : Step :=
  if answer = .crashed then .ends .crashed
  else match p.follower.poll p.queue answer.toExcept with
  | (.error e, _, _) => .ends (.failed e)
  | (.ok _, follower, queue) => .goesOn { p with follower, queue }

/-- The scanner looks at the next window. Without one its task is done. -/
def scan (p : Pipeline) : Step :=
  match p.windows.next? with
  | none => .ends .done
  | some (window, windows) =>
    match p.scanner.scanWindow p.db p.queue window with
    | (.error e, _) => .ends (.failed e)
    | (.ok _, queue) => .goesOn { p with windows, queue }

/-- The consumer dispatches the highest height. -/
def dispatch (p : Pipeline) (source : Source) : Option (DispatchEvent × Pipeline) :=
  (p.db.dispatchNext? source p.queue).map fun (event, db, queue) =>
    (event, { p with db, queue })

def take (p : Pipeline) : Option (Nat × Pipeline) :=
  p.queue.pop?.map fun (height, queue) => (height, { p with queue })

end Pipeline

end BlockIndexer

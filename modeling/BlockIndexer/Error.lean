import BlockIndexer.Text.Quoted

/-! The causes for which indexing fails, their wording, and the exit status each leads to. -/

namespace BlockIndexer

inductive Error where
  | config (reason : String)
  | rpc (reason : String)
  | protocol (reason : String)
  | tipRegressed (previous current : Nat)
  | decode (context reason : String)
  | storage (reason : String)
  | numeric (field literal : String)
  | aborted (reason : String)
  | other (reason : String)
  deriving DecidableEq, Repr

/-- Who has to act on a failure. -/
inductive FailureClass where
  | config
  | connectivity
  | protocol
  | software
  deriving DecidableEq, Repr

/-- The exit status of a process that ends with a failure of this class. -/
def FailureClass.exitCode : FailureClass → Nat
  | .config => 78
  | .connectivity => 69
  | .protocol => 76
  | .software => 70

namespace Error

def message : Error → String
  | .config reason => "Configuration error: " ++ reason
  | .rpc reason => "RPC error: " ++ reason
  | .protocol reason => "Protocol error: " ++ reason
  | .tipRegressed previous current =>
    s!"Chain tip went backwards: previously observed #{previous}, node now reports #{current}"
  | .decode context reason => "Decode error (" ++ context ++ "): " ++ reason
  | .storage reason => "Storage error: " ++ reason
  | .numeric field literal =>
    "Malformed numeric literal " ++ Text.quoted literal ++ " in field '" ++ field ++ "'"
  | .aborted reason => "Indexer aborted: " ++ reason
  | .other reason => reason

def failureClass : Error → FailureClass
  | .config _ => .config
  | .rpc _ | .storage _ => .connectivity
  | .protocol _ | .tipRegressed _ _ | .decode _ _ | .numeric _ _ => .protocol
  | .aborted _ | .other _ => .software

/-- A task that ended in the middle of its work. -/
def taskFailed (task : String) : Error := .aborted (task ++ " task failed")

end Error

end BlockIndexer

/-
NodeBootstrap/Session.lean

A run and what it leaves behind.  A `Session` is everything that a run changes
or does outside itself: the tree of files, the journal, the names it looked up
and the requests it made.  A run ends with a result or a fault; the session
stays either way, so a fault undoes nothing.
-/
import NodeBootstrap.Journal
import NodeBootstrap.Tree.LineFile

namespace NodeBootstrap

/-- How a request checks the server's certificate. -/
inductive Trust where
  /-- Against the system's authorities. -/
  | system
  /-- Against the authorities of a file. -/
  | authorities (path : String)
  | unchecked
  /-- As the connection is set up to. -/
  | unstated
  deriving DecidableEq, Repr

/-- A request to the API. -/
structure Request where
  url : String
  timeoutSeconds : Nat
  trust : Trust
  authorization : Option String
  deriving DecidableEq, Repr

structure Session where
  tree : Tree
  journal : List Journal.Entry
  lookups : List String
  requests : List Request

namespace Session

/-- A session at its start. -/
def start (tree : Tree) : Session := { tree, journal := [], lookups := [], requests := [] }

end Session

/-- A run on a session. -/
abbrev Run (α : Type) := ExceptT Fault (StateM Session) α

namespace Run

/-- The result of a run and the session after it. -/
def perform {α : Type} (r : Run α) (s : Session) : Except Fault α × Session :=
  StateT.run (ExceptT.run r) s

/-! ### Steps -/

/-- Writes an entry into the journal. -/
def note (level : Journal.Level) (words : String) : Run Unit :=
  modify fun s => { s with journal := s.journal ++ [⟨level, words⟩] }

/-- Notes a look-up of a name. -/
def noteLookup (host : String) : Run Unit :=
  modify fun s => { s with lookups := s.lookups ++ [host] }

/-- Notes a request. -/
def noteRequest (request : Request) : Run Unit :=
  modify fun s => { s with requests := s.requests ++ [request] }

/-- A result that may be a fault. -/
def ofExcept {α : Type} (result : Except Fault α) : Run α :=
  match result with
  | .ok a => pure a
  | .error fault => throw fault

/-- Applies a change of the tree that may fail; the tree it leaves stays. -/
def onTree {α : Type} (change : Tree → Except Fault α × Tree) : Run α := do
  let s ← get
  let (result, tree) := change s.tree
  set { s with tree }
  ofExcept result

/-- The tree as it is. -/
def tree : Run Tree := do return (← get).tree

/-- The lines of a file. -/
def readLines (path : String) : Run (List String) := do ofExcept ((← tree).readLines path)

/-- Replaces the content of a file by lines. -/
def writeLines (path : String) (lines : List String) : Run Unit := onTree (·.writeLines path lines)

/-- Adds lines at the end of a file. -/
def appendLines (path : String) (lines : List String) : Run Unit :=
  onTree (·.appendLines path lines)

end Run

end NodeBootstrap

/-
NodeBootstrap/Journal.lean

The journal of a run: what it tells its operator, each entry at a level.  On
the terminal an entry is a line in its level's colour.
-/

namespace NodeBootstrap.Journal

inductive Level where
  | info
  | warn
  | error
  | ok
  | step
  deriving DecidableEq, Repr

namespace Level

def label : Level → String
  | info => "INFO"
  | warn => "WARN"
  | error => "ERROR"
  | ok => "OK"
  | step => "STEP"

/-- The terminal sequence that starts the level's colour. -/
def colour : Level → String
  | info => "\x1b[94m"
  | warn => "\x1b[93m"
  | error => "\x1b[91m"
  | ok => "\x1b[92m"
  | step => "\x1b[95m"

end Level

structure Entry where
  level : Level
  words : String
  deriving DecidableEq, Repr

/-- The terminal sequence that ends a colour. -/
def plain : String := "\x1b[0m"

/-- An entry as a line on the terminal. -/
def Entry.render (e : Entry) : String :=
  e.level.colour ++ "[" ++ e.level.label ++ "] " ++ e.words ++ plain ++ "\n"

/-- Entries as the terminal shows them, oldest first. -/
def render (entries : List Entry) : String := String.join (entries.map Entry.render)

end NodeBootstrap.Journal

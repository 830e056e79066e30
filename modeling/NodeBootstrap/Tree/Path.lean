/-
NodeBootstrap/Tree/Path.lean

Paths of files.  A path is taken apart at its slashes; empty parts and parts
that are a single dot are dropped, `..` stays.  One or three and more slashes
at the start make a path absolute, and so do exactly two, which it keeps.
-/
import NodeBootstrap.Text.Split

namespace NodeBootstrap

/-- A path: how many slashes it starts with (none, one or two) and its
parts. -/
structure Path where
  slashes : Nat
  names : List String
  deriving DecidableEq, Repr

namespace Path

/-- The slashes that a path keeps of those it was written with. -/
def keptSlashes (written : Nat) : Nat := if written ≤ 2 then written else 1

/-- A part that leads somewhere. -/
def isName (part : List Char) : Bool := !part.isEmpty && part != ['.']

def ofText (text : String) : Path :=
  let cs := text.toList
  { slashes := keptSlashes (cs.takeWhile (· == '/')).length
    names := ((Split.parts '/' cs).filter isName).map String.ofList }

def isAbsolute (p : Path) : Bool := p.slashes != 0

/-- The path as it is written: the path of no parts is a dot. -/
def text (p : Path) : String :=
  if p.slashes = 0 ∧ p.names = [] then "."
  else String.ofList (List.replicate p.slashes '/') ++ "/".intercalate p.names

/-- The path of a file in a directory. -/
def join (p : Path) (name : String) : Path := { p with names := p.names ++ [name] }

/-- The path as seen from the root, given the working directory. -/
def absolute (here : List String) (p : Path) : Path :=
  if p.isAbsolute then p else { slashes := 1, names := here ++ p.names }

/-- The path of the same directory whose last name has a suffix.  A path
without names has none. -/
def withSuffix? (suffix : String) (p : Path) : Option Path :=
  p.names.getLast?.map fun name => { p with names := p.names.dropLast ++ [name ++ suffix] }

end Path

end NodeBootstrap

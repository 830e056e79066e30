/-
NodeBootstrap/Config/Property.lean

Properties of a configuration file of the form `key: value`, one a line.
`Property.assign` gives a property its value in every line that sets it, or in
a new line at the end if there is none; all other lines stay.  A file in which
that changes nothing is not written.
-/
import NodeBootstrap.Session

namespace NodeBootstrap

namespace Property

/-- What a line that sets a property starts with. -/
def head (key : String) : String := key ++ ": "

/-- The line that sets a property to a value. -/
def line (key value : String) : String := head key ++ value

/-- A line that sets a property. -/
def isSetBy (key : String) (l : String) : Bool := Lines.startsWith (head key) l

/-- The lines with a property set to a value. -/
def assign (key value : String) (lines : List String) : List String :=
  let replaced := lines.map fun l => if isSetBy key l then line key value else l
  if lines.any (isSetBy key) then replaced else replaced ++ [line key value]

end Property

/-- Sets a property in a file, and tells whether that changed the file. -/
def setProperty (path key value : String) : Run Bool := do
  let lines ← Run.readLines path
  let assigned := Property.assign key value lines
  if assigned = lines then
    Run.note .info (key ++ " уже установлен в " ++ path)
    return false
  else
    Run.writeLines path assigned
    Run.note .ok (Property.line key value ++ " записан в " ++ path)
    return true

end NodeBootstrap

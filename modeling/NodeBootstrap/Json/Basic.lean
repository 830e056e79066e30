/-
NodeBootstrap/Json/Basic.lean

JSON documents, as an API answers with.  Numbers with a point or an exponent
are binary64 numbers, all others are integers.  An object keeps its fields in
the order in which their names first came up; of a repeated name the last
value stays.
-/
import NodeBootstrap.Value.Basic

namespace NodeBootstrap

inductive Json where
  | null
  | bool (b : Bool)
  | int (n : Int)
  | float (x : Binary64)
  | text (s : String)
  | list (items : List Json)
  | object (fields : List (String × Json))
  deriving Repr

namespace Json

/-- The value of a field. -/
def field? (name : String) (fields : List (String × Json)) : Option Json :=
  fields.lookup name

/-- Puts a field into an object. -/
def insertField (name : String) (value : Json) : List (String × Json) → List (String × Json)
  | [] => [(name, value)]
  | (n, v) :: rest => if n = name then (n, value) :: rest else (n, v) :: insertField name value rest

/-- An object of fields in the order in which they were written. -/
def ofFields (fields : List (String × Json)) : Json :=
  object (fields.foldl (fun acc f => insertField f.1 f.2 acc) [])

mutual

/-- A document as a configuration value. -/
def toValue : Json → Value
  | null => .null
  | bool b => .bool b
  | int n => .int n
  | float x => .float x
  | text s => .text s
  | list items => .list (toValues items)
  | object fields => .map (toEntries fields)

def toValues : List Json → List Value
  | [] => []
  | j :: js => j.toValue :: toValues js

def toEntries : List (String × Json) → List (Value × Value)
  | [] => []
  | (name, j) :: rest => (.text name, j.toValue) :: toEntries rest

end

/-- A document that counts as given: not null, false, zero or empty. -/
def isGiven : Json → Bool
  | null => false
  | bool b => b
  | int n => n != 0
  | float x => !x.isZero
  | text s => s != ""
  | list items => !items.isEmpty
  | object fields => !fields.isEmpty

end Json

end NodeBootstrap

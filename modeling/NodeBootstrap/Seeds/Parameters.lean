/-
NodeBootstrap/Seeds/Parameters.lean

The parameters of the seed provider, read back from the database's
configuration: the first provider of the section holds a list of mappings, and
of a parameter that is given more than once the last value counts.  Lists of
pairs are taken for mappings.
-/
import NodeBootstrap.Session
import NodeBootstrap.Yaml.Document

namespace NodeBootstrap

/-- Parameters by their names. -/
abbrev Parameters := List (Value × Value)

namespace Parameters

/-- A value of two items as a name and its value. -/
def pairOf (v : Value) : Except Fault (Value × Value) :=
  match v.items? with
  | none => .error (.broken .wrongKind)
  | some [name, value] => if name.isKey then .ok (name, value) else .error (.broken .wrongKind)
  | some _ => .error (.broken .badValue)

/-- The parameters that one item of the list gives. -/
def ofItem (v : Value) : Except Fault Parameters :=
  if !v.isGiven then .ok []
  else
    match v with
    | .map entries => .ok entries
    | _ =>
      match v.items? with
      | none => .error (.broken .wrongKind)
      | some pairs => pairs.mapM pairOf

/-- The parameters of a provider. -/
def ofProvider (provider : List (Value × Value)) : Except Fault Parameters :=
  match (Value.lookup "parameters" provider).filter Value.isGiven with
  | none => .ok []
  | some given =>
    match given.items? with
    | none => .error (.broken .wrongKind)
    | some items => items.foldlM (fun all item => return Value.insertEntries all (← ofItem item)) []

/-- The parameters in a document.  The path is for messages. -/
def ofDocument (path : String) (document : Value) : Except Fault Parameters :=
  if !document.isGiven then .error (.noSeedProvider path)
  else
    match document with
    | .map entries =>
      match Value.lookup "seed_provider" entries with
      | some (.list (.map provider :: _)) => ofProvider provider
      | _ => .error (.noSeedProvider path)
    | _ => .error (.broken .missingOperation)

/-- The parameters in the lines of a file. -/
def ofLines (path : String) (lines : List String) : Except Fault Parameters :=
  match Yaml.load (Lines.between (lines.map String.toList)) with
  | .ok document => ofDocument path document
  | .error .malformed => .error (.unparsable path)
  | .error (.broken breakdown) => .error (.broken breakdown)

/-- The value of a parameter. -/
def value? (name : String) (parameters : Parameters) : Option Value := Value.lookup name parameters

end Parameters

/-- The parameters in a file. -/
def loadParameters (path : String) : Run Parameters := do
  Run.ofExcept (Parameters.ofLines path (← Run.readLines path))

end NodeBootstrap

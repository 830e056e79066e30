/-
NodeBootstrap/Yaml/Token/Basic.lean

Tokens of a YAML document.  Indentation shows as tokens that open and close
block collections.  A text that cannot be cut further ends in `broken`.
-/
import NodeBootstrap.Yaml.Character

namespace NodeBootstrap.Yaml

/-- A line that speaks to the reader. -/
inductive Directive where
  | version (major minor : Nat)
  | tagHandle (handle replacement : String)
  | unknown
  deriving DecidableEq, Repr

inductive Token where
  | directive (d : Directive)
  | documentStart
  | documentEnd
  | streamEnd
  | blockSequenceStart
  | blockMappingStart
  | blockEnd
  | flowSequenceStart
  | flowSequenceEnd
  | flowMappingStart
  | flowMappingEnd
  | blockEntry
  | flowEntry
  | key
  | value
  | aliasOf (name : String)
  | anchor (name : String)
  | tag (handle : Option String) (suffix : String)
  | scalar (text : List Char) (plain : Bool)
  | broken (defect : Defect)
  deriving DecidableEq, Repr

end NodeBootstrap.Yaml

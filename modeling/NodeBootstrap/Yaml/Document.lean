/-
NodeBootstrap/Yaml/Document.lean

The value of a document.  Scalars can fail to have a value, and the first
failure in the order of a survey is the document's: the survey settles the
parts of a collection in their order and only then looks into those that are
collections themselves, in the order in which it met them.

In a mapping the entries of merged mappings come before its own, so that its
own keep their values; of a list of merged mappings the first counts most.
-/
import NodeBootstrap.Yaml.Graph
import NodeBootstrap.Yaml.ScalarValue

namespace NodeBootstrap.Yaml

namespace Tag

/-- The tags of collections. -/
def isCollection : Tag → Bool
  | list | map | set | orderedMap | pairs => true
  | _ => false

end Tag

namespace Node

def tag : Node → Tag
  | scalar t _ => t
  | sequence t _ => t
  | mapping t _ => t

end Node

namespace Graph

def node? (g : Graph) : Ref → Option Node
  | .node p => g.nodes[p]?
  | .enclosing _ => none

def tagOf (g : Graph) (r : Ref) : Option Tag := (g.node? r).map Node.tag

/-- Whether a part is a collection, which no mapping has as a key. -/
def isCollection (g : Graph) (r : Ref) : Bool :=
  match g.tagOf r with
  | some t => t.isCollection
  | none => true

/-! ### Merging -/

/-- The entries of merged mappings, given the entries of each. -/
def mergedEntries (entriesOf : Ref → Except Defect (List (Ref × Ref))) (g : Graph) (r : Ref) :
    Except Defect (List (Ref × Ref)) :=
  match r with
  | .enclosing _ => .ok []
  | .node _ =>
    match g.node? r with
    | some (.mapping _ _) => entriesOf r
    | some (.sequence _ items) => do
      let parts ← items.mapM fun item =>
        match item, g.node? item with
        | .enclosing true, _ => .ok []
        | _, some (.mapping _ _) => entriesOf item
        | _, _ => .error .malformed
      return parts.reverse.flatten
    | _ => .error .malformed

/-- The entries of a mapping with those it merges before its own.  A mapping
merges only mappings that stand before it, so their number bounds the
recursion. -/
def entries (g : Graph) : Nat → Ref → Except Defect (List (Ref × Ref))
  | 0, _ => .ok []
  | n + 1, r =>
    match g.node? r with
    | some (.mapping _ own) => do
      let merged ← (own.filter fun e => g.tagOf e.1 == some .merge).mapM fun e =>
        mergedEntries (g.entries n) g e.2
      return merged.flatten ++ own.filter fun e => g.tagOf e.1 != some .merge
    | _ => .error .malformed

/-- The entries of a mapping. -/
def entriesOf (g : Graph) (r : Ref) : Except Defect (List (Ref × Ref)) :=
  g.entries (g.nodes.length + 1) r

/-! ### Scalars -/

/-- The text of a node that should be a scalar.  A mapping may name the text
by the key `=`. -/
def scalarText (g : Graph) : Nat → Ref → Except Defect (List Char)
  | 0, _ => .error .malformed
  | n + 1, r =>
    match g.node? r with
    | some (.scalar _ text) => .ok text
    | some (.mapping _ own) =>
      match own.find? fun e => g.tagOf e.1 == some .value with
      | some e => g.scalarText n e.2
      | none => .error .malformed
    | _ => .error .malformed

/-- The value of a node whose tag is that of a scalar. -/
def scalarValue (g : Graph) (r : Ref) : Except Defect Value := do
  let some node := g.node? r | .error .malformed
  if node.tag = .merge ∨ node.tag = .value ∨ node.tag = .unknown then .error .malformed
  else
    let text ← g.scalarText (g.nodes.length + 1) r
    match node.tag, node with
    | .timestamp, .mapping _ _ => .error (.broken .wrongKind)
    | tag, _ => ScalarValue.ofText tag text

/-! ### The survey -/

/-- What a survey has met: the parts it has settled and the collections that
it has yet to look into, in order. -/
structure Survey where
  settled : List Ref
  pending : List Ref

namespace Survey

def mark (s : Survey) (r : Ref) : Survey := { s with settled := r :: s.settled }

/-- Settles a part: a scalar must have a value, a collection is looked into
later. -/
def settle (g : Graph) (s : Survey) (r : Ref) : Except Defect Survey :=
  if s.settled.contains r then .ok s
  else
    match r with
    | .enclosing _ => .ok s
    | .node _ =>
      if g.isCollection r then .ok { s.mark r with pending := s.pending ++ [r] }
      else
        match g.scalarValue r with
        | .ok _ => .ok (s.mark r)
        | .error d => .error d

/-- Settles an entry of a mapping, whose key must be no collection. -/
def settleEntry (g : Graph) (s : Survey) (e : Ref × Ref) : Except Defect Survey := do
  let s ← s.settle g e.1
  if g.isCollection e.1 then .error .malformed else s.settle g e.2

/-- Takes the keys `=` of a mapping for texts. -/
def markValueKeys (g : Graph) (s : Survey) (entries : List (Ref × Ref)) : Survey :=
  entries.foldl (fun s e => if g.tagOf e.1 == some .value then s.mark e.1 else s) s

/-- Settles a pair: a mapping of one entry, whose key may be a collection. -/
def settlePair (g : Graph) (s : Survey) (r : Ref) : Except Defect Survey :=
  match g.node? r with
  | some (.mapping _ [e]) => do (← s.settle g e.1).settle g e.2
  | _ => .error .malformed

/-- Looks into a collection. -/
def enter (g : Graph) (s : Survey) (r : Ref) : Except Defect Survey :=
  match g.node? r with
  | none => .ok s
  | some node =>
    match node.tag, node with
    | .list, .sequence _ items => items.foldlM (settle g) s
    | .map, .mapping _ _ | .set, .mapping _ _ => do
      let entries ← g.entriesOf r
      entries.foldlM (settleEntry g) (s.markValueKeys g entries)
    | .orderedMap, .sequence _ items | .pairs, .sequence _ items => items.foldlM (settlePair g) s
    | _, _ => .error .malformed

/-- Looks into all collections.  No collection is met twice, so the number of
nodes bounds the recursion. -/
def finish (g : Graph) : Nat → Survey → Except Defect Unit
  | 0, _ => .ok ()
  | n + 1, s =>
    match s.pending with
    | [] => .ok ()
    | r :: rest => do finish g n (← { s with pending := rest }.enter g r)

end Survey

/-- Whether all parts of a document have values, and the first failure if
not. -/
def check (g : Graph) (root : Ref) : Except Defect Unit := do
  (← Survey.settle g ⟨[], []⟩ root).finish g (g.nodes.length + 1)

/-! ### Values -/

/-- The value of a part, given the values of the nodes before it.  A
collection inside itself shows as an empty one. -/
def partValue (values : Array Value) : Ref → Value
  | .node p => values[p]?.getD .null
  | .enclosing isMapping => if isMapping then .map [] else .list []

/-- An entry of a mapping by its values. -/
def entryValue (values : Array Value) (e : Ref × Ref) : Value × Value :=
  (partValue values e.1, partValue values e.2)

/-- A pair by its values. -/
def pairValue (g : Graph) (values : Array Value) (r : Ref) : Value :=
  match g.node? r with
  | some (.mapping _ (e :: _)) => .pair (partValue values e.1) (partValue values e.2)
  | _ => .null

/-- The value of the node at a position, given the values of those before
it. -/
def valueAt (g : Graph) (values : Array Value) (position : Nat) (node : Node) : Value :=
  let entries := ((g.entriesOf (.node position)).toOption.getD []).map (entryValue values)
  match node.tag, node with
  | .list, .sequence _ items => .list (items.map (partValue values))
  | .map, .mapping _ _ => .map (Value.insertEntries [] entries)
  | .set, .mapping _ _ => .set (entries.foldl (fun members e => Value.insertMember e.1 members) [])
  | .orderedMap, .sequence _ items
  | .pairs, .sequence _ items => .list (items.map (g.pairValue values))
  | .value, .scalar _ text => .text (String.ofList text)
  | _, _ => (g.scalarValue (.node position)).toOption.getD .null

/-- The values of all nodes. -/
def values (g : Graph) : Array Value :=
  g.nodes.foldl (fun values node => values.push (g.valueAt values values.size node)) #[]

end Graph

/-- The value of a document; an empty one is null. -/
def load (text : List Char) : Except Defect Value := do
  let g ← Graph.ofText text
  match g.root with
  | none => return .null
  | some root =>
    g.check root
    return Graph.partValue g.values root

end NodeBootstrap.Yaml

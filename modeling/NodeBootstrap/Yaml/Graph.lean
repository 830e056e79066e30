/-
NodeBootstrap/Yaml/Graph.lean

The nodes of a document.  An alias stands for the node with its anchor, so the
nodes form a graph.  They are listed in the order in which they end: the parts
of a collection stand before it, and a part is named by its position.  Only an
alias inside the very collection that it names cannot be named so.

The recursion is on a bound for the steps; four for every token are enough,
since each node and each part of a collection takes a token.
-/
import NodeBootstrap.Yaml.Tag
import NodeBootstrap.Yaml.Token.Scanner

namespace NodeBootstrap.Yaml

/-- A part of a collection: a node by its position, or the collection around
the place, as an alias of it. -/
inductive Ref where
  | node (position : Nat)
  | enclosing (isMapping : Bool)
  deriving DecidableEq, Repr

inductive Node where
  | scalar (tag : Tag) (text : List Char)
  | sequence (tag : Tag) (items : List Ref)
  | mapping (tag : Tag) (entries : List (Ref × Ref))
  deriving DecidableEq, Repr

/-- The nodes of a document and the node that the document is, if any. -/
structure Graph where
  nodes : List Node
  root : Option Ref

/-- A document that is being put together from its tokens. -/
structure Composer where
  tokens : List Token
  /-- What the handles of tags stand for. -/
  handles : List (String × String)
  /-- The nodes so far, latest first. -/
  nodes : List Node
  /-- The anchors so far, latest first. -/
  anchors : List (String × Ref)

namespace Composer

def defaultHandles : List (String × String) := [("!", "!"), ("!!", Tag.commonPrefix)]

def start (tokens : List Token) : Composer :=
  { tokens, handles := defaultHandles, nodes := [], anchors := [] }

/-- The defect of a token that cannot stand here. -/
def unexpected {α : Type} (c : Composer) : Except Defect α :=
  match c.tokens with
  | .broken d :: _ => .error d
  | _ => .error .malformed

/-- Goes on at the tokens behind those that were read. -/
def behind (c : Composer) (tokens : List Token) : Composer := { c with tokens }

/-- Adds a node. -/
def add (c : Composer) (n : Node) : Ref × Composer :=
  (.node c.nodes.length, { c with nodes := n :: c.nodes })

/-- Adds a scalar that is not written. -/
def addEmpty (c : Composer) : Ref × Composer := c.add (.scalar (Tag.ofPlain []) [])

/-- Gives an anchor, if there is one, to a part. -/
def name (c : Composer) (anchor : Option String) (r : Ref) : Composer :=
  match anchor with
  | some a => { c with anchors := (a, r) :: c.anchors }
  | none => c

/-! ### Properties -/

/-- What stands before a node: its anchor and its tag. -/
structure Properties where
  anchor : Option String
  tag : Option (Option String × String)

/-- The anchor and the tag before a node, in either order. -/
def properties (tokens : List Token) : Properties × List Token :=
  match tokens with
  | .anchor a :: .tag h s :: rest => (⟨some a, some (h, s)⟩, rest)
  | .tag h s :: .anchor a :: rest => (⟨some a, some (h, s)⟩, rest)
  | .anchor a :: rest => (⟨some a, none⟩, rest)
  | .tag h s :: rest => (⟨none, some (h, s)⟩, rest)
  | _ => (⟨none, none⟩, tokens)

/-- The name of a tag, its handle resolved. -/
def tagName (c : Composer) : Option (Option String × String) → Except Defect (Option String)
  | none => .ok none
  | some (none, suffix) => .ok (some suffix)
  | some (some handle, suffix) =>
    match c.handles.lookup handle with
    | some replacement => .ok (some (replacement ++ suffix))
    | none => .error .malformed

/-- The tag that leaves the kind of a node open. -/
def openTag : String := "!"

def scalarTag (tag : Option String) (plain : Bool) (text : List Char) : Tag :=
  match tag with
  | none => if plain then Tag.ofPlain text else .text
  | some name => if name = openTag then Tag.ofPlain text else Tag.ofName name

def collectionTag (tag : Option String) (default : Tag) : Tag :=
  match tag with
  | none => default
  | some name => if name = openTag then default else Tag.ofName name

/-! ### Nodes -/

/-- Whether a token ends an entry of a block mapping. -/
def endsBlockEntry : List Token → Bool
  | .key :: _ | .value :: _ | .blockEnd :: _ => true
  | _ => false

/-- Whether a token ends an item of a block sequence. -/
def endsBlockItem : List Token → Bool
  | .blockEntry :: _ | .blockEnd :: _ => true
  | _ => false

/-- Whether a token ends an item of a sequence in a mapping's column. -/
def endsIndentlessItem (tokens : List Token) : Bool :=
  endsBlockItem tokens || endsBlockEntry tokens

/-- Whether a token ends the value of a pair in a flow sequence. -/
def endsPairValue : List Token → Bool
  | .flowEntry :: _ | .flowSequenceEnd :: _ => true
  | _ => false

/-- Whether a token ends the value of an entry of a flow mapping. -/
def endsFlowValue : List Token → Bool
  | .flowEntry :: _ | .flowMappingEnd :: _ => true
  | _ => false

/-- Whether a token ends a key in a flow collection, given what ends a value
there. -/
def endsFlowKey (endsValue : List Token → Bool) (tokens : List Token) : Bool :=
  match tokens with
  | .value :: _ => true
  | _ => endsValue tokens

mutual

/-- The node at the start of the tokens.  `block` allows block collections,
`indentless` a sequence in the column of the mapping around it. -/
def node : Nat → Bool → Bool → Composer → Except Defect (Ref × Composer)
  | 0, _, _, c => c.unexpected
  | n + 1, block, indentless, c =>
    match c.tokens with
    | .aliasOf a :: rest =>
      match c.anchors.lookup a with
      | some r => .ok (r, c.behind rest)
      | none => .error .malformed
    | tokens => do
      let (p, rest) := properties tokens
      let c := c.behind rest
      let tag ← c.tagName p.tag
      if p.anchor.any fun a => (c.anchors.lookup a).isSome then c.unexpected
      else content n block indentless p.anchor tag c

/-- The content of a node, whose anchor and tag have been read. -/
def content : Nat → Bool → Bool → Option String → Option String → Composer →
    Except Defect (Ref × Composer)
  | 0, _, _, _, _, c => c.unexpected
  | n + 1, block, indentless, anchor, tag, c =>
    match c.tokens with
    | .scalar text plain :: rest =>
      let (r, c) := (c.behind rest).add (.scalar (scalarTag tag plain text) text)
      .ok (r, c.name anchor r)
    | .flowSequenceStart :: rest => do
      let (items, c) ← flowItems n true [] ((c.behind rest).name anchor (.enclosing false))
      let (r, c) := c.add (.sequence (collectionTag tag .list) items)
      .ok (r, c.name anchor r)
    | .flowMappingStart :: rest => do
      let (entries, c) ← flowEntries n true [] ((c.behind rest).name anchor (.enclosing true))
      let (r, c) := c.add (.mapping (collectionTag tag .map) entries)
      .ok (r, c.name anchor r)
    | tokens =>
      if indentless ∧ tokens.head? = some .blockEntry then do
        let (items, c) ← indentlessItems n [] (c.name anchor (.enclosing false))
        let (r, c) := c.add (.sequence (collectionTag tag .list) items)
        .ok (r, c.name anchor r)
      else if block ∧ tokens.head? = some .blockSequenceStart then do
        let (items, c) ← blockItems n [] ((c.behind (tokens.drop 1)).name anchor (.enclosing false))
        let (r, c) := c.add (.sequence (collectionTag tag .list) items)
        .ok (r, c.name anchor r)
      else if block ∧ tokens.head? = some .blockMappingStart then do
        let (entries, c) ←
          blockEntries n [] ((c.behind (tokens.drop 1)).name anchor (.enclosing true))
        let (r, c) := c.add (.mapping (collectionTag tag .map) entries)
        .ok (r, c.name anchor r)
      else if anchor.isSome || tag.isSome then
        let (r, c) := c.add (.scalar (scalarTag tag true []) [])
        .ok (r, c.name anchor r)
      else c.unexpected

/-- A node, or nothing if the token there ends it. -/
def nodeOrEmpty : Nat → Bool → Bool → Composer → Except Defect (Ref × Composer)
  | 0, _, _, c => c.unexpected
  | n + 1, ended, block, c => if ended then .ok c.addEmpty else node n block block c

/-- The items of a block sequence up to its end, latest first. -/
def blockItems : Nat → List Ref → Composer → Except Defect (List Ref × Composer)
  | 0, _, c => c.unexpected
  | n + 1, items, c =>
    match c.tokens with
    | .blockEntry :: rest => do
      let (r, c) ←
        if endsBlockItem rest then .ok (c.behind rest).addEmpty
        else node n true false (c.behind rest)
      blockItems n (r :: items) c
    | .blockEnd :: rest => .ok (items.reverse, c.behind rest)
    | _ => c.unexpected

/-- The items of a sequence in the column of the mapping around it. -/
def indentlessItems : Nat → List Ref → Composer → Except Defect (List Ref × Composer)
  | 0, _, c => c.unexpected
  | n + 1, items, c =>
    match c.tokens with
    | .blockEntry :: rest => do
      let (r, c) ←
        if endsIndentlessItem rest then .ok (c.behind rest).addEmpty
        else node n true false (c.behind rest)
      indentlessItems n (r :: items) c
    | _ => .ok (items.reverse, c)

/-- The entries of a block mapping up to its end. -/
def blockEntries : Nat → List (Ref × Ref) → Composer → Except Defect (List (Ref × Ref) × Composer)
  | 0, _, c => c.unexpected
  | n + 1, entries, c =>
    match c.tokens with
    | .key :: rest => do
      let (k, c) ← nodeOrEmpty n (endsBlockEntry rest) true (c.behind rest)
      let (v, c) ←
        match c.tokens with
        | .value :: rest => nodeOrEmpty n (endsBlockEntry rest) true (c.behind rest)
        | _ => .ok c.addEmpty
      blockEntries n ((k, v) :: entries) c
    | .blockEnd :: rest => .ok (entries.reverse, c.behind rest)
    | _ => c.unexpected

/-- A key and its value in a flow collection, behind the sign of the key. -/
def flowPair : Nat → (List Token → Bool) → Composer → Except Defect ((Ref × Ref) × Composer)
  | 0, _, c => c.unexpected
  | n + 1, endsValue, c => do
    let (k, c) ← nodeOrEmpty n (endsFlowKey endsValue c.tokens) false c
    match c.tokens with
    | .value :: rest => do
      let (v, c) ← nodeOrEmpty n (endsValue rest) false (c.behind rest)
      .ok ((k, v), c)
    | _ =>
      let (v, c) := c.addEmpty
      .ok ((k, v), c)

/-- The items of a flow sequence up to its end.  Before every item but the
first stands a comma. -/
def flowItems : Nat → Bool → List Ref → Composer → Except Defect (List Ref × Composer)
  | 0, _, _, c => c.unexpected
  | n + 1, first, items, c =>
    match c.tokens with
    | .flowSequenceEnd :: rest => .ok (items.reverse, c.behind rest)
    | .flowEntry :: rest => if first then c.unexpected else flowItem n items (c.behind rest)
    | _ => if first then flowItem n items c else c.unexpected

/-- An item of a flow sequence, and the items behind it. -/
def flowItem : Nat → List Ref → Composer → Except Defect (List Ref × Composer)
  | 0, _, c => c.unexpected
  | n + 1, items, c =>
    match c.tokens with
    | .flowSequenceEnd :: rest => .ok (items.reverse, c.behind rest)
    | .key :: rest => do
      let (entry, c) ← flowPair n endsPairValue (c.behind rest)
      let (r, c) := c.add (.mapping .map [entry])
      flowItems n false (r :: items) c
    | _ => do
      let (r, c) ← node n false false c
      flowItems n false (r :: items) c

/-- The entries of a flow mapping up to its end.  Before every entry but the
first stands a comma. -/
def flowEntries :
    Nat → Bool → List (Ref × Ref) → Composer → Except Defect (List (Ref × Ref) × Composer)
  | 0, _, _, c => c.unexpected
  | n + 1, first, entries, c =>
    match c.tokens with
    | .flowMappingEnd :: rest => .ok (entries.reverse, c.behind rest)
    | .flowEntry :: rest =>
      if first then c.unexpected else flowMappingEntry n entries (c.behind rest)
    | _ => if first then flowMappingEntry n entries c else c.unexpected

/-- An entry of a flow mapping, and the entries behind it. -/
def flowMappingEntry : Nat → List (Ref × Ref) → Composer →
    Except Defect (List (Ref × Ref) × Composer)
  | 0, _, c => c.unexpected
  | n + 1, entries, c =>
    match c.tokens with
    | .flowMappingEnd :: rest => .ok (entries.reverse, c.behind rest)
    | .key :: rest => do
      let (entry, c) ← flowPair n endsFlowValue (c.behind rest)
      flowEntries n false (entry :: entries) c
    | _ => do
      let (k, c) ← node n false false c
      let (v, c) := c.addEmpty
      flowEntries n false ((k, v) :: entries) c

end

/-! ### Documents -/

/-- The handles that directives define, with the defaults for the others. -/
def directives : Bool → List (String × String) → List Token →
    Except Defect (List (String × String) × List Token)
  | versioned, handles, .directive d :: rest =>
    match d with
    | .version major _ =>
      if versioned || major != 1 then .error .malformed else directives true handles rest
    | .tagHandle h replacement =>
      if (handles.lookup h).isSome then .error .malformed
      else directives versioned (handles ++ [(h, replacement)]) rest
    | .unknown => directives versioned handles rest
  | _, handles, tokens => .ok (handles ++ defaultHandles, tokens)

/-- Whether a document that was started has no node. -/
def endsDocument : List Token → Bool
  | .directive _ :: _ | .documentStart :: _ | .documentEnd :: _ | .streamEnd :: _ => true
  | _ => false

/-- The tokens behind the ends of documents. -/
def dropEnds : List Token → List Token
  | .documentEnd :: rest => dropEnds rest
  | tokens => tokens

/-- The document's node, with nothing behind the document. -/
def alone (result : Ref × Composer) : Except Defect Graph :=
  let c := result.2.behind (dropEnds result.2.tokens)
  match c.tokens with
  | .streamEnd :: _ => .ok ⟨c.nodes.reverse, some result.1⟩
  | _ => c.unexpected

/-- The bound for the steps of a composition. -/
def stepsFor (tokens : List Token) : Nat := 4 * tokens.length + 4

/-- The graph of a document that is given by its tokens. -/
def compose (tokens : List Token) : Except Defect Graph :=
  let c := start tokens
  match tokens with
  | .streamEnd :: _ => .ok ⟨[], none⟩
  | .directive _ :: _ | .documentStart :: _ => do
    let (handles, rest) ← directives false [] tokens
    match rest with
    | .documentStart :: rest =>
      let c := { c with tokens := rest, handles }
      if endsDocument rest then alone c.addEmpty
      else do alone (← node (stepsFor tokens) true false c)
    | _ => (c.behind rest).unexpected
  | _ => do alone (← node (stepsFor tokens) true false c)

end Composer

/-- The graph of a document. -/
def Graph.ofText (text : List Char) : Except Defect Graph := Composer.compose (tokens text)

end NodeBootstrap.Yaml

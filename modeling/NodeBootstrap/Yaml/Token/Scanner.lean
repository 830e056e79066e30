/-
NodeBootstrap/Yaml/Token/Scanner.lean

Cutting a document into tokens.  Outside flow collections indentation counts:
a line further in opens a collection, a line further out closes some.

A mapping key needs no sign before it; only the colon behind it tells that it
is one.  So each level of flow nesting has at most one candidate, the place
where a key could have started, and at a colon the tokens of the key are put
in at the candidate's place.  A candidate expires at the end of its line and
after 1024 characters; one that must be a key, because its line is indented as
keys are, must not expire.
-/
import NodeBootstrap.Yaml.Token.BlockScalar
import NodeBootstrap.Yaml.Token.Mark
import NodeBootstrap.Yaml.Token.Quoted

namespace NodeBootstrap.Yaml

/-- A place where a key may have started: how many tokens stand before it, and
whether it must turn out a key. -/
structure Candidate where
  place : Place
  count : Nat
  required : Bool
  deriving DecidableEq, Repr

/-- The most characters that a key without a sign may take. -/
def maxKeyLength : Nat := 1024

/-- A document that is being cut. -/
structure Scanner where
  left : List Char
  place : Place
  /-- The indentation of the innermost block collection, `-1` outside of all. -/
  indent : Int
  /-- The indentations of the collections around it, innermost first. -/
  indents : List Int
  /-- The candidate of the innermost level of flow nesting. -/
  candidate : Option Candidate
  /-- The candidates of the levels around it, innermost first. -/
  outer : List (Option Candidate)
  mayStartKey : Bool
  /-- The tokens so far, latest first. -/
  tokens : List Token

namespace Scanner

def start (text : List Char) : Scanner :=
  { left := text, place := .start, indent := -1, indents := [], candidate := none, outer := []
    mayStartKey := true, tokens := [] }

/-- Inside a flow collection. -/
def inFlow (s : Scanner) : Bool := !s.outer.isEmpty

/-- Moves on to a later part of the text. -/
def moveTo (s : Scanner) (left : List Char) : Scanner :=
  { s with left, place := s.place.reach s.left left }

def push (s : Scanner) (t : Token) : Scanner := { s with tokens := t :: s.tokens }

/-! ### Spaces -/

/-- The text behind spaces, comments and line ends, and whether a key may
start there. -/
def skipSpaces (flow inComment mayStartKey : Bool) : List Char → List Char × Bool
  | [] => ([], mayStartKey)
  | c :: rest =>
    if isBreak c then skipSpaces flow false (mayStartKey || !flow) rest
    else if inComment then skipSpaces flow true mayStartKey rest
    else if c = ' ' then skipSpaces flow false mayStartKey rest
    else if c = '#' then skipSpaces flow true mayStartKey rest
    else (c :: rest, mayStartKey)

/-- The text behind a byte order mark at the very start. -/
def dropMark (s : Scanner) : Scanner :=
  if s.place.index = 0 ∧ s.left.head? = some byteOrderMark then s.moveTo (s.left.drop 1) else s

/-- Moves on to the next token. -/
def toNextToken (s : Scanner) : Scanner :=
  let s := s.dropMark
  let (left, mayStartKey) := skipSpaces s.inFlow false s.mayStartKey s.left
  { s.moveTo left with mayStartKey }

/-! ### Candidates -/

/-- Whether a candidate can be a key no longer. -/
def expired (p : Place) (c : Candidate) : Bool :=
  c.place.line != p.line || maxKeyLength < p.index - c.place.index

/-- Drops the candidates that have expired. -/
def dropExpired (s : Scanner) : Except Defect Scanner :=
  let all := s.candidate :: s.outer
  if all.any fun c => c.any fun k => expired s.place k && k.required then .error .malformed
  else
    let alive (c : Option Candidate) := c.filter fun k => !expired s.place k
    .ok { s with candidate := alive s.candidate, outer := s.outer.map alive }

/-- Gives up the candidate of the innermost level. -/
def dropCandidate (s : Scanner) : Except Defect Scanner :=
  if s.candidate.any (·.required) then .error .malformed else .ok { s with candidate := none }

/-- Makes this place a candidate, if a key may start here. -/
def addCandidate (s : Scanner) : Except Defect Scanner :=
  if s.mayStartKey then do
    let s ← s.dropCandidate
    let required := !s.inFlow && s.indent == s.place.column
    return { s with candidate := some ⟨s.place, s.tokens.length, required⟩ }
  else .ok s

/-! ### Indentation -/

/-- Closes the collections that stand further in than a column. -/
def closeTo (column : Int) : Int → List Int → List Token → Int × List Int × List Token
  | indent, [], tokens => (indent, [], tokens)
  | indent, around :: more, tokens =>
    if column < indent then closeTo column around more (.blockEnd :: tokens)
    else (indent, around :: more, tokens)

/-- Closes the collections that stand further in than a column; inside a flow
collection columns do not count. -/
def unwind (s : Scanner) (column : Int) : Scanner :=
  if s.inFlow then s
  else
    let (indent, indents, tokens) := closeTo column s.indent s.indents s.tokens
    { s with indent, indents, tokens }

/-- Puts a token in where `count` tokens stand before it. -/
def insertAt (count : Nat) (t : Token) (tokens : List Token) : List Token :=
  let behind := tokens.length - count
  tokens.take behind ++ t :: tokens.drop behind

/-- Opens a collection at a column further in, with its token put in where
`count` tokens stand before it. -/
def openAt (s : Scanner) (column count : Nat) (t : Token) : Scanner :=
  if s.indent < column then
    { s with
      indent := column, indents := s.indent :: s.indents, tokens := insertAt count t s.tokens }
  else s

/-- Opens a collection here. -/
def openHere (s : Scanner) (t : Token) : Scanner := s.openAt s.place.column s.tokens.length t

/-! ### Tokens -/

/-- A token that is one sign. -/
def sign (s : Scanner) (t : Token) : Scanner := (s.moveTo (s.left.drop 1)).push t

/-- The token for the start or end of a document. -/
def documentMarker (s : Scanner) (t : Token) : Except Defect Scanner := do
  let s ← (s.unwind (-1)).dropCandidate
  return ({ s with mayStartKey := false }.moveTo (s.left.drop 3)).push t

def directive (s : Scanner) : Except Defect Scanner := do
  let s ← (s.unwind (-1)).dropCandidate
  let (t, left) ← Mark.directive (s.left.drop 1)
  return ({ s with mayStartKey := false }.moveTo left).push t

def flowStart (s : Scanner) (t : Token) : Except Defect Scanner := do
  let s ← s.addCandidate
  return { s with candidate := none, outer := s.candidate :: s.outer, mayStartKey := true }.sign t

def flowEnd (s : Scanner) (t : Token) : Except Defect Scanner := do
  let s ← s.dropCandidate
  match s.outer with
  | [] => .error .malformed
  | candidate :: outer => return { s with candidate, outer, mayStartKey := false }.sign t

def flowEntry (s : Scanner) : Except Defect Scanner := do
  let s ← s.dropCandidate
  return { s with mayStartKey := true }.sign .flowEntry

def blockEntry (s : Scanner) : Except Defect Scanner := do
  if !s.inFlow && !s.mayStartKey then .error .malformed
  else
    let s := if s.inFlow then s else s.openHere .blockSequenceStart
    let s ← s.dropCandidate
    return { s with mayStartKey := true }.sign .blockEntry

/-- The sign of a key. -/
def keySign (s : Scanner) : Except Defect Scanner := do
  if !s.inFlow && !s.mayStartKey then .error .malformed
  else
    let s := if s.inFlow then s else s.openHere .blockMappingStart
    let s ← s.dropCandidate
    return { s with mayStartKey := !s.inFlow }.sign .key

/-- The colon of a value.  If there is a candidate, it was a key. -/
def valueSign (s : Scanner) : Except Defect Scanner :=
  match s.candidate with
  | some k =>
    let s :=
      { s with candidate := none, mayStartKey := false, tokens := insertAt k.count .key s.tokens }
    let s := if s.inFlow then s else s.openAt k.place.column k.count .blockMappingStart
    .ok (s.sign .value)
  | none =>
    if !s.inFlow && !s.mayStartKey then .error .malformed
    else
      let s := if s.inFlow then s else s.openHere .blockMappingStart
      .ok ({ s with mayStartKey := !s.inFlow }.sign .value)

/-- An anchor or an alias. -/
def anchor (s : Scanner) (token : String → Token) : Except Defect Scanner := do
  let s ← s.addCandidate
  let (name, left) ← Mark.anchorName (s.left.drop 1)
  return ({ s with mayStartKey := false }.moveTo left).push (token name)

def tag (s : Scanner) : Except Defect Scanner := do
  let s ← s.addCandidate
  let (t, left) ← Mark.tag s.left
  return ({ s with mayStartKey := false }.moveTo left).push t

def blockScalar (s : Scanner) (isFolded : Bool) : Except Defect Scanner := do
  let s ← s.dropCandidate
  let (text, left) ← BlockScalar.scalar isFolded s.indent (s.left.drop 1)
  return ({ s with mayStartKey := true }.moveTo left).push (.scalar text false)

def quoted (s : Scanner) (double : Bool) : Except Defect Scanner := do
  let s ← s.addCandidate
  let (text, left) ← Quoted.scalar double (s.left.drop 1)
  return ({ s with mayStartKey := false }.moveTo left).push (.scalar text false)

def plain (s : Scanner) : Except Defect Scanner := do
  let s ← s.addCandidate
  let r := Plain.scalar s.inFlow (s.indent + 1) s.left
  return ({ s with mayStartKey := r.crossed }.moveTo r.left).push (.scalar r.text true)

/-! ### Dispatch -/

/-- The signs that a plain scalar cannot start with. -/
def isIndicator (c : Char) : Bool :=
  c ∈ ['-', '?', ':', ',', '[', ']', '\x7b', '\x7d', '#', '&', '*', '!', '|', '>', '\'', '"', '%',
    '@', '\x60']

/-- Whether a plain scalar starts here.  A dash may start one if no space
follows it, and so may a question mark and a colon outside flow collections. -/
def startsPlain (flow : Bool) (c : Char) (rest : List Char) : Bool :=
  if isSpace c then false
  else if !isIndicator c then true
  else !startsSpace rest && (c == '-' || (!flow && (c == '?' || c == ':')))

/-- Reads the token that starts with a character. -/
def token (s : Scanner) (c : Char) (rest : List Char) : Except Defect Scanner :=
  let atStart := s.place.column == 0
  if c = '%' && atStart then s.directive
  else if atStart && startsMarker '-' s.left then s.documentMarker .documentStart
  else if atStart && startsMarker '.' s.left then s.documentMarker .documentEnd
  else if c = '[' then s.flowStart .flowSequenceStart
  else if c = '\x7b' then s.flowStart .flowMappingStart
  else if c = ']' then s.flowEnd .flowSequenceEnd
  else if c = '\x7d' then s.flowEnd .flowMappingEnd
  else if c = ',' then s.flowEntry
  else if c = '-' && startsSpace rest then s.blockEntry
  else if c = '?' && (s.inFlow || startsSpace rest) then s.keySign
  else if c = ':' && (s.inFlow || startsSpace rest) then s.valueSign
  else if c = '*' then s.anchor .aliasOf
  else if c = '&' then s.anchor .anchor
  else if c = '!' then s.tag
  else if c = '|' && !s.inFlow then s.blockScalar false
  else if c = '>' && !s.inFlow then s.blockScalar true
  else if c = '\'' then s.quoted false
  else if c = '"' then s.quoted true
  else if startsPlain s.inFlow c rest then s.plain
  else .error .malformed

/-- The end of the text. -/
def finish (s : Scanner) : Except Defect Scanner := do
  let s ← (s.unwind (-1)).dropCandidate
  return s.push .streamEnd

/-- Moves on to the next token and reads it. -/
def step (s : Scanner) : Except Defect Scanner := do
  let s ← s.toNextToken.dropExpired
  let s := s.unwind s.place.column
  match s.left with
  | [] => s.finish
  | c :: rest => s.token c rest

/-- The tokens that a reader sees of a text that cannot be cut further: a
candidate holds back the tokens behind it. -/
def visible (s : Scanner) : List Token :=
  let held := (s.candidate :: s.outer).filterMap fun c =>
    (c.filter fun k => !expired s.place k).map (·.count)
  let tokens := s.tokens.reverse
  match held.min? with
  | some count => tokens.take count
  | none => tokens

/-- The tokens of a text from here on.  Every step reads a part of the text,
up to the step that finds its end. -/
def run (s : Scanner) : List Token :=
  match s.step with
  | .error d => s.visible ++ [.broken d]
  | .ok s' =>
    if s'.tokens.head? ≠ some .streamEnd ∧ s'.left.length < s.left.length then s'.run
    else s'.tokens.reverse
termination_by s.left.length

end Scanner

/-- The tokens of a document. -/
def tokens (text : List Char) : List Token :=
  if text.all isAllowed then (Scanner.start text).run else [.broken .malformed]

end NodeBootstrap.Yaml

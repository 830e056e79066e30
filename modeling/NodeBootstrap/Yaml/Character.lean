/-
NodeBootstrap/Yaml/Character.lean

Characters of a YAML document and places in it.  A document is given as the
lines of a file with LF between them; CR, which no such line holds, is not a
character of a document.
-/
import NodeBootstrap.Fault

namespace NodeBootstrap.Yaml

/-- Why a text gives no document: it is no YAML, or a scalar in it breaks the
reading off. -/
inductive Defect where
  | malformed
  | broken (breakdown : Breakdown)
  deriving DecidableEq, Repr

/-! ### Characters -/

/-- The line ends within a document. -/
def isBreak (c : Char) : Bool :=
  c == '\n' || c == '\u0085' || c == '\u2028' || c == '\u2029'

/-- Blanks within a line. -/
def isBlank (c : Char) : Bool := c == ' ' || c == '\t'

def isSpace (c : Char) : Bool := isBlank c || isBreak c

/-- A line end inside a scalar: NEL counts as LF, the separators as
themselves. -/
def breakChar (c : Char) : Char := if c = '\u0085' then '\n' else c

/-- The byte order mark, which takes no column. -/
def byteOrderMark : Char := '\ufeff'

/-- The characters that a document may hold. -/
def isAllowed (c : Char) : Bool :=
  let n := c.toNat
  n == 0x09 || n == 0x0a || (0x20 ≤ n && n ≤ 0x7e) || n == 0x85 || (0xa0 ≤ n && n ≤ 0xfffd)
    || 0x10000 ≤ n

/-- The end of a text, or a space. -/
def startsSpace : List Char → Bool
  | [] => true
  | c :: _ => isSpace c

/-- The end of a text, a plain space or a line end. -/
def startsPlainSpace : List Char → Bool
  | [] => true
  | c :: _ => c == ' ' || isBreak c

/-- The end of a text or of a line. -/
def startsBreak : List Char → Bool
  | [] => true
  | c :: _ => isBreak c

/-- Three times the same character, standing alone. -/
def startsMarker (mark : Char) : List Char → Bool
  | a :: b :: c :: rest => a == mark && b == mark && c == mark && startsSpace rest
  | _ => false

/-- The start or the end of a document. -/
def startsDocumentMarker (cs : List Char) : Bool := startsMarker '-' cs || startsMarker '.' cs

/-- The characters of names: of anchors, handles and directives. -/
def isNameChar (c : Char) : Bool :=
  Digit.isAscii c || ('A' ≤ c && c ≤ 'Z') || ('a' ≤ c && c ≤ 'z') || c == '-' || c == '_'

/-- The rest of a line that may hold a comment only, its end included. -/
def endOfLine (cs : List Char) : Except Defect (List Char) :=
  let left := cs.dropWhile (· == ' ')
  let left := if left.head? = some '#' then left.dropWhile (!isBreak ·) else left
  if startsBreak left then .ok (left.drop 1) else .error .malformed

/-! ### Places -/

/-- A place in a text: its line, its column and how many characters stand
before it. -/
structure Place where
  line : Nat
  column : Nat
  index : Nat
  deriving DecidableEq, Repr

namespace Place

def start : Place := ⟨0, 0, 0⟩

/-- The place behind a character. -/
def next (p : Place) (c : Char) : Place :=
  if isBreak c then ⟨p.line + 1, 0, p.index + 1⟩
  else if c = byteOrderMark then { p with index := p.index + 1 }
  else { p with column := p.column + 1, index := p.index + 1 }

/-- The place behind some text. -/
def after (p : Place) (cs : List Char) : Place := cs.foldl next p

/-- The place where a text of which some is left has arrived. -/
def reach (p : Place) (text left : List Char) : Place :=
  p.after (text.take (text.length - left.length))

end Place

end NodeBootstrap.Yaml

/-
NodeBootstrap/Yaml/Token/Plain.lean

Plain scalars: words without quotes.  Between two words there are spaces or a
line end with an indentation; a single line end reads as one space, further
ones as themselves.  The scalar ends before a colon that stands alone, before
a comment, at a line that is not indented enough, and in a flow collection
before the marks of such collections.
-/
import NodeBootstrap.Yaml.Character

namespace NodeBootstrap.Yaml.Plain

/-! ### Words -/

/-- The marks that end a word in a flow collection. -/
def isFlowMark (c : Char) : Bool :=
  c == ',' || c == '?' || c == '[' || c == ']' || c == '\x7b' || c == '\x7d'

/-- Whether a colon before this text stands alone. -/
def endsAtColon (flow : Bool) : List Char → Bool
  | [] => true
  | c :: _ => isSpace c || (flow && isFlowMark c && c != '?')

/-- The word at the start of a text, and what follows it. -/
def word (flow : Bool) : List Char → List Char × List Char
  | [] => ([], [])
  | c :: rest =>
    if isSpace c || (c == ':' && endsAtColon flow rest) || (flow && isFlowMark c) then
      ([], c :: rest)
    else
      let (w, left) := word flow rest
      (c :: w, left)

theorem length_word_le (flow : Bool) (cs : List Char) : (word flow cs).2.length ≤ cs.length := by
  induction cs with
  | nil => simp [word]
  | cons c rest ih =>
    simp only [word]
    split
    · simp
    · simp only [List.length_cons]; omega

theorem length_word_lt (flow : Bool) (cs : List Char) (h : (word flow cs).1 ≠ []) :
    (word flow cs).2.length < cs.length := by
  cases cs with
  | nil => simp [word] at h
  | cons c rest =>
    have := length_word_le flow rest
    simp only [word] at h ⊢
    split
    · rename_i hc; simp [hc] at h
    · simp only [List.length_cons]; omega

/-! ### Gaps -/

/-- What stands between two words: the text it reads as, whether a line ended
in it, how far the last line is indented, and what follows.  A gap that reads
as nothing ends the scalar. -/
structure Gap where
  text : List Char
  crossed : Bool
  column : Nat
  left : List Char

/-- The empty lines after a line end and the indentation of the next line:
the line ends, latest first, the indentation, and what follows.  There is none
if a document starts or ends there. -/
def emptyLines : List Char → Nat → List Char → Option (List Char × Nat × List Char)
  | breaks, column, [] => some (breaks, column, [])
  | breaks, column, c :: rest =>
    if c = ' ' then emptyLines breaks (column + 1) rest
    else if isBreak c then
      if startsDocumentMarker rest then none else emptyLines (breakChar c :: breaks) 0 rest
    else some (breaks, column, c :: rest)

/-- What a line end and the empty lines after it read as. -/
def folded (first : Char) (breaks : List Char) : List Char :=
  if first ≠ '\n' then first :: breaks
  else if breaks.isEmpty then [' '] else breaks

def gap (cs : List Char) : Gap :=
  let spaces := cs.takeWhile (· == ' ')
  match cs.dropWhile (· == ' ') with
  | [] => ⟨spaces, false, 0, []⟩
  | c :: rest =>
    if isBreak c then
      if startsDocumentMarker rest then ⟨[], true, 0, rest⟩
      else
        match emptyLines [] 0 rest with
        | some (breaks, column, left) => ⟨folded (breakChar c) breaks.reverse, true, column, left⟩
        | none => ⟨[], true, 0, rest⟩
    else ⟨spaces, false, 0, c :: rest⟩

theorem length_emptyLines_le {breaks : List Char} {column : Nat} {cs : List Char}
    {r : List Char × Nat × List Char} (h : emptyLines breaks column cs = some r) :
    r.2.2.length ≤ cs.length := by
  induction cs generalizing breaks column with
  | nil => simp only [emptyLines, Option.some.injEq] at h; subst h; simp
  | cons c rest ih =>
    simp only [emptyLines] at h
    split at h
    · have := ih h; simp only [List.length_cons]; omega
    · split at h
      · split at h
        · contradiction
        · have := ih h; simp only [List.length_cons]; omega
      · simp only [Option.some.injEq] at h; subst h; simp

theorem length_dropWhile_le (p : Char → Bool) (cs : List Char) :
    (cs.dropWhile p).length ≤ cs.length :=
  (List.dropWhile_suffix p).length_le

theorem length_gap_le (cs : List Char) : (gap cs).left.length ≤ cs.length := by
  have hd := length_dropWhile_le (· == ' ') cs
  simp only [gap]
  split
  · simp
  · rename_i c rest h
    rw [h] at hd
    simp only [List.length_cons] at hd
    split
    · split
      · simp only; omega
      · split
        · rename_i left h'
          have hl : left.length ≤ rest.length := length_emptyLines_le h'
          simp only; omega
        · simp only; omega
    · simpa using hd

/-! ### Scalars -/

/-- A plain scalar that was read: its text, what follows it, and whether a
line ended in the spaces after its last word. -/
structure Read where
  text : List Char
  left : List Char
  crossed : Bool

/-- The words of a scalar from here on.  `before` is the gap that stands
before the next word. -/
def words (flow : Bool) (indent : Int) (before : List Char) (crossed : Bool)
    (cs : List Char) : Read :=
  let w := word flow cs
  if _ : w.1 = [] then ⟨[], cs, crossed⟩
  else
    let g := gap w.2
    if g.text.isEmpty || g.left.head? == some '#'
        || (!flow && g.crossed && (g.column : Int) < indent) then
      ⟨before ++ w.1, g.left, g.crossed⟩
    else
      let rest := words flow indent g.text g.crossed g.left
      { rest with text := before ++ w.1 ++ rest.text }
termination_by cs.length
decreasing_by
  have h1 := length_word_lt flow cs ‹_›
  have h2 := length_gap_le (word flow cs).2
  omega

/-- The plain scalar at the start of a text.  In a block collection the lines
after the first are indented by `indent` at least. -/
def scalar (flow : Bool) (indent : Int) (cs : List Char) : Read := words flow indent [] false cs

end NodeBootstrap.Yaml.Plain

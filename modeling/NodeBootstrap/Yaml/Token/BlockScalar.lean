/-
NodeBootstrap/Yaml/Token/BlockScalar.lean

Literal and folded scalars: the lines below a header, without their common
indentation.  The header may give the indentation and say what happens to the
line ends at the end of the text: all are kept, none is, or one.
-/
import NodeBootstrap.Yaml.Token.Plain

namespace NodeBootstrap.Yaml.BlockScalar

/-- What happens to the line ends at the end. -/
inductive Chomping where
  | strip
  | clip
  | keep
  deriving DecidableEq, Repr

structure Header where
  chomping : Chomping
  increment : Option Nat

def chomping? : Char → Option Chomping
  | '+' => some .keep
  | '-' => some .strip
  | _ => none

/-- A digit that gives an indentation. -/
def increment? (c : Char) : Option Nat := if Digit.isAscii c then Digit.value? c else none

/-- The signs of a header, and what follows them. -/
def header (cs : List Char) : Except Defect (Header × List Char) :=
  let (chomping, increment, left) : Option Chomping × Option Nat × List Char :=
    match cs with
    | [] => (none, none, [])
    | c :: rest =>
      match chomping? c with
      | some ch =>
        match rest with
        | d :: more =>
          match increment? d with
          | some n => (some ch, some n, more)
          | none => (some ch, none, rest)
        | [] => (some ch, none, rest)
      | none =>
        match increment? c with
        | none => (none, none, cs)
        | some n =>
          match rest with
          | d :: more =>
            match chomping? d with
            | some ch => (some ch, some n, more)
            | none => (none, some n, rest)
          | [] => (none, some n, rest)
  if increment = some 0 then .error .malformed
  else if startsPlainSpace left then .ok (⟨chomping.getD .clip, increment⟩, left)
  else .error .malformed

/-! ### Indentation -/

/-- The empty lines before the text, with no indentation given: the line
ends, latest first, the widest and the last indentation, and what follows. -/
def leading (breaks : List Char) (widest column : Nat) :
    List Char → List Char × Nat × Nat × List Char
  | [] => (breaks, widest, column, [])
  | c :: rest =>
    if c = ' ' then leading breaks (max widest (column + 1)) (column + 1) rest
    else if isBreak c then leading (breakChar c :: breaks) widest 0 rest
    else (breaks, widest, column, c :: rest)

/-- The empty lines before a line of text, with a given indentation: the line
ends, latest first, the last indentation, and what follows. -/
def emptyLines (indent : Nat) (breaks : List Char) (column : Nat) :
    List Char → List Char × Nat × List Char
  | [] => (breaks, column, [])
  | c :: rest =>
    if c = ' ' ∧ column < indent then emptyLines indent breaks (column + 1) rest
    else if isBreak c then emptyLines indent (breakChar c :: breaks) 0 rest
    else (breaks, column, c :: rest)

theorem length_emptyLines_le (indent : Nat) (breaks : List Char) (column : Nat) (cs : List Char) :
    (emptyLines indent breaks column cs).2.2.length ≤ cs.length := by
  induction cs generalizing breaks column with
  | nil => simp [emptyLines]
  | cons c rest ih =>
    simp only [emptyLines]
    split
    · exact Nat.le_succ_of_le (ih _ _)
    · split
      · exact Nat.le_succ_of_le (ih _ _)
      · simp

/-! ### Text -/

/-- Whether a line of text starts with a blank. -/
def startsBlank (cs : List Char) : Bool := cs.head?.any isBlank

/-- A line end between two lines of text, with the empty lines that follow
it.  In a folded scalar a line end between two lines that start with no blank
reads as a space, or as nothing if empty lines follow. -/
def lineJoint (isFolded : Bool) (lineEnd : List Char) (flush nextFlush : Bool)
    (breaks : List Char) : List Char :=
  if isFolded && lineEnd == ['\n'] && flush && nextFlush then
    if breaks.isEmpty then [' '] else breaks
  else lineEnd ++ breaks

/-- The end of the text after its last line. -/
def ending (chomping : Chomping) (lineEnd breaks : List Char) : List Char :=
  match chomping with
  | .strip => []
  | .clip => lineEnd
  | .keep => lineEnd ++ breaks

/-- The lines of text from here on, which is inside the indentation. -/
def textLines (isFolded : Bool) (chomping : Chomping) (indent : Nat) :
    List Char → List Char × List Char
  | [] => ([], [])
  | c :: rest =>
    let line := (c :: rest).takeWhile (!isBreak ·)
    match _ : (c :: rest).dropWhile (!isBreak ·) with
    | [] => (line, [])
    | e :: below =>
      let (breaks, column, left) := emptyLines indent [] 0 below
      if column = indent ∧ left ≠ [] then
        let (text, left') := textLines isFolded chomping indent (emptyLines indent [] 0 below).2.2
        (line
          ++ lineJoint isFolded [breakChar e] (!startsBlank (c :: rest)) (!startsBlank left)
            breaks.reverse
          ++ text, left')
      else (line ++ ending chomping [breakChar e] breaks.reverse, left)
termination_by cs => cs.length
decreasing_by
  rename_i h _
  have h1 := length_emptyLines_le indent [] 0 below
  have h2 := Plain.length_dropWhile_le (fun x => !isBreak x) (c :: rest)
  rw [h] at h2
  simp only [List.length_cons] at h2 ⊢
  omega

/-- The text of a scalar from behind the sign of its style, and what follows
it.  `parent` is the indentation of the collection that it stands in. -/
def scalar (isFolded : Bool) (parent : Int) (cs : List Char) :
    Except Defect (List Char × List Char) :=
  match header cs with
  | .error d => .error d
  | .ok (h, left) =>
    match endOfLine left with
    | .error d => .error d
    | .ok below =>
      let least := (max (parent + 1) 1).toNat
      let (breaks, column, indent, left) : List Char × Nat × Nat × List Char :=
        match h.increment with
        | none =>
          let (breaks, widest, column, left) := leading [] 0 0 below
          (breaks, column, max least widest, left)
        | some n =>
          let indent := least + n - 1
          let (breaks, column, left) := emptyLines indent [] 0 below
          (breaks, column, indent, left)
      if column = indent ∧ left ≠ [] then
        let (text, left) := textLines isFolded h.chomping indent left
        .ok (breaks.reverse ++ text, left)
      else .ok (ending h.chomping [] breaks.reverse, left)

end NodeBootstrap.Yaml.BlockScalar

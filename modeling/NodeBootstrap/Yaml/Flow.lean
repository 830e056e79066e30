/-
NodeBootstrap/Yaml/Flow.lean

Flow mappings from names to texts, as they are written.

Lines are kept to `Flow.width` columns where a text allows it: a fold takes
the place of a space between two words, and between double quotes it may stand
before any space and beside any escape.  The column is an argument of the
writing functions, so that each character is written by looking at its
neighbours only.
-/
import NodeBootstrap.Yaml.Style

namespace NodeBootstrap.Yaml.Flow

/-! ### Folding -/

/-- The columns that a line should not go beyond. -/
def width : Nat := 80

/-- The indentation of a scalar that goes on in the next line. -/
def scalarIndent : Nat := 6

def indentation (n : Nat) : List Char := List.replicate n ' '

/-- Whether a space between two given neighbours may become a line end. -/
def foldsAt (column : Nat) (before after : Option Char) : Bool :=
  width < column && before.any (· != ' ') && after.any (· != ' ')

/-! ### Plain and single-quoted text -/

/-- The rest of a plain scalar. -/
def plainBody (column : Nat) (before : Option Char) : List Char → List Char
  | [] => []
  | c :: rest =>
    if c = ' ' ∧ foldsAt column before rest.head? then
      '\n' :: indentation scalarIndent ++ plainBody scalarIndent (some c) rest
    else c :: plainBody (column + 1) (some c) rest

/-- The rest of a text between single quotes.  A quote is written twice; a row
of line ends has one more in front and an indentation behind it. -/
def singleBody (column : Nat) (before : Option Char) : List Char → List Char
  | [] => []
  | c :: rest =>
    if c = ' ' ∧ foldsAt column before rest.head? then
      '\n' :: indentation scalarIndent ++ singleBody scalarIndent (some c) rest
    else if c = '\n' then
      (if before = some '\n' then [] else ['\n']) ++ '\n'
        :: (if rest.head? = some '\n' then [] else indentation scalarIndent)
        ++ singleBody scalarIndent (some c) rest
    else if c = '\'' then '\'' :: '\'' :: singleBody (column + 2) (some c) rest
    else c :: singleBody (column + 1) (some c) rest

/-! ### Double-quoted text -/

/-- The letters of the escapes that have one. -/
def escapeLetter? : Char → Option Char
  | '\x00' => some '0'
  | '\x07' => some 'a'
  | '\x08' => some 'b'
  | '\t' => some 't'
  | '\n' => some 'n'
  | '\x0b' => some 'v'
  | '\x0c' => some 'f'
  | '\r' => some 'r'
  | '\x1b' => some 'e'
  | '"' => some '"'
  | '\\' => some '\\'
  | '\u0085' => some 'N'
  | '\u00a0' => some '_'
  | '\u2028' => some 'L'
  | '\u2029' => some 'P'
  | _ => none

/-- A character that double quotes hold by its escape only. -/
def isEscaped (c : Char) : Bool := !isPrintable c || c == '"' || c == '\\'

/-- The escape of a character. -/
def escape (c : Char) : List Char :=
  match escapeLetter? c with
  | some letter => ['\\', letter]
  | none =>
    if c.toNat < 0x100 then '\\' :: 'x' :: Digit.upperHex 2 c.toNat
    else if c.toNat < 0x10000 then '\\' :: 'u' :: Digit.upperHex 4 c.toNat
    else '\\' :: 'U' :: Digit.upperHex 8 c.toNat

/-- A line end that reads as nothing, before a character: a space there is
marked. -/
def escapedFold (after : Option Char) : List Char :=
  '\\' :: '\n' :: indentation scalarIndent ++ (if after = some ' ' then ['\\'] else [])

/-- The column behind such a line end. -/
def columnAfterFold (after : Option Char) : Nat :=
  if after = some ' ' then scalarIndent + 1 else scalarIndent

/-- The rest of a text between double quotes.  `first` tells whether nothing
is written yet, `escaped` whether an escape was written last. -/
def doubleBody (column : Nat) (first escaped : Bool) : List Char → List Char
  | [] => []
  | c :: rest =>
    let inner := !first && !rest.isEmpty
    if isEscaped c then
      let column := column + (escape c).length
      if inner && width + 1 < column then
        escape c ++ escapedFold rest.head?
          ++ doubleBody (columnAfterFold rest.head?) false true rest
      else escape c ++ doubleBody column false true rest
    else if inner && (c == ' ' || escaped) && width < column then
      escapedFold (some c) ++ c :: doubleBody (columnAfterFold (some c) + 1) false false rest
    else c :: doubleBody (column + 1) false false rest

/-! ### Scalars and mappings -/

/-- A text as a scalar that starts at a column. -/
def scalar (column : Nat) (text : List Char) : List Char :=
  match Style.ofText text with
  | .plain => plainBody column none text
  | .single => '\'' :: singleBody (column + 1) none text ++ ['\'']
  | .double => '"' :: doubleBody (column + 1) true false text ++ ['"']

/-- The column behind some text. -/
def columnAfter (column : Nat) (text : List Char) : Nat :=
  text.foldl (fun n c => if c = '\n' then 0 else n + 1) column

/-- The indentation of an entry that starts a line. -/
def entryIndent : Nat := 4

/-- What stands between two entries. -/
def entryGap (column : Nat) : List Char :=
  if width < column then '\n' :: indentation entryIndent else [' ']

/-- The entries of a flow mapping, from a column on.  The keys are plain
words. -/
def entries (column : Nat) : List (String × String) → List Char
  | [] => []
  | (key, text) :: rest =>
    let head := key.toList ++ [':', ' ']
    let entry := head ++ scalar (column + head.length) text.toList
    match rest with
    | [] => entry
    | _ =>
      let entry := entry ++ [',']
      let gap := entryGap (columnAfter column entry)
      entry ++ gap ++ entries (columnAfter column (entry ++ gap)) rest

/-- A flow mapping that starts at a column. -/
def mapping (column : Nat) (es : List (String × String)) : List Char :=
  '\x7b' :: entries (column + 1) es ++ ['\x7d']

end NodeBootstrap.Yaml.Flow

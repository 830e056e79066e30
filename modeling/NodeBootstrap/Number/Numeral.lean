/-
NodeBootstrap/Number/Numeral.lean

Integers from text.  A numeral is a sign, if any, and a row of digits of any
script, with single underscores allowed between digits and blanks around the
whole.  In base two, eight and sixteen a marker may stand before the digits.
In base ten there may be at most `maxDigits` of them.
-/
import NodeBootstrap.Text.Blank
import NodeBootstrap.Text.Digit

namespace NodeBootstrap.Numeral

/-- Why a text is no integer. -/
inductive Defect where
  /-- It is not of the form of a numeral. -/
  | malformed
  /-- It has more than `maxDigits` digits. -/
  | tooLong (digits : Nat)
  deriving DecidableEq, Repr

/-- The most digits that a decimal numeral may have, leading zeros counted. -/
def maxDigits : Nat := 4300

/-- A row of digits that was read: its number, how many digits it has, and
what follows. -/
structure Row where
  value : Nat
  count : Nat
  rest : List Char

/-- Reads on in a row of digits.  An underscore must stand between digits. -/
def row? (base : Nat) : Nat → Nat → List Char → Option Row
  | value, count, [] => some ⟨value, count, []⟩
  | value, count, '_' :: c :: rest =>
    match Digit.valueIn? base c with
    | some d => row? base (value * base + d) (count + 1) rest
    | none => none
  | value, count, c :: rest =>
    if c = '_' then none
    else
      match Digit.valueIn? base c with
      | some d => row? base (value * base + d) (count + 1) rest
      | none => some ⟨value, count, c :: rest⟩

/-- The letter that marks a base after a leading zero. -/
def marker? (base : Nat) : Option Char :=
  if base = 2 then some 'b' else if base = 8 then some 'o' else if base = 16 then some 'x' else none

/-- The digits without the marker of their base; one underscore may follow
the marker. -/
def dropMarker (base : Nat) (text : List Char) : List Char :=
  match text with
  | zero :: letter :: rest =>
    if Digit.value? zero = some 0 ∧ marker? base = some letter.toLower then
      match rest with
      | '_' :: digits => digits
      | digits => digits
    else text
  | _ => text

/-- The sign of a text, and the text after it. -/
def sign : List Char → Bool × List Char
  | '-' :: rest => (true, rest)
  | '+' :: rest => (false, rest)
  | text => (false, text)

def negateIf (negative : Bool) (n : Nat) : Int :=
  if negative then -(n : Int) else n

/-- The integer that a text writes in the given base. -/
def read (base : Nat) (text : List Char) : Except Defect Int :=
  let (negative, body) := sign (text.dropWhile Blank.isNumeralBlank)
  let digits := dropMarker base body
  if digits.head? = some '_' then .error .malformed
  else
    match row? base 0 0 digits with
    | none => .error .malformed
    | some row =>
      if row.count = 0 then .error .malformed
      else if base = 10 ∧ maxDigits < row.count then .error (.tooLong row.count)
      else if row.rest.all Blank.isNumeralBlank then .ok (negateIf negative row.value)
      else .error .malformed

/-- The integer that a decimal text writes. -/
def ofText (text : String) : Except Defect Int := read 10 text.toList

/-- The decimal numeral of an integer. -/
def ofInt (n : Int) : String := toString n

/-- Tells whether an integer's decimal numeral may be written: it is held to
the same number of digits as one that is read. -/
def isWritable (n : Int) : Bool := n.natAbs < Nat.pow 10 maxDigits

end NodeBootstrap.Numeral

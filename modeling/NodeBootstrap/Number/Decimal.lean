/-
NodeBootstrap/Number/Decimal.lean

Binary64 numbers from decimal text: a sign, digits with a point, an exponent,
or one of the names for infinity and for no number, with blanks around the
whole.
-/
import NodeBootstrap.Number.Binary64
import NodeBootstrap.Number.Numeral

namespace NodeBootstrap.Decimal

/-- The exponent of ten after its mark: a sign, if any, and digits. -/
def exponent? (text : List Char) : Option Int :=
  let (negative, digits) := Numeral.sign text
  if digits.isEmpty || !digits.all Digit.isAscii then none
  else some (Numeral.negateIf negative (Digit.number 10 digits))

/-- The number of a row of digits with a point, times a power of ten. -/
def ofParts (negative : Bool) (whole part : List Char) (exponent : Int) : Binary64 :=
  .ofDecimal negative (Digit.number 10 (whole ++ part)) (exponent - part.length)

/-- A decimal fraction without sign: digits, a point among or beside them,
an exponent. -/
def unsigned? (negative : Bool) (text : List Char) : Option Binary64 :=
  let whole := text.takeWhile Digit.isAscii
  let afterWhole := text.dropWhile Digit.isAscii
  let (part, rest) :=
    match afterWhole with
    | '.' :: more => (more.takeWhile Digit.isAscii, more.dropWhile Digit.isAscii)
    | _ => ([], afterWhole)
  if whole.isEmpty && part.isEmpty then none
  else
    match rest with
    | [] => some (ofParts negative whole part 0)
    | mark :: more =>
      if mark = 'e' ∨ mark = 'E' then (exponent? more).map (ofParts negative whole part) else none

/-- Digits of other scripts as the ASCII digits of their values. -/
def plainDigit (c : Char) : Char :=
  match Digit.value? c with
  | some d => Char.ofNat ('0'.toNat + d)
  | none => c

/-- The number that a text writes. -/
def read? (text : List Char) : Option Binary64 :=
  let (negative, body) := Numeral.sign ((Blank.trim Blank.isNumeralBlank text).map plainDigit)
  let name := String.ofList (body.map Char.toLower)
  if name = "inf" ∨ name = "infinity" then some (.infinite negative)
  else if name = "nan" then some .nan
  else unsigned? negative body

end NodeBootstrap.Decimal

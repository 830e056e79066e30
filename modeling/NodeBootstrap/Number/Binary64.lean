/-
NodeBootstrap/Number/Binary64.lean

Numbers in the binary64 format: signed multiples of a power of two, two
infinities and one value that is no number.  Every operation takes the exact
result as a ratio of integers and rounds it once, to the nearest number of
the format and to the even one of two equally near.
-/

namespace NodeBootstrap

/-- A number of the binary64 format.  The finite number of sign `negative` is
`significand * 2 ^ exponent`; `Binary64.ofRatio` builds it with a significand
below `2 ^ 53` that is either at least `2 ^ 52` or stands at the least
exponent. -/
inductive Binary64 where
  | finite (negative : Bool) (significand : Nat) (exponent : Int)
  | infinite (negative : Bool)
  | nan
  deriving DecidableEq, Repr

namespace Binary64

def minExponent : Int := -1074
def maxExponent : Int := 971

def zero (negative : Bool) : Binary64 := finite negative 0 minExponent

/-- The quotient to the nearest integer, to the even one of two equally
near. -/
def roundDiv (num den : Nat) : Nat :=
  let q := num / den
  let r := num % den
  if 2 * r < den then q
  else if den < 2 * r then q + 1
  else if q % 2 = 0 then q else q + 1

/-- The exponent of the power of two just below or at a positive ratio. -/
def ratioLog (num den : Nat) : Int :=
  let guess : Int := (num.log2 : Int) - den.log2
  if 0 ≤ guess then
    if den * Nat.pow 2 guess.toNat ≤ num then guess else guess - 1
  else
    if den ≤ num * Nat.pow 2 (-guess).toNat then guess else guess - 1

/-- The nearest number of the format to a ratio of integers. -/
def ofRatio (negative : Bool) (num den : Nat) : Binary64 :=
  if num = 0 then zero negative
  else
    let exponent := max (ratioLog num den - 52) minExponent
    let significand :=
      if 0 ≤ exponent then roundDiv num (den * Nat.pow 2 exponent.toNat)
      else roundDiv (num * Nat.pow 2 (-exponent).toNat) den
    let (significand, exponent) :=
      if significand = Nat.pow 2 53 then (Nat.pow 2 52, exponent + 1) else (significand, exponent)
    if maxExponent < exponent then infinite negative else finite negative significand exponent

/-- The nearest number of the format to `significand * 2 ^ exponent`. -/
def ofScaled (negative : Bool) (significand : Nat) (exponent : Int) : Binary64 :=
  if 0 ≤ exponent then ofRatio negative (significand * Nat.pow 2 exponent.toNat) 1
  else ofRatio negative significand (Nat.pow 2 (-exponent).toNat)

/-- How many decimal digits a number has. -/
def decimalWidth (n : Nat) : Nat := (Nat.toDigits 10 n).length

/-- The nearest number of the format to `digits * 10 ^ scale`.  Numbers far
outside its range need no exact arithmetic. -/
def ofDecimal (negative : Bool) (digits : Nat) (scale : Int) : Binary64 :=
  if digits = 0 then zero negative
  else
    let point := decimalWidth digits + scale
    if 310 < point then infinite negative
    else if point < -330 then zero negative
    else if 0 ≤ scale then ofRatio negative (digits * Nat.pow 10 scale.toNat) 1
    else ofRatio negative digits (Nat.pow 10 (-scale).toNat)

/-! ### Arithmetic -/

def neg : Binary64 → Binary64
  | finite s m e => finite (!s) m e
  | infinite s => infinite (!s)
  | nan => nan

def mul : Binary64 → Binary64 → Binary64
  | finite s m e, finite t n f => ofScaled (s != t) (m * n) (e + f)
  | nan, _ => nan
  | _, nan => nan
  | infinite s, finite t n _ => if n = 0 then nan else infinite (s != t)
  | finite s m _, infinite t => if m = 0 then nan else infinite (s != t)
  | infinite s, infinite t => infinite (s != t)

/-- A significand with its sign, as a multiple of `2 ^ low`. -/
def aligned (negative : Bool) (significand : Nat) (exponent low : Int) : Int :=
  let n : Int := (significand * Nat.pow 2 (exponent - low).toNat : Nat)
  if negative then -n else n

def add : Binary64 → Binary64 → Binary64
  | finite s m e, finite t n f =>
    let low := min e f
    let sum := aligned s m e low + aligned t n f low
    if sum = 0 then zero (s && t) else ofScaled (sum < 0) sum.natAbs low
  | nan, _ => nan
  | _, nan => nan
  | infinite s, infinite t => if s = t then infinite s else nan
  | infinite s, _ => infinite s
  | _, infinite t => infinite t

/-- The nearest number of the format to an integer, if the format reaches
that far. -/
def ofInt? (n : Int) : Option Binary64 :=
  match ofRatio (n < 0) n.natAbs 1 with
  | finite s m e => some (finite s m e)
  | _ => none

/-! ### Integers -/

/-- The integer part of a finite number, cut toward zero. -/
def truncate? : Binary64 → Option Int
  | finite s m e =>
    let n : Nat := if 0 ≤ e then m * Nat.pow 2 e.toNat else m / Nat.pow 2 (-e).toNat
    some (if s then -(n : Int) else n)
  | _ => none

/-- The integer that a number equals. -/
def toInt? : Binary64 → Option Int
  | finite s m e =>
    if 0 ≤ e then truncate? (finite s m e)
    else if m % Nat.pow 2 (-e).toNat = 0 then truncate? (finite s m e)
    else none
  | _ => none

def isZero : Binary64 → Bool
  | finite _ m _ => m == 0
  | _ => false

end Binary64

end NodeBootstrap

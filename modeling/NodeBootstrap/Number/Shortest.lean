/-
NodeBootstrap/Number/Shortest.lean

Decimal text of a binary64 number: the fewest digits that are read back as
the number, and of those the digits nearest to it.

The reals that are read back as `m * 2 ^ e` form an interval around it, with
its ends if `m` is even.  For one digit, two digits, and so on, the two
neighbours of the number on the grid of that many digits are tried; the first
grid with a neighbour in the interval gives the digits.
-/
import NodeBootstrap.Number.Binary64

namespace NodeBootstrap.Shortest

/-- The digits of a decimal fraction and the place of its point: the number
is `0.d₁d₂… * 10 ^ point`. -/
structure Fraction where
  digits : List Char
  point : Int
  deriving DecidableEq, Repr

/-- The interval of reals around a positive number, as multiples of
`1 / den`. -/
structure Interval where
  den : Nat
  low : Nat
  value : Nat
  high : Nat
  closed : Bool

/-- The reals that are read back as `significand * 2 ^ exponent`.  Below a
power of two the next number is only half as far. -/
def interval (significand : Nat) (exponent : Int) : Interval :=
  let low :=
    if significand = Nat.pow 2 52 ∧ Binary64.minExponent < exponent then 4 * significand - 1
    else 4 * significand - 2
  let (unit, den) :=
    if 2 ≤ exponent then (Nat.pow 2 (exponent - 2).toNat, 1)
    else (1, Nat.pow 2 (2 - exponent).toNat)
  { den, low := low * unit, value := 4 * significand * unit, high := (4 * significand + 2) * unit
    closed := significand % 2 == 0 }

/-- Whether `n * 10 ^ scale` lies in the interval. -/
def Interval.has (i : Interval) (n : Nat) (scale : Int) : Bool :=
  let (x, t) :=
    if 0 ≤ scale then (n * Nat.pow 10 scale.toNat * i.den, 1)
    else (n * i.den, Nat.pow 10 (-scale).toNat)
  if i.closed then i.low * t ≤ x && x ≤ i.high * t else i.low * t < x && x < i.high * t

/-- The place of the point of a positive ratio: the least `k` with the ratio
below `10 ^ k`. -/
def pointOf (num den : Nat) : Int :=
  let guess : Int := (Binary64.decimalWidth num : Int) - Binary64.decimalWidth den
  let reached :=
    if 0 ≤ guess then den * Nat.pow 10 guess.toNat ≤ num else den ≤ num * Nat.pow 10 (-guess).toNat
  if reached then guess + 1 else guess

/-- The multiple of `10 ^ scale` just below or at the interval's number, and
whether the one above is nearer, or equally near and even. -/
def Interval.below (i : Interval) (scale : Int) : Nat × Bool :=
  let (num, den) :=
    if 0 ≤ scale then (i.value, i.den * Nat.pow 10 scale.toNat)
    else (i.value * Nat.pow 10 (-scale).toNat, i.den)
  let n := num / den
  let twice := 2 * (num % den)
  (n, den < twice || (twice == den && n % 2 == 1))

/-- The digits on the grid of `count` digits, if one of the two neighbours
there is read back as the number. -/
def Interval.onGrid? (i : Interval) (point : Int) (count : Nat) : Option Nat :=
  let scale := point - count
  let (n, aboveFirst) := i.below scale
  let candidates := if aboveFirst then [n + 1, n] else [n, n + 1]
  candidates.find? (i.has · scale)

/-- The digits without zeros at their end. -/
def stripZeros (digits : List Char) : List Char :=
  (digits.reverse.dropWhile (· == '0')).reverse

/-- The shortest digits of `significand * 2 ^ exponent`, a positive number. -/
def fraction (significand : Nat) (exponent : Int) : Fraction :=
  let i := interval significand exponent
  let point := pointOf i.value i.den
  let found := (List.range 17).findSome? fun k => (i.onGrid? point (k + 1)).map (·, k + 1)
  let (n, count) := found.getD ((i.below (point - 17)).1, 17)
  let digits := Nat.toDigits 10 n
  { digits := stripZeros digits, point := point + (digits.length - count) }

/-! ### Text -/

/-- The exponent after its mark: a sign and at least two digits. -/
def exponentText (n : Int) : List Char :=
  let digits := Nat.toDigits 10 n.natAbs
  (if n < 0 then '-' else '+') :: (if digits.length < 2 then '0' :: digits else digits)

/-- A fraction as text.  Between `10 ^ -4` and `10 ^ 16` the digits stand in
their places, with one digit at least on either side of the point; elsewhere
an exponent of ten follows the digits. -/
def layout (f : Fraction) : List Char :=
  if -4 < f.point ∧ f.point ≤ 16 then
    if f.point ≤ 0 then '0' :: '.' :: (List.replicate (-f.point).toNat '0' ++ f.digits)
    else
      let whole := f.digits.take f.point.toNat
      let part := f.digits.drop f.point.toNat
      whole ++ List.replicate (f.point.toNat - whole.length) '0'
        ++ '.' :: (if part.isEmpty then ['0'] else part)
  else
    match f.digits with
    | [] => []
    | [d] => d :: 'e' :: exponentText (f.point - 1)
    | d :: ds => d :: '.' :: ds ++ 'e' :: exponentText (f.point - 1)

end NodeBootstrap.Shortest

namespace NodeBootstrap.Binary64

/-- The shortest text that is read back as the number. -/
def text : Binary64 → String
  | nan => "nan"
  | infinite negative => if negative then "-inf" else "inf"
  | finite negative m e =>
    let body := if m = 0 then ['0', '.', '0'] else Shortest.layout (Shortest.fraction m e)
    String.ofList (if negative then '-' :: body else body)

end NodeBootstrap.Binary64

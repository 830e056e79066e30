/-
NodeBootstrap/Yaml/ScalarValue.lean

The values of scalars, by their tags.  Numbers may have underscores among
their digits; integers may be written in base two, eight, ten, sixteen and
sixty.
-/
import NodeBootstrap.Number.Decimal
import NodeBootstrap.Text.Base64
import NodeBootstrap.Value.Basic
import NodeBootstrap.Yaml.Tag

namespace NodeBootstrap.Yaml.ScalarValue

def withoutUnderscores (cs : List Char) : List Char := cs.filter (· != '_')

/-! ### Numbers -/

/-- The integer that a numeral in a base writes. -/
def numeral (base : Nat) (cs : List Char) : Except Defect Int :=
  match Numeral.read base cs with
  | .ok n => .ok n
  | .error _ => .error (.broken .badValue)

/-- A number from its parts in base sixty. -/
def ofSixtieths (parts : List Int) : Int := parts.foldl (fun n p => n * 60 + p) 0

/-- An integer without its sign. -/
def magnitude (cs : List Char) : Except Defect Int :=
  match cs with
  | [] => .error (.broken .missingItem)
  | '0' :: 'b' :: digits => numeral 2 digits
  | '0' :: 'x' :: digits => numeral 16 digits
  | '0' :: _ => numeral 8 cs
  | _ =>
    if cs.contains ':' then do
      let parts ← (Split.parts ':' cs).mapM (numeral 10)
      return ofSixtieths parts
    else numeral 10 cs

def int (text : List Char) : Except Defect Int :=
  match withoutUnderscores text with
  | [] => .error (.broken .missingItem)
  | '-' :: rest => do return -(← magnitude rest)
  | '+' :: rest => magnitude rest
  | cs => magnitude cs

/-- A fraction that a text writes. -/
def decimal (cs : List Char) : Except Defect Binary64 :=
  match Decimal.read? cs with
  | some x => .ok x
  | none => .error (.broken .badValue)

/-- The sum of parts in base sixty, the least first, from a power on. -/
def sumSixtieths : Int → Binary64 → List Binary64 → Except Defect Binary64
  | _, sum, [] => .ok sum
  | power, sum, x :: rest =>
    match Binary64.ofInt? power with
    | none => .error (.broken .tooLarge)
    | some p => sumSixtieths (power * 60) (sum.add (x.mul p)) rest

/-- A fraction without its sign. -/
def fraction (cs : List Char) : Except Defect Binary64 :=
  if cs = ".inf".toList then .ok (.infinite false)
  else if cs = ".nan".toList then .ok .nan
  else if cs.contains ':' then do
    let parts ← (Split.parts ':' cs).mapM decimal
    sumSixtieths 1 (.zero false) parts.reverse
  else decimal cs

def float (text : List Char) : Except Defect Binary64 :=
  match (withoutUnderscores text).map Char.toLower with
  | [] => .error (.broken .missingItem)
  | '-' :: rest => do return (← fraction rest).neg
  | '+' :: rest => fraction rest
  | cs => fraction cs

/-! ### Other scalars -/

def bool (text : List Char) : Except Defect Bool :=
  let s := String.ofList (text.map Char.toLower)
  if s ∈ ["yes", "true", "on"] then .ok true
  else if s ∈ ["no", "false", "off"] then .ok false
  else .error (.broken .missingKey)

def binary (text : List Char) : Except Defect (List UInt8) :=
  if text.all fun c => c.toNat < 0x80 then
    match Base64.decode? text with
    | some bytes => .ok bytes
    | none => .error .malformed
  else .error .malformed

/-- The microseconds of a fraction of a second: six digits of it count. -/
def microseconds (digits : List Char) : Nat :=
  let six := digits.take 6
  Digit.number 10 six * Nat.pow 10 (6 - six.length)

/-- The minutes that a zone is ahead. -/
def offset (zone : List Char) : Option Int :=
  match zone with
  | [] => none
  | ['Z'] => some 0
  | sign :: rest =>
    let parts := (Split.parts ':' rest).map (Digit.number 10)
    let minutes := match parts with
      | [hours] => hours * 60
      | hours :: minutes :: _ => hours * 60 + minutes
      | [] => 0
    some (Numeral.negateIf (sign == '-') minutes)

/-- The date or moment of a timestamp. -/
def ofStamp (s : Tag.Stamp) : Except Defect Value :=
  let date : Date := ⟨Digit.number 10 s.year, Digit.number 10 s.month, Digit.number 10 s.day⟩
  match s.clock with
  | none => if date.IsValid then .ok (.date date) else .error (.broken .badValue)
  | some (hour, minute, second) =>
    let moment : Moment :=
      { date, hour := Digit.number 10 hour, minute := Digit.number 10 minute
        second := Digit.number 10 second, microsecond := microseconds s.fraction
        offset := offset s.zone }
    if moment.IsValid then .ok (.moment moment) else .error (.broken .badValue)

/-- A text without one line end at its end. -/
def withoutLastBreak (cs : List Char) : List Char :=
  match cs.getLast? with
  | some '\n' => cs.dropLast
  | _ => cs

def timestamp (text : List Char) : Except Defect Value :=
  match Tag.stamp? (withoutLastBreak text) with
  | some s => ofStamp s
  | none => .error (.broken .missingOperation)

/-- The value of a scalar; a tag of a collection gives none. -/
def ofText (tag : Tag) (text : List Char) : Except Defect Value :=
  match tag with
  | .null => .ok .null
  | .bool => (bool text).map .bool
  | .int => (int text).map .int
  | .float => (float text).map .float
  | .binary => (binary text).map .bytes
  | .timestamp => timestamp text
  | .text => .ok (.text (String.ofList text))
  | _ => .error .malformed

end NodeBootstrap.Yaml.ScalarValue

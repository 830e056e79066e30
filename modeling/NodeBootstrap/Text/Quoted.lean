/-
NodeBootstrap/Text/Quoted.lean

Quoted text, as messages show a value that came from outside.  The quote is
the single one unless the text holds a single quote and no double quote.
A backslash stands before the quote, before itself and before `n`, `r`, `t`;
any other character that is not printable is written by its code point.
-/
import NodeBootstrap.Text.Digit
import NodeBootstrap.Text.Printable

namespace NodeBootstrap.Quoted

/-- The quote that a text is written between. -/
def quoteFor (text : List Char) : Char :=
  if '\'' ∈ text ∧ '"' ∉ text then '"' else '\''

/-- A character inside the given quotes. -/
def escape (quote c : Char) : List Char :=
  if c = quote ∨ c = '\\' then ['\\', c]
  else if c = '\n' then ['\\', 'n']
  else if c = '\r' then ['\\', 'r']
  else if c = '\t' then ['\\', 't']
  else if Printable.isPrintable c then [c]
  else if c.toNat < 0x100 then '\\' :: 'x' :: Digit.hex 2 c.toNat
  else if c.toNat < 0x10000 then '\\' :: 'u' :: Digit.hex 4 c.toNat
  else '\\' :: 'U' :: Digit.hex 8 c.toNat

def encode (text : List Char) : List Char :=
  let quote := quoteFor text
  quote :: text.flatMap (escape quote) ++ [quote]

def quoted (text : String) : String := String.ofList (encode text.toList)

/-- A byte inside the given quotes: printable ASCII as itself, the rest by
its number. -/
def escapeByte (quote : Char) (b : UInt8) : List Char :=
  let c := Char.ofNat b.toNat
  if b < 0x80 then escape quote c else '\\' :: 'x' :: Digit.hex 2 b.toNat

/-- Bytes in quotes, marked by a leading `b`. -/
def quotedBytes (bytes : List UInt8) : String :=
  let quote := quoteFor (bytes.map fun b => Char.ofNat b.toNat)
  String.ofList ('b' :: quote :: bytes.flatMap (escapeByte quote) ++ [quote])

end NodeBootstrap.Quoted

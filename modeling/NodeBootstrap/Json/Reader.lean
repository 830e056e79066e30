/-
NodeBootstrap/Json/Reader.lean

Reading JSON.  Beside the standard forms the reader takes `NaN`, `Infinity`
and `-Infinity`.  A text that is no document is refused with the reason and
the place where it was found.

Reading recurses on a bound for the nesting; the length of the text is
enough, since every level takes at least one character.
-/
import NodeBootstrap.Json.Basic
import NodeBootstrap.Number.Decimal

namespace NodeBootstrap.Json

/-- What a reader missed or refused. -/
inductive Expected where
  | value
  | propertyName
  | colon
  | comma
  | endOfText
  | closingQuote
  | plainCharacter
  | knownEscape
  | unicodeEscape
  | noByteOrderMark
  deriving DecidableEq, Repr

/-- Why a text is no document.  A place is given by what is left of the text
there. -/
inductive Defect where
  | syntactic (expected : Expected) (left : List Char)
  | numberTooLong
  deriving DecidableEq, Repr

namespace Expected

def message : Expected → String
  | value => "Expecting value"
  | propertyName => "Expecting property name enclosed in double quotes"
  | colon => "Expecting ':' delimiter"
  | comma => "Expecting ',' delimiter"
  | endOfText => "Extra data"
  | closingQuote => "Unterminated string starting at"
  | plainCharacter => "Invalid control character at"
  | knownEscape => "Invalid \\escape"
  | unicodeEscape => "Invalid \\uXXXX escape"
  | noByteOrderMark => "Unexpected UTF-8 BOM (decode using utf-8-sig)"

/-- The reason with the line, the column and the offset of its place in a
text. -/
def messageAt (e : Expected) (text left : List Char) : String :=
  let offset := text.length - left.length
  let before := text.take offset
  let line := before.count '\n' + 1
  let column := (before.reverse.takeWhile (· != '\n')).length + 1
  e.message ++ ": line " ++ Numeral.ofInt line ++ " column " ++ Numeral.ofInt column
    ++ " (char " ++ Numeral.ofInt offset ++ ")"

end Expected

def fail {α : Type} (expected : Expected) (left : List Char) : Except Defect α :=
  .error (.syntactic expected left)

def isSpace (c : Char) : Bool := c == ' ' || c == '\t' || c == '\n' || c == '\r'

def skipSpace (cs : List Char) : List Char := cs.dropWhile isSpace

/-! ### Strings -/

/-- The character that a letter stands for after a backslash. -/
def escaped? : Char → Option Char
  | '"' => some '"'
  | '\\' => some '\\'
  | '/' => some '/'
  | 'b' => some '\x08'
  | 'f' => some '\x0c'
  | 'n' => some '\n'
  | 'r' => some '\r'
  | 't' => some '\t'
  | _ => none

/-- Four hexadecimal digits, with at least one more character behind them. -/
def unit? : List Char → Option (Nat × List Char)
  | a :: b :: c :: d :: next :: rest =>
    if [a, b, c, d].all Digit.isHex then some (Digit.number 16 [a, b, c, d], next :: rest) else none
  | _ => none

def isHighSurrogate (n : Nat) : Bool := 0xd800 ≤ n && n < 0xdc00

def isLowSurrogate (n : Nat) : Bool := 0xdc00 ≤ n && n < 0xe000

/-- The low half of a surrogate pair, if one follows. -/
def lowHalf? : List Char → Option (Except Unit (Nat × List Char))
  | '\\' :: 'u' :: a :: b :: c :: d :: next :: rest =>
    match unit? (a :: b :: c :: d :: next :: rest) with
    | none => some (.error ())
    | some (low, left) => if isLowSurrogate low then some (.ok (low, left)) else none
  | _ => none

/-- The characters of a string up to its closing quote.  `opening` is the text
from the opening quote on.  The recursion is on a bound for the length. -/
def string (opening : List Char) : Nat → List Char → List Char → Except Defect (String × List Char)
  | 0, _, _ => fail .closingQuote opening
  | _ + 1, _, [] => fail .closingQuote opening
  | n + 1, acc, c :: rest =>
    if c = '"' then .ok (String.ofList acc.reverse, rest)
    else if c = '\\' then
      match rest with
      | [] => fail .closingQuote opening
      | 'u' :: digits =>
        match unit? digits with
        | none => fail .unicodeEscape rest
        | some (unit, left) =>
          if isHighSurrogate unit then
            match lowHalf? left with
            | none => string opening n (Char.ofNat unit :: acc) left
            | some (.error ()) => fail .unicodeEscape (left.drop 1)
            | some (.ok (low, left)) =>
              string opening n
                (Char.ofNat (0x10000 + (unit - 0xd800) * 0x400 + (low - 0xdc00)) :: acc) left
          else string opening n (Char.ofNat unit :: acc) left
      | letter :: left =>
        match escaped? letter with
        | none => fail .knownEscape (c :: rest)
        | some e => string opening n (e :: acc) left
    else if c.toNat ≤ 0x1f then fail .plainCharacter (c :: rest)
    else string opening n (c :: acc) rest

/-- A string after its opening quote. -/
def stringAfter (rest : List Char) : Except Defect (String × List Char) :=
  string ('"' :: rest) (rest.length + 1) [] rest

/-! ### Numbers -/

/-- The part of a number after its integer: a point with digits. -/
def fractionPart (cs : List Char) : List Char × List Char :=
  match cs with
  | '.' :: rest =>
    let digits := rest.takeWhile Digit.isAscii
    if digits.isEmpty then ([], cs) else ('.' :: digits, rest.dropWhile Digit.isAscii)
  | _ => ([], cs)

/-- The exponent of a number: a mark, a sign if any, and digits. -/
def exponentPart (cs : List Char) : List Char × List Char :=
  match cs with
  | mark :: rest =>
    if mark = 'e' ∨ mark = 'E' then
      let (sign, rest) :=
        match rest with
        | '-' :: more => (['-'], more)
        | '+' :: more => (['+'], more)
        | _ => ([], rest)
      let digits := rest.takeWhile Digit.isAscii
      if digits.isEmpty then ([], cs) else (mark :: sign ++ digits, rest.dropWhile Digit.isAscii)
    else ([], cs)
  | [] => ([], cs)

/-- The digits of the integer part; a leading zero stands alone. -/
def integerPart : List Char → List Char × List Char
  | '0' :: rest => (['0'], rest)
  | cs => (cs.takeWhile Digit.isAscii, cs.dropWhile Digit.isAscii)

/-- A number.  `start` is the text from its sign on. -/
def number (start : List Char) : Except Defect (Json × List Char) :=
  let (negative, body) : Bool × List Char :=
    match start with
    | '-' :: rest => (true, rest)
    | _ => (false, start)
  let (whole, rest) := integerPart body
  if whole.isEmpty then fail .value start
  else
    let (fraction, rest) := fractionPart rest
    let (exponent, rest) := exponentPart rest
    if fraction.isEmpty && exponent.isEmpty then
      if Numeral.maxDigits < whole.length then .error .numberTooLong
      else .ok (.int (Numeral.negateIf negative (Digit.number 10 whole)), rest)
    else
      match Decimal.unsigned? negative (whole ++ fraction ++ exponent) with
      | some x => .ok (.float x, rest)
      | none => fail .value start

/-! ### Values -/

/-- The names that stand for a value. -/
def names : List (List Char × Json) :=
  [("null".toList, .null), ("true".toList, .bool true), ("false".toList, .bool false),
   ("NaN".toList, .float .nan), ("Infinity".toList, .float (.infinite false)),
   ("-Infinity".toList, .float (.infinite true))]

/-- A value that is written by a name. -/
def named? (cs : List Char) : Option (Json × List Char) :=
  (names.find? fun entry => entry.1.isPrefixOf cs).map fun entry =>
    (entry.2, cs.drop entry.1.length)

mutual

/-- A value at the start of a text. -/
def value : Nat → List Char → Except Defect (Json × List Char)
  | 0, cs => fail .value cs
  | n + 1, cs =>
    match cs with
    | '"' :: rest => (stringAfter rest).map fun (s, left) => (.text s, left)
    | '\x7b' :: rest =>
      match skipSpace rest with
      | '\x7d' :: left => .ok (.object [], left)
      | inner => (members n [] inner).map fun (fields, left) => (ofFields fields, left)
    | '[' :: rest =>
      match skipSpace rest with
      | ']' :: left => .ok (.list [], left)
      | inner => (items n [] inner).map fun (js, left) => (.list js, left)
    | _ =>
      match named? cs with
      | some found => .ok found
      | none => number cs

/-- The items of a list up to its end. -/
def items : Nat → List Json → List Char → Except Defect (List Json × List Char)
  | 0, _, cs => fail .value cs
  | n + 1, acc, cs => do
    let (j, left) ← value n cs
    match skipSpace left with
    | ']' :: rest => .ok ((j :: acc).reverse, rest)
    | ',' :: rest => items n (j :: acc) (skipSpace rest)
    | left => fail .comma left

/-- The fields of an object up to its end. -/
def members : Nat → List (String × Json) → List Char →
    Except Defect (List (String × Json) × List Char)
  | 0, _, cs => fail .value cs
  | n + 1, acc, cs =>
    match cs with
    | '"' :: rest => do
      let (name, left) ← stringAfter rest
      match skipSpace left with
      | ':' :: rest => do
        let (j, left) ← value n (skipSpace rest)
        match skipSpace left with
        | '\x7d' :: rest => .ok (((name, j) :: acc).reverse, rest)
        | ',' :: rest => members n ((name, j) :: acc) (skipSpace rest)
        | left => fail .comma left
      | left => fail .colon left
    | _ => fail .propertyName cs

end

/-- The document that a text holds. -/
def read (text : List Char) : Except Defect Json :=
  if text.head? = some '\ufeff' then fail .noByteOrderMark text
  else do
    let (j, left) ← value (2 * text.length + 2) (skipSpace text)
    match skipSpace left with
    | [] => .ok j
    | left => fail .endOfText left

end NodeBootstrap.Json

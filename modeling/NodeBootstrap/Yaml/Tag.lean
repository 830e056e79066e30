/-
NodeBootstrap/Yaml/Tag.lean

Tags: what kind of value a node stands for.  A plain scalar without a tag is
typed by its text: `yes`, `0x1F`, `12:30`, `1.5`, `2020-01-01`, `~` and their
like are no texts (YAML 1.1).
-/
import NodeBootstrap.Text.Split
import NodeBootstrap.Yaml.Character

namespace NodeBootstrap.Yaml

inductive Tag where
  | null
  | bool
  | int
  | float
  | binary
  | timestamp
  | orderedMap
  | pairs
  | set
  | text
  | list
  | map
  | merge
  | value
  /-- A tag that stands for no kind of value. -/
  | unknown
  deriving DecidableEq, Repr

namespace Tag

/-- What the names of the known tags start with. -/
def commonPrefix : String := "tag:yaml.org,2002:"

/-- The known tags by their names. -/
def known : List (String × Tag) :=
  [("null", null), ("bool", bool), ("int", int), ("float", float), ("binary", binary),
   ("timestamp", timestamp), ("omap", orderedMap), ("pairs", pairs), ("set", set), ("str", text),
   ("seq", list), ("map", map), ("merge", merge), ("value", value)]

def ofName (name : String) : Tag :=
  match known.find? fun entry => commonPrefix ++ entry.1 == name with
  | some entry => entry.2
  | none => unknown

/-! ### Texts that are typed -/

def nullTexts : List String := ["", "~", "null", "Null", "NULL"]

def boolTexts : List String :=
  ["yes", "Yes", "YES", "no", "No", "NO", "true", "True", "TRUE", "false", "False", "FALSE",
   "on", "On", "ON", "off", "Off", "OFF"]

def infinityTexts : List String := [".inf", ".Inf", ".INF"]

def nanTexts : List String := [".nan", ".NaN", ".NAN"]

/-- The text without a sign at its start. -/
def unsigned (cs : List Char) : List Char :=
  match cs with
  | '-' :: rest => rest
  | '+' :: rest => rest
  | _ => cs

def isDigits (cs : List Char) : Bool := !cs.isEmpty && cs.all Digit.isAscii

/-- Digits with underscores among them. -/
def isSpacedDigit (c : Char) : Bool := Digit.isAscii c || c == '_'

def startsDigit (cs : List Char) : Bool := cs.head?.any Digit.isAscii

/-- A part of a number in base sixty: one digit, or two below sixty. -/
def isSixtieth : List Char → Bool
  | [a] => Digit.isAscii a
  | [a, b] => ('0' ≤ a && a ≤ '5') && Digit.isAscii b
  | _ => false

/-- The parts of a number in base sixty, two at least. -/
def isSexagesimal (cs : List Char) : Bool :=
  match Split.parts ':' cs with
  | first :: second :: more =>
    startsDigit first && first.all isSpacedDigit && (second :: more).all isSixtieth
  | _ => false

def isInt (cs : List Char) : Bool :=
  match unsigned cs with
  | '0' :: 'b' :: digits => !digits.isEmpty && digits.all fun c => c == '0' || c == '1' || c == '_'
  | '0' :: 'x' :: digits => !digits.isEmpty && digits.all fun c => Digit.isHex c || c == '_'
  | '0' :: digits => digits.all fun c => ('0' ≤ c && c ≤ '7') || c == '_'
  | digits => startsDigit digits && (digits.all isSpacedDigit || isSexagesimal digits)

/-- Nothing, or an exponent with its sign. -/
def isExponent : List Char → Bool
  | [] => true
  | mark :: sign :: digits =>
    (mark == 'e' || mark == 'E') && (sign == '-' || sign == '+') && isDigits digits
  | _ => false

/-- A fraction: digits, a point, and perhaps more digits and an exponent. -/
def isFraction (cs : List Char) : Bool :=
  startsDigit cs &&
    match cs.dropWhile isSpacedDigit with
    | '.' :: rest => isExponent (rest.dropWhile isSpacedDigit)
    | _ => false

/-- A fraction in base sixty, with a point behind its last part. -/
def isSexagesimalFraction (cs : List Char) : Bool :=
  let whole := cs.takeWhile (· != '.')
  match cs.dropWhile (· != '.') with
  | '.' :: part => isSexagesimal whole && part.all isSpacedDigit
  | _ => false

def isFloat (cs : List Char) : Bool :=
  (match cs with
   | '.' :: rest => startsDigit rest && isExponent (rest.dropWhile isSpacedDigit)
   | _ => false)
    || isFraction (unsigned cs) || isSexagesimalFraction (unsigned cs)
    || infinityTexts.contains (String.ofList (unsigned cs)) || nanTexts.contains (String.ofList cs)

/-! ### Timestamps -/

/-- The texts of the parts of a timestamp.  The clock is hour, minute and
second; the zone is empty, `Z`, or sign, hours and minutes. -/
structure Stamp where
  year : List Char
  month : List Char
  day : List Char
  clock : Option (List Char × List Char × List Char)
  fraction : List Char
  zone : List Char
  deriving Repr

/-- Digits at the start of a text, one or two of them. -/
def oneOrTwo? : List Char → Option (List Char × List Char)
  | a :: b :: rest =>
    if Digit.isAscii a then
      if Digit.isAscii b then some ([a, b], rest) else some ([a], b :: rest)
    else none
  | [a] => if Digit.isAscii a then some ([a], []) else none
  | [] => none

/-- Exactly two digits at the start of a text. -/
def two? : List Char → Option (List Char × List Char)
  | a :: b :: rest => if Digit.isAscii a && Digit.isAscii b then some ([a, b], rest) else none
  | _ => none

/-- The text behind a character that must stand there. -/
def behind? (mark : Char) : List Char → Option (List Char)
  | c :: rest => if c = mark then some rest else none
  | [] => none

/-- Whether a text is nothing or a zone. -/
def isZone : List Char → Bool
  | [] => true
  | ['Z'] => true
  | sign :: rest =>
    (sign == '-' || sign == '+') &&
      match oneOrTwo? rest with
      | some (_, []) => true
      | some (_, ':' :: more) => more.length == 2 && isDigits more
      | _ => false

/-- The time of day in a timestamp, with its zone. -/
def clock? (year month day : List Char) (cs : List Char) : Option Stamp := do
  let (hour, rest) ← oneOrTwo? cs
  let rest ← behind? ':' rest
  let (minute, rest) ← two? rest
  let rest ← behind? ':' rest
  let (second, rest) ← two? rest
  let (fraction, rest) :=
    match rest with
    | '.' :: more => (more.takeWhile Digit.isAscii, more.dropWhile Digit.isAscii)
    | _ => ([], rest)
  let zone := rest.dropWhile isBlank
  -- blanks stand only before a zone
  if isZone zone && (!zone.isEmpty || rest.isEmpty) then
    some ⟨year, month, day, some (hour, minute, second), fraction, zone⟩
  else none

/-- The parts of a timestamp. -/
def stamp? (cs : List Char) : Option Stamp :=
  match cs with
  | a :: b :: c :: d :: '-' :: rest => do
    let year := [a, b, c, d]
    if !isDigits year then none
    else
      let (month, rest) ← oneOrTwo? rest
      let rest ← behind? '-' rest
      let (day, rest) ← oneOrTwo? rest
      match rest with
      | [] => some ⟨year, month, day, none, [], []⟩
      | mark :: more =>
        if mark = 'T' ∨ mark = 't' then clock? year month day more
        else if isBlank mark then clock? year month day (rest.dropWhile isBlank)
        else none
  | _ => none

/-- A text that is typed as a timestamp: a date alone is given in full. -/
def isTimestamp (cs : List Char) : Bool :=
  match stamp? cs with
  | some s => s.clock.isSome || (s.month.length == 2 && s.day.length == 2)
  | none => false

/-! ### Typing -/

/-- The tag of a plain text that does not end in a line end. -/
def ofLine (cs : List Char) : Tag :=
  let s := String.ofList cs
  if boolTexts.contains s then bool
  else if isFloat cs then float
  else if isInt cs then int
  else if s = "<<" then merge
  else if nullTexts.contains s then null
  else if isTimestamp cs then timestamp
  else if s = "=" then value
  else if s = "!" ∨ s = "&" ∨ s = "*" then unknown
  else text

/-- The tag of a plain scalar.  One line end at its end is not looked at,
unless there is nothing else. -/
def ofPlain (cs : List Char) : Tag :=
  match cs.getLast? with
  | some '\n' => if cs.length = 1 then text else ofLine cs.dropLast
  | _ => ofLine cs

end Tag

end NodeBootstrap.Yaml

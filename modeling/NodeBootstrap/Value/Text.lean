/-
NodeBootstrap/Value/Text.lean

Values as text.  `Value.toText` is how a value stands in a name, an address or
a message: a text as itself, anything else as `Value.shown`.  `Value.shown` is
how it stands inside a collection, with texts in quotes.
-/
import NodeBootstrap.Number.Numeral
import NodeBootstrap.Number.Shortest
import NodeBootstrap.Text.Quoted
import NodeBootstrap.Value.Basic

namespace NodeBootstrap

/-- Items with a comma and a space between them. -/
def commaSeparated (items : List String) : String := ", ".intercalate items

namespace Date

/-- A date inside a collection. -/
def shown (d : Date) : String :=
  "datetime.date("
    ++ commaSeparated ([d.year, d.month, d.day].map fun n : Nat => Numeral.ofInt n) ++ ")"

end Date

namespace Moment

/-- An offset inside a collection: days and seconds, zeros left out. -/
def offsetShown (o : Int) : String :=
  if o = 0 then "datetime.timezone.utc"
  else
    let days := Int.fdiv o 1440
    let seconds := (o - days * 1440) * 60
    let parts :=
      (if days = 0 then [] else ["days=" ++ Numeral.ofInt days])
        ++ (if seconds = 0 then [] else ["seconds=" ++ Numeral.ofInt seconds])
    "datetime.timezone(datetime.timedelta(" ++ commaSeparated parts ++ "))"

/-- A moment inside a collection; zero seconds and fractions are left out. -/
def shown (m : Moment) : String :=
  let fields := [m.date.year, m.date.month, m.date.day, m.hour, m.minute]
    ++ (if m.microsecond = 0 then (if m.second = 0 then [] else [m.second])
        else [m.second, m.microsecond])
  let zone :=
    match m.offset with
    | none => []
    | some o => ["tzinfo=" ++ offsetShown o]
  "datetime.datetime("
    ++ commaSeparated (fields.map (fun n : Nat => Numeral.ofInt n) ++ zone) ++ ")"

end Moment

namespace Value

mutual

/-- A value inside a collection. -/
def shown : Value → String
  | null => "None"
  | bool b => if b then "True" else "False"
  | int n => Numeral.ofInt n
  | float x => x.text
  | text s => Quoted.quoted s
  | bytes bs => Quoted.quotedBytes bs
  | date d => d.shown
  | moment m => m.shown
  | pair a b => "(" ++ a.shown ++ ", " ++ b.shown ++ ")"
  | list items => "[" ++ commaSeparated (shownItems items) ++ "]"
  | map entries => "\x7b" ++ commaSeparated (shownEntries entries) ++ "\x7d"
  | set [] => "set()"
  | set (m :: ms) => "\x7b" ++ commaSeparated (m.shown :: shownItems ms) ++ "\x7d"

def shownItems : List Value → List String
  | [] => []
  | v :: vs => v.shown :: shownItems vs

def shownEntries : List (Value × Value) → List String
  | [] => []
  | (k, v) :: rest => (k.shown ++ ": " ++ v.shown) :: shownEntries rest

end

mutual

/-- Tells whether a value has a text: every integer in it must be writable. -/
def isShowable : Value → Bool
  | int n => Numeral.isWritable n
  | pair a b => a.isShowable && b.isShowable
  | list items | set items => itemsAreShowable items
  | map entries => entriesAreShowable entries
  | null | bool _ | float _ | text _ | bytes _ | date _ | moment _ => true

def itemsAreShowable : List Value → Bool
  | [] => true
  | v :: vs => v.isShowable && itemsAreShowable vs

def entriesAreShowable : List (Value × Value) → Bool
  | [] => true
  | (k, v) :: rest => k.isShowable && v.isShowable && entriesAreShowable rest

end

/-- A value as a name or a part of one. -/
def toText : Value → String
  | text s => s
  | date d => d.text
  | moment m => m.textWith " "
  | v => v.shown

end Value

end NodeBootstrap

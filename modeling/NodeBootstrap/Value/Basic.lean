/-
NodeBootstrap/Value/Basic.lean

Values of a configuration document: what a YAML reader makes of a text, and
what an operator may put where a name is expected.

Keys of a mapping are compared by `Value.sameKey`: truth values and integral
fractions count as the integers they equal, so `true`, `1` and `1.0` are one
key.  Of two entries with the same key the first key and the last value stay.
-/
import NodeBootstrap.Number.Binary64
import NodeBootstrap.Value.Calendar

namespace NodeBootstrap

inductive Value where
  | null
  | bool (b : Bool)
  | int (n : Int)
  | float (x : Binary64)
  | text (s : String)
  | bytes (bs : List UInt8)
  | date (d : Date)
  | moment (m : Moment)
  | pair (first second : Value)
  | list (items : List Value)
  | map (entries : List (Value × Value))
  | set (members : List Value)
  deriving Repr

namespace Value

/-- A value that counts as given: not null, false, zero or empty. -/
def isGiven : Value → Bool
  | null => false
  | bool b => b
  | int n => n != 0
  | float x => !x.isZero
  | text s => s != ""
  | bytes bs => !bs.isEmpty
  | date _ | moment _ | pair _ _ => true
  | list items => !items.isEmpty
  | map entries => !entries.isEmpty
  | set members => !members.isEmpty

/-- A value that may be the key of a mapping: one that is no collection and
holds none. -/
def isKey : Value → Bool
  | list _ | map _ | set _ => false
  | pair a b => a.isKey && b.isKey
  | _ => true

/-- The items of a value, if it has any: those of a collection, the characters
of a text, the numbers of bytes. -/
def items? : Value → Option (List Value)
  | text s => some (s.toList.map fun c => text (String.singleton c))
  | bytes bs => some (bs.map fun b => int b.toNat)
  | pair a b => some [a, b]
  | list items => some items
  | map entries => some (entries.map (·.1))
  | set members => some members
  | _ => none

/-! ### Keys -/

/-- A number as the integer it equals. -/
def integer? : Value → Option Int
  | bool b => some (if b then 1 else 0)
  | int n => some n
  | float x => x.toInt?
  | _ => none

/-- Whether two keys are the same key. -/
def sameKey : Value → Value → Bool
  | null, null => true
  | float .nan, float .nan => true
  | text s, text t => s == t
  | bytes bs, bytes cs => bs == cs
  | date d, date e => d == e
  | moment m, moment n => m.same n
  | pair a b, pair c d => sameKey a c && sameKey b d
  | a, b =>
    match integer? a, integer? b with
    | some m, some n => m == n
    | none, none =>
      match a, b with
      | float x, float y => x == y
      | _, _ => false
    | _, _ => false

/-- Puts an entry into a mapping. -/
def insertEntry (key value : Value) : List (Value × Value) → List (Value × Value)
  | [] => [(key, value)]
  | (k, v) :: rest =>
    if sameKey k key then (k, value) :: rest else (k, v) :: insertEntry key value rest

/-- Puts entries into a mapping, one after the other. -/
def insertEntries (entries new : List (Value × Value)) : List (Value × Value) :=
  new.foldl (fun acc entry => insertEntry entry.1 entry.2 acc) entries

/-- Puts a member into a set. -/
def insertMember (key : Value) : List Value → List Value
  | [] => [key]
  | k :: rest => if sameKey k key then k :: rest else k :: insertMember key rest

/-- The value of a text key in the entries of a mapping. -/
def lookup (key : String) (entries : List (Value × Value)) : Option Value :=
  (entries.find? fun entry => sameKey entry.1 (text key)).map (·.2)

end Value

end NodeBootstrap

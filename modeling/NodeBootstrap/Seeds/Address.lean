/-
NodeBootstrap/Seeds/Address.lean

Addresses of hosts.  An IPv4 address is four numbers below 256 without leading
zeros; an IPv6 address is eight groups of up to four hexadecimal digits, of
which one run of zeros may be left out and the last two may be written as an
IPv4 address.  The text of an IPv6 address is in lower case without leading
zeros, and its longest run of two or more zeros is left out.
-/
import NodeBootstrap.Number.Numeral
import NodeBootstrap.Text.Split

namespace NodeBootstrap

inductive Address where
  | v4 (octets : List Nat)
  | v6 (groups : List Nat)
  deriving DecidableEq, Repr

namespace Address

/-! ### Reading IPv4 -/

/-- A number below 256 without leading zeros. -/
def octet? (part : List Char) : Option Nat :=
  if part.isEmpty || !part.all Digit.isAscii || 3 < part.length then none
  else if 1 < part.length && part.head? == some '0' then none
  else some (Digit.number 10 part) |>.filter (· < 256)

/-- The four numbers of an IPv4 address. -/
def octets? (text : List Char) : Option (List Nat) :=
  let parts := Split.parts '.' text
  if parts.length = 4 then parts.mapM octet? else none

/-! ### Reading IPv6 -/

/-- How many groups an IPv6 address has. -/
def groupCount : Nat := 8

/-- A group of one to four hexadecimal digits. -/
def group? (part : List Char) : Option Nat :=
  if part.isEmpty || !part.all Digit.isHex || 4 < part.length then none
  else some (Digit.number 16 part)

/-- The parts of an address between colons, with an IPv4 address at the end
as two groups. -/
def groupParts? (text : List Char) : Option (List (List Char)) :=
  let parts := Split.parts ':' text
  if parts.length < 3 then none
  else
    match parts.getLast? with
    | some last =>
      if '.' ∈ last then
        match octets? last with
        | some [a, b, c, d] =>
          some (parts.dropLast ++ [Digit.hex 4 (a * 256 + b), Digit.hex 4 (c * 256 + d)])
        | _ => none
      else some parts
    | none => none

/-- The groups on one side of a gap.  Next to the end of the text there is
nothing but the other half of the gap's colons. -/
def side? (isBesideEnd : List (List Char) → Bool) (parts : List (List Char)) : Option (List Nat) :=
  if isBesideEnd parts then (if parts.length = 1 then some [] else none) else parts.mapM group?

/-- The groups of an address. -/
def groups? (text : List Char) : Option (List Nat) :=
  match groupParts? text with
  | none => none
  | some parts =>
    if groupCount + 1 < parts.length then none
    else
      let inner := (parts.drop 1).dropLast
      let before := inner.takeWhile (!·.isEmpty)
      let gapAt := before.length + 1
      if before.length = inner.length then
        if parts.length = groupCount then parts.mapM group? else none
      else if (inner.drop gapAt).any (·.isEmpty) then none
      else
        match side? (·.head? == some []) (parts.take gapAt),
            side? (·.getLast? == some []) (parts.drop (gapAt + 1)) with
        | some high, some low =>
          let missing := groupCount - (high.length + low.length)
          if missing < 1 then none else some (high ++ List.replicate missing 0 ++ low)
        | _, _ => none

/-- The address that a text writes. -/
def ofText? (text : String) : Option Address :=
  match octets? text.toList with
  | some octets => some (v4 octets)
  | none => (groups? text.toList).map v6

/-! ### Writing -/

/-- A group without leading zeros. -/
def groupText (n : Nat) : String := String.ofList (Nat.toDigits 16 n)

/-- How many zeros stand at the start of a row. -/
def zerosAt (groups : List Nat) : Nat := (groups.takeWhile (· == 0)).length

/-- The longest run of zeros, the first of those equally long: where it
starts and how long it is. -/
def longestGap (groups : List Nat) : Nat × Nat :=
  (List.range groups.length).foldl
    (fun best start =>
      let length := zerosAt (groups.drop start)
      if best.2 < length then (start, length) else best)
    (0, 0)

/-- The groups with their longest run of zeros left out. -/
def groupsText (groups : List Nat) : String :=
  let (start, length) := longestGap groups
  let written (gs : List Nat) := ":".intercalate (gs.map groupText)
  if length < 2 then written groups
  else written (groups.take start) ++ "::" ++ written (groups.drop (start + length))

def text : Address → String
  | v4 octets => ".".intercalate (octets.map fun n : Nat => Numeral.ofInt n)
  | v6 groups => groupsText groups

end Address

end NodeBootstrap

/-
NodeBootstrap/Text/Base64.lean

Bytes from base 64 text.  Characters outside the alphabet are passed over.
Four digits give three bytes; a last group of two or three digits must be
filled up with padding, and nothing behind the padding is read.
-/

namespace NodeBootstrap.Base64

/-- The value of a digit. -/
def value? (c : Char) : Option Nat :=
  if 'A' ≤ c && c ≤ 'Z' then some (c.toNat - 'A'.toNat)
  else if 'a' ≤ c && c ≤ 'z' then some (c.toNat - 'a'.toNat + 26)
  else if '0' ≤ c && c ≤ '9' then some (c.toNat - '0'.toNat + 52)
  else if c = '+' then some 62
  else if c = '/' then some 63
  else none

/-- The bytes of a group of digits: all that its bits fill. -/
def groupBytes : List Nat → List UInt8
  | [a, b] => [UInt8.ofNat (a * 4 + b / 16)]
  | [a, b, c] => [UInt8.ofNat (a * 4 + b / 16), UInt8.ofNat (b % 16 * 16 + c / 4)]
  | [a, b, c, d] =>
    [UInt8.ofNat (a * 4 + b / 16), UInt8.ofNat (b % 16 * 16 + c / 4), UInt8.ofNat (c % 4 * 64 + d)]
  | _ => []

/-- Reads on, with the digits of the group so far and the padding behind
them. -/
def read? (group : List Nat) (padding : Nat) : List Char → Option (List UInt8)
  | [] => if group.isEmpty then some [] else none
  | c :: rest =>
    if c = '=' then
      if group.length < 2 then read? group padding rest
      else if 4 ≤ group.length + padding + 1 then some (groupBytes group)
      else read? group (padding + 1) rest
    else
      match value? c with
      | none => read? group padding rest
      | some v =>
        if group.length = 3 then (read? [] 0 rest).map (groupBytes (group ++ [v]) ++ ·)
        else read? (group ++ [v]) 0 rest

/-- The bytes that a text gives. -/
def decode? (text : List Char) : Option (List UInt8) := read? [] 0 text

end NodeBootstrap.Base64

/-
NodeBootstrap/Text/Blank.lean

Blank characters, and texts without the blanks at their ends.  Two classes
are in use: every white-space character of Unicode, for flags and tokens, and
the same without the four information separators, for numerals.
-/

namespace NodeBootstrap.Blank

/-- White space, as the Unicode property lists it, with the information
separators FS to US. -/
def isBlank (c : Char) : Bool :=
  let n := c.toNat
  (0x09 ≤ n && n ≤ 0x0d) || (0x1c ≤ n && n ≤ 0x20) || n == 0x85 || n == 0xa0 || n == 0x1680
    || (0x2000 ≤ n && n ≤ 0x200a) || n == 0x2028 || n == 0x2029 || n == 0x202f || n == 0x205f
    || n == 0x3000

/-- The blanks allowed around a numeral. -/
def isNumeralBlank (c : Char) : Bool :=
  isBlank c && !(0x1c ≤ c.toNat && c.toNat ≤ 0x1f)

/-- A text without the characters of a class at its two ends. -/
def trim (blank : Char → Bool) (text : List Char) : List Char :=
  ((text.dropWhile blank).reverse.dropWhile blank).reverse

end NodeBootstrap.Blank

/-
NodeBootstrap/Yaml/Style.lean

How a text is written as a scalar of a flow mapping: plain if it reads back as
the same text that way, else between single quotes if it holds printable ASCII
and line ends only and no line end has a space beside it, else between double
quotes with escapes.
-/
import NodeBootstrap.Yaml.Tag

namespace NodeBootstrap.Yaml

inductive Style where
  | plain
  | single
  | double
  deriving DecidableEq, Repr

/-- A character that is written as itself. -/
def isPrintable (c : Char) : Bool := ' ' ≤ c && c ≤ '~'

namespace Style

/-- A text that single quotes can hold. -/
def fitsSingle : List Char → Bool
  | [] => true
  | [c] => isPrintable c || c == '\n'
  | c :: d :: rest =>
    (isPrintable c || c == '\n') && !(c == ' ' && d == '\n') && !(c == '\n' && d == ' ')
      && fitsSingle (d :: rest)

/-- The characters that start something else than a plain scalar. -/
def isIndicator (c : Char) : Bool := "#,[]\x7b\x7d&*!|>'\"%@\x60?:".toList.contains c

/-- The characters that plain scalars in a flow collection do without. -/
def isFlowIndicator (c : Char) : Bool := ",?[]\x7b\x7d:".toList.contains c

/-- Whether the characters after the first allow a plain scalar.  `before` is
the character before them. -/
def continuesPlain (before : Char) : List Char → Bool
  | [] => before != ' '
  | c :: rest =>
    isPrintable c && !isFlowIndicator c && !(c == '#' && before == ' ') && continuesPlain c rest

/-- Whether a text can stand without quotes. -/
def fitsPlain (text : List Char) : Bool :=
  match text with
  | [] => false
  | c :: rest =>
    isPrintable c && c != ' ' && !isIndicator c
      && !(c == '-' && (rest.isEmpty || rest.head? == some ' '))
      && !("---".toList.isPrefixOf text) && !("...".toList.isPrefixOf text) && continuesPlain c rest

/-- The style that a text is written in. -/
def ofText (text : List Char) : Style :=
  if fitsPlain text && Tag.ofPlain text == .text then plain
  else if fitsSingle text then single
  else double

end Style

end NodeBootstrap.Yaml

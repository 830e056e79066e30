/-
NodeBootstrap/Yaml/Token/Mark.lean

What stands before or between nodes: directives, anchors with the aliases of
them, and tags.
-/
import NodeBootstrap.Yaml.Token.Basic

namespace NodeBootstrap.Yaml.Mark

def skipSpaces (cs : List Char) : List Char := cs.dropWhile (· == ' ')

/-- The name at the start of a text. -/
def name (cs : List Char) : Except Defect (String × List Char) :=
  let n := cs.takeWhile isNameChar
  if n.isEmpty then .error .malformed else .ok (String.ofList n, cs.dropWhile isNameChar)

/-! ### Anchors -/

/-- What may stand behind the name of an anchor. -/
def endsAnchor : List Char → Bool
  | [] => true
  | c :: _ => isSpace c || c ∈ ['?', ':', ',', ']', '\x7d', '%', '@', '\x60']

/-- The name of an anchor or alias, from behind its sign. -/
def anchorName (cs : List Char) : Except Defect (String × List Char) :=
  match name cs with
  | .error d => .error d
  | .ok (n, left) => if endsAnchor left then .ok (n, left) else .error .malformed

/-! ### Tags -/

/-- The characters of a tag's text. -/
def isUriChar (c : Char) : Bool :=
  isNameChar c || c ∈ [';', '/', '?', ':', '@', '&', '=', '+', '$', ',', '.', '!', '~', '*', '\'',
    '(', ')', '[', ']', '%']

/-- The text of bytes that were written by their numbers. -/
def decodeBytes (bytes : List UInt8) : Option (List Char) :=
  (String.fromUTF8? ⟨bytes.toArray⟩).map String.toList

/-- The text of a tag with its percent signs resolved.  `bytes` are those of
the percent signs just before. -/
def decodeUri (bytes : List UInt8) : List Char → Option (List Char)
  | [] => decodeBytes bytes
  | '%' :: a :: b :: rest =>
    if Digit.isHex a && Digit.isHex b then
      decodeUri (bytes ++ [UInt8.ofNat (Digit.number 16 [a, b])]) rest
    else none
  | c :: rest =>
    if c = '%' then none
    else do
      let before ← decodeBytes bytes
      let after ← decodeUri [] rest
      return before ++ c :: after

/-- The text of a tag at the start of a text. -/
def uri (cs : List Char) : Except Defect (String × List Char) :=
  let written := cs.takeWhile isUriChar
  if written.isEmpty then .error .malformed
  else
    match decodeUri [] written with
    | some text => .ok (String.ofList text, cs.dropWhile isUriChar)
    | none => .error .malformed

/-- A handle: an exclamation mark, or a name between two of them. -/
def handle : List Char → Except Defect (String × List Char)
  | '!' :: rest =>
    if rest.head? = some ' ' then .ok ("!", rest)
    else
      match rest.dropWhile isNameChar with
      | '!' :: left => .ok (String.ofList ('!' :: rest.takeWhile isNameChar ++ ['!']), left)
      | _ => .error .malformed
  | _ => .error .malformed

/-- Whether a tag has a handle of its own: a second exclamation mark. -/
def hasHandle (rest : List Char) : Bool :=
  (rest.takeWhile fun c => !(c == ' ' || isBreak c)).contains '!'

/-- The handle and the text of a tag, from its exclamation mark on. -/
def tagParts (cs : List Char) : Except Defect (Option String × String × List Char) :=
  match cs.drop 1 with
  | '<' :: rest =>
    match uri rest with
    | .ok (text, '>' :: left) => .ok (none, text, left)
    | _ => .error .malformed
  | rest =>
    if startsSpace rest then .ok (none, "!", rest)
    else
      match (if hasHandle rest then handle cs else .ok ("!", rest)) with
      | .error d => .error d
      | .ok (h, rest) =>
        match uri rest with
        | .error d => .error d
        | .ok (text, left) => .ok (some h, text, left)

/-- A tag. -/
def tag (cs : List Char) : Except Defect (Token × List Char) :=
  match tagParts cs with
  | .error d => .error d
  | .ok (h, text, left) =>
    if startsPlainSpace left then .ok (.tag h text, left) else .error .malformed

/-! ### Directives -/

/-- The number of a version. -/
def versionNumber (cs : List Char) : Except Defect (Nat × List Char) :=
  let digits := cs.takeWhile Digit.isAscii
  if digits.isEmpty then .error .malformed
  else if Numeral.maxDigits < digits.length then .error (.broken .badValue)
  else .ok (Digit.number 10 digits, cs.dropWhile Digit.isAscii)

/-- The version after the name of its directive. -/
def version (cs : List Char) : Except Defect (Directive × List Char) :=
  match versionNumber (skipSpaces cs) with
  | .error d => .error d
  | .ok (major, '.' :: rest) =>
    match versionNumber rest with
    | .error d => .error d
    | .ok (minor, left) =>
      if startsPlainSpace left then .ok (.version major minor, left) else .error .malformed
  | .ok _ => .error .malformed

/-- A handle and what it stands for, after the name of their directive. -/
def tagHandle (cs : List Char) : Except Defect (Directive × List Char) :=
  match handle (skipSpaces cs) with
  | .error d => .error d
  | .ok (h, rest) =>
    if rest.head? ≠ some ' ' then .error .malformed
    else
      match uri (skipSpaces rest) with
      | .error d => .error d
      | .ok (text, left) =>
        if startsPlainSpace left then .ok (.tagHandle h text, left) else .error .malformed

/-- What a directive says, by its name. -/
def directiveBody (n : String) (cs : List Char) : Except Defect (Directive × List Char) :=
  if n = "YAML" then version cs
  else if n = "TAG" then tagHandle cs
  else .ok (.unknown, cs.dropWhile (!isBreak ·))

/-- A directive from behind its percent sign, with the end of its line. -/
def directive (cs : List Char) : Except Defect (Token × List Char) :=
  match name cs with
  | .error d => .error d
  | .ok (n, rest) =>
    if startsPlainSpace rest then
      match directiveBody n rest with
      | .error d => .error d
      | .ok (d, left) =>
        match endOfLine left with
        | .error e => .error e
        | .ok left => .ok (.directive d, left)
    else .error .malformed

end NodeBootstrap.Yaml.Mark

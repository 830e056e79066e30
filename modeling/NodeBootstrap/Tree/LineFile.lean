/-
NodeBootstrap/Tree/LineFile.lean

Files as lists of lines.

* `Tree.readLines` reads strict UTF-8 and cuts at LF, CR and CR LF.
* `Tree.writeLines` writes every line followed by LF to a file beside the
  target and then puts that file in the target's place, so that the target is
  either as before or complete.  The file beside it is gone in either case.
* `Tree.appendLines` adds lines at the end of an existing file; a last line
  that is not ended is ended first.

Writing or appending no lines does nothing at all.
-/
import NodeBootstrap.Fault
import NodeBootstrap.Text.Lines
import NodeBootstrap.Tree.Basic

namespace NodeBootstrap.Tree

/-- A path that no system call takes. -/
def isUnusable (path : String) : Bool := path.toList.contains '\x00'

/-- The content of a file. -/
def content? (t : Tree) (path : String) : Option ByteArray :=
  match t.find? (Path.ofText path) with
  | some (.file bytes) => some bytes
  | _ => none

/-! ### Reading -/

/-- The lines of a file. -/
def readLines (t : Tree) (path : String) : Except Fault (List String) :=
  if isUnusable path then .error (.broken .badValue)
  else
    match (t.content? path).bind String.fromUTF8? with
    | some text => .ok (Lines.ofText text)
    | none => .error (.unreadable (t.absoluteText path))

/-! ### Writing -/

/-- The suffix of the file beside the target. -/
def temporarySuffix : String := ".tmp"

/-- Puts a file in the place of a target.  `beside` is where it was written;
both are in one directory. -/
def replace (t : Tree) (beside : Location) (path : String) (bytes : ByteArray) :
    Except Fault Unit × Tree :=
  let cleared := t.remove beside
  match t.locate (Path.ofText path) with
  | .ok target =>
    match t.entryAt target with
    | some .directory => (.error (.unwritable (t.absoluteText path)), cleared)
    | _ => (.ok (), cleared.put target (.file bytes))
  | .error _ => (.error (.unwritable (t.absoluteText path)), cleared)

/-- Replaces the content of a file by lines. -/
def writeLines (t : Tree) (path : String) (lines : List String) : Except Fault Unit × Tree :=
  if lines.isEmpty then (.ok (), t)
  else
    match (Path.ofText path).withSuffix? temporarySuffix with
    | none => (.error (.broken .badValue), t)
    | some temporary =>
      if isUnusable path then (.error (.broken .badValue), t)
      else
        match t.locate temporary with
        | .error .nameTooLong => (.error (.broken .system), t)
        | .error _ => (.error (.unwritable (t.absoluteText path)), t)
        | .ok beside =>
          match t.entryAt beside with
          | some .directory => (.error (.unwritable (t.absoluteText path)), t)
          | _ => t.replace beside path (Lines.joined lines).toUTF8

/-! ### Appending -/

/-- Whether a content ends inside a line. -/
def endsOpen (bytes : ByteArray) : Bool := bytes.data.back?.any (· != 10)

/-- A content with lines after it. -/
def extended (bytes : ByteArray) (lines : List String) : ByteArray :=
  (if endsOpen bytes then bytes ++ "\n".toUTF8 else bytes) ++ (Lines.joined lines).toUTF8

/-- Adds lines at the end of a file. -/
def appendLines (t : Tree) (path : String) (lines : List String) : Except Fault Unit × Tree :=
  if lines.isEmpty then (.ok (), t)
  else if isUnusable path then (.error (.broken .badValue), t)
  else
    match t.locate (Path.ofText path) with
    | .ok target =>
      match t.entryAt target with
      | some (.file bytes) => (.ok (), t.put target (.file (extended bytes lines)))
      | _ => (.error (.unappendable (t.absoluteText path)), t)
    | .error _ => (.error (.unappendable (t.absoluteText path)), t)

end NodeBootstrap.Tree

/-
NodeBootstrap/Text/Split.lean

Texts taken apart at a mark: the parts between all marks, and what stands
behind the last one.
-/

namespace NodeBootstrap.Split

/-- The parts of a text between the places where a character stands. -/
def parts (mark : Char) : List Char → List (List Char)
  | [] => [[]]
  | c :: rest =>
    if c = mark then [] :: parts mark rest
    else
      match parts mark rest with
      | [] => [[c]]
      | part :: more => (c :: part) :: more

/-- What stands behind the last occurrence of a mark. -/
def behindLast? (mark : List Char) : List Char → Option (List Char)
  | [] => none
  | c :: rest =>
    match behindLast? mark rest with
    | some found => some found
    | none => if mark.isPrefixOf (c :: rest) then some ((c :: rest).drop mark.length) else none

end NodeBootstrap.Split

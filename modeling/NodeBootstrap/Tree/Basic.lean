/-
NodeBootstrap/Tree/Basic.lean

A tree of files.  An entry stands at a location, the list of names that lead
to it from the root; the root itself is always a directory.  A path is
followed name by name: every name but the last must be that of a directory.

Statements about a tree go through `Tree.entryAt`; `entryAt_put` and
`entryAt_remove` say what the two changes do.
-/
import NodeBootstrap.Tree.Path

namespace NodeBootstrap

/-- What stands at a location. -/
inductive Entry where
  | file (bytes : ByteArray)
  | directory

/-- Files are compared byte by byte. -/
instance : DecidableEq Entry
  | .file bs, .file cs =>
    match ByteArray.instDecidableEq bs cs with
    | .isTrue h => .isTrue (h ▸ rfl)
    | .isFalse h => .isFalse fun e => h (Entry.file.inj e)
  | .directory, .directory => .isTrue rfl
  | .file _, .directory => .isFalse nofun
  | .directory, .file _ => .isFalse nofun

/-- The names that lead from the root to an entry. -/
abbrev Location := List String

structure Tree where
  /-- The working directory. -/
  here : Location
  entries : List (Location × Entry)

namespace Tree

/-- The entry at a location. -/
def entryAt (t : Tree) (l : Location) : Option Entry :=
  if l = [] then some .directory else t.entries.lookup l

/-- Removes the entry at a location. -/
def remove (t : Tree) (l : Location) : Tree :=
  { t with entries := t.entries.filter fun e => e.1 != l }

/-- Puts an entry at a location. -/
def put (t : Tree) (l : Location) (e : Entry) : Tree :=
  { t with entries := (l, e) :: (t.remove l).entries }

theorem lookup_filter_ne (l m : Location) (es : List (Location × Entry)) :
    (es.filter fun e => e.1 != l).lookup m = if m = l then none else es.lookup m := by
  induction es with
  | nil => simp
  | cons e es ih =>
    obtain ⟨k, v⟩ := e
    by_cases hk : k = l
    · subst hk
      by_cases hm : m = k
      · subst hm; simpa using ih
      · have : (m == k) = false := by simpa using hm
        simp [List.lookup_cons, this, hm, ih]
    · by_cases hm : m = k
      · subst hm
        simp [hk]
      · have : (m == k) = false := by simpa using hm
        simp [hk, List.lookup_cons, this, ih]

theorem entryAt_remove (t : Tree) (l m : Location) (hl : l ≠ []) :
    (t.remove l).entryAt m = if m = l then none else t.entryAt m := by
  by_cases hm : m = []
  · subst hm; simp [entryAt, Ne.symm hl]
  · simp [entryAt, hm, remove, lookup_filter_ne]

theorem entryAt_put (t : Tree) (l m : Location) (e : Entry) (hl : l ≠ []) :
    (t.put l e).entryAt m = if m = l then some e else t.entryAt m := by
  by_cases hm : m = []
  · subst hm; simp [entryAt, Ne.symm hl]
  · by_cases h : m = l
    · subst h; simp [entryAt, hm, put]
    · have : (m == l) = false := by simpa using h
      simp [entryAt, hm, put, List.lookup_cons, this, remove, lookup_filter_ne, h]

/-! ### Following a path -/

/-- Why a path leads nowhere. -/
inductive Obstacle where
  | missing
  | notDirectory
  | nameTooLong
  deriving DecidableEq, Repr

/-- The most bytes that a name may have. -/
def maxNameBytes : Nat := 255

/-- Follows names from a location. -/
def follow (t : Tree) : Location → List String → Except Obstacle Location
  | l, [] => .ok l
  | l, name :: rest =>
    match t.entryAt l with
    | some .directory =>
      if name = ".." then t.follow l.dropLast rest
      else if maxNameBytes < name.utf8ByteSize then .error .nameTooLong
      else t.follow (l ++ [name]) rest
    | some (.file _) => .error .notDirectory
    | none => .error .missing

/-- The location that a path leads to.  An entry need not stand there, but
the directory above it does. -/
def locate (t : Tree) (p : Path) : Except Obstacle Location :=
  t.follow (if p.isAbsolute then [] else t.here) p.names

/-- The entry that a path leads to. -/
def find? (t : Tree) (p : Path) : Option Entry :=
  match t.locate p with
  | .ok l => t.entryAt l
  | .error _ => none

/-- A path as seen from the root, in words. -/
def absoluteText (t : Tree) (path : String) : String :=
  ((Path.ofText path).absolute t.here).text

end Tree

end NodeBootstrap

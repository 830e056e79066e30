/-
NodeBootstrap/Proofs/Config/Edit.lean

What revising a file does to it, if the edit empties no file and makes one line
of each (`Setup.IsEdit`).

Whatever the file looked like, a revision that goes through leaves the edited
lines (`readLines_of_revise`), and it has written just if the bytes of the file
differ (`changed_iff_of_revise`).  An edit that undoes an earlier one does so
from file to file: after the revision with the one, the revision with the other
goes through where it would have gone through before, and leaves the same lines
(`Run.Revises.leaves_iff`).
-/
import NodeBootstrap.Proofs.Config.Course

namespace NodeBootstrap

open NodeBootstrap.Lines NodeBootstrap.Setup

/-! ### Revisions -/

namespace Tree

variable {t u : Tree} {path : String} {lines : List String} {changed : Bool}
  {edit first second : List String → List String}

/-- An edit that makes a difference has lines to write. -/
theorem ne_nil_of_edit_ne (hedit : IsEdit edit) (hne : edit lines ≠ lines) : edit lines ≠ [] :=
  fun e => hne (e.trans (hedit.eq_nil e).symm)

/-- A revision leaves the edited lines. -/
theorem readLines_of_revise (hedit : IsEdit edit) (hread : t.readLines path = .ok lines)
    (h : t.revise path edit = (.ok changed, u)) : u.readLines path = .ok (edit lines) := by
  rcases (revise_eq_ok_iff hread).mp h with ⟨he, -, rfl⟩ | ⟨he, -, hwrite⟩
  · rw [he, hread]
  · exact readLines_of_writeLines (ne_nil_of_edit_ne hedit he)
      (hedit.isLine (isLine_of_readLines hread)) hwrite

/-- A revision tells of a change just if the bytes of the file changed. -/
theorem changed_iff_of_revise (hedit : IsEdit edit) (h : t.revise path edit = (.ok changed, u)) :
    changed = true ↔ u.content? path ≠ t.content? path := by
  obtain ⟨lines, hread⟩ := exists_readLines_of_revise h
  have hafter := readLines_of_revise hedit hread h
  rcases (revise_eq_ok_iff hread).mp h with ⟨-, rfl, rfl⟩ | ⟨he, rfl, -⟩
  · simp
  · -- other lines cannot be read from the same bytes
    refine iff_of_true rfl fun hc => he ?_
    have hsame := readLines_congr hc hread
    exact Except.ok.inj (hafter.symm.trans hsame)

theorem Writable.exists_revise (h : Writable t path) (hedit : IsEdit edit)
    (hread : t.readLines path = .ok lines) : ∃ b u, t.revise path edit = (.ok b, u) := by
  by_cases he : edit lines = lines
  · exact ⟨false, t, (revise_eq_ok_iff hread).mpr (.inl ⟨he, rfl, rfl⟩)⟩
  · obtain ⟨u, hu⟩ := h.exists_writeLines (ne_nil_of_edit_ne hedit he)
    exact ⟨true, u, (revise_eq_ok_iff hread).mpr (.inr ⟨he, rfl, hu⟩)⟩

/-- A revision does not decide whether another one goes through. -/
theorem exists_revise_iff (hfirst : IsEdit first) (hsecond : IsEdit second)
    (h : t.revise path first = (.ok changed, u)) :
    (∃ b v, u.revise path second = (.ok b, v)) ↔ ∃ b v, t.revise path second = (.ok b, v) := by
  obtain ⟨lines, hread⟩ := exists_readLines_of_revise h
  have hafter := readLines_of_revise hfirst hread h
  rcases (revise_eq_ok_iff hread).mp h with ⟨-, -, rfl⟩ | ⟨he, -, hwrite⟩
  · rfl
  · -- the first one wrote the file, so both can
    obtain ⟨ht, hu⟩ := writable_of_writeLines (ne_nil_of_edit_ne hfirst he) hwrite
    exact iff_of_true (hu.exists_revise hsecond hafter) (ht.exists_revise hsecond hread)

/-! ### A file by itself -/

/-- A tree that holds one file, with a given text. -/
def sole (text : String) : Tree :=
  { here := [], entries := [(["cassandra.yaml"], .file text.toUTF8)] }

theorem site_sole (text : String) :
    Site (sole text) "cassandra.yaml" ["cassandra.yaml"] ["cassandra.yaml.tmp"] := by
  have hholds : Holds (sole text) ⟨0, []⟩ [] := ⟨by decide, rfl⟩
  have hpath : (Path.join ⟨0, []⟩ databaseName).text = "cassandra.yaml" := by decide
  have hsite := hholds.site isTargetName_database
  rw [hpath] at hsite
  exact hsite

theorem entryAt_sole (text : String) :
    (sole text).entryAt ["cassandra.yaml"] = some (.file text.toUTF8) :=
  rfl

theorem readLines_sole (text : String) :
    (sole text).readLines "cassandra.yaml" = .ok (ofText text) := by
  rw [(site_sole text).readLines_eq_ok_iff, linesAt?_of_entryAt (entryAt_sole text),
    linesOf?_toUTF8]

theorem writable_sole (text : String) : Writable (sole text) "cassandra.yaml" := by
  have hbeside : (sole text).entryAt ["cassandra.yaml.tmp"] = none := rfl
  exact ⟨_, _, site_sole text, by simp [hbeside], by simp [entryAt_sole]⟩

end Tree

/-! ### Runs that revise a file -/

namespace Run

/-- A run goes through and leaves a file with given lines. -/
def Leaves {α : Type} (r : Run α) (x : Session) (path : String) (lines : List String) : Prop :=
  ∃ a y, r.perform x = (.ok a, y) ∧ y.tree.readLines path = .ok lines

namespace Revises

variable {r r' : Run Bool} {path : String} {edit first second : List String → List String}
  {x y : Session} {changed : Bool} {lines result : List String}

/-- Which lines a run leaves, if it goes through. -/
theorem leaves_iff_of_readLines (hr : Revises r path edit) (hedit : IsEdit edit)
    (hread : x.tree.readLines path = .ok lines) :
    r.Leaves x path result ↔
      (∃ b u, x.tree.revise path edit = (.ok b, u)) ∧ result = edit lines := by
  constructor
  · rintro ⟨b, y, hy, hresult⟩
    have hrevise := hr.revise_eq hy
    have hafter := Tree.readLines_of_revise hedit hread hrevise
    exact ⟨⟨b, y.tree, hrevise⟩, Except.ok.inj (hresult.symm.trans hafter)⟩
  · rintro ⟨⟨b, u, hrevise⟩, rfl⟩
    obtain ⟨y, hy, rfl⟩ := hr.exists_perform hrevise
    exact ⟨b, y, hy, Tree.readLines_of_revise hedit hread hrevise⟩

/-- Behind a run whose edit the next one undoes, that one does what it does
without it. -/
theorem leaves_iff (hr : Revises r path first) (hr' : Revises r' path second)
    (hfirst : IsEdit first) (hsecond : IsEdit second)
    (hundo : ∀ lines, second (first lines) = second lines)
    (h : r.perform x = (.ok changed, y)) (result : List String) :
    r'.Leaves y path result ↔ r'.Leaves x path result := by
  have hrevise := hr.revise_eq h
  obtain ⟨lines, hread⟩ := Tree.exists_readLines_of_revise hrevise
  have hafter := Tree.readLines_of_revise hfirst hread hrevise
  rw [hr'.leaves_iff_of_readLines hsecond hafter, hr'.leaves_iff_of_readLines hsecond hread,
    Tree.exists_revise_iff hfirst hsecond hrevise, hundo]

/-- A file that is as the edit would leave it is not written. -/
theorem exists_perform_of_edit_eq (hr : Revises r path edit)
    (hread : x.tree.readLines path = .ok lines) (he : edit lines = lines) :
    ∃ z, r.perform x = (.ok false, z) ∧ z.tree = x.tree :=
  hr.exists_perform ((Tree.revise_eq_ok_iff hread).mpr (.inl ⟨he, rfl, rfl⟩))

/-- The same run again finds nothing to change. -/
theorem again (hr : Revises r path edit) (hedit : IsEdit edit)
    (hfix : ∀ lines, edit (edit lines) = edit lines) (h : r.perform x = (.ok changed, y)) :
    ∃ z, r.perform y = (.ok false, z) ∧ z.tree = y.tree := by
  have hrevise := hr.revise_eq h
  obtain ⟨lines, hread⟩ := Tree.exists_readLines_of_revise hrevise
  have hafter := Tree.readLines_of_revise hedit hread hrevise
  exact hr.exists_perform_of_edit_eq hafter (hfix lines)

theorem exists_perform_sole (hr : Revises r "cassandra.yaml" edit) (hedit : IsEdit edit)
    (text : String) (hne : edit (ofText text) ≠ ofText text) :
    ∃ y, r.perform (Session.start (Tree.sole text)) = (.ok true, y) := by
  have hread := Tree.readLines_sole text
  obtain ⟨u, hu⟩ := (Tree.writable_sole text).exists_writeLines (Tree.ne_nil_of_edit_ne hedit hne)
  have hrevise := (Tree.revise_eq_ok_iff hread).mpr (.inr ⟨hne, rfl, hu⟩)
  obtain ⟨y, hy, -⟩ := @exists_perform _ _ _ (Session.start (Tree.sole text)) _ hr u hrevise
  exact ⟨y, hy⟩

end Revises

end Run

end NodeBootstrap

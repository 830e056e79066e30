/-
NodeBootstrap/Proofs/Session/Revision.lean

Files that are revised: their lines are read and edited, and written only if
the edit makes a difference (`Tree.revise`).  A run that revises a file tells
whether it wrote (`Run.Revises`), and does to the tree what the action with the
same edit does (`Run.Revises.does`).
-/
import NodeBootstrap.Proofs.Session.Action

namespace NodeBootstrap

/-! ### Revisions -/

namespace Tree

/-- Edits the lines of a file, and tells whether they changed.  Lines that an
edit leaves as they are are not written. -/
def revise (t : Tree) (path : String) (edit : List String → List String) :
    Except Fault Bool × Tree :=
  match t.readLines path with
  | .error f => (.error f, t)
  | .ok lines =>
    if edit lines = lines then (.ok false, t)
    else
      match t.writeLines path (edit lines) with
      | (.ok (), u) => (.ok true, u)
      | (.error f, u) => (.error f, u)

variable {t u : Tree} {path : String} {edit : List String → List String} {lines : List String}
  {changed : Bool}

/-- A revision goes through in one of two ways. -/
theorem revise_eq_ok_iff (hread : t.readLines path = .ok lines) :
    t.revise path edit = (.ok changed, u) ↔
      (edit lines = lines ∧ changed = false ∧ u = t) ∨
        (edit lines ≠ lines ∧ changed = true ∧ t.writeLines path (edit lines) = (.ok (), u)) := by
  rw [revise, hread]
  dsimp only
  by_cases he : edit lines = lines
  · simp [he, eq_comm]
  · rw [if_neg he]
    rcases t.writeLines path (edit lines) with ⟨f | ⟨⟩, v⟩ <;> simp [he, eq_comm]

theorem exists_readLines_of_revise (h : t.revise path edit = (.ok changed, u)) :
    ∃ lines, t.readLines path = .ok lines := by
  rw [revise] at h
  rcases e : t.readLines path with f | lines
  · rw [e] at h
    cases h
  · exact ⟨lines, rfl⟩

/-- The action with the same edit does the same, and tells nothing. -/
theorem apply_revise (t : Tree) (path : String) (edit : List String → List String) :
    (Action.revise path edit).apply t =
      ((t.revise path edit).1.map fun _ => (), (t.revise path edit).2) := by
  rw [Action.apply, revise]
  rcases t.readLines path with f | lines
  · rfl
  · dsimp only
    by_cases he : edit lines = lines
    · rw [if_pos he, if_pos he]
      rfl
    · rw [if_neg he, if_neg he]
      rcases t.writeLines path (edit lines) with ⟨f | ⟨⟩, u⟩ <;> rfl

end Tree

/-! ### Runs that revise a file -/

namespace Run

/-- A run revises a file, and does nothing else to the tree. -/
def Revises (r : Run Bool) (path : String) (edit : List String → List String) : Prop :=
  ∀ x : Session, ((r.perform x).1, (r.perform x).2.tree) = x.tree.revise path edit

namespace Revises

variable {r : Run Bool} {path : String} {edit : List String → List String} {x y : Session}
  {changed : Bool}

theorem revise_eq (hr : Revises r path edit) (h : r.perform x = (.ok changed, y)) :
    x.tree.revise path edit = (.ok changed, y.tree) := by
  rw [← hr x, h]

theorem exists_perform (hr : Revises r path edit) {u : Tree}
    (h : x.tree.revise path edit = (.ok changed, u)) :
    ∃ y, r.perform x = (.ok changed, y) ∧ y.tree = u := by
  obtain ⟨h₁, h₂⟩ := Prod.mk.inj ((hr x).trans h)
  exact ⟨(r.perform x).2, Prod.ext h₁ rfl, h₂⟩

theorem does (hr : Revises r path edit) (here : Location) :
    Does r here [.revise path edit] := by
  intro x _
  rw [Action.applyAll_singleton, Tree.apply_revise, ← hr x]
  rfl

end Revises

end Run

end NodeBootstrap

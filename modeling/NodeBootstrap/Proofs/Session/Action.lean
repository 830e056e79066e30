/-
NodeBootstrap/Proofs/Session/Action.lean

Runs as lists of actions.  What a run does to the tree of files is often a
fixed list of actions, each of which reads and changes one file: `Run.Does`
says that a run does just that, whatever it notes in the journal besides.
Runs are put together with `Does.bind`.

A list of actions stops at its first fault.  So whatever its end, the tree is
the one that some beginning of the list leaves when it goes through, but for
what the action that failed did (`exists_prefix`); and what every action keeps
the whole list keeps (`applyAll_keeps`).
-/
import NodeBootstrap.Proofs.Tree.Writing
import NodeBootstrap.Session

namespace NodeBootstrap

/-- What a run does to one file, or a test of its own input. -/
inductive Action where
  /-- Stops at a fault, if there is one. -/
  | check (fault : Option Fault)
  /-- Edits the lines of a file; lines that stay as they are are not written. -/
  | revise (path : String) (edit : List String → List String)
  /-- Adds lines at the end of a file, by the lines that are there. -/
  | extend (path : String) (more : List String → Except Fault (List String))
  /-- Replaces the lines of a file. -/
  | supplant (path : String) (lines : List String)

namespace Action

def apply (t : Tree) : Action → Except Fault Unit × Tree
  | check none => (.ok (), t)
  | check (some f) => (.error f, t)
  | revise path edit =>
    match t.readLines path with
    | .error f => (.error f, t)
    | .ok lines => if edit lines = lines then (.ok (), t) else t.writeLines path (edit lines)
  | extend path more =>
    match t.readLines path with
    | .error f => (.error f, t)
    | .ok lines =>
      match more lines with
      | .error f => (.error f, t)
      | .ok added => t.appendLines path added
  | supplant path lines => t.writeLines path lines

/-- Actions one after the other, up to the first fault. -/
def applyAll : List Action → Tree → Except Fault Unit × Tree
  | [], t => (.ok (), t)
  | a :: as, t =>
    match a.apply t with
    | (.ok (), u) => applyAll as u
    | (.error f, u) => (.error f, u)

/-! ### Additions -/

theorem apply_extend {t : Tree} {path : String} {more : List String → Except Fault (List String)}
    {lines added : List String} (hread : t.readLines path = .ok lines)
    (hmore : more lines = .ok added) : (extend path more).apply t = t.appendLines path added := by
  rw [apply, hread]
  dsimp only
  rw [hmore]

theorem apply_extend_error {t : Tree} {path : String}
    {more : List String → Except Fault (List String)} {lines : List String} {f : Fault}
    (hread : t.readLines path = .ok lines) (hmore : more lines = .error f) :
    (extend path more).apply t = (.error f, t) := by
  rw [apply, hread]
  dsimp only
  rw [hmore]

/-! ### Lists of actions -/

theorem applyAll_cons_ok {a : Action} {t u : Tree} (h : a.apply t = (.ok (), u))
    (as : List Action) : applyAll (a :: as) t = applyAll as u := by
  rw [applyAll, h]

theorem applyAll_cons_error {a : Action} {t u : Tree} {f : Fault}
    (h : a.apply t = (.error f, u)) (as : List Action) : applyAll (a :: as) t = (.error f, u) := by
  rw [applyAll, h]

theorem applyAll_singleton (a : Action) (t : Tree) : applyAll [a] t = a.apply t := by
  rw [applyAll]
  rcases a.apply t with ⟨f | ⟨⟩, u⟩ <;> rfl

/-- A list goes through if its first action does and then the others. -/
theorem applyAll_cons_eq_ok {a : Action} {as : List Action} {t v : Tree} :
    applyAll (a :: as) t = (.ok (), v) ↔
      ∃ u, a.apply t = (.ok (), u) ∧ applyAll as u = (.ok (), v) := by
  rw [applyAll]
  rcases h : a.apply t with ⟨f | ⟨⟩, u⟩
  · simp
  · simp

theorem applyAll_append (as bs : List Action) (t : Tree) :
    applyAll (as ++ bs) t =
      match applyAll as t with
      | (.ok (), u) => applyAll bs u
      | (.error f, u) => (.error f, u) := by
  induction as generalizing t with
  | nil => rfl
  | cons a as ih =>
    rw [List.cons_append, applyAll, applyAll]
    rcases h : a.apply t with ⟨f | ⟨⟩, u⟩
    · rfl
    · exact ih u

theorem applyAll_append_eq_ok {as bs : List Action} {t v : Tree} :
    applyAll (as ++ bs) t = (.ok (), v) ↔
      ∃ u, applyAll as t = (.ok (), u) ∧ applyAll bs u = (.ok (), v) := by
  rw [applyAll_append]
  rcases h : applyAll as t with ⟨f | ⟨⟩, u⟩
  · simp
  · simp

/-- A check that lets a list go through does nothing else. -/
theorem applyAll_of_check_cons {fault : Option Fault} {as : List Action} {t u : Tree}
    (h : applyAll (.check fault :: as) t = (.ok (), u)) : applyAll as t = (.ok (), u) := by
  cases fault with
  | none => exact h
  | some f => cases h

/-- What every action keeps a list of them keeps. -/
theorem applyAll_keeps {R : Tree → Tree → Prop} (refl : ∀ t, R t t)
    (trans : ∀ {t u v}, R t u → R u v → R t v) {as : List Action}
    (h : ∀ a ∈ as, ∀ t, R t (a.apply t).2) (t : Tree) : R t (applyAll as t).2 := by
  induction as generalizing t with
  | nil => exact refl t
  | cons a as ih =>
    have ha : R t (a.apply t).2 := h a List.mem_cons_self t
    rw [applyAll]
    rcases e : a.apply t with ⟨f | ⟨⟩, u⟩
    · rw [e] at ha
      exact ha
    · rw [e] at ha
      exact trans ha (ih (fun b hb => h b (List.mem_cons_of_mem _ hb)) u)

theorem apply_here (a : Action) (t : Tree) : (a.apply t).2.here = t.here := by
  cases a with
  | check f => cases f <;> rfl
  | supplant path lines => exact t.here_writeLines path lines
  | revise path edit =>
    rw [apply]
    split
    · rfl
    · split
      · rfl
      · exact t.here_writeLines path _
  | extend path more =>
    rw [apply]
    split
    · rfl
    · split
      · rfl
      · exact t.here_appendLines path _

/-- Actions keep the working directory. -/
theorem applyAll_here (as : List Action) (t : Tree) : (applyAll as t).2.here = t.here :=
  applyAll_keeps (R := fun t u => u.here = t.here) (fun _ => rfl) (fun h k => k.trans h)
    (fun a _ u => apply_here a u) t

/-- However a list of actions ends, a beginning of it goes through; it is all
of the list, or the action behind it fails. -/
theorem exists_prefix (as : List Action) (t : Tree) :
    ∃ done rest u, as = done ++ rest ∧ applyAll done t = (.ok (), u) ∧
      ((rest = [] ∧ applyAll as t = (.ok (), u)) ∨
        ∃ a more f, rest = a :: more ∧ (a.apply u).1 = .error f ∧
          applyAll as t = (.error f, (a.apply u).2)) := by
  induction as generalizing t with
  | nil => exact ⟨[], [], t, rfl, rfl, .inl ⟨rfl, rfl⟩⟩
  | cons a as ih =>
    rcases e : a.apply t with ⟨f | ⟨⟩, u⟩
    · -- the first action fails
      refine ⟨[], a :: as, t, rfl, rfl, .inr ⟨a, as, f, rfl, by rw [e], ?_⟩⟩
      rw [applyAll_cons_error e, e]
    · obtain ⟨done, rest, v, rfl, hd, hr⟩ := ih u
      refine ⟨a :: done, rest, v, rfl, ?_, ?_⟩
      · rw [applyAll_cons_ok e, hd]
      · rw [applyAll_cons_ok e]
        exact hr

end Action

/-! ### Runs -/

namespace Run

variable {α β : Type}

theorem perform_bind (r : Run α) (f : α → Run β) (x : Session) :
    (r >>= f).perform x =
      match r.perform x with
      | (.ok a, y) => (f a).perform y
      | (.error e, y) => (.error e, y) := by
  simp only [perform, ExceptT.run, StateT.run, bind, ExceptT.bind, ExceptT.mk, StateT.bind,
    ExceptT.bindCont]
  rcases r x with ⟨e | a, y⟩ <;> rfl

theorem perform_ofExcept (result : Except Fault α) (x : Session) :
    (ofExcept result).perform x = (result, x) := by
  cases result <;> rfl

theorem perform_tree (x : Session) : tree.perform x = (.ok x.tree, x) := rfl

theorem perform_onTree (change : Tree → Except Fault α × Tree) (x : Session) :
    (onTree change).perform x = ((change x.tree).1, { x with tree := (change x.tree).2 }) := by
  show (ofExcept (change x.tree).1).perform { x with tree := (change x.tree).2 } = _
  rw [perform_ofExcept]

theorem perform_readLines (path : String) (x : Session) :
    (readLines path).perform x = (x.tree.readLines path, x) := by
  show (ofExcept (x.tree.readLines path)).perform x = _
  rw [perform_ofExcept]

/-- How a run ends and the tree it leaves. -/
def outcome (r : Run α) (x : Session) : Except Fault Unit × Tree :=
  ((r.perform x).1.map fun _ => (), (r.perform x).2.tree)

/-- In a given working directory, a run does to the tree what a list of
actions does. -/
def Does (r : Run α) (here : Location) (as : List Action) : Prop :=
  ∀ x : Session, x.tree.here = here → r.outcome x = Action.applyAll as x.tree

namespace Does

variable {here : Location} {as bs : List Action}

theorem pure (a : α) : Does (Pure.pure a : Run α) here [] := fun _ _ => rfl

/-- A run ends as its actions do, and leaves the tree that they leave. -/
theorem applyAll_eq_error_iff {r : Run α} {x : Session} {f : Fault} {u : Tree}
    (h : Does r x.tree.here as) :
    Action.applyAll as x.tree = (.error f, u) ↔ ∃ y, r.perform x = (.error f, y) ∧ y.tree = u := by
  rw [← h x rfl, outcome]
  rcases r.perform x with ⟨g | a, y⟩ <;> simp [Except.map, and_assoc]

theorem applyAll_eq_ok_iff {r : Run α} {x : Session} {u : Tree} (h : Does r x.tree.here as) :
    Action.applyAll as x.tree = (.ok (), u) ↔ ∃ a y, r.perform x = (.ok a, y) ∧ y.tree = u := by
  rw [← h x rfl, outcome]
  rcases r.perform x with ⟨g | a, y⟩ <;> simp [Except.map, and_assoc]

theorem note (level : Journal.Level) (words : String) : Does (Run.note level words) here [] :=
  fun _ _ => rfl

theorem bind {r : Run α} {f : α → Run β} (hr : Does r here as) (hf : ∀ a, Does (f a) here bs) :
    Does (r >>= f) here (as ++ bs) := by
  intro x hx
  have h := hr x hx
  have hy : (r.perform x).2.tree.here = here :=
    (congrArg (fun o => o.2.here) h).trans ((Action.applyAll_here as x.tree).trans hx)
  rw [outcome] at h
  rw [outcome, perform_bind, Action.applyAll_append, ← h]
  rcases e : r.perform x with ⟨f' | a, y⟩
  · rfl
  · rw [e] at hy
    exact hf a y hy

/-- A loop over no items. -/
theorem forIn_nil {γ : Type} {r : γ → Run α} :
    Does (forIn ([] : List γ) PUnit.unit fun c _ => do
      let _ ← r c
      Pure.pure (ForInStep.yield PUnit.unit)) here [] :=
  pure _

/-- A loop does what its first turn does and then what the others do. -/
theorem forIn_cons {γ : Type} {r : γ → Run α} {c : γ} {cs : List γ} (hc : Does (r c) here as)
    (hcs : Does (forIn cs PUnit.unit fun c _ => do
      let _ ← r c
      Pure.pure (ForInStep.yield PUnit.unit)) here bs) :
    Does (forIn (c :: cs) PUnit.unit fun c _ => do
      let _ ← r c
      Pure.pure (ForInStep.yield PUnit.unit)) here (as ++ bs) := by
  rw [List.forIn_cons, bind_assoc]
  refine hc.bind fun _ => ?_
  rw [pure_bind]
  exact hcs

end Does

end Run

end NodeBootstrap

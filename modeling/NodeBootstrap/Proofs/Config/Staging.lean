/-
NodeBootstrap/Proofs/Config/Staging.lean

The files that a preparation works on, and what its actions do to them.  All
three are in one directory; the database's configuration and the rack
descriptor each have a file beside them while they are written.

An action that goes through is one of a few steps (`Step`), and one that fails
leaves everything but the file beside the rack descriptor (`spared_of_apply`).
What a list of actions does to each file follows by induction on the list.
-/
import NodeBootstrap.Proofs.Config.Options
import NodeBootstrap.Proofs.Config.Script
import NodeBootstrap.Proofs.Tree.Path

namespace NodeBootstrap.Setup

open NodeBootstrap.Tree NodeBootstrap.Lines

/-! ### Places -/

def databaseName : String := "cassandra.yaml"
def optionsName : String := "jvm.options"
def rackName : String := "cassandra-rackdc.properties"

theorem isTargetName_database : IsTargetName databaseName :=
  ⟨⟨by decide, by decide⟩, ⟨by decide, by decide⟩, ⟨by decide, by decide⟩, by decide⟩

theorem isTargetName_options : IsTargetName optionsName :=
  ⟨⟨by decide, by decide⟩, ⟨by decide, by decide⟩, ⟨by decide, by decide⟩, by decide⟩

theorem isTargetName_rack : IsTargetName rackName :=
  ⟨⟨by decide, by decide⟩, ⟨by decide, by decide⟩, ⟨by decide, by decide⟩, by decide⟩

/-- The place of the database's configuration in the directory. -/
def databaseAt (d : Location) : Location := d ++ [databaseName]
def besideDatabase (d : Location) : Location := d ++ [databaseName ++ temporarySuffix]
def optionsAt (d : Location) : Location := d ++ [optionsName]
def rackAt (d : Location) : Location := d ++ [rackName]
def besideRack (d : Location) : Location := d ++ [rackName ++ temporarySuffix]

theorem at_ne {a b : String} (h : a ≠ b) (d : Location) : d ++ [a] ≠ d ++ [b] := by
  simpa using h

variable {s : Setup} {d : Location} {t u : Tree}

theorem site_database (h : t.Holds s.staging d) :
    Site t s.databaseFile (databaseAt d) (besideDatabase d) :=
  h.site isTargetName_database

theorem leadsTo_options (h : t.Holds s.staging d) : LeadsTo t s.optionsFile (optionsAt d) :=
  (h.site isTargetName_options).toLeadsTo

theorem site_rack (h : t.Holds s.staging d) : Site t s.rackFile (rackAt d) (besideRack d) :=
  h.site isTargetName_rack

/-! ### Actions -/

/-- An edit of lines that empties no file and makes one line of each. -/
structure IsEdit (edit : List String → List String) : Prop where
  eq_nil : ∀ {lines}, edit lines = [] → lines = []
  isLine : ∀ {lines}, (∀ l ∈ lines, IsLine l) → ∀ l ∈ edit lines, IsLine l

/-- The actions of a preparation. -/
inductive Stages (s : Setup) : Action → Prop
  | check (fault : Option Fault) : Stages s (.check fault)
  | revise {edit : List String → List String} :
      IsEdit edit → Stages s (.revise s.databaseFile edit)
  | extend {more : Extension} :
      (∀ lines added, more lines = .ok added → ∀ l ∈ added, IsLine l) →
        Stages s (.extend s.optionsFile more)
  | supplant {lines : List String} : lines ≠ [] → Stages s (.supplant s.rackFile lines)

/-- What an action of a preparation does when it goes through. -/
inductive Step (s : Setup) (d : Location) : Action → Tree → Tree → Prop
  | check (t : Tree) : Step s d (.check none) t t
  | steady {t : Tree} {edit : List String → List String} {lines : List String} :
      t.linesAt? (databaseAt d) = some lines → edit lines = lines →
        Step s d (.revise s.databaseFile edit) t t
  | revised {t : Tree} {edit : List String → List String} {lines : List String} :
      t.linesAt? (databaseAt d) = some lines → edit lines ≠ lines →
        t.entryAt (besideDatabase d) ≠ some .directory →
        Step s d (.revise s.databaseFile edit) t
          (t.written (databaseAt d) (besideDatabase d) (joined (edit lines)).toUTF8)
  | extended {t : Tree} {more : Extension} {bytes : ByteArray} {lines added : List String} :
      t.entryAt (optionsAt d) = some (.file bytes) → linesOf? bytes = some lines →
        more lines = .ok added →
        Step s d (.extend s.optionsFile more) t (t.appended (optionsAt d) bytes added)
  | supplanted {t : Tree} {lines : List String} :
      t.entryAt (besideRack d) ≠ some .directory → t.entryAt (rackAt d) ≠ some .directory →
        Step s d (.supplant s.rackFile lines) t
          (t.written (rackAt d) (besideRack d) (joined lines).toUTF8)

/-- What an action of a preparation leaves when it fails: all entries but one,
the file beside the rack descriptor. -/
structure Spared (d : Location) (t u : Tree) : Prop where
  same : SameDirectories t u
  entryAt : ∀ l, l ≠ besideRack d → u.entryAt l = t.entryAt l

theorem Spared.refl (d : Location) (t : Tree) : Spared d t t :=
  ⟨SameDirectories.refl t, fun _ _ => rfl⟩

variable {a : Action}

/-- How an action of a preparation ends: with its step, or with a fault that
spares the files. -/
inductive Ending (s : Setup) (d : Location) (a : Action) (t : Tree) : Prop
  | step {u : Tree} : a.apply t = (.ok (), u) → Step s d a t u → Ending s d a t
  | fault {f : Fault} {u : Tree} : a.apply t = (.error f, u) → Spared d t u → Ending s d a t

theorem ending_check (fault : Option Fault) : Ending s d (.check fault) t := by
  cases fault with
  | none => exact .step rfl (.check t)
  | some f => exact .fault rfl (Spared.refl d t)

theorem ending_revise (hd : t.Holds s.staging d) {edit : List String → List String}
    (hedit : IsEdit edit) : Ending s d (.revise s.databaseFile edit) t := by
  have hsite := site_database hd
  rcases hr : t.readLines s.databaseFile with f | lines
  · have happly : (Action.revise s.databaseFile edit).apply t = (.error f, t) := by
      rw [Action.apply, hr]
    exact .fault happly (Spared.refl d t)
  have hl := hsite.readLines_eq_ok_iff.mp hr
  have happly : (Action.revise s.databaseFile edit).apply t =
      if edit lines = lines then (.ok (), t) else t.writeLines s.databaseFile (edit lines) := by
    rw [Action.apply, hr]
  by_cases he : edit lines = lines
  · exact .step (happly.trans (if_pos he)) (.steady hl he)
  rw [if_neg he] at happly
  -- an edit that writes has lines to write
  have hne : edit lines ≠ [] := fun e => he (e.trans (hedit.eq_nil e).symm)
  by_cases hb : t.entryAt (besideDatabase d) = some .directory
  · exact .fault (happly.trans (hsite.writeLines_blocked hb hne)) (Spared.refl d t)
  · have hwrite := hsite.writeLines_done hb (not_directory_of_linesAt? hl) hne
    exact .step (happly.trans hwrite) (.revised hl he hb)

theorem ending_extend (hd : t.Holds s.staging d) (more : Extension) :
    Ending s d (.extend s.optionsFile more) t := by
  have hto := leadsTo_options hd
  rcases hr : t.readLines s.optionsFile with f | lines
  · have happly : (Action.extend s.optionsFile more).apply t = (.error f, t) := by
      rw [Action.apply, hr]
    exact .fault happly (Spared.refl d t)
  obtain ⟨bytes, hb, hl⟩ := exists_of_linesAt? (hto.readLines_eq_ok_iff.mp hr)
  rcases hm : more lines with f | added
  · exact .fault (Action.apply_extend_error hr hm) (Spared.refl d t)
  · exact .step ((Action.apply_extend hr hm).trans (hto.appendLines_eq hb added))
      (.extended hb hl hm)

theorem ending_supplant (hd : t.Holds s.staging d) {lines : List String} (hne : lines ≠ []) :
    Ending s d (.supplant s.rackFile lines) t := by
  have hsite := site_rack hd
  by_cases hb : t.entryAt (besideRack d) = some .directory
  · exact .fault (hsite.writeLines_blocked hb hne) (Spared.refl d t)
  by_cases ht : t.entryAt (rackAt d) = some .directory
  · -- the file beside it has been written and is taken away again
    refine .fault (hsite.writeLines_refused hb ht hne) ⟨sameDirectories_remove hb, fun l hl => ?_⟩
    rw [entryAt_remove t _ l (ne_nil_of_entryAt_ne hb), if_neg hl]
  · exact .step (hsite.writeLines_done hb ht hne) (.supplanted hb ht)

/-- An action of a preparation is a step or fails. -/
theorem Stages.ending (hd : t.Holds s.staging d) (ha : s.Stages a) : Ending s d a t := by
  cases ha with
  | check fault => exact ending_check fault
  | revise hedit => exact ending_revise hd hedit
  | @extend more _ => exact ending_extend hd more
  | supplant hne => exact ending_supplant hd hne

theorem step_of_apply (hd : t.Holds s.staging d) (ha : s.Stages a) (h : a.apply t = (.ok (), u)) :
    Step s d a t u := by
  cases ha.ending hd with
  | step hv hstep =>
    rw [h] at hv
    obtain rfl := (Prod.mk.inj hv).2
    exact hstep
  | fault hv _ =>
    rw [h] at hv
    cases hv

theorem spared_of_apply (hd : t.Holds s.staging d) (ha : s.Stages a) {f : Fault}
    (h : (a.apply t).1 = .error f) : Spared d t (a.apply t).2 := by
  cases ha.ending hd with
  | step hv _ =>
    rw [hv] at h
    contradiction
  | fault hv hspared =>
    rw [hv]
    exact hspared

/-- A step keeps directories. -/
theorem Step.same (h : Step s d a t u) : SameDirectories t u := by
  cases h with
  | check | steady => exact SameDirectories.refl t
  | revised hl _ hb => exact sameDirectories_written hb (not_directory_of_linesAt? hl) _
  | extended hb _ _ => exact sameDirectories_appended hb _
  | supplanted hb ht => exact sameDirectories_written hb ht _

/-- A step is what its action does. -/
theorem Step.apply_eq (hd : t.Holds s.staging d) (ha : s.Stages a) (h : Step s d a t u) :
    a.apply t = (.ok (), u) := by
  cases h with
  | check => rfl
  | @steady _ edit lines hl he =>
    rw [Action.apply, (site_database hd).readLines_eq_ok_iff.mpr hl]
    exact if_pos he
  | @revised _ edit lines hl he hb =>
    have hsite := site_database hd
    have hne : edit lines ≠ [] := by
      cases ha with
      | revise hedit => exact fun e => he (e.trans (hedit.eq_nil e).symm)
    rw [Action.apply, hsite.readLines_eq_ok_iff.mpr hl]
    dsimp only
    rw [if_neg he, hsite.writeLines_done hb (not_directory_of_linesAt? hl) hne]
  | @extended _ more bytes lines added hb hl hm =>
    have hto := leadsTo_options hd
    have hr : t.readLines s.optionsFile = .ok lines :=
      hto.readLines_eq_ok_iff.mpr ((linesAt?_of_entryAt hb).trans hl)
    exact (Action.apply_extend hr hm).trans (hto.appendLines_eq hb added)
  | supplanted hb ht =>
    cases ha with
    | supplant hne => exact (site_rack hd).writeLines_done hb ht hne

/-! ### What a step leaves alone -/

/-- The places that an action may change. -/
def touched (d : Location) : Action → List Location
  | .check _ => []
  | .revise _ _ => [databaseAt d, besideDatabase d]
  | .extend _ _ => [optionsAt d]
  | .supplant _ _ => [rackAt d, besideRack d]

theorem Step.entryAt_eq (h : Step s d a t u) {l : Location} (hl : l ∉ touched d a) :
    u.entryAt l = t.entryAt l := by
  cases h with
  | check | steady => rfl
  | revised hlines _ hb =>
    rw [touched, List.mem_cons, List.mem_singleton, not_or] at hl
    rw [entryAt_written hb (not_directory_of_linesAt? hlines), if_neg hl.1, if_neg hl.2]
  | extended hb _ _ =>
    rw [touched, List.mem_singleton] at hl
    rw [entryAt_appended hb, if_neg hl]
  | supplanted hb ht =>
    rw [touched, List.mem_cons, List.mem_singleton, not_or] at hl
    rw [entryAt_written hb ht, if_neg hl.1, if_neg hl.2]

/-- All places that a preparation may change. -/
def places (d : Location) : List Location :=
  [databaseAt d, besideDatabase d, optionsAt d, rackAt d, besideRack d]

theorem touched_subset (d : Location) (a : Action) : touched d a ⊆ places d := by
  intro l hl
  cases a with
  | check => cases hl
  | revise =>
    rw [touched, List.mem_cons, List.mem_singleton] at hl
    rcases hl with rfl | rfl <;> simp [places]
  | extend =>
    rw [List.mem_singleton.mp hl]
    simp [places]
  | supplant =>
    rw [touched, List.mem_cons, List.mem_singleton] at hl
    rcases hl with rfl | rfl <;> simp [places]

end NodeBootstrap.Setup

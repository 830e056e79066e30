/-
NodeBootstrap/Proofs/Config/Atomicity.lean

What a change of one file leaves behind when it fails.  An operation on a file
that fails changes nothing but the file beside the target (`Tree.Spares`).  A
run that checks what it needs and then changes one file, or does neither,
therefore leaves everything else as it was, at whichever point it fails
(`Action.Single`).

The runs that a preparation consists of, but for the properties and the
agents, are of that kind, and so are the edits they are made of (`Run.Edits`).
-/
import NodeBootstrap.Proofs.Config.Course
import NodeBootstrap.Proofs.Tree.Writing

namespace NodeBootstrap

/-! ### Actions -/

namespace Action

/-- The path of the file that an action changes. -/
def target? : Action → Option String
  | check _ => none
  | revise path _ | extend path _ | supplant path _ => some path

/-- Checks, and at most one change behind them. -/
inductive Single (path : String) : List Action → Prop
  | done : Single path []
  | change {a : Action} : a.target? = some path → Single path [a]
  | check {fault : Option Fault} {as : List Action} :
      Single path as → Single path (.check fault :: as)

variable {a : Action} {as : List Action} {t u : Tree} {path : String} {f : Fault}

/-- A change that fails leaves all files as they were. -/
theorem spares_of_apply (ha : a.target? = some path) (h : a.apply t = (.error f, u)) :
    Tree.Spares t path u := by
  cases a with
  | check fault => cases ha
  | revise p edit =>
    obtain rfl := Option.some.inj ha
    rw [apply] at h
    split at h
    · cases h
      exact .same
    · split at h
      · cases h
      · exact Tree.spares_of_writeLines h
  | extend p more =>
    obtain rfl := Option.some.inj ha
    rw [apply] at h
    split at h
    · cases h
      exact .same
    · split at h
      · cases h
        exact .same
      · exact Tree.spares_of_appendLines h
  | supplant p lines =>
    obtain rfl := Option.some.inj ha
    exact Tree.spares_of_writeLines h

/-- So does a list of checks with one change behind them, wherever it
fails. -/
theorem Single.spares (has : Single path as) (h : applyAll as t = (.error f, u)) :
    Tree.Spares t path u := by
  induction has with
  | done => cases h
  | change ha =>
    rw [applyAll_singleton] at h
    exact spares_of_apply ha h
  | @check fault as _ ih =>
    cases fault with
    | none => exact ih h
    | some g =>
      cases h
      exact .same

end Action

/-! ### Runs -/

namespace Run

/-- The runs that change one file each, with its path. -/
inductive Edits : {α : Type} → Run α → String → Prop
  | setProperty (path key value : String) : Edits (setProperty path key value) path
  | setSeedSection (path : String) (block : List String) : Edits (setSeedSection path block) path
  | addAgent (path : String) (agent : Agent) : Edits (addAgent path agent) path
  | configureSeedProvider (s : Setup) : Edits s.configureSeedProvider s.databaseFile
  | configureMemory (s : Setup) : Edits s.configureMemory s.optionsFile
  | configureRack (s : Setup) : Edits s.configureRack s.rackFile

variable {α : Type} {r : Run α} {path : String} {x y : Session} {f : Fault}

theorem single_seedActions (s : Setup) : Action.Single s.databaseFile s.seedActions := by
  rw [Setup.seedActions]
  split
  · exact .done
  · exact .check (.check (.change rfl))

/-- Each of them does one change at most, behind all its checks. -/
theorem Edits.exists_single (h : Edits r path) (here : Location) :
    ∃ as, Does r here as ∧ Action.Single path as := by
  cases h with
  | setProperty path key value => exact ⟨_, does_setProperty path key value, .change rfl⟩
  | setSeedSection path block => exact ⟨_, does_setSeedSection path block, .change rfl⟩
  | addAgent path agent => exact ⟨_, does_addAgent path agent, .change rfl⟩
  | configureSeedProvider s => exact ⟨_, s.does_configureSeedProvider, single_seedActions s⟩
  | configureMemory s => exact ⟨_, s.does_configureMemory, .change rfl⟩
  | configureRack s => exact ⟨_, s.does_configureRack, .check (.check (.change rfl))⟩

theorem Edits.spares (h : Edits r path) (hrun : r.perform x = (.error f, y)) :
    Tree.Spares x.tree path y.tree := by
  obtain ⟨as, hdoes, hsingle⟩ := h.exists_single x.tree.here
  exact hsingle.spares (hdoes.applyAll_eq_error_iff.mpr ⟨y, hrun, rfl⟩)

/-- A run that changes one file is all or nothing: where it fails, everything
but the file beside its target is as it was before, and that file is as it was
or gone. -/
theorem Edits.atomic (h : Edits r path) (hrun : r.perform x = (.error f, y)) :
    y.tree.here = x.tree.here ∧
      (∀ l, ¬ x.tree.IsBeside path l → y.tree.entryAt l = x.tree.entryAt l) ∧
      ∀ l, y.tree.entryAt l = x.tree.entryAt l ∨
        x.tree.entryAt l ≠ some .directory ∧ y.tree.entryAt l = none :=
  have hspares := h.spares hrun
  ⟨hspares.here, fun _ hl => hspares.entryAt_eq hl, hspares.entryAt_beside⟩

/-- A directory in the place of the rack descriptor, with a file beside it. -/
def blockedTree : Tree :=
  (Setup.sampleTree.put ["staging", "cassandra-rackdc.properties"] .directory).put
    ["staging", "cassandra-rackdc.properties.tmp"] (.file "dc=old\n".toUTF8)

/-- The descriptor is not written over the directory.  The file beside it
goes, and the options stay. -/
theorem Edits.atomic_sample :
    ∃ y, Setup.sample.configureRack.perform (.start blockedTree) =
        (.error (.unwritable "/staging/cassandra-rackdc.properties"), y) ∧
      y.tree.entryAt ["staging", "cassandra-rackdc.properties.tmp"] = none ∧
      y.tree.entryAt ["staging", "jvm.options"] = some (.file (Lines.joined []).toUTF8) := by
  have hfault : (Setup.sample.configureRack.perform (.start blockedTree)).1 =
      .error (.unwritable "/staging/cassandra-rackdc.properties") :=
    eq_error_of_faultOf? (by decide +kernel)
  have hgone : (Setup.sample.configureRack.perform (.start blockedTree)).2.tree.entryAt
      ["staging", "cassandra-rackdc.properties.tmp"] = none := by decide +kernel
  refine ⟨_, Prod.ext hfault rfl, hgone, ?_⟩
  obtain ⟨-, hkeeps, -⟩ := Edits.atomic (.configureRack Setup.sample) (Prod.ext hfault rfl)
  rw [hkeeps ["staging", "jvm.options"]]
  · rfl
  · -- the file beside the descriptor is another one
    rintro ⟨p, hp, hl⟩
    have hsuffix : (Path.ofText Setup.sample.rackFile).withSuffix? Tree.temporarySuffix =
        some ⟨1, ["staging", "cassandra-rackdc.properties.tmp"]⟩ := by decide +kernel
    obtain rfl := Option.some.inj (hsuffix.symm.trans hp)
    have hlocate : blockedTree.locate ⟨1, ["staging", "cassandra-rackdc.properties.tmp"]⟩ =
        .ok ["staging", "cassandra-rackdc.properties.tmp"] := rfl
    exact absurd (Except.ok.inj (hlocate.symm.trans hl)) (by decide)

end Run

end NodeBootstrap

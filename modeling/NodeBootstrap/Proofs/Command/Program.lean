/-
NodeBootstrap/Proofs/Command/Program.lean

How programs end.  A program carries its job out and words the fault that
stops it, or breaks off (`Program.endingOf`); wording a fault adds to the
journal and to nothing else.  A job of finding is the same run in every
program, and a job of preparing the same list of actions, none of which fails
with a fault of the API.  So the modes of the main program do what the programs
of one job do (`main_run_modes`).
-/
import NodeBootstrap.Command.Program
import NodeBootstrap.Proofs.Config.Faults
import NodeBootstrap.Proofs.Result
import NodeBootstrap.Proofs.Session.Inquiry

namespace NodeBootstrap

open NodeBootstrap.Run

/-- Outcomes that end alike, print alike and leave the same files. -/
structure Outcome.Alike (a b : Outcome) : Prop where
  ending : a.ending = b.ending
  output : a.output = b.output
  tree : a.session.tree = b.session.tree

theorem Outcome.Alike.refl (a : Outcome) : a.Alike a := ⟨rfl, rfl, rfl⟩

/-! ### Arguments -/

/-- A mode reads the arguments behind it as a program with its options does. -/
theorem Options.readMode_cons {optionsOf : String → Option (List String)} {mode : String}
    {names : List String} (hne : mode ≠ "--") (hword : wordOf [] mode = .value mode)
    (hnames : optionsOf mode = some names) (args : List String) :
    readMode optionsOf (mode :: args) = (readAll names args).map fun r => (mode, r) := by
  rw [readMode, modeOf, if_neg hne, hword, readAll]
  dsimp only [bind, Except.bind]
  rw [hnames]
  dsimp only
  rcases read names args with stop | r
  · rfl
  · dsimp only
    rw [Bool.false_or]
    split <;> rfl

namespace Program

theorem main_jobOf_prepareMode (env : Environment) (args : List String) :
    main.jobOf env (prepareMode :: args) = configure.jobOf env args := by
  rw [jobOf, jobOf, Options.readMode_cons (by decide) (by decide) rfl]
  rcases Options.readAll prepareOptions args with stop | r <;> rfl

theorem main_jobOf_findMode (env : Environment) (args : List String) :
    main.jobOf env (findMode :: args) = discovery.jobOf env args := by
  rw [jobOf, jobOf, Options.readMode_cons (by decide) (by decide) rfl]
  rcases Options.readAll findOptions args with stop | r <;> rfl

/-! ### Endings -/

variable {α β : Type} {p q : Program} {around : Surroundings} {job : Job} {x : Session}

/-- Whether a program words a fault. -/
def words (p : Program) (fault : Fault) : Bool :=
  fault.isReported || (p.wordsRequests && fault.family = .request)

/-- How a program ends that comes to a result. -/
def endingOf (p : Program) : Except Fault α → Ending
  | .ok _ => .finished
  | .error fault => if p.words fault then .stopped 1 else .broke fault

theorem endingOf_map (p : Program) (g : α → β) (result : Except Fault α) :
    p.endingOf (result.map g) = p.endingOf result := by
  cases result <;> rfl

theorem isSome_faultWords? (p : Program) (job : Job) (fault : Fault) :
    (p.faultWords? job fault).isSome = p.words fault := by
  rw [faultWords?, words]
  by_cases h : fault.isReported = true
  · rw [if_pos h, h, Bool.true_or]
    rfl
  · rw [if_neg h, Bool.eq_false_iff.mpr h, Bool.false_or]
    by_cases hr : (p.wordsRequests && fault.family = .request) = true
    · rw [if_pos hr, hr]
      rfl
    · rw [if_neg hr, Bool.eq_false_iff.mpr hr]
      rfl

/-- A job that is run is carried out, and at most the journal grows behind
it. -/
theorem runJob_spec (p : Program) (around : Surroundings) (job : Job) (x : Session) :
    (p.runJob around job x).ending = p.endingOf ((p.carryOut around job).perform x).1 ∧
      (p.runJob around job x).output =
        (((p.carryOut around job).perform x).1.toOption.getD "") ∧
      ((p.carryOut around job).perform x).2.After [] [] (p.runJob around job x).session := by
  rw [runJob]
  rcases (p.carryOut around job).perform x with ⟨fault | output, y⟩
  · dsimp only [endingOf]
    rw [← isSome_faultWords? p job fault]
    rcases p.faultWords? job fault with - | words
    · exact ⟨rfl, rfl, .refl y⟩
    · obtain ⟨z, hz, hafter⟩ := Asks.note .error words y
      dsimp only
      rw [hz]
      exact ⟨rfl, rfl, hafter⟩
  · exact ⟨rfl, rfl, .refl y⟩

/-! ### Finding -/

/-- Programs that word faults of the API find alike, and ask the same. -/
theorem runJob_find_congr (h : p.wordsRequests = q.wordsRequests) (around : Surroundings)
    (w : Wanted) (x : Session) :
    (p.runJob around (.find w) x).Alike (q.runJob around (.find w) x) ∧
      (p.runJob around (.find w) x).session.lookups =
        (q.runJob around (.find w) x).session.lookups ∧
      (p.runJob around (.find w) x).session.requests =
        (q.runJob around (.find w) x).session.requests := by
  obtain ⟨hp, hpout, hpafter⟩ := p.runJob_spec around (.find w) x
  obtain ⟨hq, hqout, hqafter⟩ := q.runJob_spec around (.find w) x
  have hending : ∀ result : Except Fault String, p.endingOf result = q.endingOf result := by
    intro result
    rcases result with fault | output
    · rw [endingOf, endingOf, words, words, h]
    · rfl
  -- both carry out the same run
  have hrun : p.carryOut around (.find w) = q.carryOut around (.find w) := rfl
  rw [hrun] at hp hpout hpafter
  refine ⟨⟨?_, hpout.trans hqout.symm, hpafter.tree.trans hqafter.tree.symm⟩,
    hpafter.lookups.trans hqafter.lookups.symm, hpafter.requests.trans hqafter.requests.symm⟩
  rw [hp, hq, hending]

/-! ### Preparing -/

theorem does_prepare (p : Program) (s : Setup) (here : Location) :
    Does (p.prepare s) here (s.script here) := by
  have hrest : Does (do s.configure; return "") here (s.script here) := by
    have h := (s.configure_does here).bind fun _ => Does.pure ""
    rw [List.append_nil] at h
    exact h
  rw [prepare]
  cases p with
  | main => exact (Does.note _ _).bind fun _ => hrest
  | configure => exact (Does.pure ()).bind fun _ => hrest
  | discovery => exact (Does.pure ()).bind fun _ => hrest

/-- To prepare is to do what the script says, in any program. -/
theorem does_carryOut_prepare (p : Program) (around : Surroundings) (s : Setup) (here : Location) :
    Does (p.carryOut around (.prepare s)) here (s.script here) := by
  have h := (does_prepare p s here).bind fun output =>
    (Does.note .ok p.closingWords).bind fun _ => Does.pure output
  rw [List.append_nil, List.append_nil] at h
  exact h

theorem output_of_prepare {s : Setup} {output : String} {y : Session}
    (h : (p.prepare s).perform x = (.ok output, y)) : output = "" := by
  have hrest : ∀ z, (do s.configure; return "" : Run String).perform z = (.ok output, y) →
      output = "" := by
    intro z hz
    rw [perform_bind] at hz
    rcases e : s.configure.perform z with ⟨fault | ⟨⟩, u⟩
    · rw [e] at hz
      cases hz
    · rw [e] at hz
      cases hz
      rfl
  rw [prepare] at h
  cases p with
  | main => exact hrest _ h
  | configure => exact hrest _ h
  | discovery => exact hrest _ h

/-- A preparation prints nothing. -/
theorem output_runJob_prepare (p : Program) (around : Surroundings) (s : Setup) (x : Session) :
    (p.runJob around (.prepare s) x).output = "" := by
  obtain ⟨-, hout, -⟩ := p.runJob_spec around (.prepare s) x
  rw [hout, carryOut, perform_bind]
  rcases e : (p.prepare s).perform x with ⟨fault | output, y⟩
  · rfl
  · exact output_of_prepare e

/-- All programs prepare alike: none of the faults is one of the API. -/
theorem runJob_prepare_congr (p q : Program) (around : Surroundings) (s : Setup) (x : Session) :
    (p.runJob around (.prepare s) x).Alike (q.runJob around (.prepare s) x) := by
  obtain ⟨hp, -, hpafter⟩ := p.runJob_spec around (.prepare s) x
  obtain ⟨hq, -, hqafter⟩ := q.runJob_spec around (.prepare s) x
  obtain ⟨hpresult, hptree⟩ := Prod.ext_iff.mp (does_carryOut_prepare p around s x.tree.here x rfl)
  obtain ⟨hqresult, hqtree⟩ := Prod.ext_iff.mp (does_carryOut_prepare q around s x.tree.here x rfl)
  refine ⟨?_, (output_runJob_prepare ..).trans (output_runJob_prepare ..).symm,
    (hpafter.tree.trans hptree).trans (hqafter.tree.trans hqtree).symm⟩
  rw [hp, hq, ← endingOf_map p fun _ => (), ← endingOf_map q fun _ => ()]
  show p.endingOf (Run.outcome _ x).1 = q.endingOf (Run.outcome _ x).1
  rw [hpresult, hqresult]
  rcases e : (Action.applyAll (s.script x.tree.here) x.tree).1 with f | ⟨⟩
  · have hf := Action.family_of_applyAll Setup.isLocal_script e
    simp only [endingOf, words, hf, decide_false, Bool.and_false]
  · rfl

/-! ### Modes -/

theorem main_run_prepareMode (around : Surroundings) (args : List String) (tree : Tree) :
    (main.run around (prepareMode :: args) tree).Alike (configure.run around args tree) ∧
      (configure.run around args tree).output = "" := by
  rw [run, run, main_jobOf_prepareMode]
  rcases e : configure.jobOf around.environment args with stop | job
  · exact ⟨.refl _, rfl⟩
  · obtain ⟨r, -, rfl⟩ := map_eq_ok_iff.mp e
    exact ⟨runJob_prepare_congr .., output_runJob_prepare ..⟩

theorem main_run_findMode (around : Surroundings) (args : List String) (tree : Tree) :
    (main.run around (findMode :: args) tree).Alike (discovery.run around args tree) ∧
      (main.run around (findMode :: args) tree).session.lookups =
        (discovery.run around args tree).session.lookups ∧
      (main.run around (findMode :: args) tree).session.requests =
        (discovery.run around args tree).session.requests := by
  rw [run, run, main_jobOf_findMode]
  rcases e : discovery.jobOf around.environment args with stop | job
  · exact ⟨.refl _, rfl, rfl⟩
  · obtain ⟨r, -, rfl⟩ := map_eq_ok_iff.mp e
    exact @runJob_find_congr main discovery rfl around _ (Session.start tree)

/-- Each mode of the main program ends, prints and asks as the program of its
job does, and leaves the same files; it is only the journals that differ. -/
theorem main_run_modes (around : Surroundings) (args : List String) (tree : Tree) :
    ((main.run around ("bootstrap" :: args) tree).Alike (configure.run around args tree) ∧
        (configure.run around args tree).output = "") ∧
      (main.run around ("seeds" :: args) tree).Alike (discovery.run around args tree) ∧
        (main.run around ("seeds" :: args) tree).session.lookups =
          (discovery.run around args tree).session.lookups ∧
        (main.run around ("seeds" :: args) tree).session.requests =
          (discovery.run around args tree).session.requests :=
  ⟨main_run_prepareMode around args tree, main_run_findMode around args tree⟩

end Program

end NodeBootstrap

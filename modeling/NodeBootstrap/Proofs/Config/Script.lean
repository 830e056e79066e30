/-
NodeBootstrap/Proofs/Config/Script.lean

The preparation of a node as a list of actions.  All that a preparation is
given is known before it starts, so which file is edited when, and how, can be
listed beforehand (`Setup.script`); `configure_does` says that the preparation
does to the tree just what that list does.  A variable that is missing is a
check that fails; what stands behind it in the list is not reached.
-/
import NodeBootstrap.Config.Pipeline
import NodeBootstrap.Proofs.Session.Revision

namespace NodeBootstrap

open NodeBootstrap.Run

variable {α β : Type} {here : Location}

/-! ### Steps as actions -/

/-- The fault of a result, if it is one. -/
def faultOf? : Except Fault α → Option Fault
  | .ok _ => none
  | .error f => some f

theorem eq_error_of_faultOf? {result : Except Fault α} {f : Fault}
    (h : faultOf? result = some f) : result = .error f := by
  rcases result with g | a
  · exact congrArg _ (Option.some.inj h)
  · cases h

/-- A run that needs a result first. -/
theorem Run.Does.ofExcept_bind {result : Except Fault α} {f : α → Run β} {as : List Action}
    (hf : ∀ a, result = .ok a → Does (f a) here as) :
    Does (ofExcept result >>= f) here (.check (faultOf? result) :: as) := by
  intro x hx
  rw [outcome, perform_bind, perform_ofExcept]
  rcases result with f' | a
  · rfl
  · exact hf a rfl x hx

theorem revises_setProperty (path key value : String) :
    (setProperty path key value).Revises path (Property.assign key value) := by
  intro x
  rw [setProperty, perform_bind, perform_readLines, Tree.revise]
  rcases x.tree.readLines path with f | lines
  · rfl
  · dsimp only
    by_cases h : Property.assign key value lines = lines
    · rw [if_pos h, if_pos h]
      rfl
    · rw [if_neg h, if_neg h, writeLines, perform_bind, perform_onTree]
      rcases x.tree.writeLines path (Property.assign key value lines) with ⟨f | ⟨⟩, u⟩ <;> rfl

theorem does_setProperty (path key value : String) :
    Does (setProperty path key value) here [.revise path (Property.assign key value)] :=
  (revises_setProperty path key value).does here

namespace SeedSection

/-- Without a marker there is nothing to replace. -/
theorem replaceFrom_of_not_mem (block : List String) {lines : List String} (h : marker ∉ lines) :
    replaceFrom block false lines = lines := by
  induction lines with
  | nil => rfl
  | cons line rest ih =>
    have hl : line ≠ marker := fun e => h (e ▸ List.mem_cons_self)
    have hr : marker ∉ rest := fun hm => h (List.mem_cons_of_mem _ hm)
    simp [replaceFrom, hl, ih hr]

end SeedSection

theorem revises_setSeedSection (path : String) (block : List String) :
    (setSeedSection path block).Revises path (SeedSection.replace block) := by
  intro x
  rw [setSeedSection, perform_bind, perform_readLines, Tree.revise]
  rcases x.tree.readLines path with f | lines
  · rfl
  · dsimp only
    -- without a marker there is nothing to replace, so the edit changes nothing either
    by_cases hm : SeedSection.marker ∈ lines
    · by_cases h : SeedSection.replace block lines = lines
      · rw [if_neg (not_not_intro hm), if_pos h, if_pos h]
        rfl
      · rw [if_neg (not_not_intro hm), if_neg h, if_neg h, writeLines, perform_bind, perform_onTree]
        rcases x.tree.writeLines path (SeedSection.replace block lines) with ⟨f | ⟨⟩, u⟩ <;> rfl
    · have h : SeedSection.replace block lines = lines :=
        SeedSection.replaceFrom_of_not_mem block hm
      rw [if_pos hm, if_pos h]
      rfl

theorem does_setSeedSection (path : String) (block : List String) :
    Does (setSeedSection path block) here [.revise path (SeedSection.replace block)] :=
  (revises_setSeedSection path block).does here

/-- The lines that an agent adds to a file of options. -/
def Agent.additions (agent : Agent) (lines : List String) : Except Fault (List String) :=
  if declarations agent.jar lines = [] then .ok [agent.line]
  else if agent.line ∈ declarations agent.jar lines then .ok []
  else .error .agentConflict

theorem does_addAgent (path : String) (agent : Agent) :
    Does (addAgent path agent) here [.extend path agent.additions] := by
  intro x _
  rw [outcome, addAgent, perform_bind, perform_readLines, Action.applyAll, Action.apply]
  rcases x.tree.readLines path with f | lines
  · rfl
  · dsimp only
    rw [Agent.additions]
    by_cases h : Agent.declarations agent.jar lines = []
    · rw [if_pos h, if_pos h, appendLines, perform_bind, perform_onTree]
      dsimp only
      rcases x.tree.appendLines path [agent.line] with ⟨f | ⟨⟩, u⟩ <;> rfl
    · rw [if_neg h, if_neg h]
      by_cases hl : agent.line ∈ Agent.declarations agent.jar lines
      · rw [if_pos hl, if_pos hl]
        rfl
      · rw [if_neg hl, if_neg hl]
        rfl

namespace Setup

variable (s : Setup)

/-! ### The script -/

/-- The value of a variable, where it matters: it is only looked at behind a
check that there is one. -/
def value (name : String) : String := (s.environment.read name none).getD ""

/-- The check that a variable has a value. -/
def need (name : String) : Action := .check (faultOf? (s.environment.mandatory name))

def seedActions : List Action :=
  if s.environment.flag Environment.useDefaultSeedProvider then []
  else
    [s.need Environment.clusterNamespace, s.need Environment.clusterName,
      .revise s.databaseFile (SeedSection.replace
        (SeedSection.block (s.value Environment.clusterNamespace)
          (s.value Environment.clusterName)))]

def propertyActions : List Action :=
  [.revise s.databaseFile (Property.assign "endpoint_snitch" snitch),
    s.need Environment.clusterName,
    .revise s.databaseFile (Property.assign "cluster_name" (s.value Environment.clusterName)),
    s.need Environment.listenAddress,
    .revise s.databaseFile (Property.assign "listen_address" (s.value Environment.listenAddress)),
    .revise s.databaseFile (Property.assign "rpc_address" (s.value Environment.listenAddress))]

def agentActions (here : Location) : List Action :=
  (s.agents here).map fun agent => .extend s.optionsFile agent.additions

/-- The flags of the memory that a file of options lacks. -/
def flagAdditions (lines : List String) : Except Fault (List String) := do
  let memory ← s.environment.mandatoryInt Environment.memoryBytes
  let processors ← s.environment.mandatoryInt Environment.cpuMillicores
  return Memory.missingFlags lines memory processors

def rackActions : List Action :=
  [s.need Environment.currentRack, s.need Environment.dataCenter,
    .supplant s.rackFile (RackDescriptor.lines (s.value Environment.dataCenter)
      (s.value Environment.currentRack))]

/-- All that a preparation does, in its order. -/
def script (here : Location) : List Action :=
  s.seedActions ++ s.propertyActions ++ s.agentActions here
    ++ [.extend s.optionsFile s.flagAdditions] ++ s.rackActions

/-! ### The preparation follows its script -/

variable {s}

theorem value_of_mandatory {name v : String} (h : s.environment.mandatory name = .ok v) :
    s.value name = v := by
  rw [Environment.mandatory] at h
  rw [value]
  cases e : s.environment.read name none with
  | none => simp [e] at h
  | some w => simpa [e] using h

theorem does_mandatory_bind {name : String} {f : String → Run β} {as : List Action}
    (hf : Does (f (s.value name)) here as) :
    Does (s.mandatory name >>= f) here (s.need name :: as) :=
  Does.ofExcept_bind fun _ h => value_of_mandatory h ▸ hf

theorem does_configureSeedProvider : Does s.configureSeedProvider here s.seedActions := by
  rw [configureSeedProvider, seedActions]
  split
  · exact Does.note _ _
  · exact does_mandatory_bind (does_mandatory_bind
      ((does_setSeedSection _ _).bind fun _ => Does.pure ()))

theorem does_configureClusterProperties :
    Does s.configureClusterProperties here s.propertyActions := by
  rw [configureClusterProperties]
  refine (does_setProperty _ _ _).bind fun _ => ?_
  refine does_mandatory_bind ?_
  refine (does_setProperty _ _ _).bind fun _ => ?_
  refine does_mandatory_bind ?_
  refine (does_setProperty _ _ _).bind fun _ => ?_
  exact (does_setProperty _ _ _).bind fun _ => Does.pure ()

theorem does_configureAgents : Does s.configureAgents here (s.agentActions here) := by
  have hall : ∀ agents : List Agent,
      Does (forIn agents PUnit.unit fun agent _ => do
        let _ ← addAgent s.optionsFile agent
        pure (ForInStep.yield PUnit.unit)) here
        (agents.map fun agent => .extend s.optionsFile agent.additions) := by
    intro agents
    induction agents with
    | nil => exact Does.forIn_nil
    | cons agent agents ih => exact Does.forIn_cons (does_addAgent s.optionsFile agent) ih
  intro x hx
  have h := (hall (s.agents here)).bind (fun _ => Does.pure ()) x hx
  rw [List.append_nil] at h
  rw [outcome, configureAgents, perform_bind, perform_tree]
  dsimp only
  rw [hx]
  exact h

theorem does_configureMemory :
    Does s.configureMemory here [.extend s.optionsFile s.flagAdditions] := by
  intro x _
  rw [outcome, configureMemory, perform_bind, perform_readLines, Action.applyAll, Action.apply]
  rcases x.tree.readLines s.optionsFile with f | lines
  · rfl
  dsimp only
  rw [flagAdditions, mandatoryInt, mandatoryInt, perform_bind, perform_ofExcept]
  rcases s.environment.mandatoryInt Environment.memoryBytes with f | memory
  · rfl
  dsimp only
  rw [perform_bind, perform_ofExcept]
  rcases s.environment.mandatoryInt Environment.cpuMillicores with f | processors
  · rfl
  dsimp only [bind, Except.bind, pure, Except.pure]
  -- without flags to add the file is not opened for writing
  by_cases h : Memory.missingFlags lines memory processors = []
  · rw [if_pos h, h]
    rfl
  · rw [if_neg h, appendLines]
    show (Except.map _ ((onTree _ >>= _).perform x).1, ((onTree _ >>= _).perform x).2.tree) = _
    rw [perform_bind, perform_onTree]
    rcases x.tree.appendLines s.optionsFile _ with ⟨f | ⟨⟩, u⟩ <;> rfl

theorem does_configureRack : Does s.configureRack here s.rackActions := by
  refine does_mandatory_bind (does_mandatory_bind ?_)
  intro x _
  rw [outcome, Run.writeLines, perform_bind, perform_onTree, Action.applyAll, Action.apply]
  rcases x.tree.writeLines s.rackFile _ with ⟨f | ⟨⟩, u⟩ <;> rfl

theorem does_runStep (title : String) {step : Setup → Run Unit} {as : List Action}
    (h : Does (step s) here as) : Does (s.runStep title step) here as := by
  have hs := (Does.note .step ("==> " ++ title)).bind fun _ =>
    h.bind fun _ => Does.note .ok ("Завершено: " ++ title)
  rw [List.append_nil] at hs
  exact hs

/-- A preparation does what its script says, and no more. -/
theorem configure_does (s : Setup) (here : Location) : Does s.configure here (s.script here) := by
  have hsteps : Does (forIn steps PUnit.unit fun entry _ => do
      let _ ← s.runStep entry.1 entry.2
      pure (ForInStep.yield PUnit.unit)) here (s.script here) := by
    -- one turn of the loop for each part of the script
    rw [script, List.append_assoc, List.append_assoc, List.append_assoc,
      ← List.append_nil s.rackActions]
    refine Does.forIn_cons (does_runStep _ does_configureSeedProvider) ?_
    refine Does.forIn_cons (does_runStep _ does_configureClusterProperties) ?_
    refine Does.forIn_cons (does_runStep _ does_configureAgents) ?_
    refine Does.forIn_cons (does_runStep _ does_configureMemory) ?_
    exact Does.forIn_cons (does_runStep _ does_configureRack) Does.forIn_nil
  have h := (Does.note .info ("Конфигурация Cassandra в " ++ s.staging.text)).bind fun _ =>
    hsteps.bind fun _ => Does.pure ()
  rw [List.append_nil] at h
  exact h

theorem tree_perform_configure (s : Setup) (x : Session) :
    (s.configure.perform x).2.tree = (Action.applyAll (s.script x.tree.here) x.tree).2 :=
  congrArg Prod.snd (s.configure_does x.tree.here x rfl)

theorem applyAll_of_perform {x y : Session} (h : s.configure.perform x = (.ok (), y)) :
    Action.applyAll (s.script x.tree.here) x.tree = (.ok (), y.tree) :=
  (s.configure_does x.tree.here).applyAll_eq_ok_iff.mpr ⟨(), y, h, rfl⟩

theorem perform_of_applyAll {x : Session} {u : Tree}
    (h : Action.applyAll (s.script x.tree.here) x.tree = (.ok (), u)) :
    ∃ y, s.configure.perform x = (.ok (), y) ∧ y.tree = u := by
  obtain ⟨⟨⟩, y, hy, hu⟩ := (s.configure_does x.tree.here).applyAll_eq_ok_iff.mp h
  exact ⟨y, hy, hu⟩

end Setup

end NodeBootstrap

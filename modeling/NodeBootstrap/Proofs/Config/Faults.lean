/-
NodeBootstrap/Proofs/Config/Faults.lean

The faults of a preparation.  Variables, files and agents have theirs, and
nothing that a preparation does asks the API, so it never fails with a fault of
a request (`Action.family_of_applyAll` on `Setup.isLocal_script`).
-/
import NodeBootstrap.Proofs.Config.Script

namespace NodeBootstrap

/-! ### Variables -/

theorem Environment.family_of_mandatory {env : Environment} {name : String} {f : Fault}
    (h : env.mandatory name = .error f) : f.family = .configuration := by
  rw [mandatory] at h
  split at h
  · cases h
  · cases h
    rfl

theorem Environment.family_of_mandatoryInt {env : Environment} {name : String} {f : Fault}
    (h : env.mandatoryInt name = .error f) : f.family = .configuration := by
  rw [mandatoryInt] at h
  split at h
  · rename_i e
    cases h
    exact family_of_mandatory e
  · split at h
    · cases h
    · cases h
      rfl

/-! ### Files -/

namespace Tree

variable {t : Tree} {f : Fault} {path : String}

theorem family_of_readLines (h : t.readLines path = .error f) : f.family ≠ .request := by
  revert h
  fun_cases Tree.readLines t path <;> intro h <;> cases h <;> exact Fault.Family.noConfusion

theorem family_of_replace {beside : Location} {bytes : ByteArray}
    (h : (t.replace beside path bytes).1 = .error f) : f.family ≠ .request := by
  revert h
  fun_cases Tree.replace t beside path bytes <;> intro h <;> cases h <;>
    exact Fault.Family.noConfusion

theorem family_of_writeLines {lines : List String}
    (h : (t.writeLines path lines).1 = .error f) : f.family ≠ .request := by
  revert h
  fun_cases Tree.writeLines t path lines <;> intro h <;>
    first | exact family_of_replace h | (cases h <;> exact Fault.Family.noConfusion)

theorem family_of_appendLines {lines : List String}
    (h : (t.appendLines path lines).1 = .error f) : f.family ≠ .request := by
  revert h
  fun_cases Tree.appendLines t path lines <;> intro h <;> cases h <;>
    exact Fault.Family.noConfusion

end Tree

/-! ### Actions -/

namespace Action

/-- None of the faults that an action may bring along is one of a request. -/
def IsLocal : Action → Prop
  | check fault => ∀ f, fault = some f → f.family ≠ .request
  | extend _ more => ∀ lines f, more lines = .error f → f.family ≠ .request
  | revise .. | supplant .. => True

variable {a : Action} {as : List Action} {t : Tree} {f : Fault}

theorem family_of_apply (ha : a.IsLocal) (h : (a.apply t).1 = .error f) :
    f.family ≠ .request := by
  cases a with
  | check fault =>
    cases fault with
    | none => cases h
    | some g =>
      cases h
      exact ha f rfl
  | revise path edit =>
    rw [apply] at h
    split at h
    · rename_i e
      cases h
      exact Tree.family_of_readLines e
    · split at h
      · cases h
      · exact Tree.family_of_writeLines h
  | extend path more =>
    rw [apply] at h
    split at h
    · rename_i e
      cases h
      exact Tree.family_of_readLines e
    · split at h
      · rename_i e
        cases h
        exact ha _ f e
      · exact Tree.family_of_appendLines h
  | supplant path lines => exact Tree.family_of_writeLines h

/-- A list of such actions fails with no fault of a request. -/
theorem family_of_applyAll (has : ∀ a ∈ as, a.IsLocal) (h : (applyAll as t).1 = .error f) :
    f.family ≠ .request := by
  obtain ⟨done, rest, u, rfl, -, ⟨-, hall⟩ | ⟨a, more, g, rfl, hfail, hall⟩⟩ := exists_prefix as t
  · rw [hall] at h
    cases h
  · rw [hall] at h
    cases h
    exact family_of_apply (has a (by simp)) hfail

end Action

/-! ### The script -/

namespace Setup

variable {s : Setup} {here : Location}

theorem isLocal_need (name : String) : (s.need name).IsLocal := by
  intro f h
  rcases e : s.environment.mandatory name with g | v
  · rw [e] at h
    cases h
    rw [Environment.family_of_mandatory e]
    exact Fault.Family.noConfusion
  · rw [e] at h
    cases h

theorem isLocal_agent (path : String) (agent : Agent) :
    (Action.extend path agent.additions).IsLocal := by
  intro lines f h
  rw [Agent.additions] at h
  split at h
  · cases h
  · split at h
    · cases h
    · cases h
      exact Fault.Family.noConfusion

theorem isLocal_flags (path : String) : (Action.extend path s.flagAdditions).IsLocal := by
  intro lines f h
  have hfamily : ∀ {name}, s.environment.mandatoryInt name = .error f → f.family ≠ .request := by
    intro name e
    rw [Environment.family_of_mandatoryInt e]
    exact Fault.Family.noConfusion
  rw [flagAdditions] at h
  rcases hm : s.environment.mandatoryInt Environment.memoryBytes with g | memory
  · rw [hm] at h
    cases h
    exact hfamily hm
  rcases hp : s.environment.mandatoryInt Environment.cpuMillicores with g | processors
  · rw [hm, hp] at h
    cases h
    exact hfamily hp
  · rw [hm, hp] at h
    cases h

theorem isLocal_script : ∀ a ∈ s.script here, a.IsLocal := by
  have hseeds : ∀ a ∈ s.seedActions, a.IsLocal := by
    rw [seedActions]
    split
    · exact List.forall_mem_nil _
    · simp only [List.forall_mem_cons]
      exact ⟨isLocal_need _, isLocal_need _, trivial, List.forall_mem_nil _⟩
  have hproperties : ∀ a ∈ s.propertyActions, a.IsLocal := by
    simp only [propertyActions, List.forall_mem_cons]
    exact ⟨trivial, isLocal_need _, trivial, isLocal_need _, trivial, trivial,
      List.forall_mem_nil _⟩
  have hagents : ∀ a ∈ s.agentActions here, a.IsLocal := by
    intro a ha
    obtain ⟨agent, -, rfl⟩ := List.mem_map.mp ha
    exact isLocal_agent _ agent
  have hracks : ∀ a ∈ s.rackActions, a.IsLocal := by
    simp only [rackActions, List.forall_mem_cons]
    exact ⟨isLocal_need _, isLocal_need _, trivial, List.forall_mem_nil _⟩
  intro a ha
  simp only [script, List.mem_append, List.mem_singleton, or_assoc] at ha
  rcases ha with ha | ha | ha | rfl | ha
  · exact hseeds a ha
  · exact hproperties a ha
  · exact hagents a ha
  · exact isLocal_flags _
  · exact hracks a ha

end Setup

end NodeBootstrap

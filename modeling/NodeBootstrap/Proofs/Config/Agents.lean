/-
NodeBootstrap/Proofs/Config/Agents.lean

What adding agents to the options comes to.  Each agent is decided on the file
that those before it have changed, but their lines declare other jars, so it
is decided just as on the file that there was at first (`Agent.fits_lacking_iff`).
Agents that all fit are therefore added as far as their jars are not declared
(`Agent.applyAll_of_fits`), and the first that does not fit is a conflict,
behind the lines of those before it (`Agent.applyAll_of_misfit`).
-/
import NodeBootstrap.Proofs.Config.Course
import NodeBootstrap.Proofs.Config.Options
import NodeBootstrap.Proofs.Tree.Site

namespace NodeBootstrap

open NodeBootstrap.Lines

/-! ### Additions -/

/-- Lines that are added to a file come behind those that it has. -/
theorem Action.exists_apply_extend {path : String} {more : Extension} {t : Tree}
    {lines added : List String} (hread : t.readLines path = .ok lines)
    (hmore : more lines = .ok added) (hline : ∀ l ∈ added, IsLine l) :
    ∃ u, (extend path more).apply t = (.ok (), u) ∧
      u.readLines path = .ok (lines ++ added) := by
  obtain ⟨target, hto, hl⟩ := Tree.leadsTo_of_readLines hread
  obtain ⟨bytes, hb, hlines⟩ := Tree.exists_of_linesAt? hl
  exact ⟨t.appended target bytes added,
    (apply_extend hread hmore).trans (hto.appendLines_eq hb added),
    hto.readLines_appended hb hlines hline⟩

/-! ### Agents -/

namespace Agent

/-- The action that adds an agent to a file. -/
def addition (path : String) (agent : Agent) : Action := .extend path agent.additions

variable {path : String} {agent : Agent} {agents before after : List Agent}
variable {t : Tree} {lines : List String}

instance (agent : Agent) (lines : List String) : Decidable (agent.Fits lines) :=
  inferInstanceAs (Decidable
    ((∃ l ∈ lines, startsWith (head agent.jar) l = true) → agent.line ∈ lines))

theorem declares_of_distinct (hd : Distinct (agents.map wants)) :
    ∀ a ∈ agents, a.Declares := fun a ha => hd.own a.wants (List.mem_map_of_mem ha)

/-- Lines of agents before it do not change whether an agent fits. -/
theorem fits_lacking_iff (hd : Distinct ((before ++ agent :: after).map wants)) :
    agent.Fits (lines ++ lacking (before.map wants) lines) ↔ agent.Fits lines := by
  have hagent : agent.Declares := declares_of_distinct hd agent (by simp)
  rw [List.map_append, List.map_cons] at hd
  have hno : ∀ l ∈ lacking (before.map wants) lines, startsWith (head agent.jar) l = false := by
    intro l hl
    obtain ⟨w, hw, -, rfl⟩ := mem_lacking.mp hl
    have hapart : Apart w.1 agent.wants.1 :=
      (List.pairwise_append.mp hd.apart).2.2 w hw agent.wants List.mem_cons_self
    exact hapart.startsWith_eq_false (hd.own w (List.mem_append_left _ hw))
  exact fits_append_iff hagent hno

theorem apply_addition_of_fits (hagent : agent.Declares) (hline : IsLine agent.line)
    (hread : t.readLines path = .ok lines) (hfits : agent.Fits lines) :
    ∃ u, (agent.addition path).apply t = (.ok (), u) ∧
      u.readLines path = .ok (lines ++ lacking [agent.wants] lines) := by
  obtain ⟨added, hadded⟩ := (exists_additions_iff hagent).mpr hfits
  have hlacking := agent.supplies_additions lines added hadded
  rw [← hlacking]
  refine Action.exists_apply_extend hread hadded fun l hl => ?_
  rw [hlacking] at hl
  obtain ⟨w, hw, -, rfl⟩ := mem_lacking.mp hl
  obtain rfl := List.mem_singleton.mp hw
  exact hline

theorem apply_addition_of_misfit (hagent : agent.Declares)
    (hread : t.readLines path = .ok lines) (hfits : ¬ agent.Fits lines) :
    (agent.addition path).apply t = (.error .agentConflict, t) := by
  refine Action.apply_extend_error hread ?_
  rcases hadded : agent.additions lines with f | added
  · rw [additions] at hadded
    split at hadded
    · cases hadded
    · split at hadded
      · cases hadded
      · exact hadded.symm
  · exact absurd ((exists_additions_iff hagent).mp ⟨added, hadded⟩) hfits

/-- Agents that all fit are added behind those before them. -/
theorem applyAll_behind (before : List Agent) (hd : Distinct ((before ++ agents).map wants))
    (hline : ∀ a ∈ agents, IsLine a.line) (hfits : ∀ a ∈ agents, a.Fits lines)
    (hread : t.readLines path = .ok (lines ++ lacking (before.map wants) lines)) :
    ∃ u, Action.applyAll (agents.map (addition path)) t = (.ok (), u) ∧
      u.readLines path = .ok (lines ++ lacking ((before ++ agents).map wants) lines) := by
  -- the file holds what the agents so far lacked, and the others still fit it
  induction agents generalizing before t with
  | nil => exact ⟨t, rfl, by rw [List.append_nil]; exact hread⟩
  | cons agent agents ih =>
    obtain ⟨hagentLine, hline⟩ := List.forall_mem_cons.mp hline
    obtain ⟨hagentFits, hfits⟩ := List.forall_mem_cons.mp hfits
    have hagent : agent.Declares := declares_of_distinct hd agent (by simp)
    obtain ⟨u, hu, hafter⟩ := apply_addition_of_fits hagent hagentLine hread
      ((fits_lacking_iff hd).mpr hagentFits)
    rw [List.append_cons] at hd ⊢
    have hfirst : Distinct (before.map wants ++ [agent.wants]) := by
      rw [List.map_append, List.map_append] at hd
      exact hd.of_append_left
    have hnow : (before ++ [agent]).map wants = before.map wants ++ [agent.wants] := by
      rw [List.map_append, List.map_singleton]
    rw [List.append_assoc, ← hfirst.lacking_append, ← hnow] at hafter
    obtain ⟨v, hv, hlast⟩ := ih (before ++ [agent]) hd hline hfits hafter
    exact ⟨v, (Action.applyAll_cons_ok hu _).trans hv, hlast⟩

/-- Agents that all fit are added as far as their jars are not declared. -/
theorem applyAll_of_fits (hd : Distinct (agents.map wants))
    (hline : ∀ a ∈ agents, IsLine a.line) (hread : t.readLines path = .ok lines)
    (hfits : ∀ a ∈ agents, a.Fits lines) :
    ∃ u, Action.applyAll (agents.map (addition path)) t = (.ok (), u) ∧
      u.readLines path = .ok (lines ++ lacking (agents.map wants) lines) := by
  have hnone : lines ++ lacking (([] : List Agent).map wants) lines = lines := List.append_nil lines
  exact applyAll_behind [] hd hline hfits (hnone.symm ▸ hread)

/-- The first agent that does not fit is a conflict; those before it are
added. -/
theorem applyAll_of_misfit (hd : Distinct ((before ++ agent :: after).map wants))
    (hline : ∀ a ∈ before, IsLine a.line) (hread : t.readLines path = .ok lines)
    (hbefore : ∀ a ∈ before, a.Fits lines) (hfits : ¬ agent.Fits lines) :
    ∃ u, Action.applyAll ((before ++ agent :: after).map (addition path)) t =
        (.error .agentConflict, u) ∧
      u.readLines path = .ok (lines ++ lacking (before.map wants) lines) := by
  have hbeforeDistinct : Distinct (before.map wants) := by
    rw [List.map_append] at hd
    exact hd.of_append_left
  obtain ⟨u, hu, hafter⟩ := applyAll_of_fits hbeforeDistinct hline hread hbefore
  refine ⟨u, ?_, hafter⟩
  have hagent : agent.Declares := declares_of_distinct hd agent (by simp)
  rw [List.map_append, List.map_cons, Action.applyAll_append, hu]
  exact Action.applyAll_cons_error
    (apply_addition_of_misfit hagent hafter (mt (fits_lacking_iff hd).mp hfits)) _

/-- Those of agents whose jars no line declares. -/
def undeclared (agents : List Agent) (lines : List String) : List Agent :=
  agents.filter fun a => (declarations a.jar lines).isEmpty

theorem lacking_wants (agents : List Agent) (lines : List String) :
    lacking (agents.map wants) lines = (undeclared agents lines).map (·.line) := by
  have hany : ∀ a : Agent, (!lines.any (startsWith a.wants.1)) =
      (declarations a.jar lines).isEmpty := by
    intro a
    rw [Bool.eq_iff_iff, List.isEmpty_iff, declarations_eq_nil_iff, Bool.not_eq_true',
      List.any_eq_false]
    simp [wants]
  rw [lacking, List.filter_map, List.map_map, undeclared]
  congr 1
  exact List.filter_congr fun a _ => hany a

end Agent

/-! ### The agents of a node -/

namespace Setup

/-- The agent that comes first, the exporter of metrics. -/
def metrics (s : Setup) (here : Location) : Agent :=
  Agent.metrics (s.lib.absolute here).text (s.conf.absolute here).text

/-- The agent that comes second, the bridge to management. -/
def management (s : Setup) (here : Location) : Agent :=
  Agent.management (s.lib.absolute here).text (s.conf.absolute here).text

variable {s : Setup} {x : Session} {here : Location} {lines : List String}

theorem agents_eq : s.agents here = [s.metrics here, s.management here] := rfl

theorem distinct_agents (s : Setup) (here : Location) :
    Distinct ((s.agents here).map Agent.wants) :=
  (distinct_options s here).of_append_left

/-- Agents that all fit are added as far as their jars are not declared. -/
theorem configureAgents_of_fits (hlib : IsLine (s.lib.absolute x.tree.here).text)
    (hconf : IsLine (s.conf.absolute x.tree.here).text)
    (hread : x.tree.readLines s.optionsFile = .ok lines)
    (hfits : ∀ a ∈ s.agents x.tree.here, a.Fits lines) :
    ∃ y, s.configureAgents.perform x = (.ok (), y) ∧ y.tree.readLines s.optionsFile =
      .ok (lines ++ (Agent.undeclared (s.agents x.tree.here) lines).map (·.line)) := by
  obtain ⟨u, hu, hafter⟩ := Agent.applyAll_of_fits (s.distinct_agents x.tree.here)
    (Agent.isLine_of_mem_all _ _ hlib hconf) hread hfits
  obtain ⟨⟨⟩, y, hy, rfl⟩ := s.does_configureAgents.applyAll_eq_ok_iff.mp hu
  exact ⟨y, hy, Agent.lacking_wants _ lines ▸ hafter⟩

/-- An agent that does not fit is a conflict, behind the lines of those before
it. -/
theorem configureAgents_of_misfit {before after : List Agent} {agent : Agent}
    (hlib : IsLine (s.lib.absolute x.tree.here).text)
    (hconf : IsLine (s.conf.absolute x.tree.here).text)
    (hread : x.tree.readLines s.optionsFile = .ok lines)
    (hagents : s.agents x.tree.here = before ++ agent :: after)
    (hbefore : ∀ a ∈ before, a.Fits lines) (hfits : ¬ agent.Fits lines) :
    ∃ y, s.configureAgents.perform x = (.error .agentConflict, y) ∧
      y.tree.readLines s.optionsFile =
        .ok (lines ++ (Agent.undeclared before lines).map (·.line)) := by
  have hline : ∀ a ∈ before, IsLine a.line := by
    intro a ha
    have hmem : a ∈ s.agents x.tree.here := hagents ▸ List.mem_append_left _ ha
    exact Agent.isLine_of_mem_all _ _ hlib hconf a hmem
  obtain ⟨u, hu, hafter⟩ := Agent.applyAll_of_misfit (hagents ▸ s.distinct_agents x.tree.here)
    hline hread hbefore hfits
  rw [← hagents] at hu
  obtain ⟨y, hy, rfl⟩ := s.does_configureAgents.applyAll_eq_error_iff.mp hu
  exact ⟨y, hy, Agent.lacking_wants _ lines ▸ hafter⟩

/-- The exporter of metrics comes first, so nothing is added before its
conflict. -/
theorem configureAgents_of_misfit_metrics (hlib : IsLine (s.lib.absolute x.tree.here).text)
    (hconf : IsLine (s.conf.absolute x.tree.here).text)
    (hread : x.tree.readLines s.optionsFile = .ok lines)
    (hm : ¬ (s.metrics x.tree.here).Fits lines) :
    ∃ y, s.configureAgents.perform x = (.error .agentConflict, y) ∧
      y.tree.readLines s.optionsFile = .ok lines := by
  have hagents : s.agents x.tree.here =
      [] ++ s.metrics x.tree.here :: [s.management x.tree.here] := rfl
  obtain ⟨y, hy, hafter⟩ := configureAgents_of_misfit hlib hconf hread hagents
    (List.forall_mem_nil _) hm
  exact ⟨y, hy, hafter.trans (congrArg _ (List.append_nil lines))⟩

theorem configureAgents_of_misfit_management (hlib : IsLine (s.lib.absolute x.tree.here).text)
    (hconf : IsLine (s.conf.absolute x.tree.here).text)
    (hread : x.tree.readLines s.optionsFile = .ok lines)
    (hm : (s.metrics x.tree.here).Fits lines) (hn : ¬ (s.management x.tree.here).Fits lines) :
    ∃ y, s.configureAgents.perform x = (.error .agentConflict, y) ∧
      y.tree.readLines s.optionsFile =
        .ok (lines ++ (Agent.undeclared [s.metrics x.tree.here] lines).map (·.line)) := by
  have hagents : s.agents x.tree.here =
      [s.metrics x.tree.here] ++ s.management x.tree.here :: [] := rfl
  exact configureAgents_of_misfit hlib hconf hread hagents (List.forall_mem_singleton.mpr hm) hn

/-- Whether the agents are added is decided on the file as it was. -/
theorem exists_configureAgents_iff (hlib : IsLine (s.lib.absolute x.tree.here).text)
    (hconf : IsLine (s.conf.absolute x.tree.here).text)
    (hread : x.tree.readLines s.optionsFile = .ok lines) :
    (∃ y, s.configureAgents.perform x = (.ok (), y)) ↔
      ∀ a ∈ s.agents x.tree.here, a.Fits lines := by
  constructor
  · rintro ⟨y, hy⟩
    have hm : (s.metrics x.tree.here).Fits lines := Classical.not_not.mp fun hm => by
      obtain ⟨z, hz, -⟩ := configureAgents_of_misfit_metrics hlib hconf hread hm
      cases hy.symm.trans hz
    have hn : (s.management x.tree.here).Fits lines := Classical.not_not.mp fun hn => by
      obtain ⟨z, hz, -⟩ := configureAgents_of_misfit_management hlib hconf hread hm hn
      cases hy.symm.trans hz
    exact List.forall_mem_cons.mpr ⟨hm, List.forall_mem_singleton.mpr hn⟩
  · intro hfits
    obtain ⟨y, hy, -⟩ := configureAgents_of_fits hlib hconf hread hfits
    exact ⟨y, hy⟩

/-- A line that is expected is there as often as before, or once. -/
theorem count_line_agents {agent : Agent} (hagent : agent ∈ s.agents here)
    (hfits : agent.Fits lines) :
    (lines ++ (Agent.undeclared (s.agents here) lines).map (·.line)).count agent.line =
      max 1 (lines.count agent.line) := by
  rw [← Agent.lacking_wants]
  exact (s.distinct_agents here).count_append_lacking (List.mem_map_of_mem hagent) hfits

/-- The agents are added just if both of them fit the file as it was; then
each line that is expected is there, as often as before or once.  Else the
first that does not fit is a conflict, and the line of the one before it is
added if no line declared its jar. -/
theorem configureAgents_full (hlib : IsLine (s.lib.absolute x.tree.here).text)
    (hconf : IsLine (s.conf.absolute x.tree.here).text)
    (hread : x.tree.readLines s.optionsFile = .ok lines) :
    ((∃ y, s.configureAgents.perform x = (.ok (), y)) ↔
      (s.metrics x.tree.here).Fits lines ∧ (s.management x.tree.here).Fits lines) ∧
    (∀ y, s.configureAgents.perform x = (.ok (), y) →
      ∃ after, y.tree.readLines s.optionsFile = .ok after ∧
        after = lines ++ (Agent.undeclared [s.metrics x.tree.here, s.management x.tree.here]
          lines).map (·.line) ∧
        ∀ agent ∈ [s.metrics x.tree.here, s.management x.tree.here],
          agent.line ∈ after ∧ after.count agent.line = max 1 (lines.count agent.line)) ∧
    (¬ (s.metrics x.tree.here).Fits lines →
      ∃ y, s.configureAgents.perform x = (.error .agentConflict, y) ∧
        y.tree.readLines s.optionsFile = .ok lines) ∧
    ((s.metrics x.tree.here).Fits lines → ¬ (s.management x.tree.here).Fits lines →
      ∃ y, s.configureAgents.perform x = (.error .agentConflict, y) ∧
        y.tree.readLines s.optionsFile =
          .ok (lines ++ (Agent.undeclared [s.metrics x.tree.here] lines).map (·.line))) := by
  have hiff := exists_configureAgents_iff hlib hconf hread
  refine ⟨?_, fun y hy => ?_, configureAgents_of_misfit_metrics hlib hconf hread,
    configureAgents_of_misfit_management hlib hconf hread⟩
  · rw [hiff, agents_eq, List.forall_mem_cons, List.forall_mem_singleton]
  · have hfits := hiff.mp ⟨y, hy⟩
    obtain ⟨z, hz, hafter⟩ := configureAgents_of_fits hlib hconf hread hfits
    obtain rfl : y = z := congrArg Prod.snd (hy.symm.trans hz)
    refine ⟨_, hafter, rfl, fun agent hagent => ?_⟩
    have hcount := count_line_agents hagent (hfits agent hagent)
    refine ⟨List.count_pos_iff.mp ?_, hcount⟩
    rw [hcount]
    omega

/-- The sample with options of which the last one is not ended and declares
the bridge to management otherwise. -/
def overriddenTree : Tree :=
  sampleTree.put ["staging", "jvm.options"]
    (.file "-Xmx1G\r\n-javaagent:/lib/jolokia-jvm-agent.jar=port=1".toUTF8)

theorem readLines_overriddenTree : overriddenTree.readLines sample.optionsFile =
    .ok ["-Xmx1G", "-javaagent:/lib/jolokia-jvm-agent.jar=port=1"] := by
  have hto : Tree.LeadsTo overriddenTree sample.optionsFile ["staging", "jvm.options"] :=
    ⟨by decide +kernel, rfl⟩
  have hentry : overriddenTree.entryAt ["staging", "jvm.options"] =
      some (.file "-Xmx1G\r\n-javaagent:/lib/jolokia-jvm-agent.jar=port=1".toUTF8) := rfl
  rw [hto.readLines_eq_ok_iff, Tree.linesAt?_of_entryAt hentry, Tree.linesOf?_toUTF8]
  decide +kernel

/-- The bridge is a conflict, behind the line of the exporter. -/
theorem configureAgents_full_sample :
    ∃ y, sample.configureAgents.perform (.start overriddenTree) = (.error .agentConflict, y) ∧
      y.tree.readLines sample.optionsFile =
        .ok ["-Xmx1G", "-javaagent:/lib/jolokia-jvm-agent.jar=port=1",
          "-javaagent:/lib/jmx_prometheus_javaagent.jar=7070:/etc/prometheus.yml"] := by
  have hlib : IsLine (sample.lib.absolute []).text := by decide
  have hconf : IsLine (sample.conf.absolute []).text := by decide
  obtain ⟨-, -, -, hconflict⟩ :=
    configureAgents_full (x := .start overriddenTree) hlib hconf readLines_overriddenTree
  obtain ⟨y, hy, hafter⟩ := hconflict (by decide +kernel) (by decide +kernel)
  refine ⟨y, hy, hafter.trans (congrArg _ ?_)⟩
  decide +kernel

end Setup

end NodeBootstrap

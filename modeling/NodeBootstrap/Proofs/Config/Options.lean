/-
NodeBootstrap/Proofs/Config/Options.lean

What a preparation adds to the options of the virtual machine.  Agents and
flags are lines that the file should have; each is added by itself, which
comes to adding all that are lacking (`extendAll_eq`).

An agent fits a file that declares its jar as it does, or not at all.  Lines
that a preparation adds, for whichever node, leave every agent fitting
(`exists_extendAll_append`), so they never stand in the way of another preparation.
-/
import NodeBootstrap.Proofs.Config.Script
import NodeBootstrap.Proofs.Text.Lines
import NodeBootstrap.Proofs.Text.Wanted

namespace NodeBootstrap

open NodeBootstrap.Lines

/-- Lines to add to a file, by the lines that are there. -/
abbrev Extension := List String → Except Fault (List String)

namespace Extension

/-- All that extensions add to lines, one after the other. -/
def extendAll : List Extension → List String → Except Fault (List String)
  | [], _ => .ok []
  | more :: rest, lines =>
    match more lines with
    | .error f => .error f
    | .ok added =>
      match extendAll rest (lines ++ added) with
      | .error f => .error f
      | .ok others => .ok (added ++ others)

/-- An extension adds those of wanted lines that are lacking, if it adds any
at all. -/
def Supplies (more : Extension) (wanted : List (String × String)) : Prop :=
  ∀ lines added, more lines = .ok added → added = lacking wanted lines

variable {more : Extension} {rest : List Extension} {lines added : List String}

theorem extendAll_cons_eq_ok :
    extendAll (more :: rest) lines = .ok added ↔
      ∃ first others, more lines = .ok first ∧ extendAll rest (lines ++ first) = .ok others ∧
        added = first ++ others := by
  rw [extendAll]
  rcases more lines with f | first
  · simp
  · rcases h : extendAll rest (lines ++ first) with f | others
    · simp [h]
    · simp [h, eq_comm]

/-- Extensions that supply wanted lines add what is lacking of them all. -/
theorem extendAll_eq {parts : List (Extension × List (String × String))}
    (hs : ∀ p ∈ parts, Supplies p.1 p.2) (hd : Distinct (parts.flatMap (·.2)))
    (h : extendAll (parts.map (·.1)) lines = .ok added) :
    added = lacking (parts.flatMap (·.2)) lines := by
  induction parts generalizing lines added with
  | nil => exact (Except.ok.inj h).symm
  | cons p parts ih =>
    obtain ⟨first, others, hfirst, hothers, rfl⟩ := extendAll_cons_eq_ok.mp h
    rw [List.flatMap_cons] at hd ⊢
    have hf : first = lacking p.2 lines := hs p List.mem_cons_self lines first hfirst
    have hrest : Distinct (parts.flatMap (·.2)) :=
      ⟨fun w hw => hd.own w (List.mem_append_right _ hw), (List.pairwise_append.mp hd.apart).2.1⟩
    have ho := ih (fun q hq => hs q (List.mem_cons_of_mem _ hq)) hrest hothers
    -- each adds what is lacking behind those before, which is what was lacking at first
    rw [ho, hf, hd.lacking_append]

/-- The first of them add what is lacking of the first lines. -/
theorem extendAll_prefix_eq {parts : List (Extension × List (String × String))}
    (hs : ∀ p ∈ parts, Supplies p.1 p.2) (hd : Distinct (parts.flatMap (·.2)))
    {done : List Extension} (hp : done <+: parts.map (·.1))
    (h : extendAll done lines = .ok added) :
    ∃ wanted, wanted <+: parts.flatMap (·.2) ∧ added = lacking wanted lines := by
  obtain ⟨first, hfirst, rfl⟩ := List.prefix_map_iff.mp hp
  have hw : first.flatMap (·.2) <+: parts.flatMap (·.2) := by
    obtain ⟨others, rfl⟩ := hfirst
    rw [List.flatMap_append]
    exact List.prefix_append _ _
  refine ⟨first.flatMap (·.2), hw, ?_⟩
  exact extendAll_eq (fun p hm => hs p (hfirst.subset hm)) (hd.of_prefix hw) h

end Extension

open NodeBootstrap.Extension

/-! ### Agents -/

namespace Agent

/-- The line that an agent wants, known by its jar. -/
def wants (agent : Agent) : String × String := (head agent.jar, agent.line)

/-- An agent whose line declares its jar. -/
def Declares (agent : Agent) : Prop := startsWith (head agent.jar) agent.line = true

/-- Lines that declare an agent's jar as the agent does, or not at all. -/
def Fits (agent : Agent) (lines : List String) : Prop :=
  (∃ l ∈ lines, startsWith (head agent.jar) l = true) → agent.line ∈ lines

variable {agent : Agent} {lines added : List String}

theorem declarations_eq_nil_iff :
    declarations agent.jar lines = [] ↔ ∀ l ∈ lines, startsWith (head agent.jar) l = false := by
  simp [declarations]

/-- An agent has something to add, if only nothing, where it fits. -/
theorem exists_additions_iff (h : agent.Declares) :
    (∃ added, agent.additions lines = .ok added) ↔ agent.Fits lines := by
  have hmem : agent.line ∈ declarations agent.jar lines ↔ agent.line ∈ lines := by
    rw [declarations, List.mem_filter]
    exact and_iff_left h
  rw [additions]
  constructor
  · rintro ⟨added, ha⟩ ⟨l, hl, hs⟩
    split at ha
    · rename_i hnil
      rw [declarations_eq_nil_iff.mp hnil l hl] at hs
      contradiction
    · split at ha
      · exact hmem.mp ‹_›
      · contradiction
  · intro hf
    split
    · exact ⟨_, rfl⟩
    · rename_i hne
      -- some line declares the jar, so the agent fits only if one does as it does
      have hany : ∃ l ∈ lines, startsWith (head agent.jar) l = true := by
        refine Classical.byContradiction fun hno => hne (declarations_eq_nil_iff.mpr ?_)
        intro l hl
        rw [Bool.eq_false_iff]
        exact fun hs => hno ⟨l, hl, hs⟩
      rw [if_pos (hmem.mpr (hf hany))]
      exact ⟨_, rfl⟩

theorem supplies_additions (agent : Agent) : Supplies agent.additions [agent.wants] := by
  intro lines added h
  have hany : lines.any (startsWith (head agent.jar)) =
      !(declarations agent.jar lines).isEmpty := by
    rw [Bool.eq_iff_iff, List.any_eq_true, Bool.not_eq_true', List.isEmpty_eq_false_iff,
      declarations, ne_eq, List.filter_eq_nil_iff]
    simp
  rw [additions] at h
  rw [lacking, wants, List.filter_cons, hany, List.filter_nil]
  split at h
  · rename_i hnil
    rw [hnil, ← Except.ok.inj h]
    rfl
  · rename_i hne
    split at h
    · rw [← Except.ok.inj h]
      simp [hne]
    · contradiction

/-- A line that does not declare the agent's jar otherwise. -/
def Bears (agent : Agent) (l : String) : Prop :=
  startsWith (head agent.jar) l = true → l = agent.line

theorem Fits.append (h : agent.Fits lines) (ha : ∀ l ∈ added, agent.Bears l) :
    agent.Fits (lines ++ added) := by
  rintro ⟨l, hl, hs⟩
  rcases List.mem_append.mp hl with hl | hl
  · exact List.mem_append_left _ (h ⟨l, hl, hs⟩)
  · exact List.mem_append_right _ (ha l hl hs ▸ hl)

/-- Lines that declare other jars make no agent fit. -/
theorem Fits.of_append (hd : agent.Declares)
    (ha : ∀ l ∈ added, startsWith (head agent.jar) l = false) (h : agent.Fits (lines ++ added)) :
    agent.Fits lines := by
  rintro ⟨l, hl, hs⟩
  rcases List.mem_append.mp (h ⟨l, List.mem_append_left _ hl, hs⟩) with hm | hm
  · exact hm
  · have := ha _ hm
    rw [hd] at this
    contradiction

theorem fits_append_iff (hd : agent.Declares)
    (ha : ∀ l ∈ added, startsWith (head agent.jar) l = false) :
    agent.Fits (lines ++ added) ↔ agent.Fits lines := by
  refine ⟨Fits.of_append hd ha, fun h => h.append fun l hl hs => ?_⟩
  rw [ha l hl] at hs
  contradiction

/-- What an agent adds declares no jar but its own, so it makes no other
agent fit, and none unfit. -/
theorem fits_additions_iff {other : Agent} (hagent : agent.Declares) (hother : other.Declares)
    (hapart : Apart (head agent.jar) (head other.jar)) (h : agent.additions lines = .ok added) :
    other.Fits (lines ++ added) ↔ other.Fits lines := by
  refine fits_append_iff hother fun l hl => ?_
  rw [agent.supplies_additions lines added h] at hl
  obtain ⟨w, hw, _, rfl⟩ := mem_lacking.mp hl
  obtain rfl := List.mem_singleton.mp hw
  exact hapart.startsWith_eq_false hagent

/-! ### The agents of a node -/

variable (lib conf : String)

theorem declares_of_mem_all : ∀ agent ∈ all lib conf, agent.Declares := by
  intro agent hagent
  simp only [all, List.mem_cons, List.not_mem_nil, or_false] at hagent
  rcases hagent with rfl | rfl
  · rw [Declares, metrics, String.append_assoc, String.append_assoc]
    exact startsWith_append _ _
  · rw [Declares, management, String.append_assoc, String.append_assoc]
    exact startsWith_append _ _

/-- The two jars are told apart by their names. -/
theorem apart_metrics_management :
    Apart (head (metrics lib conf).jar) (head (management lib conf).jar) := by
  have hnames : Apart "/jmx_prometheus_javaagent.jar" "/jolokia-jvm-agent.jar" := by decide
  exact (hnames.prepend lib).prepend "-javaagent:"

theorem isLine_of_mem_all (hl : IsLine lib) (hc : IsLine conf) :
    ∀ agent ∈ all lib conf, IsLine agent.line := by
  have hhead : ∀ name, IsLine name → IsLine (head (lib ++ name)) := fun name hname =>
    IsLine.append (by decide) (hl.append hname)
  intro agent hagent
  simp only [all, List.mem_cons, List.not_mem_nil, or_false] at hagent
  rcases hagent with rfl | rfl
  · exact (((hhead _ (by decide)).append (by decide)).append hc).append (by decide)
  · exact (((hhead _ (by decide)).append (by decide +kernel)).append hc).append (by decide)

end Agent

/-! ### Flags -/

namespace Memory

theorem isLine_ofInt (n : Int) : IsLine (Numeral.ofInt n) := by
  have hnat : ∀ m : Nat, IsLine m.repr := by
    intro m c hc
    rw [Nat.toList_repr] at hc
    -- a number has digits only, and no digit ends a line
    have hdigit : c.isDigit = true := Nat.isDigit_of_mem_toDigits (by decide) (by decide) hc
    have h₁ : c ≠ '\n' := by rintro rfl; exact absurd hdigit (by decide)
    have h₂ : c ≠ '\r' := by rintro rfl; exact absurd hdigit (by decide)
    simp [isNarrowEnd, h₁, h₂]
  rw [Numeral.ofInt, Int.toString_eq_repr, Int.repr_eq_if]
  split
  · exact hnat _
  · exact IsLine.append (by decide) (hnat _)

theorem isLine_of_mem_allFlags (memory processors : Int) :
    ∀ w ∈ allFlags memory processors, IsLine w.2 := by
  intro w hw
  simp only [allFlags, List.mem_cons, List.not_mem_nil, or_false] at hw
  rcases hw with rfl | rfl | rfl
  · exact IsLine.append (by decide) (isLine_ofInt _)
  · exact IsLine.append (by decide) (isLine_ofInt _)
  · exact (IsLine.append (by decide) (isLine_ofInt _)).append (by decide)

theorem distinct_allFlags (memory processors : Int) : Distinct (allFlags memory processors) := by
  constructor
  · intro w hw
    simp only [allFlags, List.mem_cons, List.not_mem_nil, or_false] at hw
    rcases hw with rfl | rfl | rfl
    · exact startsWith_append _ _
    · exact startsWith_append _ _
    · rw [String.append_assoc]
      exact startsWith_append _ _
  · have h : (["-Xmx", "-Xms", "-Xmn"] : List String).Pairwise Apart := by decide
    exact List.pairwise_map.mp h

end Memory

/-! ### The options of a node -/

namespace Setup

/-- The memory that a node may use, where it matters. -/
def memory (s : Setup) : Int := (s.environment.mandatoryInt Environment.memoryBytes).toOption.getD 0

/-- The processors that a node may use, in thousandths, where they matter. -/
def processors (s : Setup) : Int :=
  (s.environment.mandatoryInt Environment.cpuMillicores).toOption.getD 0

/-- Whether the size of a node is known. -/
def Sized (s : Setup) : Prop :=
  (∃ m, s.environment.mandatoryInt Environment.memoryBytes = .ok m) ∧
    ∃ n, s.environment.mandatoryInt Environment.cpuMillicores = .ok n

/-- What a preparation adds to the options, in its order. -/
def extensions (s : Setup) (here : Location) : List Extension :=
  ((s.agents here).map Agent.additions) ++ [s.flagAdditions]

/-- The lines that the options should have. -/
def options (s : Setup) (here : Location) : List (String × String) :=
  (s.agents here).map Agent.wants ++ Memory.allFlags s.memory s.processors

/-- One preparation adds what another one wants: they are given the same
directories, and the same size if the first is given any. -/
structure Agrees (r s : Setup) (here : Location) : Prop where
  agents : r.agents here = s.agents here
  memory : ∀ m, r.environment.mandatoryInt Environment.memoryBytes = .ok m → m = s.memory
  processors : ∀ n, r.environment.mandatoryInt Environment.cpuMillicores = .ok n → n = s.processors

theorem Agrees.refl (s : Setup) (here : Location) : Agrees s s here := by
  refine ⟨rfl, ?_, ?_⟩
  · intro m hm
    rw [Setup.memory, hm]
    rfl
  · intro n hn
    rw [Setup.processors, hn]
    rfl

variable {r s : Setup} {here : Location} {lines added : List String}

theorem exists_flagAdditions_iff :
    (∃ added, s.flagAdditions lines = .ok added) ↔ s.Sized := by
  rw [flagAdditions, Sized]
  rcases s.environment.mandatoryInt Environment.memoryBytes with f | m
  · simp [bind, Except.bind]
  rcases s.environment.mandatoryInt Environment.cpuMillicores with f | n
  · simp [bind, Except.bind]
  · simp [bind, Except.bind, pure, Except.pure]

theorem supplies_flagAdditions (h : Agrees r s here) :
    Supplies r.flagAdditions (Memory.allFlags s.memory s.processors) := by
  intro lines added ha
  rw [flagAdditions] at ha
  rcases hm : r.environment.mandatoryInt Environment.memoryBytes with f | m
  · rw [hm] at ha
    contradiction
  rcases hn : r.environment.mandatoryInt Environment.cpuMillicores with f | n
  · rw [hm, hn] at ha
    contradiction
  · rw [hm, hn] at ha
    rw [← Except.ok.inj ha, ← h.memory m hm, ← h.processors n hn]
    rfl

theorem distinct_options (s : Setup) (here : Location) : Distinct (s.options here) := by
  have hflags := Memory.distinct_allFlags s.memory s.processors
  have hagents : (s.agents here).Pairwise fun a b =>
      Apart (Agent.head a.jar) (Agent.head b.jar) := by
    rw [agents, Agent.all, List.pairwise_pair]
    exact Agent.apart_metrics_management _ _
  constructor
  · intro w hw
    rcases List.mem_append.mp hw with hw | hw
    · obtain ⟨agent, hagent, rfl⟩ := List.mem_map.mp hw
      exact Agent.declares_of_mem_all _ _ agent hagent
    · exact hflags.own w hw
  · refine List.pairwise_append.mpr ⟨List.pairwise_map.mpr hagents, hflags.apart, ?_⟩
    -- an agent and a flag differ in their second letter
    have hheads : ∀ h ∈ ["-Xmx", "-Xms", "-Xmn"], Apart "-javaagent:" h := by decide
    intro v hv w hw
    obtain ⟨agent, _, rfl⟩ := List.mem_map.mp hv
    have hmem : w.1 ∈ ["-Xmx", "-Xms", "-Xmn"] := List.mem_map.mpr ⟨w, hw, rfl⟩
    exact (hheads w.1 hmem).append_left agent.jar

/-- Extensions with the lines that each supplies. -/
theorem exists_parts (h : Agrees r s here) :
    ∃ parts : List (Extension × List (String × String)), parts.map (·.1) = r.extensions here ∧
      parts.flatMap (·.2) = s.options here ∧ ∀ p ∈ parts, Supplies p.1 p.2 := by
  refine ⟨(s.agents here).map (fun agent => (agent.additions, [agent.wants])) ++
    [(r.flagAdditions, Memory.allFlags s.memory s.processors)], ?_, ?_, ?_⟩
  · rw [extensions, h.agents, List.map_append, List.map_map]
    rfl
  · rw [options, List.flatMap_append, List.flatMap_map, List.flatMap_singleton, List.map_eq_flatMap]
  · intro p hp
    rcases List.mem_append.mp hp with hp | hp
    · obtain ⟨agent, _, rfl⟩ := List.mem_map.mp hp
      exact Agent.supplies_additions agent
    · rw [List.mem_singleton.mp hp]
      exact supplies_flagAdditions h

/-- What the first steps of a preparation add is lacking of a first part of
what another one wants. -/
theorem extendAll_prefix_extensions (h : Agrees r s here) {done : List Extension}
    (hp : done <+: r.extensions here) (he : extendAll done lines = .ok added) :
    ∃ wanted, wanted <+: s.options here ∧ added = lacking wanted lines := by
  obtain ⟨parts, hparts, hwanted, hs⟩ := exists_parts h
  rw [← hparts] at hp
  rw [← hwanted]
  exact extendAll_prefix_eq hs (hwanted ▸ distinct_options s here) hp he

theorem extendAll_extensions (he : extendAll (s.extensions here) lines = .ok added) :
    added = lacking (s.options here) lines := by
  obtain ⟨parts, hparts, hwanted, hs⟩ := exists_parts (Agrees.refl s here)
  rw [← hparts] at he
  rw [← hwanted]
  exact extendAll_eq hs (hwanted ▸ distinct_options s here) he

/-! ### Which options a preparation goes through with -/

/-- Agents go through where each of them fits, and flags where the size is
known. -/
theorem exists_extendAll_iff :
    (∃ added, extendAll (s.extensions here) lines = .ok added) ↔
      (∀ agent ∈ s.agents here, agent.Fits lines) ∧ s.Sized := by
  have hdeclares : ∀ agent ∈ s.agents here, agent.Declares := Agent.declares_of_mem_all _ _
  have hapart := (List.pairwise_append.mp (distinct_options s here).apart).1
  rw [List.pairwise_map] at hapart
  rw [extensions]
  generalize s.agents here = agents at hdeclares hapart
  induction agents generalizing lines with
  | nil =>
    rw [List.map_nil, List.nil_append, ← @exists_flagAdditions_iff _ lines]
    constructor
    · rintro ⟨added, ha⟩
      obtain ⟨first, _, hf, _⟩ := extendAll_cons_eq_ok.mp ha
      exact ⟨by simp, first, hf⟩
    · rintro ⟨_, first, hf⟩
      exact ⟨first ++ [], extendAll_cons_eq_ok.mpr ⟨first, [], hf, rfl, rfl⟩⟩
  | cons agent agents ih =>
    rw [List.pairwise_cons] at hapart
    have hagent := hdeclares agent List.mem_cons_self
    have hothers : ∀ a ∈ agents, a.Declares := fun a ha => hdeclares a (List.mem_cons_of_mem _ ha)
    have hfit : ∀ first, agent.additions lines = .ok first →
        ∀ a ∈ agents, (a.Fits (lines ++ first) ↔ a.Fits lines) := fun first hf a ha =>
      Agent.fits_additions_iff hagent (hothers a ha) (hapart.1 a ha) hf
    rw [List.map_cons, List.cons_append, List.forall_mem_cons]
    constructor
    · rintro ⟨added, ha⟩
      obtain ⟨first, others, hf, ho, _⟩ := extendAll_cons_eq_ok.mp ha
      obtain ⟨hall, hsized⟩ := (ih hothers hapart.2).mp ⟨others, ho⟩
      refine ⟨⟨(Agent.exists_additions_iff hagent).mp ⟨first, hf⟩, ?_⟩, hsized⟩
      exact fun a ha => (hfit first hf a ha).mp (hall a ha)
    · rintro ⟨⟨hfirst, hall⟩, hsized⟩
      obtain ⟨first, hf⟩ := (Agent.exists_additions_iff hagent).mpr hfirst
      have hall' : ∀ a ∈ agents, a.Fits (lines ++ first) := fun a ha =>
        (hfit first hf a ha).mpr (hall a ha)
      obtain ⟨others, ho⟩ := (ih hothers hapart.2).mpr ⟨hall', hsized⟩
      exact ⟨first ++ others, extendAll_cons_eq_ok.mpr ⟨first, others, hf, ho, rfl⟩⟩

/-- What a preparation adds, as far as it gets, bears every agent. -/
theorem bears_of_extendAll (ha : r.agents here = s.agents here) {done : List Extension}
    (hp : done <+: r.extensions here) (he : extendAll done lines = .ok added) :
    ∀ l ∈ added, ∀ agent ∈ s.agents here, agent.Bears l := by
  obtain ⟨wanted, hw, rfl⟩ := extendAll_prefix_extensions (Agrees.refl r here) hp he
  intro l hl agent hagent hs
  obtain ⟨w, hmem, _, rfl⟩ := mem_lacking.mp hl
  have hwants : agent.wants ∈ r.options here :=
    List.mem_append_left _ (List.mem_map.mpr ⟨agent, ha ▸ hagent, rfl⟩)
  rw [(distinct_options r here).eq_of_startsWith hwants (hw.subset hmem) hs]
  rfl

/-- Lines that bear every agent do not stand in the way. -/
theorem exists_extendAll_append (hbears : ∀ l ∈ added, ∀ agent ∈ s.agents here, agent.Bears l)
    (h : ∃ more, extendAll (s.extensions here) lines = .ok more) :
    ∃ more, extendAll (s.extensions here) (lines ++ added) = .ok more := by
  obtain ⟨hfits, hsized⟩ := exists_extendAll_iff.mp h
  refine exists_extendAll_iff.mpr ⟨fun agent hagent => ?_, hsized⟩
  exact (hfits agent hagent).append fun l hl => hbears l hl agent hagent

/-- What is added can stand in a file, if the directories can. -/
theorem isLine_of_extendAll (hagents : ∀ agent ∈ r.agents here, IsLine agent.line)
    {done : List Extension} (hp : done <+: r.extensions here)
    (he : extendAll done lines = .ok added) : ∀ l ∈ added, IsLine l := by
  obtain ⟨wanted, hw, rfl⟩ := extendAll_prefix_extensions (Agrees.refl r here) hp he
  intro l hl
  obtain ⟨w, hmem, _, rfl⟩ := mem_lacking.mp hl
  rcases List.mem_append.mp (hw.subset hmem) with hm | hm
  · obtain ⟨agent, hagent, rfl⟩ := List.mem_map.mp hm
    exact hagents agent hagent
  · exact Memory.isLine_of_mem_allFlags _ _ w hm

end Setup

end NodeBootstrap

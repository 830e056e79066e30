/-
NodeBootstrap/Proofs/Config/Course.lean

The course of a preparation: which edits its script makes of the database's
configuration, what it adds to the options, and how it ends with the rack
descriptor.

As far as it gets, it leaves the database's configuration as it was or with
its sections replaced and the first of the properties set
(`editAll_prefix_edits`).
-/
import NodeBootstrap.Proofs.Config.Database
import NodeBootstrap.Proofs.Config.Passage

namespace NodeBootstrap

open NodeBootstrap.Tree NodeBootstrap.Lines NodeBootstrap.Action

/-! ### Edits -/

namespace Property

theorem isEdit_assign {key v : String} (hk : IsLine (head key)) (hv : IsLine v) :
    Setup.IsEdit (assign key v) := by
  constructor
  · intro lines h
    rw [assign] at h
    split at h
    · exact List.map_eq_nil_iff.mp h
    · exact absurd h (by simp)
  · intro lines hl l hm
    have hline : IsLine (line key v) := hk.append hv
    have hmap : ∀ l ∈ lines.map (fun l => if isSetBy key l then line key v else l), IsLine l := by
      intro l hm
      obtain ⟨m, hmem, rfl⟩ := List.mem_map.mp hm
      split
      · exact hline
      · exact hl m hmem
    rw [assign] at hm
    split at hm
    · exact hmap l hm
    · rcases List.mem_append.mp hm with hm | hm
      · exact hmap l hm
      · exact List.mem_singleton.mp hm ▸ hline

end Property

namespace SeedSection

theorem mem_of_mem_replaceFrom {block lines : List String} {inside : Bool} {l : String}
    (h : l ∈ replaceFrom block inside lines) : l ∈ block ∨ l ∈ lines := by
  induction lines generalizing inside with
  | nil => cases h
  | cons m lines ih =>
    rw [replaceFrom_cons, List.mem_append, replaceLine] at h
    rcases h with h | h
    · split at h
      · exact .inl h
      · split at h
        · cases h
        · exact .inr (List.mem_singleton.mp h ▸ List.mem_cons_self)
    · exact (ih h).imp_right (List.mem_cons_of_mem m)

theorem isEdit_replace {block : List String} (hne : block ≠ []) (hl : ∀ l ∈ block, IsLine l) :
    Setup.IsEdit (replace block) := by
  constructor
  · intro lines h
    cases lines with
    | nil => rfl
    | cons l lines =>
      -- the first line is outside, so it stays or a block stands for it
      rw [replace, replaceFrom_cons, replaceLine, Bool.false_and, if_neg Bool.false_ne_true] at h
      split at h
      · exact absurd (List.append_eq_nil_iff.mp h).1 hne
      · cases h
  · intro lines hlines l hm
    rcases mem_of_mem_replaceFrom hm with hm | hm
    · exact hl l hm
    · exact hlines l hm

end SeedSection

theorem RackDescriptor.lines_ne_nil (dataCenter rack : String) : lines dataCenter rack ≠ [] := by
  have hne : Lines.between [heading.toList, ("dc=" ++ dataCenter).toList,
      ("rack=" ++ rack).toList] ≠ [] := by
    simp [Lines.between, heading]
  rw [lines, ofRendered, ne_eq, List.map_eq_nil_iff]
  exact cut_ne_nil hne

/-- The names that become lines of a file by themselves hold no line ends. -/
structure Environment.OneLine (env : Environment) : Prop where
  cluster : ∀ v, env.mandatory Environment.clusterName = .ok v → IsLine v
  address : ∀ v, env.mandatory Environment.listenAddress = .ok v → IsLine v

namespace Setup

/-- The variables and directories that become lines hold no line ends. -/
structure OneLine (s : Setup) (here : Location) : Prop where
  environment : s.environment.OneLine
  lib : IsLine (s.lib.absolute here).text
  conf : IsLine (s.conf.absolute here).text

variable {s : Setup} {here : Location} {d : Location} {t u : Tree} {lines : List String}

theorem isLine_value {name : String}
    (h : ∀ v, s.environment.mandatory name = .ok v → IsLine v) : IsLine (s.value name) := by
  rcases e : s.environment.read name none with - | v
  · rw [value, e]
    exact (by decide : IsLine "")
  · rw [value, e]
    exact h v (by rw [Environment.mandatory, e])

theorem isLine_agents (h : s.OneLine here) : ∀ agent ∈ s.agents here, IsLine agent.line :=
  Agent.isLine_of_mem_all _ _ h.lib h.conf

/-! ### The script -/

def rackLines (s : Setup) : List String :=
  RackDescriptor.lines (s.value Environment.dataCenter) (s.value Environment.currentRack)

theorem seedBlock_ne_nil (s : Setup) : s.seedBlock ≠ [] := by
  obtain ⟨tail, htail, _⟩ := SeedSection.isBlock_block (s.value Environment.clusterNamespace)
    (s.value Environment.clusterName)
  rw [seedBlock, htail]
  exact List.cons_ne_nil _ _

theorem stages_seedActions : ∀ a ∈ s.seedActions, s.Stages a := by
  rw [seedActions]
  split
  · exact List.forall_mem_nil _
  · have hedit : IsEdit (SeedSection.replace s.seedBlock) :=
      SeedSection.isEdit_replace s.seedBlock_ne_nil (SeedSection.isLine_of_mem_block _ _)
    simp only [List.forall_mem_cons]
    exact ⟨.check _, .check _, .revise hedit, List.forall_mem_nil _⟩

theorem stages_propertyActions (h : s.OneLine here) : ∀ a ∈ s.propertyActions, s.Stages a := by
  have hcluster : IsLine (s.value Environment.clusterName) := isLine_value h.environment.cluster
  have haddress : IsLine (s.value Environment.listenAddress) := isLine_value h.environment.address
  have hassign : ∀ {key v}, IsLine (Property.head key) → IsLine v →
      s.Stages (.revise s.databaseFile (Property.assign key v)) := fun hk hv =>
    .revise (Property.isEdit_assign hk hv)
  simp only [propertyActions, List.forall_mem_cons]
  exact ⟨hassign (by decide) (by decide), .check _, hassign (by decide) hcluster, .check _,
    hassign (by decide) haddress, hassign (by decide) haddress, List.forall_mem_nil _⟩

theorem stages_agentActions (h : s.OneLine here) : ∀ a ∈ s.agentActions here, s.Stages a := by
  intro a ha
  obtain ⟨agent, hagent, rfl⟩ := List.mem_map.mp ha
  refine .extend fun ls added he l hl => ?_
  obtain ⟨w, hw, _, rfl⟩ := mem_lacking.mp (agent.supplies_additions ls added he ▸ hl)
  rw [List.mem_singleton.mp hw]
  exact isLine_agents h agent hagent

theorem stages_flagAdditions : s.Stages (.extend s.optionsFile s.flagAdditions) := by
  refine .extend fun ls added he l hl => ?_
  have hs := supplies_flagAdditions (Agrees.refl s [])
  obtain ⟨w, hw, _, rfl⟩ := mem_lacking.mp (hs ls added he ▸ hl)
  exact Memory.isLine_of_mem_allFlags _ _ w hw

theorem stages_rackActions : ∀ a ∈ s.rackActions, s.Stages a := by
  simp only [rackActions, List.forall_mem_cons]
  exact ⟨.check _, .check _, .supplant (RackDescriptor.lines_ne_nil _ _), List.forall_mem_nil _⟩

/-- All that a script does is work on the files of the staging directory. -/
theorem stages_script (h : s.OneLine here) : ∀ a ∈ s.script here, s.Stages a := by
  intro a ha
  simp only [script, List.mem_append, List.mem_singleton, or_assoc] at ha
  rcases ha with hseed | hproperty | hagent | rfl | hrack
  · exact stages_seedActions a hseed
  · exact stages_propertyActions h a hproperty
  · exact stages_agentActions h a hagent
  · exact stages_flagAdditions
  · exact stages_rackActions a hrack

/-- The variables that a script may check. -/
def neededNames : List String :=
  [Environment.clusterNamespace, Environment.clusterName, Environment.listenAddress,
    Environment.currentRack, Environment.dataCenter]

theorem check_of_mem_script {fault : Option Fault} (h : .check fault ∈ s.script here) :
    ∃ name ∈ neededNames, fault = faultOf? (s.environment.mandatory name) := by
  have hneed : ∀ {name}, name ∈ neededNames → .check fault = s.need name →
      ∃ name ∈ neededNames, fault = faultOf? (s.environment.mandatory name) :=
    fun hname e => ⟨_, hname, Action.check.inj e⟩
  simp only [script, propertyActions, rackActions, agentActions, List.mem_append, List.mem_cons,
    List.mem_map, List.not_mem_nil, or_false, reduceCtorEq, and_false, exists_false, false_or] at h
  rcases h with (h | h | h) | h | h
  · rw [seedActions] at h
    split at h
    · cases h
    · simp only [List.mem_cons, List.not_mem_nil, or_false, reduceCtorEq] at h
      rcases h with h | h
      · exact hneed (by decide) h
      · exact hneed (by decide) h
  · exact hneed (by decide) h
  · exact hneed (by decide) h
  · exact hneed (by decide) h
  · exact hneed (by decide) h

/-- The edits of a script: that of the sections, if any, and one for each
property. -/
theorem edits_script (s : Setup) (here : Location) :
    edits (s.script here) =
      (if s.keepsSeeds then [] else [SeedSection.replace s.seedBlock]) ++
        keys.map fun key => Property.assign key (s.propertyValue key) := by
  have hagents : edits (s.agentActions here) = [] := by
    simp [edits, agentActions, edit?]
  have hseeds : edits s.seedActions =
      if s.keepsSeeds then [] else [SeedSection.replace s.seedBlock] := by
    rw [seedActions, keepsSeeds]
    split <;> rfl
  have hrest : edits (s.agentActions here ++ ([.extend s.optionsFile s.flagAdditions] ++
      s.rackActions)) = [] := by
    rw [edits, List.filterMap_append]
    exact List.append_eq_nil_iff.mpr ⟨hagents, rfl⟩
  rw [script, List.append_assoc, List.append_assoc, List.append_assoc, edits,
    List.filterMap_append, List.filterMap_append]
  -- the properties' edits are found by evaluation, in their order
  show edits _ ++ (edits _ ++ edits _) = _
  rw [hseeds, hrest, List.append_nil]
  rfl

theorem additions_script (s : Setup) (here : Location) :
    additions (s.script here) = s.extensions here := by
  have hseeds : additions s.seedActions = [] := by
    rw [seedActions]
    split <;> rfl
  have hagents : additions (s.agentActions here) = (s.agents here).map Agent.additions := by
    rw [additions, agentActions, List.filterMap_map]
    show (s.agents here).filterMap (fun agent => some agent.additions) = _
    rw [List.filterMap_eq_map']
  rw [script, additions, List.filterMap_append, List.filterMap_append, List.filterMap_append,
    List.filterMap_append]
  show ((additions _ ++ [] ++ additions _) ++ [s.flagAdditions]) ++ [] = _
  rw [hseeds, hagents, List.append_nil]
  rfl

/-- All edits prepare the lines. -/
theorem editAll_edits (s : Setup) (here : Location) (lines : List String) :
    editAll (edits (s.script here)) lines = s.prepared lines := by
  rw [edits_script, editAll, List.foldl_append, List.foldl_map, prepared, reseed]
  cases s.keepsSeeds <;> rfl

/-- As far as a preparation gets, it does nothing to the lines, or it replaces
the sections and sets the first of the properties. -/
theorem editAll_prefix_edits {done : List (List String → List String)}
    (hp : done <+: edits (s.script here)) (lines : List String) :
    editAll done lines = lines ∨ ∃ first, first <+: keys ∧
      editAll done lines = Property.assignAll s.propertyValue first (s.reseed lines) := by
  have hassign : ∀ {first},
      first <+: keys.map (fun key => Property.assign key (s.propertyValue key)) →
      ∃ ks, ks <+: keys ∧ ∀ ls, editAll first ls = Property.assignAll s.propertyValue ks ls := by
    intro first hfirst
    obtain ⟨ks, hks, rfl⟩ := List.prefix_map_iff.mp hfirst
    refine ⟨ks, hks, fun ls => ?_⟩
    rw [editAll, List.foldl_map]
    rfl
  rw [edits_script] at hp
  -- what sections there are is replaced first, unless the seeds are kept
  cases hk : s.keepsSeeds with
  | true =>
    rw [hk, if_pos rfl, List.nil_append] at hp
    obtain ⟨ks, hks, hall⟩ := hassign hp
    refine .inr ⟨ks, hks, ?_⟩
    rw [hall, reseed, hk, if_pos rfl]
  | false =>
    rw [hk, if_neg Bool.false_ne_true, List.singleton_append, List.prefix_cons_iff] at hp
    rcases hp with rfl | ⟨first, rfl, hfirst⟩
    · exact .inl rfl
    · obtain ⟨ks, hks, hall⟩ := hassign hfirst
      refine .inr ⟨ks, hks, ?_⟩
      rw [reseed, hk, if_neg Bool.false_ne_true]
      exact hall _

/-! ### Preparations that go through -/

/-- A preparation that goes through has found its directory and read the
database's configuration there. -/
theorem holds_of_applyAll (h : applyAll (s.script here) t = (.ok (), u)) :
    ∃ d lines, t.Holds s.staging d ∧ t.linesAt? (databaseAt d) = some lines := by
  have hrevise : ∀ {edit rest}, applyAll (.revise s.databaseFile edit :: rest) t = (.ok (), u) →
      ∃ d lines, t.Holds s.staging d ∧ t.linesAt? (databaseAt d) = some lines := by
    intro edit rest hr
    obtain ⟨v, hv, _⟩ := applyAll_cons_eq_ok.mp hr
    rcases e : t.readLines s.databaseFile with f | lines
    · rw [Action.apply, e] at hv
      cases hv
    · obtain ⟨target, hto, hl⟩ := leadsTo_of_readLines e
      obtain ⟨d, hd, rfl⟩ := holds_of_leadsTo isTargetName_database hto
      exact ⟨d, lines, hd, hl⟩
  rw [script, List.append_assoc, List.append_assoc, List.append_assoc, seedActions] at h
  split at h
  · -- the seeds are kept: the first edit sets a property
    exact hrevise h
  · exact hrevise (applyAll_of_check_cons (applyAll_of_check_cons h))

/-- It has read the options and added what was lacking. -/
theorem options_of_applyAll (hone : s.OneLine here) (hd : t.Holds s.staging d)
    (h : applyAll (s.script here) t = (.ok (), u)) :
    ∃ bytes lines added, t.entryAt (optionsAt d) = some (.file bytes) ∧
      linesOf? bytes = some lines ∧ Extension.extendAll (s.extensions here) lines = .ok added ∧
        u.entryAt (optionsAt d) = some (.file (grown bytes added)) := by
  have hstages := stages_script hone
  have hadds : additions (s.script here) ≠ [] := by
    rw [additions_script, extensions]
    exact List.append_ne_nil_of_right_ne_nil _ (List.cons_ne_nil _ _)
  have hpasses := passes_of_applyAll hd hstages h
  obtain ⟨bytes, lines, hb, hl⟩ := hpasses.exists_options hadds
  obtain ⟨added, hadded, hgrown⟩ := hpasses.extended hb hl
  rw [additions_script] at hadded
  exact ⟨bytes, lines, added, hb, hl, hadded, hgrown⟩

theorem rack_of_rackActions (hd : t.Holds s.staging d)
    (h : applyAll s.rackActions t = (.ok (), u)) :
    (t.entryAt (besideRack d) ≠ some .directory ∧ t.entryAt (rackAt d) ≠ some .directory) ∧
      u.entryAt (rackAt d) = some (.file (joined s.rackLines).toUTF8) ∧
        u.entryAt (besideRack d) = none := by
  have hchecked := applyAll_of_check_cons (applyAll_of_check_cons h)
  obtain ⟨v, hv, hrest⟩ := applyAll_cons_eq_ok.mp hchecked
  obtain rfl : v = u := (Prod.mk.inj hrest).2
  have hne : besideRack d ≠ rackAt d := at_ne (by decide) d
  cases step_of_apply hd (.supplant (RackDescriptor.lines_ne_nil _ _)) hv with
  | supplanted hb ht =>
    exact ⟨⟨hb, ht⟩, entryAt_written_target hb ht _, entryAt_written_beside hb ht hne _⟩

/-- It ends with a new rack descriptor. -/
theorem rack_of_applyAll (hone : s.OneLine here) (hd : t.Holds s.staging d)
    (h : applyAll (s.script here) t = (.ok (), u)) :
    (t.entryAt (besideRack d) ≠ some .directory ∧ t.entryAt (rackAt d) ≠ some .directory) ∧
      u.entryAt (rackAt d) = some (.file (joined s.rackLines).toUTF8) ∧
        u.entryAt (besideRack d) = none := by
  have hstages := stages_script hone
  rw [script] at h hstages
  obtain ⟨v, hv, hrack⟩ := applyAll_append_eq_ok.mp h
  have hsame := same_of_applyAll hd (fun a ha => hstages a (List.mem_append_left _ ha)) hv
  obtain ⟨⟨hb, ht⟩, hwritten⟩ := rack_of_rackActions (hd.of_same hsame) hrack
  -- the actions before it neither make nor remove a directory
  exact ⟨⟨mt (hsame.directory_iff _).mpr hb, mt (hsame.directory_iff _).mpr ht⟩, hwritten⟩

/-! ### A node to prepare -/

/-- A directory with a section of seeds and an empty file of options. -/
def sampleTree : Tree where
  here := []
  entries :=
    [(["staging"], .directory),
     (["staging", "cassandra.yaml"], .file (joined ["# seeds", "seed_provider:", "- old"]).toUTF8),
     (["staging", "jvm.options"], .file (joined []).toUTF8)]

def sampleEnvironment : Environment where
  entries :=
    [(Environment.clusterNamespace, some "shop"), (Environment.clusterName, some "orders"),
     (Environment.currentRack, some "a"), (Environment.dataCenter, some "north"),
     (Environment.listenAddress, some "10.0.0.7"), (Environment.memoryBytes, some "1024"),
     (Environment.cpuMillicores, some "500")]

def sample : Setup where
  staging := ⟨1, ["staging"]⟩
  conf := ⟨1, ["etc"]⟩
  lib := ⟨1, ["lib"]⟩
  environment := sampleEnvironment

theorem oneLine_sampleEnvironment : sampleEnvironment.OneLine := by
  have hcluster : sampleEnvironment.mandatory Environment.clusterName = .ok "orders" := rfl
  have haddress : sampleEnvironment.mandatory Environment.listenAddress = .ok "10.0.0.7" := rfl
  constructor
  · intro v hv
    rw [hcluster] at hv
    exact Except.ok.inj hv ▸ (by decide : IsLine "orders")
  · intro v hv
    rw [haddress] at hv
    exact Except.ok.inj hv ▸ (by decide : IsLine "10.0.0.7")

theorem oneLine_sample : sample.OneLine [] :=
  ⟨oneLine_sampleEnvironment, by decide, by decide⟩

theorem holds_sample : sampleTree.Holds sample.staging ["staging"] :=
  ⟨by decide, by decide⟩

theorem linesAt?_sampleTree :
    sampleTree.linesAt? (databaseAt ["staging"]) = some ["# seeds", "seed_provider:", "- old"] :=
  linesOf?_joined (by decide)

/-- The sample can be prepared. -/
theorem exists_applyAll_sample : ∃ u, applyAll (sample.script []) sampleTree = (.ok (), u) := by
  have hsized : sample.Sized := ⟨⟨1024, rfl⟩, 500, rfl⟩
  have hx : ∃ added, Extension.extendAll (sample.extensions []) [] = .ok added := by
    refine exists_extendAll_iff.mpr ⟨?_, hsized⟩
    rintro agent _ ⟨l, hl, _⟩
    cases hl
  obtain ⟨added, hx⟩ := hx
  refine exists_applyAll holds_sample (stages_script oneLine_sample) ?_ linesAt?_sampleTree
    (.inr ?_) rfl
    (linesOf?_joined (by decide)) (additions_script sample [] ▸ hx) ?_ ?_
  · intro f hf
    obtain ⟨name, hname, hfault⟩ := check_of_mem_script hf
    have hall : ∀ name ∈ neededNames, faultOf? (sample.environment.mandatory name) = none := by
      decide
    rw [hall name hname] at hfault
    cases hfault
  · decide
  · decide
  · decide

end Setup

end NodeBootstrap

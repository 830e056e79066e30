/-
NodeBootstrap/Proofs/Config/Readiness.lean

What a preparation that goes through has seen to.  In the database's
configuration each property is set, and to its value only; a copy of the seed
provider's block stands at every marker, and there are as many markers as
before.  The options declare the agents and size the memory, and the rack
descriptor is that of the node.  All of it holds in one tree at the end
(`Setup.configure_ensures`).
-/
import NodeBootstrap.Proofs.Config.Course

namespace NodeBootstrap

open NodeBootstrap.Lines NodeBootstrap.Action

/-! ### Sections -/

namespace SeedSection

/-- Every marker is the start of a copy of a block. -/
def StandsAtMarkers (block lines : List String) : Prop :=
  ∀ before after, lines = before ++ marker :: after → block <+: marker :: after

variable {block lines more : List String} {l : String} {edit : String → String}

theorem StandsAtMarkers.cons (h : StandsAtMarkers block lines) (hl : l ≠ marker) :
    StandsAtMarkers block (l :: lines) := by
  intro before after e
  cases before with
  | nil => exact absurd (List.cons.inj e).1 hl
  | cons m before => exact h before after (List.cons.inj e).2

theorem StandsAtMarkers.append_left (h : StandsAtMarkers block lines) (hmore : marker ∉ more) :
    StandsAtMarkers block (more ++ lines) := by
  induction more with
  | nil => exact h
  | cons l more ih =>
    exact (ih fun hm => hmore (List.mem_cons_of_mem l hm)).cons
      fun e => hmore (e ▸ List.mem_cons_self)

theorem StandsAtMarkers.append_right (h : StandsAtMarkers block lines) (hmore : marker ∉ more) :
    StandsAtMarkers block (lines ++ more) := by
  intro before after e
  rcases List.append_eq_append_iff.mp e with ⟨rest, -, hrest⟩ | ⟨rest, hlines, hrest⟩
  · exact absurd (hrest ▸ List.mem_append_right _ List.mem_cons_self) hmore
  · -- the marker is one of the lines before, so its copy is too
    cases rest with
    | nil => exact absurd (hrest ▸ List.mem_cons_self : marker ∈ [] ++ more) hmore
    | cons m rest =>
      obtain ⟨rfl, rfl⟩ := List.cons.inj hrest
      exact (h before rest hlines).trans (List.prefix_append (marker :: rest) more)

theorem StandsAtMarkers.map (h : StandsAtMarkers block lines) (hedit : KeepsSections edit)
    (hb : ∀ l ∈ block, edit l = l) : StandsAtMarkers block (lines.map edit) := by
  intro before after e
  obtain ⟨first, rest, hlines, -, hrest⟩ := List.map_eq_append_iff.mp e
  obtain ⟨m, rest, rfl, hm, rfl⟩ := List.map_eq_cons_iff.mp hrest
  obtain rfl := (hedit.marker_iff m).mp hm
  have hcopy := (h first rest hlines).map edit
  rw [List.map_congr_left hb, List.map_id', List.map_cons, hm] at hcopy
  exact hcopy

theorem IsBlock.marker_not_mem_tail (h : IsBlock block) : marker ∉ block.tail := by
  obtain ⟨tail, rfl, hplain⟩ := h
  exact fun hm => (hplain marker hm).ne_marker rfl

theorem IsBlock.head_cons_tail (h : IsBlock block) : block = marker :: block.tail := by
  obtain ⟨tail, rfl, -⟩ := h
  rfl

/-- A block in front of lines where copies stand. -/
theorem StandsAtMarkers.block_append (h : StandsAtMarkers block lines) (hb : IsBlock block) :
    StandsAtMarkers block (block ++ lines) := by
  intro before after e
  cases before with
  | nil =>
    rw [List.nil_append] at e
    exact e ▸ List.prefix_append block lines
  | cons m before =>
    rw [hb.head_cons_tail, List.cons_append] at e
    exact h.append_left hb.marker_not_mem_tail before after (List.cons.inj e).2

/-- Every line but a marker that is left is one of the lines before. -/
theorem standsAtMarkers_replaceFrom (hb : IsBlock block) (inside : Bool) (lines : List String) :
    StandsAtMarkers block (replaceFrom block inside lines) := by
  induction lines generalizing inside with
  | nil => exact fun before after e => absurd e.symm (by simp [replaceFrom])
  | cons l lines ih =>
    rw [replaceFrom_cons, replaceLine]
    split
    · exact (ih _).block_append hb
    · rename_i hl
      split
      · exact ih _
      · exact (ih _).cons hl

/-! ### How many sections there are -/

theorem count_marker_block (hb : IsBlock block) : block.count marker = 1 := by
  rw [hb.head_cons_tail, List.count_cons_self, List.count_eq_zero.mpr hb.marker_not_mem_tail]

/-- A replacement leaves as many markers. -/
theorem count_marker_replaceFrom (hb : IsBlock block) (inside : Bool) (lines : List String) :
    (replaceFrom block inside lines).count marker = lines.count marker := by
  induction lines generalizing inside with
  | nil => rfl
  | cons l lines ih =>
    rw [replaceFrom_cons, replaceLine, List.count_append, ih, List.count_cons]
    split
    · rename_i hl
      rw [count_marker_block hb, hl]
      simp [Nat.add_comm]
    · rename_i hl
      split
      · simp [hl]
      · simp [hl]

theorem count_marker_map (hedit : KeepsSections edit) (lines : List String) :
    (lines.map edit).count marker = lines.count marker := by
  rw [List.count_eq_countP, List.count_eq_countP, List.countP_map]
  congr 1
  funext l
  rw [Function.comp, Bool.eq_iff_iff, beq_iff_eq, beq_iff_eq]
  exact hedit.marker_iff l

end SeedSection

/-! ### A node that is ready -/

namespace Setup

open NodeBootstrap.Property NodeBootstrap.SeedSection NodeBootstrap.Extension

variable {s : Setup} {here d : Location} {t u : Tree} {lines added : List String}

/-- The database's configuration of a node that is ready, with the lines that
it had before. -/
structure DatabaseReady (s : Setup) (old lines : List String) : Prop where
  snitch : IsSetTo "endpoint_snitch" "GossipingPropertyFileSnitch" lines
  cluster : ∃ v, s.environment.mandatory Environment.clusterName = .ok v ∧
    IsSetTo "cluster_name" v lines
  address : ∃ v, s.environment.mandatory Environment.listenAddress = .ok v ∧
    IsSetTo "listen_address" v lines ∧ IsSetTo "rpc_address" v lines
  seeds : s.environment.flag Environment.useDefaultSeedProvider = false →
    ∃ clusterNamespace cluster,
      s.environment.mandatory Environment.clusterNamespace = .ok clusterNamespace ∧
      s.environment.mandatory Environment.clusterName = .ok cluster ∧
      StandsAtMarkers (SeedSection.block clusterNamespace cluster) lines
  markers : lines.count marker = old.count marker

/-- The options of a node that is ready. -/
structure OptionsReady (s : Setup) (here : Location) (lines : List String) : Prop where
  metrics : (Agent.metrics (s.lib.absolute here).text (s.conf.absolute here).text).line ∈ lines
  management :
    (Agent.management (s.lib.absolute here).text (s.conf.absolute here).text).line ∈ lines
  memory : ∀ head ∈ ["-Xmx", "-Xms", "-Xmn"], ∃ l ∈ lines, startsWith head l = true

/-- The rack descriptor of a node that is ready. -/
def RackReady (s : Setup) (bytes : ByteArray) : Prop :=
  ∃ dataCenter rack, s.environment.mandatory Environment.dataCenter = .ok dataCenter ∧
    s.environment.mandatory Environment.currentRack = .ok rack ∧
    bytes = (joined (RackDescriptor.lines dataCenter rack)).toUTF8

/-! ### The variables -/

/-- A preparation that goes through has found the variables that it checks. -/
theorem mandatory_of_applyAll {name : String} (h : applyAll (s.script here) t = (.ok (), u))
    (hneed : s.need name ∈ s.script here) : s.environment.mandatory name = .ok (s.value name) := by
  rcases e : s.environment.mandatory name with f | v
  · rw [need, e] at hneed
    exact absurd hneed (check_not_mem_of_applyAll h f)
  · rw [value_of_mandatory e]

theorem need_mem_script {name : String} (h : s.need name ∈ s.propertyActions ++ s.rackActions) :
    s.need name ∈ s.script here := by
  rw [script]
  rcases List.mem_append.mp h with h | h
  · simp only [List.mem_append, h, true_or, or_true]
  · exact List.mem_append_right _ h

theorem need_mem_seedActions (hflag : s.keepsSeeds = false) :
    s.need Environment.clusterNamespace ∈ s.script here := by
  have hseeds : s.need Environment.clusterNamespace ∈ s.seedActions := by
    rw [keepsSeeds] at hflag
    rw [seedActions, hflag, if_neg Bool.false_ne_true]
    exact List.mem_cons_self
  simp only [script, List.mem_append, hseeds, true_or]

/-! ### The database's configuration -/

theorem marker_not_mem_lacking (value : String → String) (lines : List String) :
    marker ∉ lacking (wanted value keys) lines :=
  fun hm => (isPlain_of_mem_lacking (List.Sublist.refl keys) marker hm).ne_marker rfl

theorem standsAtMarkers_prepared (hflag : s.keepsSeeds = false) (lines : List String) :
    StandsAtMarkers s.seedBlock (s.prepared lines) := by
  have hstands := standsAtMarkers_replaceFrom (isBlock_block _ _ : IsBlock s.seedBlock) false lines
  rw [prepared, assignAll_eq keys_toldApart, reseed, hflag, if_neg Bool.false_ne_true]
  exact (hstands.map (keepsSections_settle (List.Sublist.refl keys) _)
    ((setsNone_seedBlock s).settle (List.prefix_refl keys))).append_right
      (marker_not_mem_lacking _ _)

theorem count_marker_prepared (s : Setup) (lines : List String) :
    (s.prepared lines).count marker = lines.count marker := by
  rw [prepared, assignAll_eq keys_toldApart, List.count_append,
    count_marker_map (keepsSections_settle (List.Sublist.refl keys) _),
    List.count_eq_zero.mpr (marker_not_mem_lacking _ _), Nat.add_zero, reseed]
  split
  · rfl
  · exact count_marker_replaceFrom (isBlock_block _ _) false lines

theorem databaseReady_prepared (h : applyAll (s.script here) t = (.ok (), u))
    (lines : List String) : s.DatabaseReady lines (s.prepared lines) := by
  have hset : ∀ key ∈ keys, IsSetTo key (s.propertyValue key) (s.prepared lines) :=
    fun key hkey => isSetTo_assignAll keys_toldApart hkey s.propertyValue _
  have hcluster := mandatory_of_applyAll h
    (need_mem_script (by simp [propertyActions]) : s.need Environment.clusterName ∈ _)
  have haddress := mandatory_of_applyAll h
    (need_mem_script (by simp [propertyActions]) : s.need Environment.listenAddress ∈ _)
  refine ⟨hset _ (by decide), ⟨_, hcluster, hset "cluster_name" (by decide)⟩,
    ⟨_, haddress, hset "listen_address" (by decide), hset "rpc_address" (by decide)⟩,
    fun hflag => ?_, s.count_marker_prepared lines⟩
  have hnamespace := mandatory_of_applyAll h (need_mem_seedActions hflag)
  exact ⟨_, _, hnamespace, hcluster, standsAtMarkers_prepared hflag lines⟩

/-! ### The options -/

/-- Where a preparation goes through, every agent is declared as it should
be: it was so before, or its line is added. -/
theorem line_mem_of_extendAll (h : extendAll (s.extensions here) lines = .ok added) :
    ∀ agent ∈ s.agents here, agent.line ∈ lines ++ added := by
  intro agent hagent
  obtain ⟨hfits, -⟩ := exists_extendAll_iff.mp ⟨added, h⟩
  have hwants : agent.wants ∈ s.options here :=
    List.mem_append_left _ (List.mem_map.mpr ⟨agent, hagent, rfl⟩)
  cases hany : lines.any (startsWith agent.wants.1) with
  | true => exact List.mem_append_left _ (hfits agent hagent (List.any_eq_true.mp hany))
  | false =>
    rw [extendAll_extensions h]
    exact List.mem_append_right _ (mem_lacking.mpr ⟨agent.wants, hwants, hany, rfl⟩)

theorem optionsReady_of_extendAll (h : extendAll (s.extensions here) lines = .ok added) :
    s.OptionsReady here (lines ++ added) := by
  have hagents := line_mem_of_extendAll h
  have hnil := Distinct.lacking_append_lacking (s.distinct_options here).own lines
  rw [← extendAll_extensions h, lacking_eq_nil_iff] at hnil
  refine ⟨hagents _ (List.mem_cons_self), hagents _ (by simp [agents, Agent.all]), ?_⟩
  intro head hhead
  obtain ⟨w, hw, rfl⟩ : ∃ w ∈ Memory.allFlags s.memory s.processors, w.1 = head :=
    List.mem_map.mp hhead
  exact List.any_eq_true.mp (hnil w (List.mem_append_right _ hw))

/-! ### The whole -/

/-- A preparation that goes through leaves a node that is ready, all at
once. -/
theorem configure_ensures {x y : Session} (hone : s.OneLine x.tree.here)
    (h : s.configure.perform x = (.ok (), y)) :
    ∃ old lines options bytes,
      x.tree.readLines s.databaseFile = .ok old ∧
      y.tree.readLines s.databaseFile = .ok lines ∧ s.DatabaseReady old lines ∧
      y.tree.readLines s.optionsFile = .ok options ∧ s.OptionsReady x.tree.here options ∧
      y.tree.content? s.rackFile = some bytes ∧ s.RackReady bytes := by
  have hrun := applyAll_of_perform h
  have hstages := stages_script hone
  obtain ⟨d, old, hd, hold⟩ := holds_of_applyAll hrun
  have hd' := hd.of_same (same_of_applyAll hd hstages hrun)
  have hlines := (edited_of_applyAll hd hstages hold hrun).lines_eq
  rw [editAll_edits] at hlines
  obtain ⟨bytes, options, added, -, hoptions, hadded, hgrown⟩ := options_of_applyAll hone hd hrun
  have hline := isLine_of_extendAll (isLine_agents hone) (List.prefix_refl _) hadded
  obtain ⟨-, hrack, -⟩ := rack_of_applyAll hone hd hrun
  refine ⟨old, s.prepared old, options ++ added, _,
    (site_database hd).readLines_eq_ok_iff.mpr hold,
    (site_database hd').readLines_eq_ok_iff.mpr hlines, databaseReady_prepared hrun old,
    (leadsTo_options hd').readLines_eq_ok_iff.mpr ?_, optionsReady_of_extendAll hadded,
    (site_rack hd').content?_eq hrack, _, _, ?_, ?_, rfl⟩
  · rw [Tree.linesAt?_of_entryAt hgrown]
    exact Tree.linesOf?_grown hoptions hline
  · exact mandatory_of_applyAll hrun (need_mem_script (by simp [rackActions]))
  · exact mandatory_of_applyAll hrun (need_mem_script (by simp [rackActions]))

theorem configure_ensures_sample :
    ∃ y lines, sample.configure.perform (Session.start sampleTree) = (.ok (), y) ∧
      y.tree.readLines sample.databaseFile = .ok lines ∧ IsSetTo "cluster_name" "orders" lines ∧
      StandsAtMarkers (SeedSection.block "shop" "orders") lines ∧ lines.count marker = 1 := by
  obtain ⟨u, hu⟩ := exists_applyAll_sample
  obtain ⟨y, hy, -⟩ := @perform_of_applyAll sample (Session.start sampleTree) u hu
  obtain ⟨old, lines, _, _, hold, hlines, hready, -⟩ := configure_ensures oneLine_sample hy
  have hread : sampleTree.readLines sample.databaseFile =
      .ok ["# seeds", "seed_provider:", "- old"] :=
    (site_database holds_sample).readLines_eq_ok_iff.mpr linesAt?_sampleTree
  obtain rfl := Except.ok.inj (hread.symm.trans hold)
  obtain ⟨v, hv, hcluster⟩ := hready.cluster
  obtain rfl : "orders" = v := Except.ok.inj hv
  obtain ⟨n, c, hn, hc, hstands⟩ := hready.seeds (by decide)
  obtain rfl : "shop" = n := Except.ok.inj hn
  obtain rfl : "orders" = c := Except.ok.inj hc
  exact ⟨y, lines, hy, hlines, hcluster, hstands, hready.markers.trans (by decide)⟩

end Setup

end NodeBootstrap

/-
NodeBootstrap/Proofs/Config/Repetition.lean

Preparations one after the other.  The same preparation a second time changes
no file, byte by byte (`configure_configure`): where the first one wrote
nothing, neither does the second, and where it did, the second writes the same.

A preparation that would go through on a tree goes through after any number of
others, whether they went through or failed, and what it leaves does not depend
on them (`configure_after`).
-/
import NodeBootstrap.Proofs.Config.Frame
import NodeBootstrap.Proofs.Config.Recovery

namespace NodeBootstrap.Setup

open NodeBootstrap.Tree NodeBootstrap.Lines NodeBootstrap.Action

variable {s : Setup} {here d : Location} {t u v : Tree}

/-! ### The same preparation again -/

/-- The database's configuration is not changed by a second preparation. -/
theorem database_of_applyAll_twice (hone : s.OneLine here) (hd : t.Holds s.staging d)
    (hu : applyAll (s.script here) t = (.ok (), u))
    (hv : applyAll (s.script here) u = (.ok (), v)) :
    v.entryAt (databaseAt d) = u.entryAt (databaseAt d) ∧
      v.entryAt (besideDatabase d) = u.entryAt (besideDatabase d) := by
  have hstages := stages_script hone
  have hd' := hd.of_same (same_of_applyAll hd hstages hu)
  obtain ⟨d₀, lines, hd₀, hl⟩ := holds_of_applyAll hu
  obtain rfl : d = d₀ := Option.some.inj (hd.directory.symm.trans hd₀.directory)
  have h₁ := edited_of_applyAll hd hstages hl hu
  have h₂ := edited_of_applyAll hd' hstages h₁.lines_eq hv
  by_cases hs : Steady (edits (s.script here)) (editAll (edits (s.script here)) lines)
  · exact h₂.steady hs
  · -- the second preparation writes, so the first one did, and the same lines
    have hs₁ : ¬ Steady (edits (s.script here)) lines := by
      intro hs₁
      rw [hs₁.editAll_eq] at hs
      exact hs hs₁
    obtain ⟨_, hdu, hbu⟩ := h₁.written hs₁
    obtain ⟨_, hdv, hbv⟩ := h₂.written hs
    have hsame : editAll (edits (s.script here)) (editAll (edits (s.script here)) lines) =
        editAll (edits (s.script here)) lines := by
      rw [editAll_edits, editAll_edits, prepared_prepared]
    exact ⟨by rw [hdv, hdu, hsame], by rw [hbv, hbu]⟩

/-- A preparation that went through goes through again and changes nothing. -/
theorem exists_applyAll_twice (hone : s.OneLine here)
    (hu : applyAll (s.script here) t = (.ok (), u)) :
    ∃ v, applyAll (s.script here) u = (.ok (), v) ∧ v.here = u.here ∧
      ∀ l, v.entryAt l = u.entryAt l := by
  obtain ⟨d, lines, hd, hl⟩ := holds_of_applyAll hu
  have hkept : Kept d t u := by
    have hk := kept_script hone hd
    rw [hu] at hk
    exact hk
  have hd' := hd.of_same hkept.same
  -- the first run is itself an earlier preparation that the second one follows
  have hresume : Resumable s here d True t u := by
    have hr := (Resumable.refl s here d True t).applyAll (Precedes.refl hone) hd
    rw [hu] at hr
    exact hr
  obtain ⟨v, hv, _, _, hoptions⟩ := hresume.recovers hone hd hu
  have hkept' : Kept d u v := by
    have hk := kept_script hone hd'
    rw [hv] at hk
    exact hk
  obtain ⟨hdatabase, hbeside⟩ := database_of_applyAll_twice hone hd hu hv
  obtain ⟨_, hrack, hbesideRack⟩ := rack_of_applyAll hone hd hu
  obtain ⟨_, hrack', hbesideRack'⟩ := rack_of_applyAll hone hd' hv
  refine ⟨v, hv, hkept'.same.here, fun l => ?_⟩
  -- only five places can differ, and none does
  by_cases hl : l ∈ places d
  · simp only [places, List.mem_cons, List.not_mem_nil, or_false] at hl
    rcases hl with rfl | rfl | rfl | rfl | rfl
    · exact hdatabase
    · exact hbeside
    · exact hoptions trivial
    · rw [hrack', hrack]
    · rw [hbesideRack', hbesideRack]
  · exact hkept'.entryAt l hl

/-- The same preparation again, byte by byte. -/
theorem configure_configure {x y z : Session} (hone : s.OneLine x.tree.here)
    (h : s.configure.perform x = (.ok (), y)) (hz : z.tree = y.tree) :
    ∃ w, s.configure.perform z = (.ok (), w) ∧ w.tree.here = y.tree.here ∧
      ∀ l, w.tree.entryAt l = y.tree.entryAt l := by
  have hu := applyAll_of_perform h
  have hhere : z.tree.here = x.tree.here := by
    rw [hz]
    have := applyAll_here (s.script x.tree.here) x.tree
    rw [hu] at this
    exact this
  obtain ⟨v, hv, hsame, hentries⟩ := exists_applyAll_twice hone hu
  rw [← hhere, ← hz] at hv
  obtain ⟨w, hw, rfl⟩ := perform_of_applyAll hv
  exact ⟨w, hw, hsame, hentries⟩

theorem configure_configure_sample :
    ∃ y w, sample.configure.perform (Session.start sampleTree) = (.ok (), y) ∧
      sample.configure.perform (Session.start y.tree) = (.ok (), w) ∧
        ∀ l, w.tree.entryAt l = y.tree.entryAt l := by
  obtain ⟨u, hu⟩ := exists_applyAll_sample
  obtain ⟨y, hy, _⟩ := @perform_of_applyAll sample (Session.start sampleTree) u hu
  have hz : (Session.start y.tree).tree = y.tree := rfl
  obtain ⟨w, hw, _, hentries⟩ := configure_configure oneLine_sample hy hz
  exact ⟨y, w, hy, hw, hentries⟩

/-! ### Preparations for other clusters -/

/-- Preparations in the same directories, one after the other, each however it
ends. -/
inductive History (staging conf lib : Path) : List Environment → Tree → Tree → Prop
  | nil (t : Tree) : History staging conf lib [] t t
  | cons {env : Environment} {envs : List Environment} {x : Session} {t : Tree} :
      History staging conf lib envs ((Setup.mk staging conf lib env).configure.perform x).2.tree t →
        History staging conf lib (env :: envs) x.tree t

/-- Environments that give a variable one integer, as far as they give it
any. -/
def AgreeOn (name : String) (envs : List Environment) : Prop :=
  ∀ f ∈ envs, ∀ g ∈ envs, ∀ m n, f.mandatoryInt name = .ok m → g.mandatoryInt name = .ok n → m = n

variable {staging conf lib : Path}

/-- A history leaves a tree as good to prepare. -/
theorem Resumable.history {agree : Prop} {envs : List Environment}
    (hp : ∀ f ∈ envs, Precedes ⟨staging, conf, lib, f⟩ s here agree) (hd : t.Holds s.staging d)
    (hhere : t.here = here) (h : Resumable s here d agree t u)
    (hist : History staging conf lib envs u v) : Resumable s here d agree t v := by
  induction hist with
  | nil => exact h
  | @cons env envs x v _ ih =>
    -- one more preparation, from a session whose log does not matter
    have hx : x.tree.here = here := h.same.here.trans hhere
    have hnext := h.applyAll (hp env List.mem_cons_self) hd
    rw [← hx, ← tree_perform_configure, hx] at hnext
    exact ih (fun f hf => hp f (List.mem_cons_of_mem _ hf)) hnext

/-- What an environment wants of the options, others that agree with it add. -/
theorem agrees_of_agreeOn {past : List Environment} {env f : Environment}
    (hsized : (Setup.mk staging conf lib env).Sized) (hf : f ∈ env :: past)
    (hm : AgreeOn Environment.memoryBytes (env :: past))
    (hc : AgreeOn Environment.cpuMillicores (env :: past)) :
    Agrees ⟨staging, conf, lib, f⟩ ⟨staging, conf, lib, env⟩ here := by
  obtain ⟨⟨m, hmemory⟩, n, hprocessors⟩ := hsized
  have hrefl := Agrees.refl ⟨staging, conf, lib, env⟩ here
  refine ⟨rfl, fun m' hm' => ?_, fun n' hn' => ?_⟩
  · rw [hm f hf env List.mem_cons_self m' m hm' hmemory]
    exact hrefl.memory m hmemory
  · rw [hc f hf env List.mem_cons_self n' n hn' hprocessors]
    exact hrefl.processors n hprocessors

/-- A preparation that goes through on a tree goes through after others, and
leaves the same lines of the database's configuration, the same rack
descriptor, and the same options if the nodes are of one size. -/
theorem configure_after {past : List Environment} {env : Environment} {x y x' : Session}
    (hlib : IsLine (lib.absolute x.tree.here).text)
    (hconf : IsLine (conf.absolute x.tree.here).text) (hone : ∀ f ∈ env :: past, f.OneLine)
    (hflag : ∀ f ∈ past, f.flag Environment.useDefaultSeedProvider =
      env.flag Environment.useDefaultSeedProvider)
    (hpast : History staging conf lib past x.tree x'.tree)
    (h : (Setup.mk staging conf lib env).configure.perform x = (.ok (), y)) :
    ∃ y', (Setup.mk staging conf lib env).configure.perform x' = (.ok (), y') ∧
      (∃ lines, y.tree.readLines (Setup.mk staging conf lib env).databaseFile = .ok lines ∧
        y'.tree.readLines (Setup.mk staging conf lib env).databaseFile = .ok lines) ∧
      (∃ bytes, y.tree.content? (Setup.mk staging conf lib env).rackFile = some bytes ∧
        y'.tree.content? (Setup.mk staging conf lib env).rackFile = some bytes) ∧
      (AgreeOn Environment.memoryBytes (env :: past) →
        AgreeOn Environment.cpuMillicores (env :: past) →
        ∃ bytes, y.tree.content? (Setup.mk staging conf lib env).optionsFile = some bytes ∧
          y'.tree.content? (Setup.mk staging conf lib env).optionsFile = some bytes) := by
  have hu := applyAll_of_perform h
  generalize hs : Setup.mk staging conf lib env = s at hu ⊢
  have hone' : s.OneLine x.tree.here := hs ▸ ⟨hone env List.mem_cons_self, hlib, hconf⟩
  have hstages := stages_script hone'
  obtain ⟨d, lines, hd, hl⟩ := holds_of_applyAll hu
  obtain ⟨bytes, olines, added, _, _, hadded, hgrown⟩ := options_of_applyAll hone' hd hu
  obtain ⟨_, hrack, _⟩ := rack_of_applyAll hone' hd hu
  have hedited := edited_of_applyAll hd hstages hl hu
  have hsized : s.Sized := (exists_extendAll_iff.mp ⟨added, hadded⟩).2
  -- what the others left is as good to prepare
  have hp : ∀ f ∈ past, Precedes ⟨staging, conf, lib, f⟩ s x.tree.here
      (AgreeOn Environment.memoryBytes (env :: past) ∧
        AgreeOn Environment.cpuMillicores (env :: past)) := by
    intro f hf
    have hmem : f ∈ env :: past := List.mem_cons_of_mem _ hf
    subst hs
    exact ⟨rfl, hflag f hf, rfl, fun ha => agrees_of_agreeOn hsized hmem ha.1 ha.2,
      hone f hmem, hlib, hconf⟩
  have hresume := (Resumable.refl s x.tree.here d _ x.tree).history hp (hs ▸ hd) rfl hpast
  obtain ⟨u', hu', hlines', hrack', hoptions'⟩ := hresume.recovers hone' hd hu
  have hhere : x'.tree.here = x.tree.here := hresume.same.here
  rw [← hhere] at hu'
  obtain ⟨y', hy', rfl⟩ := perform_of_applyAll hu'
  -- both trees have the directory where it was
  have hd₁ := hd.of_same (same_of_applyAll hd hstages hu)
  rw [hhere] at hu'
  have hd' := hd.of_same hresume.same
  have hd₂ := hd'.of_same (same_of_applyAll hd' hstages hu')
  have hdatabase := hedited.lines_eq
  refine ⟨y', hy', ⟨_, (site_database hd₁).readLines_eq_ok_iff.mpr hdatabase, ?_⟩,
    ⟨_, (site_rack hd₁).content?_eq hrack, (site_rack hd₂).content?_eq (hrack'.trans hrack)⟩,
    fun hm hc => ⟨_, (leadsTo_options hd₁).content?_eq hgrown, ?_⟩⟩
  · exact (site_database hd₂).readLines_eq_ok_iff.mpr (hlines'.trans hdatabase)
  · exact (leadsTo_options hd₂).content?_eq ((hoptions' ⟨hm, hc⟩).trans hgrown)

/-- An environment that lacks the address of its node, so that a preparation
stops halfway. -/
def partialEnvironment : Environment where
  entries :=
    [(Environment.clusterNamespace, some "shop"), (Environment.clusterName, some "billing")]

theorem oneLine_partialEnvironment : partialEnvironment.OneLine := by
  have hcluster : partialEnvironment.mandatory Environment.clusterName = .ok "billing" := rfl
  have haddress : partialEnvironment.mandatory Environment.listenAddress =
      .error (.undefinedVariable Environment.listenAddress) := rfl
  constructor
  · intro v hv
    rw [hcluster] at hv
    exact Except.ok.inj hv ▸ (by decide : IsLine "billing")
  · intro v hv
    rw [haddress] at hv
    cases hv

/-- The partial environment gives no sizes to disagree with. -/
theorem agreeOn_sample {name : String}
    (hno : ∀ m, partialEnvironment.mandatoryInt name ≠ .ok m) :
    AgreeOn name [sampleEnvironment, partialEnvironment] := by
  intro f hf g hg m n hm hn
  simp only [List.mem_cons, List.not_mem_nil, or_false] at hf hg
  rcases hf with rfl | rfl
  · rcases hg with rfl | rfl
    · exact Except.ok.inj (hm.symm.trans hn)
    · exact absurd hn (hno n)
  · exact absurd hm (hno m)

theorem configure_after_sample :
    ∃ x y y', History sample.staging sample.conf sample.lib [partialEnvironment] sampleTree x.tree ∧
      sample.configure.perform (Session.start sampleTree) = (.ok (), y) ∧
      sample.configure.perform x = (.ok (), y') ∧
      ∃ bytes, y.tree.content? sample.optionsFile = some bytes ∧
        y'.tree.content? sample.optionsFile = some bytes := by
  have hone : ∀ f ∈ [sampleEnvironment, partialEnvironment], f.OneLine := by
    simp only [List.forall_mem_cons]
    exact ⟨oneLine_sampleEnvironment, oneLine_partialEnvironment, by simp⟩
  have hflag : ∀ f ∈ [partialEnvironment], f.flag Environment.useDefaultSeedProvider =
      sampleEnvironment.flag Environment.useDefaultSeedProvider := by decide
  have hmemory : AgreeOn Environment.memoryBytes [sampleEnvironment, partialEnvironment] := by
    apply agreeOn_sample
    intro m hm
    cases hm
  have hprocessors : AgreeOn Environment.cpuMillicores
      [sampleEnvironment, partialEnvironment] := by
    apply agreeOn_sample
    intro m hm
    cases hm
  obtain ⟨x, hpast⟩ : ∃ x : Session,
      History sample.staging sample.conf sample.lib [partialEnvironment] sampleTree x.tree :=
    ⟨_, @History.cons _ _ _ partialEnvironment [] (Session.start sampleTree) _ (.nil _)⟩
  obtain ⟨u, hu⟩ := exists_applyAll_sample
  obtain ⟨y, hy, _⟩ := @perform_of_applyAll sample (Session.start sampleTree) u hu
  have hsample : Setup.mk sample.staging sample.conf sample.lib sampleEnvironment = sample := rfl
  have hafter := @configure_after sample.staging sample.conf sample.lib [partialEnvironment]
    sampleEnvironment (Session.start sampleTree) y x oneLine_sample.lib oneLine_sample.conf hone
    hflag hpast
  rw [hsample] at hafter
  obtain ⟨y', hy', _, _, hoptions⟩ := hafter hy
  exact ⟨x, y, y', hpast, hy, hy', hoptions hmemory hprocessors⟩

end NodeBootstrap.Setup

/-
NodeBootstrap/Proofs/Config/Recovery.lean

Preparing a tree that earlier preparations have worked on.  They may have gone
through or stopped anywhere, and may have been for other clusters; what they
leave is as good to prepare as the tree before them (`Resumable`).  That is
kept by one more preparation (`Resumable.applyAll`), and a preparation that
would go through on the tree before goes through on what they left, with the
same files in the end (`Resumable.recovers`).
-/
import NodeBootstrap.Proofs.Config.Course

namespace NodeBootstrap.Setup

open NodeBootstrap.Tree NodeBootstrap.Lines NodeBootstrap.Action NodeBootstrap.Extension

/-- A tree is as good to prepare as another one from which it came about.  If
the preparations in between added to the options what this one adds, they
added a first part of it. -/
structure Resumable (s : Setup) (here d : Location) (agree : Prop) (t u : Tree) : Prop where
  same : SameDirectories t u
  database : ∀ lines, t.linesAt? (databaseAt d) = some lines →
    (∃ lines', u.linesAt? (databaseAt d) = some lines' ∧ s.prepared lines' = s.prepared lines) ∧
      (t.entryAt (besideDatabase d) = some .directory →
        u.entryAt (databaseAt d) = t.entryAt (databaseAt d))
  options : ∀ bytes lines, t.entryAt (optionsAt d) = some (.file bytes) →
    linesOf? bytes = some lines → ∃ added,
      u.entryAt (optionsAt d) = some (.file (grown bytes added)) ∧ (∀ l ∈ added, IsLine l) ∧
        (∀ l ∈ added, ∀ agent ∈ s.agents here, agent.Bears l) ∧
          (agree → added ++ lacking (s.options here) (lines ++ added) =
            lacking (s.options here) lines)

/-- A preparation that another one can follow: it works in the same directory,
treats sections alike, and has the same agents. -/
structure Precedes (r s : Setup) (here : Location) (agree : Prop) : Prop where
  staging : r.staging = s.staging
  keepsSeeds : r.keepsSeeds = s.keepsSeeds
  agents : r.agents here = s.agents here
  agrees : agree → Agrees r s here
  oneLine : r.OneLine here

variable {r s : Setup} {here d : Location} {agree : Prop} {t u v : Tree}

theorem Precedes.refl (h : s.OneLine here) : Precedes s s here agree :=
  ⟨rfl, rfl, rfl, fun _ => Agrees.refl s here, h⟩

namespace Resumable

theorem refl (s : Setup) (here d : Location) (agree : Prop) (t : Tree) :
    Resumable s here d agree t t := by
  refine ⟨SameDirectories.refl t, fun lines hl => ⟨⟨lines, hl, rfl⟩, fun _ => rfl⟩, ?_⟩
  intro bytes lines hb _
  refine ⟨[], hb, by simp, by simp, fun _ => ?_⟩
  rw [List.nil_append, List.append_nil]

/-- What a failing action leaves is as good. -/
theorem of_spared (h : Resumable s here d agree t u) (hs : Spared d u v) :
    Resumable s here d agree t v := by
  have hdatabase := hs.entryAt (databaseAt d) (at_ne (by decide) d)
  have hoptions := hs.entryAt (optionsAt d) (at_ne (by decide) d)
  refine ⟨h.same.trans hs.same, ?_, ?_⟩
  · intro lines hl
    rw [linesAt?_congr hdatabase, hdatabase]
    exact h.database lines hl
  · intro bytes lines hb hl
    rw [hoptions]
    exact h.options bytes lines hb hl

/-- A preparation as far as it goes through. -/
theorem of_prefix (h : Resumable s here d agree t u) (hp : Precedes r s here agree)
    (hd : t.Holds s.staging d) {done : List Action} (hdone : done <+: r.script here)
    (hv : Action.applyAll done u = (.ok (), v)) : Resumable s here d agree t v := by
  have hd' : u.Holds r.staging d := hp.staging ▸ hd.of_same h.same
  have hstages : ∀ a ∈ done, r.Stages a := fun a ha =>
    stages_script hp.oneLine a (hdone.subset ha)
  have hedits : edits done <+: edits (r.script here) := hdone.filterMap edit?
  have hadditions : additions done <+: r.extensions here :=
    additions_script r here ▸ hdone.filterMap addition?
  refine ⟨h.same.trans (same_of_applyAll hd' hstages hv), ?_, ?_⟩
  · intro lines hl
    obtain ⟨⟨lines', hl', hprepared⟩, hblocked⟩ := h.database lines hl
    have hedited := edited_of_applyAll hd' hstages hl' hv
    refine ⟨⟨_, hedited.lines_eq, ?_⟩, ?_⟩
    · rw [← hprepared]
      -- as far as the edits got, the whole preparation takes up from there
      rcases editAll_prefix_edits hedits lines' with e | ⟨first, hfirst, e⟩
      · rw [e]
      · rw [e]
        exact prepared_resume hp.keepsSeeds hfirst lines'
    · -- beside a directory nothing is written
      intro hb
      rw [← hblocked hb]
      by_cases hs : Steady (edits done) lines'
      · exact (hedited.steady hs).1
      · exact absurd ((h.same.directory_iff _).mpr hb) (hedited.written hs).1
  · intro bytes lines hb hl
    obtain ⟨added, hu, hline, hbears, hrest⟩ := h.options bytes lines hb hl
    obtain ⟨more, hmore, hgrown⟩ :=
      extended_of_applyAll hd' hstages hu (linesOf?_grown hl hline) hv
    refine ⟨added ++ more, ?_, ?_, ?_, ?_⟩
    · rw [hgrown, grown_grown]
    · intro l hm
      rcases List.mem_append.mp hm with hm | hm
      · exact hline l hm
      · exact isLine_of_extendAll (isLine_agents hp.oneLine) hadditions hmore l hm
    · intro l hm
      rcases List.mem_append.mp hm with hm | hm
      · exact hbears l hm
      · exact bears_of_extendAll hp.agents hadditions hmore l hm
    · intro hagree
      -- what was added is a first part of what is wanted, and no more of it is lacking
      obtain ⟨wanted, hwanted, rfl⟩ :=
        extendAll_prefix_extensions (hp.agrees hagree) hadditions hmore
      have hresume := (distinct_options s here).lacking_resume hwanted (lines ++ added)
      rw [List.append_assoc, ← List.append_assoc lines, hresume]
      exact hrest hagree

/-- One more preparation, however it ends. -/
theorem applyAll (h : Resumable s here d agree t u) (hp : Precedes r s here agree)
    (hd : t.Holds s.staging d) :
    Resumable s here d agree t (Action.applyAll (r.script here) u).2 := by
  obtain ⟨done, rest, v, hscript, hv, hend⟩ := exists_prefix (r.script here) u
  have hdone : done <+: r.script here := ⟨rest, hscript.symm⟩
  have hmid := h.of_prefix hp hd hdone hv
  rcases hend with ⟨_, hall⟩ | ⟨a, more, f, hrest, hfail, hall⟩
  · rw [hall]
    exact hmid
  · rw [hall]
    -- the action that fails spares the files
    have hd' : v.Holds r.staging d := hp.staging ▸ hd.of_same hmid.same
    have ha : a ∈ r.script here := by rw [hscript, hrest]; simp
    exact hmid.of_spared (spared_of_apply hd' (stages_script hp.oneLine a ha) hfail)

/-- A directory that is in the way was so before, when nothing had to be
written. -/
theorem steady_or_free (h : Resumable s here d agree t u) {edits : List (List String → List String)}
    {lines lines' : List String} {t' : Tree} (hedited : Edited d edits lines t t')
    (hl : t.linesAt? (databaseAt d) = some lines) (hl' : u.linesAt? (databaseAt d) = some lines') :
    Steady edits lines' ∨ u.entryAt (besideDatabase d) ≠ some .directory := by
  by_cases hb : t.entryAt (besideDatabase d) = some .directory
  · left
    have hs : Steady edits lines := Classical.byContradiction fun hs => (hedited.written hs).1 hb
    obtain ⟨-, hblocked⟩ := h.database lines hl
    have hsame : u.linesAt? (databaseAt d) = some lines :=
      (linesAt?_congr (hblocked hb)).trans hl
    obtain rfl := Option.some.inj (hsame.symm.trans hl')
    exact hs
  · exact .inr (mt (h.same.directory_iff _).mp hb)

/-- Where the preparation would have gone through before, it goes through now,
with the same files in the end. -/
theorem recovers (h : Resumable s here d agree t u) (hone : s.OneLine here)
    (hd : t.Holds s.staging d) {t' : Tree}
    (ht : Action.applyAll (s.script here) t = (.ok (), t')) :
    ∃ u', Action.applyAll (s.script here) u = (.ok (), u') ∧
      u'.linesAt? (databaseAt d) = t'.linesAt? (databaseAt d) ∧
        u'.entryAt (rackAt d) = t'.entryAt (rackAt d) ∧
          (agree → u'.entryAt (optionsAt d) = t'.entryAt (optionsAt d)) := by
  have hstages := stages_script hone
  have hd' := hd.of_same h.same
  have hdir := h.same.directory_iff
  -- what there was before
  obtain ⟨d₀, lines, hd₀, hl⟩ := holds_of_applyAll ht
  obtain rfl : d = d₀ := Option.some.inj (hd.directory.symm.trans hd₀.directory)
  have hedited := edited_of_applyAll hd hstages hl ht
  obtain ⟨bytes, olines, added₁, hb, ho, hadded₁, hgrown₁⟩ := options_of_applyAll hone hd ht
  obtain ⟨⟨hbeside, hrack⟩, hdescriptor, _⟩ := rack_of_applyAll hone hd ht
  -- what there is now
  obtain ⟨⟨lines', hl', hprepared⟩, -⟩ := h.database lines hl
  obtain ⟨added, hu, hline, hbears, hrest⟩ := h.options bytes olines hb ho
  obtain ⟨more, hmore⟩ := exists_extendAll_append hbears ⟨added₁, hadded₁⟩
  obtain ⟨u', hu'⟩ := exists_applyAll hd' hstages (check_not_mem_of_applyAll ht) hl'
    (h.steady_or_free hedited hl hl') hu (linesOf?_grown ho hline)
    (additions_script s here ▸ hmore) (mt (hdir _).mp hbeside) (mt (hdir _).mp hrack)
  obtain ⟨_, hdescriptor', _⟩ := rack_of_applyAll hone hd' hu'
  refine ⟨u', hu', ?_, hdescriptor'.trans hdescriptor.symm, fun hagree => ?_⟩
  · rw [(edited_of_applyAll hd' hstages hl' hu').lines_eq, hedited.lines_eq, editAll_edits,
      editAll_edits, hprepared]
  · obtain ⟨more', hmore', hgrown⟩ :=
      extended_of_applyAll hd' hstages hu (linesOf?_grown ho hline) hu'
    rw [additions_script] at hmore'
    rw [hgrown, hgrown₁, grown_grown, extendAll_extensions hmore', extendAll_extensions hadded₁,
      hrest hagree]

end Resumable

end NodeBootstrap.Setup

/-
NodeBootstrap/Proofs/Config/RackDescriptor.lean

What the rack descriptor says.  Its text is cut at every wide line end before
it is written, so none of its lines holds one, and the three lines it is meant
to have come out just if neither name holds one (`RackDescriptor.lines_eq_iff`).
A descriptor that is written is read back as those lines then, and whatever
the file said before is of no account (`Setup.configureRack_describes`).
-/
import NodeBootstrap.Proofs.Config.Course

namespace NodeBootstrap

open NodeBootstrap.Lines

/-! ### Lines -/

namespace RackDescriptor

variable {dataCenter rack : String}

/-- The lines are those of the two names just if no name holds a line end of
any kind. -/
theorem lines_eq_iff :
    lines dataCenter rack = [heading, "dc=" ++ dataCenter, "rack=" ++ rack] ↔
      ∀ c ∈ dataCenter.toList ++ rack.toList, c ∉ wideEnds := by
  constructor
  · intro h c hc
    -- the line with the name is one that was cut
    have hline : ∀ l ∈ [heading, "dc=" ++ dataCenter, "rack=" ++ rack],
        ∀ c ∈ l.toList, isWideEnd c = false := by
      rw [← h]
      exact fun l hl => isWideEnd_of_mem_ofRendered hl
    rw [← isWideEnd_eq_false_iff]
    rcases List.mem_append.mp hc with hc | hc
    · exact hline ("dc=" ++ dataCenter) (by simp) c (by simp [hc])
    · exact hline ("rack=" ++ rack) (by simp) c (by simp [hc])
  · intro h
    have hname : ∀ {head name : String}, (∀ c ∈ head.toList, isWideEnd c = false) →
        (∀ c ∈ name.toList, c ∈ dataCenter.toList ++ rack.toList) →
          ∀ c ∈ (head ++ name).toList, isWideEnd c = false := by
      intro head name hhead hmem c hc
      rw [String.toList_append, List.mem_append] at hc
      rcases hc with hc | hc
      · exact hhead c hc
      · exact isWideEnd_eq_false_iff.mpr (h c (hmem c hc))
    rw [lines, ofRendered, cut_between rfl rfl]
    · simp only [List.map_cons, List.map_nil, String.ofList_toList]
    · simp only [List.forall_mem_cons]
      exact ⟨by decide +kernel, hname (by decide) fun c => List.mem_append_left _,
        hname (by decide) fun c => List.mem_append_right _, List.forall_mem_nil _⟩
    · simp

/-- A line separator in the name of the data center makes a rack of its own. -/
example : lines "north\u2028rack=b" "a" = [heading, "dc=north", "rack=b", "rack=a"] := by
  decide +kernel

end RackDescriptor

/-! ### The file -/

namespace Setup

variable {s : Setup} {x y : Session} {u : Tree} {dataCenter rack : String}

/-- With both names given, to write the descriptor is to write its lines. -/
theorem exists_configureRack_iff
    (hcenter : s.environment.mandatory Environment.dataCenter = .ok dataCenter)
    (hrack : s.environment.mandatory Environment.currentRack = .ok rack) :
    (∃ y, s.configureRack.perform x = (.ok (), y) ∧ y.tree = u) ↔
      x.tree.writeLines s.rackFile (RackDescriptor.lines dataCenter rack) = (.ok (), u) := by
  have hactions : Action.applyAll s.rackActions x.tree =
      x.tree.writeLines s.rackFile (RackDescriptor.lines dataCenter rack) := by
    rw [rackActions, need, need, hcenter, hrack, value_of_mandatory hcenter,
      value_of_mandatory hrack]
    exact Action.applyAll_singleton _ _
  have hdoes : Run.Does s.configureRack x.tree.here s.rackActions := s.does_configureRack
  rw [← hactions, hdoes.applyAll_eq_ok_iff]
  constructor
  · exact fun h => ⟨(), h⟩
  · rintro ⟨⟨⟩, h⟩
    exact h

/-- A descriptor that is written says what it was given, in three lines, just
if neither name holds a line end of any kind.  What stood in its place before
is of no account. -/
theorem configureRack_describes
    (hcenter : s.environment.mandatory Environment.dataCenter = .ok dataCenter)
    (hrack : s.environment.mandatory Environment.currentRack = .ok rack)
    (h : s.configureRack.perform x = (.ok (), y)) :
    (y.tree.readLines s.rackFile =
        .ok [RackDescriptor.heading, "dc=" ++ dataCenter, "rack=" ++ rack] ↔
      ∀ c ∈ dataCenter.toList ++ rack.toList, c ∉ wideEnds) ∧
    ∀ x' : Session, x.tree.SameAround s.rackFile x'.tree →
      ∃ y', s.configureRack.perform x' = (.ok (), y') ∧ y'.tree.here = y.tree.here ∧
        ∀ l, y'.tree.entryAt l = y.tree.entryAt l := by
  have hne := RackDescriptor.lines_ne_nil dataCenter rack
  have hwrite := (exists_configureRack_iff hcenter hrack).mp ⟨y, h, rfl⟩
  have hread : y.tree.readLines s.rackFile = .ok (RackDescriptor.lines dataCenter rack) :=
    Tree.readLines_of_writeLines hne (fun l hl => isLine_of_mem_ofRendered hl) hwrite
  constructor
  · rw [hread, Except.ok.injEq]
    exact RackDescriptor.lines_eq_iff
  · intro x' hsame
    obtain ⟨u', hu', hhere, hentries⟩ := Tree.exists_writeLines_of_sameAround hsame hne hwrite
    obtain ⟨y', hy', rfl⟩ := (exists_configureRack_iff hcenter hrack).mpr hu'
    exact ⟨y', hy', hhere, hentries⟩

/-- The sample with a descriptor from before. -/
def describedTree : Tree :=
  sampleTree.put ["staging", "cassandra-rackdc.properties"] (.file "rack=old".toUTF8)

theorem sameAround_describedTree : sampleTree.SameAround sample.rackFile describedTree := by
  have hlocate : sampleTree.locate (Path.ofText sample.rackFile) =
      .ok ["staging", "cassandra-rackdc.properties"] := (site_rack holds_sample).locate
  have hentries := fun l => Tree.entryAt_put sampleTree
    ["staging", "cassandra-rackdc.properties"] l (.file "rack=old".toUTF8) (List.cons_ne_nil _ _)
  refine ⟨rfl, fun l hl => ?_, fun l hl => ?_⟩
  · rw [describedTree, hentries, if_neg]
    rintro rfl
    exact hl hlocate
  · rw [describedTree, hentries, if_pos (Except.ok.inj (hl.symm.trans hlocate))]
    simp

theorem configureRack_describes_sample :
    ∃ y y', sample.configureRack.perform (Session.start sampleTree) = (.ok (), y) ∧
      sample.configureRack.perform (Session.start describedTree) = (.ok (), y') ∧
      y.tree.readLines sample.rackFile = .ok [RackDescriptor.heading, "dc=north", "rack=a"] ∧
      y'.tree.entryAt (rackAt ["staging"]) = y.tree.entryAt (rackAt ["staging"]) := by
  have hcenter : sample.environment.mandatory Environment.dataCenter = .ok "north" := rfl
  have hrack : sample.environment.mandatory Environment.currentRack = .ok "a" := rfl
  have hwrite := (site_rack holds_sample).writeLines_done (by decide) (by decide)
    (RackDescriptor.lines_ne_nil "north" "a")
  obtain ⟨y, hy, -⟩ := (@exists_configureRack_iff sample (Session.start sampleTree) _ _ _
    hcenter hrack).mpr hwrite
  obtain ⟨hdescribes, hbefore⟩ := configureRack_describes hcenter hrack hy
  obtain ⟨y', hy', -, hentries⟩ := hbefore (Session.start describedTree) sameAround_describedTree
  exact ⟨y, y', hy, hy', hdescribes.mpr (by decide +kernel), hentries _⟩

end Setup

end NodeBootstrap

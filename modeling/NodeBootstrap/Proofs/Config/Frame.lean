/-
NodeBootstrap/Proofs/Config/Frame.lean

What a preparation leaves alone, however it ends.  Outside the five places that
it writes to, nothing changes.  What an operator wrote into the database's
configuration stays: comments, and the lines outside sections that set other
properties (`Retains`).  The options only grow.
-/
import NodeBootstrap.Proofs.Config.Course

namespace NodeBootstrap

open NodeBootstrap.Tree NodeBootstrap.Lines NodeBootstrap.Action NodeBootstrap.SeedSection

namespace Setup

/-! ### Lines of an operator -/

/-- What the lines that a preparation may change start with. -/
def ownHeads : List String :=
  ["endpoint_snitch: ", "cluster_name: ", "listen_address: ", "rpc_address: "]

/-- A line that sets none of the properties of a preparation. -/
def isForeign (line : String) : Bool := ownHeads.all fun head => !startsWith head line

/-- The lines of an operator are the same before and after. -/
structure Retains (before after : List String) : Prop where
  comments : after.filter isComment = before.filter isComment
  foreign : (outside after).filter isForeign = (outside before).filter isForeign

theorem Retains.refl (lines : List String) : Retains lines lines := ⟨rfl, rfl⟩

theorem Retains.trans {xs ys zs : List String} (h : Retains xs ys) (k : Retains ys zs) :
    Retains xs zs :=
  ⟨k.comments.trans h.comments, k.foreign.trans h.foreign⟩

theorem isForeign_eq_false {k l : String} (hk : k ∈ keys) (h : Property.isSetBy k l = true) :
    isForeign l = false := by
  have hheads : ∀ k ∈ keys, Property.head k ∈ ownHeads := by decide
  rw [isForeign, List.all_eq_false]
  exact ⟨Property.head k, hheads k hk, by simpa [Property.isSetBy] using h⟩

/-- Replacing sections by a block without comments. -/
theorem retains_replace {block : List String} (hb : IsBlock block)
    (hc : ∀ l ∈ block, isComment l = false) (lines : List String) :
    Retains lines (SeedSection.replace block lines) := by
  constructor
  · rw [SeedSection.replace, filter_replaceFrom hc, filter_comment_replaceFrom]
  · rw [outside_eq, outside_eq, SeedSection.replace, SeedSection.replace, SeedSection.replace,
      replaceFrom_replaceFrom hb]

/-- Lines edited in their places, with those that set a property among
themselves. -/
theorem filter_map_settle {first : List String} (hs : first.Sublist keys)
    (value : String → String) (kind : String → Bool)
    (hkind : ∀ k ∈ keys, ∀ l, Property.isSetBy k l = true → kind l = false) (lines : List String) :
    (lines.map (Property.settle value first)).filter kind = lines.filter kind := by
  induction lines with
  | nil => rfl
  | cons l lines ih =>
    rw [List.map_cons, List.filter_cons, List.filter_cons, ih]
    rcases Property.settle_cases (keys_toldApart.of_sublist hs) value l with
      ⟨k, hk, hset, e⟩ | ⟨_, e⟩
    · have h₁ : kind l = false := hkind k (hs.subset hk) l hset
      have h₂ := hkind k (hs.subset hk) _ (Property.isSetBy_line k (value k))
      rw [e, h₁, h₂]
      rfl
    · rw [e]

/-- Setting a property of the preparation. -/
theorem retains_assign {key : String} (hk : key ∈ keys) (v : String) (lines : List String) :
    Retains lines (Property.assign key v lines) := by
  have hs : [key].Sublist keys := List.singleton_sublist.mpr hk
  have hadded : ∀ l ∈ lacking (Property.wanted (fun _ => v) [key]) lines,
      Property.isSetBy key l = true := by
    intro l hl
    obtain ⟨w, hw, _, rfl⟩ := mem_lacking.mp hl
    rw [List.mem_singleton.mp hw]
    exact Property.isSetBy_line key v
  have hnone : ∀ kind : String → Bool,
      (∀ k ∈ keys, ∀ l, Property.isSetBy k l = true → kind l = false) → ∀ added : List String,
      (∀ l ∈ added, Property.isSetBy key l = true) → added.filter kind = [] := by
    intro kind hkind added ha
    rw [List.filter_eq_nil_iff]
    intro l hl
    rw [hkind key hk l (ha l hl)]
    exact Bool.false_ne_true
  have hcomment : ∀ k ∈ keys, ∀ l, Property.isSetBy k l = true → isComment l = false :=
    fun k hk l h => (isPlain_of_isSetBy hk h).not_comment
  have hforeign : ∀ k ∈ keys, ∀ l, Property.isSetBy k l = true → isForeign l = false :=
    fun k hk l h => isForeign_eq_false hk h
  rw [Property.assign_eq]
  constructor
  · rw [List.filter_append, filter_map_settle hs _ _ hcomment, hnone _ hcomment _ hadded,
      List.append_nil]
  · rw [outside_eq, outside_eq, SeedSection.replace, replaceFrom_append,
      replaceFrom_map (keepsSections_settle hs _) (by simp), List.filter_append,
      filter_map_settle hs _ _ hforeign, replaceFrom_plain (isPlain_of_mem_lacking hs)]
    -- the new line is outside sections, or it belongs to one that is open
    split
    · exact List.append_nil _
    · rw [hnone _ hforeign _ hadded, List.append_nil]
      rfl

/-- Every edit of a script retains the lines of an operator. -/
theorem retains_of_mem_edits {s : Setup} {here : Location} {edit : List String → List String}
    (h : edit ∈ edits (s.script here)) (lines : List String) : Retains lines (edit lines) := by
  rw [edits_script, List.mem_append] at h
  rcases h with h | h
  · split at h
    · cases h
    · rw [List.mem_singleton.mp h]
      exact retains_replace (isBlock_block _ _) (not_comment_of_mem_block _ _) lines
  · obtain ⟨key, hkey, rfl⟩ := List.mem_map.mp h
    exact retains_assign hkey _ lines

/-! ### Trees -/

/-- What a preparation in a directory leaves alone. -/
structure Kept (d : Location) (t u : Tree) : Prop where
  same : SameDirectories t u
  entryAt : ∀ l, l ∉ places d → u.entryAt l = t.entryAt l
  database : ∀ lines, t.linesAt? (databaseAt d) = some lines →
    ∃ lines', u.linesAt? (databaseAt d) = some lines' ∧ Retains lines lines'
  options : ∀ lines, t.linesAt? (optionsAt d) = some lines →
    ∃ more, u.linesAt? (optionsAt d) = some (lines ++ more)

variable {s : Setup} {here d : Location} {t u v : Tree} {a : Action}

namespace Kept

theorem refl (d : Location) (t : Tree) : Kept d t t :=
  ⟨SameDirectories.refl t, fun _ _ => rfl, fun lines hl => ⟨lines, hl, Retains.refl lines⟩,
    fun lines hl => ⟨[], by rw [hl, List.append_nil]⟩⟩

theorem trans (h : Kept d t u) (k : Kept d u v) : Kept d t v := by
  refine ⟨h.same.trans k.same, fun l hl => (k.entryAt l hl).trans (h.entryAt l hl), ?_, ?_⟩
  · intro lines hl
    obtain ⟨lines', hl', hr⟩ := h.database lines hl
    obtain ⟨lines'', hl'', hr'⟩ := k.database lines' hl'
    exact ⟨lines'', hl'', hr.trans hr'⟩
  · intro lines hl
    obtain ⟨more, hm⟩ := h.options lines hl
    obtain ⟨more', hm'⟩ := k.options _ hm
    exact ⟨more ++ more', by rw [hm', List.append_assoc]⟩

/-- Nothing was written to the database's configuration and the options. -/
theorem of_eq (hsame : SameDirectories t u) (he : ∀ l, l ∉ places d → u.entryAt l = t.entryAt l)
    (hd : u.entryAt (databaseAt d) = t.entryAt (databaseAt d))
    (ho : u.entryAt (optionsAt d) = t.entryAt (optionsAt d)) : Kept d t u := by
  refine ⟨hsame, he, fun lines hl => ⟨lines, ?_, Retains.refl lines⟩, fun lines hl => ⟨[], ?_⟩⟩
  · rw [linesAt?_congr hd, hl]
  · rw [linesAt?_congr ho, hl, List.append_nil]

end Kept

/-- A step keeps what a preparation does. -/
theorem Step.kept (hstage : s.Stages a)
    (hr : ∀ edit, a.edit? = some edit → ∀ lines, Retains lines (edit lines))
    (h : Step s d a t u) : Kept d t u := by
  have hentry : ∀ l, l ∉ places d → u.entryAt l = t.entryAt l := fun l hl =>
    h.entryAt_eq (mt (fun hm => touched_subset d a hm) hl)
  have hdatabase : a.edit? = none → u.entryAt (databaseAt d) = t.entryAt (databaseAt d) :=
    fun hn => h.entryAt_eq (database_not_mem_touched hn).1
  have hoptions : a.addition? = none → u.entryAt (optionsAt d) = t.entryAt (optionsAt d) :=
    fun hn => h.entryAt_eq (options_not_mem_touched hn)
  have hsame := h.same
  cases h with
  | check | steady => exact Kept.refl d t
  | supplanted => exact Kept.of_eq hsame hentry (hdatabase rfl) (hoptions rfl)
  | @revised _ edit lines hl he hb =>
    -- the new lines are those of the edit, and the options stay
    refine ⟨hsame, hentry, fun lines₀ hl₀ => ?_, fun options ho => ⟨[], ?_⟩⟩
    · obtain rfl : lines = lines₀ := Option.some.inj (hl.symm.trans hl₀)
      obtain ⟨bytes, _, hbytes⟩ := exists_of_linesAt? hl
      refine ⟨edit lines, ?_, hr edit rfl lines⟩
      have ht := not_directory_of_linesAt? hl
      cases hstage with
      | revise hedit =>
        exact linesAt?_written hb ht (hedit.isLine (isLine_of_linesOf? hbytes))
    · rw [linesAt?_congr (hoptions rfl), ho, List.append_nil]
  | @extended _ more bytes lines added hb hl hm =>
    -- the other way round
    refine ⟨hsame, hentry, fun lines₀ hl₀ => ⟨lines₀, ?_, Retains.refl lines₀⟩,
      fun options ho => ⟨added, ?_⟩⟩
    · rw [linesAt?_congr (hdatabase rfl), hl₀]
    · obtain rfl : lines = options := Option.some.inj ((linesAt?_of_entryAt hb).trans hl ▸ ho)
      cases hstage with
      | extend hadds => exact linesAt?_appended hb hl (hadds lines added hm)

/-- So does an action, whether it goes through or fails. -/
theorem kept_apply (hd : t.Holds s.staging d) (hstage : s.Stages a)
    (hr : ∀ edit, a.edit? = some edit → ∀ lines, Retains lines (edit lines)) :
    Kept d t (a.apply t).2 := by
  cases hstage.ending hd with
  | step hu hstep =>
    rw [hu]
    exact hstep.kept hstage hr
  | fault hu hspared =>
    rw [hu]
    refine Kept.of_eq hspared.same (fun l hl => hspared.entryAt l ?_)
      (hspared.entryAt _ (at_ne (by decide) d)) (hspared.entryAt _ (at_ne (by decide) d))
    -- the file beside the rack descriptor is among the places
    rintro rfl
    exact hl (by simp [places])

/-- And so does a whole preparation. -/
theorem kept_script (hone : s.OneLine here) (hd : t.Holds s.staging d) :
    Kept d t (applyAll (s.script here) t).2 := by
  have hkeeps := @applyAll_keeps (fun t u => t.Holds s.staging d → Kept d t u)
    (fun t _ => Kept.refl d t)
    (fun h k hd => (h hd).trans (k (hd.of_same (h hd).same))) (s.script here) ?_ t
  · exact hkeeps hd
  · intro a ha t hd
    refine kept_apply hd (stages_script hone a ha) fun edit he lines => ?_
    exact retains_of_mem_edits (List.mem_filterMap.mpr ⟨a, ha, he⟩) lines

/-- Without its directory none of the files can be read. -/
theorem readLines_ne_ok {name : String} {lines : List String} (hno : ¬ ∃ d, t.Holds s.staging d)
    (hn : IsTargetName name) : t.readLines (s.staging.join name).text ≠ .ok lines := by
  intro hr
  obtain ⟨target, hto, _⟩ := leadsTo_of_readLines hr
  obtain ⟨d, hd, _⟩ := holds_of_leadsTo hn hto
  exact hno ⟨d, hd⟩

theorem Stages.apply_eq (hstage : s.Stages a) (hno : ¬ ∃ d, t.Holds s.staging d) :
    (a.apply t).2 = t := by
  cases hstage with
  | check fault => cases fault <;> rfl
  | revise _ =>
    rw [Action.apply]
    rcases hr : t.readLines s.databaseFile with f | lines
    · rfl
    · exact absurd hr (readLines_ne_ok hno isTargetName_database)
  | extend _ =>
    rw [Action.apply]
    rcases hr : t.readLines s.optionsFile with f | lines
    · rfl
    · exact absurd hr (readLines_ne_ok hno isTargetName_options)
  | @supplant lines _ =>
    -- a write that changed the tree would have found the directory
    refine Classical.byContradiction fun hne => hno ?_
    exact holds_of_writeLines_ne isTargetName_rack hne

/-- Without its directory a preparation changes nothing. -/
theorem applyAll_script_eq (hone : s.OneLine here) (hno : ¬ ∃ d, t.Holds s.staging d) :
    (applyAll (s.script here) t).2 = t := by
  have hkeeps := @applyAll_keeps (fun t u => (¬ ∃ d, t.Holds s.staging d) → u = t)
    (fun t _ => rfl) (fun h k hno => ?_) (s.script here)
    (fun a ha t hno => (stages_script hone a ha).apply_eq hno) t
  · exact hkeeps hno
  · obtain rfl := h hno
    exact k hno

/-- The names of the files that a preparation may write in its directory. -/
def stagedNames : List String :=
  ["cassandra.yaml", "cassandra.yaml.tmp", "jvm.options", "cassandra-rackdc.properties",
    "cassandra-rackdc.properties.tmp"]

theorem places_eq (d : Location) : places d = stagedNames.map fun name => d ++ [name] := by
  have h₁ : databaseName ++ temporarySuffix = "cassandra.yaml.tmp" := by decide
  have h₂ : rackName ++ temporarySuffix = "cassandra-rackdc.properties.tmp" := by decide
  rw [places, besideDatabase, besideRack, h₁, h₂]
  rfl

theorem locate_of_mem_stagedNames (hd : t.Holds s.staging d) :
    ∀ name ∈ stagedNames,
      t.locate (Path.ofText (s.staging.join name).text) = .ok (d ++ [name]) := by
  have hlocate : ∀ name, Path.IsPlainName name → IsFileName name →
      t.locate (Path.ofText (s.staging.join name).text) = .ok (d ++ [name]) :=
    fun _ hn hf => hd.locate hn hf
  simp only [stagedNames, List.forall_mem_cons]
  refine ⟨hlocate _ ⟨by decide, by decide⟩ ⟨by decide, by decide⟩,
    hlocate _ ⟨by decide, by decide⟩ ⟨by decide, by decide⟩,
    hlocate _ ⟨by decide, by decide⟩ ⟨by decide, by decide⟩,
    hlocate _ ⟨by decide, by decide⟩ ⟨by decide, by decide⟩,
    hlocate _ ⟨by decide, by decide⟩ ⟨by decide, by decide⟩, by simp⟩

/-- What a preparation leaves alone, however it ends: all places but five; of
the database's configuration, that it can be read, its comments, and the lines
outside sections that set other properties; of the options, all that was there. -/
theorem configure_keeps (s : Setup) {x y : Session} {result : Except Fault Unit}
    (hone : s.OneLine x.tree.here) (h : s.configure.perform x = (result, y)) :
    y.tree.here = x.tree.here ∧
      (∀ l, (∀ name ∈ stagedNames,
          x.tree.locate (Path.ofText (s.staging.join name).text) ≠ .ok l) →
        y.tree.entryAt l = x.tree.entryAt l) ∧
      (∀ lines, x.tree.readLines s.databaseFile = .ok lines → ∃ lines',
        y.tree.readLines s.databaseFile = .ok lines' ∧
          lines'.filter isComment = lines.filter isComment ∧
          (outside lines').filter isForeign = (outside lines).filter isForeign) ∧
      (∀ lines, x.tree.readLines s.optionsFile = .ok lines → ∃ lines',
        y.tree.readLines s.optionsFile = .ok lines' ∧ lines <+: lines') := by
  have hy : y.tree = (applyAll (s.script x.tree.here) x.tree).2 := by
    rw [← s.tree_perform_configure x, h]
  -- without a staging directory there is nothing that could be written
  by_cases hd : ∃ d, x.tree.Holds s.staging d
  · obtain ⟨d, hd⟩ := hd
    have hkept : Kept d x.tree y.tree := hy ▸ kept_script hone hd
    have hd' := hd.of_same hkept.same
    refine ⟨hkept.same.here, fun l hl => hkept.entryAt l fun hm => ?_, fun lines hlines => ?_,
      fun lines hlines => ?_⟩
    · rw [places_eq] at hm
      obtain ⟨name, hname, rfl⟩ := List.mem_map.mp hm
      exact hl name hname (locate_of_mem_stagedNames hd name hname)
    · have h₁ := (site_database hd).toLeadsTo.readLines_eq_ok_iff.mp hlines
      obtain ⟨lines', h₂, hr⟩ := hkept.database lines h₁
      exact ⟨lines', (site_database hd').toLeadsTo.readLines_eq_ok_iff.mpr h₂, hr.comments,
        hr.foreign⟩
    · have h₁ := (leadsTo_options hd).readLines_eq_ok_iff.mp hlines
      obtain ⟨more, h₂⟩ := hkept.options lines h₁
      exact ⟨_, (leadsTo_options hd').readLines_eq_ok_iff.mpr h₂, List.prefix_append _ _⟩
  · rw [hy, applyAll_script_eq hone hd]
    exact ⟨rfl, fun _ _ => rfl, fun lines h => ⟨lines, h, rfl, rfl⟩,
      fun lines h => ⟨lines, h, List.prefix_refl lines⟩⟩

theorem configure_keeps_sample :
    ∃ lines, (sample.configure.perform (Session.start sampleTree)).2.tree.readLines
        sample.databaseFile = .ok lines ∧ lines.filter isComment = ["# seeds"] := by
  have hread : sampleTree.readLines sample.databaseFile =
      .ok ["# seeds", "seed_provider:", "- old"] :=
    (site_database holds_sample).readLines_eq_ok_iff.mpr linesAt?_sampleTree
  rcases h : sample.configure.perform (Session.start sampleTree) with ⟨result, y⟩
  obtain ⟨_, _, hdatabase, _⟩ := configure_keeps sample oneLine_sample h
  obtain ⟨lines, hlines, hcomments, _⟩ := hdatabase _ hread
  exact ⟨lines, hlines, hcomments.trans (by decide)⟩

end Setup

end NodeBootstrap

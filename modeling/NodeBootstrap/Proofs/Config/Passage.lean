/-
NodeBootstrap/Proofs/Config/Passage.lean

Lists of actions that go through, one step after the other (`Passes`).  What
they do to a file is told by those of them that are for that file: the
database's configuration gets all edits, one after the other
(`edited_of_applyAll`), and the options get all that the extensions add
(`extended_of_applyAll`).  A file that no edit changes is not written, so it
stays byte by byte.

Conversely a list goes through if its checks pass, its files are there, and
nothing stands where it has to write (`exists_applyAll`).
-/
import NodeBootstrap.Proofs.Config.Staging

namespace NodeBootstrap

open NodeBootstrap.Tree NodeBootstrap.Lines NodeBootstrap.Extension

namespace Action

/-- The edit of an action, if it is one. -/
def edit? : Action → Option (List String → List String)
  | .revise _ edit => some edit
  | _ => none

/-- The extension of an action, if it is one. -/
def addition? : Action → Option Extension
  | .extend _ more => some more
  | _ => none

def edits (as : List Action) : List (List String → List String) := as.filterMap edit?

def additions (as : List Action) : List Extension := as.filterMap addition?

/-- Edits made one after the other. -/
def editAll (edits : List (List String → List String)) (lines : List String) : List String :=
  edits.foldl (fun ls edit => edit ls) lines

/-- Lines that no edit changes. -/
def Steady (edits : List (List String → List String)) (lines : List String) : Prop :=
  ∀ edit ∈ edits, edit lines = lines

theorem Steady.editAll_eq {edits : List (List String → List String)} {lines : List String}
    (h : Steady edits lines) : editAll edits lines = lines := by
  induction edits with
  | nil => rfl
  | cons edit edits ih =>
    show editAll edits (edit lines) = lines
    rw [h edit List.mem_cons_self]
    exact ih fun e he => h e (List.mem_cons_of_mem _ he)

theorem steady_cons {edit : List String → List String} {edits : List (List String → List String)}
    {lines : List String} :
    Steady (edit :: edits) lines ↔ edit lines = lines ∧ Steady edits lines :=
  List.forall_mem_cons

/-- A list that goes through has no check that fails. -/
theorem check_not_mem_of_applyAll {as : List Action} {t u : Tree}
    (h : applyAll as t = (.ok (), u)) (f : Fault) : .check (some f) ∉ as := by
  induction as generalizing t with
  | nil => exact List.not_mem_nil
  | cons a as ih =>
    obtain ⟨v, hv, hrest⟩ := applyAll_cons_eq_ok.mp h
    intro hm
    rcases List.mem_cons.mp hm with rfl | hm
    · cases hv
    · exact ih hrest hm

end Action

namespace Setup

open NodeBootstrap.Action

variable {s : Setup} {d : Location} {t u v : Tree} {a : Action} {as : List Action}

theorem database_not_mem_touched (h : a.edit? = none) :
    databaseAt d ∉ touched d a ∧ besideDatabase d ∉ touched d a := by
  cases a with
  | check => exact ⟨List.not_mem_nil, List.not_mem_nil⟩
  | revise => contradiction
  | extend =>
    simp only [touched, List.mem_singleton]
    exact ⟨at_ne (by decide) d, at_ne (by decide) d⟩
  | supplant =>
    simp only [touched, List.mem_cons, List.not_mem_nil, or_false, not_or]
    exact ⟨⟨at_ne (by decide) d, at_ne (by decide) d⟩, at_ne (by decide) d, at_ne (by decide) d⟩

theorem options_not_mem_touched (h : a.addition? = none) : optionsAt d ∉ touched d a := by
  cases a with
  | check => exact List.not_mem_nil
  | extend => contradiction
  | revise =>
    simp only [touched, List.mem_cons, List.not_mem_nil, or_false, not_or]
    exact ⟨at_ne (by decide) d, at_ne (by decide) d⟩
  | supplant =>
    simp only [touched, List.mem_cons, List.not_mem_nil, or_false, not_or]
    exact ⟨at_ne (by decide) d, at_ne (by decide) d⟩

/-- Actions of a preparation that go through, step by step. -/
inductive Passes (s : Setup) (d : Location) : List Action → Tree → Tree → Prop
  | nil (t : Tree) : Passes s d [] t t
  | cons {a : Action} {as : List Action} {t v u : Tree} :
      s.Stages a → Step s d a t v → Passes s d as v u → Passes s d (a :: as) t u

theorem passes_of_applyAll (hd : t.Holds s.staging d) (hall : ∀ a ∈ as, s.Stages a)
    (h : applyAll as t = (.ok (), u)) : Passes s d as t u := by
  induction as generalizing t with
  | nil =>
    obtain rfl := (Prod.mk.inj h).2
    exact .nil t
  | cons a as ih =>
    obtain ⟨hstage, hall⟩ := List.forall_mem_cons.mp hall
    obtain ⟨v, hv, hrest⟩ := applyAll_cons_eq_ok.mp h
    have hstep := step_of_apply hd hstage hv
    exact .cons hstage hstep (ih (hd.of_same hstep.same) hall hrest)

/-- The directories stay. -/
theorem Passes.same (h : Passes s d as t u) : SameDirectories t u := by
  induction h with
  | nil t => exact SameDirectories.refl t
  | cons _ hstep _ ih => exact hstep.same.trans ih

theorem same_of_applyAll (hd : t.Holds s.staging d) (hall : ∀ a ∈ as, s.Stages a)
    (h : applyAll as t = (.ok (), u)) : SameDirectories t u :=
  (passes_of_applyAll hd hall h).same

/-! ### The database's configuration -/

/-- What edits of given lines make of the database's configuration: it is
written only if one of them changes the lines. -/
structure Edited (d : Location) (edits : List (List String → List String)) (lines : List String)
    (t u : Tree) : Prop where
  lines_eq : u.linesAt? (databaseAt d) = some (editAll edits lines)
  steady : Steady edits lines →
    u.entryAt (databaseAt d) = t.entryAt (databaseAt d) ∧
      u.entryAt (besideDatabase d) = t.entryAt (besideDatabase d)
  written : ¬ Steady edits lines →
    t.entryAt (besideDatabase d) ≠ some .directory ∧
      u.entryAt (databaseAt d) = some (.file (joined (editAll edits lines)).toUTF8) ∧
        u.entryAt (besideDatabase d) = none

/-- What is done elsewhere before does not matter. -/
theorem Edited.of_eq {edits : List (List String → List String)} {lines : List String}
    (h : Edited d edits lines u v) (h₁ : u.entryAt (databaseAt d) = t.entryAt (databaseAt d))
    (h₂ : u.entryAt (besideDatabase d) = t.entryAt (besideDatabase d)) :
    Edited d edits lines t v := by
  refine ⟨h.lines_eq, fun hs => ?_, fun hs => ?_⟩
  · rw [← h₁, ← h₂]
    exact h.steady hs
  · rw [← h₂]
    exact h.written hs

theorem Passes.edited (h : Passes s d as t u) {lines : List String}
    (hl : t.linesAt? (databaseAt d) = some lines) : Edited d (edits as) lines t u := by
  induction h generalizing lines with
  | nil t => exact ⟨hl, fun _ => ⟨rfl, rfl⟩, fun hs => absurd (List.forall_mem_nil _) hs⟩
  | @cons a as t v u hstage hstep _ ih =>
    -- an action on another file
    have hother : a.edit? = none → Edited d (edits (a :: as)) lines t u := by
      intro hnone
      obtain ⟨h₁, h₂⟩ := database_not_mem_touched (d := d) hnone
      have hl' : v.linesAt? (databaseAt d) = some lines :=
        (linesAt?_congr (hstep.entryAt_eq h₁)).trans hl
      have hedits : edits (a :: as) = edits as := by simp [edits, hnone]
      rw [hedits]
      exact (ih hl').of_eq (hstep.entryAt_eq h₁) (hstep.entryAt_eq h₂)
    cases hstep with
    | check => exact hother rfl
    | extended => exact hother rfl
    | supplanted => exact hother rfl
    | @steady _ edit ls hls he =>
      obtain rfl : lines = ls := Option.some.inj (hl.symm.trans hls)
      -- the edit changes nothing, so it counts neither for the lines nor for the writes
      have hr := ih hl
      have hfold : editAll (edit :: edits as) lines = editAll (edits as) lines := by
        show editAll (edits as) (edit lines) = _
        rw [he]
      have hiff : Steady (edit :: edits as) lines ↔ Steady (edits as) lines :=
        steady_cons.trans (and_iff_right he)
      refine ⟨hr.lines_eq.trans (congrArg some hfold.symm), fun hs => hr.steady (hiff.mp hs),
        fun hs => ?_⟩
      show _ ∧ _ = some (Entry.file (joined (editAll (edit :: edits as) lines)).toUTF8) ∧ _
      rw [hfold]
      exact hr.written fun hs' => hs (hiff.mpr hs')
    | @revised _ edit ls hls he hb =>
      obtain rfl : lines = ls := Option.some.inj (hl.symm.trans hls)
      have hne : besideDatabase d ≠ databaseAt d := at_ne (by decide) d
      have ht := not_directory_of_linesAt? hl
      have hline : ∀ l ∈ edit lines, IsLine l := by
        obtain ⟨bytes, _, hbytes⟩ := exists_of_linesAt? hl
        cases hstage with
        | revise hedit => exact hedit.isLine (isLine_of_linesOf? hbytes)
      have hentry := entryAt_written_target hb ht (joined (edit lines)).toUTF8
      have hbeside := entryAt_written_beside hb ht hne (joined (edit lines)).toUTF8
      -- the edits behind it start from the lines that were written
      have hr := ih (linesAt?_written hb ht hline)
      refine ⟨hr.lines_eq, fun hs => absurd (steady_cons.mp hs).1 he, fun _ => ⟨hb, ?_⟩⟩
      show _ = some (Entry.file (joined (editAll (edits as) (edit lines))).toUTF8) ∧ _
      by_cases hs : Steady (edits as) (edit lines)
      · rw [(hr.steady hs).1, (hr.steady hs).2, hs.editAll_eq]
        exact ⟨hentry, hbeside⟩
      · exact (hr.written hs).2

theorem edited_of_applyAll (hd : t.Holds s.staging d) (hall : ∀ a ∈ as, s.Stages a)
    {lines : List String} (hl : t.linesAt? (databaseAt d) = some lines)
    (h : applyAll as t = (.ok (), u)) : Edited d (edits as) lines t u :=
  (passes_of_applyAll hd hall h).edited hl

/-! ### The options -/

theorem Passes.extended (h : Passes s d as t u) {bytes : ByteArray} {lines : List String}
    (hb : t.entryAt (optionsAt d) = some (.file bytes)) (hl : linesOf? bytes = some lines) :
    ∃ added, extendAll (additions as) lines = .ok added ∧
      u.entryAt (optionsAt d) = some (.file (grown bytes added)) := by
  induction h generalizing bytes lines with
  | nil t => exact ⟨[], rfl, hb⟩
  | @cons a as t v u hstage hstep _ ih =>
    -- an action on another file
    have hother : a.addition? = none → ∃ added, extendAll (additions (a :: as)) lines = .ok added ∧
        u.entryAt (optionsAt d) = some (.file (grown bytes added)) := by
      intro hnone
      have hsame := hstep.entryAt_eq (options_not_mem_touched hnone)
      have hext : additions (a :: as) = additions as := by simp [additions, hnone]
      rw [hext]
      exact ih (hsame.trans hb) hl
    cases hstep with
    | check => exact hother rfl
    | steady => exact hother rfl
    | revised => exact hother rfl
    | supplanted => exact hother rfl
    | @extended _ more bytes' lines' first hb' hl' hmore =>
      obtain rfl : bytes = bytes' := by
        have e := hb.symm.trans hb'
        injection e with e
        injection e
      obtain rfl : lines = lines' := Option.some.inj (hl.symm.trans hl')
      have hline : ∀ l ∈ first, IsLine l := by
        cases hstage with
        | extend hadds => exact hadds lines first hmore
      have hentry := entryAt_appended_target hb first
      -- the extensions behind it see the lines with these at the end
      obtain ⟨others, ho, hu⟩ := ih hentry (linesOf?_grown hl hline)
      refine ⟨first ++ others, ?_, ?_⟩
      · exact extendAll_cons_eq_ok.mpr ⟨first, others, hmore, ho, rfl⟩
      · rw [hu, grown_grown]

theorem extended_of_applyAll (hd : t.Holds s.staging d) (hall : ∀ a ∈ as, s.Stages a)
    {bytes : ByteArray} {lines : List String} (hb : t.entryAt (optionsAt d) = some (.file bytes))
    (hl : linesOf? bytes = some lines) (h : applyAll as t = (.ok (), u)) :
    ∃ added, extendAll (additions as) lines = .ok added ∧
      u.entryAt (optionsAt d) = some (.file (grown bytes added)) :=
  (passes_of_applyAll hd hall h).extended hb hl

/-- A list with an extension goes through only if the options can be read. -/
theorem Passes.exists_options (h : Passes s d as t u) (hne : additions as ≠ []) :
    ∃ bytes lines, t.entryAt (optionsAt d) = some (.file bytes) ∧ linesOf? bytes = some lines := by
  induction h with
  | nil t => exact absurd rfl hne
  | @cons a as t v u _ hstep _ ih =>
    -- an action on another file leaves it to the others to read the options
    have hother : a.addition? = none → ∃ bytes lines,
        t.entryAt (optionsAt d) = some (.file bytes) ∧ linesOf? bytes = some lines := by
      intro hnone
      have hext : additions as ≠ [] := by simpa [additions, hnone] using hne
      obtain ⟨bytes, lines, hb, hl⟩ := ih hext
      rw [hstep.entryAt_eq (options_not_mem_touched hnone)] at hb
      exact ⟨bytes, lines, hb, hl⟩
    cases hstep with
    | check => exact hother rfl
    | steady => exact hother rfl
    | revised => exact hother rfl
    | supplanted => exact hother rfl
    | extended hb hl _ => exact ⟨_, _, hb, hl⟩

/-! ### Lists that go through -/

/-- A list goes through where its checks pass, its files are there, and nothing
is in the way of those that it writes. -/
theorem exists_applyAll (hd : t.Holds s.staging d) (hall : ∀ a ∈ as, s.Stages a)
    (hcheck : ∀ f, .check (some f) ∉ as) {lines : List String}
    (hl : t.linesAt? (databaseAt d) = some lines)
    (hw : Steady (edits as) lines ∨ t.entryAt (besideDatabase d) ≠ some .directory)
    {bytes : ByteArray} {options added : List String}
    (hb : t.entryAt (optionsAt d) = some (.file bytes)) (ho : linesOf? bytes = some options)
    (hx : extendAll (additions as) options = .ok added)
    (hbeside : t.entryAt (besideRack d) ≠ some .directory)
    (hrack : t.entryAt (rackAt d) ≠ some .directory) : ∃ u, applyAll as t = (.ok (), u) := by
  induction as generalizing t lines bytes options added with
  | nil => exact ⟨t, rfl⟩
  | cons a as ih =>
    have hstage := hall a List.mem_cons_self
    have hall' : ∀ b ∈ as, s.Stages b := fun b hb => hall b (List.mem_cons_of_mem _ hb)
    have hcheck' : ∀ f, .check (some f) ∉ as := fun f hm => hcheck f (List.mem_cons_of_mem _ hm)
    -- the first step leaves what the others need
    have hgo : ∀ {v lines' bytes' options' added'}, Step s d a t v →
        v.linesAt? (databaseAt d) = some lines' →
        (Steady (edits as) lines' ∨ v.entryAt (besideDatabase d) ≠ some .directory) →
        v.entryAt (optionsAt d) = some (.file bytes') → linesOf? bytes' = some options' →
        extendAll (additions as) options' = .ok added' →
        ∃ u, applyAll (a :: as) t = (.ok (), u) := by
      intro v lines' bytes' options' added' hstep hl' hw' hb' ho' hx'
      have hdir := hstep.same.directory_iff
      obtain ⟨u, hu⟩ := ih (hd.of_same hstep.same) hall' hcheck' hl' hw' hb' ho' hx'
        (mt (hdir _).mp hbeside) (mt (hdir _).mp hrack)
      exact ⟨u, (applyAll_cons_ok (hstep.apply_eq hd hstage) as).trans hu⟩
    cases hstage with
    | check fault =>
      cases fault with
      | some f => exact absurd List.mem_cons_self (hcheck f)
      | none => exact hgo (.check t) hl hw hb ho hx
    | @revise edit hedit =>
      by_cases he : edit lines = lines
      · exact hgo (.steady hl he) hl (hw.imp_left fun hs => (steady_cons.mp hs).2) hb ho hx
      · have hfree : t.entryAt (besideDatabase d) ≠ some .directory :=
          hw.resolve_left fun hs => he (steady_cons.mp hs).1
        have hstep : Step s d (.revise s.databaseFile edit) t _ := .revised hl he hfree
        have ht := not_directory_of_linesAt? hl
        obtain ⟨dbytes, _, hdbytes⟩ := exists_of_linesAt? hl
        -- what was written can be read again, and the way is still free
        have hl' := linesAt?_written hfree ht (hedit.isLine (isLine_of_linesOf? hdbytes))
        have hfree' := mt (hstep.same.directory_iff (besideDatabase d)).mp hfree
        have hb' := (hstep.entryAt_eq (options_not_mem_touched rfl)).trans hb
        exact hgo hstep hl' (.inr hfree') hb' ho hx
    | @extend more hadds =>
      obtain ⟨first, others, hfirst, hothers, rfl⟩ := extendAll_cons_eq_ok.mp hx
      have hstep : Step s d (.extend s.optionsFile more) t _ := .extended hb ho hfirst
      obtain ⟨h₁, h₂⟩ := @database_not_mem_touched d (.extend s.optionsFile more) rfl
      have hl' := (linesAt?_congr (hstep.entryAt_eq h₁)).trans hl
      have hb' := entryAt_appended_target hb first
      have ho' := linesOf?_grown ho (hadds options first hfirst)
      refine hgo hstep hl' (hw.imp_right fun hf => ?_) hb' ho' hothers
      exact mt (hstep.same.directory_iff (besideDatabase d)).mp hf
    | @supplant rows hne =>
      have hstep : Step s d (.supplant s.rackFile rows) t _ := .supplanted hbeside hrack
      obtain ⟨h₁, h₂⟩ := @database_not_mem_touched d (.supplant s.rackFile rows) rfl
      have hl' := (linesAt?_congr (hstep.entryAt_eq h₁)).trans hl
      have hb' := (hstep.entryAt_eq (options_not_mem_touched rfl)).trans hb
      refine hgo hstep hl' (hw.imp_right fun hf => ?_) hb' ho hx
      exact mt (hstep.same.directory_iff (besideDatabase d)).mp hf

end Setup

end NodeBootstrap

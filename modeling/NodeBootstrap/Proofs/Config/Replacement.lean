/-
NodeBootstrap/Proofs/Config/Replacement.lean

A block put in the place of every section of a file.  A section is a marker
line with the longest run behind it of lines that are neither a marker nor a
comment; `Spliced` relates lines to what they become, section by section.  The
scan with its two states computes just that (`spliced_iff`), so a file is left
with its sections replaced and everything else in its place, and the last of
several blocks counts (`setSeedSection_full`).
-/
import NodeBootstrap.Proofs.Config.Edit

namespace NodeBootstrap

open NodeBootstrap.Lines

namespace SeedSection

/-! ### Sections and blocks -/

/-- A line that a section goes on with. -/
structure GoesOn (l : String) : Prop where
  ne_marker : l ≠ "seed_provider:"
  no_comment : ¬ "#".toList <+: l.toList

/-- Lines and what they become with a block in the place of every section. -/
inductive Spliced (block : List String) : List String → List String → Prop
  | nil : Spliced block [] []
  | kept {l : String} {rest after : List String} :
      l ≠ "seed_provider:" → Spliced block rest after → Spliced block (l :: rest) (l :: after)
  | replaced {run rest after : List String} :
      (∀ l ∈ run, GoesOn l) → (∀ l, rest.head? = some l → ¬ GoesOn l) →
        Spliced block rest after →
        Spliced block ("seed_provider:" :: (run ++ rest)) (block ++ after)

/-- A block that can stand in a file for a section. -/
structure CanStand (block : List String) : Prop where
  head : block.head? = some "seed_provider:"
  tail : ∀ l ∈ block.tail, GoesOn l
  isLine : ∀ l ∈ block, IsLine l

variable {block other lines after : List String} {l : String}

theorem isPlain_iff_goesOn : IsPlain l ↔ GoesOn l := by
  have hcomment : isComment l = false ↔ ¬ "#".toList <+: l.toList := by
    rw [Bool.eq_false_iff, isComment, ne_eq, startsWith_iff]
  exact ⟨fun h => ⟨h.ne_marker, hcomment.mp h.not_comment⟩,
    fun h => ⟨h.ne_marker, hcomment.mpr h.no_comment⟩⟩

namespace CanStand

theorem eq_cons (h : CanStand block) : block = marker :: block.tail := by
  obtain ⟨rest, rfl⟩ := List.head?_eq_some_iff.mp h.head
  rfl

theorem ne_nil (h : CanStand block) : block ≠ [] := by
  rw [h.eq_cons]
  exact List.cons_ne_nil _ _

theorem isBlock (h : CanStand block) : IsBlock block :=
  ⟨block.tail, h.eq_cons, fun l hl => isPlain_iff_goesOn.mpr (h.tail l hl)⟩

theorem isEdit (h : CanStand block) : Setup.IsEdit (replace block) :=
  isEdit_replace h.ne_nil h.isLine

end CanStand

/-! ### The scan -/

/-- Where a line does not go on with a section, it makes no difference whether
there is one before it. -/
theorem replaceFrom_of_head (block : List String)
    (h : ∀ l, lines.head? = some l → ¬ GoesOn l) :
    replaceFrom block true lines = replaceFrom block false lines := by
  have hdrop : lines.dropWhile (fun l => decide (IsPlain l)) = lines := by
    cases lines with
    | nil => rfl
    | cons l rest =>
      have hl : ¬ IsPlain l := mt isPlain_iff_goesOn.mp (h l rfl)
      rw [List.dropWhile_cons_of_neg (by simpa using hl)]
  rw [replaceFrom_dropWhile, hdrop]

theorem replace_cons_of_ne (block : List String) (h : l ≠ marker) (rest : List String) :
    replace block (l :: rest) = l :: replace block rest := by
  rw [replace, replaceFrom_cons, replaceLine, if_neg h, follows, decide_eq_false h]
  rfl

theorem replace_marker_cons (block rest : List String) :
    replace block (marker :: rest) = block ++ replaceFrom block true rest := by
  rw [replace, replaceFrom_cons, replaceLine, if_pos rfl, follows, decide_eq_true rfl,
    Bool.true_or]

theorem Spliced.eq_replace (h : Spliced block lines after) : after = replace block lines := by
  induction h with
  | nil => rfl
  | kept hl _ ih => rw [replace_cons_of_ne block hl, ih]
  | @replaced run rest after hrun hrest _ ih =>
    have hplain : ∀ l ∈ run, IsPlain l := fun l hl => isPlain_iff_goesOn.mpr (hrun l hl)
    -- the run goes with the marker, and behind it the scan is as at the start
    show block ++ after = replace block (marker :: (run ++ rest))
    rw [replace_marker_cons, replaceFrom_append, replaceFrom_plain hplain, openAfter_plain hplain,
      if_pos rfl, List.nil_append, replaceFrom_of_head block hrest, ih]
    rfl

theorem spliced_replace (block lines : List String) :
    Spliced block lines (replace block lines) := by
  induction lines using outside.induct with
  | case1 => exact .nil
  | case2 rest ih =>
    let plain := fun l => decide (IsPlain l)
    have hrun : ∀ l ∈ rest.takeWhile plain, GoesOn l := by
      intro l hl
      have hall := List.all_eq_true.mp (List.all_takeWhile (p := plain) (l := rest)) l hl
      exact isPlain_iff_goesOn.mp (of_decide_eq_true hall)
    have hrest : ∀ l, (rest.dropWhile plain).head? = some l → ¬ GoesOn l := by
      intro l hl hgo
      have hhead := List.head?_dropWhile_not plain rest
      rw [hl] at hhead
      exact of_decide_eq_false hhead (isPlain_iff_goesOn.mpr hgo)
    have h := Spliced.replaced hrun hrest ih
    rw [List.takeWhile_append_dropWhile] at h
    rw [replace_marker_cons, replaceFrom_dropWhile]
    exact h
  | case3 line rest hl ih =>
    rw [replace_cons_of_ne block hl]
    exact .kept hl ih

/-- The scan replaces the sections and nothing else. -/
theorem spliced_iff : Spliced block lines after ↔ after = replace block lines :=
  ⟨Spliced.eq_replace, fun h => h ▸ spliced_replace block lines⟩

/-- Of two blocks the second one counts. -/
theorem replace_replace (h : CanStand other) (block lines : List String) :
    replace block (replace other lines) = replace block lines :=
  replaceFrom_replaceFrom h.isBlock block false lines

end SeedSection

/-! ### The run -/

open NodeBootstrap.SeedSection

variable {x : Session} {path : String} {block lines : List String}

/-- What a block does to a file, whatever it held.  A file without a section, or
with that block for each of them, is left alone.  Otherwise the block stands for
the sections, the bytes tell whether there was a change, and of two blocks the
second one counts. -/
theorem setSeedSection_full (hblock : CanStand block)
    (hread : x.tree.readLines path = .ok lines) :
    ("seed_provider:" ∉ lines ∨ Spliced block lines lines →
        ∃ z, (setSeedSection path block).perform x = (.ok false, z) ∧ z.tree = x.tree) ∧
      ∀ changed y, (setSeedSection path block).perform x = (.ok changed, y) →
        (∀ after, y.tree.readLines path = .ok after ↔ Spliced block lines after) ∧
          (changed = true ↔ y.tree.content? path ≠ x.tree.content? path) ∧
          (∀ other, CanStand other → ∀ result,
            (setSeedSection path other).Leaves y path result ↔
              (setSeedSection path other).Leaves x path result) ∧
          ∃ z, (setSeedSection path block).perform y = (.ok false, z) ∧ z.tree = y.tree := by
  have hruns := revises_setSeedSection path block
  refine ⟨fun h => hruns.exists_perform_of_edit_eq hread ?_, fun changed y h => ?_⟩
  · rcases h with hm | hspliced
    · exact replaceFrom_of_not_mem block hm
    · exact hspliced.eq_replace.symm
  have hrevise := hruns.revise_eq h
  refine ⟨fun after => ?_, Tree.changed_iff_of_revise hblock.isEdit hrevise, ?_, ?_⟩
  · rw [Tree.readLines_of_revise hblock.isEdit hread hrevise, spliced_iff, Except.ok.injEq,
      eq_comm]
  · intro other hother
    exact hruns.leaves_iff (revises_setSeedSection path other) hblock.isEdit hother.isEdit
      (replace_replace hblock other) h
  · exact hruns.again hblock.isEdit (replace_replace hblock block) h

/-- Two sections, of which a comment ends the first one and the end of the file
the second one; and a file without one, which ends its lines with CR LF. -/
theorem setSeedSection_full_sample :
    (∃ y, (setSeedSection "cassandra.yaml" ["seed_provider:", "- new"]).perform (Session.start
        (Tree.sole "a: 1\nseed_provider:\n- old\n# end\nb: 2\nseed_provider:")) =
          (.ok true, y) ∧
      y.tree.readLines "cassandra.yaml" =
        .ok ["a: 1", "seed_provider:", "- new", "# end", "b: 2", "seed_provider:", "- new"] ∧
      ∃ z, (setSeedSection "cassandra.yaml" ["seed_provider:", "- new"]).perform y =
        (.ok false, z) ∧ z.tree = y.tree) ∧
    ∃ z, (setSeedSection "cassandra.yaml" ["seed_provider:", "- new"]).perform (Session.start
        (Tree.sole "# seed_provider:\r\na: 1")) = (.ok false, z) ∧
      z.tree = Tree.sole "# seed_provider:\r\na: 1" := by
  have hblock : CanStand ["seed_provider:", "- new"] := by
    refine ⟨rfl, fun l hl => ?_, by decide⟩
    rw [List.mem_singleton.mp hl]
    exact ⟨by decide, by decide⟩
  constructor
  · obtain ⟨y, hy⟩ := (revises_setSeedSection _ _).exists_perform_sole hblock.isEdit
      "a: 1\nseed_provider:\n- old\n# end\nb: 2\nseed_provider:" (by decide)
    obtain ⟨hlines, -, -, hagain⟩ :=
      (setSeedSection_full hblock (Tree.readLines_sole _)).2 true y hy
    exact ⟨y, hy, (hlines _).mpr (spliced_iff.mpr (by decide)), hagain⟩
  · exact (setSeedSection_full hblock (Tree.readLines_sole _)).1 (.inl (by decide))

end NodeBootstrap

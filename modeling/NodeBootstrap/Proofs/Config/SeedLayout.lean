/-
NodeBootstrap/Proofs/Config/SeedLayout.lean

How the seed provider's block looks line by line, whatever names it holds.
Behind the marker every line is empty, starts with a dash or is indented, so
that none of them ends a section, starts one or declares a managed key; all are
printable ASCII, so no reader finds more lines in them; and with LF between
them they are the text that they were cut from (`block_layout`).
-/
import NodeBootstrap.Proofs.Config.Assignment
import NodeBootstrap.Proofs.Config.Replacement

namespace NodeBootstrap.SeedSection

open NodeBootstrap.Lines

variable {l : String}

theorem starts_of_hung {line : List Char} (h : Hung line) :
    String.ofList line = "" ∨ "- ".toList <+: (String.ofList line).toList ∨
      "  ".toList <+: (String.ofList line).toList := by
  rw [@String.toList_ofList line]
  rcases h with rfl | hspaces | hdash
  · exact .inl rfl
  · exact .inr (.inr hspaces)
  · exact .inr (.inl hdash)

/-- A block of a cluster can stand in a file for a section. -/
theorem canStand_block (clusterNamespace cluster : String) :
    CanStand (block clusterNamespace cluster) := by
  obtain ⟨tail, htail, hplain⟩ := isBlock_block clusterNamespace cluster
  refine ⟨by rw [htail]; rfl, ?_, isLine_of_mem_block clusterNamespace cluster⟩
  rw [htail, List.tail_cons]
  exact fun l hl => isPlain_iff_goesOn.mp (hplain l hl)

/-- The characters of a block's lines are those of its text, but for LF. -/
theorem isPrintable_of_mem_block {clusterNamespace cluster : String}
    (h : l ∈ block clusterNamespace cluster) :
    ∀ c ∈ l.toList, Yaml.isPrintable c = true := by
  intro c hc
  have hwide := isWideEnd_of_mem_ofRendered h c hc
  have hjoined : c ∈ (joined (block clusterNamespace cluster)).toList := by
    rw [toList_joined]
    exact List.mem_flatMap.mpr ⟨l, h, List.mem_append_left _ hc⟩
  rw [joined_block, blockText_eq, List.mem_append] at hjoined
  have hwritten : Yaml.Flow.isWritten c = true := by
    rcases hjoined with hbody | hlf
    · exact (written_blockBody clusterNamespace cluster).chars c hbody
    · rw [List.mem_singleton.mp hlf]
      rfl
  rw [Yaml.Flow.isWritten, Bool.or_eq_true, beq_iff_eq] at hwritten
  rcases hwritten with hprintable | rfl
  · exact hprintable
  · exact absurd hwide (by decide)

/-- What a block looks like when it is put into a file. -/
theorem block_layout (clusterNamespace cluster : String) :
    (∃ tail, block clusterNamespace cluster = "seed_provider:" :: tail ∧
      ∀ l ∈ tail, (l = "" ∨ "- ".toList <+: l.toList ∨ "  ".toList <+: l.toList) ∧ GoesOn l ∧
        ∀ key ∈ Setup.keys, ¬ Property.Declares key l) ∧
      (∀ l ∈ block clusterNamespace cluster, ∀ c ∈ l.toList,
        ' ' ≤ c ∧ c ≤ '~' ∧ isWideEnd c = false) ∧
      "\n".intercalate (block clusterNamespace cluster) ++ "\n" =
        String.ofList (blockText clusterNamespace cluster) := by
  have hstand := canStand_block clusterNamespace cluster
  have hgoes := hstand.tail
  obtain ⟨tail, htail, hhung⟩ := block_eq_cons clusterNamespace cluster
  rw [htail, List.tail_cons] at hgoes
  refine ⟨⟨tail, htail, fun l hl => ?_⟩, fun l hl c hc => ?_, ?_⟩
  · obtain ⟨line, rfl, hline⟩ := hhung l hl
    have hmem : String.ofList line ∈ block clusterNamespace cluster :=
      htail ▸ List.mem_cons_of_mem marker hl
    refine ⟨starts_of_hung hline, hgoes _ hl, fun key hkey hd => ?_⟩
    have hset := Setup.setsNone_block clusterNamespace cluster key hkey _ hmem
    rw [Property.isSetBy_eq, decide_eq_false_iff_not] at hset
    exact hset hd
  · have hprintable := isPrintable_of_mem_block hl c hc
    rw [Yaml.isPrintable, Bool.and_eq_true, decide_eq_true_eq, decide_eq_true_eq] at hprintable
    exact ⟨hprintable.1, hprintable.2, isWideEnd_of_mem_ofRendered hl c hc⟩
  · rw [intercalate_append_lf hstand.ne_nil, ← joined_block, String.ofList_toList]

end NodeBootstrap.SeedSection

/-
NodeBootstrap/Proofs/Config/SeedBlock.lean

The block that points the seed provider at a cluster, whatever the names of
the cluster and its namespace hold: a marker line, and behind it lines that are
empty, indented or start with a dash (`block_eq_cons`).  So it is one
section, and none of its lines is a comment or sets a property.  Its lines are
those of its text, which they give back (`joined_block`).
-/
import NodeBootstrap.Proofs.Config.SeedSection
import NodeBootstrap.Proofs.Text.Lines
import NodeBootstrap.Proofs.Text.Wanted
import NodeBootstrap.Proofs.Yaml.Flow

namespace NodeBootstrap

namespace Lines

variable {ends : Char → Bool} {cs : List Char}

/-! ### Texts with LF as their only line end -/

/-- Lines that were cut at LF only give the text back. -/
theorem flatMap_cut (hlf : ends '\n' = true) (h : ∀ c ∈ cs, ends c = true → c = '\n')
    (hcr : '\r' ∉ cs) :
    (cut ends (cs ++ ['\n'])).flatMap (· ++ ['\n']) = cs ++ ['\n'] := by
  induction cs with
  | nil => simp [cut_lf_cons hlf, cut]
  | cons c cs ih =>
    have hrest := ih (fun d hd => h d (List.mem_cons_of_mem _ hd))
      fun hm => hcr (List.mem_cons_of_mem _ hm)
    rw [List.cons_append]
    cases hc : ends c with
    | true =>
      obtain rfl := h c List.mem_cons_self hc
      rw [cut_lf_cons hlf, List.flatMap_cons, hrest]
      rfl
    | false =>
      have hr : c ≠ '\r' := fun e => hcr (e ▸ List.mem_cons_self)
      rw [cut_cons_of_not_end hc hr]
      -- the character goes to the front of the first line that is left
      rcases e : cut ends (cs ++ ['\n']) with - | ⟨line, lines⟩
      · exact absurd e (cut_ne_nil (by simp))
      · rw [e] at hrest
        rw [← hrest, List.flatMap_cons, List.flatMap_cons]
        rfl

/-- A line as they stand behind the first one of an indented text: empty,
indented by two columns or with a dash and a space. -/
def Hung (line : List Char) : Prop := line = [] ∨ [' ', ' '] <+: line ∨ ['-', ' '] <+: line

/-- The first line starts with the word that the text starts with. -/
theorem prefix_head_cut (hcr : ends '\r' = true) {word : List Char}
    (hw : ∀ c ∈ word, ends c = false) (rest : List Char) :
    ∀ line, (cut ends (word ++ rest)).head? = some line → word <+: line := by
  induction word with
  | nil => exact fun line _ => List.nil_prefix
  | cons c word ih =>
    have hc : ends c = false := hw c List.mem_cons_self
    have hr : c ≠ '\r' := by
      rintro rfl
      rw [hcr] at hc
      contradiction
    have hrest := ih fun d hd => hw d (List.mem_cons_of_mem _ hd)
    rw [List.cons_append, cut_cons_of_not_end hc hr]
    intro line hl
    rcases e : cut ends (word ++ rest) with - | ⟨first, lines⟩
    · -- there is nothing behind the character
      have hnil : word ++ rest = [] := Classical.byContradiction fun hne => cut_ne_nil hne e
      rw [e] at hl
      obtain rfl := Option.some.inj hl
      obtain rfl := (List.append_eq_nil_iff.mp hnil).1
      exact List.prefix_refl [c]
    · rw [e] at hl hrest
      obtain rfl := Option.some.inj hl
      exact List.cons_prefix_cons.mpr ⟨rfl, hrest first rfl⟩

/-- The first line hangs as the text does. -/
theorem hung_head_cut (hlf : ends '\n' = true) (hcr : ends '\r' = true)
    (hw : ∀ c ∈ [' ', '-'], ends c = false) (hs : Yaml.Flow.startsHung cs = true) :
    ∀ line, (cut ends cs).head? = some line → Hung line := by
  have hspace : ends ' ' = false := hw ' ' (by simp)
  have hdash : ends '-' = false := hw '-' (by simp)
  intro line hl
  rcases Yaml.Flow.startsHung_iff.mp hs with ⟨rest, rfl⟩ | ⟨rest, rfl⟩ | ⟨rest, rfl⟩
  · rw [List.singleton_append, cut_lf_cons hlf] at hl
    exact .inl (Option.some.inj hl).symm
  · exact .inr (.inl (prefix_head_cut hcr (by simp [hspace]) rest line hl))
  · exact .inr (.inr (prefix_head_cut hcr (by simp [hspace, hdash]) rest line hl))

/-- Of a text that hangs, all lines but the first do. -/
theorem hung_of_mem_tail_cut (hlf : ends '\n' = true) (hcr : ends '\r' = true)
    (hw : ∀ c ∈ [' ', '-'], ends c = false) (h : ∀ c ∈ cs, ends c = true → c = '\n')
    (hh : Yaml.Flow.hangs cs = true) :
    ∀ line ∈ (cut ends (cs ++ ['\n'])).tail, Hung line := by
  induction cs with
  | nil => simp [cut_lf_cons hlf, cut]
  | cons c cs ih =>
    rw [Yaml.Flow.hangs, Bool.and_eq_true] at hh
    have hrest := ih (fun d hd => h d (List.mem_cons_of_mem _ hd)) hh.2
    rw [List.cons_append]
    cases hc : ends c with
    | true =>
      obtain rfl := h c List.mem_cons_self hc
      -- the line behind the LF becomes the first one behind the head
      have hs : Yaml.Flow.startsHung cs = true := by simpa using hh.1
      have hfirst := hung_head_cut hlf hcr hw (Yaml.Flow.Written.startsHung_append hs ['\n'])
      rw [cut_lf_cons hlf, List.tail_cons]
      rcases e : cut ends (cs ++ ['\n']) with - | ⟨line, lines⟩
      · simp
      · rw [e] at hrest hfirst
        intro l hl
        rcases List.mem_cons.mp hl with rfl | hl
        · exact hfirst l rfl
        · exact hrest l hl
    | false =>
      -- the character belongs to the first line, of which nothing is said
      have hr : c ≠ '\r' := by
        rintro rfl
        rw [hcr] at hc
        contradiction
      rw [cut_cons_of_not_end hc hr]
      rcases e : cut ends (cs ++ ['\n']) with - | ⟨line, lines⟩
      · simp
      · rw [e] at hrest
        exact hrest

/-- A line does not start with a word that none starts with there. -/
theorem Hung.startsWith_eq_false {line : List Char} (h : Hung line) {head : String} {c : Char}
    (hc : head.toList.head? = some c) (h₁ : c ≠ ' ') (h₂ : c ≠ '-') :
    startsWith head (String.ofList line) = false := by
  rw [Bool.eq_false_iff]
  intro hs
  rw [startsWith_iff, String.toList_ofList] at hs
  obtain ⟨rest, rfl⟩ := hs
  have hhead : (head.toList ++ rest).head? = some c := by
    rw [List.head?_append, hc]
    rfl
  rcases h with e | ⟨more, e⟩ | ⟨more, e⟩
  · rw [e] at hhead
    contradiction
  · rw [← e] at hhead
    exact h₁ (Option.some.inj hhead).symm
  · rw [← e] at hhead
    exact h₂ (Option.some.inj hhead).symm

end Lines

namespace SeedSection

open NodeBootstrap.Lines

/-! ### The text of a block -/

/-- The text of a block without the line end at its end. -/
def blockBody (clusterNamespace cluster : String) : List Char :=
  blockHead.toList ++ Yaml.Flow.mapping parameterColumn
    [("clusterName", cluster), ("namespace", clusterNamespace)]

variable (clusterNamespace cluster : String)

theorem blockText_eq :
    blockText clusterNamespace cluster = blockBody clusterNamespace cluster ++ ['\n'] :=
  rfl

theorem toList_blockHead :
    blockHead.toList = marker.toList ++ "\n- class_name: ".toList ++ providerClass.toList
      ++ "\n  parameters:\n  - ".toList := by
  simp only [blockHead, String.toList_append]

theorem written_blockHead : Yaml.Flow.Written blockHead.toList := by
  have hclass : Yaml.Flow.Written providerClass.toList :=
    Yaml.Flow.Written.of_printable (by decide +kernel)
  have hmarker : Yaml.Flow.Written marker.toList := Yaml.Flow.Written.of_printable (by decide)
  have hname : Yaml.Flow.Written "\n- class_name: ".toList := ⟨by decide, by decide⟩
  have hparameters : Yaml.Flow.Written "\n  parameters:\n  - ".toList := ⟨by decide, by decide⟩
  rw [toList_blockHead]
  exact ((hmarker.append hname).append hclass).append hparameters

theorem written_blockBody : Yaml.Flow.Written (blockBody clusterNamespace cluster) := by
  refine written_blockHead.append (Yaml.Flow.written_mapping ?_ _)
  intro e he
  rcases List.mem_cons.mp he with rfl | he
  · exact (by decide : ∀ c ∈ "clusterName".toList, Yaml.isPrintable c = true)
  · rw [List.mem_singleton.mp he]
    exact (by decide : ∀ c ∈ "namespace".toList, Yaml.isPrintable c = true)

/-- Of the line ends, written text holds LF only. -/
theorem eq_lf_of_isWritten {c : Char} (h : Yaml.Flow.isWritten c = true)
    (he : isWideEnd c = true) : c = '\n' := by
  simp only [isWideEnd, isNarrowEnd, Bool.or_eq_true, beq_iff_eq] at he
  rcases he with ((((((((rfl | rfl) | rfl) | rfl) | rfl) | rfl) | rfl) | rfl) | rfl) | rfl
  · rfl
  all_goals exact absurd h (by decide)

theorem eq_lf_of_mem_blockBody :
    ∀ c ∈ blockBody clusterNamespace cluster, isWideEnd c = true → c = '\n' :=
  fun c hc => eq_lf_of_isWritten ((written_blockBody clusterNamespace cluster).chars c hc)

/-! ### The lines of a block -/

/-- The lines of a block give its text. -/
theorem joined_block :
    (joined (block clusterNamespace cluster)).toList = blockText clusterNamespace cluster := by
  have hcr : '\r' ∉ blockBody clusterNamespace cluster := fun hm =>
    absurd (eq_lf_of_mem_blockBody clusterNamespace cluster '\r' hm rfl) (by decide)
  rw [toList_joined, block, ofRendered, List.flatMap_map, blockText_eq]
  simp only [String.toList_ofList]
  exact flatMap_cut rfl (eq_lf_of_mem_blockBody clusterNamespace cluster) hcr

theorem block_eq_cons :
    ∃ tail, block clusterNamespace cluster = marker :: tail ∧
      ∀ l ∈ tail, ∃ line, l = String.ofList line ∧ Hung line := by
  have hhung := hung_of_mem_tail_cut rfl rfl (by decide)
    (eq_lf_of_mem_blockBody clusterNamespace cluster)
    (written_blockBody clusterNamespace cluster).hangs
  -- the head holds the marker and then LF, so its first line is the marker
  have hcut : ∃ rest,
      cut isWideEnd (blockText clusterNamespace cluster) = marker.toList :: rest := by
    have htext : ∃ rest, blockText clusterNamespace cluster = marker.toList ++ '\n' :: rest := by
      rw [blockText, toList_blockHead]
      simp only [List.append_assoc]
      exact ⟨_, rfl⟩
    obtain ⟨rest, hrest⟩ := htext
    rw [hrest]
    exact ⟨_, cut_append_lf rfl rfl marker.toList rest (by decide)⟩
  obtain ⟨rest, hrest⟩ := hcut
  refine ⟨rest.map String.ofList, ?_, ?_⟩
  · rw [block, ofRendered, hrest]
    rfl
  · rw [← blockText_eq, hrest, List.tail_cons] at hhung
    intro l hl
    obtain ⟨line, hline, rfl⟩ := List.mem_map.mp hl
    exact ⟨line, rfl, hhung line hline⟩

/-- A block is one section. -/
theorem isBlock_block : IsBlock (block clusterNamespace cluster) := by
  obtain ⟨tail, htail, hhung⟩ := block_eq_cons clusterNamespace cluster
  refine ⟨tail, htail, ?_⟩
  intro l hl
  obtain ⟨line, rfl, hline⟩ := hhung l hl
  have hmarker : startsWith marker (String.ofList line) = false :=
    hline.startsWith_eq_false rfl (by decide) (by decide)
  refine ⟨?_, hline.startsWith_eq_false rfl (by decide) (by decide)⟩
  intro e
  rw [e, startsWith_iff.mpr (List.prefix_refl _)] at hmarker
  cases hmarker

/-- No line of a block starts with a word that neither the marker nor a hung
line starts with. -/
theorem startsWith_block {head : String} {c : Char} (hc : head.toList.head? = some c)
    (h₁ : c ≠ ' ') (h₂ : c ≠ '-') (hm : startsWith head marker = false) :
    ∀ l ∈ block clusterNamespace cluster, startsWith head l = false := by
  obtain ⟨tail, htail, hhung⟩ := block_eq_cons clusterNamespace cluster
  intro l hl
  rw [htail] at hl
  rcases List.mem_cons.mp hl with rfl | hl
  · exact hm
  · obtain ⟨line, rfl, hline⟩ := hhung l hl
    exact hline.startsWith_eq_false hc h₁ h₂

theorem not_comment_of_mem_block :
    ∀ l ∈ block clusterNamespace cluster, isComment l = false := by
  have hc : "#".toList.head? = some '#' := rfl
  have hm : startsWith "#" marker = false := by decide
  exact startsWith_block clusterNamespace cluster hc (by decide) (by decide) hm

/-- The lines of a block can stand in a file. -/
theorem isLine_of_mem_block : ∀ l ∈ block clusterNamespace cluster, IsLine l :=
  fun _ hl => isLine_of_mem_ofRendered hl

end SeedSection

end NodeBootstrap

/-
NodeBootstrap/Proofs/Config/SeedTokens.lean

The tokens of a block (`tokens_blockBody`).  They are the same for all names of
the cluster and its namespace, but for the two texts and whether these stand
without quotes.
-/
import NodeBootstrap.Proofs.Config.SeedBlock
import NodeBootstrap.Proofs.Yaml.Scanner

namespace NodeBootstrap

namespace SeedSection

open NodeBootstrap.Yaml NodeBootstrap.Yaml.Scanner

/-! ### The head -/

theorem isKey_marker : IsKey "seed_provider".toList := ⟨by decide, by decide, by decide⟩

theorem isKey_className : IsKey "class_name".toList := ⟨by decide, by decide, by decide⟩

theorem isKey_parameters : IsKey "parameters".toList := ⟨by decide, by decide, by decide⟩

theorem isKey_clusterName : IsKey "clusterName".toList := ⟨by decide, by decide, by decide⟩

theorem isKey_namespace : IsKey "namespace".toList := ⟨by decide, by decide, by decide⟩

/-- The tokens of the head with the start of the parameters, latest first. -/
def headTokens : List Token :=
  [.flowMappingStart, .blockEntry, .value, .scalar "parameters".toList true, .key,
   .scalar providerClass.toList true, .value, .scalar "class_name".toList true, .key,
   .blockMappingStart, .blockEntry, .value, .scalar "seed_provider".toList true, .key,
   .blockMappingStart]

theorem blockHead_eq (left : List Char) :
    blockHead.toList ++ left =
      "seed_provider".toList ++ ':' :: '\n' :: '-' :: ' ' ::
        ("class_name".toList ++ ':' :: ' ' :: (providerClass.toList ++ '\n' :: ' ' :: ' ' ::
          ("parameters".toList ++ ':' :: '\n' :: ' ' :: ' ' :: '-' :: ' ' :: left))) := by
  rw [toList_blockHead]
  simp only [List.append_assoc]
  rfl

/-- The class stands at the end of its line, and the next line is not further
in than its mapping. -/
theorem scalar_providerClass (left : List Char) :
    ∃ rest, providerClass.toList ++ ['\n', ' ', ' '] ++ 'p' :: left = 'c' :: rest ∧
      Plain.scalar false 3 ('c' :: rest) = ⟨providerClass.toList, 'p' :: left, true⟩ := by
  have hword : ∀ c ∈ providerClass.toList, Plain.InWord c := by decide +kernel
  have hscalar : Plain.scalar false 3
      (providerClass.toList ++ '\n' :: ' ' :: ' ' :: 'p' :: left) =
        ⟨providerClass.toList, 'p' :: left, true⟩ :=
    Plain.scalar_word hword (by decide) rfl rfl
  obtain ⟨w, hw⟩ : ∃ w, providerClass.toList = 'c' :: w := ⟨_, rfl⟩
  refine ⟨w ++ '\n' :: ' ' :: ' ' :: 'p' :: left, ?_, ?_⟩
  · rw [hw, List.append_assoc]
    rfl
  · rw [← List.cons_append, ← hw]
    exact hscalar

/-- The marker, up to the dash of the only provider. -/
theorem run_marker (left : List Char) :
    (start ("seed_provider".toList ++ ':' :: '\n' :: '-' :: ' ' :: left)).run = run
      { left := ' ' :: left, place := ⟨1, 1, 16⟩, indent := 0, indents := [-1], candidate := none
        outer := [], mayStartKey := true
        tokens := [.blockEntry, .value, .scalar "seed_provider".toList true, .key,
          .blockMappingStart] } := by
  refine Eq.trans (run_blockKey [] isKey_marker rfl rfl (by simp [IsGap]) rfl
    (by exact (by decide : (-1 : Int) ≤ 0)) rfl rfl) ?_
  exact run_dash ['\n'] rfl rfl (by simp [IsGap]) rfl rfl rfl rfl

/-- The class of the provider, with its key. -/
theorem run_class (left : List Char) (tokens : List Token) :
    run
      { left := ' ' :: ("class_name".toList ++ ':' :: ' ' :: (providerClass.toList ++
          '\n' :: ' ' :: ' ' :: 'p' :: left))
        place := ⟨1, 1, 16⟩, indent := 0, indents := [-1], candidate := none, outer := []
        mayStartKey := true, tokens } =
    run
      { left := 'p' :: left, place := ⟨2, 2, 100⟩, indent := 2, indents := [0, -1]
        candidate := none, outer := [], mayStartKey := true
        tokens := .scalar providerClass.toList true :: .value :: .scalar "class_name".toList true
          :: .key :: .blockMappingStart :: tokens } := by
  refine Eq.trans (run_blockKey [' '] isKey_className rfl rfl (by simp [IsGap]) rfl
    (by exact (by decide : (0 : Int) ≤ 2)) rfl rfl) ?_
  obtain ⟨rest, hclass, hscalar⟩ := scalar_providerClass left
  refine Eq.trans (run_plain [' '] (by rw [List.append_assoc]; rfl) (by simp [IsGap]) hclass
    (by simp) ⟨rfl, by decide, by decide⟩ rfl (.inr (by decide))
    (.inr (by exact (by decide : (2 : Int) ≤ 14))) rfl (by simp [Idle, behindKey]) hscalar) ?_
  rfl

/-- The key of the parameters, up to their first brace. -/
theorem run_parameters (left : List Char) (tokens : List Token) :
    run
      { left := "parameters".toList ++ ':' :: '\n' :: ' ' :: ' ' :: '-' :: ' ' :: '\x7b' :: left
        place := ⟨2, 2, 100⟩, indent := 2, indents := [0, -1], candidate := none, outer := []
        mayStartKey := true, tokens } =
    run
      { left, place := ⟨3, 5, 117⟩, indent := 2, indents := [0, -1], candidate := none
        outer := [some ⟨⟨3, 4, 116⟩, tokens.length + 4, false⟩], mayStartKey := true
        tokens := .flowMappingStart :: .blockEntry :: .value :: .scalar "parameters".toList true
          :: .key :: tokens } := by
  refine Eq.trans (run_blockKey [] isKey_parameters rfl rfl (by simp [IsGap]) rfl
    (Int.le_refl 2) rfl rfl) ?_
  refine Eq.trans (run_dash ['\n', ' ', ' '] rfl rfl (by simp [IsGap]) rfl rfl rfl rfl) ?_
  exact run_open [' '] rfl (by simp [IsGap]) rfl (by exact (by decide : (2 : Int) < 4)) rfl rfl

theorem run_head (left : List Char) :
    (start (blockHead.toList ++ '\x7b' :: left)).run = run
      { left, place := ⟨3, 5, 117⟩, indent := 2, indents := [0, -1], candidate := none
        outer := [some ⟨⟨3, 4, 116⟩, 14, false⟩], mayStartKey := true, tokens := headTokens } := by
  rw [blockHead_eq, run_marker]
  refine Eq.trans (run_class _ _) ?_
  exact run_parameters left _

/-! ### The parameters -/

/-- The tokens behind the start of the parameters. -/
def parameterTokens (cluster clusterNamespace : List Char) (plain plain' : Bool) : List Token :=
  entryTokens "clusterName".toList cluster plain ++
    .flowEntry :: (entryTokens "namespace".toList clusterNamespace plain' ++
      [.flowMappingEnd, .blockEnd, .blockEnd, .streamEnd])

theorem isGap_entryGap (column : Nat) : IsGap (Flow.entryGap column) := by
  rw [Flow.entryGap]
  split
  · exact (by simp [Flow.indentation, IsGap, Flow.entryIndent] :
      IsGap ('\n' :: Flow.indentation Flow.entryIndent))
  · simp [IsGap]

/-- The parameters as they are written: two entries with a gap between them. -/
theorem mapping_parameters (cluster clusterNamespace : String) :
    ∃ m n gap, IsGap gap ∧
      Flow.mapping parameterColumn [("clusterName", cluster), ("namespace", clusterNamespace)] =
        '\x7b' :: ("clusterName".toList ++ ':' :: ' ' :: (Flow.scalar m cluster.toList ++
          ',' :: (gap ++ ("namespace".toList ++ ':' :: ' ' ::
            (Flow.scalar n clusterNamespace.toList ++ ['\x7d']))))) := by
  -- the columns that the two texts start in and the gap between the entries
  let head := "clusterName".toList ++ [':', ' ']
  let entry := head ++ Flow.scalar (parameterColumn + 1 + head.length) cluster.toList ++ [',']
  let gap := Flow.entryGap (Flow.columnAfter (parameterColumn + 1) entry)
  let column := Flow.columnAfter (parameterColumn + 1) (entry ++ gap)
  refine ⟨parameterColumn + 1 + head.length, column + ("namespace".toList ++ [':', ' ']).length,
    gap, isGap_entryGap _, ?_⟩
  simp only [Flow.mapping, Flow.entries, head, entry, gap, column, List.append_assoc,
    List.cons_append, List.nil_append]

/-- The last entry is read, and the end. -/
theorem run_lastEntry {s : Scanner} {key text gap : List Char} {n : Nat} (hkey : IsKey key)
    (hleft : s.left = ',' :: (gap ++ (key ++ ':' :: ' ' :: (Flow.scalar n text ++ ['\x7d']))))
    (hgap : IsGap gap) (hindent : s.indent = 2) (hindents : s.indents = [0, -1])
    (houter : s.outer.length = 1) (ho : Idle s.outer) (hk : s.candidate = none) :
    ∃ plain, ReadsAsText text plain ∧
      s.run = s.tokens.reverse ++ .flowEntry :: (entryTokens key text plain ++
        [.flowMappingEnd, .blockEnd, .blockEnd, .streamEnd]) := by
  have hflow : s.inFlow = true := inFlow_iff.mpr (by rw [houter]; decide)
  have hlen : (s.outer.map (alive s.place)).length = s.outer.length := List.length_map _
  obtain ⟨plain, p, outer, hplain, hlen', ho', hentry⟩ := @run_entry
    (s.behindSign [] _ ',' .flowEntry none (s.outer.map (alive s.place)) true) _ _ gap _ _ _ hkey
    (.inr rfl) rfl hgap (inFlow_of_length hflow hlen rfl) rfl rfl (ho.alive s.place)
  -- one candidate is left around the mapping, and nothing requires it
  obtain ⟨o, rfl⟩ := List.length_eq_one_iff.mp ((hlen'.trans hlen).trans houter)
  have hkc : ∀ k ∈ alive p o, k.required = false := fun k hmem =>
    ho' o List.mem_cons_self k (Option.filter_eq_some_iff.mp hmem).1
  refine ⟨plain, hplain, ?_⟩
  rw [run_comma hleft hflow hk ho, hentry, run_close rfl rfl ho' rfl, run_end rfl rfl hkc]
  simp only [behindSign, hindent, hindents]
  simp [closeTo, entryTokens]

/-- The parameters are read, and the end. -/
theorem run_parameterEntries {s : Scanner} {cluster clusterNamespace gap : List Char} {m n : Nat}
    (hleft : s.left = "clusterName".toList ++ ':' :: ' ' :: (Flow.scalar m cluster ++
      ',' :: (gap ++ ("namespace".toList ++ ':' :: ' ' ::
        (Flow.scalar n clusterNamespace ++ ['\x7d'])))))
    (hgap : IsGap gap) (hindent : s.indent = 2) (hindents : s.indents = [0, -1])
    (houter : s.outer.length = 1) (ho : Idle s.outer) (hk : s.candidate = none)
    (hstart : s.mayStartKey = true) :
    ∃ plain plain', ReadsAsText cluster plain ∧ ReadsAsText clusterNamespace plain' ∧
      s.run = s.tokens.reverse ++ parameterTokens cluster clusterNamespace plain plain' := by
  have hflow : s.inFlow = true := inFlow_iff.mpr (by rw [houter]; decide)
  obtain ⟨plain, p, outer, hplain, hlen, ho', hfirst⟩ :=
    run_entry [] isKey_clusterName (.inl rfl) hleft (by simp [IsGap]) hflow hstart hk ho
  obtain ⟨plain', hplain', hlast⟩ := @run_lastEntry
    ⟨_, p, s.indent, s.indents, none, outer, false, .scalar cluster plain :: .value ::
      .scalar "clusterName".toList true :: .key :: s.tokens⟩ _ _ gap n isKey_namespace rfl hgap
    hindent hindents (hlen.trans houter) ho' rfl
  refine ⟨plain, plain', hplain, hplain', ?_⟩
  rw [hfirst, hlast]
  simp [parameterTokens, entryTokens]

/-- The tokens of a block. -/
theorem tokens_blockBody (clusterNamespace cluster : String) :
    ∃ plain plain', ReadsAsText cluster.toList plain ∧
      ReadsAsText clusterNamespace.toList plain' ∧
      Yaml.tokens (blockBody clusterNamespace cluster) = headTokens.reverse ++
        parameterTokens cluster.toList clusterNamespace.toList plain plain' := by
  have hallowed : (blockBody clusterNamespace cluster).all isAllowed = true :=
    List.all_eq_true.mpr fun c hc =>
      Flow.isAllowed_of_isWritten ((written_blockBody clusterNamespace cluster).chars c hc)
  obtain ⟨m, n, gap, hgap, hmapping⟩ := mapping_parameters cluster clusterNamespace
  rw [Yaml.tokens, if_pos hallowed, blockBody, hmapping, run_head]
  exact run_parameterEntries rfl hgap rfl rfl rfl (by simp [Idle]) rfl rfl

end SeedSection

end NodeBootstrap

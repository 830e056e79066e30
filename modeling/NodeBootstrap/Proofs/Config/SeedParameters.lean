/-
NodeBootstrap/Proofs/Config/SeedParameters.lean

What is written for the seed provider is what it reads
(`loadParameters_of_writeLines`): the names of the cluster and its namespace,
as they are, whatever they hold.
-/
import NodeBootstrap.Proofs.Config.SeedTokens
import NodeBootstrap.Proofs.Session.Action
import NodeBootstrap.Proofs.Tree.Path
import NodeBootstrap.Proofs.Yaml.Composer
import NodeBootstrap.Proofs.Yaml.Document
import NodeBootstrap.Seeds.Parameters

namespace NodeBootstrap

namespace SeedSection

open NodeBootstrap.Yaml NodeBootstrap.Yaml.Composer

/-! ### The document of a block -/

/-- The graph of a block. -/
def blockGraph (cluster clusterNamespace : List Char) : Graph :=
  { nodes :=
      [.scalar .text "seed_provider".toList, .scalar .text "class_name".toList,
       .scalar .text providerClass.toList, .scalar .text "parameters".toList,
       .scalar .text "clusterName".toList, .scalar .text cluster,
       .scalar .text "namespace".toList, .scalar .text clusterNamespace,
       .mapping .map [(.node 4, .node 5), (.node 6, .node 7)], .sequence .list [.node 8],
       .mapping .map [(.node 1, .node 2), (.node 3, .node 9)], .sequence .list [.node 10],
       .mapping .map [(.node 0, .node 11)]]
    root := some (.node 12) }

variable {cluster clusterNamespace : List Char} {plain plain' : Bool}

/-- None of the block's own words is typed. -/
theorem readsAsText_word : ∀ word ∈ ["seed_provider", "class_name", providerClass, "parameters",
    "clusterName", "namespace"], ReadsAsText word.toList true := by
  have hall : ∀ word ∈ ["seed_provider", "class_name", providerClass, "parameters",
      "clusterName", "namespace"], Tag.ofPlain word.toList = .text := by decide +kernel
  exact fun word hw _ => hall word hw

theorem compose_block (h : ReadsAsText cluster plain) (h' : ReadsAsText clusterNamespace plain') :
    compose (headTokens.reverse ++ parameterTokens cluster clusterNamespace plain plain') =
      .ok (blockGraph cluster clusterNamespace) := by
  have hword := readsAsText_word
  simp only [List.forall_mem_cons, List.not_mem_nil, false_imp_iff, implies_true, and_true] at hword
  obtain ⟨hmarker, hname, hclass, hparameters, hcluster, hnamespace⟩ := hword
  -- where the composer is when it comes to each collection
  let root := Composer.start
    (headTokens.reverse ++ parameterTokens cluster clusterNamespace plain plain')
  let providers := (root.behind (root.tokens.drop 1)).behindText "seed_provider".toList
    (root.tokens.drop 4)
  let provider := providers.behind (root.tokens.drop 5)
  let lists := (((provider.behind (root.tokens.drop 6)).behindText "class_name".toList
    (root.tokens.drop 9)).behindText providerClass.toList (root.tokens.drop 10)).behindText
      "parameters".toList (root.tokens.drop 13)
  -- from the inside out, each with what it leaves behind
  have hflow := @node_flowMapping (lists.behind (root.tokens.drop 14)) 91 true false cluster plain
    [.blockEnd, .blockEnd, .streamEnd] _ _ clusterNamespace plain' hcluster hnamespace h h' rfl
  have hlists := @node_indentless lists 102 true _ _ _ rfl
    ((@indentlessItems_item _ 101 _ [] _ _ rfl rfl hflow).trans (indentlessItems_end rfl))
  have hprovider := @node_blockMapping provider 107 false _ _ _ rfl
    ((@blockEntries_entry _ 103 _ [] _ _ _ hname rfl rfl (node_text hclass rfl)).trans
      ((@blockEntries_entry _ 102 _ _ _ _ _ hparameters rfl rfl hlists).trans
        (blockEntries_end rfl)))
  have hproviders := @node_indentless providers 110 true _ _ _ rfl
    ((@indentlessItems_item _ 109 _ [] _ _ rfl rfl hprovider).trans (indentlessItems_end rfl))
  have hroot := @node_blockMapping root 114 false _ _ _ rfl
    ((@blockEntries_entry _ 110 _ [] _ _ _ hmarker rfl rfl hproviders).trans
      (blockEntries_end rfl))
  show (do alone (← node 116 true false root)) = _
  rw [hroot]
  rfl

/-- All scalars of a block are texts. -/
theorem ofTexts_blockGraph : (blockGraph cluster clusterNamespace).OfTexts := by
  simp [Graph.OfTexts, Graph.Fits, Graph.Has, Graph.IsText, Graph.node?, blockGraph, -Prod.forall]

variable (clusterNamespace cluster : String)

/-- The parameters that a block gives. -/
def parametersOf : Parameters :=
  [(.text "clusterName", .text cluster), (.text "namespace", .text clusterNamespace)]

/-- The value of the document that a block is. -/
def documentOf : Value :=
  .map [(.text "seed_provider", .list [.map [(.text "class_name", .text providerClass),
    (.text "parameters", .list [.map (parametersOf clusterNamespace cluster)])]])]

theorem load_blockBody :
    load (blockBody clusterNamespace cluster) = .ok (documentOf clusterNamespace cluster) := by
  obtain ⟨plain, plain', h, h', htokens⟩ := tokens_blockBody clusterNamespace cluster
  have hgraph : Graph.ofText (blockBody clusterNamespace cluster) =
      .ok (blockGraph cluster.toList clusterNamespace.toList) := by
    rw [Graph.ofText, htokens, compose_block h h']
  rw [load_eq_ok hgraph rfl ofTexts_blockGraph ⟨_, rfl⟩]
  simp [blockGraph, Graph.shown, Graph.partValue, Graph.entryValue, Value.insertEntries,
    Value.insertEntry, Value.sameKey, documentOf, parametersOf]

/-! ### The parameters -/

theorem ofProvider_parametersOf :
    Parameters.ofProvider [(.text "class_name", .text providerClass),
      (.text "parameters", .list [.map (parametersOf clusterNamespace cluster)])] =
      .ok (parametersOf clusterNamespace cluster) := by
  have hlookup : Value.lookup "parameters" [(.text "class_name", .text providerClass),
      (.text "parameters", .list [.map (parametersOf clusterNamespace cluster)])] =
      some (.list [.map (parametersOf clusterNamespace cluster)]) := by
    simp [Value.lookup, Value.sameKey]
  have hinsert : Value.insertEntries [] (parametersOf clusterNamespace cluster) =
      parametersOf clusterNamespace cluster := by
    simp [parametersOf, Value.insertEntries, Value.insertEntry, Value.sameKey]
  rw [Parameters.ofProvider, hlookup]
  exact congrArg Except.ok hinsert

theorem ofDocument_documentOf (path : String) :
    Parameters.ofDocument path (documentOf clusterNamespace cluster) =
      .ok (parametersOf clusterNamespace cluster) := by
  have hlookup : ∀ v, Value.lookup "seed_provider" [(.text "seed_provider", v)] = some v := by
    simp [Value.lookup, Value.sameKey]
  rw [documentOf, Parameters.ofDocument, if_neg (by simp [Value.isGiven]), hlookup]
  exact ofProvider_parametersOf clusterNamespace cluster

theorem block_ne_nil : block clusterNamespace cluster ≠ [] := by
  obtain ⟨tail, htail, -⟩ := block_eq_cons clusterNamespace cluster
  rw [htail]
  simp

/-- The lines of a block are the text of its document. -/
theorem between_block :
    Lines.between ((block clusterNamespace cluster).map String.toList) =
      blockBody clusterNamespace cluster := by
  have hne : (block clusterNamespace cluster).map String.toList ≠ [] := by
    simpa using block_ne_nil clusterNamespace cluster
  have hjoined := joined_block clusterNamespace cluster
  rw [Lines.toList_joined, blockText_eq] at hjoined
  have hend : Lines.between ((block clusterNamespace cluster).map String.toList) ++ ['\n'] =
      blockBody clusterNamespace cluster ++ ['\n'] := by
    rw [Lines.between_append_lf hne, List.flatMap_map, hjoined]
  exact List.append_cancel_right hend

theorem ofLines_block (path : String) :
    Parameters.ofLines path (block clusterNamespace cluster) =
      .ok (parametersOf clusterNamespace cluster) := by
  rw [Parameters.ofLines, between_block, load_blockBody]
  exact ofDocument_documentOf clusterNamespace cluster path

/-- The parameters of a block that was written are read back as they were
given, whatever the names hold. -/
theorem loadParameters_of_writeLines (path : String) {x y : Session}
    (h : (Run.writeLines path (block clusterNamespace cluster)).perform x = (.ok (), y)) :
    (loadParameters path).perform y =
      (.ok [(.text "clusterName", .text cluster), (.text "namespace", .text clusterNamespace)],
        y) := by
  rw [Run.writeLines, Run.perform_onTree] at h
  obtain ⟨hwrite, rfl⟩ := Prod.mk.inj h
  have hread : (x.tree.writeLines path (block clusterNamespace cluster)).2.readLines path =
      .ok (block clusterNamespace cluster) :=
    Tree.readLines_of_writeLines (block_ne_nil _ _) (isLine_of_mem_block clusterNamespace cluster)
      (by rw [← hwrite])
  rw [loadParameters, Run.perform_bind, Run.perform_readLines]
  dsimp only
  rw [hread]
  dsimp only
  rw [Run.perform_ofExcept, ofLines_block]
  rfl

/-- Names that would be a number and a truth value, had they no quotes. -/
theorem loadParameters_sample :
    ∃ y, (Run.writeLines "cassandra.yaml" (block "0x1F" "on")).perform
        (Session.start { here := [], entries := [] }) = (.ok (), y) ∧
      (loadParameters "cassandra.yaml").perform y =
        (.ok [(.text "clusterName", .text "on"), (.text "namespace", .text "0x1F")], y) := by
  have hholds : Tree.Holds { here := [], entries := [] } ⟨0, []⟩ [] := ⟨by decide, by decide⟩
  have hname : Tree.IsTargetName "cassandra.yaml" :=
    ⟨⟨by decide, by decide⟩, ⟨by decide, by decide⟩, ⟨by decide, by decide⟩, by decide⟩
  have hsite := hholds.site hname
  have hpath : (Path.join ⟨0, []⟩ "cassandra.yaml").text = "cassandra.yaml" := by decide
  rw [hpath] at hsite
  obtain ⟨y, hwrite⟩ : ∃ y, (Run.writeLines "cassandra.yaml" (block "0x1F" "on")).perform
      (Session.start { here := [], entries := [] }) = (.ok (), y) := by
    rw [Run.writeLines, Run.perform_onTree]
    dsimp only [Session.start]
    rw [hsite.writeLines_done (by decide) (by decide) (block_ne_nil "0x1F" "on")]
    exact ⟨_, rfl⟩
  exact ⟨y, hwrite, loadParameters_of_writeLines "0x1F" "on" "cassandra.yaml" hwrite⟩

end SeedSection

end NodeBootstrap

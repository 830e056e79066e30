/-
NodeBootstrap/Proofs/Yaml/Composer.lean

What nodes come out of the tokens of texts, of mappings from texts, and of
lists in the column of a mapping.  There is one lemma for each step that the
composer takes on them; the fuel that a step needs is written as a sum.
-/
import NodeBootstrap.Proofs.Yaml.Scanner
import NodeBootstrap.Yaml.Graph

namespace NodeBootstrap.Yaml.Composer

variable {c : Composer} {n : Nat} {block indentless : Bool} {text : List Char} {plain : Bool}
  {rest : List Token}

/-! ### Nodes of texts -/

theorem scalarTag_eq (h : ReadsAsText text plain) : scalarTag none plain text = .text := by
  cases plain with
  | false => rfl
  | true => exact h rfl

/-- The state behind a text. -/
def behindText (c : Composer) (text : List Char) (rest : List Token) : Composer :=
  { c with tokens := rest, nodes := .scalar .text text :: c.nodes }

theorem node_text (h : ReadsAsText text plain) (hc : c.tokens = .scalar text plain :: rest) :
    node (n + 2) block indentless c = .ok (.node c.nodes.length, c.behindText text rest) := by
  rw [node, hc]
  simp [properties, tagName, behind, content, Composer.add, Composer.name, scalarTag_eq h,
    behindText, bind, Except.bind]

/-- A key and its value, both texts. -/
theorem flowPair_texts {key : List Char} {plain' : Bool} (hkey : ReadsAsText key plain)
    (h : ReadsAsText text plain')
    (hc : c.tokens = .scalar key plain :: .value :: .scalar text plain' :: rest) :
    flowPair (n + 4) endsFlowValue c =
      .ok ((.node c.nodes.length, .node (c.nodes.length + 1)),
        (c.behindText key (.value :: .scalar text plain' :: rest)).behindText text rest) := by
  have hfirst : nodeOrEmpty (n + 3) (endsFlowKey endsFlowValue c.tokens) false c =
      .ok (.node c.nodes.length, c.behindText key (.value :: .scalar text plain' :: rest)) := by
    rw [hc]
    exact node_text hkey hc
  -- the value stands behind the key among the nodes
  have hsecond : nodeOrEmpty (n + 3) (endsFlowValue (.scalar text plain' :: rest)) false
      ((c.behindText key (.value :: .scalar text plain' :: rest)).behind
        (.scalar text plain' :: rest)) =
      .ok (.node (c.nodes.length + 1),
        (c.behindText key (.value :: .scalar text plain' :: rest)).behindText text rest) :=
    @node_text ((c.behindText key (.value :: .scalar text plain' :: rest)).behind
      (.scalar text plain' :: rest)) n false false text plain' rest h rfl
  rw [flowPair, hfirst]
  dsimp only [bind, Except.bind, behindText] at hsecond ⊢
  rw [hsecond]

/-- The state behind an entry. -/
def behindEntry (c : Composer) (key text : List Char) (rest : List Token) : Composer :=
  { c with tokens := rest, nodes := .scalar .text text :: .scalar .text key :: c.nodes }

theorem flowMappingEntry_texts {key : List Char} {entries : List (Ref × Ref)}
    (hkey : ReadsAsText key true) (h : ReadsAsText text plain)
    (hc : c.tokens = entryTokens key text plain ++ rest) :
    flowMappingEntry (n + 5) entries c = flowEntries (n + 4) false
      ((.node c.nodes.length, .node (c.nodes.length + 1)) :: entries)
      (c.behindEntry key text rest) := by
  have hc' : c.tokens = .key :: .scalar key true :: .value :: .scalar text plain :: rest := hc
  have hpair := @flowPair_texts
    (c.behind (.scalar key true :: .value :: .scalar text plain :: rest)) n text true rest key plain
    hkey h rfl
  rw [flowMappingEntry, hc']
  dsimp only
  rw [hpair]
  rfl

theorem flowEntries_first {entries : List (Ref × Ref)} (hc : c.tokens = .key :: rest) :
    flowEntries (n + 1) true entries c = flowMappingEntry n entries c := by
  rw [flowEntries, hc]
  rfl

theorem flowEntries_comma {entries : List (Ref × Ref)} (hc : c.tokens = .flowEntry :: rest) :
    flowEntries (n + 1) false entries c = flowMappingEntry n entries (c.behind rest) := by
  rw [flowEntries, hc]
  rfl

theorem flowEntries_end {first : Bool} {entries : List (Ref × Ref)}
    (hc : c.tokens = .flowMappingEnd :: rest) :
    flowEntries (n + 1) first entries c = .ok (entries.reverse, c.behind rest) := by
  rw [flowEntries, hc]

theorem node_flowStart {entries : List (Ref × Ref)} {d : Composer}
    (hc : c.tokens = .flowMappingStart :: rest)
    (h : flowEntries n true [] (c.behind rest) = .ok (entries, d)) :
    node (n + 2) block indentless c =
      .ok (.node d.nodes.length, { d with nodes := .mapping .map entries :: d.nodes }) := by
  rw [node, hc]
  simp [properties, tagName, content, behind, Composer.name, collectionTag, Composer.add, bind,
    Except.bind] at h ⊢
  rw [h]

/-- A flow mapping of two entries. -/
theorem node_flowMapping {key key' text' : List Char} {plain' : Bool}
    (hkey : ReadsAsText key true) (hkey' : ReadsAsText key' true) (h : ReadsAsText text plain)
    (h' : ReadsAsText text' plain')
    (hc : c.tokens = .flowMappingStart :: (entryTokens key text plain ++
      .flowEntry :: (entryTokens key' text' plain' ++ .flowMappingEnd :: rest))) :
    node (n + 10) block indentless c =
      .ok (.node (c.nodes.length + 4),
        { c with
          tokens := rest
          nodes := .mapping .map [(.node c.nodes.length, .node (c.nodes.length + 1)),
              (.node (c.nodes.length + 2), .node (c.nodes.length + 3))] ::
            .scalar .text text' :: .scalar .text key' :: .scalar .text text :: .scalar .text key
              :: c.nodes }) := by
  have hentries : flowEntries (n + 8) true [] (c.behind (entryTokens key text plain ++
      .flowEntry :: (entryTokens key' text' plain' ++ .flowMappingEnd :: rest))) =
      .ok ([(.node c.nodes.length, .node (c.nodes.length + 1)),
          (.node (c.nodes.length + 2), .node (c.nodes.length + 3))],
        { c with
          tokens := rest
          nodes := .scalar .text text' :: .scalar .text key' :: .scalar .text text ::
            .scalar .text key :: c.nodes }) := by
    rw [flowEntries_first rfl, flowMappingEntry_texts hkey h rfl, flowEntries_comma rfl,
      flowMappingEntry_texts hkey' h' rfl, flowEntries_end rfl]
    rfl
  exact node_flowStart hc hentries

/-! ### Block collections -/

variable {entries : List (Ref × Ref)} {items : List Ref} {r : Ref} {d : Composer}

theorem node_blockMapping (hc : c.tokens = .blockMappingStart :: rest)
    (h : blockEntries n [] (c.behind rest) = .ok (entries, d)) :
    node (n + 2) true indentless c =
      .ok (.node d.nodes.length, { d with nodes := .mapping .map entries :: d.nodes }) := by
  rw [node, hc]
  simp [properties, tagName, content, behind, Composer.name, collectionTag, Composer.add, bind,
    Except.bind] at h ⊢
  rw [h]

theorem node_indentless (hc : c.tokens = .blockEntry :: rest)
    (h : indentlessItems n [] c = .ok (items, d)) :
    node (n + 2) block true c =
      .ok (.node d.nodes.length, { d with nodes := .sequence .list items :: d.nodes }) := by
  obtain ⟨tokens, handles, nodes, anchors⟩ := c
  dsimp only at hc
  subst hc
  rw [node]
  simp [properties, tagName, content, behind, Composer.name, collectionTag, Composer.add, bind,
    Except.bind, h]

theorem blockEntries_entry {key : List Char} (hkey : ReadsAsText key true)
    (hc : c.tokens = .key :: .scalar key true :: .value :: rest)
    (hrest : endsBlockEntry rest = false)
    (h : node (n + 2) true true (c.behindText key rest) = .ok (r, d)) :
    blockEntries (n + 4) entries c =
      blockEntries (n + 3) ((.node c.nodes.length, r) :: entries) d := by
  have hread : nodeOrEmpty (n + 3) (endsBlockEntry (.scalar key true :: .value :: rest)) true
      (c.behind (.scalar key true :: .value :: rest)) =
      .ok (.node c.nodes.length, c.behindText key (.value :: rest)) :=
    @node_text (c.behind (.scalar key true :: .value :: rest)) n true true key true
      (.value :: rest) hkey rfl
  have hvalue : nodeOrEmpty (n + 3) (endsBlockEntry rest) true (c.behindText key rest) =
      .ok (r, d) := by
    rw [hrest]
    exact h
  rw [blockEntries, hc]
  dsimp only [bind, Except.bind]
  rw [hread]
  dsimp only [behindText, behind] at hvalue ⊢
  rw [hvalue]

theorem blockEntries_end (hc : c.tokens = .blockEnd :: rest) :
    blockEntries (n + 1) entries c = .ok (entries.reverse, c.behind rest) := by
  rw [blockEntries, hc]

theorem indentlessItems_item (hc : c.tokens = .blockEntry :: rest)
    (hrest : endsIndentlessItem rest = false)
    (h : node n true false (c.behind rest) = .ok (r, d)) :
    indentlessItems (n + 1) items c = indentlessItems n (r :: items) d := by
  rw [indentlessItems, hc]
  dsimp only
  rw [hrest, h]
  rfl

theorem indentlessItems_end (hc : c.tokens = .blockEnd :: rest) :
    indentlessItems (n + 1) items c = .ok (items.reverse, c) := by
  rw [indentlessItems, hc]

end NodeBootstrap.Yaml.Composer

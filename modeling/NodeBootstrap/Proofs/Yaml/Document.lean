/-
NodeBootstrap/Proofs/Yaml/Document.lean

Documents of texts: of lists, of mappings from texts, and of texts.  Such a
document always has a value (`check_eq_ok`), and each of its nodes has the
value that it shows (`values_eq`); nothing in it is merged or typed.
-/
import NodeBootstrap.Yaml.Document

namespace NodeBootstrap.Yaml.Graph

variable {g : Graph} {r : Ref} {node : Node} {text : List Char}

/-! ### Documents of texts -/

/-- A part that is a node of the graph. -/
def Has (g : Graph) (r : Ref) : Prop := ∃ node, g.node? r = some node

def IsText (g : Graph) (r : Ref) : Prop := ∃ text, g.node? r = some (.scalar .text text)

/-- A node of a document of texts. -/
def Fits (g : Graph) : Node → Prop
  | .scalar tag _ => tag = .text
  | .sequence tag items => tag = .list ∧ ∀ r ∈ items, g.Has r
  | .mapping tag entries => tag = .map ∧ ∀ e ∈ entries, g.IsText e.1 ∧ g.Has e.2

def OfTexts (g : Graph) : Prop := ∀ node ∈ g.nodes, g.Fits node

theorem IsText.has (h : g.IsText r) : g.Has r := by
  obtain ⟨text, h⟩ := h
  exact ⟨_, h⟩

theorem OfTexts.fits (h : g.OfTexts) (hr : g.node? r = some node) : g.Fits node := by
  cases r with
  | node p => exact h node (List.mem_of_getElem? hr)
  | enclosing isMapping => contradiction

theorem tagOf_of_isText (h : g.IsText r) : g.tagOf r = some .text := by
  obtain ⟨text, h⟩ := h
  rw [tagOf, h]
  rfl

theorem scalarValue_eq (h : g.node? r = some (.scalar .text text)) :
    g.scalarValue r = .ok (.text (String.ofList text)) := by
  have htext : g.scalarText (g.nodes.length + 1) r = .ok text := by rw [scalarText, h]
  rw [scalarValue, h]
  dsimp only
  rw [if_neg (by simp [Node.tag]), htext]
  rfl

/-- A mapping of texts merges nothing. -/
theorem entriesOf_eq {tag : Tag} {own : List (Ref × Ref)} (h : g.node? r = some (.mapping tag own))
    (hkeys : ∀ e ∈ own, g.IsText e.1) : g.entriesOf r = .ok own := by
  -- a text is no merge key
  have hmerge : (own.filter fun e => g.tagOf e.1 == some .merge) = [] := by
    rw [List.filter_eq_nil_iff]
    intro e he
    rw [tagOf_of_isText (hkeys e he)]
    decide
  have hrest : (own.filter fun e => g.tagOf e.1 != some .merge) = own := by
    rw [List.filter_eq_self]
    intro e he
    rw [tagOf_of_isText (hkeys e he)]
    rfl
  rw [entriesOf, entries, h]
  dsimp only
  rw [hmerge, hrest]
  rfl

/-! ### The survey -/

namespace Survey

/-- A survey all of whose pending parts are collections. -/
def Sound (g : Graph) (s : Survey) : Prop :=
  ∀ r ∈ s.pending, g.Has r ∧ g.isCollection r = true

variable {s : Survey}

theorem foldlM_eq_ok {α : Type} {f : Survey → α → Except Defect Survey} {as : List α}
    (hf : ∀ s : Survey, ∀ a ∈ as, s.Sound g → ∃ t : Survey, f s a = .ok t ∧ t.Sound g)
    (hs : s.Sound g) : ∃ t : Survey, as.foldlM f s = .ok t ∧ t.Sound g := by
  induction as generalizing s with
  | nil => exact ⟨s, rfl, hs⟩
  | cons a as ih =>
    obtain ⟨t, ht, hsound⟩ := hf s a List.mem_cons_self hs
    obtain ⟨u, hu, hsound'⟩ := ih (fun s a ha => hf s a (List.mem_cons_of_mem _ ha)) hsound
    refine ⟨u, ?_, hsound'⟩
    rw [List.foldlM_cons, ht]
    exact hu

theorem settle_eq_ok (h : g.OfTexts) (hr : g.Has r) (hs : s.Sound g) :
    ∃ t, s.settle g r = .ok t ∧ t.Sound g := by
  obtain ⟨node, hnode⟩ := hr
  rw [settle.eq_def]
  split
  · exact ⟨s, rfl, hs⟩
  cases r with
  | enclosing isMapping => contradiction
  | node p =>
    dsimp only
    split
    · rename_i hcoll
      refine ⟨_, rfl, ?_⟩
      intro r' hr'
      rcases List.mem_append.mp hr' with hr' | hr'
      · exact hs r' hr'
      · rw [List.mem_singleton.mp hr']
        exact ⟨⟨node, hnode⟩, hcoll⟩
    · -- what is no collection is a text
      rename_i hcoll
      have hfits := h.fits hnode
      cases node with
      | scalar tag text =>
        obtain rfl : tag = .text := hfits
        rw [scalarValue_eq hnode]
        exact ⟨_, rfl, hs⟩
      | sequence tag items =>
        obtain rfl : tag = .list := hfits.1
        rw [isCollection, tagOf, hnode] at hcoll
        exact absurd rfl hcoll
      | mapping tag entries =>
        obtain rfl : tag = .map := hfits.1
        rw [isCollection, tagOf, hnode] at hcoll
        exact absurd rfl hcoll

theorem settleEntry_eq_ok {e : Ref × Ref} (h : g.OfTexts) (hkey : g.IsText e.1) (hr : g.Has e.2)
    (hs : s.Sound g) : ∃ t, s.settleEntry g e = .ok t ∧ t.Sound g := by
  obtain ⟨t, ht, hsound⟩ := settle_eq_ok h hkey.has hs
  have hcoll : g.isCollection e.1 = false := by
    rw [isCollection, tagOf_of_isText hkey]
    rfl
  rw [settleEntry, ht, hcoll]
  exact settle_eq_ok h hr hsound

theorem markValueKeys_eq {entries : List (Ref × Ref)} (hkeys : ∀ e ∈ entries, g.IsText e.1) :
    s.markValueKeys g entries = s := by
  induction entries with
  | nil => rfl
  | cons e entries ih =>
    -- no key is typed, so none stands for a default value
    have hvalue : ¬ (g.tagOf e.1 == some .value) = true := by
      rw [tagOf_of_isText (hkeys e List.mem_cons_self)]
      decide
    have hrest := ih fun e he => hkeys e (List.mem_cons_of_mem _ he)
    rw [markValueKeys] at hrest ⊢
    rw [List.foldl_cons, if_neg hvalue]
    exact hrest

theorem enter_eq_ok (h : g.OfTexts) (hr : g.Has r) (hcoll : g.isCollection r = true)
    (hs : s.Sound g) : ∃ t, s.enter g r = .ok t ∧ t.Sound g := by
  obtain ⟨node, hnode⟩ := hr
  have hfits := h.fits hnode
  rw [enter, hnode]
  cases node with
  | scalar tag text =>
    obtain rfl : tag = .text := hfits
    rw [isCollection, tagOf, hnode] at hcoll
    contradiction
  | sequence tag items =>
    obtain ⟨rfl, hitems⟩ := hfits
    exact foldlM_eq_ok (fun s r hr => settle_eq_ok h (hitems r hr)) hs
  | mapping tag entries =>
    obtain ⟨rfl, hentries⟩ := hfits
    have hkeys : ∀ e ∈ entries, g.IsText e.1 := fun e he => (hentries e he).1
    dsimp only [Node.tag]
    rw [entriesOf_eq hnode hkeys]
    dsimp only [bind, Except.bind]
    rw [markValueKeys_eq hkeys]
    exact foldlM_eq_ok
      (fun s e he => settleEntry_eq_ok h (hentries e he).1 (hentries e he).2) hs

theorem finish_eq_ok (h : g.OfTexts) (n : Nat) (hs : s.Sound g) : finish g n s = .ok () := by
  induction n generalizing s with
  | zero => rfl
  | succ n ih =>
    rw [finish]
    split
    · rfl
    · rename_i r rest hpending
      rw [Sound, hpending] at hs
      obtain ⟨hr, hcoll⟩ := hs r List.mem_cons_self
      obtain ⟨t, ht, hsound⟩ := enter_eq_ok (s := { s with pending := rest }) h hr hcoll
        fun r hr => hs r (List.mem_cons_of_mem _ hr)
      rw [ht]
      exact ih hsound

end Survey

/-- All parts of a document of texts have values. -/
theorem check_eq_ok (h : g.OfTexts) (hr : g.Has r) : g.check r = .ok () := by
  obtain ⟨t, ht, hsound⟩ := Survey.settle_eq_ok h hr
    (s := ⟨[], []⟩) (by simp [Survey.Sound])
  rw [check, ht]
  exact Survey.finish_eq_ok h _ hsound

/-! ### Values -/

/-- The value that a node of a document of texts shows. -/
def shown (values : Array Value) : Node → Value
  | .scalar _ text => .text (String.ofList text)
  | .sequence _ items => .list (items.map (partValue values))
  | .mapping _ entries => .map (Value.insertEntries [] (entries.map (entryValue values)))

theorem valueAt_eq {position : Nat} (h : g.OfTexts) (values : Array Value)
    (hn : g.node? (.node position) = some node) :
    g.valueAt values position node = shown values node := by
  have hfits := h.fits hn
  cases node with
  | scalar tag text =>
    obtain rfl : tag = .text := hfits
    show (g.scalarValue (.node position)).toOption.getD .null = _
    rw [scalarValue_eq hn]
    rfl
  | sequence tag items =>
    obtain rfl : tag = .list := hfits.1
    rfl
  | mapping tag entries =>
    obtain ⟨rfl, hentries⟩ := hfits
    show Value.map (Value.insertEntries []
      (((g.entriesOf (.node position)).toOption.getD []).map (entryValue values))) = _
    rw [entriesOf_eq hn fun e he => (hentries e he).1]
    rfl

/-- The values of the nodes behind some others. -/
theorem foldl_valueAt {before nodes : List Node} {values : Array Value} (h : g.OfTexts)
    (hnodes : g.nodes = before ++ nodes) (hsize : values.size = before.length) :
    nodes.foldl (fun values node => values.push (g.valueAt values values.size node)) values =
      nodes.foldl (fun values node => values.push (shown values node)) values := by
  induction nodes generalizing before values with
  | nil => rfl
  | cons node nodes ih =>
    have hn : g.node? (.node values.size) = some node := by
      rw [node?, hnodes, hsize]
      simp
    rw [List.foldl_cons, List.foldl_cons, valueAt_eq h values hn]
    exact ih (by rw [hnodes, List.append_cons]) (by simp [hsize])

theorem values_eq (h : g.OfTexts) :
    g.values = g.nodes.foldl (fun values node => values.push (shown values node)) #[] :=
  @foldl_valueAt g [] g.nodes #[] h rfl rfl

end NodeBootstrap.Yaml.Graph

namespace NodeBootstrap.Yaml

/-- A document of texts is read as what it shows. -/
theorem load_eq_ok {text : List Char} {g : Graph} {root : Ref} (hg : Graph.ofText text = .ok g)
    (hroot : g.root = some root) (h : g.OfTexts) (hr : g.Has root) :
    load text = .ok (Graph.partValue
      (g.nodes.foldl (fun values node => values.push (Graph.shown values node)) #[]) root) := by
  rw [load, hg]
  dsimp only [bind, Except.bind]
  rw [hroot]
  dsimp only
  rw [Graph.check_eq_ok h hr, Graph.values_eq h]
  rfl

end NodeBootstrap.Yaml

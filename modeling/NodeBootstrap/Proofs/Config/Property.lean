/-
NodeBootstrap/Proofs/Config/Property.lean

Several properties set one after the other.  `Property.assignAll` is what that
does to the lines of a file: lines that set one of the properties are settled
in their places, and the properties that no line sets come behind, in their
order (`assignAll_eq`).  Each of them is then set, and to its value only
(`isSetTo_assignAll`).

A file in which only the first of the properties were set, to whatever values,
is as good to start from as the file before (`assignAll_assignAll`), and so is
one whose lines were only settled (`assignAll_map_settle`).
-/
import NodeBootstrap.Config.Property
import NodeBootstrap.Proofs.Text.Wanted

namespace NodeBootstrap.Property

open NodeBootstrap.Lines

/-- Sets properties, each to its value. -/
def assignAll (value : String → String) (keys : List String) (lines : List String) : List String :=
  keys.foldl (fun ls key => assign key (value key) ls) lines

/-- A line with its property set to its value, if it sets one of them. -/
def settle (value : String → String) (keys : List String) (l : String) : String :=
  match keys.find? (isSetBy · l) with
  | some key => line key (value key)
  | none => l

/-- The lines that set properties. -/
def wanted (value : String → String) (keys : List String) : List (String × String) :=
  keys.map fun key => (head key, line key (value key))

/-- Keys that no line sets two of. -/
def ToldApart (keys : List String) : Prop := keys.Pairwise fun j k => Apart (head j) (head k)

instance (keys : List String) : Decidable (ToldApart keys) :=
  inferInstanceAs (Decidable (keys.Pairwise fun j k => Apart (head j) (head k)))

namespace ToldApart

variable {keys first : List String} {j k : String}

theorem of_sublist (h : ToldApart keys) (hs : first.Sublist keys) : ToldApart first :=
  List.Pairwise.sublist hs h

theorem of_prefix (h : ToldApart keys) (hp : first <+: keys) : ToldApart first :=
  h.of_sublist hp.sublist

theorem of_ne (h : ToldApart keys) (hj : j ∈ keys) (hk : k ∈ keys) (hne : j ≠ k) :
    Apart (head j) (head k) :=
  apart_of_ne h hj hk hne

theorem distinct_wanted (h : ToldApart keys) (value : String → String) :
    Distinct (wanted value keys) := by
  refine ⟨?_, List.pairwise_map.mpr h⟩
  intro w hw
  obtain ⟨key, _, rfl⟩ := List.mem_map.mp hw
  exact startsWith_append _ _

end ToldApart

variable {value other : String → String} {keys first : List String} {j k l : String}

theorem isSetBy_line (key v : String) : isSetBy key (line key v) = true :=
  startsWith_append (head key) v

/-! ### Settling a line -/

theorem settle_one (key v l : String) :
    settle (fun _ => v) [key] l = if isSetBy key l then line key v else l := by
  rw [settle, List.find?_cons]
  cases isSetBy key l <;> rfl

theorem settle_of_not_set (h : ∀ k ∈ keys, isSetBy k l = false) : settle value keys l = l := by
  have hf : keys.find? (isSetBy · l) = none := by
    rw [List.find?_eq_none]
    intro k hk
    simp [h k hk]
  rw [settle, hf]

theorem settle_of_set (hk : ToldApart keys) (hj : j ∈ keys) (h : isSetBy j l = true) :
    settle value keys l = line j (value j) := by
  cases e : keys.find? (isSetBy · l) with
  | none => exact absurd h (List.find?_eq_none.mp e j hj)
  | some i =>
    have hi : isSetBy i l = true := @List.find?_some _ (isSetBy · l) _ _ e
    by_cases hij : i = j
    · rw [settle, e, hij]
    · have ha := hk.of_ne (List.mem_of_find?_eq_some e) hj hij
      have hn : isSetBy j l = false := ha.startsWith_eq_false hi
      rw [hn] at h
      contradiction

/-- A line is settled to one that sets the same property, or stays. -/
theorem settle_cases (hk : ToldApart keys) (value : String → String) (l : String) :
    (∃ k ∈ keys, isSetBy k l = true ∧ settle value keys l = line k (value k)) ∨
      ((∀ k ∈ keys, isSetBy k l = false) ∧ settle value keys l = l) := by
  by_cases h : ∃ k ∈ keys, isSetBy k l = true
  · obtain ⟨k, hmem, hset⟩ := h
    exact .inl ⟨k, hmem, hset, settle_of_set hk hmem hset⟩
  · have hn : ∀ k ∈ keys, isSetBy k l = false := by
      intro k hmem
      rw [Bool.eq_false_iff]
      exact fun hset => h ⟨k, hmem, hset⟩
    exact .inr ⟨hn, settle_of_not_set hn⟩

/-- Settling does not change which properties a line sets. -/
theorem isSetBy_settle (hk : ToldApart keys) (hp : first <+: keys) (hmem : k ∈ keys) (l : String) :
    isSetBy k (settle value first l) = isSetBy k l := by
  rcases settle_cases (hk.of_prefix hp) value l with ⟨j, hj, hset, e⟩ | ⟨_, e⟩
  · rw [e]
    by_cases hjk : j = k
    · subst hjk
      rw [isSetBy_line, hset]
    · -- the line sets another property before and after
      have ha := hk.of_ne (hp.subset hj) hmem hjk
      have h₁ : isSetBy k (line j (value j)) = false := ha.startsWith_eq_false (isSetBy_line j _)
      have h₂ : isSetBy k l = false := ha.startsWith_eq_false hset
      rw [h₁, h₂]
  · rw [e]

/-- What a line was settled to before does not matter. -/
theorem settle_settle (hk : ToldApart keys) (hp : first <+: keys) (value other : String → String)
    (l : String) : settle value keys (settle other first l) = settle value keys l := by
  rcases settle_cases (hk.of_prefix hp) other l with ⟨j, hj, hset, e⟩ | ⟨_, e⟩
  · rw [e, settle_of_set hk (hp.subset hj) (isSetBy_line j _), settle_of_set hk (hp.subset hj) hset]
  · rw [e]

/-! ### Setting all -/

theorem any_map_settle (hk : ToldApart keys) (hp : first <+: keys) (hmem : k ∈ keys)
    (lines : List String) :
    (lines.map (settle value first)).any (isSetBy k) = lines.any (isSetBy k) := by
  rw [List.any_map]
  congr 1
  funext l
  exact isSetBy_settle hk hp hmem l

/-- Lines that set properties become the lines that set them now. -/
theorem map_settle_lacking (hk : ToldApart keys) (hp : first <+: keys) (lines : List String) :
    (lacking (wanted other first) lines).map (settle value keys) =
      lacking (wanted value first) lines := by
  have hline : ∀ k ∈ first, settle value keys (line k (other k)) = line k (value k) := fun k hmem =>
    settle_of_set hk (hp.subset hmem) (isSetBy_line k _)
  simp only [lacking, wanted, List.filter_map, List.map_map]
  apply List.map_congr_left
  intro k hmem
  exact hline k (List.mem_filter.mp hmem).1

/-- What is lacking does not depend on how lines were settled. -/
theorem lacking_map_settle (hk : ToldApart keys) (hp : first <+: keys) (lines : List String) :
    lacking (wanted value keys) (lines.map (settle other first)) =
      lacking (wanted value keys) lines := by
  apply lacking_congr
  intro w hw
  obtain ⟨k, hmem, rfl⟩ := List.mem_map.mp hw
  exact any_map_settle hk hp hmem lines

theorem assign_eq (key v : String) (lines : List String) :
    assign key v lines =
      lines.map (settle (fun _ => v) [key]) ++ lacking (wanted (fun _ => v) [key]) lines := by
  have hs : settle (fun _ => v) [key] = fun l => if isSetBy key l then line key v else l :=
    funext fun l => settle_one key v l
  rw [assign, hs]
  cases h : lines.any (isSetBy key) with
  | true =>
    have h' : lines.any (startsWith (head key)) = true := h
    simp [lacking, wanted, h']
  | false =>
    have h' : lines.any (startsWith (head key)) = false := h
    simp [lacking, wanted, h']

/-- Setting a property does not change which others are set. -/
theorem any_assign (ha : Apart (head k) (head j)) (v : String) (lines : List String) :
    (assign k v lines).any (isSetBy j) = lines.any (isSetBy j) := by
  have hline : isSetBy j (line k v) = false := ha.startsWith_eq_false (isSetBy_line k v)
  have hmap : (lines.map fun l => if isSetBy k l then line k v else l).any (isSetBy j) =
      lines.any (isSetBy j) := by
    rw [List.any_map]
    congr 1
    funext l
    show isSetBy j (if isSetBy k l then line k v else l) = isSetBy j l
    cases hl : isSetBy k l with
    | true => rw [if_pos rfl, hline, isSetBy, ha.startsWith_eq_false hl]
    | false => rfl
  rw [assign]
  split
  · exact hmap
  · rw [List.any_append, hmap, List.any_cons, hline]
    simp

/-- Settling for one property and then for the others. -/
theorem settle_cons (hk : ToldApart (k :: keys)) (value : String → String) (l : String) :
    settle value keys (settle (fun _ => value k) [k] l) = settle value (k :: keys) l := by
  rw [settle_one, settle, settle, List.find?_cons]
  cases h : isSetBy k l with
  | true =>
    have hf : keys.find? (isSetBy · (line k (value k))) = none := by
      rw [List.find?_eq_none]
      intro j hj
      have ha : Apart (head k) (head j) := List.rel_of_pairwise_cons hk hj
      have hn : isSetBy j (line k (value k)) = false := ha.startsWith_eq_false (isSetBy_line k _)
      simp [hn]
    rw [if_pos rfl, hf]
  | false => rfl

/-- All properties set at once: the lines that set one are settled, the
properties that are lacking come behind. -/
theorem assignAll_eq (hk : ToldApart keys) (value : String → String) (lines : List String) :
    assignAll value keys lines =
      lines.map (settle value keys) ++ lacking (wanted value keys) lines := by
  induction keys generalizing lines with
  | nil =>
    have hs : settle value [] = id := rfl
    rw [hs, List.map_id, wanted, List.map_nil, lacking, List.filter_nil, List.map_nil,
      List.append_nil]
    rfl
  | cons k keys ih =>
    have hkeys : ToldApart keys := (List.pairwise_cons.mp hk).2
    have hone : wanted (fun _ => value k) [k] = wanted value [k] := rfl
    -- the line that the first property adds sets none of the others
    have hadd : (lacking (wanted value [k]) lines).map (settle value keys) =
        lacking (wanted value [k]) lines := by
      have hid : ∀ l ∈ lacking (wanted value [k]) lines, settle value keys l = id l := by
        intro l hl
        obtain ⟨w, hw, _, rfl⟩ := mem_lacking.mp hl
        obtain rfl := List.mem_singleton.mp hw
        apply settle_of_not_set
        intro j hj
        have ha : Apart (head k) (head j) := List.rel_of_pairwise_cons hk hj
        exact ha.startsWith_eq_false (isSetBy_line k _)
      rw [List.map_congr_left hid, List.map_id]
    -- nor is any of the others lacking because of it
    have hlack : lacking (wanted value keys) (assign k (value k) lines) =
        lacking (wanted value keys) lines := by
      apply lacking_congr
      intro w hw
      obtain ⟨j, hj, rfl⟩ := List.mem_map.mp hw
      exact any_assign (List.rel_of_pairwise_cons hk hj) (value k) lines
    have hsettle : settle value keys ∘ settle (fun _ => value k) [k] = settle value (k :: keys) :=
      funext (settle_cons hk value)
    show assignAll value keys (assign k (value k) lines) = _
    rw [ih hkeys, hlack, assign_eq, hone, List.map_append, hadd, List.map_map, hsettle,
      List.append_assoc, ← lacking_append_wanted]
    rfl

/-! ### What is set -/

/-- A property is set, and every line that sets it sets it to a value. -/
structure IsSetTo (key v : String) (lines : List String) : Prop where
  exists_line : ∃ l ∈ lines, isSetBy key l = true
  eq_line : ∀ l ∈ lines, isSetBy key l = true → l = line key v

/-- A line that sets a property after it was settled has its value. -/
theorem settle_eq_line (hk : ToldApart keys) (hj : j ∈ keys)
    (h : isSetBy j (settle value keys l) = true) : settle value keys l = line j (value j) := by
  rw [isSetBy_settle hk (List.prefix_refl keys) hj] at h
  exact settle_of_set hk hj h

theorem isSetTo_assignAll (hk : ToldApart keys) (hj : j ∈ keys) (value : String → String)
    (lines : List String) : IsSetTo j (value j) (assignAll value keys lines) := by
  have hd := hk.distinct_wanted value
  have hwant : (head j, line j (value j)) ∈ wanted value keys := List.mem_map.mpr ⟨j, hj, rfl⟩
  rw [assignAll_eq hk, ← lacking_map_settle hk (List.prefix_refl keys)]
  constructor
  · -- nothing is lacking behind what was added
    have hnil := Distinct.lacking_append_lacking hd.own (lines.map (settle value keys))
    exact List.any_eq_true.mp (lacking_eq_nil_iff.mp hnil _ hwant)
  · intro l hl hset
    rcases List.mem_append.mp hl with hl | hl
    · obtain ⟨m, -, rfl⟩ := List.mem_map.mp hl
      exact settle_eq_line hk hj hset
    · obtain ⟨w, hw, -, rfl⟩ := mem_lacking.mp hl
      rw [hd.eq_of_startsWith hwant hw hset]

/-! ### Setting them again -/

/-- Where the first properties were set before, it does not matter to what. -/
theorem assignAll_assignAll (hk : ToldApart keys) (hp : first <+: keys)
    (value other : String → String) (lines : List String) :
    assignAll value keys (assignAll other first lines) = assignAll value keys lines := by
  have hfirst := hk.of_prefix hp
  have hwanted : wanted value first <+: wanted value keys := hp.map _
  have hsame : settle value keys ∘ settle other first = settle value keys :=
    funext (settle_settle hk hp value other)
  -- whether a property is lacking does not depend on the values either
  have hlack : lacking (wanted value keys)
      (lines.map (settle other first) ++ lacking (wanted other first) lines) =
      lacking (wanted value keys) (lines ++ lacking (wanted value first) lines) := by
    apply lacking_congr
    intro w hw
    obtain ⟨k, hmem, rfl⟩ := List.mem_map.mp hw
    have hset : ∀ l, isSetBy k (settle value first l) = isSetBy k l :=
      isSetBy_settle hk hp hmem
    have hany : (lacking (wanted other first) lines).any (isSetBy k) =
        (lacking (wanted value first) lines).any (isSetBy k) := by
      have hm : (lacking (wanted other first) lines).map (settle value first) =
          lacking (wanted value first) lines :=
        map_settle_lacking hfirst (List.prefix_refl first) lines
      rw [← hm, List.any_map]
      congr 1
      funext l
      exact (hset l).symm
    have hmap : (lines.map (settle other first)).any (isSetBy k) = lines.any (isSetBy k) :=
      any_map_settle hk hp hmem lines
    show List.any (_ ++ _) (isSetBy k) = List.any (_ ++ _) (isSetBy k)
    rw [List.any_append, List.any_append, hmap, hany]
  rw [assignAll_eq hfirst, assignAll_eq hk, assignAll_eq hk, List.map_append, List.map_map, hsame,
    map_settle_lacking hk hp, hlack, List.append_assoc,
    (hk.distinct_wanted value).lacking_resume hwanted]

/-- Settling lines beforehand makes no difference. -/
theorem assignAll_map_settle (hk : ToldApart keys) (hp : first <+: keys)
    (value other : String → String) (lines : List String) :
    assignAll value keys (lines.map (settle other first)) = assignAll value keys lines := by
  have hsame : settle value keys ∘ settle other first = settle value keys :=
    funext (settle_settle hk hp value other)
  rw [assignAll_eq hk, assignAll_eq hk, List.map_map, hsame, lacking_map_settle hk hp]

end NodeBootstrap.Property

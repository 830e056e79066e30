/-
NodeBootstrap/Proofs/Config/Database.lean

What a preparation makes of the lines of the database's configuration: the
sections are replaced (`Setup.reseed`), then the properties are set.

Where no comment ends the last section, properties that come behind belong to
it, and the next replacement takes them away with it; then they are set anew.
So lines that were prepared before, in part or for another cluster, are as good
to start from as the lines before that (`prepared_resume`).
-/
import NodeBootstrap.Config.Pipeline
import NodeBootstrap.Proofs.Config.Property
import NodeBootstrap.Proofs.Config.Script
import NodeBootstrap.Proofs.Config.SeedBlock

namespace NodeBootstrap

open NodeBootstrap.Lines NodeBootstrap.Property NodeBootstrap.SeedSection

namespace Setup

/-- The properties that a preparation sets, in its order. -/
def keys : List String := ["endpoint_snitch", "cluster_name", "listen_address", "rpc_address"]

theorem keys_toldApart : ToldApart keys := by decide

variable {value other : String → String} {first : List String} {block : List String}

/-! ### Properties and sections -/

/-- A line that sets a property neither starts nor ends a section. -/
theorem isPlain_of_isSetBy {k l : String} (hk : k ∈ keys) (h : isSetBy k l = true) : IsPlain l := by
  have hmarker : ∀ k ∈ keys, isSetBy k marker = false := by decide
  have hcomment : ∀ k ∈ keys, Apart (head k) "#" := by decide
  constructor
  · rintro rfl
    rw [hmarker k hk] at h
    contradiction
  · exact (hcomment k hk).startsWith_eq_false h

theorem isPlain_line {k : String} (hk : k ∈ keys) (v : String) : IsPlain (line k v) :=
  isPlain_of_isSetBy hk (isSetBy_line k v)

/-- Settling lines leaves sections where they are. -/
theorem keepsSections_settle (hs : first.Sublist keys) (value : String → String) :
    KeepsSections (settle value first) := by
  have hcases := settle_cases (keys_toldApart.of_sublist hs) value
  constructor
  · intro l
    rcases hcases l with ⟨k, hk, hset, e⟩ | ⟨_, e⟩
    · have h₁ := (isPlain_line (hs.subset hk) (value k)).ne_marker
      have h₂ := (isPlain_of_isSetBy (hs.subset hk) hset).ne_marker
      rw [e]
      exact iff_of_false h₁ h₂
    · rw [e]
  · intro l
    rcases hcases l with ⟨k, hk, hset, e⟩ | ⟨_, e⟩
    · rw [e, (isPlain_line (hs.subset hk) (value k)).not_comment,
        (isPlain_of_isSetBy (hs.subset hk) hset).not_comment]
    · rw [e]

theorem isPlain_of_mem_lacking (hs : first.Sublist keys) {lines : List String} :
    ∀ l ∈ lacking (wanted value first) lines, IsPlain l := by
  intro l hl
  obtain ⟨w, hw, _, rfl⟩ := mem_lacking.mp hl
  obtain ⟨k, hk, rfl⟩ := List.mem_map.mp hw
  exact isPlain_line (hs.subset hk) _

/-- A block that sets no property. -/
def SetsNone (block : List String) : Prop := ∀ k ∈ keys, ∀ l ∈ block, isSetBy k l = false

/-- The seed provider's block sets no property, whatever names it holds. -/
theorem setsNone_block (clusterNamespace cluster : String) :
    SetsNone (SeedSection.block clusterNamespace cluster) := by
  have hmarker : ∀ k ∈ keys, startsWith (head k) marker = false := by decide
  have hhead : ∀ k ∈ keys, ∃ c, (head k).toList.head? = some c ∧ c ≠ ' ' ∧ c ≠ '-' := by
    intro k hk
    simp only [keys, List.mem_cons, List.not_mem_nil, or_false] at hk
    rcases hk with rfl | rfl | rfl | rfl
    · exact ⟨'e', rfl, by decide, by decide⟩
    · exact ⟨'c', rfl, by decide, by decide⟩
    · exact ⟨'l', rfl, by decide, by decide⟩
    · exact ⟨'r', rfl, by decide, by decide⟩
  intro k hk l hl
  obtain ⟨c, hc, h₁, h₂⟩ := hhead k hk
  exact startsWith_block _ _ hc h₁ h₂ (hmarker k hk) l hl

theorem SetsNone.settle (h : SetsNone block) (hp : first <+: keys) :
    ∀ l ∈ block, settle value first l = l :=
  fun l hl => settle_of_not_set fun k hk => h k (hp.subset hk) l hl

/-- Which properties are lacking does not depend on the block. -/
theorem lacking_replace {b c : List String} (hb : SetsNone b) (hc : SetsNone c)
    (hp : first <+: keys) (lines : List String) :
    lacking (wanted value first) (replace b lines) =
      lacking (wanted value first) (replace c lines) := by
  have hany : ∀ k ∈ keys, ∀ b, SetsNone b → (replace b lines).any (isSetBy k) =
      (replace [] lines).any (isSetBy k) := by
    intro k hk b hb
    -- neither block has a line for the property, so the lines for it are the same
    have hf := filter_replaceFrom (hb k hk) false lines
    rw [Bool.eq_iff_iff, List.any_eq_true, List.any_eq_true]
    constructor
    · rintro ⟨l, hl, hs⟩
      have hm : l ∈ (replaceFrom [] false lines).filter (isSetBy k) :=
        hf ▸ List.mem_filter.mpr ⟨hl, hs⟩
      exact ⟨l, (List.mem_filter.mp hm).1, hs⟩
    · rintro ⟨l, hl, hs⟩
      have hm : l ∈ (replaceFrom b false lines).filter (isSetBy k) :=
        hf ▸ List.mem_filter.mpr ⟨hl, hs⟩
      exact ⟨l, (List.mem_filter.mp hm).1, hs⟩
  apply lacking_congr
  intro w hw
  obtain ⟨k, hk, rfl⟩ := List.mem_map.mp hw
  exact (hany k (hp.subset hk) b hb).trans (hany k (hp.subset hk) c hc).symm

/-- A replacement behind a preparation that went some way. -/
theorem assignAll_replace_assignAll {b c : List String} (hb : SetsNone b) (hc : SetsNone c)
    (hblock : IsBlock c) (hp : first <+: keys) (value other : String → String)
    (lines : List String) :
    assignAll value keys (replace b (assignAll other first (replace c lines))) =
      assignAll value keys (replace b lines) := by
  have hfirst := keys_toldApart.of_prefix hp
  have hkeep := keepsSections_settle hp.sublist other
  have hsettled : replace b ((replace c lines).map (settle other first)) =
      (replace b lines).map (settle other first) := by
    rw [replace, replaceFrom_map hkeep (hb.settle hp), replace, replaceFrom_replaceFrom hblock]
    rfl
  have hopen : openAfter false ((replace c lines).map (settle other first)) =
      openAfter false lines := by
    rw [openAfter_map hkeep, replace, openAfter_replaceFrom hblock]
  rw [assignAll_eq hfirst other (replace c lines), replace, replaceFrom_append, hopen,
    replaceFrom_plain (isPlain_of_mem_lacking hp.sublist)]
  show assignAll value keys (replace b _ ++ _) = _
  rw [hsettled]
  cases openAfter false lines with
  | true =>
    -- the properties that came behind belong to the last section
    rw [if_pos rfl, List.append_nil, assignAll_map_settle keys_toldApart hp]
  | false =>
    -- they stay, and are those that the lines before lack too
    rw [if_neg Bool.false_ne_true, lacking_replace hc hb hp, ← assignAll_eq hfirst,
      assignAll_assignAll keys_toldApart hp]

/-! ### The preparation -/

/-- The value that a preparation sets a property to. -/
def propertyValue (s : Setup) (key : String) : String :=
  if key = "endpoint_snitch" then snitch
  else if key = "cluster_name" then s.value Environment.clusterName
  else s.value Environment.listenAddress

/-- The block that a preparation puts in the place of sections. -/
def seedBlock (s : Setup) : List String :=
  SeedSection.block (s.value Environment.clusterNamespace) (s.value Environment.clusterName)

/-- Whether the seed provider's section stays as it is. -/
def keepsSeeds (s : Setup) : Bool := s.environment.flag Environment.useDefaultSeedProvider

/-- The lines with their sections replaced, if they are. -/
def reseed (s : Setup) (lines : List String) : List String :=
  if s.keepsSeeds then lines else SeedSection.replace s.seedBlock lines

/-- The lines of the database's configuration after a preparation. -/
def prepared (s : Setup) (lines : List String) : List String :=
  assignAll s.propertyValue keys (s.reseed lines)

variable {s r : Setup}

theorem setsNone_seedBlock (s : Setup) : SetsNone s.seedBlock :=
  setsNone_block _ _

/-- Preparing lines that another preparation has left, or left half-way. -/
theorem prepared_resume (hflag : r.keepsSeeds = s.keepsSeeds) (hp : first <+: keys)
    (lines : List String) :
    s.prepared (assignAll r.propertyValue first (r.reseed lines)) = s.prepared lines := by
  rw [prepared, prepared, reseed, reseed, reseed, hflag]
  cases s.keepsSeeds with
  | true => exact assignAll_assignAll keys_toldApart hp _ _ lines
  | false =>
    exact assignAll_replace_assignAll (setsNone_seedBlock s) (setsNone_seedBlock r)
      (isBlock_block _ _) hp _ _ lines

/-- What was prepared stays so. -/
theorem prepared_prepared (s : Setup) (lines : List String) :
    s.prepared (s.prepared lines) = s.prepared lines :=
  prepared_resume rfl (List.prefix_refl keys) lines

end Setup

end NodeBootstrap

/-
NodeBootstrap/Proofs/Config/SeedSection.lean

Replacing the sections of a file.  The lines are scanned in two states, inside
a section and outside of any; `openAfter` is the state that a scan ends in.

A block that is put in the place of a section is one section itself
(`IsBlock`), which the next replacement finds just where the old one was; so of
two replacements only the second one counts (`replaceFrom_replaceFrom`), and
the lines outside sections stay through all of them (`outside_replace`).
-/
import NodeBootstrap.Config.SeedSection

namespace NodeBootstrap.SeedSection

/-! ### Scanning -/

/-- Whether the line after a given one is inside a section. -/
def follows (inside : Bool) (line : String) : Bool :=
  decide (line = marker) || (inside && !isComment line)

/-- Whether a section is open after lines, if one was open before or not. -/
def openAfter (inside : Bool) (lines : List String) : Bool := lines.foldl follows inside

/-- What one line is replaced by. -/
def replaceLine (block : List String) (inside : Bool) (line : String) : List String :=
  if line = marker then block else if inside && !isComment line then [] else [line]

variable {block other : List String} {inside : Bool}

theorem replaceFrom_cons (block : List String) (inside : Bool) (line : String)
    (rest : List String) :
    replaceFrom block inside (line :: rest) =
      replaceLine block inside line ++ replaceFrom block (follows inside line) rest := by
  rw [replaceFrom, replaceLine, follows]
  by_cases hm : line = marker
  · simp [hm]
  · by_cases hi : (inside && !isComment line) = true
    · simp [hm, hi]
    · simp [hm, Bool.eq_false_iff.mpr hi]

theorem replaceFrom_append (block : List String) (inside : Bool) (xs ys : List String) :
    replaceFrom block inside (xs ++ ys) =
      replaceFrom block inside xs ++ replaceFrom block (openAfter inside xs) ys := by
  induction xs generalizing inside with
  | nil => rfl
  | cons x xs ih =>
    rw [List.cons_append, replaceFrom_cons, replaceFrom_cons, ih, List.append_assoc]
    rfl

theorem openAfter_append (inside : Bool) (xs ys : List String) :
    openAfter inside (xs ++ ys) = openAfter (openAfter inside xs) ys :=
  List.foldl_append

/-! ### Plain lines -/

/-- A line that neither starts a section nor ends one. -/
structure IsPlain (line : String) : Prop where
  ne_marker : line ≠ marker
  not_comment : isComment line = false

instance (line : String) : Decidable (IsPlain line) :=
  decidable_of_iff (line ≠ marker ∧ isComment line = false)
    ⟨fun h => ⟨h.1, h.2⟩, fun h => ⟨h.ne_marker, h.not_comment⟩⟩

theorem IsPlain.follows {line : String} (h : IsPlain line) (inside : Bool) :
    follows inside line = inside := by
  simp [SeedSection.follows, h.ne_marker, h.not_comment]

theorem openAfter_plain {lines : List String} (h : ∀ l ∈ lines, IsPlain l) (inside : Bool) :
    openAfter inside lines = inside := by
  induction lines with
  | nil => rfl
  | cons l lines ih =>
    show openAfter (SeedSection.follows inside l) lines = inside
    rw [(h l List.mem_cons_self).follows]
    exact ih fun m hm => h m (List.mem_cons_of_mem _ hm)

/-- Plain lines belong to the section that is open before them, if any. -/
theorem replaceFrom_plain {lines : List String} (h : ∀ l ∈ lines, IsPlain l)
    (block : List String) (inside : Bool) :
    replaceFrom block inside lines = if inside then [] else lines := by
  induction lines with
  | nil => cases inside <;> rfl
  | cons l lines ih =>
    have hl : IsPlain l := h l List.mem_cons_self
    rw [replaceFrom_cons, hl.follows, ih fun m hm => h m (List.mem_cons_of_mem _ hm), replaceLine,
      if_neg hl.ne_marker, hl.not_comment]
    cases inside <;> rfl

/-! ### Blocks -/

/-- A block is one whole section: a marker and plain lines. -/
def IsBlock (block : List String) : Prop :=
  ∃ tail, block = marker :: tail ∧ ∀ l ∈ tail, IsPlain l

theorem IsBlock.openAfter (h : IsBlock other) (inside : Bool) : openAfter inside other = true := by
  obtain ⟨tail, rfl, ht⟩ := h
  show SeedSection.openAfter (follows inside marker) tail = true
  rw [openAfter_plain ht, follows, decide_eq_true rfl, Bool.true_or]

theorem IsBlock.replaceFrom (h : IsBlock other) (block : List String) (inside : Bool) :
    replaceFrom block inside other = block := by
  obtain ⟨tail, rfl, ht⟩ := h
  rw [replaceFrom_cons, replaceLine, if_pos rfl, follows, decide_eq_true rfl, Bool.true_or,
    replaceFrom_plain ht, if_pos rfl, List.append_nil]

theorem openAfter_replaceLine (h : IsBlock other) (inside : Bool) (line : String) :
    openAfter inside (replaceLine other inside line) = follows inside line := by
  rw [replaceLine]
  split
  · rename_i hm
    rw [h.openAfter, hm, follows, decide_eq_true rfl, Bool.true_or]
  · rename_i hm
    split
    · rename_i hi
      rw [follows, hi, Bool.or_true]
      cases inside with
      | true => rfl
      | false => contradiction
    · rfl

theorem replaceFrom_replaceLine (h : IsBlock other) (block : List String) (inside : Bool)
    (line : String) :
    replaceFrom block inside (replaceLine other inside line) = replaceLine block inside line := by
  rw [replaceLine]
  split
  · rename_i hm
    rw [h.replaceFrom, hm, replaceLine, if_pos rfl]
  · rename_i hm
    split
    · rename_i hi
      rw [replaceLine, if_neg hm, if_pos hi]
      rfl
    · rw [replaceFrom_cons]
      exact List.append_nil _

/-- A replacement leaves a section open where one was. -/
theorem openAfter_replaceFrom (h : IsBlock other) (inside : Bool) (lines : List String) :
    openAfter inside (replaceFrom other inside lines) = openAfter inside lines := by
  induction lines generalizing inside with
  | nil => rfl
  | cons line rest ih =>
    rw [replaceFrom_cons, openAfter_append, openAfter_replaceLine h, ih]
    rfl

/-- Of two replacements the second one counts. -/
theorem replaceFrom_replaceFrom (h : IsBlock other) (block : List String) (inside : Bool)
    (lines : List String) :
    replaceFrom block inside (replaceFrom other inside lines) = replaceFrom block inside lines := by
  induction lines generalizing inside with
  | nil => rfl
  | cons line rest ih =>
    rw [replaceFrom_cons, replaceFrom_append, openAfter_replaceLine h, replaceFrom_replaceLine h,
      ih, replaceFrom_cons]

/-! ### Lines edited in their places -/

/-- An edit of lines that leaves sections where they are. -/
structure KeepsSections (edit : String → String) : Prop where
  marker_iff : ∀ l, edit l = marker ↔ l = marker
  comment : ∀ l, isComment (edit l) = isComment l

variable {edit : String → String}

theorem KeepsSections.follows (h : KeepsSections edit) (inside : Bool) (line : String) :
    follows inside (edit line) = follows inside line := by
  simp [SeedSection.follows, h.marker_iff, h.comment]

theorem openAfter_map (h : KeepsSections edit) (inside : Bool) (lines : List String) :
    openAfter inside (lines.map edit) = openAfter inside lines := by
  rw [openAfter, List.foldl_map]
  congr 1
  funext i l
  exact h.follows i l

theorem replaceFrom_map (h : KeepsSections edit) (hb : ∀ l ∈ block, edit l = l) (inside : Bool)
    (lines : List String) :
    replaceFrom block inside (lines.map edit) = (replaceFrom block inside lines).map edit := by
  have hline : ∀ i l, replaceLine block i (edit l) = (replaceLine block i l).map edit := by
    intro i l
    have hblock : block.map edit = block := by
      rw [List.map_congr_left hb]
      exact List.map_id _
    by_cases hm : l = marker
    · rw [replaceLine, replaceLine, if_pos ((h.marker_iff l).mpr hm), if_pos hm, hblock]
    · rw [replaceLine, replaceLine, if_neg (mt (h.marker_iff l).mp hm), if_neg hm, h.comment]
      split <;> rfl
  induction lines generalizing inside with
  | nil => rfl
  | cons l lines ih =>
    rw [List.map_cons, replaceFrom_cons, replaceFrom_cons, h.follows, ih, hline, List.map_append]

/-! ### Lines outside sections -/

/-- Lines of a kind that a block has none of are those outside sections. -/
theorem filter_replaceFrom {kind : String → Bool} (hb : ∀ l ∈ block, kind l = false)
    (inside : Bool) (lines : List String) :
    (replaceFrom block inside lines).filter kind = (replaceFrom [] inside lines).filter kind := by
  have hblock : block.filter kind = [] := by
    rw [List.filter_eq_nil_iff]
    intro l hl
    simp [hb l hl]
  induction lines generalizing inside with
  | nil => rfl
  | cons l lines ih =>
    rw [replaceFrom_cons, replaceFrom_cons, List.filter_append, List.filter_append, ih]
    congr 1
    rw [replaceLine, replaceLine]
    split
    · exact hblock
    · rfl

/-- All comments are outside sections. -/
theorem filter_comment_replaceFrom (inside : Bool) (lines : List String) :
    (replaceFrom [] inside lines).filter isComment = lines.filter isComment := by
  induction lines generalizing inside with
  | nil => rfl
  | cons l lines ih =>
    rw [replaceFrom_cons, List.filter_append, ih, ← List.singleton_append, List.filter_append]
    congr 1
    rw [replaceLine]
    split
    · rename_i hm
      rw [hm]
      rfl
    · split
      · rename_i hi
        rw [Bool.and_eq_true, Bool.not_eq_true'] at hi
        simp [hi.2]
      · rfl

/-- The lines outside sections.  A section is a marker line with the lines
after it up to the next comment, the next marker line or the end. -/
def outside : List String → List String
  | [] => []
  | line :: rest =>
    if line = marker then outside (rest.dropWhile fun l => decide (IsPlain l))
    else line :: outside rest
termination_by lines => lines.length
decreasing_by
  · exact Nat.lt_succ_of_le (List.dropWhile_sublist _).length_le
  · exact Nat.lt_succ_self _

theorem replaceFrom_dropWhile (block lines : List String) :
    replaceFrom block true lines =
      replaceFrom block false (lines.dropWhile fun l => decide (IsPlain l)) := by
  induction lines with
  | nil => rfl
  | cons l lines ih =>
    by_cases hl : IsPlain l
    · rw [List.dropWhile_cons, if_pos (decide_eq_true hl), ← ih, replaceFrom_cons, hl.follows,
        replaceLine, if_neg hl.ne_marker, hl.not_comment]
      rfl
    · -- a marker or a comment is read alike in both states
      rw [List.dropWhile_cons, if_neg (by simpa using hl), replaceFrom_cons, replaceFrom_cons]
      by_cases hm : l = marker
      · rw [replaceLine, replaceLine, if_pos hm, if_pos hm, follows, follows, decide_eq_true hm]
        rfl
      · have hc : isComment l = true := by
          cases hc : isComment l with
          | true => rfl
          | false => exact absurd ⟨hm, hc⟩ hl
        rw [replaceLine, replaceLine, follows, follows, hc]
        rfl

/-- Without a block in its place, a section is left out. -/
theorem outside_eq (lines : List String) : outside lines = replace [] lines := by
  fun_induction outside lines with
  | case1 => rfl
  | case2 rest ih =>
    rw [ih, replace, replace, ← replaceFrom_dropWhile]
    rfl
  | case3 line rest hm ih =>
    rw [ih, replace, replace, replaceFrom_cons, replaceLine, if_neg hm, follows,
      decide_eq_false hm]
    rfl

end NodeBootstrap.SeedSection

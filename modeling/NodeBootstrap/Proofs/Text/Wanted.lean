/-
NodeBootstrap/Proofs/Text/Wanted.lean

Lines that a file should have, each known by what it starts with.  A file
lacks those of which no line has the start (`lacking`).  Where no start is a
beginning of another one (`Distinct`), a line answers to one start only; then
adding the lines that are lacking leaves none lacking, and a file to which
only a first part was added lacks just the rest (`lacking_resume`).
-/
import NodeBootstrap.Text.Lines

namespace NodeBootstrap.Lines

/-! ### Starts of lines -/

theorem startsWith_iff {head line : String} :
    startsWith head line = true ↔ head.toList <+: line.toList := by
  rw [startsWith, List.isPrefixOf_iff_prefix]

theorem startsWith_append (head rest : String) : startsWith head (head ++ rest) = true := by
  rw [startsWith_iff, String.toList_append]
  exact List.prefix_append _ _

/-- Neither text is a beginning of the other. -/
structure Apart (g h : String) : Prop where
  left : startsWith g h = false
  right : startsWith h g = false

instance (g h : String) : Decidable (Apart g h) :=
  decidable_of_iff (startsWith g h = false ∧ startsWith h g = false)
    ⟨fun k => ⟨k.1, k.2⟩, fun k => ⟨k.left, k.right⟩⟩

namespace Apart

variable {g h : String}

theorem symm (k : Apart g h) : Apart h g := ⟨k.right, k.left⟩

/-- A line with one start does not have another one apart from it. -/
theorem startsWith_eq_false {line : String} (k : Apart g h) (hg : startsWith g line = true) :
    startsWith h line = false := by
  rw [Bool.eq_false_iff]
  intro hh
  rw [startsWith_iff] at hg hh
  rcases List.prefix_or_prefix_of_prefix hg hh with hp | hp
  · exact Bool.eq_false_iff.mp k.left (startsWith_iff.mpr hp)
  · exact Bool.eq_false_iff.mp k.right (startsWith_iff.mpr hp)

/-- A longer text stays apart. -/
theorem append_left (k : Apart g h) (more : String) : Apart (g ++ more) h := by
  refine ⟨?_, k.startsWith_eq_false (startsWith_append g more)⟩
  rw [Bool.eq_false_iff]
  intro e
  rw [startsWith_iff, String.toList_append] at e
  have hp : g.toList <+: h.toList := (List.prefix_append _ _).trans e
  exact Bool.eq_false_iff.mp k.left (startsWith_iff.mpr hp)

/-- A common beginning keeps texts apart. -/
theorem prepend (k : Apart g h) (start : String) : Apart (start ++ g) (start ++ h) := by
  have hs : ∀ x y : String, startsWith (start ++ x) (start ++ y) = startsWith x y := by
    intro x y
    rw [Bool.eq_iff_iff, startsWith_iff, startsWith_iff, String.toList_append,
      String.toList_append, List.prefix_append_right_inj]
  exact ⟨(hs g h).trans k.left, (hs h g).trans k.right⟩

end Apart

/-- Of things that are told apart by their starts, any two are. -/
theorem apart_of_ne {α : Type} {start : α → String} {things : List α}
    (h : things.Pairwise fun x y => Apart (start x) (start y)) {x y : α} (hx : x ∈ things)
    (hy : y ∈ things) (hne : x ≠ y) : Apart (start x) (start y) := by
  have hall : ∀ ⦃x⦄, x ∈ things → ∀ ⦃y⦄, y ∈ things → x ≠ y → Apart (start x) (start y) := by
    apply List.Pairwise.forall_of_forall_of_flip
    · exact fun x _ h => absurd rfl h
    · refine List.Pairwise.imp ?_ h
      exact fun ha _ => ha
    · refine List.Pairwise.imp ?_ h
      exact fun ha _ => ha.symm
  exact hall hx hy hne

/-! ### Wanted lines -/

/-- The lines of those wanted that a file lacks.  A wanted line comes with
what it is known by. -/
def lacking (wanted : List (String × String)) (lines : List String) : List String :=
  (wanted.filter fun w => !lines.any (startsWith w.1)).map (·.2)

/-- A line, unless some line of a file starts as it does. -/
def unlessStarted (start line : String) (lines : List String) : List String :=
  if ∃ l ∈ lines, startsWith start l = true then [] else [line]

/-- Wanted lines that are told apart by their starts. -/
structure Distinct (wanted : List (String × String)) : Prop where
  own : ∀ w ∈ wanted, startsWith w.1 w.2 = true
  apart : wanted.Pairwise fun v w => Apart v.1 w.1

variable {ws xs ys : List (String × String)} {ls ms : List String}

/-- What is lacking depends on the starts that there are. -/
theorem lacking_congr
    (h : ∀ w ∈ ws, ls.any (startsWith w.1) = ms.any (startsWith w.1)) :
    lacking ws ls = lacking ws ms := by
  rw [lacking, lacking]
  congr 1
  apply List.filter_congr
  intro w hw
  rw [h w hw]

theorem mem_lacking {l : String} :
    l ∈ lacking ws ls ↔ ∃ w ∈ ws, ls.any (startsWith w.1) = false ∧ w.2 = l := by
  simp [lacking, and_assoc]

theorem lacking_eq_nil_iff :
    lacking ws ls = [] ↔ ∀ w ∈ ws, ls.any (startsWith w.1) = true := by
  simp [lacking]

/-- What is lacking, line by line. -/
theorem lacking_cons (w : String × String) (ws : List (String × String)) (ls : List String) :
    lacking (w :: ws) ls = unlessStarted w.1 w.2 ls ++ lacking ws ls := by
  by_cases h : ∃ l ∈ ls, startsWith w.1 l = true
  · rw [unlessStarted, if_pos h, lacking, List.filter_cons, List.any_eq_true.mpr h]
    rfl
  · have hnone : ls.any (startsWith w.1) = false :=
      Bool.eq_false_iff.mpr (mt List.any_eq_true.mp h)
    rw [unlessStarted, if_neg h, lacking, List.filter_cons, hnone]
    rfl

theorem lacking_append_wanted (xs ys : List (String × String)) (ls : List String) :
    lacking (xs ++ ys) ls = lacking xs ls ++ lacking ys ls := by
  rw [lacking, List.filter_append, List.map_append]
  rfl

namespace Distinct

/-- Adding what is lacking leaves nothing lacking. -/
theorem lacking_append_lacking (h : ∀ w ∈ xs, startsWith w.1 w.2 = true) (ls : List String) :
    lacking xs (ls ++ lacking xs ls) = [] := by
  rw [lacking_eq_nil_iff]
  intro w hw
  rw [List.any_append, Bool.or_eq_true]
  cases hl : ls.any (startsWith w.1) with
  | true => exact .inl rfl
  | false =>
    -- what was lacking has been added, and starts as it should
    right
    exact List.any_eq_true.mpr ⟨w.2, mem_lacking.mpr ⟨w, hw, hl, rfl⟩, h w hw⟩

/-- The lines that one part wants do not answer to another part. -/
theorem lacking_append_right (h : Distinct (xs ++ ys)) (ls : List String) :
    lacking ys (ls ++ lacking xs ls) = lacking ys ls := by
  apply lacking_congr
  intro v hv
  have hn : (lacking xs ls).any (startsWith v.1) = false := by
    rw [List.any_eq_false]
    intro l hl
    obtain ⟨w, hw, _, rfl⟩ := mem_lacking.mp hl
    have ha : Apart w.1 v.1 := (List.pairwise_append.mp h.apart).2.2 w hw v hv
    rw [ha.startsWith_eq_false (h.own w (List.mem_append_left _ hw))]
    exact Bool.false_ne_true
  rw [List.any_append, hn, Bool.or_false]

/-- A wanted line has the start of no other one. -/
theorem eq_of_startsWith (h : Distinct ws) {v w : String × String} (hw : w ∈ ws) (hv : v ∈ ws)
    (hs : startsWith w.1 v.2 = true) : v = w := by
  by_cases e : v = w
  · exact e
  · have ha : Apart v.1 w.1 := apart_of_ne h.apart hv hw e
    rw [ha.startsWith_eq_false (h.own v hv)] at hs
    contradiction

theorem of_append_left (h : Distinct (xs ++ ys)) : Distinct xs :=
  ⟨fun w hw => h.own w (List.mem_append_left _ hw), (List.pairwise_append.mp h.apart).1⟩

theorem of_prefix (h : Distinct ys) (hp : xs <+: ys) : Distinct xs := by
  obtain ⟨zs, rfl⟩ := hp
  exact h.of_append_left

/-- Lines that are wanted in two parts can be added part by part. -/
theorem lacking_append (h : Distinct (xs ++ ys)) (ls : List String) :
    lacking (xs ++ ys) ls = lacking xs ls ++ lacking ys (ls ++ lacking xs ls) := by
  rw [lacking_append_wanted, h.lacking_append_right]

/-- With a first part added, the rest is lacking, in its order. -/
theorem lacking_resume (h : Distinct ys) (hp : xs <+: ys) (ls : List String) :
    lacking xs ls ++ lacking ys (ls ++ lacking xs ls) = lacking ys ls := by
  obtain ⟨zs, rfl⟩ := hp
  have hx := lacking_append_lacking h.of_append_left.own ls
  rw [lacking_append_wanted xs zs (ls ++ _), hx, List.nil_append, h.lacking_append]

/-- No line is lacking twice. -/
theorem nodup_lacking (h : Distinct ws) (ls : List String) : (lacking ws ls).Nodup := by
  have hne : ws.Pairwise fun v w => v.2 ≠ w.2 := by
    refine List.Pairwise.imp_of_mem ?_ h.apart
    intro v w hv hw ha heq
    have hs := h.own w hw
    rw [← heq, ha.startsWith_eq_false (h.own v hv)] at hs
    contradiction
  exact List.pairwise_map.mpr (hne.sublist List.filter_sublist)

/-- A wanted line that may be there already, but not otherwise, is there as
often as before, or once. -/
theorem count_append_lacking {w : String × String} (h : Distinct ws) (hw : w ∈ ws)
    (hfit : (∃ l ∈ ls, startsWith w.1 l = true) → w.2 ∈ ls) :
    (ls ++ lacking ws ls).count w.2 = max 1 (ls.count w.2) := by
  rw [List.count_append]
  by_cases hany : ls.any (startsWith w.1) = true
  · -- the line is among those that were there
    have hmem : w.2 ∈ ls := hfit (List.any_eq_true.mp hany)
    have hno : w.2 ∉ lacking ws ls := by
      intro hm
      obtain ⟨v, hv, hnone, heq⟩ := mem_lacking.mp hm
      obtain rfl : v = w := h.eq_of_startsWith hw hv (heq ▸ h.own w hw)
      rw [hany] at hnone
      contradiction
    rw [List.count_eq_zero.mpr hno]
    have := List.count_pos_iff.mpr hmem
    omega
  · have hmem : w.2 ∈ lacking ws ls :=
      mem_lacking.mpr ⟨w, hw, Bool.eq_false_iff.mpr hany, rfl⟩
    have hno : w.2 ∉ ls := fun hm => hany (List.any_eq_true.mpr ⟨w.2, hm, h.own w hw⟩)
    rw [List.count_eq_zero.mpr hno]
    have := List.nodup_iff_count.mp (h.nodup_lacking ls) w.2
    have := List.count_pos_iff.mpr hmem
    omega

end Distinct

end NodeBootstrap.Lines

/-
NodeBootstrap/Proofs/Text/Split.lean

What stands behind the last occurrence of a mark.  An occurrence is the last
one if the mark does not occur again from its second character on, so two
occurrences may overlap (`behindLast?_eq_some_iff`).
-/
import NodeBootstrap.Text.Split

namespace NodeBootstrap.Split

variable {mark cs rest : List Char}

theorem behindLast?_eq_none_iff (hm : mark ≠ []) :
    behindLast? mark cs = none ↔ ¬ mark <:+: cs := by
  induction cs with
  | nil => simp [behindLast?, hm]
  | cons c cs ih =>
    rw [behindLast?, List.infix_cons_iff, not_or, ← List.isPrefixOf_iff_prefix]
    rcases e : behindLast? mark cs with - | found
    · simp [ih.mp e]
    · have hin : mark <:+: cs := by
        refine Classical.byContradiction fun hno => ?_
        rw [ih.mpr hno] at e
        contradiction
      simp [hin]

theorem behindLast?_append (hm : mark ≠ []) (before : List Char)
    (h : ¬ mark <:+: mark.tail ++ rest) :
    behindLast? mark (before ++ mark ++ rest) = some rest := by
  induction before with
  | nil =>
    obtain ⟨c, tail, rfl⟩ := List.exists_cons_of_ne_nil hm
    have hnone : behindLast? (c :: tail) (tail ++ rest) = none := (behindLast?_eq_none_iff hm).mpr h
    have hp : (c :: tail).isPrefixOf (c :: (tail ++ rest)) = true :=
      List.isPrefixOf_iff_prefix.mpr (List.prefix_append (c :: tail) rest)
    show behindLast? (c :: tail) (c :: (tail ++ rest)) = some rest
    rw [behindLast?, hnone, hp]
    simp
  | cons b before ih =>
    rw [List.cons_append, List.cons_append, behindLast?, ih]

/-- The rest behind a mark that does not occur again, not even in part within
itself. -/
theorem behindLast?_eq_some_iff (hm : mark ≠ []) :
    behindLast? mark cs = some rest ↔
      (∃ before, cs = before ++ mark ++ rest) ∧ ¬ mark <:+: mark.tail ++ rest := by
  constructor
  · intro h
    induction cs with
    | nil => contradiction
    | cons c cs ih =>
      rw [behindLast?] at h
      rcases e : behindLast? mark cs with - | found
      · -- the mark is at the start, and nowhere behind it
        rw [e] at h
        dsimp only at h
        split at h
        · rename_i hp
          obtain ⟨left, hleft⟩ := List.isPrefixOf_iff_prefix.mp hp
          rw [← hleft, List.drop_left, Option.some.injEq] at h
          subst h
          obtain ⟨d, tail, rfl⟩ := List.exists_cons_of_ne_nil hm
          obtain ⟨-, rfl⟩ := List.cons.inj hleft
          exact ⟨⟨[], hleft.symm⟩, (behindLast?_eq_none_iff hm).mp e⟩
        · contradiction
      · rw [e] at h
        obtain ⟨⟨before, hbefore⟩, hlast⟩ := ih (e.trans h)
        exact ⟨⟨c :: before, by rw [hbefore]; rfl⟩, hlast⟩
  · rintro ⟨⟨before, rfl⟩, hlast⟩
    exact behindLast?_append hm before hlast

end NodeBootstrap.Split

/-
NodeBootstrap/Proofs/Tree/Writing.lean

Writing a file, all or nothing.  A writing that fails changes nothing but the
file beside its target, which it clears away (`Spares`).  One that goes
through leaves the bytes of the lines at the path, nothing beside it and
everything else as it was (`Replaced`), whatever stood at the path before
(`exists_writeLines_of_sameAround`).  The lines are read back as they were
given just if none of them holds a line end.
-/
import NodeBootstrap.Proofs.Tree.Path

namespace NodeBootstrap.Tree

open NodeBootstrap.Lines

/-! ### The working directory -/

/-- No writing changes the working directory. -/
theorem here_writeLines (t : Tree) (path : String) (lines : List String) :
    (t.writeLines path lines).2.here = t.here := by
  fun_cases Tree.writeLines t path lines <;> try rfl
  fun_cases Tree.replace t _ path _ <;> rfl

theorem here_appendLines (t : Tree) (path : String) (lines : List String) :
    (t.appendLines path lines).2.here = t.here := by
  fun_cases Tree.appendLines t path lines <;> rfl

/-! ### A writing that fails -/

/-- The location of the file beside a target. -/
def IsBeside (t : Tree) (path : String) (l : Location) : Prop :=
  ∃ p, (Path.ofText path).withSuffix? temporarySuffix = some p ∧ t.locate p = .ok l

/-- Nothing is changed, but that the file beside a target may be gone. -/
inductive Spares (t : Tree) (path : String) : Tree → Prop
  | same : Spares t path t
  | cleared {beside : Location} :
      t.IsBeside path beside → t.entryAt beside ≠ some .directory →
        Spares t path (t.remove beside)

variable {t u : Tree} {path : String} {lines : List String} {f : Fault} {target beside : Location}

theorem spares_of_replace {beside : Location} {bytes : ByteArray} (hbeside : t.IsBeside path beside)
    (hdir : t.entryAt beside ≠ some .directory)
    (h : t.replace beside path bytes = (.error f, u)) : Spares t path u := by
  rw [replace] at h
  split at h
  · split at h
    · cases h
      exact .cleared hbeside hdir
    · cases h
  · cases h
    exact .cleared hbeside hdir

/-- A writing that fails changes nothing but the file beside the target. -/
theorem spares_of_writeLines (h : t.writeLines path lines = (.error f, u)) : Spares t path u := by
  revert h
  fun_cases Tree.writeLines t path lines <;> intro h
  · cases h
  · cases h; exact .same
  · cases h; exact .same
  · cases h; exact .same
  · cases h; exact .same
  · cases h; exact .same
  · rename_i temporary hsuffix _ beside hlocate hdir
    exact spares_of_replace ⟨temporary, hsuffix, hlocate⟩ hdir h

/-- Lines that cannot be added change nothing. -/
theorem spares_of_appendLines (h : t.appendLines path lines = (.error f, u)) :
    Spares t path u := by
  revert h
  fun_cases Tree.appendLines t path lines <;> intro h <;> cases h <;> exact .same

theorem Spares.here (h : Spares t path u) : u.here = t.here := by
  cases h <;> rfl

theorem Spares.entryAt_eq (h : Spares t path u) {l : Location} (hl : ¬ t.IsBeside path l) :
    u.entryAt l = t.entryAt l := by
  cases h with
  | same => rfl
  | cleared hbeside hdir =>
    rw [entryAt_remove _ _ _ (ne_nil_of_entryAt_ne hdir), if_neg]
    rintro rfl
    exact hl hbeside

/-- The file beside the target is as it was, or it is gone. -/
theorem Spares.entryAt_beside (h : Spares t path u) (l : Location) :
    u.entryAt l = t.entryAt l ∨ t.entryAt l ≠ some .directory ∧ u.entryAt l = none := by
  cases h with
  | same => exact .inl rfl
  | @cleared beside hbeside hdir =>
    rw [entryAt_remove _ _ _ (ne_nil_of_entryAt_ne hdir)]
    split
    · rename_i heq
      exact .inr ⟨heq ▸ hdir, rfl⟩
    · exact .inl rfl

/-! ### The file beside the target -/

/-- The last name of a path leads up from the directory of the others, or to
an entry of that name in it. -/
theorem exists_follow_concat {base l : Location} {names : List String} {name : String}
    (h : t.follow base (names ++ [name]) = .ok l) :
    ∃ d, t.follow base names = .ok d ∧ (name = ".." ∧ l = d.dropLast ∨ l = d ++ [name]) := by
  rw [follow_append] at h
  rcases hd : t.follow base names with o | d
  · rw [hd] at h
    cases h
  refine ⟨d, rfl, ?_⟩
  rw [hd, Except.bind, follow] at h
  split at h
  · split at h
    · exact .inl ⟨‹_›, (Except.ok.inj h).symm⟩
    · split at h
      · cases h
      · exact .inr (Except.ok.inj h).symm
  · cases h
  · cases h

theorem length_append_temporarySuffix (name : String) :
    (name ++ temporarySuffix).length = name.length + 4 :=
  String.length_append name temporarySuffix

/-- The file beside a target is another one. -/
theorem Site.beside_ne (h : Site t path target beside) : beside ≠ target := by
  obtain ⟨p, hp, hbeside⟩ := h.locateBeside
  obtain ⟨name, hname, rfl⟩ := Option.map_eq_some_iff.mp hp
  obtain ⟨names, hnames⟩ := List.getLast?_eq_some_iff.mp hname
  have htarget := h.locate
  rw [Tree.locate, hnames] at htarget
  rw [Tree.locate, hnames, List.dropLast_concat] at hbeside
  -- both are followed from the directory of the names before the last
  obtain ⟨d, hd, htarget⟩ := exists_follow_concat htarget
  obtain ⟨d', hd', hbeside⟩ := exists_follow_concat hbeside
  obtain rfl : d = d' := Except.ok.inj (hd.symm.trans hd')
  have hlength := length_append_temporarySuffix name
  have hup : name ++ temporarySuffix ≠ ".." := by
    intro e
    have hdots : (name ++ temporarySuffix).length = 2 := congrArg String.length e
    omega
  obtain rfl := hbeside.resolve_left fun hl => hup hl.1
  rcases htarget with ⟨-, rfl⟩ | rfl
  · intro e
    have hshort : d.length + 1 = d.length - 1 := by simpa using congrArg List.length e
    omega
  · intro e
    have hsame := congrArg String.length (List.cons.inj (List.append_cancel_left e)).1
    omega

/-! ### Bytes and lines -/

/-- Written lines are their bytes, each with the byte of LF behind it. -/
theorem toList_data_joined (lines : List String) :
    (joined lines).toUTF8.data.toList = lines.flatMap fun l => l.toUTF8.data.toList ++ [10] := by
  have hlf : String.utf8EncodeChar '\n' = [10] := rfl
  rw [toList_data_toUTF8, toList_joined, List.flatMap_assoc]
  simp only [List.flatMap_append, List.flatMap_singleton, hlf, toList_data_toUTF8]

/-- What was written is read back just if each line is one line. -/
theorem readLines_of_writeLines_iff (hne : lines ≠ []) (h : t.writeLines path lines = (.ok (), u)) :
    u.readLines path = .ok lines ↔ ∀ l ∈ lines, IsLine l :=
  ⟨isLine_of_readLines, fun hl => readLines_of_writeLines hne hl h⟩

/-! ### A writing that goes through -/

/-- What a writing that goes through leaves: the bytes of the lines, and
nothing beside them. -/
structure Replaced (t : Tree) (path : String) (lines : List String) (u : Tree) : Prop where
  here : u.here = t.here
  bytes : ∃ bytes, u.content? path = some bytes ∧
    bytes.data.toList = lines.flatMap fun l => l.toUTF8.data.toList ++ [10]
  beside : ∃ p, (Path.ofText path).withSuffix? ".tmp" = some p ∧ u.find? p = none
  others : ∀ l, t.locate (Path.ofText path) ≠ .ok l → ¬ t.IsBeside path l →
    u.entryAt l = t.entryAt l

theorem replaced_of_writeLines (hne : lines ≠ []) (h : t.writeLines path lines = (.ok (), u)) :
    Replaced t path lines u := by
  obtain ⟨target, beside, hs, hb, ht, rfl⟩ := site_of_writeLines hne h
  have hsame := sameDirectories_written hb ht (joined lines).toUTF8
  have hto := hs.toLeadsTo.of_same hsame
  obtain ⟨p, hp, hl⟩ := hs.locateBeside
  have hcontent := hto.content?_eq (entryAt_written_target hb ht (joined lines).toUTF8)
  refine ⟨rfl, ⟨_, hcontent, toList_data_joined lines⟩, ⟨p, hp, ?_⟩, fun l hl₁ hl₂ => ?_⟩
  · rw [find?, hsame.locate hl]
    exact entryAt_written_beside hb ht hs.beside_ne _
  · rw [entryAt_written hb ht, if_neg, if_neg]
    · rintro rfl
      exact hl₂ ⟨p, hp, hl⟩
    · rintro rfl
      exact hl₁ hs.locate

/-- Writing goes through just where nothing is in its way. -/
theorem writeLines_eq_ok_iff (hne : lines ≠ []) :
    (t.writeLines path lines).1 = .ok () ↔ Writable t path := by
  constructor
  · intro h
    exact (writable_of_writeLines hne (Prod.ext h rfl)).1
  · intro h
    obtain ⟨u, hu⟩ := h.exists_writeLines hne
    rw [hu]

/-! ### What stood there before -/

/-- Two trees that differ at most in what a path leads to, and that is no
directory in the second. -/
structure SameAround (t : Tree) (path : String) (t' : Tree) : Prop where
  here : t'.here = t.here
  others : ∀ l, t.locate (Path.ofText path) ≠ .ok l → t'.entryAt l = t.entryAt l
  file : ∀ l, t.locate (Path.ofText path) = .ok l → t'.entryAt l ≠ some .directory

theorem SameAround.entryAt_eq {t' : Tree} (h : SameAround t path t')
    (hto : t.locate (Path.ofText path) = .ok target) {l : Location} (hl : l ≠ target) :
    t'.entryAt l = t.entryAt l :=
  h.others l fun e => hl (Except.ok.inj (e.symm.trans hto))

theorem SameAround.sameDirectories {t' : Tree} (h : SameAround t path t')
    (hto : t.locate (Path.ofText path) = .ok target) (ht : t.entryAt target ≠ some .directory) :
    SameDirectories t t' := by
  refine ⟨h.here, fun l => ?_⟩
  by_cases hl : l = target
  · subst hl
    exact iff_of_false (h.file l hto) ht
  · rw [h.entryAt_eq hto hl]

/-- Whatever stood at a path before, writing leaves the same. -/
theorem exists_writeLines_of_sameAround {t' : Tree} (hsame : SameAround t path t')
    (hne : lines ≠ []) (h : t.writeLines path lines = (.ok (), u)) :
    ∃ u', t'.writeLines path lines = (.ok (), u') ∧ u'.here = u.here ∧
      ∀ l, u'.entryAt l = u.entryAt l := by
  obtain ⟨target, beside, hs, hb, ht, rfl⟩ := site_of_writeLines hne h
  have hs' : Site t' path target beside := hs.of_same (hsame.sameDirectories hs.locate ht)
  have hb' : t'.entryAt beside ≠ some .directory := by
    rw [hsame.entryAt_eq hs.locate hs.beside_ne]
    exact hb
  have ht' : t'.entryAt target ≠ some .directory := hsame.file target hs.locate
  refine ⟨_, hs'.writeLines_done hb' ht' hne, hsame.here, fun l => ?_⟩
  rw [entryAt_written hb' ht', entryAt_written hb ht]
  by_cases hl : l = target
  · rw [if_pos hl, if_pos hl]
  · rw [if_neg hl, if_neg hl, hsame.entryAt_eq hs.locate hl]

/-! ### All or nothing -/

/-- Writing lines is all or nothing.  Where it goes through, the lines are at
the path, and they are read back just if none of them holds a line end; where
it does not, everything but the file beside the target is as before, and that
file is as before or gone.  To write no lines is to do nothing. -/
theorem writeLines_allOrNothing (t u : Tree) (path : String) (lines : List String) :
    t.writeLines path [] = (.ok (), t) ∧
      (lines ≠ [] → ((t.writeLines path lines).1 = .ok () ↔ Writable t path) ∧
        (t.writeLines path lines = (.ok (), u) → Replaced t path lines u ∧
          (u.readLines path = .ok lines ↔
            ∀ line ∈ lines, '\n' ∉ line.toList ∧ '\r' ∉ line.toList))) ∧
      ∀ f, t.writeLines path lines = (.error f, u) →
        u.here = t.here ∧ (∀ l, ¬ t.IsBeside path l → u.entryAt l = t.entryAt l) ∧
          ∀ l, t.IsBeside path l → u.entryAt l = t.entryAt l ∨ u.entryAt l = none := by
  refine ⟨rfl, fun hne => ⟨writeLines_eq_ok_iff hne, fun h => ?_⟩, fun f h => ?_⟩
  · refine ⟨replaced_of_writeLines hne h, ?_⟩
    simp only [readLines_of_writeLines_iff hne h, isLine_iff]
  · have hspares := spares_of_writeLines h
    exact ⟨hspares.here, fun l hl => hspares.entryAt_eq hl,
      fun l _ => (hspares.entryAt_beside l).imp_right And.right⟩

/-- A directory with a file in it, what a writing left beside that, and
another directory. -/
def shelf : Tree where
  here := ["d"]
  entries := [(["d"], .directory), (["d", "a"], .file "old".toUTF8),
    (["d", "a.tmp"], .file "part".toUTF8), (["d", "b"], .directory)]

theorem site_shelf_a : Site shelf "a" ["d", "a"] ["d", "a.tmp"] :=
  ⟨⟨by decide +kernel, rfl⟩, ⟨0, ["a.tmp"]⟩, by decide +kernel, rfl⟩

theorem site_shelf_b : Site shelf "./b" ["d", "b"] ["d", "b.tmp"] :=
  ⟨⟨by decide +kernel, rfl⟩, ⟨0, ["b.tmp"]⟩, by decide +kernel, rfl⟩

/-- A line that ends in CR is written, and read back without it.  The other
directory is not replaced, and the file stays. -/
theorem writeLines_allOrNothing_sample :
    (∃ u, shelf.writeLines "a" ["x", "y\r"] = (.ok (), u) ∧ u.readLines "a" ≠ .ok ["x", "y\r"]) ∧
    ∃ v, shelf.writeLines "./b" ["x"] = (.error (.unwritable "/d/b"), v) ∧
      v.entryAt ["d", "a"] = some (.file "old".toUTF8) := by
  constructor
  · have hok := site_shelf_a.writeLines_done (by decide) (by decide)
      (List.cons_ne_nil "x" ["y\r"])
    obtain ⟨-, hwrite, -⟩ := writeLines_allOrNothing shelf _ "a" ["x", "y\r"]
    obtain ⟨-, hread⟩ := (hwrite (List.cons_ne_nil _ _)).2 hok
    exact ⟨_, hok, fun h => absurd (hread.mp h "y\r" (by decide)) (by decide)⟩
  · have herror := site_shelf_b.writeLines_refused (by decide) (by decide) (List.cons_ne_nil "x" [])
    have hpath : shelf.absoluteText "./b" = "/d/b" := by decide +kernel
    rw [hpath] at herror
    obtain ⟨-, -, hfail⟩ := writeLines_allOrNothing shelf _ "./b" ["x"]
    obtain ⟨-, hothers, -⟩ := hfail _ herror
    refine ⟨_, herror, hothers ["d", "a"] ?_⟩
    -- what is beside the directory is elsewhere
    rintro ⟨p, hp, hl⟩
    obtain ⟨q, hq, hlocate⟩ := site_shelf_b.locateBeside
    obtain rfl := Option.some.inj (hq.symm.trans hp)
    exact absurd (Except.ok.inj (hlocate.symm.trans hl)) (by decide)

end NodeBootstrap.Tree

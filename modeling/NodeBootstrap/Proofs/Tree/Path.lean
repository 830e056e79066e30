/-
NodeBootstrap/Proofs/Tree/Path.lean

Paths of files in one directory.  The path `p.join n` is written and read
again before it is followed; what comes of it is `p.stem.join n`, whatever the
names of `p` look like (`ofText_join`).  So files of different names in one
directory are at locations that differ in their last name only
(`locate_join_iff`).
-/
import NodeBootstrap.Proofs.Tree.Site

namespace NodeBootstrap

/-! ### Parts of a text -/

namespace Split

theorem parts_ne_nil (mark : Char) (cs : List Char) : parts mark cs ≠ [] := by
  fun_cases parts mark cs <;> simp_all

theorem parts_append (mark : Char) (cs rest : List Char) :
    parts mark (cs ++ mark :: rest) = parts mark cs ++ parts mark rest := by
  fun_induction parts mark cs with
  | case1 => simp [parts]
  | case2 cs ih => simp [parts, ih]
  | case3 c cs hc h ih => exact absurd h (parts_ne_nil mark cs)
  | case4 c cs hc part more h ih => simp [parts, hc, ih, h]

theorem parts_of_not_mem {mark : Char} {cs : List Char} (h : mark ∉ cs) :
    parts mark cs = [cs] := by
  induction cs with
  | nil => rfl
  | cons c cs ih =>
    have hc : c ≠ mark := fun e => h (e ▸ List.mem_cons_self)
    simp [parts, hc, ih fun hm => h (List.mem_cons_of_mem _ hm)]

end Split

namespace Path

/-! ### Writing and reading a path -/

/-- A name that a path can end in. -/
structure IsPlainName (name : String) : Prop where
  no_slash : '/' ∉ name.toList
  isName : isName name.toList = true

/-- What stands before the last name of a file's path in a directory. -/
def lead (p : Path) : List Char :=
  List.replicate p.slashes '/' ++ p.names.flatMap fun name => name.toList ++ ['/']

theorem intercalate_concat (xs : List (List Char)) (y : List Char) :
    ['/'].intercalate (xs ++ [y]) = xs.flatMap (· ++ ['/']) ++ y := by
  induction xs with
  | nil => simp
  | cons x xs ih =>
    rw [List.cons_append, List.intercalate_cons_of_ne_nil (by simp), ih]
    simp

theorem toList_text_join (p : Path) (name : String) :
    (p.join name).text.toList = p.lead ++ name.toList := by
  have hne : ¬ ((p.join name).slashes = 0 ∧ (p.join name).names = []) := by simp [join]
  rw [text, if_neg hne, String.toList_append, String.toList_ofList, String.toList_intercalate]
  show List.replicate p.slashes '/' ++ ['/'].intercalate ((p.names ++ [name]).map String.toList) = _
  rw [List.map_append, List.map_singleton, intercalate_concat, lead, List.flatMap_map,
    List.append_assoc]

/-- The directory of a file's path, read again. -/
def stem (p : Path) : Path where
  slashes := keptSlashes (p.lead.takeWhile (· == '/')).length
  names := ((Split.parts '/' p.lead).dropLast.filter isName).map String.ofList

theorem lead_eq (p : Path) : p.lead = [] ∨ ∃ cs, p.lead = cs ++ ['/'] := by
  rw [lead]
  rcases List.eq_nil_or_concat p.names with h | ⟨names, name, h⟩
  · rw [h, List.flatMap_nil, List.append_nil]
    cases p.slashes with
    | zero => exact .inl rfl
    | succ n => exact .inr ⟨List.replicate n '/', List.replicate_succ'⟩
  · right
    rw [h, List.concat_eq_append, List.flatMap_append, List.flatMap_singleton, ← List.append_assoc,
      ← List.append_assoc]
    exact ⟨_, rfl⟩

theorem parts_lead_append (p : Path) {name : String} (h : '/' ∉ name.toList) :
    Split.parts '/' (p.lead ++ name.toList) =
      (Split.parts '/' p.lead).dropLast ++ [name.toList] := by
  rcases p.lead_eq with e | ⟨cs, e⟩
  · -- a name by itself
    rw [e, List.nil_append, Split.parts_of_not_mem h]
    rfl
  · -- what stands before ends in a slash, behind which there is an empty part
    rw [e, List.append_assoc, List.singleton_append, Split.parts_append, Split.parts_append,
      Split.parts_of_not_mem h]
    simp [Split.parts]

theorem takeWhile_lead_append (p : Path) {name : String} (h : '/' ∉ name.toList) :
    (p.lead ++ name.toList).takeWhile (· == '/') = p.lead.takeWhile (· == '/') := by
  have hn : name.toList.takeWhile (· == '/') = [] := by
    cases e : name.toList with
    | nil => rfl
    | cons c cs =>
      have hc : c ≠ '/' := fun ec => h (by rw [e, ec]; exact List.mem_cons_self)
      simp [hc]
  rw [List.takeWhile_append]
  split
  · rename_i hl
    rw [hn, List.append_nil, (List.takeWhile_prefix _).eq_of_length hl]
  · rfl

/-- A path that is written and read again. -/
theorem ofText_join (p : Path) {name : String} (h : IsPlainName name) :
    ofText (p.join name).text = p.stem.join name := by
  rw [ofText, toList_text_join, takeWhile_lead_append p h.no_slash, parts_lead_append p h.no_slash]
  simp [stem, join, h.isName]

theorem withSuffix?_join (p : Path) (name suffix : String) :
    (p.join name).withSuffix? suffix = some (p.join (name ++ suffix)) := by
  simp [withSuffix?, join]

end Path

namespace Tree

variable {t : Tree}

/-! ### Following a path -/

theorem follow_append (t : Tree) (base : Location) (names more : List String) :
    t.follow base (names ++ more) =
      (t.follow base names).bind fun l => t.follow l more := by
  induction names generalizing base with
  | nil => rfl
  | cons name names ih =>
    rw [List.cons_append, follow, follow]
    split
    · split
      · exact ih _
      · split
        · rfl
        · exact ih _
    · rfl
    · rfl

/-- The directory that a path leads to. -/
def directoryAt? (t : Tree) (p : Path) : Option Location :=
  match t.locate p with
  | .ok l => if t.entryAt l = some .directory then some l else none
  | .error _ => none

/-- A name that leads from a directory to a location in it. -/
structure IsFileName (name : String) : Prop where
  ne_up : name ≠ ".."
  short : name.utf8ByteSize ≤ maxNameBytes

theorem follow_singleton (t : Tree) {name : String} (h : IsFileName name) (base l : Location) :
    t.follow base [name] = .ok l ↔
      t.entryAt base = some .directory ∧ l = base ++ [name] := by
  rw [follow]
  rcases t.entryAt base with - | bytes | -
  · simp
  · simp
  · simp [h.ne_up, Nat.not_lt.mpr h.short, follow, eq_comm]

theorem locate_join_iff {p : Path} {name : String} (h : IsFileName name) {l : Location} :
    t.locate (p.join name) = .ok l ↔ ∃ d, t.directoryAt? p = some d ∧ l = d ++ [name] := by
  -- the last name is followed from the directory of the others
  have hj : t.locate (p.join name) = (t.locate p).bind fun l => t.follow l [name] := by
    rw [locate, Path.join, follow_append]
    rfl
  rw [hj, directoryAt?]
  rcases t.locate p with o | d
  · simp [Except.bind]
  · have hf := follow_singleton t h d l
    simp only [Except.bind, hf]
    by_cases hd : t.entryAt d = some .directory <;> simp [hd]

/-! ### Files in a directory -/

/-- A path that can be used leads to a directory. -/
structure Holds (t : Tree) (p : Path) (d : Location) : Prop where
  usable : '\x00' ∉ p.lead
  directory : t.directoryAt? p.stem = some d

/-- A name that a file can be written by, with the file beside it. -/
structure IsTargetName (name : String) : Prop where
  plain : Path.IsPlainName name
  file : IsFileName name
  beside : IsFileName (name ++ temporarySuffix)
  usable : '\x00' ∉ name.toList

variable {p : Path} {d target : Location} {name : String}

theorem isUnusable_join (h : IsTargetName name) :
    isUnusable (p.join name).text = false ↔ '\x00' ∉ p.lead := by
  rw [isUnusable, Path.toList_text_join, Bool.eq_false_iff, ne_eq, List.contains_iff_mem,
    List.mem_append]
  exact not_congr (or_iff_left h.usable)

theorem Holds.of_same {u : Tree} (h : Holds t p d) (hs : SameDirectories t u) : Holds u p d := by
  refine ⟨h.usable, ?_⟩
  have hd := h.directory
  rw [directoryAt?] at hd ⊢
  rcases e : t.locate p.stem with o | l
  · rw [e] at hd
    contradiction
  · rw [e] at hd
    rw [hs.locate e]
    dsimp only at hd ⊢
    split at hd
    · rw [if_pos ((hs.directory_iff l).mpr ‹_›)]
      exact hd
    · contradiction

theorem Holds.locate (h : Holds t p d) (hn : Path.IsPlainName name) (hf : IsFileName name) :
    t.locate (Path.ofText (p.join name).text) = .ok (d ++ [name]) := by
  rw [Path.ofText_join p hn]
  exact (locate_join_iff hf).mpr ⟨d, h.directory, rfl⟩

/-- The files of a directory have sites in it. -/
theorem Holds.site (h : Holds t p d) (hn : IsTargetName name) :
    Site t (p.join name).text (d ++ [name]) (d ++ [name ++ temporarySuffix]) := by
  refine ⟨⟨(isUnusable_join hn).mpr h.usable, h.locate hn.plain hn.file⟩,
    p.stem.join (name ++ temporarySuffix), ?_, ?_⟩
  · rw [Path.ofText_join p hn.plain, Path.withSuffix?_join]
  · exact (locate_join_iff hn.beside).mpr ⟨d, h.directory, rfl⟩

/-- A file has a location in a directory only. -/
theorem holds_of_leadsTo (hn : IsTargetName name) (h : LeadsTo t (p.join name).text target) :
    ∃ d, Holds t p d ∧ target = d ++ [name] := by
  have hl := h.locate
  rw [Path.ofText_join p hn.plain] at hl
  obtain ⟨d, hd, ht⟩ := (locate_join_iff hn.file).mp hl
  exact ⟨d, ⟨(isUnusable_join hn).mp h.usable, hd⟩, ht⟩

/-- Where a path leads to no directory, no file is written. -/
theorem holds_of_writeLines_ne (hn : IsTargetName name) {lines : List String}
    (h : (t.writeLines (p.join name).text lines).2 ≠ t) : ∃ d, Holds t p d := by
  rw [writeLines, Path.ofText_join p hn.plain, Path.withSuffix?_join] at h
  split at h
  · exact absurd rfl h
  dsimp only at h
  split at h
  · exact absurd rfl h
  rename_i hu
  rcases hl : t.locate (p.stem.join (name ++ temporarySuffix)) with o | l
  · rw [hl] at h
    cases o <;> exact absurd rfl h
  · obtain ⟨d, hd, _⟩ := (locate_join_iff hn.beside).mp hl
    exact ⟨d, (isUnusable_join hn).mp (by simpa using hu), hd⟩

end Tree

end NodeBootstrap

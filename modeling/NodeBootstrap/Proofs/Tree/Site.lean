/-
NodeBootstrap/Proofs/Tree/Site.lean

Where a file is, and what reading and changing it do there.

Paths are followed through directories only, and no operation on a file makes
or removes a directory.  So a path that leads somewhere leads there for good
(`SameDirectories.locate`), and an operation is known by the entries at two
locations: the file's own, and that of the file beside it.  Where one writing
went through, so does every other one (`writable_of_writeLines`).
-/
import NodeBootstrap.Proofs.Tree.Content

namespace NodeBootstrap.Tree

variable {t u v : Tree}

/-! ### Directories -/

/-- Two trees with the same directories, seen from the same place. -/
structure SameDirectories (t u : Tree) : Prop where
  here : u.here = t.here
  directory_iff : ∀ l, u.entryAt l = some .directory ↔ t.entryAt l = some .directory

namespace SameDirectories

theorem refl (t : Tree) : SameDirectories t t := ⟨rfl, fun _ => Iff.rfl⟩

theorem trans (h : SameDirectories t u) (k : SameDirectories u v) : SameDirectories t v :=
  ⟨k.here.trans h.here, fun l => (k.directory_iff l).trans (h.directory_iff l)⟩

theorem follow (h : SameDirectories t u) {names : List String} {base l : Location}
    (hl : t.follow base names = .ok l) : u.follow base names = .ok l := by
  induction names generalizing base with
  | nil => exact hl
  | cons name rest ih =>
    rw [Tree.follow] at hl ⊢
    split at hl
    · rename_i hd
      rw [(h.directory_iff base).mpr hd]
      split at hl
      · rw [if_pos ‹_›]
        exact ih hl
      · split at hl
        · contradiction
        · rw [if_neg ‹_›, if_neg ‹_›]
          exact ih hl
    · contradiction
    · contradiction

/-- A path leads to the same location in both. -/
theorem locate (h : SameDirectories t u) {p : Path} {l : Location} (hl : t.locate p = .ok l) :
    u.locate p = .ok l := by
  rw [Tree.locate, h.here]
  exact h.follow hl

end SameDirectories

theorem ne_nil_of_entryAt_ne {l : Location} (h : t.entryAt l ≠ some .directory) : l ≠ [] := by
  rintro rfl
  exact h (by simp [entryAt])

theorem sameDirectories_put {l : Location} (h : t.entryAt l ≠ some .directory) (bytes : ByteArray) :
    SameDirectories t (t.put l (.file bytes)) := by
  refine ⟨rfl, fun m => ?_⟩
  rw [entryAt_put t l m _ (ne_nil_of_entryAt_ne h)]
  split
  · rename_i hm
    subst hm
    simp [h]
  · rfl

theorem sameDirectories_remove {l : Location} (h : t.entryAt l ≠ some .directory) :
    SameDirectories t (t.remove l) := by
  refine ⟨rfl, fun m => ?_⟩
  rw [entryAt_remove t l m (ne_nil_of_entryAt_ne h)]
  split
  · rename_i hm
    subst hm
    simp [h]
  · rfl

/-! ### Sites -/

/-- A path leads to a location. -/
structure LeadsTo (t : Tree) (path : String) (target : Location) : Prop where
  usable : isUnusable path = false
  locate : t.locate (Path.ofText path) = .ok target

/-- A path leads to a location, and the path of the file beside it to
another. -/
structure Site (t : Tree) (path : String) (target beside : Location) : Prop
    extends LeadsTo t path target where
  locateBeside : ∃ p, (Path.ofText path).withSuffix? temporarySuffix = some p ∧
    t.locate p = .ok beside

variable {path : String} {target beside : Location}

theorem LeadsTo.of_same (h : LeadsTo t path target) (hs : SameDirectories t u) :
    LeadsTo u path target :=
  ⟨h.usable, hs.locate h.locate⟩

theorem Site.of_same (h : Site t path target beside) (hs : SameDirectories t u) :
    Site u path target beside := by
  obtain ⟨p, hp, hl⟩ := h.locateBeside
  exact ⟨h.toLeadsTo.of_same hs, p, hp, hs.locate hl⟩

/-- The lines of the file at a location. -/
def linesAt? (t : Tree) (l : Location) : Option (List String) :=
  match t.entryAt l with
  | some (.file bytes) => linesOf? bytes
  | _ => none

theorem linesAt?_of_entryAt {l : Location} {bytes : ByteArray}
    (h : t.entryAt l = some (.file bytes)) : t.linesAt? l = linesOf? bytes := by
  rw [linesAt?, h]

theorem exists_of_linesAt? {l : Location} {lines : List String} (h : t.linesAt? l = some lines) :
    ∃ bytes, t.entryAt l = some (.file bytes) ∧ linesOf? bytes = some lines := by
  rw [linesAt?] at h
  split at h
  · exact ⟨_, ‹_›, h⟩
  · contradiction

theorem linesAt?_congr {l : Location} (h : u.entryAt l = t.entryAt l) :
    u.linesAt? l = t.linesAt? l := by
  rw [linesAt?, linesAt?, h]

theorem not_directory_of_linesAt? {l : Location} {lines : List String}
    (h : t.linesAt? l = some lines) : t.entryAt l ≠ some .directory := by
  obtain ⟨bytes, hb, _⟩ := exists_of_linesAt? h
  simp [hb]

/-! ### Reading -/

theorem LeadsTo.find?_eq (h : LeadsTo t path target) :
    t.find? (Path.ofText path) = t.entryAt target := by
  rw [find?, h.locate]

theorem LeadsTo.content?_eq (h : LeadsTo t path target) {bytes : ByteArray}
    (hb : t.entryAt target = some (.file bytes)) : t.content? path = some bytes := by
  rw [content?, h.find?_eq, hb]

theorem LeadsTo.readLines_eq (h : LeadsTo t path target) :
    t.readLines path = match t.linesAt? target with
      | some lines => .ok lines
      | none => .error (.unreadable (t.absoluteText path)) := by
  rw [readLines, h.usable, if_neg Bool.false_ne_true, content?, h.find?_eq, linesAt?]
  rcases t.entryAt target with - | bytes | -
  · rfl
  · rcases e : String.fromUTF8? bytes with - | text <;> simp [linesOf?, e]
  · rfl

theorem LeadsTo.readLines_eq_ok_iff (h : LeadsTo t path target) {lines : List String} :
    t.readLines path = .ok lines ↔ t.linesAt? target = some lines := by
  rw [h.readLines_eq]
  cases t.linesAt? target <;> simp

/-- A file that is read has a location. -/
theorem leadsTo_of_readLines {lines : List String} (h : t.readLines path = .ok lines) :
    ∃ target, LeadsTo t path target ∧ t.linesAt? target = some lines := by
  rw [readLines] at h
  split at h
  · contradiction
  · rename_i hu
    cases hl : t.locate (Path.ofText path) with
    | error o => simp [content?, find?, hl] at h
    | ok target =>
      -- there is a location, and its file is what was read
      have hto : LeadsTo t path target := ⟨by simpa using hu, hl⟩
      refine ⟨target, hto, hto.readLines_eq_ok_iff.mp ?_⟩
      rw [readLines, if_neg hu]
      exact h

/-- The lines that are read hold no line ends. -/
theorem isLine_of_readLines {lines : List String} (h : t.readLines path = .ok lines) :
    ∀ l ∈ lines, Lines.IsLine l := by
  obtain ⟨target, -, hl⟩ := leadsTo_of_readLines h
  obtain ⟨bytes, -, hb⟩ := exists_of_linesAt? hl
  exact isLine_of_linesOf? hb

/-- The same bytes are read as the same lines. -/
theorem readLines_congr (hc : u.content? path = t.content? path) {lines : List String}
    (h : t.readLines path = .ok lines) : u.readLines path = .ok lines := by
  rw [readLines] at h ⊢
  rw [hc]
  split at h
  · contradiction
  · rw [if_neg ‹_›]
    rcases e : (t.content? path).bind String.fromUTF8? with - | text
    · rw [e] at h
      contradiction
    · rw [e] at h
      exact h

/-! ### Writing -/

/-- A tree after a file was written at its site. -/
def written (t : Tree) (target beside : Location) (bytes : ByteArray) : Tree :=
  (t.remove beside).put target (.file bytes)

theorem sameDirectories_written (hb : t.entryAt beside ≠ some .directory)
    (ht : t.entryAt target ≠ some .directory) (bytes : ByteArray) :
    SameDirectories t (t.written target beside bytes) := by
  have hr := sameDirectories_remove hb
  exact hr.trans (sameDirectories_put (fun e => ht ((hr.directory_iff target).mp e)) bytes)

theorem entryAt_written (hb : t.entryAt beside ≠ some .directory)
    (ht : t.entryAt target ≠ some .directory) (bytes : ByteArray) (l : Location) :
    (t.written target beside bytes).entryAt l =
      if l = target then some (.file bytes) else if l = beside then none else t.entryAt l := by
  rw [written, entryAt_put _ _ _ _ (ne_nil_of_entryAt_ne ht),
    entryAt_remove _ _ _ (ne_nil_of_entryAt_ne hb)]

theorem entryAt_written_target (hb : t.entryAt beside ≠ some .directory)
    (ht : t.entryAt target ≠ some .directory) (bytes : ByteArray) :
    (t.written target beside bytes).entryAt target = some (.file bytes) := by
  rw [entryAt_written hb ht, if_pos rfl]

theorem entryAt_written_beside (hb : t.entryAt beside ≠ some .directory)
    (ht : t.entryAt target ≠ some .directory) (hne : beside ≠ target) (bytes : ByteArray) :
    (t.written target beside bytes).entryAt beside = none := by
  rw [entryAt_written hb ht, if_neg hne, if_pos rfl]

/-- Written lines are the lines of the file. -/
theorem linesAt?_written (hb : t.entryAt beside ≠ some .directory)
    (ht : t.entryAt target ≠ some .directory) {lines : List String}
    (hl : ∀ l ∈ lines, Lines.IsLine l) :
    (t.written target beside (Lines.joined lines).toUTF8).linesAt? target = some lines :=
  (linesAt?_of_entryAt (entryAt_written_target hb ht _)).trans (linesOf?_joined hl)

/-- Beside a directory nothing is written, so nothing changes. -/
theorem Site.writeLines_blocked (h : Site t path target beside)
    (hb : t.entryAt beside = some .directory) {lines : List String} (hne : lines ≠ []) :
    t.writeLines path lines = (.error (.unwritable (t.absoluteText path)), t) := by
  obtain ⟨p, hp, hl⟩ := h.locateBeside
  simp [writeLines, hne, hp, h.usable, hl, hb]

/-- A directory is not replaced; the file beside it is gone. -/
theorem Site.writeLines_refused (h : Site t path target beside)
    (hb : t.entryAt beside ≠ some .directory) (ht : t.entryAt target = some .directory)
    {lines : List String} (hne : lines ≠ []) :
    t.writeLines path lines = (.error (.unwritable (t.absoluteText path)), t.remove beside) := by
  obtain ⟨p, hp, hl⟩ := h.locateBeside
  rcases e : t.entryAt beside with - | bytes | -
  · simp [writeLines, hne, hp, h.usable, hl, e, replace, h.locate, ht]
  · simp [writeLines, hne, hp, h.usable, hl, e, replace, h.locate, ht]
  · exact absurd e hb

/-- Otherwise the lines are written. -/
theorem Site.writeLines_done (h : Site t path target beside)
    (hb : t.entryAt beside ≠ some .directory) (ht : t.entryAt target ≠ some .directory)
    {lines : List String} (hne : lines ≠ []) :
    t.writeLines path lines = (.ok (), t.written target beside (Lines.joined lines).toUTF8) := by
  obtain ⟨p, hp, hl⟩ := h.locateBeside
  rcases e : t.entryAt beside with - | bytes | -
  · rcases e' : t.entryAt target with - | bytes | -
    · simp [writeLines, hne, hp, h.usable, hl, e, replace, h.locate, e', written]
    · simp [writeLines, hne, hp, h.usable, hl, e, replace, h.locate, e', written]
    · exact absurd e' ht
  · rcases e' : t.entryAt target with - | bytes | -
    · simp [writeLines, hne, hp, h.usable, hl, e, replace, h.locate, e', written]
    · simp [writeLines, hne, hp, h.usable, hl, e, replace, h.locate, e', written]
    · exact absurd e' ht
  · exact absurd e hb

/-- Writing succeeds at a site only, and only if no directory is in the way. -/
theorem site_of_writeLines {lines : List String} (hne : lines ≠ [])
    (h : t.writeLines path lines = (.ok (), u)) :
    ∃ target beside, Site t path target beside ∧ t.entryAt beside ≠ some .directory ∧
      t.entryAt target ≠ some .directory ∧
      u = t.written target beside (Lines.joined lines).toUTF8 := by
  -- the path and the file beside it have places, or nothing would be written
  have hwrite := h
  rw [writeLines, if_neg (by simpa using hne)] at hwrite
  rcases hp : (Path.ofText path).withSuffix? temporarySuffix with - | p
  · simp [hp] at hwrite
  rcases hu : isUnusable path with - | -
  · rcases hl : t.locate p with o | beside
    · cases o <;> simp [hp, hu, hl] at hwrite
    have hb : t.entryAt beside ≠ some .directory := by
      intro e
      simp [hp, hu, hl, e] at hwrite
    rcases ht : t.locate (Path.ofText path) with o | target
    · rcases e : t.entryAt beside with - | bytes | -
      · simp [hp, hu, hl, e, replace, ht] at hwrite
      · simp [hp, hu, hl, e, replace, ht] at hwrite
      · exact absurd e hb
    have hs : Site t path target beside := ⟨⟨hu, ht⟩, p, hp, hl⟩
    have hd : t.entryAt target ≠ some .directory := by
      intro e
      rw [hs.writeLines_refused hb e hne] at h
      cases h
    rw [hs.writeLines_done hb hd hne] at h
    exact ⟨target, beside, hs, hb, hd, (Prod.mk.inj h).2.symm⟩
  · simp [hp, hu] at hwrite

/-- What was written is read back, if each line is one line. -/
theorem readLines_of_writeLines {lines : List String} (hne : lines ≠ [])
    (hl : ∀ l ∈ lines, Lines.IsLine l) (h : t.writeLines path lines = (.ok (), u)) :
    u.readLines path = .ok lines := by
  obtain ⟨target, beside, hs, hb, ht, rfl⟩ := site_of_writeLines hne h
  have hto := hs.toLeadsTo.of_same (sameDirectories_written hb ht (Lines.joined lines).toUTF8)
  exact hto.readLines_eq_ok_iff.mpr (linesAt?_written hb ht hl)

/-- Nothing is in the way of writing a file. -/
def Writable (t : Tree) (path : String) : Prop :=
  ∃ target beside, Site t path target beside ∧ t.entryAt beside ≠ some .directory ∧
    t.entryAt target ≠ some .directory

theorem Writable.exists_writeLines (h : Writable t path) {lines : List String}
    (hne : lines ≠ []) : ∃ u, t.writeLines path lines = (.ok (), u) := by
  obtain ⟨target, beside, hs, hb, ht⟩ := h
  exact ⟨_, hs.writeLines_done hb ht hne⟩

/-- A file that was written can be written again, and could before. -/
theorem writable_of_writeLines {lines : List String} (hne : lines ≠ [])
    (h : t.writeLines path lines = (.ok (), u)) : Writable t path ∧ Writable u path := by
  obtain ⟨target, beside, hs, hb, ht, rfl⟩ := site_of_writeLines hne h
  have hsame := sameDirectories_written hb ht (Lines.joined lines).toUTF8
  have hdir : ∀ l, t.entryAt l ≠ some .directory →
      (t.written target beside (Lines.joined lines).toUTF8).entryAt l ≠ some .directory :=
    fun l hl e => hl ((hsame.directory_iff l).mp e)
  exact ⟨⟨target, beside, hs, hb, ht⟩,
    ⟨target, beside, hs.of_same hsame, hdir beside hb, hdir target ht⟩⟩

/-! ### Appending -/

/-- A tree after lines were added to a file. -/
def appended (t : Tree) (target : Location) (bytes : ByteArray) (lines : List String) : Tree :=
  if lines = [] then t else t.put target (.file (extended bytes lines))

theorem LeadsTo.appendLines_eq (h : LeadsTo t path target) {bytes : ByteArray}
    (hb : t.entryAt target = some (.file bytes)) (lines : List String) :
    t.appendLines path lines = (.ok (), t.appended target bytes lines) := by
  rw [appended]
  split
  · rename_i hnil
    rw [hnil]
    rfl
  · rename_i hne
    simp [appendLines, hne, h.usable, h.locate, hb]

theorem sameDirectories_appended {bytes : ByteArray} (hb : t.entryAt target = some (.file bytes))
    (lines : List String) : SameDirectories t (t.appended target bytes lines) := by
  rw [appended]
  split
  · exact SameDirectories.refl t
  · exact sameDirectories_put (by simp [hb]) _

theorem entryAt_appended {bytes : ByteArray} (hb : t.entryAt target = some (.file bytes))
    (lines : List String) (l : Location) :
    (t.appended target bytes lines).entryAt l =
      if l = target then some (.file (grown bytes lines)) else t.entryAt l := by
  rw [appended, grown]
  split
  · split
    · rename_i hl
      rw [hl, hb]
    · rfl
  · have ht : t.entryAt target ≠ some .directory := by simp [hb]
    exact entryAt_put t target l _ (ne_nil_of_entryAt_ne ht)

theorem entryAt_appended_target {bytes : ByteArray} (hb : t.entryAt target = some (.file bytes))
    (lines : List String) :
    (t.appended target bytes lines).entryAt target = some (.file (grown bytes lines)) := by
  rw [entryAt_appended hb, if_pos rfl]

/-- Added lines come behind those that were there. -/
theorem linesAt?_appended {bytes : ByteArray} (hb : t.entryAt target = some (.file bytes))
    {lines added : List String} (hl : linesOf? bytes = some lines)
    (ha : ∀ l ∈ added, Lines.IsLine l) :
    (t.appended target bytes added).linesAt? target = some (lines ++ added) :=
  (linesAt?_of_entryAt (entryAt_appended_target hb added)).trans (linesOf?_grown hl ha)

/-- They are read there. -/
theorem LeadsTo.readLines_appended (h : LeadsTo t path target) {bytes : ByteArray}
    (hb : t.entryAt target = some (.file bytes)) {lines added : List String}
    (hl : linesOf? bytes = some lines) (ha : ∀ l ∈ added, Lines.IsLine l) :
    (t.appended target bytes added).readLines path = .ok (lines ++ added) := by
  have hafter := h.of_same (sameDirectories_appended hb added)
  exact hafter.readLines_eq_ok_iff.mpr (linesAt?_appended hb hl ha)

end NodeBootstrap.Tree

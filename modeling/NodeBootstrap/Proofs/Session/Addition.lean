/-
NodeBootstrap/Proofs/Session/Addition.lean

Lines that are added to a file.  An addition looks at the last byte of a file
and puts bytes behind it, but what is read afterwards is the old lines and then
the new ones (`Tree.LeadsTo.readLines_appended`), however the old bytes ended;
all else is left alone (`Tree.Continued`).

Whether lines can be added does not depend on the lines
(`Tree.file_or_fault`), and added lines end the last one.  So one addition
behind another is a single addition, also where it fails
(`Tree.appendLines_append`), and so is any number of them in a row
(`Run.forM_appendLines`).
-/
import NodeBootstrap.Proofs.Session.Action

namespace NodeBootstrap

/-! ### Files -/

namespace Tree

open NodeBootstrap.Lines

variable {t : Tree} {path : String} {target : Location} {bytes : ByteArray}

/-- A file with a content has a location. -/
theorem exists_leadsTo_of_content? (hpath : isUnusable path = false)
    (h : t.content? path = some bytes) :
    ∃ target, LeadsTo t path target ∧ t.entryAt target = some (.file bytes) := by
  rcases hl : t.locate (Path.ofText path) with o | target
  · simp [content?, find?, hl] at h
  · have hto : LeadsTo t path target := ⟨hpath, hl⟩
    refine ⟨target, hto, ?_⟩
    rw [content?, hto.find?_eq] at h
    split at h
    · rename_i hentry
      rw [hentry, Option.some.inj h]
    · contradiction

/-- A content that is a text has lines. -/
theorem exists_linesOf?_of_isValidUTF8 (h : bytes.IsValidUTF8) :
    ∃ lines, linesOf? bytes = some lines := by
  rw [linesOf?, String.fromUTF8?, dif_pos h]
  exact ⟨_, rfl⟩

/-! ### What an addition leaves -/

theorem toList_data_extended (bytes : ByteArray) (lines : List String) :
    ∃ gap, gap <+: [10] ∧ (extended bytes lines).data.toList =
      bytes.data.toList ++ (gap ++ lines.flatMap fun l => l.toUTF8.data.toList ++ [10]) := by
  have hlf : "\n".toUTF8.data.toList = [10] := rfl
  rw [extended, ByteArray.data_append, Array.toList_append, toList_data_joined]
  split
  · refine ⟨[10], List.prefix_rfl, ?_⟩
    rw [ByteArray.data_append, Array.toList_append, hlf, List.append_assoc]
  · exact ⟨[], List.nil_prefix, by rw [List.nil_append]⟩

/-- Nothing but LF stands between the old bytes and those of the lines. -/
theorem toList_data_grown (bytes : ByteArray) (lines : List String) :
    ∃ gap, gap <+: [10] ∧ (grown bytes lines).data.toList =
      bytes.data.toList ++ (gap ++ lines.flatMap fun l => l.toUTF8.data.toList ++ [10]) := by
  rw [grown]
  split
  · rename_i hnil
    exact ⟨[], List.nil_prefix, by simp [hnil]⟩
  · exact toList_data_extended bytes lines

/-- What an addition leaves: the old bytes with those of the lines behind
them, and everything else as it was. -/
structure Continued (t : Tree) (path : String) (bytes : ByteArray) (lines : List String)
    (u : Tree) : Prop where
  here : u.here = t.here
  bytes : ∃ after gap, u.content? path = some after ∧ gap <+: [10] ∧ after.data.toList =
    bytes.data.toList ++ (gap ++ lines.flatMap fun l => l.toUTF8.data.toList ++ [10])
  others : ∀ l, t.locate (Path.ofText path) ≠ .ok l → u.entryAt l = t.entryAt l

theorem LeadsTo.continued (h : LeadsTo t path target)
    (hb : t.entryAt target = some (.file bytes)) (lines : List String) :
    Continued t path bytes lines (t.appended target bytes lines) := by
  have hsame := sameDirectories_appended hb lines
  obtain ⟨gap, hgap, hgrown⟩ := toList_data_grown bytes lines
  refine ⟨hsame.here, ⟨grown bytes lines, gap, ?_, hgap, hgrown⟩, fun l hl => ?_⟩
  · exact (h.of_same hsame).content?_eq (entryAt_appended_target hb lines)
  · rw [entryAt_appended hb, if_neg]
    rintro rfl
    exact hl h.locate

/-- The lines of a file with lines added are the old ones and these, just if
each of these is one line. -/
theorem LeadsTo.readLines_appended_iff (h : LeadsTo t path target)
    (hb : t.entryAt target = some (.file bytes)) {lines added : List String}
    (hl : linesOf? bytes = some lines) :
    (t.appended target bytes added).readLines path = .ok (lines ++ added) ↔
      ∀ l ∈ added, IsLine l :=
  ⟨fun hread l hmem => isLine_of_readLines hread l (List.mem_append_right lines hmem),
    h.readLines_appended hb hl⟩

/-! ### One addition behind another -/

/-- Where there is no file, lines are not added. -/
theorem appendLines_of_content?_eq_none (hpath : isUnusable path = false)
    (h : t.content? path = none) {lines : List String} (hne : lines ≠ []) :
    t.appendLines path lines = (.error (.unappendable (t.absoluteText path)), t) := by
  rcases hl : t.locate (Path.ofText path) with o | target
  · simp [appendLines, hne, hpath, hl]
  · rcases he : t.entryAt target with - | bytes | -
    · simp [appendLines, hne, hpath, hl, he]
    · simp [content?, find?, hl, he] at h
    · simp [appendLines, hne, hpath, hl, he]

/-- Lines can be added to a file that is there; else the fault is the same
for all lines. -/
theorem file_or_fault (t : Tree) (path : String) :
    (∃ target bytes, LeadsTo t path target ∧ t.entryAt target = some (.file bytes)) ∨
      ∃ f, ∀ lines ≠ [], t.appendLines path lines = (.error f, t) := by
  rcases hpath : isUnusable path with - | -
  · rcases hc : t.content? path with - | bytes
    · exact .inr ⟨_, fun lines hne => appendLines_of_content?_eq_none hpath hc hne⟩
    · obtain ⟨target, hto, hb⟩ := exists_leadsTo_of_content? hpath hc
      exact .inl ⟨target, bytes, hto, hb⟩
  · exact .inr ⟨.broken .badValue, fun lines hne => by simp [appendLines, hne, hpath]⟩

theorem put_put (t : Tree) (l : Location) (e e' : Entry) : (t.put l e).put l e' = t.put l e' := by
  simp [put, remove]

theorem appended_nil (t : Tree) (target : Location) (bytes : ByteArray) :
    t.appended target bytes [] = t :=
  if_pos rfl

theorem appended_appended (t : Tree) (target : Location) (bytes : ByteArray)
    (lines more : List String) :
    (t.appended target bytes lines).appended target (grown bytes lines) more =
      t.appended target bytes (lines ++ more) := by
  by_cases hl : lines = []
  · rw [hl, appended_nil, grown_nil, List.nil_append]
  · by_cases hm : more = []
    · rw [hm, appended_nil, List.append_nil]
    · have hboth : lines ++ more ≠ [] := by simp [hl]
      rw [appended, if_neg hm, appended, if_neg hl, appended, if_neg hboth, put_put, grown,
        if_neg hl, extended_extended bytes hl]

/-- Adding some lines and then more is adding them all, and it fails where the
first of the two does. -/
theorem appendLines_append (t : Tree) (path : String) (lines more : List String) :
    t.appendLines path (lines ++ more) =
      match t.appendLines path lines with
      | (.ok (), u) => u.appendLines path more
      | (.error f, u) => (.error f, u) := by
  rcases t.file_or_fault path with ⟨target, bytes, hto, hb⟩ | ⟨f, hfault⟩
  · have hto' := hto.of_same (sameDirectories_appended hb lines)
    rw [hto.appendLines_eq hb, hto.appendLines_eq hb]
    dsimp only
    rw [hto'.appendLines_eq (entryAt_appended_target hb lines), appended_appended]
  · by_cases hl : lines = []
    · rw [hl]
      rfl
    · rw [hfault lines hl, hfault (lines ++ more) (by simp [hl])]

/-! ### Bytes and lines -/

/-- To add lines to the bytes of a file is to add them to its lines.  The
addition goes through, the old bytes stay where they are and nothing else
changes; if the bytes are a text, its lines are read and then those added,
just if none of these holds a line end.  More lines can be added at once or
behind. -/
theorem appendLines_continues (hpath : isUnusable path = false)
    (hfile : t.content? path = some bytes) (lines : List String) :
    ∃ u, t.appendLines path lines = (.ok (), u) ∧ Continued t path bytes lines u ∧
      (bytes.IsValidUTF8 → ∃ old, t.readLines path = .ok old ∧
        (u.readLines path = .ok (old ++ lines) ↔
          ∀ line ∈ lines, '\n' ∉ line.toList ∧ '\r' ∉ line.toList)) ∧
      ∀ more, ∃ v, u.appendLines path more = (.ok (), v) ∧
        t.appendLines path (lines ++ more) = (.ok (), v) := by
  obtain ⟨target, hto, hb⟩ := exists_leadsTo_of_content? hpath hfile
  have hgoes := hto.appendLines_eq hb
  refine ⟨_, hgoes lines, hto.continued hb lines, fun htext => ?_, fun more => ?_⟩
  · obtain ⟨old, hold⟩ := exists_linesOf?_of_isValidUTF8 htext
    refine ⟨old, hto.readLines_eq_ok_iff.mpr ((linesAt?_of_entryAt hb).trans hold), ?_⟩
    rw [hto.readLines_appended_iff hb hold]
    simp only [isLine_iff]
  · have hboth := t.appendLines_append path lines more
    rw [hgoes lines] at hboth
    exact ⟨_, hboth.symm.trans (hgoes (lines ++ more)), hgoes (lines ++ more)⟩

/-- A directory with a file in it whose last line is ended by CR alone. -/
def page : Tree where
  here := ["d"]
  entries := [(["d"], .directory), (["d", "a"], .file "ü\r".toUTF8)]

theorem leadsTo_page : LeadsTo page "a" ["d", "a"] := ⟨by decide +kernel, rfl⟩

theorem appendLines_continues_sample :
    ∃ u v, page.appendLines "a" ["x"] = (.ok (), u) ∧ u.readLines "a" = .ok ["ü", "x"] ∧
      u.appendLines "a" ["y"] = (.ok (), v) ∧ page.appendLines "a" ["x", "y"] = (.ok (), v) := by
  have hfile : page.content? "a" = some "ü\r".toUTF8 := leadsTo_page.content?_eq rfl
  obtain ⟨u, hu, -, hread, hmore⟩ := appendLines_continues leadsTo_page.usable hfile ["x"]
  have htext : "ü\r".toUTF8.IsValidUTF8 := String.isValidUTF8 "ü\r"
  obtain ⟨old, hold, hiff⟩ := hread htext
  have hlines : page.linesAt? ["d", "a"] = some ["ü"] :=
    (linesAt?_of_entryAt rfl).trans (linesOf?_toUTF8 "ü\r")
  obtain rfl := Option.some.inj ((leadsTo_page.readLines_eq_ok_iff.mp hold).symm.trans hlines)
  obtain ⟨v, hv, hboth⟩ := hmore ["y"]
  exact ⟨u, v, hu, hiff.mpr (by decide), hv, hboth⟩

end Tree

/-! ### Runs that add lines -/

namespace Run

theorem perform_appendLines (path : String) (lines : List String) (x : Session) :
    (appendLines path lines).perform x =
      ((x.tree.appendLines path lines).1, { x with tree := (x.tree.appendLines path lines).2 }) :=
  perform_onTree _ x

theorem appendLines_bind_appendLines (path : String) (lines more : List String) :
    (appendLines path lines >>= fun _ => appendLines path more) =
      appendLines path (lines ++ more) := by
  funext x
  show (appendLines path lines >>= fun _ => appendLines path more).perform x =
    (appendLines path (lines ++ more)).perform x
  rw [perform_bind, perform_appendLines, perform_appendLines, Tree.appendLines_append]
  rcases x.tree.appendLines path lines with ⟨f | ⟨⟩, u⟩
  · rfl
  · exact perform_appendLines path more { x with tree := u }

/-- Any number of additions to a file in a row is a single one. -/
theorem forM_appendLines (path : String) (batches : List (List String)) :
    batches.forM (appendLines path) = appendLines path batches.flatten := by
  induction batches with
  | nil => rfl
  | cons lines batches ih =>
    rw [List.flatten_cons, ← appendLines_bind_appendLines, ← ih]
    rfl

end Run

end NodeBootstrap

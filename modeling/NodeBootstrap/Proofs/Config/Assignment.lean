/-
NodeBootstrap/Proofs/Config/Assignment.lean

One property set in a file.  A line declares a key if it starts with the key, a
colon and a space (`Declares`).  Setting the key gives every declaration the
value, in its place, and adds one at the end if there is none; the last of
several values counts (`setProperty_full`).

So all declarations of a key agree, but there are as many of them as before:
a file that declares a key twice still does (`setProperty_declarations`,
`setProperty_two_declarations`).
-/
import NodeBootstrap.Proofs.Config.Edit

namespace NodeBootstrap

open NodeBootstrap.Lines

namespace Property

/-- A line that declares a key. -/
def Declares (key l : String) : Prop := (key ++ ": ").toList <+: l.toList

instance (key l : String) : Decidable (Declares key l) :=
  inferInstanceAs (Decidable ((key ++ ": ").toList <+: l.toList))

variable {key value v w l : String} {lines : List String}

theorem isSetBy_eq (key l : String) : isSetBy key l = decide (Declares key l) := by
  rw [Bool.eq_iff_iff, decide_eq_true_eq]
  exact startsWith_iff

theorem declares_line (key v : String) : Declares key (line key v) :=
  startsWith_iff.mp (isSetBy_line key v)

theorem isLine_head (h : IsLine key) : IsLine (head key) :=
  h.append (by decide)

/-! ### The lines -/

/-- Every declaration is replaced; the line comes behind if there is none. -/
theorem assign_eq_append (key v : String) (lines : List String) :
    assign key v lines =
      lines.map (fun l => if Declares key l then line key v else l) ++
        if ∃ l ∈ lines, Declares key l then [] else [line key v] := by
  have hreplaced : (fun l => if isSetBy key l = true then line key v else l) =
      fun l => if Declares key l then line key v else l := by
    funext l
    simp only [isSetBy_eq, decide_eq_true_eq]
  have hany : lines.any (isSetBy key) = true ↔ ∃ l ∈ lines, Declares key l := by
    simp only [List.any_eq_true, isSetBy_eq, decide_eq_true_eq]
  rw [assign, hreplaced]
  by_cases h : ∃ l ∈ lines, Declares key l
  · rw [if_pos h, if_pos (hany.mpr h), List.append_nil]
  · rw [if_neg h, if_neg (mt hany.mp h)]

/-- Lines that declare the key, and with the value only, stay as they are. -/
theorem assign_eq_self (hdeclared : ∃ l ∈ lines, Declares key l)
    (hright : ∀ l ∈ lines, Declares key l → l = line key v) : assign key v lines = lines := by
  have hsame : ∀ l ∈ lines, (if Declares key l then line key v else l) = id l := by
    intro l hl
    by_cases h : Declares key l
    · rw [if_pos h, hright l hl h]
      rfl
    · rw [if_neg h]
      rfl
  rw [assign_eq_append, if_pos hdeclared, List.append_nil, List.map_congr_left hsame, List.map_id]

/-- Of two values the second one counts. -/
theorem assign_assign (key v w : String) (lines : List String) :
    assign key w (assign key v lines) = assign key w lines :=
  assignAll_assignAll (List.pairwise_singleton _ key) (List.prefix_refl [key]) (fun _ => w)
    (fun _ => v) lines

/-- The declarations that there are after a key was set. -/
theorem eq_line_of_mem_assign (h : l ∈ assign key v lines) (hl : Declares key l) :
    l = line key v := by
  have hset : IsSetTo key v (assign key v lines) :=
    isSetTo_assignAll (List.pairwise_singleton _ key) (List.mem_singleton_self key) (fun _ => v)
      lines
  exact hset.eq_line l h (startsWith_iff.mpr hl)

/-- A declaration is added only if there was none. -/
theorem countP_assign (key v : String) (lines : List String) :
    (assign key v lines).countP (Declares key ·) = max 1 (lines.countP (Declares key ·)) := by
  -- a line declares the key after it was replaced as it did before
  have hsame : (fun l => decide (Declares key (if Declares key l then line key v else l))) =
      fun l => decide (Declares key l) := by
    funext l
    by_cases h : Declares key l
    · rw [if_pos h, decide_eq_true h, decide_eq_true (declares_line key v)]
    · rw [if_neg h]
  have hmap :
      (lines.map fun l => if Declares key l then line key v else l).countP (Declares key ·) =
        lines.countP (Declares key ·) := by
    rw [List.countP_map]
    exact congrArg (lines.countP ·) hsame
  rw [assign_eq_append, List.countP_append, hmap]
  by_cases h : ∃ l ∈ lines, Declares key l
  · have hpos : 0 < lines.countP (Declares key ·) :=
      List.countP_pos_iff.mpr (by simpa only [decide_eq_true_eq] using h)
    rw [if_pos h, List.countP_nil]
    omega
  · have hzero : lines.countP (Declares key ·) = 0 :=
      List.countP_eq_zero.mpr fun l hl hd => h ⟨l, hl, of_decide_eq_true hd⟩
    rw [if_neg h, hzero, List.countP_singleton, decide_eq_true (declares_line key v)]
    rfl

end Property

/-! ### The run -/

open NodeBootstrap.Property

variable {x y : Session} {path key value : String} {lines : List String} {changed : Bool}

/-- What setting a key does to a file, whatever it held.  A file that is right is
left alone.  Otherwise every declaration has the value, the bytes tell whether
there was a change, and of two values the second one counts. -/
theorem setProperty_full (hkey : IsLine key) (hvalue : IsLine value)
    (hread : x.tree.readLines path = .ok lines) :
    ((∃ l ∈ lines, Declares key l) →
        (∀ l ∈ lines, Declares key l → l = key ++ ": " ++ value) →
          ∃ z, (setProperty path key value).perform x = (.ok false, z) ∧ z.tree = x.tree) ∧
      ∀ changed y, (setProperty path key value).perform x = (.ok changed, y) →
        y.tree.readLines path = .ok
            (lines.map (fun l => if Declares key l then key ++ ": " ++ value else l) ++
              if ∃ l ∈ lines, Declares key l then [] else [key ++ ": " ++ value]) ∧
          (changed = true ↔ y.tree.content? path ≠ x.tree.content? path) ∧
          (∀ other, IsLine other → ∀ result,
            (setProperty path key other).Leaves y path result ↔
              (setProperty path key other).Leaves x path result) ∧
          ∃ z, (setProperty path key value).perform y = (.ok false, z) ∧ z.tree = y.tree := by
  have hruns := revises_setProperty path key value
  have hedit : ∀ {v}, IsLine v → Setup.IsEdit (assign key v) := isEdit_assign (isLine_head hkey)
  refine ⟨fun hdeclared hright => ?_, fun changed y h => ?_⟩
  · exact hruns.exists_perform_of_edit_eq hread (assign_eq_self hdeclared hright)
  have hrevise := hruns.revise_eq h
  refine ⟨?_, Tree.changed_iff_of_revise (hedit hvalue) hrevise, ?_, ?_⟩
  · rw [Tree.readLines_of_revise (hedit hvalue) hread hrevise, assign_eq_append]
    rfl
  · intro other hother
    exact hruns.leaves_iff (revises_setProperty path key other) (hedit hvalue) (hedit hother)
      (assign_assign key value other) h
  · exact hruns.again (hedit hvalue) (assign_assign key value value) h

/-- A key that is declared twice, with a comment between, in a file that ends
its lines with CR LF and does not end its last one; and a file of that kind that
is right. -/
theorem setProperty_full_sample :
    (∃ y, (setProperty "cassandra.yaml" "rpc_address" "10.0.0.1").perform (Session.start
        (Tree.sole "rpc_address: a\r\n# rpc_address: x\r\nrpc_address: c")) = (.ok true, y) ∧
      y.tree.readLines "cassandra.yaml" =
        .ok ["rpc_address: 10.0.0.1", "# rpc_address: x", "rpc_address: 10.0.0.1"] ∧
      ∃ z, (setProperty "cassandra.yaml" "rpc_address" "10.0.0.1").perform y = (.ok false, z) ∧
        z.tree = y.tree) ∧
    ∃ z, (setProperty "cassandra.yaml" "rpc_address" "10.0.0.1").perform (Session.start
        (Tree.sole "a: 1\r\nrpc_address: 10.0.0.1")) = (.ok false, z) ∧
      z.tree = Tree.sole "a: 1\r\nrpc_address: 10.0.0.1" := by
  have hkey : IsLine "rpc_address" := by decide
  have hvalue : IsLine "10.0.0.1" := by decide
  have hedit := isEdit_assign (isLine_head hkey) hvalue
  constructor
  · obtain ⟨y, hy⟩ := (revises_setProperty _ _ _).exists_perform_sole hedit
      "rpc_address: a\r\n# rpc_address: x\r\nrpc_address: c" (by decide)
    obtain ⟨hafter, -, -, hagain⟩ :=
      (setProperty_full hkey hvalue (Tree.readLines_sole _)).2 true y hy
    exact ⟨y, hy, hafter.trans (congrArg Except.ok (by decide)), hagain⟩
  · exact (setProperty_full hkey hvalue (Tree.readLines_sole _)).1 (by decide) (by decide)

/-- All declarations of a key agree after it was set, and there are as many as
before, or one. -/
theorem setProperty_declarations (hkey : IsLine key) (hvalue : IsLine value)
    (hread : x.tree.readLines path = .ok lines)
    (h : (setProperty path key value).perform x = (.ok changed, y)) :
    ∃ after, y.tree.readLines path = .ok after ∧
      (∀ l ∈ after, Declares key l → l = key ++ ": " ++ value) ∧
      after.countP (Declares key ·) = max 1 (lines.countP (Declares key ·)) := by
  have hafter := Tree.readLines_of_revise (isEdit_assign (isLine_head hkey) hvalue) hread
    ((revises_setProperty path key value).revise_eq h)
  exact ⟨_, hafter, fun l hl => eq_line_of_mem_assign hl, countP_assign key value lines⟩

/-- A key that is not declared before is declared once. -/
theorem setProperty_declarations_sample :
    ∃ y after, (setProperty "cassandra.yaml" "rpc_address" "10.0.0.1").perform (Session.start
        (Tree.sole "# rpc_address: x\n")) = (.ok true, y) ∧
      y.tree.readLines "cassandra.yaml" = .ok after ∧
      after.countP (Declares "rpc_address" ·) = 1 := by
  have hkey : IsLine "rpc_address" := by decide
  have hvalue : IsLine "10.0.0.1" := by decide
  have hedit := isEdit_assign (isLine_head hkey) hvalue
  obtain ⟨y, hy⟩ := (revises_setProperty _ _ _).exists_perform_sole hedit "# rpc_address: x\n"
    (by decide)
  obtain ⟨after, hafter, -, hcount⟩ :=
    setProperty_declarations hkey hvalue (Tree.readLines_sole _) hy
  exact ⟨y, after, hy, hafter, hcount.trans (by decide)⟩

/-- A key that is declared twice stays so. -/
theorem setProperty_two_declarations :
    ∃ y after, (setProperty "cassandra.yaml" "listen_address" "10.0.0.1").perform (Session.start
        (Tree.sole "listen_address: a\nlisten_address: b\n")) = (.ok true, y) ∧
      y.tree.readLines "cassandra.yaml" = .ok after ∧
      after.countP (Declares "listen_address" ·) = 2 := by
  have hedit : Setup.IsEdit (assign "listen_address" "10.0.0.1") :=
    isEdit_assign (by decide) (by decide)
  have hruns := revises_setProperty "cassandra.yaml" "listen_address" "10.0.0.1"
  obtain ⟨y, hy⟩ := hruns.exists_perform_sole hedit "listen_address: a\nlisten_address: b\n"
    (by decide)
  have hafter := Tree.readLines_of_revise hedit (Tree.readLines_sole _) (hruns.revise_eq hy)
  exact ⟨y, _, hy, hafter, by decide⟩

end NodeBootstrap

/-
NodeBootstrap/Text/Lines.lean

Lines of a text.  A text is cut after every line end; a line end is a
character of a given class, and CR followed by LF is one line end.  Two
classes are in use:

* the narrow one, LF and CR, for reading configuration files;
* the wide one, which adds the other control and separator characters that
  end a line on paper, for cutting a rendered section into lines.

Written lines are each followed by LF, and a text of such lines is read back
as it was written as long as no line holds a line end (`Lines.ofText_joined`).
-/

namespace NodeBootstrap.Lines

/-! ### Line ends -/

/-- LF and CR. -/
def isNarrowEnd (c : Char) : Bool := c == '\n' || c == '\r'

/-- LF, VT, FF, CR, the three information separators FS, GS and RS, NEL, and
the line and paragraph separators. -/
def isWideEnd (c : Char) : Bool :=
  isNarrowEnd c || c == '\x0b' || c == '\x0c' || c == '\x1c' || c == '\x1d' || c == '\x1e'
    || c == '\u0085' || c == '\u2028' || c == '\u2029'

theorem isWideEnd_of_isNarrowEnd {c : Char} (h : isNarrowEnd c = true) : isWideEnd c = true := by
  simp [isWideEnd, h]

/-! ### Cutting -/

/-- The lines of a text, without their ends.  A text that ends in a line end
has no further, empty line. -/
def cut (ends : Char → Bool) : List Char → List (List Char)
  | [] => []
  | '\r' :: '\n' :: rest => [] :: cut ends rest
  | c :: rest =>
    if ends c then [] :: cut ends rest
    else
      match cut ends rest with
      | [] => [[c]]
      | line :: lines => (c :: line) :: lines

theorem cut_cons_of_not_end {ends : Char → Bool} {c : Char} (hc : ends c = false) (hr : c ≠ '\r')
    (rest : List Char) :
    cut ends (c :: rest) =
      match cut ends rest with
      | [] => [[c]]
      | line :: lines => (c :: line) :: lines := by
  rw [cut.eq_def]
  split
  · contradiction
  · rename_i h; injection h with h _; exact absurd h hr
  · rename_i h; injection h with h1 h2; subst h1 h2; simp [hc]

theorem cut_lf_cons {ends : Char → Bool} (h : ends '\n' = true) (rest : List Char) :
    cut ends ('\n' :: rest) = [] :: cut ends rest := by
  rw [cut.eq_def]; simp [h]

/-- The lines of a file: LF, CR and CR LF each end a line. -/
def ofText (text : String) : List String :=
  (cut isNarrowEnd text.toList).map String.ofList

/-- A text in which every narrow line end is LF. -/
def unified : List Char → List Char
  | [] => []
  | '\r' :: '\n' :: rest => '\n' :: unified rest
  | c :: rest => (if c = '\r' then '\n' else c) :: unified rest

/-- The lines of a rendered text, cut at every wide line end. -/
def ofRendered (text : List Char) : List String :=
  (cut isWideEnd text).map String.ofList

/-- Whether a line starts with a text. -/
def startsWith (head line : String) : Bool := head.toList.isPrefixOf line.toList

/-! ### Joining -/

/-- A text of lines, each followed by LF. -/
def joined (lines : List String) : String :=
  String.join (lines.map (· ++ "\n"))

/-- The lines with LF between them. -/
def between : List (List Char) → List Char
  | [] => []
  | [line] => line
  | line :: lines => line ++ '\n' :: between lines

theorem joined_append (ls ms : List String) : joined (ls ++ ms) = joined ls ++ joined ms := by
  simp [joined]

/-- A line and its end are cut off a text. -/
theorem cut_append_lf {ends : Char → Bool} (hlf : ends '\n' = true) (hcr : ends '\r' = true)
    (line rest : List Char) (h : ∀ c ∈ line, ends c = false) :
    cut ends (line ++ '\n' :: rest) = line :: cut ends rest := by
  induction line with
  | nil => exact cut_lf_cons hlf rest
  | cons c line ih =>
    have hc : ends c = false := h c (by simp)
    have hr : c ≠ '\r' := by
      rintro rfl
      simp [hcr] at hc
    rw [List.cons_append, cut_cons_of_not_end hc hr, ih fun d hd => h d (by simp [hd])]

theorem toList_joined (lines : List String) :
    (joined lines).toList = lines.flatMap fun line => line.toList ++ ['\n'] := by
  simp [joined, String.toList_join, List.flatMap_map]

theorem cut_toList_joined {ends : Char → Bool} (hlf : ends '\n' = true) (hcr : ends '\r' = true)
    (lines : List String) (h : ∀ l ∈ lines, ∀ c ∈ l.toList, ends c = false) :
    cut ends (joined lines).toList = lines.map String.toList := by
  rw [toList_joined]
  induction lines with
  | nil => rfl
  | cons l lines ih =>
    rw [List.flatMap_cons, List.append_assoc, List.singleton_append,
      cut_append_lf hlf hcr l.toList _ (h l (by simp)), ih fun m hm => h m (by simp [hm])]
    rfl

/-- Written lines without line ends are read back. -/
theorem ofText_joined (lines : List String)
    (h : ∀ l ∈ lines, ∀ c ∈ l.toList, isNarrowEnd c = false) :
    ofText (joined lines) = lines := by
  rw [ofText, cut_toList_joined rfl rfl lines h, List.map_map]
  exact List.map_id'' (fun l => String.ofList_toList) lines

end NodeBootstrap.Lines

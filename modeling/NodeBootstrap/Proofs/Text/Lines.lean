/-
NodeBootstrap/Proofs/Text/Lines.lean

Lines of a text that is put together from parts.  A text closed by LF, or an
empty one, and a text behind it have the lines of the one and of the other
(`ofText_append_closed`); a text that ends inside a line has to be closed
first (`ofText_append_open`).  A CR at the end needs no LF, but an LF behind
it does no harm: the two are one line end.
-/
import NodeBootstrap.Text.Lines

namespace NodeBootstrap.Lines

/-- What the characters of a text are is seen from the text, without a run
through all characters there are. -/
instance (priority := 2000) decidableForallMem {p : Char → Prop} [DecidablePred p]
    (cs : List Char) : Decidable (∀ c ∈ cs, p c) :=
  List.decidableBAll p cs

/-- A text without narrow line ends, which a file can hold as one line. -/
def IsLine (l : String) : Prop := ∀ c ∈ l.toList, isNarrowEnd c = false

instance (l : String) : Decidable (IsLine l) :=
  decidableForallMem l.toList

theorem isLine_iff {l : String} : IsLine l ↔ '\n' ∉ l.toList ∧ '\r' ∉ l.toList := by
  constructor
  · intro h
    exact ⟨fun hm => absurd (h _ hm) (by decide), fun hm => absurd (h _ hm) (by decide)⟩
  · rintro ⟨hlf, hcr⟩ c hc
    have hlf' : c ≠ '\n' := fun e => hlf (e ▸ hc)
    have hcr' : c ≠ '\r' := fun e => hcr (e ▸ hc)
    simp [isNarrowEnd, hlf', hcr']

theorem IsLine.append {l m : String} (hl : IsLine l) (hm : IsLine m) : IsLine (l ++ m) := by
  intro c hc
  rw [String.toList_append, List.mem_append] at hc
  rcases hc with hc | hc
  · exact hl c hc
  · exact hm c hc

/-! ### What cutting leaves -/

/-- No line that was cut holds a line end. -/
theorem not_end_of_mem_cut {ends : Char → Bool} (cs : List Char) :
    ∀ line ∈ cut ends cs, ∀ c ∈ line, ends c = false := by
  fun_induction cut ends cs with
  | case1 => simp
  | case2 rest ih => simpa using ih
  | case3 c rest _ _ ih => simpa using ih
  | case4 c rest _ hc h ih =>
    intro line hl d hd
    obtain rfl := List.mem_singleton.mp hl
    obtain rfl := List.mem_singleton.mp hd
    simpa using hc
  | case5 c rest _ hc line lines h ih =>
    intro l hl d hd
    rcases List.mem_cons.mp hl with rfl | hl
    · rcases List.mem_cons.mp hd with rfl | hd
      · simpa using hc
      · exact ih line (by simp [h]) d hd
    · exact ih l (by simp [h, hl]) d hd

theorem isLine_of_mem_ofText {text l : String} (h : l ∈ ofText text) : IsLine l := by
  obtain ⟨line, hline, rfl⟩ := List.mem_map.mp h
  intro c hc
  rw [String.toList_ofList] at hc
  exact not_end_of_mem_cut _ line hline c hc

/-- The lines of a rendered text hold no line ends of any kind. -/
theorem isWideEnd_of_mem_ofRendered {text : List Char} {l : String} (h : l ∈ ofRendered text) :
    ∀ c ∈ l.toList, isWideEnd c = false := by
  obtain ⟨line, hline, rfl⟩ := List.mem_map.mp h
  intro c hc
  rw [String.toList_ofList] at hc
  exact not_end_of_mem_cut _ line hline c hc

/-- So they can stand in a file. -/
theorem isLine_of_mem_ofRendered {text : List Char} {l : String} (h : l ∈ ofRendered text) :
    IsLine l := by
  intro c hc
  have hw := isWideEnd_of_mem_ofRendered h c hc
  cases hn : isNarrowEnd c with
  | false => rfl
  | true => rw [isWideEnd_of_isNarrowEnd hn] at hw; contradiction

theorem cut_ne_nil {ends : Char → Bool} {cs : List Char} (h : cs ≠ []) : cut ends cs ≠ [] := by
  fun_cases cut ends cs <;> simp_all

/-- A text without line ends is one line. -/
theorem cut_of_not_end {ends : Char → Bool} (hcr : ends '\r' = true) {line : List Char}
    (hne : line ≠ []) (h : ∀ c ∈ line, ends c = false) : cut ends line = [line] := by
  induction line with
  | nil => contradiction
  | cons c line ih =>
    have hc : ends c = false := h c List.mem_cons_self
    have hr : c ≠ '\r' := by
      rintro rfl
      rw [hcr] at hc
      contradiction
    rw [cut_cons_of_not_end hc hr]
    cases line with
    | nil => rfl
    | cons d line => rw [ih (by simp) fun e he => h e (List.mem_cons_of_mem _ he)]

/-- Lines without line ends, with LF between them, are what a text is cut
into, unless the last one is empty. -/
theorem cut_between {ends : Char → Bool} (hlf : ends '\n' = true) (hcr : ends '\r' = true)
    {lines : List (List Char)} (h : ∀ line ∈ lines, ∀ c ∈ line, ends c = false)
    (hlast : lines.getLast? ≠ some []) : cut ends (between lines) = lines := by
  induction lines with
  | nil => rfl
  | cons line lines ih =>
    have hline := h line List.mem_cons_self
    cases lines with
    | nil => exact cut_of_not_end hcr (fun e => hlast (congrArg some e)) hline
    | cons next lines =>
      rw [between, cut_append_lf hlf hcr line _ hline, ih fun l hl => h l (List.mem_cons_of_mem _ hl)]
      · rw [List.getLast?_cons_cons] at hlast
        exact hlast
      · simp

/-- The wide line ends, one by one. -/
def wideEnds : List Char :=
  ['\n', '\r', '\x0b', '\x0c', '\x1c', '\x1d', '\x1e', '\u0085', '\u2028', '\u2029']

theorem isWideEnd_eq_false_iff {c : Char} : isWideEnd c = false ↔ c ∉ wideEnds := by
  simp [isWideEnd, isNarrowEnd, wideEnds, and_assoc]

/-! ### A text behind a text -/

/-- A text that is empty or closed by LF. -/
def IsClosed (cs : List Char) : Prop := ∀ c, cs.getLast? = some c → c = '\n'

theorem IsClosed.of_cons {c : Char} {cs : List Char} (h : IsClosed (c :: cs)) : IsClosed cs := by
  cases cs with
  | nil => intro d hd; simp at hd
  | cons d cs => intro e he; exact h e (by rw [List.getLast?_cons_cons, he])

theorem cut_cons_of_end {ends : Char → Bool} {c : Char} (hc : ends c = true) {cs : List Char}
    (h : c = '\r' → cs.head? ≠ some '\n') : cut ends (c :: cs) = [] :: cut ends cs := by
  rw [cut.eq_def]
  split
  · contradiction
  · rename_i e; injection e with e1 e2; subst e1 e2; exact absurd rfl (h rfl)
  · rename_i e; injection e with e1 e2; subst e1 e2; rw [if_pos hc]

theorem head?_append_ne {c : Char} {cs : List Char} (hcs : cs ≠ []) (rest : List Char)
    (h : ∀ more, cs ≠ c :: more) : (cs ++ rest).head? ≠ some c := by
  cases cs with
  | nil => exact absurd rfl hcs
  | cons d cs =>
    intro e
    exact h cs (by rw [List.cons_append, List.head?_cons, Option.some.injEq] at e; rw [e])

/-- Behind a closed text everything is cut as it is alone. -/
theorem cut_append_closed {ends : Char → Bool} (hlf : ends '\n' = true) (hcr : ends '\r' = true)
    {cs : List Char} (h : IsClosed cs) (rest : List Char) :
    cut ends (cs ++ rest) = cut ends cs ++ cut ends rest := by
  fun_induction cut ends cs with
  | case1 => rfl
  | case2 cs ih =>
    rw [List.cons_append, List.cons_append, cut.eq_2, ih h.of_cons.of_cons]
    rfl
  | case3 c cs hn hc ih =>
    have hr : c = '\r' → (cs ++ rest).head? ≠ some '\n' := by
      rintro rfl
      refine head?_append_ne ?_ rest fun more hm => hn more rfl hm
      rintro rfl
      exact absurd (h '\r' rfl) (by decide)
    rw [List.cons_append, cut_cons_of_end hc hr, ih h.of_cons]
    rfl
  | case4 c cs hn hc hcs ih =>
    -- the last character is no line end
    cases cs with
    | nil => rw [h c rfl] at hc; exact absurd hlf hc
    | cons d cs => exact absurd hcs (cut_ne_nil (by simp))
  | case5 c cs hn hc line lines hcs ih =>
    have hr : c ≠ '\r' := by rintro rfl; exact hc hcr
    rw [List.cons_append, cut_cons_of_not_end (by simpa using hc) hr, ih h.of_cons, hcs]
    rfl

/-- LF closes a text that is not closed: it ends the last line, or it belongs
to the CR that has ended it. -/
theorem cut_append_open {cs : List Char} (hne : cs ≠ []) (h : cs.getLast? ≠ some '\n')
    (rest : List Char) :
    cut isNarrowEnd (cs ++ '\n' :: rest) = cut isNarrowEnd cs ++ cut isNarrowEnd rest := by
  fun_induction cut isNarrowEnd cs with
  | case1 => exact absurd rfl hne
  | case2 cs ih =>
    cases cs with
    | nil => exact absurd rfl h
    | cons d cs =>
      rw [List.cons_append, List.cons_append, cut.eq_2, ih (by simp) (by simpa using h)]
      rfl
  | case3 c cs hn hc ih =>
    cases cs with
    | nil =>
      -- the CR at the end and the LF are one line end
      have hr : c = '\r' := by
        have hlf : c ≠ '\n' := by rintro rfl; exact h rfl
        simpa [isNarrowEnd, hlf] using hc
      subst hr
      rfl
    | cons d cs =>
      have hr : c = '\r' → (d :: cs ++ '\n' :: rest).head? ≠ some '\n' := by
        rintro rfl
        exact head?_append_ne (by simp) _ fun more hm => hn more rfl hm
      rw [List.cons_append, cut_cons_of_end hc hr, ih (by simp) (by simpa using h)]
      rfl
  | case4 c cs hn hc hcs ih =>
    cases cs with
    | nil =>
      -- the last line is not ended yet, and LF ends it
      have hr : c ≠ '\r' := by rintro rfl; exact hc rfl
      rw [List.cons_append, cut_cons_of_not_end (by simpa using hc) hr, List.nil_append,
        cut_lf_cons rfl]
      rfl
    | cons d cs => exact absurd hcs (cut_ne_nil (by simp))
  | case5 c cs hn hc line lines hcs ih =>
    have hr : c ≠ '\r' := by rintro rfl; exact hc rfl
    cases cs with
    | nil => simp [cut] at hcs
    | cons d cs =>
      rw [List.cons_append, cut_cons_of_not_end (by simpa using hc) hr, ih (by simp)
        (by simpa using h), hcs]
      rfl

/-! ### The same for files -/

theorem ofText_append_closed {s : String} (h : IsClosed s.toList) (t : String) :
    ofText (s ++ t) = ofText s ++ ofText t := by
  rw [ofText, String.toList_append, cut_append_closed rfl rfl h, List.map_append]
  rfl

theorem ofText_append_open {s : String} (h : ¬ IsClosed s.toList) (t : String) :
    ofText (s ++ "\n" ++ t) = ofText s ++ ofText t := by
  have hne : s.toList ≠ [] := by
    intro e
    exact h (by rw [e]; intro c hc; simp at hc)
  have hlast : s.toList.getLast? ≠ some '\n' := by
    intro e
    exact h fun c hc => by rw [e] at hc; exact (Option.some.inj hc).symm
  rw [ofText, String.toList_append, String.toList_append, List.append_assoc]
  show (cut isNarrowEnd (s.toList ++ '\n' :: t.toList)).map String.ofList = _
  rw [cut_append_open hne hlast, List.map_append]
  rfl

/-- Written lines close a text. -/
theorem isClosed_joined (lines : List String) : IsClosed (joined lines).toList := by
  intro c hc
  rcases List.eq_nil_or_concat lines with rfl | ⟨ls, l, rfl⟩
  · simp [joined] at hc
  · rw [toList_joined, List.concat_eq_append, List.flatMap_append, List.flatMap_singleton,
      ← List.append_assoc, List.getLast?_append] at hc
    simpa [eq_comm] using hc

/-- Lines with LF between them are the written lines without the last LF. -/
theorem between_append_lf {lines : List (List Char)} (h : lines ≠ []) :
    between lines ++ ['\n'] = lines.flatMap (· ++ ['\n']) := by
  induction lines with
  | nil => contradiction
  | cons line lines ih =>
    cases lines with
    | nil => simp [between]
    | cons next more =>
      rw [between, List.flatMap_cons, ← ih (by simp)]
      · simp
      · simp

theorem intercalate_append_lf {lines : List String} (h : lines ≠ []) :
    "\n".intercalate lines ++ "\n" = joined lines := by
  induction lines with
  | nil => contradiction
  | cons line lines ih =>
    rw [joined, List.map_cons, String.join_cons]
    by_cases hnil : lines = []
    · rw [hnil, String.intercalate_singleton, List.map_nil, String.join_nil, String.append_empty]
    · rw [String.intercalate_cons_of_ne_nil hnil, String.append_assoc, ih hnil]
      rfl

end NodeBootstrap.Lines

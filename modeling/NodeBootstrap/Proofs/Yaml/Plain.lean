/-
NodeBootstrap/Proofs/Yaml/Plain.lean

Plain texts of a flow mapping are read back as they were written
(`scalar_plainBody`).  The writer folds at single spaces only, so a fold is a
gap of one space and every other gap is a row of spaces.  The reader goes from
word to word, and so does the induction.
-/
import NodeBootstrap.Proofs.Yaml.Flow
import NodeBootstrap.Yaml.Token.Plain

namespace NodeBootstrap.Yaml.Plain

open NodeBootstrap.Yaml.Flow

variable {c q : Char} {cs left : List Char} {column : Nat}

/-! ### Characters of words -/

/-- A character that stands in a word of a flow collection. -/
structure InWord (c : Char) : Prop where
  noSpace : isSpace c = false
  noMark : isFlowMark c = false
  noColon : c ≠ ':'

theorem InWord.ne_space (h : InWord c) : c ≠ ' ' := by
  rintro rfl
  exact absurd h.noSpace (by decide)

theorem InWord.noBreak (h : InWord c) : isBreak c = false := by
  have hs := h.noSpace
  rw [isSpace, Bool.or_eq_false_iff] at hs
  exact hs.2

theorem word_cons {flow : Bool} (h : InWord c) :
    word flow (c :: cs) = (c :: (word flow cs).1, (word flow cs).2) := by
  have hcolon : (c == ':') = false := by simpa using h.noColon
  rw [word, h.noSpace, h.noMark, hcolon]
  simp

instance : Decidable (InWord c) :=
  decidable_of_iff (isSpace c = false ∧ isFlowMark c = false ∧ c ≠ ':')
    ⟨fun h => ⟨h.1, h.2.1, h.2.2⟩, fun h => ⟨h.noSpace, h.noMark, h.noColon⟩⟩

/-- A character that no mark of flow collections is, as the writer tests it. -/
theorem inWord_of_not_isFlowIndicator (hp : isPrintable c = true)
    (h : Style.isFlowIndicator c = false) (hc : c ≠ ' ') : InWord c := by
  have hmarks : ∀ d ∈ ",?[]\x7b\x7d:".toList, c ≠ d := by
    rintro d hd rfl
    rw [Style.isFlowIndicator, List.contains_iff_mem.mpr hd] at h
    contradiction
  refine ⟨isSpace_of_isPrintable hp hc, ?_, hmarks ':' (by decide)⟩
  simp only [isFlowMark, Bool.or_eq_false_iff, beq_eq_false_iff_ne]
  exact ⟨⟨⟨⟨⟨hmarks _ (by decide), hmarks _ (by decide)⟩, hmarks _ (by decide)⟩,
    hmarks _ (by decide)⟩, hmarks _ (by decide)⟩, hmarks _ (by decide)⟩

/-- What a text that goes on plainly goes on with. -/
theorem continuesPlain_cons (h : Style.continuesPlain q (c :: cs) = true) :
    Style.continuesPlain c cs = true ∧ (c ≠ ' ' → InWord c) ∧ (q = ' ' → c ≠ '#') := by
  simp only [Style.continuesPlain, Bool.and_eq_true, Bool.not_eq_true'] at h
  obtain ⟨⟨⟨hp, hmark⟩, hhash⟩, hrest⟩ := h
  refine ⟨hrest, inWord_of_not_isFlowIndicator hp hmark, ?_⟩
  rintro rfl rfl
  contradiction

/-! ### Words -/

/-- A word ends with its text or at a space. -/
theorem word_plainBody (hleft : word true left = ([], left)) (hq : q ≠ ' ')
    (h : Style.continuesPlain q cs = true) :
    ∃ w more n p, cs = w ++ more ∧ p ≠ ' ' ∧ Style.continuesPlain p more = true ∧
      (∀ d ∈ more.head?, d = ' ') ∧
      word true (plainBody column (some q) cs ++ left) =
        (w, plainBody n (some p) more ++ left) := by
  induction cs generalizing q column with
  | nil => exact ⟨[], [], column, q, rfl, hq, h, by simp, hleft⟩
  | cons c rest ih =>
    by_cases hc : c = ' '
    · subst hc
      refine ⟨[], ' ' :: rest, column, q, rfl, hq, h, by simp, ?_⟩
      rw [plainBody]
      split <;> rfl
    · obtain ⟨hrest, hword, -⟩ := continuesPlain_cons h
      obtain ⟨w, more, n, p, heq, hmore⟩ := ih hc hrest
      refine ⟨c :: w, more, n, p, by rw [heq]; rfl, hmore.1, hmore.2.1, hmore.2.2.1, ?_⟩
      rw [plainBody, if_neg (by simp [hc]), List.cons_append, word_cons (hword hc), hmore.2.2.2]

/-! ### Gaps -/

/-- A row of spaces in a line. -/
theorem gap_spaces (n : Nat) (hc : InWord c) :
    gap (List.replicate n ' ' ++ c :: cs) = ⟨List.replicate n ' ', false, 0, c :: cs⟩ := by
  have htake : (List.replicate n ' ' ++ c :: cs).takeWhile (· == ' ') = List.replicate n ' ' := by
    rw [List.takeWhile_append_of_pos (by simp),
      List.takeWhile_cons_of_neg (by simpa using hc.ne_space), List.append_nil]
  have hdrop : (List.replicate n ' ' ++ c :: cs).dropWhile (· == ' ') = c :: cs := by
    rw [List.dropWhile_append_of_pos (by simp),
      List.dropWhile_cons_of_neg (by simpa using hc.ne_space)]
  simp only [gap, htake, hdrop, hc.noBreak]
  rfl

/-- A gap that starts with a line end. -/
theorem gap_lineEnd {breaks : List Char} (hm : startsDocumentMarker cs = false)
    (h : emptyLines [] 0 cs = some (breaks, column, left)) :
    gap ('\n' :: cs) = ⟨folded '\n' breaks.reverse, true, column, left⟩ := by
  have hbreak : isBreak '\n' = true := by decide
  simp [gap, hbreak, hm, h, breakChar]

/-- A line end with an indentation is one space. -/
theorem gap_fold (hc : InWord c) :
    gap ('\n' :: (indentation scalarIndent ++ c :: cs)) = ⟨[' '], true, scalarIndent, c :: cs⟩ := by
  have hlines : emptyLines [] scalarIndent (c :: cs) = some ([], scalarIndent, c :: cs) := by
    rw [emptyLines, if_neg hc.ne_space, hc.noBreak]
    rfl
  have hskip : emptyLines [] 0 (indentation scalarIndent ++ c :: cs) =
      emptyLines [] scalarIndent (c :: cs) := rfl
  rw [← hskip] at hlines
  rw [gap_lineEnd rfl hlines]
  rfl

/-- The spaces that follow a space are not folded. -/
theorem plainBody_spaces (h : Style.continuesPlain ' ' cs = true) :
    ∃ n c rest m, cs = List.replicate n ' ' ++ c :: rest ∧ InWord c ∧ c ≠ '#' ∧
      Style.continuesPlain c rest = true ∧
      plainBody column (some ' ') cs =
        List.replicate n ' ' ++ c :: plainBody m (some c) rest := by
  induction cs generalizing column with
  | nil => contradiction
  | cons c rest ih =>
    obtain ⟨hrest, hword, hhash⟩ := continuesPlain_cons h
    rw [plainBody, if_neg (by simp [foldsAt])]
    by_cases hc : c = ' '
    · subst hc
      obtain ⟨n, d, more, m, heq, hd, hne, hmore, hbody⟩ := ih hrest
      refine ⟨n + 1, d, more, m, by rw [heq]; rfl, hd, hne, hmore, ?_⟩
      rw [hbody]
      rfl
    · exact ⟨0, c, rest, column + 1, rfl, hword hc, hhash rfl, hrest, rfl⟩

/-- A gap reads as the spaces that it was made of, and a word follows. -/
theorem gap_plainBody (h : Style.continuesPlain ' ' cs = true) :
    ∃ n c rest m crossed indent, ' ' :: cs = List.replicate (n + 1) ' ' ++ c :: rest ∧
      InWord c ∧ c ≠ '#' ∧ Style.continuesPlain c rest = true ∧
      gap (plainBody column (some q) (' ' :: cs) ++ left) =
        ⟨List.replicate (n + 1) ' ', crossed, indent,
          c :: (plainBody m (some c) rest ++ left)⟩ := by
  rw [plainBody]
  split
  · rename_i hfold
    cases cs with
    | nil => contradiction
    | cons c rest =>
      -- a space is folded only before a word
      have hc : c ≠ ' ' := by
        rintro rfl
        simp [foldsAt] at hfold
      obtain ⟨hrest, hword, hhash⟩ := continuesPlain_cons h
      refine ⟨0, c, rest, scalarIndent + 1, true, scalarIndent, rfl, hword hc, hhash rfl, hrest, ?_⟩
      rw [plainBody, if_neg (by simp [hc]), List.cons_append, List.cons_append, List.append_assoc,
        List.cons_append]
      exact gap_fold (hword hc)
  · -- a space that is not folded, and perhaps more of them
    obtain ⟨n, c, rest, m, heq, hc, hne, hrest, hbody⟩ := @plainBody_spaces _ (column + 1) h
    refine ⟨n, c, rest, m, false, 0, by rw [heq]; rfl, hc, hne, hrest, ?_⟩
    rw [hbody, List.cons_append, List.append_assoc, List.cons_append]
    exact gap_spaces (n + 1) hc

/-! ### Scalars -/

/-- What a plain scalar ends before in a flow mapping. -/
structure Ends (left : List Char) : Prop where
  word : word true left = ([], left)
  gap : gap left = ⟨[], false, 0, left⟩

/-- The words of a text, from the first character of one on. -/
theorem words_plainBody (hleft : Ends left) (indent : Int) {before : List Char} {crossed : Bool}
    (hc : InWord c) (h : Style.continuesPlain c cs = true) :
    words true indent before crossed (c :: (plainBody column (some c) cs ++ left)) =
      ⟨before ++ c :: cs, left, false⟩ := by
  induction hn : cs.length using Nat.strongRecOn generalizing c cs column before crossed with
  | ind n ih =>
  subst hn
  obtain ⟨w, more, m, p, rfl, hp, hmore, hhead, hword⟩ :=
    word_plainBody hleft.word hc.ne_space h
  rw [words]
  dsimp only
  rw [word_cons hc, hword, dif_neg (by simp)]
  dsimp only
  cases more with
  | nil =>
    have hgap : gap (plainBody m (some p) [] ++ left) = ⟨[], false, 0, left⟩ := hleft.gap
    rw [hgap, List.append_nil]
    rfl
  | cons d more =>
    obtain rfl : d = ' ' := hhead d rfl
    obtain ⟨k, e, rest, m', crossed', indent', heq, he, hne, hrest, hgap⟩ :=
      @gap_plainBody p _ left m (continuesPlain_cons hmore).1
    -- a word and a gap are behind, and from the next word on the text is shorter
    have hlen : rest.length < (w ++ ' ' :: more).length := by
      have := congrArg List.length heq
      simp only [List.length_cons, List.length_append, List.length_replicate] at this ⊢
      omega
    have hempty : (List.replicate (k + 1) ' ').isEmpty = false := rfl
    rw [hgap]
    dsimp only
    rw [ih rest.length hlen he hrest rfl, hempty, heq]
    simp [hne]

/-- What is written plainly is read back. -/
theorem scalar_plainBody (hleft : Ends left) (indent : Int) {text : List Char}
    (h : Style.fitsPlain text = true) :
    scalar true indent (plainBody column none text ++ left) = ⟨text, left, false⟩ := by
  cases text with
  | nil => contradiction
  | cons c rest =>
    simp only [Style.fitsPlain, Bool.and_eq_true, Bool.not_eq_true', bne_iff_ne] at h
    obtain ⟨⟨⟨⟨⟨⟨hp, hspace⟩, hind⟩, -⟩, -⟩, -⟩, hrest⟩ := h
    -- marks of flow collections are among those that no plain text starts with
    have hflow : Style.isFlowIndicator c = false := by
      cases hf : Style.isFlowIndicator c with
      | false => rfl
      | true =>
        have hall : ∀ d ∈ ",?[]\x7b\x7d:".toList, Style.isIndicator d = true := by decide
        rw [hall c (List.contains_iff_mem.mp hf)] at hind
        contradiction
    rw [plainBody, if_neg (by simp [hspace])]
    exact words_plainBody hleft indent (inWord_of_not_isFlowIndicator hp hflow hspace) hrest

/-! ### Single words -/

theorem word_append {flow : Bool} {w : List Char} (hw : ∀ c ∈ w, InWord c) :
    word flow (w ++ cs) = (w ++ (word flow cs).1, (word flow cs).2) := by
  induction w with
  | nil => rfl
  | cons c w ih =>
    rw [List.cons_append, word_cons (hw c List.mem_cons_self),
      ih fun d hd => hw d (List.mem_cons_of_mem _ hd)]
    rfl

/-- A word, if what follows ends the scalar. -/
theorem scalar_word {flow : Bool} {indent : Int} {w : List Char} (hw : ∀ c ∈ w, InWord c)
    (hne : w ≠ []) (hleft : word flow left = ([], left))
    (hends : ((gap left).text.isEmpty || (gap left).left.head? == some '#'
      || (!flow && (gap left).crossed && ((gap left).column : Int) < indent)) = true) :
    scalar flow indent (w ++ left) = ⟨w, (gap left).left, (gap left).crossed⟩ := by
  rw [scalar, words]
  dsimp only
  rw [word_append hw, hleft, List.append_nil, dif_neg hne]
  dsimp only
  rw [if_pos hends]
  rfl

end NodeBootstrap.Yaml.Plain

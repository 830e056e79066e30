/-
NodeBootstrap/Proofs/Yaml/Quoted.lean

Texts between quotes are read back as they were written
(`scalar_singleBody`, `scalar_doubleBody`), wherever the writer folds a line.

The reader takes spaces in rows, the writer looks at one character at a time.
A row may be read piece by piece as long as no line end stands behind it
(`scalar_space`); so both directions go by induction on the text.
-/
import NodeBootstrap.Proofs.Yaml.Flow
import NodeBootstrap.Yaml.Token.Quoted

namespace NodeBootstrap.Yaml.Quoted

open NodeBootstrap.Yaml.Flow

variable {double : Bool} {c : Char} {cs text left : List Char}

/-! ### What a text goes on with -/

/-- A text that starts with something else than a space. -/
def Solid (cs : List Char) : Prop := ∃ c rest, cs = c :: rest ∧ isSpace c = false

/-- A text in which no line ends before something else than a blank. -/
def Unbroken (cs : List Char) : Prop :=
  ∃ c rest, cs.dropWhile isBlank = c :: rest ∧ isBreak c = false

theorem Solid.unbroken (h : Solid cs) : Unbroken cs := by
  obtain ⟨c, rest, rfl, hc⟩ := h
  simp only [isSpace, Bool.or_eq_false_iff] at hc
  exact ⟨c, rest, List.dropWhile_cons_of_neg (by simp [hc.1]), hc.2⟩

theorem Unbroken.cons_space (h : Unbroken cs) : Unbroken (' ' :: cs) := by
  obtain ⟨c, rest, hd, hc⟩ := h
  exact ⟨c, rest, by rw [List.dropWhile_cons_of_pos (by rfl), hd], hc⟩

/-! ### Reading one piece -/

/-- A result with some text in front. -/
def prepend (text : List Char) (r : List Char × List Char) : List Char × List Char :=
  (text ++ r.1, r.2)

theorem scalar_of_gap (hc : isSpace c = true) (h : gap (c :: cs) = .ok (text, left)) :
    scalar double (c :: cs) = (scalar double left).map (prepend text) := by
  rw [scalar.eq_def]
  dsimp only
  rw [dif_pos hc]
  split
  · rename_i hd
    rw [h] at hd
    contradiction
  · rename_i he
    rw [h] at he
    obtain ⟨rfl, rfl⟩ := Prod.mk.inj (Except.ok.inj he)
    rfl

theorem scalar_char (hs : isSpace c = false) (hq : c ≠ quoteOf double)
    (he : ¬ (double ∧ c = '\\')) :
    scalar double (c :: cs) = (scalar double cs).map (prepend [c]) := by
  rw [scalar.eq_def]
  dsimp only
  rw [dif_neg (by simp [hs]), if_neg hq, if_neg he]
  rfl

theorem scalar_close (h : cs.head? ≠ some '\'') :
    scalar double (quoteOf double :: cs) = .ok ([], cs) := by
  have hs : isSpace (quoteOf double) = false := by cases double <;> rfl
  rw [scalar.eq_def]
  dsimp only
  rw [dif_neg (by simp [hs]), if_pos rfl]
  split
  · exact absurd rfl h
  · rfl

theorem scalar_doubled :
    scalar false ('\'' :: '\'' :: cs) = (scalar false cs).map (prepend ['\'']) := by
  rw [scalar]
  rfl

/-- A space in a line. -/
theorem scalar_space (h : Unbroken cs) :
    scalar double (' ' :: cs) = (scalar double cs).map (prepend [' ']) := by
  obtain ⟨d, rest, hd, hbreak⟩ := h
  have hgap : gap (' ' :: cs) = .ok (' ' :: cs.takeWhile isBlank, d :: rest) := by
    rw [gap, List.dropWhile_cons_of_pos (by rfl), hd, List.takeWhile_cons_of_pos (by rfl)]
    simp [hbreak]
  rw [scalar_of_gap rfl hgap]
  cases cs with
  | nil => contradiction
  | cons e more =>
    cases hb : isBlank e with
    | true =>
      -- the spaces that follow are read in the same row
      have hgap' : gap (e :: more) = .ok ((e :: more).takeWhile isBlank, d :: rest) := by
        rw [gap, hd]
        simp [hbreak]
      rw [scalar_of_gap (by rw [isSpace, hb]; rfl) hgap']
      rcases scalar double (d :: rest) with f | r <;> rfl
    | false =>
      rw [List.dropWhile_cons_of_neg (by simp [hb])] at hd
      obtain ⟨rfl, rfl⟩ := List.cons.inj hd
      rw [List.takeWhile_cons_of_neg (by simp [hb])]

/-! ### Line ends -/

theorem startsMarker_of_ne {mark : Char} (h : c ≠ mark) : startsMarker mark (c :: cs) = false := by
  rw [startsMarker.eq_def]
  split
  · rename_i hcs
    obtain ⟨rfl, -⟩ := List.cons.inj hcs
    simp [h]
  · rfl

/-- An indentation in front of something is no line of its own. -/
theorem emptyLines_indentation (breaks : List Char) (h : Solid cs) :
    emptyLines breaks true (indentation scalarIndent ++ cs) = .ok (breaks, cs) := by
  obtain ⟨c, rest, rfl, hc⟩ := h
  simp only [isSpace, Bool.or_eq_false_iff] at hc
  have hlast : emptyLines breaks false (c :: rest) = .ok (breaks, c :: rest) := by
    rw [emptyLines]
    simp [hc.1, hc.2]
  exact hlast

theorem emptyLines_replicate (breaks : List Char) (n : Nat) :
    emptyLines breaks true (List.replicate n '\n' ++ cs) =
      emptyLines (List.replicate n '\n' ++ breaks) true cs := by
  induction n generalizing breaks with
  | zero => rfl
  | succ n ih =>
    have hstep : ∀ ds,
        emptyLines breaks true ('\n' :: ds) = emptyLines ('\n' :: breaks) true ds := by
      intro ds
      have hmarker : startsDocumentMarker ('\n' :: ds) = false := by
        rw [startsDocumentMarker, startsMarker_of_ne (by decide), startsMarker_of_ne (by decide)]
        rfl
      rw [emptyLines, hmarker]
      rfl
    rw [List.replicate_succ, List.cons_append, hstep, ih, ← List.singleton_append,
      ← List.append_assoc, ← List.replicate_succ', List.replicate_succ]

/-- A gap that starts with a line end. -/
theorem gap_lineEnd {breaks : List Char} (h : emptyLines [] true cs = .ok (breaks, left)) :
    gap ('\n' :: cs) = .ok (Plain.folded '\n' breaks.reverse, left) := by
  have hblank : isBlank '\n' = false := by decide
  have hbreak : isBreak '\n' = true := by decide
  simp [gap, hblank, hbreak, h, breakChar]

/-- A line end with an indentation behind it is a space. -/
theorem scalar_fold (h : Solid cs) :
    scalar double ('\n' :: (indentation scalarIndent ++ cs)) =
      (scalar double cs).map (prepend [' ']) := by
  have hgap : gap ('\n' :: (indentation scalarIndent ++ cs)) = .ok ([' '], cs) :=
    gap_lineEnd (emptyLines_indentation [] h)
  exact scalar_of_gap rfl hgap

/-- One line end more than in the text. -/
theorem scalar_lineEnds (n : Nat) (h : Solid cs) :
    scalar double ('\n' :: (List.replicate (n + 1) '\n' ++ (indentation scalarIndent ++ cs))) =
      (scalar double cs).map (prepend (List.replicate (n + 1) '\n')) := by
  have hgap : gap ('\n' :: (List.replicate (n + 1) '\n' ++ (indentation scalarIndent ++ cs))) =
      .ok (List.replicate (n + 1) '\n', cs) := by
    have hlines : emptyLines [] true
        (List.replicate (n + 1) '\n' ++ (indentation scalarIndent ++ cs)) =
          .ok (List.replicate (n + 1) '\n', cs) := by
      rw [emptyLines_replicate, List.append_nil, emptyLines_indentation _ h]
    rw [gap_lineEnd hlines, List.reverse_replicate]
    rfl
  exact scalar_of_gap rfl hgap

/-! ### Single quotes -/

theorem fitsSingle_tail (h : Style.fitsSingle (c :: cs) = true) : Style.fitsSingle cs = true := by
  cases cs with
  | nil => rfl
  | cons d rest =>
    simp only [Style.fitsSingle, Bool.and_eq_true] at h
    exact h.2

/-- Line ends and spaces do not stand beside each other. -/
theorem head?_of_fitsSingle {c d : Char} (h : Style.fitsSingle (c :: cs) = true)
    (hcd : c = ' ' ∧ d = '\n' ∨ c = '\n' ∧ d = ' ') : cs.head? ≠ some d := by
  cases cs with
  | nil => simp
  | cons e rest =>
    intro he
    obtain rfl := Option.some.inj he
    rcases hcd with ⟨rfl, rfl⟩ | ⟨rfl, rfl⟩ <;> simp [Style.fitsSingle] at h

theorem isPrintable_of_head (h : Style.fitsSingle (c :: cs) = true) (hc : c ≠ '\n') :
    isPrintable c = true := by
  have hw := isWritten_of_fitsSingle h c List.mem_cons_self
  simpa [isWritten, hc] using hw

/-- What stands behind a line end or a fold. -/
theorem solid_singleBody {column : Nat} {before : Option Char} (h : Style.fitsSingle cs = true)
    (hspace : cs.head? ≠ some ' ') (hlf : cs.head? ≠ some '\n') :
    Solid (singleBody column before cs ++ '\'' :: left) := by
  cases cs with
  | nil => exact ⟨'\'', left, rfl, rfl⟩
  | cons c rest =>
    have hc : c ≠ ' ' := fun he => hspace (congrArg some he)
    have hn : c ≠ '\n' := fun he => hlf (congrArg some he)
    rw [singleBody, if_neg (by simp [hc]), if_neg hn]
    split
    · exact ⟨'\'', _, rfl, rfl⟩
    · exact ⟨c, _, rfl, isSpace_of_isPrintable (isPrintable_of_head h hn) hc⟩

/-- Behind a space that is not folded, none is. -/
theorem unbroken_singleBody {column : Nat} (h : Style.fitsSingle cs = true)
    (hlf : cs.head? ≠ some '\n') :
    Unbroken (singleBody column (some ' ') cs ++ '\'' :: left) := by
  induction cs generalizing column with
  | nil => exact (solid_singleBody h (by simp) (by simp)).unbroken
  | cons c rest ih =>
    by_cases hc : c = ' '
    · subst hc
      rw [singleBody, if_neg (by simp [foldsAt]), if_neg (by decide), if_neg (by decide)]
      exact (ih (fitsSingle_tail h) (head?_of_fitsSingle h (.inl ⟨rfl, rfl⟩))).cons_space
    · exact (solid_singleBody h (by simpa using hc) hlf).unbroken

/-- A row of line ends, and what follows it. -/
theorem exists_lineEnds (h : Style.fitsSingle ('\n' :: cs) = true) :
    ∃ n rest, '\n' :: cs = List.replicate (n + 1) '\n' ++ rest ∧ Style.fitsSingle rest = true ∧
      rest.head? ≠ some ' ' ∧ rest.head? ≠ some '\n' := by
  induction cs with
  | nil => exact ⟨0, [], rfl, rfl, by simp, by simp⟩
  | cons c rest ih =>
    by_cases hc : c = '\n'
    · subst hc
      obtain ⟨n, rest', heq, hrest⟩ := ih (fitsSingle_tail h)
      exact ⟨n + 1, rest', by rw [heq]; rfl, hrest⟩
    · exact ⟨0, c :: rest, rfl, fitsSingle_tail h, head?_of_fitsSingle h (.inr ⟨rfl, rfl⟩),
        by simpa using hc⟩

theorem singleBody_lineEnds {column n : Nat} {before : Option Char} (h : cs.head? ≠ some '\n') :
    singleBody column before (List.replicate (n + 1) '\n' ++ cs) =
      (if before = some '\n' then [] else ['\n']) ++ (List.replicate (n + 1) '\n' ++
        (indentation scalarIndent ++ singleBody scalarIndent (some '\n') cs)) := by
  induction n generalizing column before with
  | zero =>
    show singleBody column before ('\n' :: cs) = _
    rw [singleBody, if_neg (by simp), if_pos rfl, if_neg h]
    simp [List.replicate_succ]
  | succ n ih =>
    have hhead : (List.replicate (n + 1) '\n' ++ cs).head? = some '\n' := rfl
    rw [List.replicate_succ, List.cons_append, singleBody, if_neg (by simp), if_pos rfl,
      if_pos hhead, ih, if_pos rfl]
    simp

/-- A space of a single-quoted text, folded or not, and what follows it. -/
theorem scalar_singleBody_space {column : Nat} {before : Option Char}
    (h : Style.fitsSingle (' ' :: cs) = true)
    (hread : ∀ column, scalar false (singleBody column (some ' ') cs ++ '\'' :: left) =
      .ok (cs, left)) :
    scalar false (singleBody column before (' ' :: cs) ++ '\'' :: left) =
      .ok (' ' :: cs, left) := by
  have hrest := fitsSingle_tail h
  have hlf : cs.head? ≠ some '\n' := head?_of_fitsSingle h (.inl ⟨rfl, rfl⟩)
  rw [singleBody]
  split
  · -- a space is folded only if it stands alone
    rename_i hfold
    simp only [foldsAt, Bool.and_eq_true] at hfold
    have hne : cs.head? ≠ some ' ' := by
      intro he
      rw [he] at hfold
      simp at hfold
    simp only [List.append_assoc, List.cons_append]
    rw [scalar_fold (solid_singleBody hrest hne hlf), hread]
    rfl
  · rw [if_neg (by decide), if_neg (by decide), List.cons_append,
      scalar_space (unbroken_singleBody hrest hlf), hread]
    rfl

/-- Another character of it. -/
theorem scalar_singleBody_char {column : Nat} {before : Option Char}
    (h : Style.fitsSingle (c :: cs) = true) (hspace : c ≠ ' ') (hlf : c ≠ '\n')
    (hread : ∀ column, scalar false (singleBody column (some c) cs ++ '\'' :: left) =
      .ok (cs, left)) :
    scalar false (singleBody column before (c :: cs) ++ '\'' :: left) = .ok (c :: cs, left) := by
  rw [singleBody, if_neg (by simp [hspace]), if_neg hlf]
  split
  · rename_i hq
    subst hq
    rw [List.cons_append, List.cons_append, scalar_doubled, hread]
    rfl
  · rename_i hq
    have hquote : c ≠ quoteOf false := hq
    have hsolid := isSpace_of_isPrintable (isPrintable_of_head h hlf) hspace
    rw [List.cons_append, scalar_char hsolid hquote (by simp), hread]
    rfl

/-- What is written between single quotes is read back. -/
theorem scalar_singleBody (hleft : left.head? ≠ some '\'') {text : List Char} {column : Nat}
    {before : Option Char} (h : Style.fitsSingle text = true)
    (hbefore : text.head? = some '\n' → before ≠ some '\n') :
    scalar false (singleBody column before text ++ '\'' :: left) = .ok (text, left) := by
  -- a row of line ends is read at once, so the induction is on the length
  induction hn : text.length using Nat.strongRecOn generalizing text column before with
  | ind n ih =>
  subst hn
  cases text with
  | nil => exact scalar_close hleft
  | cons c rest =>
    have hrest := fitsSingle_tail h
    by_cases hlf : c = '\n'
    · subst hlf
      obtain ⟨k, more, heq, hmore, hspace, hend⟩ := exists_lineEnds h
      rw [heq, singleBody_lineEnds hend, if_neg (hbefore rfl)]
      simp only [List.append_assoc, List.cons_append, List.nil_append]
      rw [scalar_lineEnds k (solid_singleBody hmore hspace hend),
        ih more.length (by rw [heq]; simp) hmore (fun he => absurd he hend) rfl]
      rfl
    have hnext : rest.head? = some '\n' → some c ≠ some '\n' := fun _ he => hlf (Option.some.inj he)
    have hread := fun column => @ih rest.length (by simp) rest column (some c) hrest hnext rfl
    by_cases hspace : c = ' '
    · subst hspace
      exact scalar_singleBody_space h hread
    · exact scalar_singleBody_char h hspace hlf hread

/-! ### Escapes -/

theorem named?_of_escapeLetter? {letter : Char} (h : escapeLetter? c = some letter) :
    named? letter = some c := by
  unfold escapeLetter? at h
  split at h <;> first | contradiction | (obtain rfl := Option.some.inj h; rfl)

theorem valueIn?_upperHexDigit {n : Nat} (h : n < 16) :
    Digit.isHex (Digit.upperHexDigit n) = true ∧
      Digit.valueIn? 16 (Digit.upperHexDigit n) = some n := by
  have hall : ∀ m : Fin 16, Digit.isHex (Digit.upperHexDigit m) = true ∧
      Digit.valueIn? 16 (Digit.upperHexDigit m) = some m.val := by decide +kernel
  exact hall ⟨n, h⟩

theorem length_upperHex (width n : Nat) : (Digit.upperHex width n).length = width := by
  induction width generalizing n with
  | zero => rfl
  | succ width ih => rw [Digit.upperHex, List.length_append, ih, List.length_singleton]

theorem isHex_upperHex (width n : Nat) : (Digit.upperHex width n).all Digit.isHex = true := by
  induction width generalizing n with
  | zero => rfl
  | succ width ih =>
    rw [Digit.upperHex, List.all_append, ih]
    simp [(valueIn?_upperHexDigit (Nat.mod_lt n (by decide : 16 > 0))).1]

/-- Digits enough write the number itself. -/
theorem number_upperHex {width n : Nat} (h : n < Nat.pow 16 width) :
    Digit.number 16 (Digit.upperHex width n) = n := by
  induction width generalizing n with
  | zero =>
    obtain rfl : n = 0 := by simpa using h
    rfl
  | succ width ih =>
    have hpow : Nat.pow 16 (width + 1) = Nat.pow 16 width * 16 := rfl
    have hdiv : n / 16 < Nat.pow 16 width := by omega
    have hnumber := ih hdiv
    rw [Digit.number] at hnumber ⊢
    rw [Digit.upperHex, List.foldl_append, hnumber, List.foldl_cons, List.foldl_nil,
      (valueIn?_upperHexDigit (Nat.mod_lt n (by decide))).2, Option.getD_some]
    omega

theorem toNat_lt (c : Char) : c.toNat < 0x110000 := by
  rcases c.valid with h | h
  · exact Nat.lt_trans h (by decide)
  · exact h.2

/-- The escape by digits. -/
theorem escape_upperHex {letter : Char} {width : Nat} (hn : named? letter = none)
    (hw : width? letter = some width) (hc : c.toNat < Nat.pow 16 width) :
    escape (letter :: (Digit.upperHex width c.toNat ++ left)) = .ok ([c], left) := by
  have hlength := length_upperHex width c.toNat
  have hpoint : ofCodePoint c.toNat = .ok c := by
    rw [ofCodePoint, if_pos (toNat_lt c), Char.ofNat_toNat]
  rw [escape, hn]
  dsimp only
  rw [hw]
  dsimp only
  rw [List.take_append_of_le_length (Nat.le_of_eq hlength.symm),
    List.take_of_length_le (Nat.le_of_eq hlength), if_pos ⟨hlength, isHex_upperHex _ _⟩,
    number_upperHex hc, hpoint]
  dsimp only
  rw [List.drop_append_of_le_length (Nat.le_of_eq hlength.symm),
    List.drop_of_length_le (Nat.le_of_eq hlength)]
  rfl

/-- An escape stands for the character that it was made of. -/
theorem escape_escape (c : Char) (left : List Char) :
    ∃ tail, Flow.escape c = '\\' :: tail ∧ escape (tail ++ left) = .ok ([c], left) := by
  rw [Flow.escape]
  split
  · rename_i letter hl
    refine ⟨[letter], rfl, ?_⟩
    rw [List.singleton_append, escape, named?_of_escapeLetter? hl]
  split
  · exact ⟨_, rfl, escape_upperHex rfl rfl (by omega)⟩
  split
  · exact ⟨_, rfl, escape_upperHex rfl rfl (by omega)⟩
  · have hlt : c.toNat < Nat.pow 16 8 := Nat.lt_trans (toNat_lt c) (by decide)
    exact ⟨_, rfl, escape_upperHex rfl rfl hlt⟩

/-! ### Double quotes -/

theorem scalar_backslash (h : escape cs = .ok (text, left)) :
    scalar true ('\\' :: cs) = (scalar true left).map (prepend text) := by
  rw [scalar.eq_def]
  dsimp only
  rw [dif_neg (by decide), if_neg (by decide), if_pos (by simp)]
  split
  · rename_i hd
    rw [h] at hd
    contradiction
  · rename_i he
    rw [h] at he
    obtain ⟨rfl, rfl⟩ := Prod.mk.inj (Except.ok.inj he)
    rfl

theorem scalar_escape (c : Char) (left : List Char) :
    scalar true (Flow.escape c ++ left) = (scalar true left).map (prepend [c]) := by
  obtain ⟨tail, htail, he⟩ := escape_escape c left
  rw [htail]
  exact scalar_backslash he

theorem escape_lineEnd {breaks : List Char} (h : emptyLines [] true cs = .ok (breaks, left)) :
    escape ('\n' :: cs) = .ok (breaks.reverse, left) := by
  have hname : named? '\n' = none := by decide
  have hwidth : width? '\n' = none := by decide
  have hbreak : isBreak '\n' = true := by decide
  simp [escape, hname, hwidth, hbreak, h]

/-- A line end behind a backslash reads as nothing. -/
theorem scalar_lineEnd (h : Solid cs) :
    scalar true ('\\' :: '\n' :: (indentation scalarIndent ++ cs)) = scalar true cs := by
  have he : escape ('\n' :: (indentation scalarIndent ++ cs)) = .ok ([], cs) :=
    escape_lineEnd (emptyLines_indentation [] h)
  rw [scalar_backslash he]
  rcases scalar true cs with f | r <;> rfl

/-- A fold in front of a character that is not escaped. -/
theorem scalar_escapedFold (hc : isPrintable c = true)
    (hspace : Unbroken cs) :
    scalar true (escapedFold (some c) ++ c :: cs) = scalar true (c :: cs) := by
  rw [escapedFold]
  by_cases h : c = ' '
  · subst h
    -- a space is written behind a backslash, as the indentation would swallow it
    have hmark : scalar true ('\\' :: ' ' :: cs) = scalar true (' ' :: cs) := by
      rw [scalar_space hspace]
      exact scalar_backslash rfl
    rw [if_pos rfl, ← hmark]
    exact scalar_lineEnd ⟨'\\', _, rfl, rfl⟩
  · rw [if_neg (by simpa using h), List.append_nil]
    exact scalar_lineEnd ⟨c, _, rfl, isSpace_of_isPrintable hc h⟩

/-- No line of a text between double quotes ends without a backslash. -/
theorem unbroken_doubleBody (text : List Char) (column : Nat) (first escaped : Bool) :
    Unbroken (doubleBody column first escaped text ++ '"' :: left) := by
  have hback : ∀ more, Unbroken ('\\' :: more) := fun more => Solid.unbroken ⟨'\\', more, rfl, rfl⟩
  induction text generalizing column first escaped with
  | nil => exact Solid.unbroken ⟨'"', left, rfl, rfl⟩
  | cons c rest ih =>
    rw [doubleBody]
    dsimp only
    by_cases hc : isEscaped c = true
    · obtain ⟨tail, htail, -⟩ := escape_escape c []
      rw [if_pos hc, htail]
      split <;> exact hback _
    rw [if_neg hc]
    split
    · exact hback _
    · by_cases hspace : c = ' '
      · subst hspace
        exact (ih _ _ _).cons_space
      · exact Solid.unbroken
          ⟨c, _, rfl, isSpace_of_isPrintable (isPrintable_of_not_isEscaped hc) hspace⟩

/-- Behind a fold, none follows at once. -/
theorem scalar_columnAfterFold {column : Nat} (h : column ≤ width) :
    scalar true (escapedFold cs.head? ++ (doubleBody column false true cs ++ '"' :: left)) =
      scalar true (doubleBody column false true cs ++ '"' :: left) := by
  cases cs with
  | nil => exact scalar_lineEnd ⟨'"', left, rfl, rfl⟩
  | cons c rest =>
    rw [doubleBody]
    dsimp only
    by_cases hc : isEscaped c = true
    · obtain ⟨tail, htail, -⟩ := escape_escape c []
      have hspace : c ≠ ' ' := by
        rintro rfl
        contradiction
      have hfold : escapedFold (some c) = '\\' :: '\n' :: indentation scalarIndent := by
        rw [escapedFold, if_neg (by simpa using hspace), List.append_nil]
      rw [if_pos hc, htail, List.head?_cons, hfold]
      refine scalar_lineEnd ?_
      split <;> exact ⟨'\\', _, rfl, rfl⟩
    · -- the column is within the width, so the character is not folded again
      have hwidth : ¬ width < column := by omega
      rw [if_neg hc, if_neg (by simp [hwidth])]
      exact scalar_escapedFold (isPrintable_of_not_isEscaped hc) (unbroken_doubleBody _ _ _ _)

/-- What is written between double quotes is read back. -/
theorem scalar_doubleBody (hleft : left.head? ≠ some '\'') (text : List Char) (column : Nat)
    (first escaped : Bool) :
    scalar true (doubleBody column first escaped text ++ '"' :: left) = .ok (text, left) := by
  induction text generalizing column first escaped with
  | nil => exact scalar_close hleft
  | cons c rest ih =>
    rw [doubleBody]
    dsimp only
    by_cases hc : isEscaped c = true
    · rw [if_pos hc]
      split
      · have hfold : columnAfterFold rest.head? ≤ width := by
          rw [columnAfterFold]
          split <;> decide
        rw [List.append_assoc, List.append_assoc, scalar_escape, scalar_columnAfterFold hfold, ih]
        rfl
      · rw [List.append_assoc, scalar_escape, ih]
        rfl
    · have hp := isPrintable_of_not_isEscaped hc
      -- the character itself, folded or not
      have hread : ∀ n, scalar true (c :: (doubleBody n false false rest ++ '"' :: left)) =
          .ok (c :: rest, left) := by
        intro n
        by_cases hspace : c = ' '
        · subst hspace
          rw [scalar_space (unbroken_doubleBody _ _ _ _), ih]
          rfl
        · have hquote : c ≠ quoteOf true := by
            rintro rfl
            contradiction
          have hback : ¬ (true = true ∧ c = '\\') := by
            rintro ⟨-, rfl⟩
            contradiction
          rw [scalar_char (isSpace_of_isPrintable hp hspace) hquote hback, ih]
          rfl
      rw [if_neg hc]
      split
      · rw [List.append_assoc, List.cons_append,
          scalar_escapedFold hp (unbroken_doubleBody _ _ _ _), hread]
      · exact hread _

end NodeBootstrap.Yaml.Quoted

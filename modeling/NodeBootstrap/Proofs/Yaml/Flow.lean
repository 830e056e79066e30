/-
NodeBootstrap/Proofs/Yaml/Flow.lean

What written flow mappings look like, whatever texts they hold: printable
ASCII and LF only, and behind every LF another one, an indentation or a dash
(`Written`).  Line ends of other kinds are written by their escapes, so the
only line ends are those of folds and of single-quoted texts.
-/
import NodeBootstrap.Proofs.Text.Lines
import NodeBootstrap.Yaml.Flow

namespace NodeBootstrap.Yaml.Flow

/-- The characters of written mappings. -/
def isWritten (c : Char) : Bool := isPrintable c || c == '\n'

/-- A reader takes all of them. -/
theorem isAllowed_of_isWritten {c : Char} (h : isWritten c = true) : isAllowed c = true := by
  rw [isWritten, Bool.or_eq_true, beq_iff_eq] at h
  rcases h with h | rfl
  · simp only [isPrintable, Bool.and_eq_true, decide_eq_true_eq, Char.le_def,
      UInt32.le_iff_toNat_le] at h
    have h₁ : 0x20 ≤ c.toNat := h.1
    have h₂ : c.toNat ≤ 0x7e := h.2
    simp [isAllowed, h₁, h₂]
  · rfl

/-- Whether a text starts as a line behind another one does: empty, indented
by two columns or with a dash and a space. -/
def startsHung (cs : List Char) : Bool :=
  [['\n'], [' ', ' '], ['-', ' ']].any (·.isPrefixOf cs)

theorem startsHung_iff {cs : List Char} :
    startsHung cs = true ↔ ['\n'] <+: cs ∨ [' ', ' '] <+: cs ∨ ['-', ' '] <+: cs := by
  simp only [startsHung, List.any_cons, List.any_nil, Bool.or_false, Bool.or_eq_true,
    List.isPrefixOf_iff_prefix]

/-- Whether that holds behind every LF. -/
def hangs : List Char → Bool
  | [] => true
  | c :: rest => (c != '\n' || startsHung rest) && hangs rest

theorem isSpace_of_isPrintable {c : Char} (h : isPrintable c = true) (hc : c ≠ ' ') :
    isSpace c = false := by
  have hne : ∀ d, isPrintable d = false → c ≠ d := by
    rintro d hd rfl
    rw [h] at hd
    contradiction
  simp only [isSpace, isBlank, isBreak, Bool.or_eq_false_iff, beq_eq_false_iff_ne]
  exact ⟨⟨hc, hne _ rfl⟩, ⟨⟨hne _ rfl, hne _ rfl⟩, hne _ rfl⟩, hne _ rfl⟩

/-- A text as the writer makes them. -/
structure Written (cs : List Char) : Prop where
  chars : ∀ c ∈ cs, isWritten c = true
  hangs : hangs cs = true

namespace Written

variable {c : Char} {cs ds : List Char}

theorem nil : Written [] := ⟨by simp, rfl⟩

theorem cons (hc : isPrintable c = true) (h : Written cs) : Written (c :: cs) := by
  have hn : c ≠ '\n' := by
    rintro rfl
    exact absurd hc (by decide)
  refine ⟨?_, by simp [Flow.hangs, hn, h.hangs]⟩
  intro d hd
  rcases List.mem_cons.mp hd with rfl | hd
  · simp [isWritten, hc]
  · exact h.chars d hd

theorem lf (hs : startsHung cs = true) (h : Written cs) : Written ('\n' :: cs) := by
  refine ⟨?_, by simp [Flow.hangs, hs, h.hangs]⟩
  intro d hd
  rcases List.mem_cons.mp hd with rfl | hd
  · rfl
  · exact h.chars d hd

theorem startsHung_append (hs : startsHung cs = true) (ds : List Char) :
    startsHung (cs ++ ds) = true := by
  rw [startsHung_iff] at hs ⊢
  have hmore : ∀ {head : List Char}, head <+: cs → head <+: cs ++ ds :=
    fun hp => hp.trans (List.prefix_append cs ds)
  exact hs.imp hmore (Or.imp hmore hmore)

theorem append (hc : Written cs) (hd : Written ds) : Written (cs ++ ds) := by
  refine ⟨?_, ?_⟩
  · intro c hmem
    rcases List.mem_append.mp hmem with hmem | hmem
    · exact hc.chars c hmem
    · exact hd.chars c hmem
  · have hh := hc.hangs
    clear hc
    induction cs with
    | nil => exact hd.hangs
    | cons c cs ih =>
      rw [Flow.hangs, Bool.and_eq_true, Bool.or_eq_true] at hh
      rw [List.cons_append, Flow.hangs, Bool.and_eq_true, Bool.or_eq_true]
      exact ⟨hh.1.imp_right fun hs => startsHung_append hs ds, ih hh.2⟩

theorem of_printable (h : ∀ c ∈ cs, isPrintable c = true) : Written cs := by
  induction cs with
  | nil => exact nil
  | cons c cs ih =>
    exact cons (h c List.mem_cons_self) (ih fun d hd => h d (List.mem_cons_of_mem _ hd))

theorem indentation (n : Nat) : Written (indentation n) := by
  apply of_printable
  intro c hc
  rw [List.eq_of_mem_replicate hc]
  rfl

/-- A line end with an indentation. -/
theorem fold (n : Nat) (h : Written cs) :
    Written ('\n' :: (Flow.indentation (n + 2) ++ cs)) :=
  lf rfl ((indentation (n + 2)).append h)

end Written

/-! ### Plain and single-quoted text -/

theorem written_plainBody {text : List Char} (h : ∀ c ∈ text, isPrintable c = true) (column : Nat)
    (before : Option Char) : Written (plainBody column before text) := by
  induction text generalizing column before with
  | nil => exact Written.nil
  | cons c rest ih =>
    have hrest : ∀ d ∈ rest, isPrintable d = true := fun d hd => h d (List.mem_cons_of_mem _ hd)
    rw [plainBody]
    split
    · exact Written.fold 4 (ih hrest _ _)
    · exact Written.cons (h c List.mem_cons_self) (ih hrest _ _)

/-- Behind a line end, further ones follow at once. -/
theorem startsHung_singleBody (column : Nat) {text : List Char} (h : text.head? = some '\n') :
    startsHung (singleBody column (some '\n') text) = true := by
  cases text with
  | nil => contradiction
  | cons c rest =>
    obtain rfl : c = '\n' := Option.some.inj h
    rfl

theorem written_singleBody {text : List Char} (h : ∀ c ∈ text, isWritten c = true) (column : Nat)
    (before : Option Char) : Written (singleBody column before text) := by
  induction text generalizing column before with
  | nil => exact Written.nil
  | cons c rest ih =>
    have hrest : ∀ d ∈ rest, isWritten d = true := fun d hd => h d (List.mem_cons_of_mem _ hd)
    rw [singleBody]
    split
    · exact Written.fold 4 (ih hrest _ _)
    split
    · rename_i hc
      subst hc
      -- a line end, and behind it another one or an indentation
      have hlf : Written ('\n' :: (if rest.head? = some '\n' then [] else indentation scalarIndent)
          ++ singleBody scalarIndent (some '\n') rest) := by
        split
        · rename_i hr
          exact Written.lf (startsHung_singleBody _ hr) (ih hrest _ _)
        · exact Written.fold 4 (ih hrest _ _)
      split
      · exact hlf
      · exact Written.lf rfl hlf
    split
    · exact Written.cons rfl (Written.cons rfl (ih hrest _ _))
    · rename_i hlf _
      have hc : isPrintable c = true := by simpa [isWritten, hlf] using h c List.mem_cons_self
      exact Written.cons hc (ih hrest _ _)

/-! ### Double-quoted text -/

theorem isPrintable_upperHexDigit {n : Nat} (h : n < 16) :
    isPrintable (Digit.upperHexDigit n) = true := by
  have hall : ∀ m : Fin 16, isPrintable (Digit.upperHexDigit m) = true := by decide
  exact hall ⟨n, h⟩

theorem isPrintable_of_mem_upperHex {width n : Nat} :
    ∀ c ∈ Digit.upperHex width n, isPrintable c = true := by
  induction width generalizing n with
  | zero => simp [Digit.upperHex]
  | succ width ih =>
    intro c hc
    rw [Digit.upperHex, List.mem_append, List.mem_singleton] at hc
    rcases hc with hc | rfl
    · exact ih c hc
    · exact isPrintable_upperHexDigit (Nat.mod_lt n (by decide))

theorem isPrintable_of_escapeLetter? {c letter : Char} (h : escapeLetter? c = some letter) :
    isPrintable letter = true := by
  unfold escapeLetter? at h
  split at h <;> first | contradiction | (obtain rfl := Option.some.inj h; rfl)

theorem isPrintable_of_mem_escape {c : Char} : ∀ d ∈ escape c, isPrintable d = true := by
  intro d hd
  rw [escape] at hd
  split at hd
  · rename_i letter hl
    rcases List.mem_cons.mp hd with rfl | hd
    · rfl
    · rw [List.mem_singleton.mp hd]
      exact isPrintable_of_escapeLetter? hl
  · have hhex : ∀ letter width n, isPrintable letter = true →
        ∀ e ∈ '\\' :: letter :: Digit.upperHex width n, isPrintable e = true := by
      intro letter width n hl e he
      rcases List.mem_cons.mp he with rfl | he
      · rfl
      rcases List.mem_cons.mp he with rfl | he
      · exact hl
      · exact isPrintable_of_mem_upperHex e he
    split at hd
    · exact hhex 'x' 2 _ rfl d hd
    split at hd
    · exact hhex 'u' 4 _ rfl d hd
    · exact hhex 'U' 8 _ rfl d hd

theorem written_escape (c : Char) : Written (escape c) :=
  Written.of_printable isPrintable_of_mem_escape

theorem isPrintable_of_not_isEscaped {c : Char} (h : ¬ isEscaped c = true) :
    isPrintable c = true := by
  cases hp : isPrintable c with
  | true => rfl
  | false => exact absurd (by simp [isEscaped, hp]) h

theorem written_escapedFold (after : Option Char) : Written (escapedFold after) := by
  rw [escapedFold]
  split
  · exact Written.cons rfl (Written.fold 4 (Written.cons rfl Written.nil))
  · exact Written.cons rfl (Written.fold 4 Written.nil)

theorem written_doubleBody (text : List Char) (column : Nat) (first escaped : Bool) :
    Written (doubleBody column first escaped text) := by
  induction text generalizing column first escaped with
  | nil => exact Written.nil
  | cons c rest ih =>
    rw [doubleBody]
    dsimp only
    by_cases hc : isEscaped c = true
    · rw [if_pos hc]
      split
      · exact ((written_escape c).append (written_escapedFold _)).append (ih _ _ _)
      · exact (written_escape c).append (ih _ _ _)
    · rw [if_neg hc]
      have hp := isPrintable_of_not_isEscaped hc
      split
      · exact (written_escapedFold _).append (Written.cons hp (ih _ _ _))
      · exact Written.cons hp (ih _ _ _)

/-! ### Scalars and mappings -/

theorem isPrintable_of_continuesPlain {before : Char} {cs : List Char}
    (h : Style.continuesPlain before cs = true) : ∀ c ∈ cs, isPrintable c = true := by
  induction cs generalizing before with
  | nil => simp
  | cons c rest ih =>
    simp only [Style.continuesPlain, Bool.and_eq_true] at h
    intro d hd
    rcases List.mem_cons.mp hd with rfl | hd
    · exact h.1.1.1
    · exact ih h.2 d hd

theorem isPrintable_of_fitsPlain {text : List Char} (h : Style.fitsPlain text = true) :
    ∀ c ∈ text, isPrintable c = true := by
  cases text with
  | nil => contradiction
  | cons c rest =>
    simp only [Style.fitsPlain, Bool.and_eq_true] at h
    intro d hd
    rcases List.mem_cons.mp hd with rfl | hd
    · exact h.1.1.1.1.1.1
    · exact isPrintable_of_continuesPlain h.2 d hd

theorem isWritten_of_fitsSingle {text : List Char} (h : Style.fitsSingle text = true) :
    ∀ c ∈ text, isWritten c = true := by
  fun_induction Style.fitsSingle text with
  | case1 => simp
  | case2 c =>
    intro d hd
    rw [List.mem_singleton.mp hd]
    exact h
  | case3 c d rest ih =>
    simp only [Bool.and_eq_true] at h
    intro e he
    rcases List.mem_cons.mp he with rfl | he
    · exact h.1.1.1
    · exact ih h.2 e he

theorem written_scalar (column : Nat) (text : List Char) : Written (scalar column text) := by
  rw [scalar, Style.ofText]
  split
  · rename_i hs
    split at hs
    · rename_i hp
      rw [Bool.and_eq_true] at hp
      exact written_plainBody (isPrintable_of_fitsPlain hp.1) _ _
    · split at hs <;> contradiction
  · rename_i hs
    split at hs
    · contradiction
    split at hs
    · rename_i hf
      exact (Written.cons rfl (written_singleBody (isWritten_of_fitsSingle hf) _ _)).append
        (Written.cons rfl Written.nil)
    · contradiction
  · exact (Written.cons rfl (written_doubleBody _ _ _ _)).append (Written.cons rfl Written.nil)

theorem written_entryGap (column : Nat) : Written (entryGap column) := by
  rw [entryGap]
  split
  · exact (Written.fold 2 Written.nil)
  · exact Written.cons rfl Written.nil

theorem written_entries {es : List (String × String)}
    (h : ∀ e ∈ es, ∀ c ∈ e.1.toList, isPrintable c = true) (column : Nat) :
    Written (entries column es) := by
  induction es generalizing column with
  | nil => exact Written.nil
  | cons e rest ih =>
    -- an entry, from whichever column its value starts
    have hentry : ∀ n, Written ((e.1.toList ++ [':', ' ']) ++ scalar n e.2.toList) := by
      intro n
      have hkey : Written e.1.toList := Written.of_printable (h e List.mem_cons_self)
      have hcolon : Written [':', ' '] := Written.of_printable (by decide)
      exact (hkey.append hcolon).append (written_scalar n _)
    have hcomma : Written [','] := Written.of_printable (by decide)
    cases rest with
    | nil => exact hentry _
    | cons f rest =>
      exact (((hentry _).append hcomma).append (written_entryGap _)).append
        (ih (fun e he => h e (List.mem_cons_of_mem _ he)) _)

/-- A flow mapping is written as said, if its keys are printable. -/
theorem written_mapping {es : List (String × String)}
    (h : ∀ e ∈ es, ∀ c ∈ e.1.toList, isPrintable c = true) (column : Nat) :
    Written (mapping column es) :=
  (Written.cons rfl (written_entries h _)).append (Written.cons rfl Written.nil)

end NodeBootstrap.Yaml.Flow

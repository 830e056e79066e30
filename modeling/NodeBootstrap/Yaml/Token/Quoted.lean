/-
NodeBootstrap/Yaml/Token/Quoted.lean

Scalars between quotes.  Between single quotes only a doubled quote is special;
between double quotes a backslash starts an escape.  Spaces around a line end
are dropped; a single line end reads as one space, further ones as themselves.
A line end after a backslash reads as nothing.
-/
import NodeBootstrap.Yaml.Token.Plain

namespace NodeBootstrap.Yaml.Quoted

/-! ### Line ends -/

/-- The empty lines from the start of a line on, the line ends latest first.
A document must not start or end there.  `atStart` tells whether nothing of
the line has been read yet. -/
def emptyLines (breaks : List Char) (atStart : Bool) :
    List Char → Except Defect (List Char × List Char)
  | [] => .ok (breaks, [])
  | c :: rest =>
    if atStart && startsDocumentMarker (c :: rest) then .error .malformed
    else if isBlank c then emptyLines breaks false rest
    else if isBreak c then emptyLines (breakChar c :: breaks) true rest
    else .ok (breaks, c :: rest)

/-- The spaces at the start of a text, as what they read as. -/
def gap (cs : List Char) : Except Defect (List Char × List Char) :=
  let spaces := cs.takeWhile isBlank
  match cs.dropWhile isBlank with
  | [] => .error .malformed
  | c :: rest =>
    if isBreak c then
      match emptyLines [] true rest with
      | .error d => .error d
      | .ok (breaks, left) => .ok (Plain.folded (breakChar c) breaks.reverse, left)
    else .ok (spaces, c :: rest)

theorem length_emptyLines_le {breaks : List Char} {atStart : Bool} {cs : List Char}
    {r : List Char × List Char} (h : emptyLines breaks atStart cs = .ok r) :
    r.2.length ≤ cs.length := by
  induction cs generalizing breaks atStart with
  | nil => simp only [emptyLines, Except.ok.injEq] at h; subst h; simp
  | cons c rest ih =>
    simp only [emptyLines] at h
    split at h
    · contradiction
    · split at h
      · have := ih h; simp only [List.length_cons]; omega
      · split at h
        · have := ih h; simp only [List.length_cons]; omega
        · simp only [Except.ok.injEq] at h; subst h; simp

/-- A gap that starts with a space takes at least one character. -/
theorem length_gap_lt {c : Char} {rest : List Char} (hc : isSpace c = true)
    {r : List Char × List Char}
    (h : gap (c :: rest) = .ok r) : r.2.length < (c :: rest).length := by
  simp only [gap] at h
  by_cases hb : isBlank c = true
  · have hd := Plain.length_dropWhile_le isBlank rest
    simp only [List.dropWhile_cons_of_pos hb] at h
    split at h
    · contradiction
    · rename_i d left hl
      rw [hl] at hd
      simp only [List.length_cons] at hd
      split at h
      · split at h
        · contradiction
        · rename_i he
          have := length_emptyLines_le he
          simp only [Except.ok.injEq] at h; subst h
          simp only [List.length_cons] at this ⊢; omega
      · simp only [Except.ok.injEq] at h; subst h; simp only [List.length_cons]; omega
  · have hk : isBreak c = true := by simpa [isSpace, hb] using hc
    simp only [List.dropWhile_cons_of_neg hb, hk, if_true] at h
    split at h
    · contradiction
    · rename_i he
      have := length_emptyLines_le he
      simp only [Except.ok.injEq] at h; subst h
      simp only [List.length_cons] at this ⊢; omega

/-! ### Escapes -/

/-- The character that a letter stands for after a backslash. -/
def named? : Char → Option Char
  | '0' => some '\x00'
  | 'a' => some '\x07'
  | 'b' => some '\x08'
  | 't' => some '\t'
  | '\t' => some '\t'
  | 'n' => some '\n'
  | 'v' => some '\x0b'
  | 'f' => some '\x0c'
  | 'r' => some '\r'
  | 'e' => some '\x1b'
  | ' ' => some ' '
  | '"' => some '"'
  | '\\' => some '\\'
  | '/' => some '/'
  | 'N' => some '\u0085'
  | '_' => some '\u00a0'
  | 'L' => some '\u2028'
  | 'P' => some '\u2029'
  | _ => none

/-- How many hexadecimal digits follow a letter that announces them. -/
def width? : Char → Option Nat
  | 'x' => some 2
  | 'u' => some 4
  | 'U' => some 8
  | _ => none

/-- The character of a code point. -/
def ofCodePoint (n : Nat) : Except Defect Char :=
  if n < 0x110000 then .ok (Char.ofNat n)
  else if n < 0x80000000 then .error (.broken .badValue)
  else .error (.broken .tooLarge)

/-- What an escape reads as, from behind its backslash. -/
def escape : List Char → Except Defect (List Char × List Char)
  | [] => .error .malformed
  | letter :: rest =>
    match named? letter with
    | some c => .ok ([c], rest)
    | none =>
      match width? letter with
      | some width =>
        let digits := rest.take width
        if digits.length = width ∧ digits.all Digit.isHex then
          match ofCodePoint (Digit.number 16 digits) with
          | .ok c => .ok ([c], rest.drop width)
          | .error d => .error d
        else .error .malformed
      | none =>
        if isBreak letter then
          match emptyLines [] true rest with
          | .ok (breaks, left) => .ok (breaks.reverse, left)
          | .error d => .error d
        else .error .malformed

theorem length_escape_le {cs : List Char} {r : List Char × List Char} (h : escape cs = .ok r) :
    r.2.length ≤ cs.length := by
  cases cs with
  | nil => simp [escape] at h
  | cons letter rest =>
    simp only [escape] at h
    split at h
    · simp only [Except.ok.injEq] at h; subst h; simp
    · split at h
      · split at h
        · split at h
          · simp only [Except.ok.injEq] at h; subst h
            simp only [List.length_drop, List.length_cons]; omega
          · contradiction
        · contradiction
      · split at h
        · split at h
          · rename_i he
            have := length_emptyLines_le he
            simp only [Except.ok.injEq] at h; subst h
            simp only [List.length_cons] at this ⊢; omega
          · contradiction
        · contradiction

/-! ### Scalars -/

def quoteOf (double : Bool) : Char := if double then '"' else '\''

/-- The text of a scalar from behind its opening quote, and what follows its
closing quote. -/
def scalar (double : Bool) : List Char → Except Defect (List Char × List Char)
  | [] => .error .malformed
  | c :: rest =>
    if _ : isSpace c = true then
      match _ : gap (c :: rest) with
      | .error d => .error d
      | .ok (text, left) => (scalar double left).map fun r => (text ++ r.1, r.2)
    else if c = quoteOf double then
      match rest with
      | '\'' :: more =>
        if double then .ok ([], rest) else (scalar double more).map fun r => ('\'' :: r.1, r.2)
      | _ => .ok ([], rest)
    else if double ∧ c = '\\' then
      match _ : escape rest with
      | .error d => .error d
      | .ok (text, left) => (scalar double left).map fun r => (text ++ r.1, r.2)
    else (scalar double rest).map fun r => (c :: r.1, r.2)
termination_by cs => cs.length
decreasing_by
  · rename_i hg
    have := length_gap_lt ‹_› hg
    simpa using this
  · simp only [List.length_cons]; omega
  · rename_i he
    have := length_escape_le he
    simp only [List.length_cons] at this ⊢; omega
  · simp

end NodeBootstrap.Yaml.Quoted

/-
NodeBootstrap/Proofs/Yaml/Scanner.lean

What the steps of the scanner do at the tokens of a written section.  Every
lemma here goes from a state in which such a token follows to the state behind
it (`run_key`, `run_dash`, `run_plain`, …); a text of many tokens is read by
applying them one after the other.

Candidates around a flow collection may expire on the way.  This does no harm,
as none of them is required (`Idle`).
-/
import NodeBootstrap.Proofs.Yaml.Plain
import NodeBootstrap.Proofs.Yaml.Quoted
import NodeBootstrap.Yaml.Token.Scanner

namespace NodeBootstrap.Yaml

/-- A scalar that a reader takes for a text: one between quotes, or one that is
not typed by what it says. -/
def ReadsAsText (text : List Char) (plain : Bool) : Prop := plain = true → Tag.ofPlain text = .text

/-- The tokens of an entry of a mapping from plain words to texts. -/
def entryTokens (key text : List Char) (plain : Bool) : List Token :=
  [.key, .scalar key true, .value, .scalar text plain]

/-! ### Places -/

namespace Place

variable {p : Place} {c : Char} {xs cs : List Char}

theorem after_append : p.after (xs ++ cs) = (p.after xs).after cs := List.foldl_append

theorem reach_append : p.reach (xs ++ cs) cs = p.after xs := by
  have hn : (xs ++ cs).length - cs.length = xs.length := by
    rw [List.length_append, Nat.add_sub_cancel]
  rw [reach, hn, List.take_left]

/-- A character that takes a column. -/
theorem next_of_not_isBreak (hc : isBreak c = false) (hm : c ≠ byteOrderMark) :
    p.next c = ⟨p.line, p.column + 1, p.index + 1⟩ := by
  rw [next, hc, if_neg (by simp), if_neg hm]

/-- A text within a line. -/
theorem after_line (h : ∀ c ∈ xs, isBreak c = false ∧ c ≠ byteOrderMark) :
    p.after xs = ⟨p.line, p.column + xs.length, p.index + xs.length⟩ := by
  induction xs generalizing p with
  | nil => rfl
  | cons c xs ih =>
    obtain ⟨hc, hm⟩ := h c List.mem_cons_self
    show (p.next c).after xs = _
    rw [next_of_not_isBreak hc hm, ih fun d hd => h d (List.mem_cons_of_mem _ hd)]
    simp only [List.length_cons, Place.mk.injEq, true_and]
    omega

end Place

namespace Scanner

open NodeBootstrap.Yaml.Quoted (quoteOf)

variable {s t : Scanner} {c : Char} {blanks rest left : List Char}

/-! ### Steps -/

theorem run_of_step (h : s.step = .ok t) (ht : t.tokens.head? ≠ some .streamEnd)
    (hl : t.left.length < s.left.length) : s.run = t.run := by
  rw [run, h]
  dsimp only
  rw [if_pos ⟨ht, hl⟩]

theorem moveTo_of_left {xs : List Char} (h : s.left = xs ++ rest) :
    s.moveTo rest = { s with left := rest, place := s.place.after xs } := by
  rw [moveTo, h, Place.reach_append]

/-- What may stand before a token. -/
def IsGap (blanks : List Char) : Prop := ∀ c ∈ blanks, c = ' ' ∨ c = '\n'

/-- A character that starts a token. -/
structure Starts (c : Char) : Prop where
  noSpace : isSpace c = false
  noComment : c ≠ '#'
  noMark : c ≠ byteOrderMark

theorem skipSpaces_append {flow mayStartKey : Bool} (hb : IsGap blanks) (hc : Starts c) :
    skipSpaces flow false mayStartKey (blanks ++ c :: rest) =
      (c :: rest, mayStartKey || (!flow && blanks.contains '\n')) := by
  induction blanks generalizing mayStartKey with
  | nil =>
    have hspace : c ≠ ' ' := by
      rintro rfl
      exact absurd hc.noSpace (by decide)
    have hbreak : isBreak c = false := by
      have hs := hc.noSpace
      rw [isSpace, Bool.or_eq_false_iff] at hs
      exact hs.2
    simp [skipSpaces, hbreak, hspace, hc.noComment]
  | cons d blanks ih =>
    have hb' : IsGap blanks := fun e he => hb e (List.mem_cons_of_mem _ he)
    rcases hb d List.mem_cons_self with rfl | rfl
    · show skipSpaces flow false mayStartKey (blanks ++ c :: rest) = _
      rw [ih hb']
      simp
    · -- a line end lets a key start, but not within a flow collection
      show skipSpaces flow false (mayStartKey || !flow) (blanks ++ c :: rest) = _
      rw [ih hb']
      cases flow <;> cases mayStartKey <;> simp

/-- What is left of a candidate at a place. -/
def alive (p : Place) (o : Option Candidate) : Option Candidate := o.filter fun k => !expired p k

/-- The state in front of the next token. -/
def ahead (s : Scanner) (blanks left : List Char) : Scanner :=
  let p := s.place.after blanks
  { s with
    left, place := p, candidate := alive p s.candidate, outer := s.outer.map (alive p)
    mayStartKey := s.mayStartKey || (!s.inFlow && blanks.contains '\n') }

/-- No candidate is missed at a place. -/
def Steady (s : Scanner) (p : Place) : Prop :=
  ∀ o ∈ s.candidate :: s.outer, ∀ k ∈ o, k.required = true → expired p k = false

theorem dropMark_of_ne (h : s.left.head? ≠ some byteOrderMark) : s.dropMark = s := by
  rw [dropMark, if_neg fun hm => h hm.2]

theorem dropExpired_of_steady (h : s.Steady s.place) :
    s.dropExpired = .ok
      { s with candidate := alive s.place s.candidate, outer := s.outer.map (alive s.place) } := by
  have hany : ¬ ((s.candidate :: s.outer).any fun o =>
      o.any fun k => expired s.place k && k.required) = true := by
    intro hany
    obtain ⟨o, ho, hk⟩ := List.any_eq_true.mp hany
    cases o with
    | none => contradiction
    | some k =>
      rw [Option.any_some, Bool.and_eq_true] at hk
      rw [h _ ho k rfl hk.2] at hk
      exact absurd hk.1 (by decide)
  rw [dropExpired]
  dsimp only
  rw [if_neg hany]
  rfl

theorem unwind_of_le (h : s.inFlow = true ∨ s.indent ≤ s.place.column) :
    s.unwind s.place.column = s := by
  rw [unwind]
  split
  · rfl
  · rename_i hflow
    have hle := h.resolve_left hflow
    have hclose : closeTo s.place.column s.indent s.indents s.tokens =
        (s.indent, s.indents, s.tokens) := by
      cases hi : s.indents with
      | nil => rfl
      | cons around more => rw [closeTo, if_neg (by omega)]
    rw [hclose]

theorem inFlow_ahead : (s.ahead blanks left).inFlow = s.inFlow := by
  simp [inFlow, ahead]

/-- A step goes to the next token and reads it. -/
theorem step_of_left (hleft : s.left = blanks ++ c :: rest) (hb : IsGap blanks) (hc : Starts c)
    (hs : s.Steady (s.place.after blanks))
    (hcol : s.inFlow = true ∨ s.indent ≤ (s.place.after blanks).column) :
    s.step = (s.ahead blanks (c :: rest)).token c rest := by
  have hhead : s.left.head? ≠ some byteOrderMark := by
    rw [hleft]
    cases blanks with
    | nil => exact fun he => hc.noMark (Option.some.inj he)
    | cons d blanks =>
      rcases hb d List.mem_cons_self with rfl | rfl <;>
        exact fun he => absurd (Option.some.inj he) (by decide)
  have hnext : s.toNextToken =
      { s with
        left := c :: rest, place := s.place.after blanks
        mayStartKey := s.mayStartKey || (!s.inFlow && blanks.contains '\n') } := by
    rw [toNextToken, dropMark_of_ne hhead, hleft]
    dsimp only
    rw [skipSpaces_append hb hc]
    dsimp only
    rw [moveTo_of_left hleft]
  have hahead : s.toNextToken.dropExpired = .ok (s.ahead blanks (c :: rest)) := by
    rw [hnext]
    exact dropExpired_of_steady hs
  rw [step, hahead]
  dsimp only [bind, Except.bind]
  rw [unwind_of_le (hcol.imp_left fun h => inFlow_ahead.trans h)]
  rfl

/-! ### Scalars -/

/-- The state behind a scalar that starts here. -/
def behindScalar (s : Scanner) (written left text : List Char) (plain crossed : Bool) : Scanner :=
  { s with
    left, place := s.place.after written
    candidate :=
      if s.mayStartKey then
        some ⟨s.place, s.tokens.length, !s.inFlow && s.indent == s.place.column⟩
      else s.candidate
    mayStartKey := crossed
    tokens := .scalar text plain :: s.tokens }

theorem addCandidate_eq (h : ∀ k ∈ s.candidate, k.required = false) :
    s.addCandidate = .ok
      { s with
        candidate :=
          if s.mayStartKey then
            some ⟨s.place, s.tokens.length, !s.inFlow && s.indent == s.place.column⟩
          else s.candidate } := by
  rw [addCandidate]
  split
  · have hdrop : s.candidate.any (·.required) = false := by
      cases hk : s.candidate with
      | none => rfl
      | some k => exact h k hk
    rw [dropCandidate, hdrop]
    rfl
  · rfl

theorem token_plain (hleft : s.left = c :: rest) (h : startsPlain s.inFlow c rest = true)
    (hp : s.place.column ≠ 0 ∨ c ≠ '-' ∧ c ≠ '.') : s.token c rest = s.plain := by
  have hmarker : ∀ mark, mark = '-' ∨ mark = '.' →
      ((s.place.column == 0) && startsMarker mark s.left) = false := by
    intro mark hmark
    rcases hp with hp | hp
    · simp [hp]
    · have hne : c ≠ mark := by rcases hmark with rfl | rfl <;> simp [hp]
      rw [hleft, Quoted.startsMarker_of_ne hne, Bool.and_false]
  -- signs by themselves, whatever follows them
  have hall : ∀ d ∈ ['%', '[', '\x7b', ']', '\x7d', ',', '*', '&', '!', '|', '>', '\'', '"'],
      isIndicator d = true ∧ d ≠ '-' ∧ d ≠ '?' ∧ d ≠ ':' := by decide
  have hsign : ∀ d ∈ ['%', '[', '\x7b', ']', '\x7d', ',', '*', '&', '!', '|', '>', '\'', '"'],
      c ≠ d := by
    rintro d hd rfl
    obtain ⟨hi, hd⟩ := hall c hd
    simp [startsPlain, hi, hd] at h
  -- signs by what follows them, which a plain scalar may start with otherwise
  have hdash : (decide (c = '-') && startsSpace rest) = false := by
    cases hr : startsSpace rest with
    | false => simp
    | true =>
      have hc : c ≠ '-' := by
        rintro rfl
        simp [startsPlain, isIndicator, hr] at h
      simp [hc]
  have hmark : ∀ d, d = '?' ∨ d = ':' →
      (decide (c = d) && (s.inFlow || startsSpace rest)) = false := by
    intro d hd
    cases hr : s.inFlow || startsSpace rest with
    | false => simp
    | true =>
      have hc : c ≠ d := by
        rintro rfl
        rw [Bool.or_eq_true] at hr
        rcases hd with rfl | rfl <;> rcases hr with hr | hr <;>
          simp [startsPlain, isIndicator, hr] at h
      simp [hc]
  simp only [List.mem_cons, List.not_mem_nil, or_false, forall_eq_or_imp, forall_eq] at hsign
  simp [token, hmarker '-' (.inl rfl), hmarker '.' (.inr rfl), hsign, hdash, hmark '?' (.inl rfl),
    hmark ':' (.inr rfl), h]

theorem plain_eq {written text : List Char} {crossed : Bool} (hleft : s.left = written ++ left)
    (hk : ∀ k ∈ s.candidate, k.required = false)
    (hr : Plain.scalar s.inFlow (s.indent + 1) s.left = ⟨text, left, crossed⟩) :
    s.plain = .ok (s.behindScalar written left text true crossed) := by
  rw [plain, addCandidate_eq hk]
  show Except.ok (push (moveTo
    { s with
      candidate := _, mayStartKey := (Plain.scalar s.inFlow (s.indent + 1) s.left).crossed }
    (Plain.scalar s.inFlow (s.indent + 1) s.left).left)
    (.scalar (Plain.scalar s.inFlow (s.indent + 1) s.left).text true)) = _
  have hplace : s.place.reach s.left left = s.place.after written := by
    rw [hleft, Place.reach_append]
  rw [hr]
  dsimp only [moveTo]
  rw [hplace]
  rfl

theorem quoted_eq {double : Bool} {body written text : List Char}
    (hleft : s.left = written ++ left) (hbody : s.left.drop 1 = body)
    (hk : ∀ k ∈ s.candidate, k.required = false)
    (hr : Quoted.scalar double body = .ok (text, left)) :
    s.quoted double = .ok (s.behindScalar written left text false false) := by
  rw [quoted, addCandidate_eq hk]
  dsimp only [bind, Except.bind]
  have hplace : s.place.reach s.left left = s.place.after written := by
    rw [hleft, Place.reach_append]
  rw [hbody, hr]
  dsimp only [moveTo]
  rw [hplace]
  rfl

/-- Candidates that nothing is missed without. -/
def Idle (outer : List (Option Candidate)) : Prop := ∀ o ∈ outer, ∀ k ∈ o, k.required = false

theorem Idle.alive {outer : List (Option Candidate)} (h : Idle outer) (p : Place) :
    Idle (outer.map (alive p)) := by
  intro o ho k hk
  obtain ⟨o', ho', rfl⟩ := List.mem_map.mp ho
  exact h o' ho' k (Option.filter_eq_some_iff.mp hk).1

/-- A candidate that has not expired is not missed. -/
theorem steady_of_idle {p : Place} (h : Idle s.outer)
    (hk : ∀ k ∈ s.candidate, expired p k = false) : s.Steady p := by
  intro o ho k hmem hr
  rcases List.mem_cons.mp ho with rfl | ho
  · exact hk k hmem
  · rw [h o ho k hmem] at hr
    contradiction

/-- A scalar is read. -/
theorem run_scalar {written text : List Char} {plain crossed : Bool}
    (hleft : s.left = blanks ++ (written ++ left)) (hb : IsGap blanks)
    (hwritten : written ++ left = c :: rest) (hne : written ≠ []) (hc : Starts c)
    (hcol : s.inFlow = true ∨ s.indent ≤ (s.place.after blanks).column)
    (hs : s.Steady (s.place.after blanks))
    (htoken : (s.ahead blanks (c :: rest)).token c rest =
      .ok ((s.ahead blanks (c :: rest)).behindScalar written left text plain crossed)) :
    s.run = ((s.ahead blanks (c :: rest)).behindScalar written left text plain crossed).run := by
  refine run_of_step ?_ (by simp [behindScalar]) ?_
  · rw [step_of_left (by rw [hleft, hwritten]) hb hc hs hcol]
    exact htoken
  · have hpos := List.length_pos_iff.mpr hne
    rw [hleft]
    simp only [behindScalar, List.length_append]
    omega

/-- A plain scalar is read. -/
theorem run_plain (blanks : List Char) {written text : List Char} {crossed : Bool}
    (hleft : s.left = blanks ++ (written ++ left)) (hb : IsGap blanks)
    (hwritten : written ++ left = c :: rest) (hne : written ≠ []) (hc : Starts c)
    (hstarts : startsPlain s.inFlow c rest = true)
    (hmarker : (s.place.after blanks).column ≠ 0 ∨ c ≠ '-' ∧ c ≠ '.')
    (hcol : s.inFlow = true ∨ s.indent ≤ (s.place.after blanks).column)
    (hk : s.candidate = none) (ho : Idle s.outer)
    (hr : Plain.scalar s.inFlow (s.indent + 1) (c :: rest) = ⟨text, left, crossed⟩) :
    s.run = ((s.ahead blanks (c :: rest)).behindScalar written left text true crossed).run := by
  have hkc : ∀ k ∈ (s.ahead blanks (c :: rest)).candidate, k.required = false := by
    simp [ahead, hk, alive]
  refine run_scalar hleft hb hwritten hne hc hcol (steady_of_idle ho (by simp [hk])) ?_
  rw [token_plain rfl (by rw [inFlow_ahead]; exact hstarts) hmarker]
  refine plain_eq hwritten.symm hkc ?_
  rw [inFlow_ahead]
  exact hr

/-! ### Keys -/

theorem insertAt_append (t : Token) (ts tokens : List Token) :
    insertAt tokens.length t (ts ++ tokens) = ts ++ t :: tokens := by
  have hn : (ts ++ tokens).length - tokens.length = ts.length := by
    rw [List.length_append, Nat.add_sub_cancel]
  rw [insertAt, hn, List.take_left, List.drop_left]

/-- A plain word that is a key before a colon. -/
structure IsKey (key : List Char) : Prop where
  chars : ∀ c ∈ key, Plain.InWord c ∧ isIndicator c = false ∧ c ≠ '.' ∧ c ≠ byteOrderMark
  ne : key ≠ []
  length : key.length ≤ maxKeyLength

theorem startsMarker_sign {mark : Char} (hleft : s.left = c :: rest) (hc : c ≠ mark) :
    startsMarker mark s.left = false := by
  rw [hleft]
  exact Quoted.startsMarker_of_ne hc

theorem token_colon (hleft : s.left = ':' :: rest)
    (h : s.inFlow = true ∨ startsSpace rest = true) : s.token ':' rest = s.valueSign := by
  have h' : (s.inFlow || startsSpace rest) = true := by rwa [Bool.or_eq_true]
  simp [token, startsMarker_sign hleft, h']

/-- The state behind a key and its colon, in a block mapping that the key may
have opened or in a flow mapping. -/
def behindKey (s : Scanner) (blanks key left : List Char) (outer : List (Option Candidate)) :
    Scanner :=
  let column := (s.place.after blanks).column
  let opens := !s.inFlow && s.indent < column
  { left, place := s.place.after (blanks ++ (key ++ [':']))
    indent := if opens then column else s.indent
    indents := if opens then s.indent :: s.indents else s.indents
    candidate := none, outer, mayStartKey := false
    tokens := .value :: .scalar key true :: .key ::
      (if opens then .blockMappingStart :: s.tokens else s.tokens) }

/-- The colon behind a word that may be a key. -/
theorem valueSign_eq {k : Candidate} {tokens : List Token} {text : List Char}
    (hleft : s.left = ':' :: rest) (hk : s.candidate = some k) (hcount : k.count = tokens.length)
    (htokens : s.tokens = .scalar text true :: tokens) :
    s.valueSign = .ok
      { left := rest, place := s.place.next ':'
        indent := if !s.inFlow && s.indent < k.place.column then k.place.column else s.indent
        indents := if !s.inFlow && s.indent < k.place.column then s.indent :: s.indents
          else s.indents
        candidate := none, outer := s.outer, mayStartKey := false
        tokens := .value :: .scalar text true :: .key ::
          (if !s.inFlow && s.indent < k.place.column then .blockMappingStart :: tokens
          else tokens) } := by
  have hplace : s.place.reach s.left rest = s.place.next ':' := by
    rw [hleft]
    exact @Place.reach_append s.place [':'] rest
  -- the key sign goes in front of the word, and the mapping in front of both
  have hkey : insertAt tokens.length .key (.scalar text true :: tokens) =
      [.scalar text true, .key] ++ tokens := insertAt_append .key [.scalar text true] tokens
  rw [valueSign, hk]
  dsimp only
  rw [hcount, htokens, hkey]
  have hopen : insertAt tokens.length .blockMappingStart ([.scalar text true, .key] ++ tokens) =
      [.scalar text true, .key] ++ .blockMappingStart :: tokens := insertAt_append _ _ tokens
  have hdrop : s.left.drop 1 = rest := by rw [hleft]; rfl
  split
  · rename_i hf
    have hf' : s.inFlow = true := hf
    simp [sign, push, moveTo, hdrop, hplace, hf']
  · rename_i hf
    have hf' : ¬ s.inFlow = true := hf
    rw [openAt]
    dsimp only
    rw [hopen]
    split <;> rename_i hlt <;> simp [sign, push, moveTo, hdrop, hplace, hf', hlt]

theorem run_colon {k : Candidate} {tokens : List Token} {text : List Char} {sep : Char}
    (hleft : s.left = ':' :: sep :: rest) (hsep : isSpace sep = true) (hk : s.candidate = some k)
    (halive : expired s.place k = false) (ho : Idle s.outer)
    (hcol : s.inFlow = true ∨ s.indent ≤ s.place.column) (hcount : k.count = tokens.length)
    (htokens : s.tokens = .scalar text true :: tokens) :
    s.run = run
      { left := sep :: rest, place := s.place.next ':'
        indent := if !s.inFlow && s.indent < k.place.column then k.place.column else s.indent
        indents := if !s.inFlow && s.indent < k.place.column then s.indent :: s.indents
          else s.indents
        candidate := none, outer := s.outer.map (alive s.place), mayStartKey := false
        tokens := .value :: .scalar text true :: .key ::
          (if !s.inFlow && s.indent < k.place.column then .blockMappingStart :: tokens
          else tokens) } := by
  -- the candidate is still there at the colon
  have hcand : (s.ahead [] (':' :: sep :: rest)).candidate = some k := by
    show alive s.place s.candidate = some k
    rw [hk, alive, Option.filter_some_pos (by simp [halive])]
  have hsteady : s.Steady s.place := by
    refine steady_of_idle ho ?_
    intro k' hk'
    rw [hk] at hk'
    obtain rfl := Option.some.inj hk'
    exact halive
  have hsep' : startsSpace (sep :: rest) = true := hsep
  refine run_of_step ?_ (by simp) (by simp [hleft])
  rw [@step_of_left _ _ [] _ hleft (by simp [IsGap]) ⟨rfl, by decide, by decide⟩ hsteady hcol,
    token_colon rfl (.inr hsep'), valueSign_eq rfl hcand hcount htokens, inFlow_ahead]
  rfl

theorem IsKey.starts {key : List Char} (hkey : IsKey key) :
    ∃ c more, key = c :: more ∧ Starts c ∧ (∀ flow rest, startsPlain flow c rest = true) ∧
      c ≠ '-' ∧ c ≠ '.' := by
  cases key with
  | nil => exact absurd rfl hkey.ne
  | cons c more =>
    obtain ⟨hword, hind, hdot, hmark⟩ := hkey.chars c List.mem_cons_self
    have hne : ∀ d, isIndicator d = true → c ≠ d := by
      rintro d hd rfl
      rw [hind] at hd
      contradiction
    exact ⟨c, more, rfl, ⟨hword.noSpace, hne _ rfl, hmark⟩,
      fun flow rest => by simp [startsPlain, hword.noSpace, hind], hne _ rfl, hdot⟩

/-- A key stands in one line. -/
theorem IsKey.after_eq {key : List Char} (hkey : IsKey key) (p : Place) :
    p.after key = ⟨p.line, p.column + key.length, p.index + key.length⟩ :=
  Place.after_line fun c hc => ⟨(hkey.chars c hc).1.noBreak, (hkey.chars c hc).2.2.2⟩

/-- It has not expired behind itself, for its length is bounded. -/
theorem IsKey.not_expired {key : List Char} (hkey : IsKey key) (p : Place) (count : Nat)
    (required : Bool) : expired (p.after key) ⟨p, count, required⟩ = false := by
  have hlen := hkey.length
  rw [hkey.after_eq]
  simp only [expired, bne_self_eq_false, Bool.false_or, decide_eq_false_iff_not]
  omega

/-- A key is read, with its colon. -/
theorem run_key (blanks : List Char) {key : List Char} {sep : Char} (hkey : IsKey key)
    (hsep : isSpace sep = true) (hleft : s.left = blanks ++ (key ++ ':' :: sep :: left))
    (hb : IsGap blanks)
    (hcol : s.inFlow = true ∨ s.indent ≤ (s.place.after blanks).column)
    (hstart : (s.mayStartKey || (!s.inFlow && blanks.contains '\n')) = true)
    (hk : s.candidate = none) (ho : Idle s.outer) :
    ∃ outer, outer.length = s.outer.length ∧ Idle outer ∧
      s.run = (s.behindKey blanks key (sep :: left) outer).run := by
  obtain ⟨c, more, heq, hc, hplain, hdash, hdot⟩ := hkey.starts
  have hwritten : key ++ ':' :: sep :: left = c :: (more ++ ':' :: sep :: left) := by rw [heq]; rfl
  -- the word
  have hcolon : ∀ flow, Plain.word flow (':' :: sep :: left) = ([], ':' :: sep :: left) := by
    intro flow
    simp [Plain.word, Plain.endsAtColon, hsep]
  have hread : ∀ flow indent, Plain.scalar flow indent (key ++ ':' :: sep :: left) =
      ⟨key, ':' :: sep :: left, false⟩ := fun flow indent =>
    Plain.scalar_word (fun d hd => (hkey.chars d hd).1) hkey.ne (hcolon flow) rfl
  have hfirst := run_plain blanks hleft hb hwritten hkey.ne hc (hplain _ _) (.inr ⟨hdash, hdot⟩)
    hcol hk ho (hwritten ▸ hread _ _)
  -- the colon
  have hcand : ((s.ahead blanks (c :: (more ++ ':' :: sep :: left))).behindScalar key
      (':' :: sep :: left) key true false).candidate = some ⟨s.place.after blanks, s.tokens.length,
        !(s.ahead blanks (c :: (more ++ ':' :: sep :: left))).inFlow
          && s.indent == (s.place.after blanks).column⟩ := if_pos hstart
  have hcol' : s.inFlow = true ∨ s.indent ≤ ((s.place.after blanks).after key).column := by
    rw [hkey.after_eq]
    exact hcol.imp_right fun hle => Int.le_trans hle (Int.ofNat_le.mpr (Nat.le_add_right _ _))
  have hflow : (s.ahead blanks (c :: (more ++ ':' :: sep :: left))).inFlow = s.inFlow :=
    inFlow_ahead
  have hsecond := run_colon rfl hsep hcand (hkey.not_expired _ _ _) (ho.alive _)
    (hcol'.imp_left fun h => hflow.trans h) rfl rfl
  have hend : ((s.place.after blanks).after key).next ':' =
      s.place.after (blanks ++ (key ++ [':'])) := by
    rw [Place.after_append, Place.after_append]
    rfl
  refine ⟨_, ?_, (ho.alive (s.place.after blanks)).alive ((s.place.after blanks).after key), ?_⟩
  · simp
  · rw [hfirst, hsecond, behindKey, ← hend, ← hflow]
    rfl

theorem run_blockKey (blanks : List Char) {key : List Char} {sep : Char} (hkey : IsKey key)
    (hsep : isSpace sep = true) (hleft : s.left = blanks ++ (key ++ ':' :: sep :: left))
    (hb : IsGap blanks) (ho : s.outer = []) (hcol : s.indent ≤ (s.place.after blanks).column)
    (hstart : (s.mayStartKey || blanks.contains '\n') = true) (hk : s.candidate = none) :
    s.run = (s.behindKey blanks key (sep :: left) []).run := by
  have hflow : s.inFlow = false := by simp [inFlow, ho]
  obtain ⟨outer, hlen, -, h⟩ := run_key blanks hkey hsep hleft hb (.inr hcol) (by rwa [hflow]) hk
    (by simp [ho, Idle])
  rw [ho] at hlen
  obtain rfl := List.eq_nil_of_length_eq_zero hlen
  exact h

/-! ### Signs -/

/-- The state behind a sign. -/
def behindSign (s : Scanner) (blanks left : List Char) (sign : Char) (t : Token)
    (candidate : Option Candidate) (outer : List (Option Candidate)) (mayStartKey : Bool) :
    Scanner :=
  { left, place := s.place.after (blanks ++ [sign]), indent := s.indent, indents := s.indents
    candidate, outer, mayStartKey, tokens := t :: s.tokens }

theorem sign_eq {t : Token} (hleft : s.left = c :: rest) :
    s.sign t = { s with left := rest, place := s.place.next c, tokens := t :: s.tokens } := by
  have hplace : s.place.reach s.left rest = s.place.next c := by
    rw [hleft]
    exact @Place.reach_append s.place [c] rest
  have hdrop : s.left.drop 1 = rest := by rw [hleft]; rfl
  simp [sign, push, moveTo, hdrop, hplace]

theorem run_sign {t' : Token} {candidate : Option Candidate} {outer : List (Option Candidate)}
    {mayStartKey : Bool} (hleft : s.left = blanks ++ c :: left) (hb : IsGap blanks) (hc : Starts c)
    (hcol : s.inFlow = true ∨ s.indent ≤ (s.place.after blanks).column)
    (hk : s.candidate = none) (ho : Idle s.outer) (ht : t' ≠ .streamEnd)
    (htoken : (s.ahead blanks (c :: left)).token c left =
      .ok (s.behindSign blanks left c t' candidate outer mayStartKey)) :
    s.run = (s.behindSign blanks left c t' candidate outer mayStartKey).run := by
  refine run_of_step ?_ (by simpa [behindSign] using ht) ?_
  · rw [step_of_left hleft hb hc (steady_of_idle ho (by simp [hk])) hcol]
    exact htoken
  · rw [hleft]
    simp only [behindSign, List.length_append, List.length_cons]
    omega

theorem place_ahead (s : Scanner) (blanks left : List Char) (c : Char) :
    (s.ahead blanks left).place.next c = s.place.after (blanks ++ [c]) := by
  rw [Place.after_append]
  rfl

theorem startsMarker_dash {sep : Char} (hsep : isSpace sep = true) :
    startsMarker '-' ('-' :: sep :: left) = false := by
  have hne : sep ≠ '-' := by
    rintro rfl
    contradiction
  cases left with
  | nil => rfl
  | cons d left => simp [startsMarker, hne]

theorem dropCandidate_of_none (hk : s.candidate = none) : s.dropCandidate = .ok s := by
  rw [dropCandidate, hk]
  cases s
  dsimp only at hk
  rw [hk]
  rfl

theorem token_dash {sep : Char} (hsep : isSpace sep = true) (hleft : s.left = '-' :: sep :: left)
    (hflow : s.inFlow = false) (hstart : s.mayStartKey = true) (hcol : s.indent = s.place.column)
    (hk : s.candidate = none) :
    s.token '-' (sep :: left) = .ok
      { s with
        left := sep :: left, place := s.place.next '-', mayStartKey := true
        tokens := .blockEntry :: s.tokens } := by
  have hentry : s.token '-' (sep :: left) = s.blockEntry := by
    have hsep' : startsSpace (sep :: left) = true := hsep
    simp [token, hleft, startsMarker_dash hsep, Quoted.startsMarker_of_ne, hsep']
  have hopen : s.openHere .blockSequenceStart = s := by
    rw [openHere, openAt, if_neg (by omega)]
  rw [hentry, blockEntry, hflow, hstart]
  simp only [Bool.not_false, Bool.not_true, Bool.and_false, Bool.false_eq_true, if_false, hopen,
    dropCandidate_of_none hk]
  exact congrArg Except.ok (sign_eq hleft)

/-- The dash of an item in the column of the mapping around it. -/
theorem run_dash (blanks : List Char) {sep : Char} (hsep : isSpace sep = true)
    (hleft : s.left = blanks ++ '-' :: sep :: left) (hb : IsGap blanks) (ho : s.outer = [])
    (hcol : s.indent = (s.place.after blanks).column)
    (hstart : (s.mayStartKey || blanks.contains '\n') = true) (hk : s.candidate = none) :
    s.run = (s.behindSign blanks (sep :: left) '-' .blockEntry none [] true).run := by
  have hflow : s.inFlow = false := by simp [inFlow, ho]
  have hstart' : (s.mayStartKey || (!s.inFlow && blanks.contains '\n')) = true := by
    rwa [hflow]
  refine run_sign hleft hb ⟨rfl, by decide, by decide⟩ (.inr (Int.le_of_eq hcol)) hk
    (by simp [ho, Idle]) (by simp) ?_
  rw [token_dash hsep rfl (inFlow_ahead.trans hflow) hstart' hcol (by simp [ahead, hk, alive]),
    place_ahead]
  simp [ahead, behindSign, hk, ho, alive]

theorem token_open (hleft : s.left = '\x7b' :: left) (hflow : s.inFlow = false)
    (hstart : s.mayStartKey = true) (hcol : s.indent < s.place.column) (hk : s.candidate = none) :
    s.token '\x7b' left = .ok
      { s with
        left, place := s.place.next '\x7b', candidate := none
        outer := some ⟨s.place, s.tokens.length, false⟩ :: s.outer, mayStartKey := true
        tokens := .flowMappingStart :: s.tokens } := by
  have hstart' : s.token '\x7b' left = s.flowStart .flowMappingStart := by
    simp [token, startsMarker_sign hleft]
  have hrequired : (s.indent == (s.place.column : Int)) = false := by
    rw [beq_eq_false_iff_ne]
    omega
  rw [hstart', flowStart, addCandidate_eq (by simp [hk]), hstart, hflow, hrequired]
  exact congrArg Except.ok (sign_eq hleft)

/-- A flow mapping that is no key. -/
theorem run_open (blanks : List Char) (hleft : s.left = blanks ++ '\x7b' :: left)
    (hb : IsGap blanks) (ho : s.outer = []) (hcol : s.indent < (s.place.after blanks).column)
    (hstart : s.mayStartKey = true) (hk : s.candidate = none) :
    s.run = (s.behindSign blanks left '\x7b' .flowMappingStart none
      [some ⟨s.place.after blanks, s.tokens.length, false⟩] true).run := by
  have hflow : s.inFlow = false := by simp [inFlow, ho]
  refine run_sign hleft hb ⟨rfl, by decide, by decide⟩ (.inr (Int.le_of_lt hcol)) hk
    (by simp [ho, Idle]) (by simp) ?_
  rw [token_open rfl (inFlow_ahead.trans hflow) (by simp [ahead, hstart]) hcol
    (by simp [ahead, hk, alive]), place_ahead]
  simp [ahead, behindSign, ho]

theorem token_comma (hleft : s.left = ',' :: left) (hk : s.candidate = none) :
    s.token ',' left = .ok
      { s with
        left, place := s.place.next ',', mayStartKey := true
        tokens := .flowEntry :: s.tokens } := by
  have hentry : s.token ',' left = s.flowEntry := by simp [token, startsMarker_sign hleft]
  rw [hentry, flowEntry, dropCandidate_of_none hk]
  exact congrArg Except.ok (sign_eq hleft)

/-- The comma behind an entry. -/
theorem run_comma (hleft : s.left = ',' :: left) (hflow : s.inFlow = true)
    (hk : s.candidate = none) (ho : Idle s.outer) :
    s.run = (s.behindSign [] left ',' .flowEntry none (s.outer.map (alive s.place)) true).run := by
  refine run_sign hleft (by simp [IsGap]) ⟨rfl, by decide, by decide⟩ (.inl hflow) hk ho
    (by simp) ?_
  rw [token_comma rfl (by simp [ahead, hk, alive]), place_ahead]
  simp [ahead, behindSign, hk, alive, Place.after]

theorem token_close {o : Option Candidate} {outer : List (Option Candidate)}
    (hleft : s.left = '\x7d' :: left) (hk : s.candidate = none) (ho : s.outer = o :: outer) :
    s.token '\x7d' left = .ok
      { s with
        left, place := s.place.next '\x7d', candidate := o, outer, mayStartKey := false
        tokens := .flowMappingEnd :: s.tokens } := by
  have hend : s.token '\x7d' left = s.flowEnd .flowMappingEnd := by
    simp [token, startsMarker_sign hleft]
  rw [hend, flowEnd, dropCandidate_of_none hk]
  dsimp only [bind, Except.bind]
  rw [ho]
  exact congrArg Except.ok (sign_eq hleft)

/-- The end of a flow mapping. -/
theorem run_close {o : Option Candidate} {outer : List (Option Candidate)}
    (hleft : s.left = '\x7d' :: left) (hk : s.candidate = none) (ho : Idle s.outer)
    (houter : s.outer = o :: outer) :
    s.run = (s.behindSign [] left '\x7d' .flowMappingEnd (alive s.place o)
      (outer.map (alive s.place)) false).run := by
  have hflow : s.inFlow = true := by simp [inFlow, houter]
  have houter' : (s.ahead [] ('\x7d' :: left)).outer =
      alive s.place o :: outer.map (alive s.place) := by
    simp [ahead, houter, Place.after]
  refine run_sign hleft (by simp [IsGap]) ⟨rfl, by decide, by decide⟩ (.inl hflow) hk ho
    (by simp) ?_
  rw [token_close rfl (by simp [ahead, hk, alive]) houter', place_ahead]
  rfl

/-! ### Texts of a flow mapping -/

/-- What stands behind a text in a flow mapping. -/
def IsEntryEnd (c : Char) : Prop := c = ',' ∨ c = '\x7d'

theorem ends_of_isEntryEnd (h : IsEntryEnd c) : Plain.Ends (c :: left) := by
  rcases h with rfl | rfl <;> exact ⟨rfl, rfl⟩

/-- A character that no indicator is for the writer is none for the reader,
but for the dash. -/
theorem isIndicator_of_not (h : Style.isIndicator c = false) (hc : c ≠ '-') :
    isIndicator c = false := by
  have hall : ∀ d ∈ ['-', '?', ':', ',', '[', ']', '\x7b', '\x7d', '#', '&', '*', '!', '|', '>',
      '\'', '"', '%', '@', '\x60'], d = '-' ∨ Style.isIndicator d = true := by decide
  rw [isIndicator, decide_eq_false_iff_not]
  intro hmem
  rcases hall c hmem with rfl | hi
  · exact hc rfl
  · rw [h] at hi
    contradiction

/-- A dash starts a text if no space follows it. -/
theorem startsPlain_dash {d : Char} (hd : isSpace d = false) :
    startsPlain true '-' (d :: rest) = true := by
  have hdash : isSpace '-' = false := by decide
  simp [startsPlain, startsSpace, isIndicator, hdash, hd]

/-- What a plain text starts with. -/
theorem starts_of_fitsPlain {text : List Char} (h : Style.fitsPlain text = true) (column : Nat)
    (left : List Char) :
    ∃ c w, Flow.plainBody column none text = c :: w ∧ Starts c ∧
      startsPlain true c (w ++ left) = true := by
  cases text with
  | nil => contradiction
  | cons c more =>
    simp only [Style.fitsPlain, Bool.and_eq_true, Bool.not_eq_true', bne_iff_ne] at h
    obtain ⟨⟨⟨⟨⟨⟨hp, hspace⟩, hind⟩, hdash⟩, -⟩, -⟩, hmore⟩ := h
    have hsolid := Flow.isSpace_of_isPrintable hp hspace
    have hhash : c ≠ '#' := by
      rintro rfl
      contradiction
    have hmark : c ≠ byteOrderMark := by
      rintro rfl
      contradiction
    refine ⟨c, Flow.plainBody (column + 1) (some c) more,
      by rw [Flow.plainBody, if_neg (by simp [hspace])], ⟨hsolid, hhash, hmark⟩, ?_⟩
    by_cases hc : c = '-'
    · subst hc
      cases more with
      | nil => simp at hdash
      | cons d more =>
        have hd : d ≠ ' ' := by
          rintro rfl
          simp at hdash
        have hp' := Flow.isPrintable_of_continuesPlain hmore d List.mem_cons_self
        -- what follows is no space, so it is not folded away
        rw [Flow.plainBody, if_neg (by simp [hd])]
        exact startsPlain_dash (Flow.isSpace_of_isPrintable hp' hd)
    · simp [startsPlain, hsolid, isIndicator_of_not hind hc]

theorem token_quote {double : Bool} (hleft : s.left = quoteOf double :: rest) :
    s.token (quoteOf double) rest = s.quoted double := by
  cases double <;> simp [token, quoteOf, startsMarker_sign hleft]

/-- A text between quotes is one token. -/
theorem token_quoted {double : Bool} {body text : List Char} (hk : s.candidate = none)
    (hleft : s.left = quoteOf double :: body ++ [quoteOf double] ++ left)
    (hr : Quoted.scalar double (body ++ quoteOf double :: left) = .ok (text, left)) :
    s.token (quoteOf double) (body ++ [quoteOf double] ++ left) =
      .ok (s.behindScalar (quoteOf double :: body ++ [quoteOf double]) left text false false) := by
  have hleft' : s.left = quoteOf double :: (body ++ [quoteOf double] ++ left) := hleft
  rw [token_quote hleft']
  refine quoted_eq hleft rfl (by simp [hk]) ?_
  rw [hleft', List.drop_succ_cons, List.drop_zero, List.append_assoc]
  exact hr

/-- A text is one token, whatever its style. -/
theorem token_text {column : Nat} {text : List Char} (hc : IsEntryEnd c)
    (hleft : s.left = Flow.scalar column text ++ c :: left) (hflow : s.inFlow = true)
    (hcol : s.place.column ≠ 0) (hk : s.candidate = none) :
    ∃ plain d w, ReadsAsText text plain ∧ Flow.scalar column text = d :: w ∧
      Starts d ∧ s.token d (w ++ c :: left) =
        .ok (s.behindScalar (Flow.scalar column text) (c :: left) text plain false) := by
  have hquote : (c :: left).head? ≠ some '\'' := by rcases hc with rfl | rfl <;> simp
  rw [Flow.scalar, Style.ofText] at hleft ⊢
  by_cases hplain : (Style.fitsPlain text && Tag.ofPlain text == .text) = true
  · rw [if_pos hplain] at hleft ⊢
    rw [Bool.and_eq_true, beq_iff_eq] at hplain
    obtain ⟨d, w, heq, hd, hstarts⟩ := starts_of_fitsPlain hplain.1 column (c :: left)
    refine ⟨true, d, w, fun _ => hplain.2, heq, hd, ?_⟩
    have hleft' : s.left = d :: (w ++ c :: left) := by
      rw [hleft]
      dsimp only
      rw [heq]
      rfl
    rw [token_plain hleft' (by rw [hflow, hstarts]) (.inl hcol)]
    refine plain_eq hleft (by simp [hk]) ?_
    rw [hleft, hflow]
    exact Plain.scalar_plainBody (ends_of_isEntryEnd hc) _ hplain.1
  rw [if_neg hplain] at hleft ⊢
  by_cases hsingle : Style.fitsSingle text = true
  · -- the two quoted styles differ in their quotes and in how they are read
    rw [if_pos hsingle] at hleft ⊢
    exact ⟨false, '\'', _, fun h => absurd h Bool.false_ne_true, rfl, ⟨rfl, by decide, by decide⟩,
      @token_quoted s _ false _ text hk hleft
        (Quoted.scalar_singleBody hquote hsingle (by simp))⟩
  · rw [if_neg hsingle] at hleft ⊢
    exact ⟨false, '"', _, fun h => absurd h Bool.false_ne_true, rfl, ⟨rfl, by decide, by decide⟩,
      @token_quoted s _ true _ text hk hleft (Quoted.scalar_doubleBody hquote text _ _ _)⟩

/-- A text is read as it was written. -/
theorem run_text {column : Nat} {text : List Char} (hc : IsEntryEnd c)
    (hleft : s.left = ' ' :: (Flow.scalar column text ++ c :: left)) (hflow : s.inFlow = true)
    (hk : s.candidate = none) (ho : Idle s.outer) :
    ∃ plain, ReadsAsText text plain ∧
      s.run = ((s.ahead [' '] (Flow.scalar column text ++ c :: left)).behindScalar
        (Flow.scalar column text) (c :: left) text plain false).run := by
  have hcol : (s.place.after [' ']).column ≠ 0 := by
    show (s.place.next ' ').column ≠ 0
    rw [Place.next_of_not_isBreak rfl (by decide)]
    simp
  obtain ⟨plain, d, w, hplain, heq, hd, htoken⟩ :=
    @token_text (s.ahead [' '] (Flow.scalar column text ++ c :: left)) _ _ _ _ hc rfl
      (inFlow_ahead.trans hflow) hcol (by simp [ahead, hk, alive])
  refine ⟨plain, hplain, ?_⟩
  rw [heq] at hleft htoken ⊢
  exact run_scalar hleft (by simp [IsGap]) rfl (by simp) hd (.inl hflow)
    (steady_of_idle ho (by simp [hk])) htoken

theorem inFlow_iff : s.inFlow = true ↔ 0 < s.outer.length := by
  rw [inFlow, Bool.not_eq_true', List.isEmpty_eq_false_iff, List.length_pos_iff]

theorem inFlow_of_length {outer : List (Option Candidate)} (hflow : s.inFlow = true)
    (hlen : outer.length = s.outer.length) (ht : t.outer = outer) : t.inFlow = true := by
  rw [inFlow_iff] at hflow ⊢
  rw [ht, hlen]
  exact hflow

/-- An entry of a flow mapping is read. -/
theorem run_entry (blanks : List Char) {key text : List Char} {column : Nat} (hkey : IsKey key)
    (hc : IsEntryEnd c)
    (hleft : s.left = blanks ++ (key ++ ':' :: ' ' :: (Flow.scalar column text ++ c :: left)))
    (hb : IsGap blanks) (hflow : s.inFlow = true) (hstart : s.mayStartKey = true)
    (hk : s.candidate = none) (ho : Idle s.outer) :
    ∃ plain p outer, ReadsAsText text plain ∧
      outer.length = s.outer.length ∧ Idle outer ∧
      s.run = run
        { left := c :: left, place := p, indent := s.indent, indents := s.indents
          candidate := none, outer, mayStartKey := false
          tokens := .scalar text plain :: .value :: .scalar key true :: .key :: s.tokens } := by
  obtain ⟨outer, hlen, ho', hread⟩ :=
    run_key blanks hkey rfl hleft hb (.inl hflow) (by simp [hstart]) hk ho
  have hflow' : (s.behindKey blanks key (' ' :: (Flow.scalar column text ++ c :: left))
      outer).inFlow = true := inFlow_of_length hflow hlen rfl
  obtain ⟨plain, hplain, htext⟩ := run_text hc rfl hflow' rfl ho'
  let p := (s.place.after (blanks ++ (key ++ [':']))).after [' ']
  refine ⟨plain, p.after (Flow.scalar column text), outer.map (alive p), hplain, by simp [hlen],
    ho'.alive p, ?_⟩
  rw [hread, htext, behindScalar, ahead, hflow']
  simp [behindKey, hflow, alive, p]

/-! ### The end -/

theorem closeTo_closeTo {column indent : Int} (h : -1 ≤ column) (indents : List Int)
    (tokens : List Token) :
    closeTo (-1) (closeTo column indent indents tokens).1 (closeTo column indent indents tokens).2.1
      (closeTo column indent indents tokens).2.2 = closeTo (-1) indent indents tokens := by
  induction indents generalizing indent tokens with
  | nil => rfl
  | cons around more ih =>
    rw [closeTo]
    split
    · rename_i hlt
      rw [ih, closeTo, if_pos (by omega)]
    · rfl

theorem unwind_of_block (ho : s.outer = []) (column : Int) :
    s.unwind column =
      { s with
        indent := (closeTo column s.indent s.indents s.tokens).1
        indents := (closeTo column s.indent s.indents s.tokens).2.1
        tokens := (closeTo column s.indent s.indents s.tokens).2.2 } := by
  rw [unwind, inFlow, ho]
  rfl

theorem finish_eq (ho : s.outer = []) (hk : ∀ k ∈ s.candidate, k.required = false) :
    ∃ t, s.finish = .ok t ∧
      t.tokens = .streamEnd :: (closeTo (-1) s.indent s.indents s.tokens).2.2 := by
  have hany : s.candidate.any (·.required) = false := by
    cases h : s.candidate with
    | none => rfl
    | some k => exact hk k h
  rw [finish, unwind_of_block ho, dropCandidate]
  dsimp only
  rw [hany]
  exact ⟨_, rfl, rfl⟩

/-- The end of the text closes all collections. -/
theorem run_end (hleft : s.left = []) (ho : s.outer = [])
    (hk : ∀ k ∈ s.candidate, k.required = false) :
    s.run = (.streamEnd :: (closeTo (-1) s.indent s.indents s.tokens).2.2).reverse := by
  have hplace : s.place.after [] = s.place := rfl
  have hnext : s.toNextToken = s := by
    rw [toNextToken, dropMark_of_ne (by simp [hleft])]
    cases s
    dsimp only at hleft
    rw [hleft]
    rfl
  have hsteady : s.Steady s.place := by
    intro o hmem k hko hr
    -- there is no candidate but the one that is not required
    rw [ho, List.mem_singleton] at hmem
    subst hmem
    rw [hk k hko] at hr
    contradiction
  have hstep : ∃ t, s.step = .ok t ∧
      t.tokens = .streamEnd :: (closeTo (-1) s.indent s.indents s.tokens).2.2 := by
    have ho' : s.outer.map (alive s.place) = [] := by rw [ho]; rfl
    have hk' : ∀ k ∈ alive s.place s.candidate, k.required = false := fun k hmem =>
      hk k (Option.filter_eq_some_iff.mp hmem).1
    rw [step, hnext, dropExpired_of_steady hsteady]
    dsimp only [bind, Except.bind]
    rw [unwind_of_block ho']
    dsimp only
    -- what the last column closes and what the end does come to the end alone
    rw [hleft, ← closeTo_closeTo (by omega : (-1 : Int) ≤ s.place.column)]
    exact finish_eq ho' hk'
  obtain ⟨t, hstep, htokens⟩ := hstep
  rw [run, hstep]
  dsimp only
  rw [if_neg (by simp [htokens]), htokens]

end Scanner

end NodeBootstrap.Yaml

/-
NodeBootstrap/Proofs/Result.lean

Results that may be errors.  A result that was made of another one is one just
if that is (`map_eq_ok_iff`).  A list that is read entry by entry is read just
if every entry is, and what comes out are the entries' values in their order
(`mapM_eq_ok_iff`); else the reading ends with the error of the first entry
that has one (`mapM_eq_error_iff`).
-/

namespace NodeBootstrap

variable {ε α β γ : Type} {f : α → Except ε β} {entry : α} {entries : List α} {out : List β} {e : ε}

/-! ### One result -/

/-- A result that has a value is that value. -/
theorem eq_ok_of_toOption {r : Except ε β} {b : β} (h : r.toOption = some b) : r = .ok b := by
  cases r with
  | error e => cases h
  | ok c => rw [Option.some.inj h]

theorem map_eq_ok_iff {g : β → γ} {r : Except ε β} {c : γ} :
    r.map g = .ok c ↔ ∃ b, r = .ok b ∧ c = g b := by
  rcases r with e | b
  · simp [Except.map]
  · simpa [Except.map] using eq_comm

theorem bind_eq_ok_iff {g : β → Except ε γ} {r : Except ε β} {c : γ} :
    r >>= g = .ok c ↔ ∃ b, r = .ok b ∧ g b = .ok c := by
  rcases r with e | b <;> simp [bind, Except.bind]

theorem map_eq_error_iff {g : β → γ} {r : Except ε β} : r.map g = .error e ↔ r = .error e := by
  rcases r with e | b <;> simp [Except.map]

/-! ### Entry by entry -/

theorem mapM_cons_eq_ok_iff : (entry :: entries).mapM f = .ok out ↔
    ∃ b bs, f entry = .ok b ∧ entries.mapM f = .ok bs ∧ out = b :: bs := by
  rw [List.mapM_cons]
  rcases f entry with e | b
  · simp [bind, Except.bind]
  · rcases entries.mapM f with e | bs
    · simp [bind, Except.bind]
    · simpa [bind, Except.bind, pure, Except.pure] using eq_comm

theorem mapM_cons_eq_error_iff : (entry :: entries).mapM f = .error e ↔
    f entry = .error e ∨ (∃ b, f entry = .ok b) ∧ entries.mapM f = .error e := by
  rw [List.mapM_cons]
  rcases f entry with e | b
  · simp [bind, Except.bind]
  · rcases entries.mapM f with e | bs <;> simp [bind, Except.bind, pure, Except.pure]

/-- What a list is read as is what its entries are read as, one by one. -/
theorem mapM_eq_ok_iff : entries.mapM f = .ok out ↔ entries.map f = out.map .ok := by
  induction entries generalizing out with
  | nil => cases out <;> simp [pure, Except.pure]
  | cons entry entries ih =>
    rw [mapM_cons_eq_ok_iff]
    cases out with
    | nil => simp
    | cons c cs => simp [ih]

/-- The same, with the entries and their values counted. -/
theorem mapM_eq_ok_iff_getElem : entries.mapM f = .ok out ↔
    out.length = entries.length ∧
      ∀ i (hi : i < entries.length) (hi' : i < out.length), f entries[i] = .ok out[i] := by
  rw [mapM_eq_ok_iff, List.ext_getElem_iff]
  simp only [List.length_map, List.getElem_map, eq_comm (a := out.length)]

/-- The error of a reading is that of the first entry that has one. -/
theorem mapM_eq_error_iff : entries.mapM f = .error e ↔
    ∃ before entry after, entries = before ++ entry :: after ∧
      (∀ a ∈ before, ∃ b, f a = .ok b) ∧ f entry = .error e := by
  induction entries with
  | nil => simp [pure, Except.pure]
  | cons first entries ih =>
    rw [mapM_cons_eq_error_iff, ih]
    constructor
    · rintro (h | ⟨hfirst, before, entry, after, rfl, hbefore, h⟩)
      · exact ⟨[], first, entries, rfl, List.forall_mem_nil _, h⟩
      · exact ⟨first :: before, entry, after, rfl, List.forall_mem_cons.mpr ⟨hfirst, hbefore⟩, h⟩
    · rintro ⟨before, entry, after, heq, hbefore, h⟩
      cases before with
      | nil =>
        obtain ⟨rfl, -⟩ := List.cons.inj heq
        exact .inl h
      | cons a before =>
        obtain ⟨rfl, rfl⟩ := List.cons.inj heq
        obtain ⟨hfirst, hbefore⟩ := List.forall_mem_cons.mp hbefore
        exact .inr ⟨hfirst, before, entry, after, rfl, hbefore, h⟩

/-- A value comes out just if some entry is read as it. -/
theorem mem_iff_of_mapM (h : entries.mapM f = .ok out) {b : β} :
    b ∈ out ↔ ∃ a ∈ entries, f a = .ok b := by
  have hmem : b ∈ out ↔ Except.ok b ∈ entries.map f := by simp [mapM_eq_ok_iff.mp h]
  rw [hmem, List.mem_map]

/-- A list is read just if every entry is. -/
theorem exists_mapM_iff :
    (∃ out, entries.mapM f = .ok out) ↔ ∀ a ∈ entries, ∃ b, f a = .ok b := by
  induction entries with
  | nil => simp [pure, Except.pure]
  | cons entry entries ih =>
    rw [List.forall_mem_cons, ← ih]
    constructor
    · rintro ⟨out, h⟩
      obtain ⟨b, bs, hentry, hrest, -⟩ := mapM_cons_eq_ok_iff.mp h
      exact ⟨⟨b, hentry⟩, bs, hrest⟩
    · rintro ⟨⟨b, hentry⟩, bs, hrest⟩
      exact ⟨b :: bs, mapM_cons_eq_ok_iff.mpr ⟨b, bs, hentry, hrest, rfl⟩⟩

/-- Lists that agree in what the reading of an entry depends on are read
alike. -/
theorem mapM_eq_ok_congr {κ : Type} {known : α → κ} {others : List α}
    (hf : ∀ a b, known a = known b → ∀ c, f a = .ok c ↔ f b = .ok c)
    (h : entries.map known = others.map known) :
    entries.mapM f = .ok out ↔ others.mapM f = .ok out := by
  induction entries generalizing others out with
  | nil => rw [List.map_eq_nil_iff.mp h.symm]
  | cons entry entries ih =>
    cases others with
    | nil => cases h
    | cons other others =>
      obtain ⟨hentry, hentries⟩ := List.cons.inj h
      simp only [mapM_cons_eq_ok_iff, hf entry other hentry, ih hentries]

end NodeBootstrap

/-
NodeBootstrap/Proofs/Seeds/Topology.lean

What a cluster resource declares.  An entry of the list of racks declares a
rack (`Rack.Declares`) if it has a name other than null and something that
counts as a number of replicas (`Rack.Counts`).  Every other entry is refused
in words for the operator, but for one kind: a name with an endless count
(`Rack.IsEndless`) breaks the run off.

The reading stops at the first entry that declares no rack, so a list breaks
the run off if that one is endless (`Topology.BreaksOff`).  Any other value in
the place of the racks is refused in words or read as racks, and these are
those of a cluster unless one of them counts below zero, which the reading
does not look at (`Topology.ofResource_isSound_iff`).
-/
import NodeBootstrap.Proofs.Result
import NodeBootstrap.Seeds.Topology

namespace NodeBootstrap

/-! ### Racks -/

namespace Rack

/-- The number that the value in the place of a count stands for. -/
inductive Counts : Option Json → Int → Prop
  | absent : Counts none 0
  | int (n : Int) : Counts (some (.int n)) n
  | bool (b : Bool) : Counts (some (.bool b)) (if b then 1 else 0)
  | float {x : Binary64} {n : Int} : x.truncate? = some n → Counts (some (.float x)) n
  | text {s : String} {n : Int} : Numeral.ofText s = .ok n → Counts (some (.text s)) n

/-- The rack that an entry declares. -/
inductive Declares : Json → Rack → Prop
  | entry {fields : List (String × Json)} {name : Json} {n : Int} :
      Json.field? "name" fields = some name → name ≠ .null →
        Counts (Json.field? "replicas" fields) n →
          Declares (.object fields) ⟨name.toValue.toText, n⟩

/-- An entry with a name, whose count is an infinite number. -/
inductive IsEndless : Json → Prop
  | entry {fields : List (String × Json)} {name : Json} {negative : Bool} :
      Json.field? "name" fields = some name → name ≠ .null →
        Json.field? "replicas" fields = some (.float (.infinite negative)) →
          IsEndless (.object fields)

variable {given : Option Json} {value entry : Json} {rack : Rack} {n : Int} {f : Fault}

/-! ### Counts -/

theorem countOfFloat_eq_ok_iff {x : Binary64} : countOfFloat x = .ok n ↔ x.truncate? = some n := by
  cases x with
  | finite s m e => simp [countOfFloat, Binary64.truncate?]
  | infinite s => simp [countOfFloat, Binary64.truncate?]
  | nan => simp [countOfFloat, Binary64.truncate?]

theorem countOfText_eq_ok_iff {s : String} : countOfText s = .ok n ↔ Numeral.ofText s = .ok n := by
  rw [countOfText]
  rcases Numeral.ofText s with (- | digits) | m <;> simp

/-- What counts is what the reading of a count comes to. -/
theorem count_eq_ok_iff : count (given.getD (.int 0)) = .ok n ↔ Counts given n := by
  constructor
  · intro h
    rcases given with - | v
    · obtain rfl : 0 = n := Except.ok.inj h
      exact .absent
    · cases v with
      | bool b =>
        obtain rfl : (if b then 1 else 0) = n := Except.ok.inj h
        exact .bool b
      | int m =>
        obtain rfl : m = n := Except.ok.inj h
        exact .int m
      | float x => exact .float (countOfFloat_eq_ok_iff.mp h)
      | text s => exact .text (countOfText_eq_ok_iff.mp h)
      | null => cases h
      | list items => cases h
      | object fields => cases h
  · intro h
    cases h with
    | absent => rfl
    | int n => rfl
    | bool b => rfl
    | float hx => exact countOfFloat_eq_ok_iff.mpr hx
    | text hs => exact countOfText_eq_ok_iff.mpr hs

/-- A count that fails is refused in words for the operator, but for an
infinite number. -/
theorem count_eq_error (h : count value = .error f) :
    (∃ defect, f = .invalidRack defect) ∨
      f = .broken .tooLarge ∧ ∃ negative, value = .float (.infinite negative) := by
  cases value with
  | bool b => cases h
  | int n => cases h
  | null => exact .inl ⟨_, (Except.error.inj h).symm⟩
  | list items => exact .inl ⟨_, (Except.error.inj h).symm⟩
  | object fields => exact .inl ⟨_, (Except.error.inj h).symm⟩
  | float x =>
    cases x with
    | finite s m e => cases h
    | infinite s => exact .inr ⟨(Except.error.inj h).symm, s, rfl⟩
    | nan => exact .inl ⟨_, (Except.error.inj h).symm⟩
  | text s =>
    left
    rw [count, countOfText] at h
    rcases hs : Numeral.ofText s with (- | digits) | m
    · rw [hs] at h
      exact ⟨_, (Except.error.inj h).symm⟩
    · rw [hs] at h
      exact ⟨_, (Except.error.inj h).symm⟩
    · rw [hs] at h
      cases h

/-! ### Entries -/

theorem ofEntry_named {fields : List (String × Json)} {name : Json}
    (hname : Json.field? "name" fields = some name) (hnull : name ≠ .null) :
    ofEntry (.object fields) = (count ((Json.field? "replicas" fields).getD (.int 0))).map
      fun replicas => ⟨name.toValue.toText, replicas⟩ := by
  rw [ofEntry, hname]
  cases name with
  | null => exact absurd rfl hnull
  | bool b => rfl
  | int n => rfl
  | float x => rfl
  | text s => rfl
  | list items => rfl
  | object fields => rfl

/-- An entry is an object with a name, or it is refused in words for the
operator. -/
theorem named_or_refused (entry : Json) :
    (∃ fields name, entry = .object fields ∧ Json.field? "name" fields = some name ∧
      name ≠ .null) ∨ ∃ defect, ofEntry entry = .error (.invalidRack defect) := by
  cases entry with
  | object fields =>
    rcases hname : Json.field? "name" fields with - | name
    · exact .inr ⟨_, by rw [ofEntry, hname]⟩
    · by_cases hnull : name = .null
      · exact .inr ⟨_, by rw [ofEntry, hname, hnull]⟩
      · exact .inl ⟨fields, name, rfl, hname, hnull⟩
  | null => exact .inr ⟨_, rfl⟩
  | bool b => exact .inr ⟨_, rfl⟩
  | int n => exact .inr ⟨_, rfl⟩
  | float x => exact .inr ⟨_, rfl⟩
  | text s => exact .inr ⟨_, rfl⟩
  | list items => exact .inr ⟨_, rfl⟩

/-- An entry is read as the rack that it declares. -/
theorem ofEntry_eq_ok_iff : ofEntry entry = .ok rack ↔ Declares entry rack := by
  constructor
  · intro h
    rcases named_or_refused entry with ⟨fields, name, rfl, hname, hnull⟩ | ⟨defect, hdefect⟩
    · rw [ofEntry_named hname hnull, map_eq_ok_iff] at h
      obtain ⟨n, hn, rfl⟩ := h
      exact .entry hname hnull (count_eq_ok_iff.mp hn)
    · cases h.symm.trans hdefect
  · rintro ⟨hname, hnull, hcount⟩
    rw [ofEntry_named hname hnull, count_eq_ok_iff.mpr hcount]
    rfl

theorem ofEntry_of_isEndless (h : IsEndless entry) : ofEntry entry = .error (.broken .tooLarge) := by
  obtain ⟨hname, hnull, hcount⟩ := h
  rw [ofEntry_named hname hnull, hcount]
  rfl

/-- An entry that declares no rack is refused in words for the operator, but
for one with an infinite count. -/
theorem ofEntry_eq_error (h : ofEntry entry = .error f) :
    (∃ defect, f = .invalidRack defect) ∨ f = .broken .tooLarge ∧ IsEndless entry := by
  rcases named_or_refused entry with ⟨fields, name, rfl, hname, hnull⟩ | ⟨defect, hdefect⟩
  · rw [ofEntry_named hname hnull, map_eq_error_iff] at h
    rcases count_eq_error h with hrefused | ⟨hf, negative, hcount⟩
    · exact .inl hrefused
    · -- zero stands in for a count that is absent, so this one is there
      rcases hgiven : Json.field? "replicas" fields with - | v
      · rw [hgiven] at hcount
        cases hcount
      · rw [hgiven] at hcount
        exact .inr ⟨hf, .entry hname hnull (hgiven.trans (congrArg some hcount))⟩
  · exact .inl ⟨defect, Except.error.inj (h.symm.trans hdefect)⟩

end Rack

/-! ### Resources -/

namespace Topology

/-- A list in which an entry with an infinite count comes before all that
declares no rack. -/
def BreaksOff (entries : List Json) : Prop :=
  ∃ before entry after, entries = before ++ entry :: after ∧
    (∀ e ∈ before, ∃ rack, Rack.Declares e rack) ∧ Rack.IsEndless entry

/-- A list of racks of which one counts below zero. -/
def CountsBelowZero (entries : List Json) : Prop :=
  (∀ e ∈ entries, ∃ rack, Rack.Declares e rack) ∧
    ∃ e ∈ entries, ∃ rack, Rack.Declares e rack ∧ rack.replicas < 0

variable {entries : List Json} {racks : List Rack} {f : Fault}
variable {fields spec : List (String × Json)}

/-- The racks that come out are those that the entries declare. -/
theorem mem_iff_of_ofRacks (h : ofRacks (.list entries) = .ok racks) {rack : Rack} :
    rack ∈ racks ↔ ∃ e ∈ entries, Rack.Declares e rack := by
  simp only [mem_iff_of_mapM h, Rack.ofEntry_eq_ok_iff]

/-- A list is read as racks just if every entry declares one. -/
theorem exists_ofRacks_iff : (∃ racks, ofRacks (.list entries) = .ok racks) ↔
    ∀ e ∈ entries, ∃ rack, Rack.Declares e rack := by
  simp only [ofRacks, exists_mapM_iff, Rack.ofEntry_eq_ok_iff]

theorem ofRacks_breaksOff (h : BreaksOff entries) :
    ofRacks (.list entries) = .error (.broken .tooLarge) := by
  obtain ⟨before, entry, after, heq, hbefore, hend⟩ := h
  exact mapM_eq_error_iff.mpr ⟨before, entry, after, heq,
    fun e he => (hbefore e he).imp fun rack => Rack.ofEntry_eq_ok_iff.mpr,
    Rack.ofEntry_of_isEndless hend⟩

/-- A list that is not read is refused in words for the operator, unless an
infinite count is the first that is wrong with it. -/
theorem ofRacks_eq_error (h : ofRacks (.list entries) = .error f) :
    (∃ defect, f = .invalidRack defect) ∨ BreaksOff entries := by
  obtain ⟨before, entry, after, heq, hbefore, hentry⟩ := mapM_eq_error_iff.mp h
  rcases Rack.ofEntry_eq_error hentry with hrefused | ⟨-, hend⟩
  · exact .inl hrefused
  · exact .inr ⟨before, entry, after, heq,
      fun e he => (hbefore e he).imp fun rack => Rack.ofEntry_eq_ok_iff.mp, hend⟩

/-- A reading that comes to racks of no count below zero, or to a refusal in
words for the operator. -/
def IsSound (result : Except Fault (List Rack)) : Prop :=
  (∃ racks, result = .ok racks ∧ ∀ rack ∈ racks, 0 ≤ rack.replicas) ∨
    ∃ defect, result = .error (.invalidRack defect)

theorem isSound_ofRacks_iff : IsSound (ofRacks (.list entries)) ↔
    ¬ BreaksOff entries ∧ ¬ CountsBelowZero entries := by
  rcases h : ofRacks (.list entries) with f | racks
  · -- nothing is counted, as some entry declares no rack
    have hneg : ¬ CountsBelowZero entries := by
      rintro ⟨hall, -⟩
      obtain ⟨racks, hracks⟩ := exists_ofRacks_iff.mpr hall
      cases h.symm.trans hracks
    constructor
    · rintro (⟨racks, hok, -⟩ | ⟨defect, hdefect⟩)
      · cases hok
      · refine ⟨fun hend => ?_, hneg⟩
        cases (hdefect ▸ h).symm.trans (ofRacks_breaksOff hend)
    · rintro ⟨hend, -⟩
      obtain ⟨defect, rfl⟩ := (ofRacks_eq_error h).resolve_right hend
      exact .inr ⟨defect, rfl⟩
  · have hend : ¬ BreaksOff entries := by
      intro hend
      cases h.symm.trans (ofRacks_breaksOff hend)
    constructor
    · rintro (⟨racks, hok, hracks⟩ | ⟨defect, hdefect⟩)
      · obtain rfl := Except.ok.inj hok
        refine ⟨hend, ?_⟩
        rintro ⟨-, e, he, rack, hrack, hlt⟩
        exact Int.not_lt.mpr (hracks rack ((mem_iff_of_ofRacks h).mpr ⟨e, he, hrack⟩)) hlt
      · cases hdefect
    · rintro ⟨-, hneg⟩
      refine .inl ⟨racks, rfl, fun rack hrack => Int.not_lt.mp fun hlt => hneg ?_⟩
      obtain ⟨e, he, hdeclares⟩ := (mem_iff_of_ofRacks h).mp hrack
      exact ⟨exists_ofRacks_iff.mp ⟨racks, h⟩, e, he, rack, hdeclares, hlt⟩

/-- A resource is read as the value in the place of its racks is; one that is
not given stands for no racks. -/
theorem ofResource_eq (hspec : Json.field? "spec" fields = some (.object spec)) :
    ofResource (.object fields) =
      ((Json.field? "racks" spec).filter Json.isGiven).elim (.ok []) ofRacks := by
  rw [ofResource, hspec]
  cases spec with
  | nil => rfl
  | cons field rest =>
    have hgiven : (some (Json.object (field :: rest))).filter Json.isGiven =
        some (.object (field :: rest)) := rfl
    rw [hgiven]
    dsimp only
    rcases (Json.field? "racks" (field :: rest)).filter Json.isGiven with - | v <;> rfl

/-- A value that is no list of racks is sound: it is refused in words for the
operator, or stands for no racks. -/
theorem isSound_of_not_list {v : Json} (hlist : ∀ entries, v ≠ .list entries) :
    IsSound (((some v).filter Json.isGiven).elim (.ok []) ofRacks) := by
  rw [Option.filter_some]
  split
  · right
    cases v with
    | list entries => exact absurd rfl (hlist entries)
    | null => exact ⟨_, rfl⟩
    | bool b => exact ⟨_, rfl⟩
    | int n => exact ⟨_, rfl⟩
    | float x => exact ⟨_, rfl⟩
    | text s => exact ⟨_, rfl⟩
    | object fields => exact ⟨_, rfl⟩
  · exact .inl ⟨[], rfl, List.forall_mem_nil _⟩

/-- The reading of a resource with a specification comes to racks of no
count below zero or to a refusal in words for the operator, whatever stands
in the place of the racks, unless an infinite count is the first that is
wrong with a list or all its entries are racks and one counts below zero. -/
theorem ofResource_isSound_iff (hspec : Json.field? "spec" fields = some (.object spec)) :
    IsSound (ofResource (.object fields)) ↔
      ∀ entries, Json.field? "racks" spec = some (.list entries) →
        ¬ BreaksOff entries ∧ ¬ CountsBelowZero entries := by
  rw [ofResource_eq hspec]
  rcases hracks : Json.field? "racks" spec with - | v
  · refine iff_of_true (.inl ⟨[], rfl, List.forall_mem_nil _⟩) ?_
    intro entries h
    cases h
  · by_cases hlist : ∃ entries, v = .list entries
    · obtain ⟨entries, rfl⟩ := hlist
      have hlist : ((some (Json.list entries)).filter Json.isGiven).elim (.ok []) ofRacks =
          ofRacks (.list entries) := by cases entries <;> rfl
      rw [hlist, isSound_ofRacks_iff]
      constructor
      · intro h entries' heq
        obtain rfl := Json.list.inj (Option.some.inj heq)
        exact h
      · exact fun h => h entries rfl
    · refine iff_of_true (isSound_of_not_list fun entries heq => hlist ⟨entries, heq⟩) ?_
      intro entries heq
      exact absurd ⟨entries, Option.some.inj heq⟩ hlist

/-- The fields of a resource with these entries for racks. -/
def declaring (entries : List Json) : List (String × Json) :=
  [("kind", .text "Cassandra"), ("spec", .object [("racks", .list entries)])]

/-- An entry with a name and a count. -/
def counted (name count : Json) : Json := .object [("name", name), ("replicas", count)]

/-- An entry without a name is refused before the infinite count behind it is
looked at. -/
theorem ofResource_isSound_sample :
    IsSound (ofResource (.object (declaring
      [counted (.int 7) (.float (.finite false 5 (-1))), .object [("replicas", .text " 3 ")],
        counted (.text "b") (.float (.infinite false))]))) := by
  refine (ofResource_isSound_iff rfl).mpr ?_
  intro entries heq
  obtain rfl := Json.list.inj (Option.some.inj heq)
  refine isSound_ofRacks_iff.mp (.inr ⟨.noName, ?_⟩)
  rfl

/-- An infinite count breaks the run off with no word to the operator, and a
count below zero passes. -/
theorem ofResource_not_isSound :
    (ofResource (.object (declaring [counted (.text "a") (.float (.infinite false))])) =
        .error (.broken .tooLarge) ∧ (Fault.broken .tooLarge).isReported = false ∧
      ¬ IsSound (ofResource (.object
        (declaring [counted (.text "a") (.float (.infinite false))])))) ∧
    ofResource (.object (declaring [counted (.text "a") (.int (-3))])) = .ok [⟨"a", -3⟩] ∧
      ¬ IsSound (ofResource (.object (declaring [counted (.text "a") (.int (-3))]))) := by
  have hbroken : ofResource (.object (declaring
      [counted (.text "a") (.float (.infinite false))])) = .error (.broken .tooLarge) := rfl
  have hread : ofResource (.object (declaring [counted (.text "a") (.int (-3))])) =
      .ok [⟨"a", -3⟩] := rfl
  refine ⟨⟨hbroken, rfl, ?_⟩, hread, ?_⟩
  · rw [hbroken]
    rintro (⟨racks, h, -⟩ | ⟨defect, h⟩) <;> cases h
  · rw [hread]
    rintro (⟨racks, h, hracks⟩ | ⟨defect, h⟩)
    · obtain rfl := Except.ok.inj h
      exact absurd (hracks ⟨"a", -3⟩ (List.mem_singleton.mpr rfl)) (by decide)
    · cases h

end Topology

end NodeBootstrap

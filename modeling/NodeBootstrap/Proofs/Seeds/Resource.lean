/-
NodeBootstrap/Proofs/Seeds/Resource.lean

Which part of a resource its racks are.  A resource has one list of racks
(`Topology.Lists`), which has no entries where the specification or the racks
are not given.  A resource that is read gives one rack for each entry, in
their order, and of an entry only its name and its count are looked at
(`Rack.known`).  So two resources that agree in these are read alike, whatever
else they hold (`Topology.ofResource_racks`).
-/
import NodeBootstrap.Proofs.Seeds.Topology

namespace NodeBootstrap

/-! ### Entries -/

namespace Rack

/-- What is looked at of an entry. -/
def known (entry : List (String × Json)) : Option Json × Option Json :=
  (Json.field? "name" entry, Json.field? "replicas" entry)

variable {entry other : List (String × Json)} {rack : Rack}

theorem Declares.congr (h : known entry = known other) (hd : Declares (.object entry) rack) :
    Declares (.object other) rack := by
  obtain ⟨hname, hcount⟩ := Prod.mk.inj h
  cases hd with
  | entry hn hnull hc => exact .entry (hname ▸ hn) hnull (hcount ▸ hc)

/-- Entries that agree in name and count declare the same rack, if any. -/
theorem ofEntry_congr (h : known entry = known other) (rack : Rack) :
    ofEntry (.object entry) = .ok rack ↔ ofEntry (.object other) = .ok rack := by
  rw [ofEntry_eq_ok_iff, ofEntry_eq_ok_iff]
  exact ⟨Declares.congr h, Declares.congr h.symm⟩

end Rack

/-! ### Resources -/

namespace Topology

variable {fields spec : List (String × Json)} {entries : List Json} {racks : List Rack}

/-- A field that is absent, or has a value that does not count as given. -/
def IsMissing (name : String) (fields : List (String × Json)) : Prop :=
  ∀ v, Json.field? name fields = some v → v.isGiven = false

/-- The entries of a resource's list of racks. -/
inductive Lists (fields : List (String × Json)) : List Json → Prop
  | noSpec : IsMissing "spec" fields → Lists fields []
  | noRacks {spec : List (String × Json)} :
      Json.field? "spec" fields = some (.object spec) → IsMissing "racks" spec → Lists fields []
  | racks {spec : List (String × Json)} {entries : List Json} :
      Json.field? "spec" fields = some (.object spec) →
        Json.field? "racks" spec = some (.list entries) → Lists fields entries

theorem filter_isGiven_eq_none_iff {name : String} :
    (Json.field? name fields).filter Json.isGiven = none ↔ IsMissing name fields := by
  rw [Option.filter_eq_none_iff, IsMissing]
  simp

theorem ofResource_of_noSpec (h : IsMissing "spec" fields) : ofResource (.object fields) = .ok [] := by
  rw [ofResource, filter_isGiven_eq_none_iff.mpr h]

theorem ofResource_of_noRacks (hspec : Json.field? "spec" fields = some (.object spec))
    (h : IsMissing "racks" spec) : ofResource (.object fields) = .ok [] := by
  rw [ofResource_eq hspec, filter_isGiven_eq_none_iff.mpr h]
  rfl

/-- A list of racks is read entry by entry, also if it is empty. -/
theorem ofResource_of_racks (hspec : Json.field? "spec" fields = some (.object spec))
    (hracks : Json.field? "racks" spec = some (.list entries)) :
    ofResource (.object fields) = entries.mapM Rack.ofEntry := by
  rw [ofResource_eq hspec, hracks]
  cases entries <;> rfl

/-- A resource is read just if it has a list of racks and every entry declares
one; the racks are those. -/
theorem ofResource_eq_ok_iff : ofResource (.object fields) = .ok racks ↔
    ∃ entries, Lists fields entries ∧ entries.mapM Rack.ofEntry = .ok racks := by
  constructor
  · intro h
    rcases hspec : (Json.field? "spec" fields).filter Json.isGiven with - | v
    · have hmissing := filter_isGiven_eq_none_iff.mp hspec
      exact ⟨[], .noSpec hmissing, (ofResource_of_noSpec hmissing).symm.trans h⟩
    have hv : Json.field? "spec" fields = some v := (Option.filter_eq_some_iff.mp hspec).1
    cases v with
    | object spec =>
      rcases hracks : (Json.field? "racks" spec).filter Json.isGiven with - | w
      · have hmissing := filter_isGiven_eq_none_iff.mp hracks
        exact ⟨[], .noRacks hv hmissing, (ofResource_of_noRacks hv hmissing).symm.trans h⟩
      have hw : Json.field? "racks" spec = some w := (Option.filter_eq_some_iff.mp hracks).1
      rw [ofResource_eq hv, hracks] at h
      cases w with
      | list entries => exact ⟨entries, .racks hv hw, h⟩
      | null | bool | int | float | text | object => cases h
    | null | bool | int | float | text | list =>
      rw [ofResource, hspec] at h
      cases h
  · rintro ⟨entries, hlists, h⟩
    cases hlists with
    | noSpec hmissing => exact (ofResource_of_noSpec hmissing).trans h
    | noRacks hspec hmissing => exact (ofResource_of_noRacks hspec hmissing).trans h
    | racks hspec hracks => exact (ofResource_of_racks hspec hracks).trans h

/-- Resources whose entries agree in names and counts are read alike. -/
theorem ofResource_congr {other spec' : List (String × Json)}
    {first second : List (List (String × Json))}
    (hspec : Json.field? "spec" fields = some (.object spec))
    (hracks : Json.field? "racks" spec = some (.list (first.map .object)))
    (hspec' : Json.field? "spec" other = some (.object spec'))
    (hracks' : Json.field? "racks" spec' = some (.list (second.map .object)))
    (hknown : first.map Rack.known = second.map Rack.known) :
    ofResource (.object fields) = .ok racks ↔ ofResource (.object other) = .ok racks := by
  rw [ofResource_of_racks hspec hracks, ofResource_of_racks hspec' hracks', List.mapM_map,
    List.mapM_map]
  exact mapM_eq_ok_congr (fun a b => Rack.ofEntry_congr) hknown

/-- The racks of a resource that is read are those that the entries of its
list declare, one for each, in their order; there are none where the
specification or the list is not given.  Resources whose entries agree in
names and counts are read alike, whatever else they hold. -/
theorem ofResource_racks :
    (∀ fields racks, ofResource (.object fields) = .ok racks ↔
      ∃ entries, Lists fields entries ∧ racks.length = entries.length ∧
        ∀ i (hi : i < entries.length) (hi' : i < racks.length),
          Rack.Declares entries[i] racks[i]) ∧
    (∀ fields, IsMissing "spec" fields → ofResource (.object fields) = .ok []) ∧
    (∀ fields spec, Json.field? "spec" fields = some (.object spec) → IsMissing "racks" spec →
      ofResource (.object fields) = .ok []) ∧
    ∀ fields other spec spec' (first second : List (List (String × Json))),
      Json.field? "spec" fields = some (.object spec) →
      Json.field? "racks" spec = some (.list (first.map .object)) →
      Json.field? "spec" other = some (.object spec') →
      Json.field? "racks" spec' = some (.list (second.map .object)) →
      first.map Rack.known = second.map Rack.known →
        ∀ racks, ofResource (.object fields) = .ok racks ↔
          ofResource (.object other) = .ok racks := by
  refine ⟨fun fields racks => ?_, fun fields => ofResource_of_noSpec,
    fun fields spec => ofResource_of_noRacks,
    fun fields other spec spec' first second hspec hracks hspec' hracks' hknown racks =>
      ofResource_congr hspec hracks hspec' hracks' hknown⟩
  simp only [ofResource_eq_ok_iff, mapM_eq_ok_iff_getElem, Rack.ofEntry_eq_ok_iff]

/-- A resource with more fields at every level, one of which repeats a name
that is looked at elsewhere. -/
def adorned : List (String × Json) :=
  [("racks", .list [.null]),
    ("spec", .object [("replicas", .int 9), ("racks", .list [
      .object [("zone", .text "z"), ("replicas", .text " 3 "), ("name", .bool true)],
      .object [("name", .text "b"), ("count", .null)]])])]

theorem ofResource_racks_sample :
    ofResource (.object adorned) = .ok [⟨"True", 3⟩, ⟨"b", 0⟩] ∧
      ofResource (.object (declaring [counted (.bool true) (.text " 3 "),
        .object [("name", .text "b")]])) = .ok [⟨"True", 3⟩, ⟨"b", 0⟩] := by
  obtain ⟨hread, -, -, hcongr⟩ := ofResource_racks
  have hplain : ofResource (.object (declaring [counted (.bool true) (.text " 3 "),
      .object [("name", .text "b")]])) = .ok [⟨"True", 3⟩, ⟨"b", 0⟩] := by
    refine (hread _ _).mpr ⟨_, .racks rfl rfl, rfl, ?_⟩
    have hthree : Rack.Counts (some (.text " 3 ")) 3 :=
      .text (eq_ok_of_toOption (by decide +kernel))
    have htrue : Rack.Declares (counted (.bool true) (.text " 3 ")) ⟨"True", 3⟩ :=
      @Rack.Declares.entry _ (.bool true) _ rfl (by simp) hthree
    have hb : Rack.Declares (.object [("name", .text "b")]) ⟨"b", 0⟩ :=
      @Rack.Declares.entry _ (.text "b") _ rfl (by simp) .absent
    rintro (- | - | i) hi hi'
    · exact htrue
    · exact hb
    · exact absurd hi (by simp)
  refine ⟨?_, hplain⟩
  refine (hcongr adorned (declaring _) _ _
    [[("zone", .text "z"), ("replicas", .text " 3 "), ("name", .bool true)],
      [("name", .text "b"), ("count", .null)]]
    [[("name", .bool true), ("replicas", .text " 3 ")], [("name", .text "b")]]
    rfl rfl rfl rfl rfl _).mpr hplain

end Topology

end NodeBootstrap

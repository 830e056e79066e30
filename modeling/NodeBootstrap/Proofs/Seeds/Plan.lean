/-
NodeBootstrap/Proofs/Seeds/Plan.lean

The pods of a plan.  A plan made for racks has a pod at every index up to its
size, so its names are those of all the indices, in their order
(`map_some_podNames`).

With one rack they are its pods from number zero on (`podNames_singleRack`),
with more the first pod of each (`podNames_multiRack`).  In either case a
cluster that grows keeps the seeds it has, but when its second rack comes; the
first seed stays even then (`podNames_of_racks`).
-/
import NodeBootstrap.Seeds.Plan

namespace NodeBootstrap.SeedPlan

variable {cluster : String} {racks : List Rack} {plan : SeedPlan}

/-- There is a plan for racks, if there are any. -/
theorem exists_ofRacks (cluster : String) (h : racks ≠ []) :
    ∃ plan, ofRacks cluster racks = .ok plan := by
  cases racks with
  | nil => exact absurd rfl h
  | cons rack rest => cases rest <;> exact ⟨_, rfl⟩

theorem rackAt?_natCast (p : SeedPlan) (index : Nat) : p.rackAt? index = p.racks[index]? := by
  rw [rackAt?, if_pos (Int.natCast_nonneg index), Int.toNat_natCast]

/-- A plan for racks has a name for each of its seeds. -/
theorem exists_podName? (h : ofRacks cluster racks = .ok plan) {index : Nat}
    (hi : index < plan.size) : ∃ name, plan.podName? index = some name := by
  cases racks with
  | nil => cases h
  | cons rack rest =>
    cases rest with
    | nil =>
      -- a single rack has a name for any index
      obtain rfl := Except.ok.inj h
      exact ⟨_, rfl⟩
    | cons next rest =>
      obtain rfl := Except.ok.inj h
      have hget : (rack :: next :: rest)[index]? = some (rack :: next :: rest)[index] :=
        List.getElem?_eq_getElem hi
      refine ⟨podOf cluster (rack :: next :: rest)[index] 0, ?_⟩
      show (rackAt? _ index).map (podOf cluster · 0) = _
      rw [rackAt?_natCast, hget, Option.map_some]

/-- Each index of a plan has one name. -/
theorem map_some_podNames (h : ofRacks cluster racks = .ok plan) :
    plan.podNames.map some = (List.range plan.size).map fun index : Nat => plan.podName? index := by
  have hall : ∀ indices : List Nat, (∀ i ∈ indices, i < plan.size) →
      (indices.filterMap fun i : Nat => plan.podName? i).map some =
        indices.map fun i : Nat => plan.podName? i := by
    intro indices hi
    induction indices with
    | nil => rfl
    | cons i indices ih =>
      obtain ⟨name, hname⟩ := exists_podName? h (hi i List.mem_cons_self)
      rw [List.filterMap_cons, List.map_cons, hname, List.map_cons,
        ih fun j hj => hi j (List.mem_cons_of_mem _ hj)]
  exact hall _ fun i hi => List.mem_range.mp hi

/-! ### Names -/

/-- Numbers are told apart by their numerals. -/
theorem ofInt_natCast_inj {m n : Nat} : Numeral.ofInt m = Numeral.ofInt n ↔ m = n := by
  refine ⟨fun h => ?_, fun h => h ▸ rfl⟩
  have hdigits : Nat.toDigits 10 m = Nat.toDigits 10 n := by
    rw [← Nat.toList_repr, ← Nat.toList_repr]
    exact congrArg String.toList h
  have hvalue := congrArg (Nat.ofDigitChars 10 · 0) hdigits
  simpa only [Nat.ofDigitChars_ten_toDigits] using hvalue

theorem podOf_natCast_inj {rack : Rack} {m n : Nat} :
    podOf cluster rack m = podOf cluster rack n ↔ m = n := by
  rw [podOf, podOf, String.append_right_inj, ofInt_natCast_inj]

/-- Pods of one number are told apart by their racks. -/
theorem podOf_rack_inj {a b : Rack} {number : Int} :
    podOf cluster a number = podOf cluster b number ↔ a.name = b.name := by
  rw [podOf, podOf, String.append_left_inj, String.append_left_inj, String.append_right_inj]

theorem podOf_zero (cluster : String) (rack : Rack) :
    podOf cluster rack 0 = cluster ++ "-" ++ rack.name ++ "-0" := by
  have hzero : "-" ++ Numeral.ofInt 0 = "-0" := by decide
  rw [podOf, String.append_assoc, hzero]

/-! ### One rack -/

variable {rack : Rack} {replicas more : Int}

theorem one_le_singleRackSize (replicas : Int) : 1 ≤ singleRackSize replicas := by
  rw [singleRackSize]
  omega

theorem singleRackSize_le_three (replicas : Int) : singleRackSize replicas ≤ 3 := by
  rw [singleRackSize, maxSingleRack]
  omega

/-- There are no more seeds than pods, where there are pods. -/
theorem singleRackSize_le (replicas : Int) : (singleRackSize replicas : Int) ≤ max replicas 1 := by
  rw [singleRackSize, maxSingleRack, Int.fdiv_eq_ediv_of_nonneg _ (by decide)]
  omega

theorem singleRackSize_mono (h : replicas ≤ more) :
    singleRackSize replicas ≤ singleRackSize more := by
  rw [singleRackSize, singleRackSize, maxSingleRack, Int.fdiv_eq_ediv_of_nonneg _ (by decide),
    Int.fdiv_eq_ediv_of_nonneg _ (by decide)]
  omega

theorem ofRacks_singleRack (cluster : String) (rack : Rack) : ofRacks cluster [rack] =
    .ok ⟨.singleRack, singleRackSize rack.replicas, cluster, [rack]⟩ :=
  rfl

theorem podNames_singleRack (size : Nat) (cluster : String) (rack : Rack) :
    (SeedPlan.mk .singleRack size cluster [rack]).podNames =
      (List.range size).map fun number : Nat => podOf cluster rack number := by
  show (List.range size).filterMap (fun number : Nat => some (podOf cluster rack number)) = _
  exact congrFun List.filterMap_eq_map' _

/-- The names of the first pods of a rack come before those of more. -/
theorem podNames_singleRack_prefix {m n : Nat} (h : m ≤ n) (cluster : String) (rack : Rack) :
    (SeedPlan.mk .singleRack m cluster [rack]).podNames <+:
      (SeedPlan.mk .singleRack n cluster [rack]).podNames := by
  rw [podNames_singleRack, podNames_singleRack]
  refine List.IsPrefix.map _ ?_
  obtain ⟨k, rfl⟩ := Nat.exists_eq_add_of_le h
  rw [List.range_add]
  exact List.prefix_append _ _

/-- The names in a plan for a single rack: pods of that rack, each once, and
with more replicas the same ones first. -/
structure NamesPodsOf (plan : SeedPlan) (cluster : String) (rack : Rack) : Prop where
  size_le : plan.size ≤ 3
  pod : ∀ name ∈ plan.podNames, ∃ number : Nat, (number : Int) < max rack.replicas 1 ∧
    name = cluster ++ "-" ++ rack.name ++ "-" ++ Numeral.ofInt number
  nodup : plan.podNames.Nodup
  grows : ∀ replicas, rack.replicas ≤ replicas →
    ∃ grown, ofRacks cluster [⟨rack.name, replicas⟩] = .ok grown ∧ plan.podNames <+: grown.podNames

theorem namesPodsOf (h : ofRacks cluster [rack] = .ok plan) : plan.NamesPodsOf cluster rack := by
  obtain rfl := Except.ok.inj h
  refine ⟨singleRackSize_le_three _, fun name hname => ?_, ?_, fun replicas hle => ?_⟩
  · rw [podNames_singleRack, List.mem_map] at hname
    obtain ⟨number, hnumber, rfl⟩ := hname
    have hsize := singleRackSize_le rack.replicas
    have := List.mem_range.mp hnumber
    exact ⟨number, by omega, rfl⟩
  · rw [podNames_singleRack]
    refine List.pairwise_map.mpr (List.nodup_range.imp ?_)
    exact fun hne heq => hne (podOf_natCast_inj.mp heq)
  · -- a rack with other replicas has the same pods
    refine ⟨_, ofRacks_singleRack _ _, ?_⟩
    have hprefix := podNames_singleRack_prefix (singleRackSize_mono hle) cluster rack
    rw [podNames_singleRack, podNames_singleRack] at hprefix ⊢
    exact hprefix

/-! ### More racks -/

theorem ofRacks_multiRack (cluster : String) (h : 2 ≤ racks.length) :
    ofRacks cluster racks = .ok ⟨.multiRack, racks.length, cluster, racks⟩ := by
  match racks, h with
  | _ :: _ :: _, _ => rfl

/-- One name for each rack, in their order. -/
theorem podNames_multiRack (cluster : String) (racks : List Rack) :
    (SeedPlan.mk .multiRack racks.length cluster racks).podNames =
      racks.map fun rack => podOf cluster rack 0 := by
  have hname : (fun index : Nat =>
      (SeedPlan.mk .multiRack racks.length cluster racks).podName? index) =
        Option.map (podOf cluster · 0) ∘ fun index : Nat => racks[index]? := by
    funext index
    show (rackAt? _ index).map (podOf cluster · 0) = _
    rw [rackAt?_natCast, Function.comp_apply]
  -- the racks at all the indices are the racks
  have hracks : (List.range racks.length).map (fun index => racks[index]?) = racks.map some :=
    List.ext_getElem (by simp) fun index _ _ => by simp
  rw [podNames, hname, ← List.filterMap_map, hracks, List.filterMap_map]
  exact congrFun List.filterMap_eq_map' racks

/-- The names in a plan for several racks: one of each rack, whatever its
replicas, and with more racks the same ones first. -/
structure NamesRacksOf (plan : SeedPlan) (cluster : String) (racks : List Rack) : Prop where
  names : plan.podNames = racks.map fun rack => cluster ++ "-" ++ rack.name ++ "-0"
  eq_iff : ∀ (i j : Nat) (a b : Rack), racks[i]? = some a → racks[j]? = some b →
    (plan.podNames[i]? = plan.podNames[j]? ↔ a.name = b.name)
  steady : ∀ others : List Rack, others.map (·.name) = racks.map (·.name) →
    ∃ other, ofRacks cluster others = .ok other ∧ other.podNames = plan.podNames
  grows : ∀ more : List Rack,
    ∃ grown, ofRacks cluster (racks ++ more) = .ok grown ∧ plan.podNames <+: grown.podNames

theorem namesRacksOf (hlen : 2 ≤ racks.length) (h : ofRacks cluster racks = .ok plan) :
    plan.NamesRacksOf cluster racks := by
  obtain rfl := Except.ok.inj ((ofRacks_multiRack cluster hlen).symm.trans h)
  refine ⟨?_, fun i j a b ha hb => ?_, fun others hothers => ?_, fun more => ?_⟩
  · rw [podNames_multiRack]
    exact List.map_congr_left fun rack _ => podOf_zero cluster rack
  · rw [podNames_multiRack, List.getElem?_map, List.getElem?_map, ha, hb, Option.map_some,
      Option.map_some, Option.some.injEq, podOf_rack_inj]
  · have hlen' : 2 ≤ others.length := by
      have hsame := congrArg List.length hothers
      rw [List.length_map, List.length_map] at hsame
      omega
    refine ⟨_, ofRacks_multiRack cluster hlen', ?_⟩
    -- only the names of the racks are looked at
    have hnames : ∀ racks : List Rack, racks.map (podOf cluster · 0) =
        (racks.map (·.name)).map fun name => podOf cluster ⟨name, 0⟩ 0 := fun racks => by
      rw [List.map_map]
      rfl
    rw [podNames_multiRack, podNames_multiRack, hnames, hnames, hothers]
  · have hlen' : 2 ≤ (racks ++ more).length := by
      rw [List.length_append]
      omega
    refine ⟨_, ofRacks_multiRack cluster hlen', ?_⟩
    rw [podNames_multiRack, podNames_multiRack, List.map_append]
    exact List.prefix_append _ _

/-! ### Any racks -/

theorem length_podNames (h : ofRacks cluster racks = .ok plan) :
    plan.podNames.length = plan.size := by
  have hlength := congrArg List.length (map_some_podNames h)
  rwa [List.length_map, List.length_map, List.length_range] at hlength

/-- The first seed is the first pod of the first rack, of one or of more. -/
theorem head?_podNames {first : Rack} {rest : List Rack}
    (h : ofRacks cluster (first :: rest) = .ok plan) :
    plan.podNames.head? = some (cluster ++ "-" ++ first.name ++ "-0") := by
  rw [← podOf_zero]
  cases rest with
  | nil =>
    obtain rfl := Except.ok.inj h
    obtain ⟨k, hk⟩ := Nat.exists_eq_add_of_le' (one_le_singleRackSize first.replicas)
    rw [podNames_singleRack, hk, List.range_succ_eq_map]
    rfl
  | cons next rest =>
    obtain rfl := Except.ok.inj h
    exact (congrArg List.head? (podNames_multiRack cluster (first :: next :: rest))).trans rfl

theorem one_le_size (hne : racks ≠ []) (h : ofRacks cluster racks = .ok plan) :
    1 ≤ plan.size := by
  obtain ⟨first, rest, rfl⟩ := List.exists_cons_of_ne_nil hne
  have hhead := head?_podNames h
  rw [← length_podNames h]
  exact List.length_pos_of_mem (List.mem_of_mem_head? hhead)

/-- Any racks have a plan with as many names as it has seeds: pods of the one
rack that there is, or the first pod of each.  The first of them is the seed
that stays when the cluster grows, from one rack to more as well. -/
theorem podNames_of_racks (cluster : String) {racks : List Rack} (hne : racks ≠ []) :
    ∃ plan, ofRacks cluster racks = .ok plan ∧ 1 ≤ plan.size ∧ plan.podNames.length = plan.size ∧
      (∀ rack, racks = [rack] → plan.NamesPodsOf cluster rack) ∧
      (2 ≤ racks.length → plan.NamesRacksOf cluster racks) ∧
      ∀ first rest, racks = first :: rest →
        plan.podNames.head? = some (cluster ++ "-" ++ first.name ++ "-0") ∧
        ∀ more, ∃ grown, ofRacks cluster (racks ++ more) = .ok grown ∧
          grown.podNames.head? = some (cluster ++ "-" ++ first.name ++ "-0") := by
  obtain ⟨plan, hplan⟩ := exists_ofRacks cluster hne
  refine ⟨plan, hplan, one_le_size hne hplan, length_podNames hplan, fun rack hrack => ?_,
    fun hlen => namesRacksOf hlen hplan, fun first rest hfirst => ⟨?_, fun more => ?_⟩⟩
  · exact namesPodsOf (hrack ▸ hplan)
  · exact head?_podNames (hfirst ▸ hplan)
  · obtain ⟨grown, hgrown⟩ := exists_ofRacks cluster (List.append_ne_nil_of_left_ne_nil hne more)
    have hracks : racks ++ more = first :: (rest ++ more) := by rw [hfirst, List.cons_append]
    exact ⟨grown, hgrown, head?_podNames (hracks ▸ hgrown)⟩

/-- Three seeds of seven pods, and the first of them with a second rack that
has none. -/
theorem podNames_of_racks_sample :
    ∃ plan, ofRacks "c" [⟨"a", 7⟩] = .ok plan ∧ plan.podNames = ["c-a-0", "c-a-1", "c-a-2"] ∧
      plan.NamesPodsOf "c" ⟨"a", 7⟩ ∧
      ∃ grown, ofRacks "c" [⟨"a", 7⟩, ⟨"b", -1⟩] = .ok grown ∧
        grown.podNames.head? = some "c-a-0" := by
  have hne : [(⟨"a", 7⟩ : Rack)] ≠ [] := List.cons_ne_nil _ _
  obtain ⟨plan, hplan, -, -, hone, -, hfirst⟩ := podNames_of_racks "c" hne
  obtain ⟨grown, hgrown, hhead⟩ := (hfirst ⟨"a", 7⟩ [] rfl).2 [⟨"b", -1⟩]
  refine ⟨plan, hplan, ?_, hone _ rfl, grown, hgrown, hhead⟩
  obtain rfl := Except.ok.inj hplan
  decide +kernel

end NodeBootstrap.SeedPlan

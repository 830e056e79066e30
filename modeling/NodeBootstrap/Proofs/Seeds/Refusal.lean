/-
NodeBootstrap/Proofs/Seeds/Refusal.lean

How a search for seeds can fail.  Its parts fail in order: a parameter is not
given, the racks are not had from the API, the node does not know its domain,
the cluster has no racks.  All of these come before a host is looked up.
Behind that a host that has no address is left out, and nothing but an entry
of the resolver that is no address is a fault, which breaks the run off
(`asks_seedAddresses_breaks`).  So every fault that is worded for the operator
leaves the look-ups alone, and none is that of a host (`Run.Ends`).
-/
import NodeBootstrap.Proofs.Json.Reader
import NodeBootstrap.Proofs.Seeds.Discovery
import NodeBootstrap.Proofs.Seeds.Topology

namespace NodeBootstrap

open NodeBootstrap.Run

variable {client : Client} {net : Network} {clusterNamespace cluster host : String}
variable {racks : List Rack} {f : Fault} {n c : Json}

/-- A document is given just if its value is. -/
theorem Json.isGiven_toValue (j : Json) : j.toValue.isGiven = j.isGiven := by
  cases j with
  | null | bool | int | float | text => rfl
  | list items => cases items <;> rfl
  | object fields =>
    cases fields with
    | nil => rfl
    | cons field rest =>
      obtain ⟨name, value⟩ := field
      rfl

/-! ### Families of faults -/

/-- A fault is worded, as one of the program's own or as one of the request,
just if it does not break the run off. -/
theorem Fault.worded_iff : f.isReported = true ∨ f.family = .request ↔ f.family ≠ .breakdown := by
  rw [isReported]
  cases f.family <;> simp

namespace Topology

theorem family_of_ofRacks {v : Json} (h : ofRacks v = .error f) :
    f.family = .configuration ∨ f.family = .breakdown := by
  cases v with
  | list entries =>
    obtain ⟨before, entry, after, -, -, hentry⟩ := mapM_eq_error_iff.mp h
    rcases Rack.ofEntry_eq_error hentry with ⟨defect, rfl⟩ | ⟨rfl, -⟩
    · exact .inl rfl
    · exact .inr rfl
  | null | bool | int | float | text | object => exact .inl (Except.error.inj h ▸ rfl)

theorem family_of_ofResource {resource : Json} (h : ofResource resource = .error f) :
    f.family = .configuration ∨ f.family = .breakdown := by
  unfold ofResource at h
  split at h
  · split at h
    · cases h
    · split at h
      · cases h
      · exact family_of_ofRacks h
    · exact .inr (Except.error.inj h ▸ rfl)
  · exact .inr (Except.error.inj h ▸ rfl)

end Topology

namespace Client

theorem family_of_racksOf {body : String} (h : racksOf body = .error f) :
    f.family ≠ .hostResolution := by
  unfold racksOf at h
  split at h
  · rcases Topology.family_of_ofResource h with hf | hf <;> simp [hf]
  · obtain rfl := Except.error.inj h
    exact Fault.Family.noConfusion
  · obtain rfl := Except.error.inj h
    exact Fault.Family.noConfusion

theorem family_of_racksOn (h : client.racksOn net clusterNamespace cluster = .error f) :
    f.family ≠ .hostResolution := by
  unfold racksOn racksIn at h
  split at h
  · obtain rfl := Except.error.inj h
    exact Fault.Family.noConfusion
  · split at h
    · cases h
    · split at h
      · obtain rfl := Except.error.inj h
        exact Fault.Family.noConfusion
      · exact family_of_racksOf (map_eq_error_iff.mp h)

end Client

namespace Network

theorem family_of_clusterDomain (h : net.clusterDomain = .error f) :
    f.family = .domainLookup ∨ f.family = .breakdown := by
  unfold clusterDomain at h
  split at h
  · split at h
    · exact .inr (Except.error.inj h ▸ rfl)
    all_goals exact .inl (Except.error.inj h ▸ rfl)
  · split at h
    · cases h
    · exact .inl (Except.error.inj h ▸ rfl)

/-- A host that has no address is unresolved, or its entry is none. -/
theorem resolve_eq_error (h : net.resolve host = .error f) :
    (∃ reason, f = .unresolved host reason) ∨ f = .broken .badValue := by
  unfold resolve at h
  split at h
  · exact .inl ⟨_, (Except.error.inj h).symm⟩
  · split at h
    · exact .inl ⟨_, (Except.error.inj h).symm⟩
    · split at h
      · cases h
      · exact .inr (Except.error.inj h).symm

end Network

/-! ### Endings -/

namespace Run

/-- An ending of a run that looked these hosts up: no fault is that of a
host, and only one that breaks the run off comes behind a look-up. -/
structure Ends {α : Type} (hosts : List String) (result : Except Fault α) : Prop where
  family : ∀ f, result = .error f → f.family ≠ .hostResolution
  first : ∀ f, result = .error f → f.family ≠ .breakdown → hosts = []

namespace Ends

variable {α : Type} {hosts : List String}

theorem ok (a : α) : Ends hosts (.ok a) := by
  constructor
  · intro f h
    cases h
  · intro f h
    cases h

/-- A fault that comes before any look-up. -/
theorem early (h : f.family ≠ .hostResolution) : Ends [] (.error f : Except Fault α) := by
  constructor
  · intro g hg
    exact Except.error.inj hg ▸ h
  · exact fun _ _ _ => rfl

/-- A fault that breaks the run off, wherever. -/
theorem broken (h : f.family = .breakdown) : Ends hosts (.error f : Except Fault α) := by
  constructor
  · intro g hg
    rw [← Except.error.inj hg, h]
    exact Fault.Family.noConfusion
  · intro g hg hbreaks
    exact absurd (Except.error.inj hg ▸ h) hbreaks

end Ends

end Run

/-! ### Hosts -/

theorem exists_asks_seedAddress (net : Network) (host : String) :
    ∃ result, Asks (seedAddress net host) [host] [] result ∧
      ∀ f, result = .error f → f.family = .breakdown := by
  rw [seedAddress]
  rcases hresolve : net.resolve host with f | a
  · rcases Network.resolve_eq_error hresolve with ⟨reason, rfl⟩ | rfl
    · refine ⟨.ok none, (Asks.noteLookup host).bind ((Asks.note _ _).bind (Asks.pure none)), ?_⟩
      intro f h
      cases h
    · refine ⟨_, (Asks.noteLookup host).bind (Asks.ofExcept (.error (.broken .badValue))), ?_⟩
      intro f h
      obtain rfl := Except.error.inj h
      rfl
  · refine ⟨.ok (some a), (Asks.noteLookup host).bind (Asks.pure (some a)), ?_⟩
    intro f h
    cases h

/-- Whatever the resolver says of the hosts, a fault breaks the run off. -/
theorem exists_asks_seedAddresses (net : Network) (hosts : List String) :
    ∃ asked result, Asks (seedAddresses net hosts) asked [] result ∧
      ∀ f, result = .error f → f.family = .breakdown := by
  induction hosts with
  | nil =>
    refine ⟨[], .ok [], Asks.pure [], ?_⟩
    intro f h
    cases h
  | cons host hosts ih =>
    rw [seedAddresses]
    obtain ⟨first, hfirst, hbreaks⟩ := exists_asks_seedAddress net host
    obtain ⟨asked, rest, hrest, hbreaks'⟩ := ih
    rcases first with f | address
    · exact ⟨[host], .error f, hfirst.bind_error _, fun g h => hbreaks g (by rw [Except.error.inj h])⟩
    · rcases rest with f | addresses
      · exact ⟨_, .error f, hfirst.bind (hrest.bind_error _),
          fun g h => hbreaks' g (by rw [Except.error.inj h])⟩
      · refine ⟨_, _, hfirst.bind (hrest.bind_quiet (Asks.pure _)), ?_⟩
        intro f h
        cases h

/-! ### The search -/

/-- A node that knows its domain finds a cluster without racks. -/
theorem asks_plannedSeeds_noRacks {domain : String} (h : net.clusterDomain = .ok domain) :
    Asks (plannedSeeds net clusterNamespace cluster []) [] [] (.error (.noRacks cluster)) := by
  rw [plannedSeeds, h]
  exact (Asks.ofExcept _).bind ((Asks.ofExcept (.error (.noRacks cluster))).bind_error _)

/-- Without racks a search ends in the fault of the domain or, with a domain,
in one of the configuration. -/
theorem exists_asks_plannedSeeds_noRacks (net : Network) (clusterNamespace cluster : String) :
    ∃ f, Asks (plannedSeeds net clusterNamespace cluster []) [] [] (.error f) ∧
      (f.family = .configuration ↔ ∃ domain, net.clusterDomain = .ok domain) ∧
      ∀ g, net.clusterDomain = .error g → f = g := by
  rcases hdomain : net.clusterDomain with f | domain
  · refine ⟨f, asks_plannedSeeds_error hdomain, iff_of_false ?_ ?_, fun g => Except.error.inj⟩
    · rcases Network.family_of_clusterDomain hdomain with hf | hf <;> simp [hf]
    · rintro ⟨domain, h⟩
      cases h
  · refine ⟨_, asks_plannedSeeds_noRacks hdomain, iff_of_true rfl ⟨domain, rfl⟩, fun g hg => ?_⟩
    cases hg

theorem exists_asks_plannedSeeds (net : Network) (clusterNamespace cluster : String)
    (racks : List Rack) : ∃ hosts result,
      Asks (plannedSeeds net clusterNamespace cluster racks) hosts [] result ∧
        Ends hosts result := by
  rcases hdomain : net.clusterDomain with f | domain
  · refine ⟨[], _, asks_plannedSeeds_error hdomain, .early ?_⟩
    rcases Network.family_of_clusterDomain hdomain with hf | hf <;> simp [hf]
  by_cases hne : racks = []
  · subst hne
    exact ⟨[], _, asks_plannedSeeds_noRacks hdomain, .early Fault.Family.noConfusion⟩
  obtain ⟨plan, hplan⟩ := SeedPlan.exists_ofRacks cluster hne
  obtain ⟨asked, result, hasked, hbreaks⟩ :=
    exists_asks_seedAddresses net (plannedHosts plan clusterNamespace cluster domain)
  rw [plannedSeeds, hdomain, hplan]
  rcases result with f | found
  · exact ⟨asked, .error f, (Asks.ofExcept _).bind ((Asks.ofExcept _).bind ((Asks.note _ _).bind
      (hasked.bind_error _))), .broken (hbreaks f rfl)⟩
  · exact ⟨asked, .ok found, (Asks.ofExcept _).bind ((Asks.ofExcept _).bind ((Asks.note _ _).bind
      (hasked.bind_quiet ((Asks.note _ _).bind (Asks.pure found))))), .ok found⟩

theorem asks_existingRacks_error (h : client.racksOn net clusterNamespace cluster = .error f) :
    Asks (existingRacks client net clusterNamespace cluster) []
      [client.request (client.resourceUrl clusterNamespace cluster)] (.error f) :=
  (asks_topology_of h).bind_error _

theorem asks_existingRacks_none (h : client.racksOn net clusterNamespace cluster = .ok none) :
    Asks (existingRacks client net clusterNamespace cluster) []
      [client.request (client.resourceUrl clusterNamespace cluster)]
      (.error (.noSuchCluster (clusterNamespace ++ "." ++ cluster))) :=
  (asks_topology_of h).bind_quiet (Asks.ofExcept (.error _))

/-- A search for a cluster that is given is one request. -/
theorem exists_asks_seeds {n c : Value} (hn : n.isGiven = true) (hc : c.isGiven = true)
    (hn' : n.isShowable = true) (hc' : c.isShowable = true) : ∃ hosts result,
      Asks (seeds client net n c) hosts [client.request (client.resourceUrl n.toText c.toText)]
        result ∧ Ends hosts result := by
  rw [seeds_given hn hc hn' hc']
  rcases hracks : client.racksOn net n.toText c.toText with f | - | racks
  · exact ⟨[], .error f, (asks_existingRacks_error hracks).bind_error _,
      .early (Client.family_of_racksOn hracks)⟩
  · exact ⟨[], _, (asks_existingRacks_none hracks).bind_error _,
      .early Fault.Family.noConfusion⟩
  · obtain ⟨hosts, result, hplanned, hends⟩ :=
      exists_asks_plannedSeeds net n.toText c.toText racks
    exact ⟨hosts, result, (asks_existingRacks hracks).bind hplanned, hends⟩

theorem asks_demand {name : String} {v : Value} (h : v.isGiven = true) :
    Asks (demand name v) [] [] (.ok ()) := by
  rw [demand, if_pos h]
  exact Asks.pure ()

theorem asks_demand_missing {name : String} {v : Value} (h : v.isGiven = false) :
    Asks (demand name v) [] [] (.error (.missingParameter name)) := by
  rw [demand, h]
  exact Asks.ofExcept (.error _)

theorem asks_seeds_noNamespace {n c : Value} (hn : n.isGiven = false) :
    Asks (seeds client net n c) [] [] (.error (.missingParameter "namespace")) :=
  (asks_demand_missing hn).bind_error _

theorem asks_seeds_noCluster {n c : Value} (hn : n.isGiven = true) (hc : c.isGiven = false) :
    Asks (seeds client net n c) [] [] (.error (.missingParameter "clusterName")) :=
  (asks_demand hn).bind ((asks_demand_missing hc).bind_error _)

/-- A cluster that the API does not know. -/
theorem asks_seeds_notFound {n c : Value} (hn : n.isGiven = true) (hc : c.isGiven = true)
    (hn' : n.isShowable = true) (hc' : c.isShowable = true)
    (h : client.racksOn net n.toText c.toText = .ok none) :
    Asks (seeds client net n c) [] [client.request (client.resourceUrl n.toText c.toText)]
      (.error (.noSuchCluster (n.toText ++ "." ++ c.toText))) := by
  rw [seeds_given hn hc hn' hc']
  exact (asks_existingRacks_none h).bind_error _

/-! ### The order of the faults -/

/-- A result that is a fault of a family. -/
def FailsWith {α : Type} (family : Fault.Family) (result : Except Fault α) : Prop :=
  ∃ f, result = .error f ∧ f.family = family

theorem failsWith_error_iff {α : Type} {family : Fault.Family} :
    FailsWith family (.error f : Except Fault α) ↔ f.family = family := by
  simp [FailsWith]

/-- The request of a search for a cluster. -/
def searchRequest (client : Client) (n c : Json) : Request :=
  client.request (client.resourceUrl n.toValue.toText c.toValue.toText)

/-- What a search for a cluster that is given makes of the answer to its one
request. -/
structure HeedsAnswer (client : Client) (net : Network) (n c : Json) (x : Session)
    (result : Except Fault (List Address)) (y : Session) : Prop where
  requests : y.requests = x.requests ++ [searchRequest client n c]
  /-- Whether the node knows its domain does not matter. -/
  notFound : ∀ reason body, net.answer (searchRequest client n c) = .response 404 reason body →
    result = .error (.noSuchCluster (n.toValue.toText ++ "." ++ c.toValue.toText)) ∧
      FailsWith .notFound result
  /-- That there are no racks is found out behind the domain. -/
  noRacks : ∀ status reason body resource,
    net.answer (searchRequest client n c) = .response status reason body →
    status ≠ 404 → ¬ (400 ≤ status ∧ status < 600) → Json.read body.toList = .ok resource →
    Topology.ofResource resource = .ok [] →
      (FailsWith .configuration result ↔ ∃ domain, net.clusterDomain = .ok domain) ∧
        ∀ f, net.clusterDomain = .error f → result = .error f

/-- How a search for a cluster fails: what it did by then, and which fault
comes first. -/
structure FailsInOrder (client : Client) (net : Network) (n c : Json) (x : Session)
    (result : Except Fault (List Address)) (y : Session) : Prop where
  /-- Every fault that is worded comes before a host is looked up. -/
  lookups : ∀ f, result = .error f → f.isReported = true ∨ f.family = .request →
    y.lookups = x.lookups
  /-- The fault of a host is never that of the search. -/
  hosts : ∀ f, result = .error f → f.family ≠ .hostResolution
  requests : y.requests = x.requests ↔ n.isGiven = false ∨ c.isGiven = false
  missing : n.isGiven = false ∨ c.isGiven = false → FailsWith .configuration result
  noNamespace : n.isGiven = false → result = .error (.missingParameter "namespace")
  noCluster : n.isGiven = true → c.isGiven = false →
    result = .error (.missingParameter "clusterName")
  given : n.isGiven = true → c.isGiven = true → HeedsAnswer client net n c x result y

theorem Run.Ends.lookups {hosts : List String} {requests : List Request}
    {result : Except Fault (List Address)} {x y : Session} (h : Ends hosts result)
    (hafter : x.After hosts requests y) (f : Fault) (hf : result = .error f)
    (hworded : f.isReported = true ∨ f.family = .request) : y.lookups = x.lookups := by
  rw [hafter.lookups, h.first f hf (Fault.worded_iff.mp hworded), List.append_nil]

theorem failsInOrder_of_missing {name : String} {x y : Session}
    (hmissing : n.isGiven = false ∨ c.isGiven = false)
    (hasks : Asks (seeds client net n.toValue c.toValue) [] [] (.error (.missingParameter name)))
    (hafter : x.After [] [] y) :
    FailsInOrder client net n c x (.error (.missingParameter name)) y where
  lookups := (Ends.early Fault.Family.noConfusion).lookups hafter
  hosts := (Ends.early Fault.Family.noConfusion).family
  requests := iff_of_true (hafter.requests.trans (List.append_nil _)) hmissing
  missing := fun _ => ⟨_, rfl, rfl⟩
  noNamespace := fun hn => hasks.unique (asks_seeds_noNamespace (n.isGiven_toValue.trans hn))
  noCluster := fun hn hc => hasks.unique
    (asks_seeds_noCluster (n.isGiven_toValue.trans hn) (c.isGiven_toValue.trans hc))
  given := fun hn hc => by simp [hn, hc] at hmissing

theorem heedsAnswer {hosts : List String} {result : Except Fault (List Address)} {x y : Session}
    (hn : n.isGiven = true) (hc : c.isGiven = true) (hn' : n.IsShowable) (hc' : c.IsShowable)
    (hasks : Asks (seeds client net n.toValue c.toValue) hosts [searchRequest client n c] result)
    (hafter : x.After hosts [searchRequest client n c] y) :
    HeedsAnswer client net n c x result y := by
  rw [← Json.isGiven_toValue] at hn hc
  refine ⟨hafter.requests, fun reason body hanswer => ?_,
    fun status reason body resource hanswer hfound hstatus hbody hracks => ?_⟩
  · have hresult := hasks.unique
      (asks_seeds_notFound hn hc hn' hc' (racksOn_of_notFound hanswer))
    exact ⟨hresult, _, hresult, rfl⟩
  · have hracks' := racksOn_of_passing hanswer hfound hstatus hbody hracks
    obtain ⟨f, hplanned, hfamily, hdomain⟩ :=
      exists_asks_plannedSeeds_noRacks net n.toValue.toText c.toValue.toText
    obtain rfl := hasks.unique (asks_seeds hn hc hn' hc' hracks' hplanned)
    exact ⟨failsWith_error_iff.trans hfamily, fun g hg => congrArg Except.error (hdomain g hg)⟩

theorem failsInOrder_of_given {hosts : List String} {result : Except Fault (List Address)}
    {x y : Session} (hn : n.isGiven = true) (hc : c.isGiven = true) (hends : Ends hosts result)
    (hafter : x.After hosts [searchRequest client n c] y)
    (hgiven : HeedsAnswer client net n c x result y) :
    FailsInOrder client net n c x result y where
  lookups := hends.lookups hafter
  hosts := hends.family
  requests := by
    rw [hafter.requests, hn, hc]
    simp
  missing := by simp [hn, hc]
  noNamespace := by simp [hn]
  noCluster := by simp [hc]
  given := fun _ _ => hgiven

/-- A search for a cluster of any namespace and name that come from documents
fails before it looks up a host, or breaks off.  It makes one request, unless
the namespace or the name is not given, which is found out first, and in this
order.  A cluster that does not exist is found out next, then a node that does
not know its domain, then a cluster without racks. -/
theorem seeds_failsInOrder {namespaceText clusterText : List Char}
    (hn : Json.read namespaceText = .ok n) (hc : Json.read clusterText = .ok c)
    (client : Client) (net : Network) (x : Session) :
    ∃ result y, (seeds client net n.toValue c.toValue).perform x = (result, y) ∧
      FailsInOrder client net n c x result y := by
  have hn' := Json.isShowable_of_read hn
  have hc' := Json.isShowable_of_read hc
  cases hgn : n.isGiven with
  | false =>
    have hasks := @asks_seeds_noNamespace client net _ c.toValue (n.isGiven_toValue.trans hgn)
    obtain ⟨y, hy, hafter⟩ := hasks x
    exact ⟨_, y, hy, failsInOrder_of_missing (.inl hgn) hasks hafter⟩
  | true =>
    have hvn := n.isGiven_toValue.trans hgn
    cases hgc : c.isGiven with
    | false =>
      have hasks := @asks_seeds_noCluster client net _ _ hvn (c.isGiven_toValue.trans hgc)
      obtain ⟨y, hy, hafter⟩ := hasks x
      exact ⟨_, y, hy, failsInOrder_of_missing (.inr hgc) hasks hafter⟩
    | true =>
      obtain ⟨hosts, result, hasks, hends⟩ :=
        @exists_asks_seeds client net _ _ hvn (c.isGiven_toValue.trans hgc) hn' hc'
      obtain ⟨y, hy, hafter⟩ := hasks x
      exact ⟨result, y, hy, failsInOrder_of_given hgn hgc hends hafter
        (heedsAnswer hgn hgc hn' hc' hasks hafter)⟩

/-- A node that does not know itself.  The API knows one cluster of the
namespace, without racks. -/
def strandedNetwork : Network where
  addresses _ := .error ⟨.hostUnknown, "no such host"⟩
  own := .error ⟨.hostUnknown, "no such host"⟩
  answer request :=
    if request = searchRequest sampleClient (.text "ns") (.text "empty") then
      .response 200 "OK" "\x7b\x7d"
    else .response 404 "Not Found" ""

/-- In that network the fault of the domain comes behind that of a cluster
that does not exist, and before that of a cluster without racks. -/
theorem seeds_failsInOrder_sample :
    ∃ x y : Session,
      (seeds sampleClient strandedNetwork (.text "ns") (.text "c")).perform
        (Session.start ⟨[], []⟩) = (.error (.noSuchCluster "ns.c"), x) ∧ x.lookups = [] ∧
      (seeds sampleClient strandedNetwork (.text "ns") (.text "empty")).perform x =
        (.error .ownNameUnknown, y) ∧ y.lookups = [] ∧ y.requests.length = 2 := by
  have hn : Json.read "\"ns\"".toList = .ok (.text "ns") := rfl
  have hc : Json.read "\"c\"".toList = .ok (.text "c") := rfl
  have hempty : Json.read "\"empty\"".toList = .ok (.text "empty") := rfl
  obtain ⟨result, x, hx, hfails⟩ :=
    seeds_failsInOrder hn hc sampleClient strandedNetwork (Session.start ⟨[], []⟩)
  obtain ⟨result', y, hy, hfails'⟩ := seeds_failsInOrder hn hempty sampleClient strandedNetwork x
  have hgiven := hfails.given (by decide) (by decide)
  have hgiven' := hfails'.given (by decide) (by decide)
  obtain ⟨rfl, -⟩ := hgiven.notFound "Not Found" "" (by decide +kernel)
  obtain rfl := (hgiven'.noRacks 200 "OK" "\x7b\x7d" (.object []) (by decide +kernel) (by decide)
    (by decide) rfl rfl).2 .ownNameUnknown rfl
  have hlookups := hfails.lookups _ rfl (.inl rfl)
  refine ⟨x, y, hx, hlookups, hy, (hfails'.lookups _ rfl (.inl rfl)).trans hlookups, ?_⟩
  rw [hgiven'.requests, hgiven.requests]
  rfl

end NodeBootstrap

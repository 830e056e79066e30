/-
NodeBootstrap/Proofs/Seeds/Discovery.lean

A search for seeds, from the request to the addresses.  Each part of it only
asks: `asks_topology` makes one request, `asks_plannedSeeds` looks up one host
for each planned pod, and a host that is silent is left out.  Together: however
many of the hosts fail, a search goes through as long as the API has racks and
the node knows its domain (`seeds_of_topology`).
-/
import NodeBootstrap.Proofs.Result
import NodeBootstrap.Proofs.Seeds.Network
import NodeBootstrap.Proofs.Seeds.Plan
import NodeBootstrap.Proofs.Session.Inquiry
import NodeBootstrap.Seeds.Discovery

namespace NodeBootstrap

open NodeBootstrap.Run

variable {client : Client} {net : Network} {clusterNamespace cluster domain host : String}
variable {hosts : List String} {racks : List Rack} {found : List Address}

/-! ### Addresses -/

theorem asks_seedAddress_silent (h : net.Silent host) :
    Asks (seedAddress net host) [host] [] (.ok none) := by
  obtain ⟨reason, hreason⟩ := Network.resolve_of_silent h
  rw [seedAddress, hreason]
  exact (Asks.noteLookup host).bind ((Asks.note _ _).bind (Asks.pure none))

theorem asks_seedAddress_answers {a : Address} (h : net.Answers host a) :
    Asks (seedAddress net host) [host] [] (.ok (some a)) := by
  rw [seedAddress, Network.resolve_of_answers h]
  exact (Asks.noteLookup host).bind (Asks.pure (some a))

/-- Every host is looked up once, and those that answer are found. -/
theorem asks_seedAddresses (h : net.Finds hosts found) :
    Asks (seedAddresses net hosts) hosts [] (.ok found) := by
  induction h with
  | nil => exact Asks.pure []
  | leave hs _ ih =>
    rw [seedAddresses]
    exact (asks_seedAddress_silent hs).bind (ih.bind_quiet (Asks.pure _))
  | take ha _ ih =>
    rw [seedAddresses]
    exact (asks_seedAddress_answers ha).bind (ih.bind_quiet (Asks.pure _))

/-! ### Racks -/

/-- What the API says of the racks of a cluster. -/
def Client.racksOn (c : Client) (net : Network) (clusterNamespace cluster : String) :
    Except Fault (Option (List Rack)) :=
  racksIn (c.resourceUrl clusterNamespace cluster)
    (net.answer (c.request (c.resourceUrl clusterNamespace cluster)))

/-- Asking for racks is one request. -/
theorem asks_topology (client : Client) (net : Network) (clusterNamespace cluster : String) :
    Asks (client.topology net clusterNamespace cluster) []
      [client.request (client.resourceUrl clusterNamespace cluster)]
      (client.racksOn net clusterNamespace cluster) := by
  rw [Client.topology]
  refine (Asks.note _ _).bind ((Asks.noteRequest _).bind_quiet ?_)
  rw [← Client.racksOn]
  rcases client.racksOn net clusterNamespace cluster with f | - | racks
  · exact (Asks.ofExcept _).bind_error _
  · exact (Asks.ofExcept _).bind ((Asks.note _ _).bind (Asks.pure none))
  · exact (Asks.ofExcept _).bind (Asks.pure (some racks))

theorem asks_topology_of {result : Except Fault (Option (List Rack))}
    (h : client.racksOn net clusterNamespace cluster = result) :
    Asks (client.topology net clusterNamespace cluster) []
      [client.request (client.resourceUrl clusterNamespace cluster)] result := by
  rw [← h]
  exact asks_topology client net clusterNamespace cluster

theorem asks_existingRacks (h : client.racksOn net clusterNamespace cluster = .ok (some racks)) :
    Asks (existingRacks client net clusterNamespace cluster) []
      [client.request (client.resourceUrl clusterNamespace cluster)] (.ok racks) :=
  (asks_topology_of h).bind_quiet (Asks.pure racks)

/-! ### The search -/

/-- Without a domain no host is looked up. -/
theorem asks_plannedSeeds_error {f : Fault} (h : net.clusterDomain = .error f) :
    Asks (plannedSeeds net clusterNamespace cluster racks) [] [] (.error f) := by
  rw [plannedSeeds, h]
  exact (Asks.ofExcept _).bind_error _

/-- The host of a planned pod. -/
def plannedHosts (plan : SeedPlan) (clusterNamespace cluster domain : String) : List String :=
  plan.podNames.map fun pod => podHost pod cluster clusterNamespace domain

theorem asks_plannedSeeds {plan : SeedPlan} (hdomain : net.clusterDomain = .ok domain)
    (hplan : SeedPlan.ofRacks cluster racks = .ok plan)
    (h : net.Finds (plannedHosts plan clusterNamespace cluster domain) found) :
    Asks (plannedSeeds net clusterNamespace cluster racks)
      (plannedHosts plan clusterNamespace cluster domain) [] (.ok found) := by
  rw [plannedSeeds, hdomain, hplan]
  refine (Asks.ofExcept _).bind ((Asks.ofExcept _).bind ((Asks.note _ _).bind ?_))
  exact (asks_seedAddresses h).bind_quiet ((Asks.note _ _).bind (Asks.pure found))

/-- A search for a cluster that is given asks for its racks first. -/
theorem seeds_given {n c : Value} (hn : n.isGiven = true) (hc : c.isGiven = true)
    (hn' : n.isShowable = true) (hc' : c.isShowable = true) :
    seeds client net n c =
      existingRacks client net n.toText c.toText >>= plannedSeeds net n.toText c.toText := by
  rw [seeds, demand, demand, parameterText, parameterText, if_pos hn, if_pos hc, if_pos hn',
    if_pos hc']
  rfl

/-- With racks, a search for a cluster that is given is one request and what
the racks lead to. -/
theorem asks_seeds {n c : Value} {result : Except Fault (List Address)}
    (hn : n.isGiven = true) (hc : c.isGiven = true) (hn' : n.isShowable = true)
    (hc' : c.isShowable = true) (hracks : client.racksOn net n.toText c.toText = .ok (some racks))
    (h : Asks (plannedSeeds net n.toText c.toText racks) hosts [] result) :
    Asks (seeds client net n c) hosts [client.request (client.resourceUrl n.toText c.toText)]
      result := by
  rw [seeds_given hn hc hn' hc']
  exact (asks_existingRacks hracks).bind h

theorem isGiven_text {s : String} (h : s ≠ "") : (Value.text s).isGiven = true := by
  simpa [Value.isGiven] using h

/-- What an answer says that is taken for a resource. -/
theorem racksOn_of_passing {status : Nat} {reason body : String} {resource : Json}
    (hanswer : net.answer (client.request (client.resourceUrl clusterNamespace cluster)) =
      .response status reason body)
    (hfound : status ≠ 404) (hstatus : ¬ (400 ≤ status ∧ status < 600))
    (hbody : Json.read body.toList = .ok resource)
    (hracks : Topology.ofResource resource = .ok racks) :
    client.racksOn net clusterNamespace cluster = .ok (some racks) := by
  rw [Client.racksOn, hanswer, Client.racksIn, if_neg hfound, if_neg hstatus, Client.racksOf, hbody]
  dsimp only
  rw [hracks]
  rfl

/-- What an answer without an error says. -/
theorem racksOn_of_answer {status : Nat} {reason body : String} {resource : Json}
    (hanswer : net.answer (client.request (client.resourceUrl clusterNamespace cluster)) =
      .response status reason body)
    (hstatus : status < 400) (hbody : Json.read body.toList = .ok resource)
    (hracks : Topology.ofResource resource = .ok racks) :
    client.racksOn net clusterNamespace cluster = .ok (some racks) :=
  racksOn_of_passing hanswer (by omega) (by omega) hbody hracks

/-- What an answer says that knows no such resource. -/
theorem racksOn_of_notFound {reason body : String}
    (hanswer : net.answer (client.request (client.resourceUrl clusterNamespace cluster)) =
      .response 404 reason body) :
    client.racksOn net clusterNamespace cluster = .ok none := by
  rw [Client.racksOn, hanswer, Client.racksIn, if_pos rfl]

/-- With racks on the API and a domain in the node's own name, a search goes
through whatever becomes of the hosts: they are looked up once for each index
of the plan, in its order, and those that answer are what it finds. -/
theorem seeds_of_topology {status : Nat} {reason body : String} {resource : Json} {own : HostEntry}
    (hn : clusterNamespace ≠ "") (hc : cluster ≠ "")
    (hanswer : net.answer (client.request (client.resourceUrl clusterNamespace cluster)) =
      .response status reason body)
    (hstatus : status < 400) (hbody : Json.read body.toList = .ok resource)
    (hracks : Topology.ofResource resource = .ok racks) (hne : racks ≠ [])
    (hown : net.own = .ok own) (hmark : serviceMark.toList <:+: own.canonicalName.toList)
    (hgives : net.GivesAddresses) (x : Session) :
    ∃ (domain : String) (plan : SeedPlan) (pods hosts : List String) (found : List Address)
        (y : Session),
      IsDomainOf own.canonicalName domain ∧ SeedPlan.ofRacks cluster racks = .ok plan ∧
      pods.map some = (List.range plan.size).map (fun index : Nat => plan.podName? index) ∧
      hosts = pods.map (fun pod =>
        pod ++ "." ++ cluster ++ "." ++ clusterNamespace ++ ".svc." ++ domain) ∧
      (seeds client net (.text clusterNamespace) (.text cluster)).perform x = (.ok found, y) ∧
      y.requests = x.requests ++ [client.request (client.resourceUrl clusterNamespace cluster)] ∧
      y.lookups = x.lookups ++ hosts ∧ net.Finds hosts found ∧ y.tree = x.tree := by
  obtain ⟨domain, hdomain, hcluster⟩ := Network.exists_clusterDomain hown hmark
  obtain ⟨plan, hplan⟩ := SeedPlan.exists_ofRacks cluster hne
  obtain ⟨found, hfound⟩ := hgives.exists_finds (plannedHosts plan clusterNamespace cluster domain)
  have hon := racksOn_of_answer hanswer hstatus hbody hracks
  obtain ⟨y, hy, hafter⟩ := asks_seeds (isGiven_text hn) (isGiven_text hc) rfl rfl hon
    (asks_plannedSeeds hcluster hplan hfound) x
  exact ⟨domain, plan, plan.podNames, plannedHosts plan clusterNamespace cluster domain, found, y,
    hdomain, hplan, SeedPlan.map_some_podNames hplan, rfl, hy, hafter.requests, hafter.lookups,
    hfound, hafter.tree⟩

/-! ### A network with a host missing -/

def sampleBody : String :=
  "\x7b\"spec\": \x7b\"racks\": [\x7b\"name\": \"a\"\x7d, \x7b\"name\": \"b\"\x7d]\x7d\x7d"

/-- Two racks.  The first pod's host is not known; the other has an IPv4
address behind one of IPv6 with a zone. -/
def sampleNetwork (own : Except LookupFailure HostEntry) : Network where
  addresses host :=
    if host = "c-a-0.c.ns.svc.cluster.local" then .error ⟨.hostUnknown, "no such host"⟩
    else .ok [⟨false, "fe80::1%eth0"⟩, ⟨true, "10.0.0.2"⟩]
  own
  answer _ := .response 200 "OK" sampleBody

def sampleClient : Client := ⟨"https://kubernetes.default.svc:443", .system, none⟩

theorem exists_read_sampleBody : ∃ resource, Json.read sampleBody.toList = .ok resource ∧
    Topology.ofResource resource = .ok [⟨"a", 0⟩, ⟨"b", 0⟩] := by
  have h : ((Json.read sampleBody.toList).toOption.bind fun resource =>
      (Topology.ofResource resource).toOption) = some [⟨"a", 0⟩, ⟨"b", 0⟩] := by decide +kernel
  obtain ⟨resource, hread, hracks⟩ := Option.bind_eq_some_iff.mp h
  exact ⟨resource, eq_ok_of_toOption hread, eq_ok_of_toOption hracks⟩

theorem givesAddresses_sampleNetwork (own : Except LookupFailure HostEntry) :
    (sampleNetwork own).GivesAddresses := by
  intro host entries h e he
  simp only [sampleNetwork] at h
  split at h
  · cases h
  · obtain rfl := Except.ok.inj h
    simp only [List.mem_cons, List.not_mem_nil, or_false] at he
    rcases he with rfl | rfl
    · exact ⟨.v6 [0xfe80, 0, 0, 0, 0, 0, 0, 1], AddressEntry.writes_of_address? (by decide +kernel)⟩
    · exact ⟨.v4 [10, 0, 0, 2], AddressEntry.writes_of_address? (by decide +kernel)⟩

/-- The node's own name in that network. -/
def sampleHost : HostEntry := ⟨"p.c.ns.svc.cluster.local", []⟩

theorem isDomainOf_sampleHost : IsDomainOf sampleHost.canonicalName "cluster.local" :=
  domainOf?_eq_some_iff.mp (by decide +kernel)

theorem seeds_of_topology_sample :
    ∃ y : Session,
      (seeds sampleClient (sampleNetwork (.ok sampleHost)) (.text "ns") (.text "c")).perform
        (Session.start ⟨[], []⟩) = (.ok [.v4 [10, 0, 0, 2]], y) ∧
      y.lookups = ["c-a-0.c.ns.svc.cluster.local", "c-b-0.c.ns.svc.cluster.local"] := by
  have hmark : serviceMark.toList <:+: sampleHost.canonicalName.toList :=
    ⟨"p.c.ns".toList, "cluster.local".toList, by decide +kernel⟩
  obtain ⟨resource, hbody, hracks⟩ := exists_read_sampleBody
  obtain ⟨domain, plan, pods, hosts, found, y, hdomain, hplan, hpods, hhosts, hy, -, hlookups,
    hfound, -⟩ := seeds_of_topology (by decide) (by decide)
      (show (sampleNetwork (.ok sampleHost)).answer (sampleClient.request
        (sampleClient.resourceUrl "ns" "c")) = .response 200 "OK" sampleBody from rfl)
      (by decide) hbody hracks (List.cons_ne_nil _ _) rfl hmark
      (givesAddresses_sampleNetwork _) (Session.start ⟨[], []⟩)
  obtain rfl : domain = "cluster.local" := by
    have h := domainOf?_eq_some_iff.mpr hdomain
    rw [domainOf?_eq_some_iff.mpr isDomainOf_sampleHost] at h
    exact (Option.some.inj h).symm
  obtain rfl := Except.ok.inj hplan
  obtain rfl : pods = ["c-a-0", "c-b-0"] :=
    (List.map_inj_right fun _ _ => Option.some.inj).mp (hpods.trans (by decide +kernel))
  obtain rfl : hosts = ["c-a-0.c.ns.svc.cluster.local", "c-b-0.c.ns.svc.cluster.local"] :=
    hhosts.trans (by decide +kernel)
  have hfirst : (sampleNetwork (.ok sampleHost)).Silent "c-a-0.c.ns.svc.cluster.local" :=
    .inl ⟨_, rfl⟩
  have hentries : (sampleNetwork (.ok sampleHost)).addresses "c-b-0.c.ns.svc.cluster.local" =
      .ok ([⟨false, "fe80::1%eth0"⟩] ++ ⟨true, "10.0.0.2"⟩ :: []) := by
    simp [sampleNetwork]
  have hsecond : (sampleNetwork (.ok sampleHost)).Answers "c-b-0.c.ns.svc.cluster.local"
      (.v4 [10, 0, 0, 2]) :=
    .v4 hentries (by simp) rfl (AddressEntry.writes_of_address? (by decide +kernel))
  obtain rfl := hfound.unique (.leave hfirst (.take hsecond .nil))
  exact ⟨y, hy, hlookups⟩

end NodeBootstrap

/-
NodeBootstrap/Proofs/Command/Search.lean

How a search for seeds ends once the racks of its cluster are known.  From
there on only names are looked up.  A host that is silent is left out, so it is
the look-up of the node's own name that decides: without a domain the search
stops at the fault of that look-up, and a program words it unless the name
cannot be written (`Program.run_search_iff`).
-/
import NodeBootstrap.Proofs.Command.Program
import NodeBootstrap.Proofs.Seeds.Discovery
import NodeBootstrap.Proofs.Seeds.Parameters

namespace NodeBootstrap

open NodeBootstrap.Run

variable {client : Client} {net : Network} {clusterNamespace cluster : String} {racks : List Rack}
variable {around : Surroundings} {w : Wanted} {x : Session} {f : Fault}

/-- The look-up of the own name goes through, or it fails in a way that has
words. -/
def Network.OwnLookupIsWorded (net : Network) : Prop :=
  ∀ failure, net.own = .error failure → failure.kind ≠ .unwritableName

/-! ### The domain -/

theorem Network.isReported_of_clusterDomain (hown : net.OwnLookupIsWorded)
    (h : net.clusterDomain = .error f) : f.isReported = true := by
  rcases e : net.own with failure | own
  · rw [clusterDomain_eq_ownNameUnknown e (hown failure e)] at h
    exact Except.error.inj h ▸ rfl
  · rw [clusterDomain, ownName, e] at h
    dsimp only [Except.map] at h
    split at h
    · cases h
    · exact Except.error.inj h ▸ rfl

/-! ### The search -/

theorem seeds_eq_ok (hn : clusterNamespace ≠ "") (hc : cluster ≠ "")
    (hon : client.racksOn net clusterNamespace cluster = .ok (some racks)) (hne : racks ≠ [])
    (hgives : net.GivesAddresses) {domain : String} (hdomain : net.clusterDomain = .ok domain)
    (x : Session) :
    ∃ found,
      ((seeds client net (.text clusterNamespace) (.text cluster)).perform x).1 = .ok found := by
  obtain ⟨plan, hplan⟩ := SeedPlan.exists_ofRacks cluster hne
  obtain ⟨found, hfound⟩ := hgives.exists_finds (plannedHosts plan clusterNamespace cluster domain)
  obtain ⟨y, hy, -⟩ := asks_seeds (isGiven_text hn) (isGiven_text hc) rfl rfl hon
    (asks_plannedSeeds hdomain hplan hfound) x
  exact ⟨found, by rw [hy]⟩

theorem seeds_eq_error (hn : clusterNamespace ≠ "") (hc : cluster ≠ "")
    (hon : client.racksOn net clusterNamespace cluster = .ok (some racks))
    (hdomain : net.clusterDomain = .error f) (x : Session) :
    ((seeds client net (.text clusterNamespace) (.text cluster)).perform x).1 = .error f := by
  obtain ⟨y, hy, -⟩ := asks_seeds (isGiven_text hn) (isGiven_text hc) rfl rfl hon
    (asks_plannedSeeds_error hdomain) x
  rw [hy]

theorem racksOn_of_topology
    (h : ((client.topology net clusterNamespace cluster).perform x).1 = .ok (some racks)) :
    client.racksOn net clusterNamespace cluster = .ok (some racks) := by
  obtain ⟨y, hy, -⟩ := asks_topology client net clusterNamespace cluster x
  rw [hy] at h
  exact h

/-- Whatever becomes of the hosts, a search fails with a reported fault only. -/
theorem isReported_of_seeds (hn : clusterNamespace ≠ "") (hc : cluster ≠ "")
    (hon : client.racksOn net clusterNamespace cluster = .ok (some racks)) (hne : racks ≠ [])
    (hgives : net.GivesAddresses) (hown : net.OwnLookupIsWorded)
    (h : ((seeds client net (.text clusterNamespace) (.text cluster)).perform x).1 = .error f) :
    f.isReported = true := by
  rcases hdomain : net.clusterDomain with g | domain
  · rw [seeds_eq_error hn hc hon hdomain x] at h
    exact Except.error.inj h ▸ Network.isReported_of_clusterDomain hown hdomain
  · obtain ⟨found, hfound⟩ := seeds_eq_ok hn hc hon hne hgives hdomain x
    rw [hfound] at h
    cases h

/-! ### Programs -/

theorem Wanted.perform_parameters (w : Wanted) (x : Session) : (w.parameters.perform x).2 = x := by
  rw [parameters]
  split
  · rfl
  · rw [perform_bind, perform_loadParameters]
    rcases (x.tree.readLines w.databaseFile.text).bind (Parameters.ofLines w.databaseFile.text)
      with f | found <;> rfl

/-- A search in a pod is one for what was told or read, by the pod's client. -/
theorem perform_discover {n c : Value} (hparameters : (w.parameters.perform x).1 = .ok (n, c))
    (hclient : Client.inCluster x.tree around.account around.environment = .ok client) :
    (discover around w).perform x = (seeds client around.network n c).perform x := by
  have hw : w.parameters.perform x = (.ok (n, c), x) := Prod.ext hparameters (w.perform_parameters x)
  rw [discover, perform_bind, hw]
  dsimp only
  rw [perform_bind, perform_tree]
  dsimp only
  rw [perform_bind, perform_ofExcept, hclient]

namespace Program

variable {p : Program} {args : List String} {tree : Tree}

/-- A program whose job is a search ends as the search does. -/
theorem ending_run_find {n c : Value} (hjob : p.jobOf around.environment args = .ok (.find w))
    (hparameters : (w.parameters.perform (Session.start tree)).1 = .ok (n, c))
    (hclient : Client.inCluster tree around.account around.environment = .ok client) :
    (p.run around args tree).ending =
      p.endingOf ((seeds client around.network n c).perform (Session.start tree)).1 := by
  rw [run, hjob]
  dsimp only
  obtain ⟨hending, -⟩ := p.runJob_spec around (.find w) (Session.start tree)
  rw [hending, carryOut, find, perform_bind, perform_discover hparameters hclient]
  rcases (seeds client around.network n c).perform (Session.start tree) with ⟨f | found, y⟩ <;> rfl

theorem words_of_isReported (p : Program) (h : f.isReported = true) : p.words f = true := by
  rw [words, h, Bool.true_or]

theorem words_ownLookup (p : Program) (failure : LookupFailure) :
    p.words (.ownLookup failure) = false := by
  cases p <;> rfl

/-- With racks on the API and addresses from the resolver, a search gives
seeds or a reported fault, and a program ends by itself or with status 1, just
if the look-up of the node's own name goes through or fails in a way that has
words.  Such a failure is reported as one of the domain. -/
theorem run_search_iff (hn : clusterNamespace ≠ "") (hc : cluster ≠ "")
    (hracks : ((client.topology around.network clusterNamespace cluster).perform x).1 =
      .ok (some racks)) (hne : racks ≠ []) (hgives : around.network.GivesAddresses)
    (hjob : p.jobOf around.environment args = .ok (.find w))
    (hparameters : (w.parameters.perform (Session.start tree)).1 =
      .ok (.text clusterNamespace, .text cluster))
    (hclient : Client.inCluster tree around.account around.environment = .ok client) :
    ((∀ f, ((seeds client around.network (.text clusterNamespace) (.text cluster)).perform x).1 =
        .error f → f.isReported = true) ↔ around.network.OwnLookupIsWorded) ∧
      ((p.run around args tree).ending = .finished ∨ (p.run around args tree).ending = .stopped 1 ↔
        around.network.OwnLookupIsWorded) ∧
      ∀ failure, around.network.own = .error failure → failure.kind ≠ .unwritableName →
        ((seeds client around.network (.text clusterNamespace) (.text cluster)).perform x).1 =
            .error .ownNameUnknown ∧
          (p.run around args tree).ending = .stopped 1 := by
  have hon := racksOn_of_topology hracks
  have hending := ending_run_find hjob hparameters hclient
  -- how the look-up of the own name can fail, for any session
  have hunwritable : ∀ {failure}, around.network.own = .error failure →
      failure.kind = .unwritableName → ∀ y,
        ((seeds client around.network (.text clusterNamespace) (.text cluster)).perform y).1 =
          .error (.ownLookup failure) := fun hown hkind =>
    seeds_eq_error hn hc hon (Network.clusterDomain_eq_ownLookup hown hkind)
  have hunknown : ∀ {failure}, around.network.own = .error failure →
      failure.kind ≠ .unwritableName → ∀ y,
        ((seeds client around.network (.text clusterNamespace) (.text cluster)).perform y).1 =
          .error .ownNameUnknown := fun hown hkind =>
    seeds_eq_error hn hc hon (Network.clusterDomain_eq_ownNameUnknown hown hkind)
  refine ⟨⟨fun h failure hown hkind => ?_,
    fun hown f hf => isReported_of_seeds hn hc hon hne hgives hown hf⟩,
    ⟨fun h failure hown hkind => ?_, fun hown => ?_⟩,
    fun failure hown hkind => ⟨hunknown hown hkind x, ?_⟩⟩
  · cases h _ (hunwritable hown hkind x)
  · rw [hending, hunwritable hown hkind, endingOf, words_ownLookup, if_neg Bool.false_ne_true] at h
    rcases h with h | h <;> cases h
  · rcases hresult : ((seeds client around.network (.text clusterNamespace)
      (.text cluster)).perform (Session.start tree)).1 with f | found
    · right
      have hf := isReported_of_seeds hn hc hon hne hgives hown hresult
      rw [hending, hresult, endingOf, words_of_isReported p hf, if_pos rfl]
    · left
      rw [hending, hresult, endingOf]
  · rw [hending, hunknown hown hkind, endingOf, words_of_isReported p rfl, if_pos rfl]

/-! ### A pod without a service account -/

def sampleArgs : List String := ["--namespace", "ns", "--cluster-name", "c"]

def sampleWanted : Wanted := ⟨some "ns", some "c", Path.ofText Wanted.defaultDatabaseFile⟩

def sampleAround (own : Except LookupFailure HostEntry) : Surroundings where
  environment := ⟨[]⟩
  network := sampleNetwork own
  account := Path.ofText Surroundings.defaultAccount

theorem serverAddress_nil :
    Client.serverAddress ⟨[]⟩ = .ok "https://kubernetes.default.svc:443" := by
  have hread : (Environment.mk []).read Client.hostVariable (some Client.defaultHost) =
      some Client.defaultHost := rfl
  have hhost : Client.serverHost ⟨[]⟩ = .ok Client.defaultHost := by
    rw [Client.serverHost, hread]
    exact congrArg Except.ok (if_neg (by decide))
  have htext : "https://" ++ Client.defaultHost ++ ":" ++ Client.defaultPort =
      "https://kubernetes.default.svc:443" := by decide
  rw [Client.serverAddress, hhost, ← htext]
  rfl

variable (own : Except LookupFailure HostEntry)

theorem inCluster_sampleAround : Client.inCluster ⟨[], []⟩ (sampleAround own).account
    (sampleAround own).environment = .ok sampleClient := by
  have htoken : Client.accountToken ⟨[], []⟩ (sampleAround own).account = .ok none := rfl
  have htrust : Client.accountTrust ⟨[], []⟩ (sampleAround own).account = .ok .system := rfl
  have hmake : Client.make "https://kubernetes.default.svc:443" none .system = sampleClient := by
    decide +kernel
  rw [Client.inCluster, htoken, htrust]
  dsimp only [sampleAround]
  rw [serverAddress_nil]
  exact congrArg Except.ok hmake

theorem jobOf_sampleArgs :
    discovery.jobOf (sampleAround own).environment sampleArgs = .ok (.find sampleWanted) := by
  have hread : Options.readAll findOptions sampleArgs =
      .ok ⟨[(namespaceOption, "ns"), (clusterOption, "c")], false⟩ :=
    eq_ok_of_toOption (by decide +kernel)
  rw [jobOf, hread]
  rfl

theorem parameters_sampleWanted : (sampleWanted.parameters.perform (Session.start ⟨[], []⟩)).1 =
    .ok (.text "ns", .text "c") := rfl

theorem topology_sampleAround :
    ((sampleClient.topology (sampleAround own).network "ns" "c").perform
      (Session.start ⟨[], []⟩)).1 = .ok (some [⟨"a", 0⟩, ⟨"b", 0⟩]) := by
  have hanswer : (sampleAround own).network.answer (sampleClient.request
      (sampleClient.resourceUrl "ns" "c")) = .response 200 "OK" sampleBody := rfl
  obtain ⟨resource, hbody, hracks⟩ := exists_read_sampleBody
  obtain ⟨y, hy, -⟩ := asks_topology sampleClient (sampleAround own).network "ns" "c"
    (Session.start ⟨[], []⟩)
  rw [hy, racksOn_of_answer hanswer (by decide) hbody hracks]

theorem run_search_iff_sample :
    (discovery.run (sampleAround (.error ⟨.hostUnknown, "no such host"⟩)) sampleArgs
      ⟨[], []⟩).ending = .stopped 1 := by
  obtain ⟨-, -, hreported⟩ := run_search_iff (by decide) (by decide)
    (topology_sampleAround (.error ⟨.hostUnknown, "no such host"⟩)) (List.cons_ne_nil _ _)
    (givesAddresses_sampleNetwork _) (jobOf_sampleArgs _) parameters_sampleWanted
    (inCluster_sampleAround _)
  exact (hreported _ rfl (by decide)).2

/-- A node whose own name cannot be written as a host name: the fault has no
words, and the program breaks off. -/
theorem run_search_unwritable :
    let around := sampleAround (.error ⟨.unwritableName, "label empty or too long"⟩)
    let fault := Fault.ownLookup ⟨.unwritableName, "label empty or too long"⟩
    ((sampleClient.topology around.network "ns" "c").perform (Session.start ⟨[], []⟩)).1 =
        .ok (some [⟨"a", 0⟩, ⟨"b", 0⟩]) ∧ around.network.GivesAddresses ∧
      ((seeds sampleClient around.network (.text "ns") (.text "c")).perform
        (Session.start ⟨[], []⟩)).1 = .error fault ∧ fault.isReported = false ∧
      (discovery.run around sampleArgs ⟨[], []⟩).ending = .broke fault := by
  intro around fault
  have htopology := topology_sampleAround around.network.own
  have hseeds : ((seeds sampleClient around.network (.text "ns") (.text "c")).perform
      (Session.start ⟨[], []⟩)).1 = .error fault :=
    seeds_eq_error (by decide) (by decide) (racksOn_of_topology htopology)
      (Network.clusterDomain_eq_ownLookup rfl rfl) _
  refine ⟨htopology, givesAddresses_sampleNetwork _, hseeds, rfl, ?_⟩
  rw [ending_run_find (jobOf_sampleArgs _) parameters_sampleWanted (inCluster_sampleAround _), hseeds]
  rfl

end Program

end NodeBootstrap

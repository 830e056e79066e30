/-
NodeBootstrap/Proofs/Seeds/Domain.lean

The domain that a node reads off its own name, and the names that are built
with it.

A node whose name has a mark of services in it knows its domain, and one whose
name has none does not (`clusterDomain_eq_ok_iff`, `clusterDomain_unmarked`).
A domain holds no mark, not even the rest of one that overlaps, so whatever is
put before it, the mark in front of it stays the last one: every node that has
a name of the kind that seeds are looked up by knows the same domain
(`clusterDomain_agrees`).
-/
import NodeBootstrap.Proofs.Seeds.Discovery

namespace NodeBootstrap

/-! ### Full names -/

/-- The name of a host in full: the first of its names that has a dot in it,
or its name if none has. -/
inductive HostEntry.IsFullName (h : HostEntry) : String → Prop
  | dotted {before after : List String} {name : String} :
      h.name :: h.aliases = before ++ name :: after → (∀ n ∈ before, '.' ∉ n.toList) →
        '.' ∈ name.toList → IsFullName h name
  | plain : (∀ n ∈ h.name :: h.aliases, '.' ∉ n.toList) → IsFullName h h.name

variable {own : HostEntry} {name domain : String}

theorem HostEntry.isFullName_canonicalName (h : HostEntry) : h.IsFullName h.canonicalName := by
  rw [canonicalName]
  rcases hfind : (h.name :: h.aliases).find? fun n => n.toList.contains '.' with - | name
  · rw [hfind, Option.getD_none]
    refine .plain fun n hn => ?_
    simpa using List.find?_eq_none.mp hfind n hn
  · rw [hfind, Option.getD_some]
    obtain ⟨hdot, before, after, hnames, hbefore⟩ := List.find?_eq_some_iff_append.mp hfind
    exact .dotted hnames (fun n hn => by simpa using hbefore n hn) (by simpa using hdot)

/-- A host has one name in full. -/
theorem HostEntry.isFullName_iff : own.IsFullName name ↔ name = own.canonicalName := by
  refine ⟨fun h => ?_, fun h => h ▸ own.isFullName_canonicalName⟩
  rw [canonicalName]
  cases h with
  | @dotted before after _ hnames hbefore hdot =>
    have hfind : (before ++ name :: after).find? (fun n => n.toList.contains '.') = some name :=
      List.find?_eq_some_iff_append.mpr
        ⟨by simpa using hdot, before, after, rfl, fun n hn => by simpa using hbefore n hn⟩
    rw [hnames, hfind, Option.getD_some]
  | plain hnone =>
    have hfind : (own.name :: own.aliases).find? (fun n => n.toList.contains '.') = none :=
      List.find?_eq_none.mpr fun n hn => by simpa using hnone n hn
    rw [hfind, Option.getD_none]

/-! ### The domain of a node -/

namespace Network

variable {net : Network}

theorem clusterDomain_eq_ok_iff (hown : net.own = .ok own) :
    net.clusterDomain = .ok domain ↔ IsDomainOf own.canonicalName domain := by
  rw [← domainOf?_eq_some_iff, clusterDomain, ownName, hown]
  dsimp only [Except.map]
  rcases domainOf? own.canonicalName with - | found <;> simp

/-- A name without a mark is reported. -/
theorem clusterDomain_unmarked (hown : net.own = .ok own)
    (hmark : ¬ serviceMark.toList <:+: own.canonicalName.toList) :
    net.clusterDomain = .error (.notAServiceName own.canonicalName) := by
  rw [clusterDomain, ownName, hown]
  dsimp only [Except.map]
  rw [domainOf?_eq_none_iff.mpr hmark]

end Network

/-- A domain is that of every host of a service whose name ends in it. -/
theorem isDomainOf_podHost (h : IsDomainOf name domain) (pod cluster clusterNamespace : String) :
    IsDomainOf (podHost pod cluster clusterNamespace domain) domain :=
  ⟨⟨pod ++ "." ++ cluster ++ "." ++ clusterNamespace, rfl⟩, h.last, h.apart⟩

/-- A node that knows its own name in full knows its domain just if that name
has a mark of services in it; its domain is what stands behind the last one.
The names that are built with a domain have the same one, whatever pod,
cluster and namespace they are built of. -/
theorem clusterDomain_agrees {net : Network} (hown : net.own = .ok own) :
    ∃ name, (∀ n, own.IsFullName n ↔ n = name) ∧
      ((∃ f, net.clusterDomain = .error f ∧ f.family = .domainLookup) ↔
        ¬ ".svc.".toList <:+: name.toList) ∧
      (".svc.".toList <:+: name.toList → ∃ domain, net.clusterDomain = .ok domain) ∧
      ∀ domain, (net.clusterDomain = .ok domain ↔
          (∃ before, name = before ++ ".svc." ++ domain) ∧
            ¬ ".svc.".toList <:+: domain.toList ∧ ¬ "svc.".toList <+: domain.toList) ∧
        (net.clusterDomain = .ok domain →
          ∀ (pod cluster clusterNamespace : String) (other : Network) (node : HostEntry),
            other.own = .ok node → node.IsFullName (podHost pod cluster clusterNamespace domain) →
              other.clusterDomain = .ok domain) := by
  have hok : ∀ domain, net.clusterDomain = .ok domain ↔ IsDomainOf own.canonicalName domain :=
    fun domain => Network.clusterDomain_eq_ok_iff hown
  refine ⟨own.canonicalName, fun n => HostEntry.isFullName_iff, ⟨?_, fun hmark => ?_⟩,
    fun hmark => ?_, fun domain => ⟨(hok domain).trans ?_, fun hdomain => ?_⟩⟩
  · -- with a mark there is a domain, and no fault
    rintro ⟨f, hf, -⟩ hmark
    obtain ⟨domain, -, hdomain⟩ := Network.exists_clusterDomain hown hmark
    cases hf.symm.trans hdomain
  · exact ⟨_, Network.clusterDomain_unmarked hown hmark, rfl⟩
  · obtain ⟨domain, -, hdomain⟩ := Network.exists_clusterDomain hown hmark
    exact ⟨domain, hdomain⟩
  · exact ⟨fun h => ⟨h.behind, h.last, h.apart⟩, fun h => ⟨h.1, h.2.1, h.2.2⟩⟩
  · intro pod cluster clusterNamespace other node hnode hname
    rw [Network.clusterDomain_eq_ok_iff hnode, ← HostEntry.isFullName_iff.mp hname]
    exact isDomainOf_podHost ((hok domain).mp hdomain) pod cluster clusterNamespace

/-- Marks that overlap in the own name, and marks in the cluster and in the
namespace of another node. -/
theorem clusterDomain_agrees_sample :
    (sampleNetwork (.ok ⟨"p", ["p.svc.svc.local", "q.svc.other"]⟩)).clusterDomain = .ok "local" ∧
      (sampleNetwork (.ok ⟨"p.c.svc..svc.ns.svc.local", []⟩)).clusterDomain = .ok "local" := by
  obtain ⟨name, hname, -, -, hdomain⟩ := clusterDomain_agrees
    (show (sampleNetwork (.ok ⟨"p", ["p.svc.svc.local", "q.svc.other"]⟩)).own = .ok _ from rfl)
  obtain ⟨hiff, hother⟩ := hdomain "local"
  have hfull : name = "p.svc.svc.local" := by
    refine ((hname "p.svc.svc.local").mp ?_).symm
    exact HostEntry.isFullName_iff.mpr (by decide +kernel)
  have hown : (sampleNetwork (.ok ⟨"p", ["p.svc.svc.local", "q.svc.other"]⟩)).clusterDomain =
      .ok "local" :=
    hiff.mpr ⟨⟨"p.svc", by rw [hfull]; decide⟩, by decide +kernel, by decide +kernel⟩
  refine ⟨hown, hother hown "p" "c.svc." "svc.ns" _ _ rfl ?_⟩
  exact HostEntry.isFullName_iff.mpr (by decide +kernel)

end NodeBootstrap

/-
NodeBootstrap/Proofs/Seeds/Network.lean

What the resolver's answers come to.  A host either answers with an address or
is silent: its look-up fails, or there is nothing for it (`Network.Answers`,
`Network.Silent`).  Of the hosts in a list, those that answer give the
addresses found, in the order of the list (`Network.Finds`).

The domain of a cluster stands behind the last mark of services in the node's
own name (`IsDomainOf`).  Whether there is one depends on the own look-up
alone; of the ways in which that can fail, one is not worded for an operator
(`clusterDomain_eq_ownLookup`).
-/
import NodeBootstrap.Proofs.Text.Split
import NodeBootstrap.Seeds.Network

namespace NodeBootstrap

/-! ### Entries -/

namespace AddressEntry

/-- The text of an entry is an address, or an address with a zone behind it. -/
def Writes (e : AddressEntry) (a : Address) : Prop :=
  ∃ text, Address.ofText? text = some a ∧ '%' ∉ text.toList ∧
    (e.text = text ∨ ∃ zone, e.text = text ++ "%" ++ zone)

variable {e : AddressEntry} {a : Address} {entries : List AddressEntry}

/-- An entry's address is the part of its text before the zone. -/
theorem address?_of_writes (h : e.Writes a) : e.address? = some a := by
  obtain ⟨text, htext, hno, heq⟩ := h
  have hall : ∀ c ∈ text.toList, (c != '%') = true := by
    intro c hc
    simpa using fun hm : c = '%' => hno (hm ▸ hc)
  have hcut : e.text.toList.takeWhile (· != '%') = text.toList := by
    rcases heq with heq | ⟨zone, heq⟩
    · rw [heq, ← List.append_nil text.toList, List.takeWhile_append_of_pos hall]
      rfl
    · rw [heq, String.toList_append, String.toList_append, List.append_assoc,
        List.takeWhile_append_of_pos hall]
      exact List.append_nil _
  rw [address?, hcut, String.ofList_toList, htext]

theorem writes_of_address? (h : e.address? = some a) : e.Writes a := by
  have hcut : e.text.toList.takeWhile (· != '%') ++ e.text.toList.dropWhile (· != '%') =
      e.text.toList := List.takeWhile_append_dropWhile
  have hall : ∀ c ∈ e.text.toList.takeWhile (· != '%'), (c != '%') = true :=
    List.all_eq_true.mp List.all_takeWhile
  have hhead := List.head?_dropWhile_not (· != '%') e.text.toList
  rw [address?] at h
  generalize e.text.toList.takeWhile (· != '%') = text at h hcut hall
  refine ⟨String.ofList text, h, ?_, ?_⟩
  · rw [String.toList_ofList]
    exact fun hm => absurd (hall '%' hm) (by decide)
  · rcases hd : e.text.toList.dropWhile (· != '%') with - | ⟨c, zone⟩
    · left
      rw [hd, List.append_nil] at hcut
      rw [hcut, String.ofList_toList]
    · -- what is left starts with the first mark
      right
      rw [hd] at hhead hcut
      obtain rfl : c = '%' := by simpa using hhead
      refine ⟨String.ofList zone, String.toList_inj.mp ?_⟩
      rw [← hcut]
      simp

end AddressEntry

/-! ### Hosts -/

namespace Network

/-- What a host answers with: the address of its first IPv4 entry, or of its
first entry if it has none of IPv4. -/
inductive Answers (net : Network) (host : String) (a : Address) : Prop
  | v4 {before after : List AddressEntry} {e : AddressEntry} :
      net.addresses host = .ok (before ++ e :: after) → (∀ f ∈ before, f.isV4 = false) →
        e.isV4 = true → e.Writes a → Answers net host a
  | other {after : List AddressEntry} {e : AddressEntry} :
      net.addresses host = .ok (e :: after) → (∀ f ∈ e :: after, f.isV4 = false) →
        e.Writes a → Answers net host a

/-- A host whose look-up fails or comes to nothing. -/
def Silent (net : Network) (host : String) : Prop :=
  (∃ failure, net.addresses host = .error failure) ∨ net.addresses host = .ok []

/-- The addresses of those hosts of a list that answer, in its order. -/
inductive Finds (net : Network) : List String → List Address → Prop
  | nil : Finds net [] []
  | leave {host : String} {hosts : List String} {found : List Address} :
      net.Silent host → Finds net hosts found → Finds net (host :: hosts) found
  | take {host : String} {hosts : List String} {a : Address} {found : List Address} :
      net.Answers host a → Finds net hosts found → Finds net (host :: hosts) (a :: found)

/-- A resolver that gives nothing but addresses. -/
def GivesAddresses (net : Network) : Prop :=
  ∀ host entries, net.addresses host = .ok entries → ∀ e ∈ entries, ∃ a, e.Writes a

variable {net : Network} {host : String} {hosts : List String} {a : Address}

theorem resolve_of_answers (h : net.Answers host a) : net.resolve host = .ok a := by
  rw [resolve]
  cases h with
  | @v4 before after e hentries hbefore he hw =>
    have hfind : (before ++ e :: after).find? (·.isV4) = some e := by
      rw [List.find?_eq_some_iff_append]
      exact ⟨he, before, after, rfl, fun f hf => by rw [hbefore f hf]; rfl⟩
    rw [hentries]
    dsimp only
    rw [AddressEntry.preferred?, hfind, Option.some_or]
    dsimp only
    rw [AddressEntry.address?_of_writes hw]
  | @other after e hentries hnone hw =>
    have hfind : (e :: after).find? (·.isV4) = none := by
      rw [List.find?_eq_none]
      intro f hf
      rw [hnone f hf]
      exact Bool.false_ne_true
    rw [hentries]
    dsimp only
    rw [AddressEntry.preferred?, hfind, Option.none_or, List.head?_cons]
    dsimp only
    rw [AddressEntry.address?_of_writes hw]

theorem resolve_of_silent (h : net.Silent host) :
    ∃ reason, net.resolve host = .error (.unresolved host reason) := by
  rw [resolve]
  rcases h with ⟨failure, h⟩ | h
  · exact ⟨failure.words, by rw [h]⟩
  · exact ⟨"no addresses", by rw [h]; rfl⟩

theorem Answers.not_silent (h : net.Answers host a) : ¬ net.Silent host := by
  intro hs
  obtain ⟨reason, hreason⟩ := resolve_of_silent hs
  cases (resolve_of_answers h).symm.trans hreason

theorem Answers.unique {b : Address} (h : net.Answers host a) (k : net.Answers host b) : a = b :=
  Except.ok.inj ((resolve_of_answers h).symm.trans (resolve_of_answers k))

/-- There is only one way to answer for the hosts of a list. -/
theorem Finds.unique {found other : List Address} (h : net.Finds hosts found)
    (k : net.Finds hosts other) : found = other := by
  induction h generalizing other with
  | nil => cases k; rfl
  | leave hs _ ih =>
    cases k with
    | leave _ hfound => exact ih hfound
    | take ha _ => exact absurd hs ha.not_silent
  | take ha _ ih =>
    cases k with
    | leave hs _ => exact absurd hs ha.not_silent
    | take hb hfound => rw [ha.unique hb, ih hfound]

/-- Every host is silent or answers. -/
theorem GivesAddresses.silent_or_answers (h : net.GivesAddresses) (host : String) :
    net.Silent host ∨ ∃ a, net.Answers host a := by
  rcases hentries : net.addresses host with failure | entries
  · exact .inl (.inl ⟨failure, hentries⟩)
  have hwrites := h host entries hentries
  rcases hfind : entries.find? (·.isV4) with - | e
  · have hnone : ∀ f ∈ entries, f.isV4 = false := by
      intro f hf
      simpa using List.find?_eq_none.mp hfind f hf
    cases entries with
    | nil => exact .inl (.inr hentries)
    | cons e after =>
      obtain ⟨a, ha⟩ := hwrites e List.mem_cons_self
      exact .inr ⟨a, .other hentries hnone ha⟩
  · obtain ⟨he, before, after, rfl, hbefore⟩ := List.find?_eq_some_iff_append.mp hfind
    obtain ⟨a, ha⟩ := hwrites e (List.mem_append_right _ List.mem_cons_self)
    exact .inr ⟨a, .v4 hentries (fun f hf => by simpa using hbefore f hf) he ha⟩

theorem GivesAddresses.exists_finds (h : net.GivesAddresses) (hosts : List String) :
    ∃ found, net.Finds hosts found := by
  induction hosts with
  | nil => exact ⟨[], .nil⟩
  | cons host hosts ih =>
    obtain ⟨found, hfound⟩ := ih
    rcases h.silent_or_answers host with hs | ⟨a, ha⟩
    · exact ⟨found, .leave hs hfound⟩
    · exact ⟨a :: found, .take ha hfound⟩

end Network

/-! ### The cluster's domain -/

/-- What stands behind the last mark of services in a name.  Two marks may
share a dot, so what stands behind the last one does not start with the rest
of another. -/
structure IsDomainOf (name domain : String) : Prop where
  behind : ∃ before, name = before ++ serviceMark ++ domain
  last : ¬ serviceMark.toList <:+: domain.toList
  apart : ¬ "svc.".toList <+: domain.toList

variable {name domain : String}

theorem serviceMark_ne_nil : serviceMark.toList ≠ [] := by decide

theorem domainOf?_eq_none_iff : domainOf? name = none ↔ ¬ serviceMark.toList <:+: name.toList := by
  rw [domainOf?, Option.map_eq_none_iff, Split.behindLast?_eq_none_iff serviceMark_ne_nil]

/-- The mark does not occur from its second character on. -/
theorem not_infix_tail_iff (cs : List Char) :
    ¬ serviceMark.toList <:+: serviceMark.toList.tail ++ cs ↔
      ¬ serviceMark.toList <:+: cs ∧ ¬ "svc.".toList <+: cs := by
  show ¬ ['.', 's', 'v', 'c', '.'] <:+: 's' :: 'v' :: 'c' :: '.' :: cs ↔
    ¬ ['.', 's', 'v', 'c', '.'] <:+: cs ∧ ¬ ['s', 'v', 'c', '.'] <+: cs
  simp only [List.infix_cons_iff, List.cons_prefix_cons]
  simp [not_or, and_comm]

theorem domainOf?_eq_some_iff : domainOf? name = some domain ↔ IsDomainOf name domain := by
  have hsome : domainOf? name = some domain ↔
      Split.behindLast? serviceMark.toList name.toList = some domain.toList := by
    rw [domainOf?, Option.map_eq_some_iff]
    constructor
    · rintro ⟨cs, h, rfl⟩
      rw [h, String.toList_ofList]
    · exact fun h => ⟨domain.toList, h, String.ofList_toList⟩
  have hbehind : (∃ before, name.toList = before ++ serviceMark.toList ++ domain.toList) ↔
      ∃ before, name = before ++ serviceMark ++ domain := by
    constructor
    · rintro ⟨before, h⟩
      refine ⟨String.ofList before, String.toList_inj.mp ?_⟩
      rw [h, String.toList_append, String.toList_append, String.toList_ofList]
    · rintro ⟨before, rfl⟩
      exact ⟨before.toList, by rw [String.toList_append, String.toList_append]⟩
  rw [hsome, Split.behindLast?_eq_some_iff serviceMark_ne_nil, hbehind, not_infix_tail_iff]
  exact ⟨fun h => ⟨h.1, h.2.1, h.2.2⟩, fun h => ⟨h.behind, h.last, h.apart⟩⟩

example : domainOf? "p.svc.svc.local" = some "local" := by decide +kernel

namespace Network

variable {net : Network} {own : HostEntry} {failure : LookupFailure}

/-- A name with a mark has a domain. -/
theorem exists_clusterDomain (hown : net.own = .ok own)
    (hmark : serviceMark.toList <:+: own.canonicalName.toList) :
    ∃ domain, IsDomainOf own.canonicalName domain ∧ net.clusterDomain = .ok domain := by
  rcases hd : domainOf? own.canonicalName with - | domain
  · exact absurd hmark (domainOf?_eq_none_iff.mp hd)
  · refine ⟨domain, domainOf?_eq_some_iff.mp hd, ?_⟩
    rw [clusterDomain, ownName, hown]
    dsimp only [Except.map]
    rw [hd]

/-- A look-up of the own name that fails is worded, unless the name cannot be
written. -/
theorem clusterDomain_eq_ownNameUnknown (hown : net.own = .error failure)
    (hkind : failure.kind ≠ .unwritableName) : net.clusterDomain = .error .ownNameUnknown := by
  rw [clusterDomain, ownName, hown]
  dsimp only [Except.map]
  cases hk : failure.kind with
  | unwritableName => exact absurd hk hkind
  | addressUnknown | hostUnknown | system => rfl

theorem clusterDomain_eq_ownLookup (hown : net.own = .error failure)
    (hkind : failure.kind = .unwritableName) : net.clusterDomain = .error (.ownLookup failure) := by
  rw [clusterDomain, ownName, hown]
  dsimp only [Except.map]
  rw [hkind]

end Network

end NodeBootstrap

/-
NodeBootstrap/Seeds/Network.lean

The network as a node sees it: what the resolver says about names, and what
the API answers.  A seed is looked up by its name in the cluster's service;
the domain that all such names end in is read off the node's own name.
-/
import NodeBootstrap.Seeds.Address
import NodeBootstrap.Session

namespace NodeBootstrap

/-- An address as the resolver gives it: its family and its text, which may
end in a zone. -/
structure AddressEntry where
  isV4 : Bool
  text : String
  deriving DecidableEq, Repr

/-- What the resolver knows of a host: its name and other names. -/
structure HostEntry where
  name : String
  aliases : List String
  deriving DecidableEq, Repr

/-- What comes back for a request. -/
inductive Answer where
  | unreachable (reason : String)
  | response (status : Nat) (reason body : String)
  deriving DecidableEq, Repr

structure Network where
  /-- The addresses of a host, in the resolver's order. -/
  addresses : String → Except LookupFailure (List AddressEntry)
  /-- The node itself. -/
  own : Except LookupFailure HostEntry
  answer : Request → Answer

/-! ### Addresses -/

namespace AddressEntry

/-- The entry that counts: the first of IPv4, else the first. -/
def preferred? (entries : List AddressEntry) : Option AddressEntry :=
  (entries.find? (·.isV4)).or entries.head?

/-- The address, without its zone. -/
def address? (e : AddressEntry) : Option Address :=
  Address.ofText? (String.ofList (e.text.toList.takeWhile (· != '%')))

end AddressEntry

namespace Network

/-- The address of a host. -/
def resolve (net : Network) (host : String) : Except Fault Address :=
  match net.addresses host with
  | .error failure => .error (.unresolved host failure.words)
  | .ok entries =>
    match AddressEntry.preferred? entries with
    | none => .error (.unresolved host "no addresses")
    | some entry =>
      match entry.address? with
      | some address => .ok address
      | none => .error (.broken .badValue)

end Network

/-! ### The cluster's domain -/

/-- The name of a host in full: the first of its names with a dot, else its
name. -/
def HostEntry.canonicalName (h : HostEntry) : String :=
  ((h.name :: h.aliases).find? fun name => name.toList.contains '.').getD h.name

/-- What stands between the names of services and their domain. -/
def serviceMark : String := ".svc."

/-- The domain in the name of a service's host. -/
def domainOf? (name : String) : Option String :=
  (Split.behindLast? serviceMark.toList name.toList).map String.ofList

namespace Network

/-- The node's own name in full. -/
def ownName (net : Network) : Except LookupFailure String := net.own.map HostEntry.canonicalName

/-- The domain of the cluster. -/
def clusterDomain (net : Network) : Except Fault String :=
  match net.ownName with
  | .error failure =>
    match failure.kind with
    | .unwritableName => .error (.ownLookup failure)
    | .addressUnknown | .hostUnknown | .system => .error .ownNameUnknown
  | .ok name =>
    match domainOf? name with
    | some domain => .ok domain
    | none => .error (.notAServiceName name)

end Network

end NodeBootstrap

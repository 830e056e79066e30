/-
NodeBootstrap/Seeds/Discovery.lean

Finding the seeds of a cluster: the racks from the API, a plan of the pods,
and the address of each pod by its name.  A pod without an address is left
out; any other fault ends the search.
-/
import NodeBootstrap.Seeds.Client
import NodeBootstrap.Seeds.Parameters
import NodeBootstrap.Seeds.Plan

namespace NodeBootstrap

/-- The name of a pod of a cluster's service. -/
def podHost (pod cluster clusterNamespace domain : String) : String :=
  pod ++ "." ++ cluster ++ "." ++ clusterNamespace ++ serviceMark ++ domain

/-- The address of a seed, if it has one. -/
def seedAddress (net : Network) (host : String) : Run (Option Address) := do
  Run.noteLookup host
  match net.resolve host with
  | .ok address => return some address
  | .error (.unresolved ..) =>
    Run.note .warn ("Не удалось получить IP пода по имени " ++ host ++ ", пропускаю")
    return none
  | .error fault => throw fault

/-- The addresses of the seeds that have one, in their order. -/
def seedAddresses (net : Network) : List String → Run (List Address)
  | [] => return []
  | host :: rest => do
    let address ← seedAddress net host
    let addresses ← seedAddresses net rest
    return address.toList ++ addresses

/-- The racks of a cluster that exists. -/
def existingRacks (client : Client) (net : Network) (clusterNamespace cluster : String) :
    Run (List Rack) := do
  match ← client.topology net clusterNamespace cluster with
  | some racks => return racks
  | none => throw (.noSuchCluster (clusterNamespace ++ "." ++ cluster))

/-- Stops at a parameter that is not given. -/
def demand (name : String) (v : Value) : Run Unit :=
  if v.isGiven then return () else throw (.missingParameter name)

/-- A parameter as text. -/
def parameterText (v : Value) : Run String :=
  if v.isShowable then return v.toText else throw (.broken .badValue)

/-- The addresses of the seeds of a cluster with these racks. -/
def plannedSeeds (net : Network) (clusterNamespace cluster : String) (racks : List Rack) :
    Run (List Address) := do
  let domain ← Run.ofExcept net.clusterDomain
  let plan ← Run.ofExcept (SeedPlan.ofRacks cluster racks)
  let planned := Numeral.ofInt plan.size
  Run.note .info
    ("Кластер " ++ clusterNamespace ++ "." ++ cluster ++ ": стратегия " ++ plan.strategy.text
      ++ ", seed-узлов " ++ planned)
  let hosts := plan.podNames.map fun pod => podHost pod cluster clusterNamespace domain
  let addresses ← seedAddresses net hosts
  Run.note (if addresses = [] then .warn else .ok)
    ("Найдено seed-узлов: " ++ Numeral.ofInt addresses.length ++ " из " ++ planned)
  return addresses

/-- The addresses of a cluster's seeds. -/
def seeds (client : Client) (net : Network) (namespaceValue clusterValue : Value) :
    Run (List Address) := do
  demand "namespace" namespaceValue
  demand "clusterName" clusterValue
  let clusterNamespace ← parameterText namespaceValue
  let cluster ← parameterText clusterValue
  let racks ← existingRacks client net clusterNamespace cluster
  plannedSeeds net clusterNamespace cluster racks

/-! ### Discovery -/

/-- What a search may be told of the cluster; what it is not told is read from
the database's configuration. -/
structure Wanted where
  clusterNamespace : Option String
  cluster : Option String
  databaseFile : Path

namespace Wanted

def defaultDatabaseFile : String := "/etc/cassandra/cassandra.yaml"

/-- What a search was told, if that is not empty. -/
def told (given : Option String) : Option Value := (given.filter (· != "")).map .text

/-- The namespace and the name of the cluster to search. -/
def parameters (w : Wanted) : Run (Value × Value) :=
  match told w.clusterNamespace, told w.cluster with
  | some clusterNamespace, some cluster => return (clusterNamespace, cluster)
  | clusterNamespace, cluster => do
    let found ← loadParameters w.databaseFile.text
    return (clusterNamespace.getD ((found.value? "namespace").getD .null),
      cluster.getD ((found.value? "clusterName").getD .null))

end Wanted

/-- What surrounds a run in a pod. -/
structure Surroundings where
  environment : Environment
  network : Network
  /-- Where the pod's service account is. -/
  account : Path

namespace Surroundings

def defaultAccount : String := "/var/run/secrets/kubernetes.io/serviceaccount"

end Surroundings

/-- The addresses of the seeds of the cluster that is wanted. -/
def discover (around : Surroundings) (w : Wanted) : Run (List Address) := do
  let (clusterNamespace, cluster) ← w.parameters
  let client ← Run.ofExcept (Client.inCluster (← Run.tree) around.account around.environment)
  seeds client around.network clusterNamespace cluster

end NodeBootstrap

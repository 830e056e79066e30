/-
NodeBootstrap/Seeds/Plan.lean

Which pods of a cluster are its seeds.  With one rack they are its first pods:
half of the replicas, three at most and one at least.  With more racks they
are the first pod of each.
-/
import NodeBootstrap.Seeds.Topology

namespace NodeBootstrap

inductive Strategy where
  | singleRack
  | multiRack
  deriving DecidableEq, Repr

def Strategy.text : Strategy → String
  | singleRack => "single-rack"
  | multiRack => "multi-rack"

structure SeedPlan where
  strategy : Strategy
  /-- How many seeds there are. -/
  size : Nat
  cluster : String
  racks : List Rack
  deriving DecidableEq, Repr

namespace SeedPlan

/-- The most seeds in a single rack. -/
def maxSingleRack : Int := 3

/-- How many seeds a single rack has. -/
def singleRackSize (replicas : Int) : Nat :=
  (max (min (Int.fdiv replicas 2) maxSingleRack) 1).toNat

/-- The plan for the racks of a cluster. -/
def ofRacks (cluster : String) : List Rack → Except Fault SeedPlan
  | [] => .error (.noRacks cluster)
  | [rack] => .ok ⟨.singleRack, singleRackSize rack.replicas, cluster, [rack]⟩
  | racks => .ok ⟨.multiRack, racks.length, cluster, racks⟩

/-- The name of a pod by its number in a rack. -/
def podOf (cluster : String) (rack : Rack) (number : Int) : String :=
  cluster ++ "-" ++ rack.name ++ "-" ++ Numeral.ofInt number

/-- The rack at an index; negative ones count from the end. -/
def rackAt? (p : SeedPlan) (index : Int) : Option Rack :=
  if 0 ≤ index then p.racks[index.toNat]?
  else if -(p.racks.length : Int) ≤ index then p.racks[(p.racks.length + index).toNat]?
  else none

/-- The name of the seed at an index.  A single rack has a name for any; with
more there must be a rack at it. -/
def podName? (p : SeedPlan) (index : Int) : Option String :=
  match p.strategy with
  | .singleRack => (p.rackAt? 0).map fun rack => podOf p.cluster rack index
  | .multiRack => (p.rackAt? index).map fun rack => podOf p.cluster rack 0

/-- The names of all seeds. -/
def podNames (p : SeedPlan) : List String :=
  (List.range p.size).filterMap fun index : Nat => p.podName? index

end SeedPlan

end NodeBootstrap

/-
NodeBootstrap/Environment.lean

The variables that a node is told about itself through.  A variable may be
present without a value; for a mandatory one that is as bad as being absent.
-/
import NodeBootstrap.Fault

namespace NodeBootstrap

structure Environment where
  /-- Names and values; of a repeated name the first entry counts. -/
  entries : List (String × Option String)

namespace Environment

/-! ### The variables in use -/

def clusterNamespace : String := "CLUSTER_NAMESPACE"
def clusterName : String := "CLUSTER_NAME"
def currentRack : String := "CLUSTER_CURRENT_RACK"
def dataCenter : String := "CLUSTER_DATA_CENTER"
def listenAddress : String := "NODE_LISTEN_ADDRESS"
def memoryBytes : String := "POD_MEMORY_BYTES"
def cpuMillicores : String := "POD_CPU_MILLICORES"
def useDefaultSeedProvider : String := "CLUSTER_USE_DEFAULT_SEED_PROVIDER"

/-! ### Reading -/

/-- The value of a variable; the default is for one that is absent. -/
def read (env : Environment) (name : String) (default : Option String) : Option String :=
  (env.entries.lookup name).getD default

/-- The value of a variable that a run cannot do without. -/
def mandatory (env : Environment) (name : String) : Except Fault String :=
  match env.read name none with
  | some value => .ok value
  | none => .error (.undefinedVariable name)

/-- The value of a mandatory variable that is an integer. -/
def mandatoryInt (env : Environment) (name : String) : Except Fault Int :=
  match env.mandatory name with
  | .error fault => .error fault
  | .ok value =>
    match Numeral.ofText value with
    | .ok n => .ok n
    | .error _ => .error (.notAnInteger name value)

/-- Whether a text says "true", in any case and with blanks around it. -/
def saysTrue (value : String) : Bool :=
  (Blank.trim Blank.isBlank value.toList).map Char.toLower == "true".toList

/-- A variable that switches something on. -/
def flag (env : Environment) (name : String) : Bool :=
  (env.read name (some "false")).any saysTrue

end Environment

end NodeBootstrap

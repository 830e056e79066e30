/-
NodeBootstrap/Config/Pipeline.lean

Preparing the configuration of a node before its database starts, in five
steps: the seed provider's section, the properties of the cluster, the agents,
the memory, and the rack descriptor.  The first fault ends the preparation;
what the steps before it wrote stays.
-/
import NodeBootstrap.Config.Agent
import NodeBootstrap.Config.Memory
import NodeBootstrap.Config.Property
import NodeBootstrap.Config.RackDescriptor
import NodeBootstrap.Config.SeedSection
import NodeBootstrap.Environment

namespace NodeBootstrap

/-- What a preparation is given: where the files to edit are, where the node
will have its settings and jars, and the node's variables. -/
structure Setup where
  staging : Path
  conf : Path
  lib : Path
  environment : Environment

namespace Setup

def defaultStaging : String := "/configuration"
def defaultConf : String := "/etc/cassandra"
def defaultLib : String := "/extra-lib"

/-- The database's configuration. -/
def databaseFile (s : Setup) : String := (s.staging.join "cassandra.yaml").text

/-- The options of its virtual machine. -/
def optionsFile (s : Setup) : String := (s.staging.join "jvm.options").text

/-- The rack descriptor. -/
def rackFile (s : Setup) : String := (s.staging.join "cassandra-rackdc.properties").text

/-- A variable that the preparation cannot do without. -/
def mandatory (s : Setup) (name : String) : Run String :=
  Run.ofExcept (s.environment.mandatory name)

def mandatoryInt (s : Setup) (name : String) : Run Int :=
  Run.ofExcept (s.environment.mandatoryInt name)

/-! ### The steps -/

def configureSeedProvider (s : Setup) : Run Unit := do
  if s.environment.flag Environment.useDefaultSeedProvider then
    Run.note .info "Используется seed provider по умолчанию, секция не меняется"
  else
    let clusterNamespace ← s.mandatory Environment.clusterNamespace
    let cluster ← s.mandatory Environment.clusterName
    let _ ← setSeedSection s.databaseFile (SeedSection.block clusterNamespace cluster)

/-- How nodes learn each other's racks. -/
def snitch : String := "GossipingPropertyFileSnitch"

def configureClusterProperties (s : Setup) : Run Unit := do
  let _ ← setProperty s.databaseFile "endpoint_snitch" snitch
  let cluster ← s.mandatory Environment.clusterName
  let _ ← setProperty s.databaseFile "cluster_name" cluster
  let address ← s.mandatory Environment.listenAddress
  let _ ← setProperty s.databaseFile "listen_address" address
  let _ ← setProperty s.databaseFile "rpc_address" address

/-- The agents of the node. -/
def agents (s : Setup) (here : Location) : List Agent :=
  Agent.all (s.lib.absolute here).text (s.conf.absolute here).text

def configureAgents (s : Setup) : Run Unit := do
  for agent in s.agents (← Run.tree).here do
    let _ ← addAgent s.optionsFile agent

def configureMemory (s : Setup) : Run Unit := do
  let lines ← Run.readLines s.optionsFile
  let memory ← s.mandatoryInt Environment.memoryBytes
  let processors ← s.mandatoryInt Environment.cpuMillicores
  let flags := Memory.missingFlags lines memory processors
  if flags = [] then
    Run.note .info ("Параметры памяти уже заданы в " ++ s.optionsFile)
  else
    Run.appendLines s.optionsFile flags
    Run.note .ok ("В " ++ s.optionsFile ++ " добавлены флаги: " ++ " ".intercalate flags)

def configureRack (s : Setup) : Run Unit := do
  let rack ← s.mandatory Environment.currentRack
  let dataCenter ← s.mandatory Environment.dataCenter
  Run.writeLines s.rackFile (RackDescriptor.lines dataCenter rack)
  Run.note .ok ("Файл " ++ s.rackFile ++ " сгенерирован из шаблона " ++ RackDescriptor.templateName
    ++ " (dc=" ++ dataCenter ++ ", rack=" ++ rack ++ ")")

/-! ### The whole -/

/-- The steps in their order, each with its title. -/
def steps : List (String × (Setup → Run Unit)) :=
  [("Настройка seed_provider", configureSeedProvider),
   ("Настройка свойств кластера", configureClusterProperties),
   ("Добавление java-агентов", configureAgents),
   ("Параметры памяти JVM", configureMemory),
   ("Генерация cassandra-rackdc.properties", configureRack)]

/-- A step with the entries before and after it. -/
def runStep (s : Setup) (title : String) (step : Setup → Run Unit) : Run Unit := do
  Run.note .step ("==> " ++ title)
  step s
  Run.note .ok ("Завершено: " ++ title)

/-- Prepares the configuration. -/
def configure (s : Setup) : Run Unit := do
  Run.note .info ("Конфигурация Cassandra в " ++ s.staging.text)
  for (title, step) in steps do
    s.runStep title step

end Setup

end NodeBootstrap

/-
NodeBootstrap/Command/Program.lean

The three programs: one that prepares the configuration of a node, one that
prints the addresses of its cluster's seeds, and one that does either by its
first argument.  A reported fault ends a program with status 1, a mistake in
its arguments with status 2; any other fault breaks it off.

What is told about the arguments themselves, the help that was asked for or the
usage after a mistake, is no part of an outcome.
-/
import NodeBootstrap.Command.Options
import NodeBootstrap.Config.Pipeline
import NodeBootstrap.Seeds.Discovery

namespace NodeBootstrap

inductive Program where
  /-- Does what its first argument says. -/
  | main
  | configure
  | discovery
  deriving DecidableEq, Repr

/-- How a program ends. -/
inductive Ending where
  | finished
  | stopped (status : Nat)
  | broke (fault : Fault)
  deriving DecidableEq, Repr

/-- What a program leaves behind. -/
structure Outcome where
  ending : Ending
  /-- What it printed as the result of its job.  The text of the help, which is
  printed in place of a job, is left out. -/
  output : String
  session : Session

/-- What a program is asked to do. -/
inductive Job where
  | prepare (setup : Setup)
  | find (wanted : Wanted)

namespace Program

/-! ### Arguments -/

def stagingOption : String := "--staging-dir"
def confOption : String := "--conf-dir"
def libOption : String := "--lib-dir"
def namespaceOption : String := "--namespace"
def clusterOption : String := "--cluster-name"
def databaseOption : String := "--cassandra-yaml"

def prepareOptions : List String := [stagingOption, confOption, libOption]
def findOptions : List String := [namespaceOption, clusterOption, databaseOption]

def prepareMode : String := "bootstrap"
def findMode : String := "seeds"

/-- A path among the options. -/
def pathOf (r : Options.Reading) (name default : String) : Path :=
  Path.ofText ((r.value? name).getD default)

def prepareJob (env : Environment) (r : Options.Reading) : Job :=
  .prepare
    { staging := pathOf r stagingOption Setup.defaultStaging
      conf := pathOf r confOption Setup.defaultConf
      lib := pathOf r libOption Setup.defaultLib
      environment := env }

def findJob (r : Options.Reading) : Job :=
  .find
    { clusterNamespace := r.value? namespaceOption
      cluster := r.value? clusterOption
      databaseFile := pathOf r databaseOption Wanted.defaultDatabaseFile }

/-- The options of a mode. -/
def modeOptions (mode : String) : Option (List String) :=
  if mode = prepareMode then some prepareOptions
  else if mode = findMode then some findOptions
  else none

/-- The job that the arguments ask for. -/
def jobOf (p : Program) (env : Environment) (args : List String) : Except Options.Stop Job :=
  match p with
  | main =>
    (Options.readMode modeOptions args).map fun (mode, r) =>
      if mode = prepareMode then prepareJob env r else findJob r
  | configure => (Options.readAll prepareOptions args).map (prepareJob env)
  | discovery => (Options.readAll findOptions args).map findJob

/-- The files that a job may look into or change, but for the one beside each
that is being written. -/
def filesOf (account : Path) : Job → List Path
  | .prepare setup =>
    [setup.databaseFile, setup.optionsFile, setup.rackFile].map Path.ofText
  | .find wanted =>
    [wanted.databaseFile, account.join Client.tokenFile, account.join Client.authorityFile]

/-! ### Running -/

/-- The first entry of a preparation, where there is one. -/
def openingWords? : Program → Option String
  | main => some "Запуск подготовки конфигурации Cassandra"
  | configure | discovery => none

/-- The last entry of a preparation. -/
def closingWords : Program → String
  | main => "Конфигурация Cassandra завершена успешно"
  | configure | discovery => "Конфигурация Cassandra завершена"

/-- Prepares the configuration; nothing is printed. -/
def prepare (p : Program) (setup : Setup) : Run String := do
  match p.openingWords? with
  | some words => Run.note .info words
  | none => pure ()
  setup.configure
  return ""

/-- Finds the seeds; their addresses are printed in one line. -/
def find (around : Surroundings) (wanted : Wanted) : Run String := do
  let addresses ← discover around wanted
  return ",".intercalate (addresses.map Address.text) ++ "\n"

/-- Carries a job out. -/
def carryOut (p : Program) (around : Surroundings) : Job → Run String
  | .prepare setup => do
    let output ← p.prepare setup
    Run.note .ok p.closingWords
    return output
  | .find wanted => find around wanted

/-- What the entry for a fault starts with. -/
def faultHead (p : Program) : Job → String
  | .prepare _ => if p = main then "Ошибка (" ++ prepareMode ++ "): " else "Ошибка конфигурации: "
  | .find _ => if p = main then "Ошибка (" ++ findMode ++ "): " else "Ошибка поиска seed-узлов: "

/-- Whether a program words faults of an API request.  One that prepares and
nothing else makes no request. -/
def wordsRequests : Program → Bool
  | configure => false
  | main | discovery => true

/-- The entry for a fault, if there is one. -/
def faultWords? (p : Program) (job : Job) (fault : Fault) : Option String :=
  if fault.isReported then some (p.faultHead job ++ fault.message)
  else if p.wordsRequests && fault.family = .request then
    some ("Ошибка обращения к API Kubernetes: " ++ fault.message)
  else none

/-- Runs a job to its end. -/
def runJob (p : Program) (around : Surroundings) (job : Job) (session : Session) : Outcome :=
  match (p.carryOut around job).perform session with
  | (.ok output, after) => ⟨.finished, output, after⟩
  | (.error fault, after) =>
    match p.faultWords? job fault with
    | some words => ⟨.stopped 1, "", ((Run.note .error words).perform after).2⟩
    | none => ⟨.broke fault, "", after⟩

/-- The status for arguments that ask for no job. -/
def stopStatus : Options.Stop → Nat
  | .help => 0
  | .misuse => 2

/-- Runs a program on its arguments.  If they ask for no job, nothing is done;
the text of the help or of the usage is left out. -/
def run (p : Program) (around : Surroundings) (args : List String) (tree : Tree) : Outcome :=
  match p.jobOf around.environment args with
  | .ok job => p.runJob around job (Session.start tree)
  | .error stop => ⟨.stopped (stopStatus stop), "", Session.start tree⟩

end Program

end NodeBootstrap

/-
NodeBootstrap/Main.lean

The command line.  The files that a job may touch are read into a tree before
the run, and what the run changed is written back after it.  The program is
chosen by the name that it is called by.

Nothing here reaches a network: every look-up and every request fails.
-/
import NodeBootstrap.Command.Program

namespace NodeBootstrap.Main

/-! ### The network -/

def offline : Network :=
  let failure : LookupFailure := ⟨.system, "no resolver"⟩
  { addresses := fun _ => .error failure
    own := .error failure
    answer := fun _ => .unreachable "no connection" }

/-! ### The environment -/

def variableNames : List String :=
  [Environment.clusterNamespace, Environment.clusterName, Environment.currentRack,
   Environment.dataCenter, Environment.listenAddress, Environment.memoryBytes,
   Environment.cpuMillicores, Environment.useDefaultSeedProvider, Client.hostVariable, Client.portVariable]

def readEnvironment : IO Environment := do
  let entries ← variableNames.filterMapM fun name => do
    return (← IO.getEnv name).map fun value => (name, some value)
  return { entries }

/-! ### Files -/

def textOf (l : Location) : String := "/" ++ "/".intercalate l

/-- The entry at a location of the disk, if it can be read. -/
def readEntry (l : Location) : IO (Option Entry) := do
  let path ← IO.FS.realPath (textOf l)
  if ← path.isDir then return some .directory
  try
    return some (.file (← IO.FS.readBinFile path))
  catch _ => return none

/-- Reads the entries on the way of a path into a tree. -/
def readAlong (tree : Tree) (p : Path) : IO Tree := do
  let mut tree := tree
  let mut l := if p.isAbsolute then [] else tree.here
  for name in p.names do
    if name = ".." then l := l.dropLast
    else
      l := l ++ [name]
      match ← readEntry l with
      | some entry => tree := tree.put l entry
      | none => pure ()
  return tree

/-- The tree of the files that a job may touch, with those beside them. -/
def readTree (account : Path) (job : Job) : IO Tree := do
  let here := (Path.ofText (← IO.currentDir).toString).names
  let mut tree : Tree := { here, entries := [] }
  tree ← readAlong tree { slashes := 1, names := here }
  for path in Program.filesOf account job do
    tree ← readAlong tree path
    match path.withSuffix? Tree.temporarySuffix with
    | some beside => tree ← readAlong tree beside
    | none => pure ()
  return tree

/-- Writes what a run changed to the disk. -/
def writeTree (before after : Tree) : IO Unit := do
  for (l, entry) in after.entries do
    if before.entryAt l ≠ some entry then
      match entry with
      | .file bytes => do
        IO.FS.writeBinFile (textOf l ++ Tree.temporarySuffix) bytes
        IO.FS.rename (textOf l ++ Tree.temporarySuffix) (textOf l)
      | .directory => IO.FS.createDirAll (textOf l)
  for (l, _) in before.entries do
    if (after.entryAt l).isNone then IO.FS.removeFile (textOf l)

/-! ### Programs -/

def programOf (name : Option String) : Program :=
  match name with
  | some "configure" => .configure
  | some "discovery" => .discovery
  | _ => .main

/-- Tells the outcome and gives the exit status. -/
def report (outcome : Outcome) : IO UInt32 := do
  IO.eprint (Journal.render outcome.session.journal)
  IO.print outcome.output
  match outcome.ending with
  | .finished => return 0
  | .stopped status => return status.toUInt32
  | .broke fault => do
    IO.eprintln fault.message
    return 1

def start (program : Program) (args : List String) : IO UInt32 := do
  let environment ← readEnvironment
  let account := Path.ofText Surroundings.defaultAccount
  match program.jobOf environment args with
  | .error stop => return (Program.stopStatus stop).toUInt32
  | .ok job => do
    let tree ← readTree account job
    let around : Surroundings := { environment, network := offline, account }
    let outcome := program.runJob around job (Session.start tree)
    writeTree tree outcome.session.tree
    report outcome

end NodeBootstrap.Main

def main (args : List String) : IO UInt32 := do
  NodeBootstrap.Main.start (NodeBootstrap.Main.programOf (← IO.appPath).fileStem) args

/-
NodeBootstrap/Config/SeedSection.lean

The section of the database's configuration that names the seed provider and
its parameters.  A section is a marker line with the lines after it, up to the
first comment, the next marker or the end of the file.

`SeedSection.replace` puts a block in the place of every section; lines
outside sections, and the comments that end sections, stay.
-/
import NodeBootstrap.Session
import NodeBootstrap.Yaml.Flow

namespace NodeBootstrap

namespace SeedSection

/-- The line that starts a section. -/
def marker : String := "seed_provider:"

/-- The class of the seed provider that a cluster asks its API with. -/
def providerClass : String := "com.sky.core.operators.cassandra.seedprovider.KubernetesSeedProvider"

def isComment (line : String) : Bool := Lines.startsWith "#" line

/-! ### Replacing -/

/-- The lines with a block in the place of every section.  `inside` tells
whether the first line follows one of a section. -/
def replaceFrom (block : List String) : Bool → List String → List String
  | _, [] => []
  | inside, line :: rest =>
    if line = marker then block ++ replaceFrom block true rest
    else if inside && !isComment line then replaceFrom block true rest
    else line :: replaceFrom block false rest

def replace (block lines : List String) : List String := replaceFrom block false lines

/-! ### The block -/

/-- The block up to its parameters, which stand in one flow mapping. -/
def blockHead : String :=
  marker ++ "\n- class_name: " ++ providerClass ++ "\n  parameters:\n  - "

/-- The column at which the parameters start. -/
def parameterColumn : Nat := 4

/-- The text of a block. -/
def blockText (clusterNamespace cluster : String) : List Char :=
  blockHead.toList
    ++ Yaml.Flow.mapping parameterColumn [("clusterName", cluster), ("namespace", clusterNamespace)]
    ++ ['\n']

/-- The block that points the seed provider at a cluster. -/
def block (clusterNamespace cluster : String) : List String :=
  Lines.ofRendered (blockText clusterNamespace cluster)

end SeedSection

/-- Replaces the seed provider's section in a file, and tells whether that
changed the file. -/
def setSeedSection (path : String) (block : List String) : Run Bool := do
  let lines ← Run.readLines path
  let replaced := SeedSection.replace block lines
  if SeedSection.marker ∉ lines then
    Run.note .warn
      ("Секция " ++ SeedSection.marker ++ " не найдена в " ++ path ++ ", файл не изменён")
    return false
  else if replaced = lines then
    Run.note .info ("seed_provider в " ++ path ++ " уже актуален")
    return false
  else
    Run.writeLines path replaced
    Run.note .ok ("seed_provider в " ++ path ++ " заменён на " ++ SeedSection.providerClass)
    return true

end NodeBootstrap

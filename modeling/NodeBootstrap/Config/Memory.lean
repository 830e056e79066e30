/-
NodeBootstrap/Config/Memory.lean

Memory of the virtual machine, from what its pod may use: half of the memory
for the heap, and for the young generation a hundred megabytes for each
processor, at least a hundred, but no more than an eighth of the memory.
Neither is ever less than one.
-/
import NodeBootstrap.Number.Numeral
import NodeBootstrap.Text.Lines

namespace NodeBootstrap.Memory

def bytesPerMegabyte : Int := 1048576

/-- The least young generation, in megabytes, unless memory is short. -/
def minYoung : Int := 100

/-- The heap, in bytes. -/
def heapBytes (memory : Int) : Int := max 1 (Int.fdiv memory 2)

/-- The young generation, in megabytes.  Processors are counted in
thousandths. -/
def youngMegabytes (processors : Int) (memory : Option Int) : Int :=
  let wanted := max (Int.fdiv processors 10) minYoung
  let allowed :=
    match memory with
    | none => wanted
    | some bytes => min wanted (Int.fdiv (Int.fdiv bytes bytesPerMegabyte) 8)
  max allowed 1

/-- The flags of the heap's greatest and first size and of the young
generation, with what each starts with. -/
def allFlags (memory processors : Int) : List (String × String) :=
  let heap := Numeral.ofInt (heapBytes memory)
  let young := Numeral.ofInt (youngMegabytes processors (some memory))
  [("-Xmx", "-Xmx" ++ heap), ("-Xms", "-Xms" ++ heap), ("-Xmn", "-Xmn" ++ young ++ "M")]

/-- The flags that the lines of a file lack. -/
def missingFlags (lines : List String) (memory processors : Int) : List String :=
  ((allFlags memory processors).filter fun flag => !lines.any (Lines.startsWith flag.1)).map (·.2)

end NodeBootstrap.Memory

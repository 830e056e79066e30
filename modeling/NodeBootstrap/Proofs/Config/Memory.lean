/-
NodeBootstrap/Proofs/Config/Memory.lean

The sizes of a node's memory, and the flags that set them.

Both sizes are bounds rounded down, so they are known by what does not exceed
them (`le_heapBytes_iff`, `le_youngMegabytes_iff`); how they compare with each
other and with the memory follows from that (`sizes_consistent`).

Whether a file lacks a flag depends on how its lines start, and not on the
sizes.  So a file that has been given its flags lacks none of them for a node
of any other size, and is left alone from then on (`configureMemory_full`).
-/
import NodeBootstrap.Proofs.Config.Agents

namespace NodeBootstrap

open NodeBootstrap.Lines

/-! ### Sizes -/

namespace Memory

variable {n d memory more processors others : Int}

/-- The young generation that processors ask for, in megabytes. -/
def wanted (processors : Int) : Int := max (Int.fdiv processors 10) minYoung

/-- An eighth of a memory, in megabytes. -/
def eighth (memory : Int) : Int := Int.fdiv (Int.fdiv memory bytesPerMegabyte) 8

theorem youngMegabytes_none : youngMegabytes processors none = max (wanted processors) 1 := rfl

theorem youngMegabytes_some :
    youngMegabytes processors (some memory) = max (min (wanted processors) (eighth memory)) 1 :=
  rfl

theorem le_fdiv_iff (hd : 0 < d) : n ≤ Int.fdiv memory d ↔ n * d ≤ memory := by
  rw [Int.fdiv_eq_ediv_of_nonneg memory (Int.le_of_lt hd), Int.le_ediv_iff_mul_le hd]

theorem le_wanted_iff : n ≤ wanted processors ↔ n ≤ 100 ∨ 10 * n ≤ processors := by
  have htenth : n ≤ Int.fdiv processors 10 ↔ n * 10 ≤ processors := le_fdiv_iff (by decide)
  rw [wanted, minYoung]
  omega

theorem le_eighth_iff : n ≤ eighth memory ↔ 8 * 1048576 * n ≤ memory := by
  rw [eighth, bytesPerMegabyte, le_fdiv_iff (by decide), le_fdiv_iff (by decide)]
  omega

theorem le_heapBytes_iff : n ≤ heapBytes memory ↔ n ≤ 1 ∨ 2 * n ≤ memory := by
  have hhalf : n ≤ Int.fdiv memory 2 ↔ n * 2 ≤ memory := le_fdiv_iff (by decide)
  rw [heapBytes]
  omega

theorem le_youngMegabytes_none_iff :
    n ≤ youngMegabytes processors none ↔ n ≤ 100 ∨ 10 * n ≤ processors := by
  rw [← le_wanted_iff, youngMegabytes_none]
  have : 1 ≤ wanted processors := le_wanted_iff.mpr (.inl (by decide))
  omega

theorem le_youngMegabytes_some_iff : n ≤ youngMegabytes processors (some memory) ↔
    n ≤ 1 ∨ (n ≤ 100 ∨ 10 * n ≤ processors) ∧ 8 * 1048576 * n ≤ memory := by
  rw [← le_wanted_iff, ← le_eighth_iff, youngMegabytes_some]
  omega

/-- What is known of the young generation, by what it is at least. -/
theorem youngMegabytes_cases (processors memory : Int) :
    youngMegabytes processors (some memory) = 1 ∨
      8 * 1048576 * youngMegabytes processors (some memory) ≤ memory := by
  have hone : 1 ≤ youngMegabytes processors (some memory) :=
    le_youngMegabytes_some_iff.mpr (.inl (Int.le_refl 1))
  rcases le_youngMegabytes_some_iff.mp (Int.le_refl _) with h | ⟨-, h⟩
  · exact .inl (Int.le_antisymm h hone)
  · exact .inr h

theorem one_le_youngMegabytes (processors : Int) (memory : Option Int) :
    1 ≤ youngMegabytes processors memory := by
  cases memory with
  | none => exact le_youngMegabytes_none_iff.mpr (.inl (by decide))
  | some memory => exact le_youngMegabytes_some_iff.mpr (.inl (Int.le_refl 1))

theorem heapBytes_mono (h : memory ≤ more) : heapBytes memory ≤ heapBytes more := by
  rcases le_heapBytes_iff.mp (Int.le_refl (heapBytes memory)) with hone | hhalf
  · exact le_heapBytes_iff.mpr (.inl hone)
  · exact le_heapBytes_iff.mpr (.inr (Int.le_trans hhalf h))

theorem youngMegabytes_some_mono (h : memory ≤ more) (k : processors ≤ others) :
    youngMegabytes processors (some memory) ≤ youngMegabytes others (some more) := by
  rcases le_youngMegabytes_some_iff.mp (Int.le_refl (youngMegabytes processors (some memory))) with
    hone | ⟨hasked, heighth⟩
  · exact le_youngMegabytes_some_iff.mpr (.inl hone)
  · refine le_youngMegabytes_some_iff.mpr (.inr ⟨?_, Int.le_trans heighth h⟩)
    exact hasked.imp_right fun hten => Int.le_trans hten k

theorem youngMegabytes_none_mono (k : processors ≤ others) :
    youngMegabytes processors none ≤ youngMegabytes others none := by
  have hasked := le_youngMegabytes_none_iff.mp (Int.le_refl (youngMegabytes processors none))
  exact le_youngMegabytes_none_iff.mpr (hasked.imp_right fun hten => Int.le_trans hten k)

/-- A memory that is known takes off the young generation, if anything. -/
theorem youngMegabytes_some_le_none (processors memory : Int) :
    youngMegabytes processors (some memory) ≤ youngMegabytes processors none := by
  rcases le_youngMegabytes_some_iff.mp (Int.le_refl (youngMegabytes processors (some memory))) with
    hone | ⟨hasked, -⟩
  · exact le_youngMegabytes_none_iff.mpr (.inl (by omega))
  · exact le_youngMegabytes_none_iff.mpr hasked

/-- The sizes are positive and grow with what they are taken from.  From two
megabytes of memory on the young generation fits into the heap, from eight on
into an eighth of the memory, and from eight hundred on it has its minimum. -/
theorem sizes_consistent :
    (∀ memory, 1 ≤ heapBytes memory) ∧
    (∀ processors memory, 1 ≤ youngMegabytes processors memory) ∧
    (∀ memory more, memory ≤ more → heapBytes memory ≤ heapBytes more) ∧
    (∀ processors others memory more, processors ≤ others → memory ≤ more →
      youngMegabytes processors (some memory) ≤ youngMegabytes others (some more)) ∧
    (∀ processors others, processors ≤ others →
      youngMegabytes processors none ≤ youngMegabytes others none) ∧
    (∀ processors memory,
      youngMegabytes processors (some memory) ≤ youngMegabytes processors none) ∧
    (∀ processors memory, 2 * 1048576 ≤ memory →
      youngMegabytes processors (some memory) * 1048576 ≤ heapBytes memory) ∧
    (∀ processors memory, 8 * 1048576 ≤ memory →
      8 * 1048576 * youngMegabytes processors (some memory) ≤ memory) ∧
    (∀ processors memory, 800 * 1048576 ≤ memory →
      100 ≤ youngMegabytes processors (some memory)) := by
  refine ⟨fun memory => le_heapBytes_iff.mpr (.inl (Int.le_refl 1)), one_le_youngMegabytes,
    fun memory more => heapBytes_mono, fun processors others memory more k h => ?_,
    fun processors others => youngMegabytes_none_mono, youngMegabytes_some_le_none,
    fun processors memory h => ?_, fun processors memory h => ?_, fun processors memory h => ?_⟩
  · exact youngMegabytes_some_mono h k
  · -- a heap is half of the memory, and a young generation that counts an eighth of it
    rw [le_heapBytes_iff]
    rcases youngMegabytes_cases processors memory with hyoung | hyoung <;> omega
  · rcases youngMegabytes_cases processors memory with hyoung | hyoung <;> omega
  · exact le_youngMegabytes_some_iff.mpr (.inr ⟨.inl (Int.le_refl 100), h⟩)

/-- With a byte less than two megabytes it does not fit. -/
example : heapBytes 2097151 < youngMegabytes 0 (some 2097151) * 1048576 := by decide

/-! ### Flags -/

/-- Lines among which every flag is set, to whatever size. -/
def IsComplete (lines : List String) : Prop :=
  ∀ start ∈ ["-Xmx", "-Xms", "-Xmn"], lines.any (startsWith start) = true

variable {lines : List String}

/-- The flags that are lacking, one by one. -/
theorem missingFlags_eq (lines : List String) (memory processors : Int) :
    missingFlags lines memory processors =
      unlessStarted "-Xmx" ("-Xmx" ++ Numeral.ofInt (heapBytes memory)) lines ++
        (unlessStarted "-Xms" ("-Xms" ++ Numeral.ofInt (heapBytes memory)) lines ++
          unlessStarted "-Xmn"
            ("-Xmn" ++ Numeral.ofInt (youngMegabytes processors (some memory)) ++ "M") lines) := by
  show lacking (allFlags memory processors) lines = _
  rw [allFlags, lacking_cons, lacking_cons, lacking_cons]
  exact congrArg _ (congrArg _ (List.append_nil _))

/-- Whether flags are lacking does not depend on the sizes. -/
theorem missingFlags_eq_nil_iff : missingFlags lines memory processors = [] ↔ IsComplete lines := by
  have hstarts : (allFlags memory processors).map (·.1) = ["-Xmx", "-Xms", "-Xmn"] := rfl
  rw [IsComplete, ← hstarts, List.forall_mem_map]
  exact lacking_eq_nil_iff

/-- Lines with the flags added that they lacked. -/
theorem isComplete_append_missingFlags (lines : List String) (memory processors : Int) :
    IsComplete (lines ++ missingFlags lines memory processors) := by
  have hnone : missingFlags (lines ++ missingFlags lines memory processors) memory processors = [] :=
    Distinct.lacking_append_lacking (distinct_allFlags memory processors).own lines
  exact missingFlags_eq_nil_iff.mp hnone

end Memory

/-! ### Setting the flags -/

namespace Setup

/-- The setup with other variables. -/
def within (s : Setup) (env : Environment) : Setup := { s with environment := env }

/-- Sets the memory again and again, each time in an environment of its own. -/
def configureMemoryIn (s : Setup) : List Environment → Run Unit
  | [] => pure ()
  | env :: envs => do
    (s.within env).configureMemory
    s.configureMemoryIn envs

variable {s : Setup} {x : Session} {lines : List String} {memory processors : Int}

theorem flagAdditions_eq (hm : s.environment.mandatoryInt Environment.memoryBytes = .ok memory)
    (hp : s.environment.mandatoryInt Environment.cpuMillicores = .ok processors)
    (lines : List String) :
    s.flagAdditions lines = .ok (Memory.missingFlags lines memory processors) := by
  rw [flagAdditions, hm, hp]
  rfl

/-- The flags that are lacking are added. -/
theorem configureMemory_of_sized (hread : x.tree.readLines s.optionsFile = .ok lines)
    (hm : s.environment.mandatoryInt Environment.memoryBytes = .ok memory)
    (hp : s.environment.mandatoryInt Environment.cpuMillicores = .ok processors) :
    ∃ y, s.configureMemory.perform x = (.ok (), y) ∧ y.tree.readLines s.optionsFile =
      .ok (lines ++ Memory.missingFlags lines memory processors) := by
  have hline : ∀ l ∈ Memory.missingFlags lines memory processors, IsLine l := by
    intro l hl
    obtain ⟨w, hw, -, rfl⟩ := mem_lacking.mp hl
    exact Memory.isLine_of_mem_allFlags memory processors w hw
  obtain ⟨u, hu, hafter⟩ := Action.exists_apply_extend hread (flagAdditions_eq hm hp lines) hline
  rw [← Action.applyAll_singleton] at hu
  obtain ⟨⟨⟩, y, hy, rfl⟩ := s.does_configureMemory.applyAll_eq_ok_iff.mp hu
  exact ⟨y, hy, hafter⟩

/-- A file with all its flags is left alone. -/
theorem configureMemory_of_isComplete (hread : x.tree.readLines s.optionsFile = .ok lines)
    (hcomplete : Memory.IsComplete lines) (hs : s.Sized) :
    ∃ y, s.configureMemory.perform x = (.ok (), y) ∧ y.tree = x.tree := by
  obtain ⟨⟨memory, hm⟩, processors, hp⟩ := hs
  have hnone : s.flagAdditions lines = .ok [] := by
    rw [flagAdditions_eq hm hp, Memory.missingFlags_eq_nil_iff.mpr hcomplete]
  have hu : Action.applyAll [.extend s.optionsFile s.flagAdditions] x.tree = (.ok (), x.tree) := by
    rw [Action.applyAll_singleton, Action.apply_extend hread hnone]
    rfl
  obtain ⟨⟨⟩, y, hy, htree⟩ := s.does_configureMemory.applyAll_eq_ok_iff.mp hu
  exact ⟨y, hy, htree⟩

/-- So it is however often the memory is set. -/
theorem configureMemoryIn_of_isComplete {envs : List Environment}
    (hread : x.tree.readLines s.optionsFile = .ok lines) (hcomplete : Memory.IsComplete lines)
    (hs : ∀ env ∈ envs, (s.within env).Sized) :
    ∃ y, (s.configureMemoryIn envs).perform x = (.ok (), y) ∧ y.tree = x.tree := by
  -- each turn leaves the tree as it is, so the next one finds the same file
  induction envs generalizing x with
  | nil => exact ⟨x, rfl, rfl⟩
  | cons env envs ih =>
    obtain ⟨henv, hs⟩ := List.forall_mem_cons.mp hs
    obtain ⟨y, hy, htree⟩ := configureMemory_of_isComplete (s := s.within env) hread hcomplete henv
    obtain ⟨z, hz, hlast⟩ := ih (htree ▸ hread) hs
    refine ⟨z, ?_, hlast.trans htree⟩
    rw [configureMemoryIn, Run.perform_bind, hy]
    exact hz

/-- Setting the memory adds a line for each flag that no line of the file
sets, and leaves a file that has them all as it is.  Whatever the sizes are
later on, setting it again changes nothing, however often. -/
theorem configureMemory_full (hread : x.tree.readLines s.optionsFile = .ok lines)
    (hm : s.environment.mandatoryInt Environment.memoryBytes = .ok memory)
    (hp : s.environment.mandatoryInt Environment.cpuMillicores = .ok processors) :
    ∃ y added, s.configureMemory.perform x = (.ok (), y) ∧
      y.tree.readLines s.optionsFile = .ok (lines ++ added) ∧
      added = unlessStarted "-Xmx" ("-Xmx" ++ Numeral.ofInt (Memory.heapBytes memory)) lines ++
        (unlessStarted "-Xms" ("-Xms" ++ Numeral.ofInt (Memory.heapBytes memory)) lines ++
          unlessStarted "-Xmn" ("-Xmn" ++
            Numeral.ofInt (Memory.youngMegabytes processors (some memory)) ++ "M") lines) ∧
      (added = [] → y.tree = x.tree) ∧
      ∀ envs : List Environment, (∀ env ∈ envs, (s.within env).Sized) →
        ∀ z : Session, z.tree = y.tree →
          ∃ w, (s.configureMemoryIn envs).perform z = (.ok (), w) ∧ w.tree = y.tree := by
  obtain ⟨y, hy, hafter⟩ := configureMemory_of_sized hread hm hp
  refine ⟨y, _, hy, hafter, Memory.missingFlags_eq lines memory processors, fun hnone => ?_,
    fun envs hs z hz => ?_⟩
  · have hcomplete := Memory.missingFlags_eq_nil_iff.mp hnone
    obtain ⟨z, hz, htree⟩ := configureMemory_of_isComplete hread hcomplete ⟨⟨_, hm⟩, _, hp⟩
    obtain rfl : y = z := congrArg Prod.snd (hy.symm.trans hz)
    exact htree
  · have hcomplete := Memory.isComplete_append_missingFlags lines memory processors
    obtain ⟨w, hw, htree⟩ := configureMemoryIn_of_isComplete (hz ▸ hafter) hcomplete hs
    exact ⟨w, hw, htree.trans hz⟩

/-- A node whose memory and processors are given as no node has them. -/
def absurdEnvironment : Environment where
  entries :=
    [(Environment.memoryBytes, some "-7"), (Environment.cpuMillicores, some "100000000000")]

theorem configureMemory_full_sample :
    ∃ y, sample.configureMemory.perform (.start overriddenTree) = (.ok (), y) ∧
      y.tree.readLines sample.optionsFile =
        .ok ["-Xmx1G", "-javaagent:/lib/jolokia-jvm-agent.jar=port=1", "-Xms512", "-Xmn1M"] ∧
      ∃ w, (sample.configureMemoryIn [absurdEnvironment, sampleEnvironment]).perform y =
        (.ok (), w) ∧ w.tree = y.tree := by
  have hm : sample.environment.mandatoryInt Environment.memoryBytes = .ok 1024 := rfl
  have hp : sample.environment.mandatoryInt Environment.cpuMillicores = .ok 500 := rfl
  obtain ⟨y, added, hy, hafter, hadded, -, hagain⟩ :=
    configureMemory_full (x := .start overriddenTree) readLines_overriddenTree hm hp
  refine ⟨y, hy, hafter.trans (congrArg _ ?_), hagain _ ?_ y rfl⟩
  · rw [hadded]
    decide +kernel
  · have hsized : (sample.within absurdEnvironment).Sized := ⟨⟨-7, rfl⟩, 100000000000, rfl⟩
    exact List.forall_mem_cons.mpr ⟨hsized, List.forall_mem_singleton.mpr ⟨⟨1024, rfl⟩, 500, rfl⟩⟩

end Setup

end NodeBootstrap

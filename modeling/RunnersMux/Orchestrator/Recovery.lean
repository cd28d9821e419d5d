import RunnersMux.Foundations.Strings
import RunnersMux.Orchestrator.Effects

/-! The state a process starts from: `NewOrchestrator` and `recoverState`.

Docker is the source of truth on a restart. A container is recovered from its
name alone, and one that is not running is removed instead.
-/

set_option autoImplicit false

namespace RunnersMux

open Foundations

/-- An entry of `ContainerList`, with the fields that recovery reads. -/
structure ListedContainer where
  id : ContainerID
  names : List String
  state : String
  networks : List String
  deriving DecidableEq, Repr

def firstIP (container : ListedContainer) : String := container.networks.headD ""

def parseRunnerFromActiveName (name : String) : RunnerName :=
  let rest := trimPrefix name namePrefixActive
  match lastIndex '-' rest.toList with
  | some (index + 1) => String.ofList (rest.toList.take (index + 1))
  | _ => rest

namespace Orchestrator

def recoverWarm (o : Orchestrator) (worker : WarmWorker) : Orchestrator :=
  { o with warmPool := o.warmPool.insert worker.containerID worker }

/-- One iteration of the loop of `recoverState`. -/
def recoverContainer (o : Orchestrator) (container : ListedContainer) : Orchestrator :=
  if container.state ≠ "running" then o else
  let name := trimPrefix (container.names.headD "") "/"
  if hasPrefix name namePrefixActive then
    o.register (parseRunnerFromActiveName name) ⟨container.id, firstIP container⟩
  else if hasPrefix name namePrefixWarm then
    o.recoverWarm ⟨container.id, firstIP container⟩
  else o

/-- `recoverState`; `none` is a failed `ContainerList`, which changes nothing. -/
def recoverState (o : Orchestrator) : Option (List ListedContainer) → Orchestrator
  | some listing => listing.foldl recoverContainer o
  | none => o

def newOrchestrator (maxWorkers warmWorkers : Int) : Orchestrator where
  broadcastCh := 0
  warmPool := ∅
  activeWorkers := ∅
  activeListeners := ∅
  maxWorkers := maxWorkers
  warmWorkersConfig := warmWorkers
  bootingCount := 0
  pendingAllocations := 0
  isPaused := false
  reporter := false

/-- The three outcomes of an iteration of `recoverState`. -/
inductive Recovers (o : Orchestrator) (container : ListedContainer) : Orchestrator → Prop where
  | skip : Recovers o container o
  | active (up : container.state = "running") (runner : RunnerName) :
      Recovers o container (o.register runner ⟨container.id, firstIP container⟩)
  | warm (up : container.state = "running") :
      Recovers o container (o.recoverWarm ⟨container.id, firstIP container⟩)

theorem recoverContainer_recovers (o : Orchestrator) (container : ListedContainer) :
    Recovers o container (o.recoverContainer container) := by
  unfold recoverContainer
  split
  · exact .skip
  · next up =>
      have up := Decidable.of_not_not up
      dsimp only
      split
      · exact .active up _
      · split
        · exact .warm up
        · exact .skip

/-- What every iteration keeps holds of the recovered record. -/
theorem recoverState_keeps (holds : Orchestrator → Prop) {o : Orchestrator}
    {listing : Option (List ListedContainer)}
    (kept : ∀ o container after, container ∈ listing.getD [] → holds o → Recovers o container after →
      holds after)
    (initially : holds o) : holds (o.recoverState listing) := by
  cases listing with
  | none => exact initially
  | some containers =>
      induction containers generalizing o with
      | nil => exact initially
      | cons container rest ih =>
          apply ih
          · exact kept _ _ _ List.mem_cons_self initially (o.recoverContainer_recovers container)
          · intro o other after member
            exact kept o other after (List.mem_cons_of_mem _ member)

/-- Recovery fills the two maps and the counts of listeners, nothing else. -/
theorem recoverState_frame (o : Orchestrator) (listing : Option (List ListedContainer)) :
    ∃ warm active listeners, o.recoverState listing =
      { o with warmPool := warm, activeWorkers := active, activeListeners := listeners } := by
  apply recoverState_keeps fun after => ∃ warm active listeners, after =
    { o with warmPool := warm, activeWorkers := active, activeListeners := listeners }
  · rintro _ container after _ ⟨warm, active, listeners, rfl⟩ recovers
    cases recovers with
    | skip => exact ⟨warm, active, listeners, rfl⟩
    | active up runner => exact ⟨_, _, _, rfl⟩
    | warm up => exact ⟨_, active, listeners, rfl⟩
  · exact ⟨o.warmPool, o.activeWorkers, o.activeListeners, rfl⟩

/-- Whatever recovery records was listed as running. -/
theorem recoverState_running (maxWorkers warmWorkers : Int) (listing : Option (List ListedContainer))
    (id : ContainerID)
    (recorded : id ∈ ((newOrchestrator maxWorkers warmWorkers).recoverState listing).warmPool ∨
      id ∈ ((newOrchestrator maxWorkers warmWorkers).recoverState listing).activeWorkers) :
    ∃ container ∈ listing.getD [], container.id = id ∧ container.state = "running" := by
  revert id
  apply recoverState_keeps fun after => ∀ id, id ∈ after.warmPool ∨ id ∈ after.activeWorkers →
    ∃ container ∈ listing.getD [], container.id = id ∧ container.state = "running"
  · intro o container after member earlier recovers
    cases recovers with
    | skip => exact earlier
    | active up runner =>
        rintro id (warm | active)
        · exact earlier id (.inl warm)
        · rcases Finmap.mem_insert.mp active with same | before
          · exact ⟨container, member, same.symm, up⟩
          · exact earlier id (.inr before)
    | warm up =>
        rintro id (warm | active)
        · rcases Finmap.mem_insert.mp warm with same | before
          · exact ⟨container, member, same.symm, up⟩
          · exact earlier id (.inl before)
        · exact earlier id (.inr active)
  · rintro id (warm | active)
    · exact absurd warm Finmap.notMem_empty
    · exact absurd active Finmap.notMem_empty

end Orchestrator

/-- Docker answers with distinct IDs that it knows, running where it says so. -/
structure Lists (docker : Map ContainerID Container) (listing : List ListedContainer) : Prop where
  distinct : (listing.map (·.id)).Nodup
  known : ∀ container ∈ listing, ∃ record, docker.lookup container.id = some record ∧
    (record.running = true ↔ container.state = "running")

namespace System

variable {Managers : Type}

/-- The state in which `NewOrchestrator` starts `watchEvents` and `maintainPool`. -/
def booted (maxWorkers warmWorkers : Int) (docker : Map ContainerID Container)
    (listing : Option (List ListedContainer)) (managers : Managers) : System Managers where
  orchestrator := (Orchestrator.newOrchestrator maxWorkers warmWorkers).recoverState listing
  docker := docker
  goroutines := ∅
  pool := .acquiring
  managers := managers
  delivered := docker.keys.filter fun id => (docker.lookup id).any (·.running) = false
  jobsCompleted := []

/-- Start states: fresh (an empty or failed listing) or recovered. -/
def Started (maxWorkers warmWorkers : Int) (managers : Managers) (state : System Managers) : Prop :=
  ∃ docker listing, (∀ containers, listing = some containers → Lists docker containers) ∧
    state = booted maxWorkers warmWorkers docker listing managers

/-- A restart that finds one warm container. -/
def oneWarm (maxWorkers warmWorkers : Int) : System Unit :=
  booted maxWorkers warmWorkers
    ((∅ : Map ContainerID Container).insert "c1" ⟨"github-mux-warm-1", "10.0.0.1", true⟩)
    (some [⟨"c1", ["/github-mux-warm-1"], "running", ["10.0.0.1"]⟩]) ()

theorem oneWarm_started (maxWorkers warmWorkers : Int) :
    Started maxWorkers warmWorkers () (oneWarm maxWorkers warmWorkers) := by
  refine ⟨_, _, ?_, rfl⟩
  rintro containers ⟨⟩
  exact ⟨by decide, by decide⟩

end System

end RunnersMux

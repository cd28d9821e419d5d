import RunnersMux.Orchestrator.Naming
import RunnersMux.Orchestrator.Phantoms

/-! What a restart rebuilds.

`recoverState` reads the two maps back from one listing. With names that Docker
takes, the names say what the maps record, and a process that stops at rest
leaves its maps to the next one.
-/

set_option autoImplicit false

namespace RunnersMux

open Foundations

namespace ListedContainer

/-- The name as recovery reads it. -/
def name (container : ListedContainer) : String := trimPrefix (container.names.headD "") "/"

def warmEntry (container : ListedContainer) : Option WarmWorker :=
  if container.state = "running" ∧ readsWarm container.name then some ⟨container.id, firstIP container⟩ else none

def activeEntry (container : ListedContainer) : Option ActiveWorker :=
  if container.state = "running" ∧ hasPrefix container.name namePrefixActive = true then
    some ⟨container.id, firstIP container, parseRunnerFromActiveName container.name⟩
  else none

end ListedContainer

/-- The entry of a listing for one ID. -/
def listed (containers : List ListedContainer) (id : ContainerID) : Option ListedContainer :=
  containers.find? fun container => container.id = id

theorem listed_absent {containers : List ListedContainer} {id : ContainerID}
    (absent : id ∉ containers.map (·.id)) : listed containers id = none := by
  apply List.find?_eq_none.mpr
  intro container member
  simp only [decide_eq_true_eq]
  rintro rfl
  exact absent (List.mem_map_of_mem member)

theorem listed_some {containers : List ListedContainer} {id : ContainerID} {container : ListedContainer}
    (found : listed containers id = some container) : container ∈ containers ∧ container.id = id := by
  have keyed := List.find?_some found
  exact ⟨List.mem_of_find?_eq_some found, of_decide_eq_true keyed⟩

namespace Orchestrator

/-- An iteration touches the entry of its container and no other. -/
theorem lookup_recoverContainer (o : Orchestrator) (container : ListedContainer) (id : ContainerID) :
    (o.recoverContainer container).warmPool.lookup id =
      (if id = container.id then container.warmEntry.or (o.warmPool.lookup id) else o.warmPool.lookup id) ∧
    (o.recoverContainer container).activeWorkers.lookup id =
      (if id = container.id then container.activeEntry.or (o.activeWorkers.lookup id)
        else o.activeWorkers.lookup id) := by
  unfold recoverContainer ListedContainer.warmEntry ListedContainer.activeEntry readsWarm
  change (Finmap.lookup id (if container.state ≠ "running" then o else
    if hasPrefix container.name namePrefixActive then
      o.register (parseRunnerFromActiveName container.name) ⟨container.id, firstIP container⟩
    else if hasPrefix container.name namePrefixWarm then o.recoverWarm ⟨container.id, firstIP container⟩
    else o).warmPool = _) ∧ (Finmap.lookup id (if container.state ≠ "running" then o else
    if hasPrefix container.name namePrefixActive then
      o.register (parseRunnerFromActiveName container.name) ⟨container.id, firstIP container⟩
    else if hasPrefix container.name namePrefixWarm then o.recoverWarm ⟨container.id, firstIP container⟩
    else o).activeWorkers = _)
  by_cases up : container.state = "running"
  · by_cases active : hasPrefix container.name namePrefixActive = true
    · simp [up, active, register, Map.lookup_insert_if]
    · by_cases warm : hasPrefix container.name namePrefixWarm = true
      · simp [up, active, warm, recoverWarm, Map.lookup_insert_if]
      · simp [up, active, warm]
  · simp [up]

/-- Over distinct IDs every entry is read off the one container that has the ID. -/
theorem lookup_recoverState {containers : List ListedContainer} (distinct : (containers.map (·.id)).Nodup)
    (o : Orchestrator) (id : ContainerID) :
    (o.recoverState (some containers)).warmPool.lookup id =
      ((listed containers id).bind ListedContainer.warmEntry).or (o.warmPool.lookup id) ∧
    (o.recoverState (some containers)).activeWorkers.lookup id =
      ((listed containers id).bind ListedContainer.activeEntry).or (o.activeWorkers.lookup id) := by
  induction containers generalizing o with
  | nil => exact ⟨rfl, rfl⟩
  | cons container rest ih =>
      obtain ⟨unlisted, distinct⟩ := List.nodup_cons.mp distinct
      obtain ⟨warm, active⟩ := ih distinct (o.recoverContainer container)
      obtain ⟨first, second⟩ := o.lookup_recoverContainer container id
      change ((o.recoverContainer container).recoverState (some rest)).warmPool.lookup id = _ ∧
        ((o.recoverContainer container).recoverState (some rest)).activeWorkers.lookup id = _
      rw [warm, active, first, second]
      by_cases same : id = container.id
      · subst same
        have here : listed (container :: rest) container.id = some container := by
          simp [listed]
        rw [listed_absent unlisted, here, if_pos rfl, if_pos rfl]
        exact ⟨rfl, rfl⟩
      · have passed : listed (container :: rest) id = listed rest id := by
          simp [listed, Ne.symm same]
        rw [passed, if_neg same, if_neg same]
        exact ⟨rfl, rfl⟩

/-- Recovery starts from empty maps. -/
theorem lookup_recovered {containers : List ListedContainer} (distinct : (containers.map (·.id)).Nodup)
    (maxWorkers warmWorkers : Int) (id : ContainerID) :
    ((newOrchestrator maxWorkers warmWorkers).recoverState (some containers)).warmPool.lookup id =
      (listed containers id).bind ListedContainer.warmEntry ∧
    ((newOrchestrator maxWorkers warmWorkers).recoverState (some containers)).activeWorkers.lookup id =
      (listed containers id).bind ListedContainer.activeEntry := by
  obtain ⟨warm, active⟩ := lookup_recoverState distinct (newOrchestrator maxWorkers warmWorkers) id
  rw [warm, active]
  exact ⟨Option.or_none, Option.or_none⟩

/-- Recovery writes no count of zero. -/
theorem recovered_positive (maxWorkers warmWorkers : Int) (listing : Option (List ListedContainer))
    (runner : RunnerName) (count : Int) :
    ((newOrchestrator maxWorkers warmWorkers).recoverState listing).activeListeners.lookup runner = some count →
      0 < count := by
  revert runner count
  apply recoverState_keeps fun o => ∀ runner count, o.activeListeners.lookup runner = some count → 0 < count
  · intro o container after _ positive recovers
    cases recovers with
    | skip | warm up => exact positive
    | active up name =>
        intro runner count found
        change (o.activeListeners.insert name (o.getActiveCount name + 1)).lookup runner = some count at found
        rcases Map.lookup_of_insert found with ⟨_, rfl⟩ | ⟨_, old⟩
        · unfold getActiveCount
          cases before : o.activeListeners.lookup name with
          | none => decide
          | some earlier =>
              have := positive name earlier before
              simp only [Option.getD_some]
              omega
        · exact positive runner count old
  · intro runner count found
    cases found

/-- Maps that read the same differ at most in entries of zero. -/
theorem listeners_of_counts {o other : Orchestrator} {runner : RunnerName}
    (positive : ∀ count, o.activeListeners.lookup runner = some count → 0 < count)
    (counts : o.getActiveCount runner = other.getActiveCount runner) :
    o.activeListeners.lookup runner = (other.activeListeners.lookup runner).filter (· ≠ 0) := by
  unfold getActiveCount at counts
  cases here : o.activeListeners.lookup runner with
  | none =>
      cases there : other.activeListeners.lookup runner with
      | none => rfl
      | some count =>
          rw [here, there] at counts
          cases (show 0 = count from counts)
          rfl
  | some count =>
      have above := positive count here
      cases there : other.activeListeners.lookup runner with
      | none =>
          rw [here, there] at counts
          exact absurd (show count = 0 from counts) (by omega)
      | some old =>
          rw [here, there] at counts
          cases (show count = old from counts)
          simp [Option.filter, show count ≠ 0 by omega]

end Orchestrator

/-- Docker's answer to `ContainerList`: every managed container that runs, by the
name and the address that Docker has for it. -/
structure Reports (docker : Map ContainerID Container) (containers : List ListedContainer) : Prop extends
    Lists docker containers where
  named : ∀ container ∈ containers, ∀ record ∈ docker.lookup container.id,
    container.names.head? = some ("/" ++ record.name) ∧ firstIP container = record.ipAddress
  complete : ∀ id record, docker.lookup id = some record → record.running = true → id ∈ containers.map (·.id)

instance (docker : Map ContainerID Container) (containers : List ListedContainer) :
    Decidable (Reports docker containers) :=
  decidable_of_iff ((containers.map (·.id)).Nodup ∧ (∀ container ∈ containers, ∃ record ∈
      docker.lookup container.id, (record.running = true ↔ container.state = "running")) ∧ _ ∧ _)
    ⟨fun all => ⟨⟨all.1, all.2.1⟩, all.2.2.1, all.2.2.2⟩, fun reports =>
      ⟨reports.distinct, reports.known, reports.named, reports.complete⟩⟩

namespace Reports

variable {docker : Map ContainerID Container} {containers : List ListedContainer}

/-- Recovery reads the name that Docker has. -/
theorem reads (reports : Reports docker containers) {container : ListedContainer} (member : container ∈ containers)
    {record : Container} (known : docker.lookup container.id = some record) :
    container.name = record.name ∧ firstIP container = record.ipAddress ∧
      (record.running = true ↔ container.state = "running") := by
  obtain ⟨name, address⟩ := reports.named container member record known
  obtain ⟨again, found, agrees⟩ := reports.known container member
  cases known.symm.trans found
  refine ⟨?_, address, agrees⟩
  unfold ListedContainer.name
  rw [List.headD_eq_head?_getD, name]
  exact trimPrefix_append "/" record.name

/-- A running container is recovered as its name says. -/
theorem recovers_running (reports : Reports docker containers) (maxWorkers warmWorkers : Int) {id : ContainerID}
    {record : Container} (known : docker.lookup id = some record) (running : record.running = true) :
    ((Orchestrator.newOrchestrator maxWorkers warmWorkers).recoverState (some containers)).warmPool.lookup id =
      (if readsWarm record.name then some ⟨id, record.ipAddress⟩ else none) ∧
    ((Orchestrator.newOrchestrator maxWorkers warmWorkers).recoverState (some containers)).activeWorkers.lookup id =
      (if hasPrefix record.name namePrefixActive = true then
        some ⟨id, record.ipAddress, parseRunnerFromActiveName record.name⟩ else none) := by
  obtain ⟨warm, active⟩ := Orchestrator.lookup_recovered reports.distinct maxWorkers warmWorkers id
  rw [warm, active]
  cases found : listed containers id with
  | none =>
      obtain ⟨container, member, same⟩ := List.mem_map.mp (reports.complete id record known running)
      exact absurd (decide_eq_true same) (List.find?_eq_none.mp found container member)
  | some container =>
      obtain ⟨member, rfl⟩ := listed_some found
      obtain ⟨name, address, agrees⟩ := reports.reads member known
      simp [ListedContainer.warmEntry, ListedContainer.activeEntry, agrees.mp running, name, address]

/-- Nothing else is recovered. -/
theorem recovers_only (reports : Reports docker containers) (maxWorkers warmWorkers : Int) (id : ContainerID)
    (dead : ∀ record, docker.lookup id = some record → record.running = false) :
    ((Orchestrator.newOrchestrator maxWorkers warmWorkers).recoverState (some containers)).warmPool.lookup id = none ∧
    ((Orchestrator.newOrchestrator maxWorkers warmWorkers).recoverState (some containers)).activeWorkers.lookup id =
      none := by
  obtain ⟨warm, active⟩ := Orchestrator.lookup_recovered reports.distinct maxWorkers warmWorkers id
  rw [warm, active]
  cases found : listed containers id with
  | none => exact ⟨rfl, rfl⟩
  | some container =>
      obtain ⟨member, rfl⟩ := listed_some found
      obtain ⟨record, known, agrees⟩ := reports.known container member
      have down : container.state ≠ "running" := by
        intro up
        cases (agrees.mpr up).symm.trans (dead record known)
      simp [ListedContainer.warmEntry, ListedContainer.activeEntry, down]

end Reports

namespace Goroutine

theorem carries_unsettled {goroutine : Goroutine} {id : ContainerID} (carries : goroutine.carries id) :
    goroutine.settled = false := by
  unfold Goroutine.carries at carries
  split at carries <;> first | rfl | cases carries

end Goroutine

namespace System

variable {Managers Event Outcome : Type}

/-- No call is in progress and every tracked container is running. -/
structure AtRest (state : System Managers) : Prop where
  idle : ∀ g goroutine, state.goroutines.lookup g = some goroutine → goroutine.settled = true
  alive : NoPhantoms state

instance (state : System Managers) : Decidable (AtRest state) :=
  decidable_of_iff (_ ∧ _) ⟨fun both => ⟨both.1, both.2⟩, fun rest => ⟨rest.idle, rest.alive⟩⟩

/-- What recovery has rebuilt of the earlier process. A count of zero stays behind:
an absent key reads the same. -/
structure Restores (state : System Managers) (recovered : Orchestrator) : Prop where
  warmPool : recovered.warmPool = state.orchestrator.warmPool
  activeWorkers : recovered.activeWorkers = state.orchestrator.activeWorkers
  activeListeners : ∀ runner, recovered.activeListeners.lookup runner =
    (state.orchestrator.activeListeners.lookup runner).filter (· ≠ 0)
  handedOut : ∀ g id, state.Returns g id → id ∉ recovered.warmPool

/-- Where a process starts: with Docker's answer, or, where the listing fails, with
no running container that recovery would have recorded. -/
def Resumed (maxWorkers warmWorkers : Int) (managers : Managers) (state : System Managers) : Prop :=
  ∃ docker listing, state = booted maxWorkers warmWorkers docker listing managers ∧
    match listing with
    | some containers => Reports docker containers
    | none => ∀ id record, docker.lookup id = some record → record.running = true → unread record.name

theorem Resumed.started {maxWorkers warmWorkers : Int} {managers : Managers} {state : System Managers}
    (resumed : Resumed maxWorkers warmWorkers managers state) : Started maxWorkers warmWorkers managers state := by
  obtain ⟨docker, listing, shape, answers⟩ := resumed
  refine ⟨docker, listing, ?_, shape⟩
  rintro containers rfl
  exact answers.toLists

/-- Recovery itself records what the names say. -/
theorem readable_resumed {maxWorkers warmWorkers : Int} {managers : Managers} {state : System Managers}
    (resumed : Resumed maxWorkers warmWorkers managers state) : Readable state := by
  obtain ⟨docker, listing, rfl, answers⟩ := resumed
  cases listing with
  | none =>
      refine ⟨?_, ?_, ?_, ?_, ?_⟩
      · intro g goroutine found
        cases found
      · intro g runner phase found
        cases found
      · intro id worker found
        cases found
      · intro id worker found
        cases found
      · intro id record known running
        exact .inr (.inr (.inr (answers id record known running)))
  | some containers =>
      have reports : Reports docker containers := answers
      -- What is recovered runs, so its name decides.
      have alive (id : ContainerID) (recorded : ((Orchestrator.newOrchestrator maxWorkers warmWorkers).recoverState
          (some containers)).warmPool.lookup id ≠ none ∨ ((Orchestrator.newOrchestrator maxWorkers
          warmWorkers).recoverState (some containers)).activeWorkers.lookup id ≠ none) :
          ∃ record, docker.lookup id = some record ∧ record.running = true := by
        by_contra down
        obtain ⟨warm, active⟩ := reports.recovers_only maxWorkers warmWorkers id fun record known => by
          cases up : record.running with
          | false => rfl
          | true => exact absurd ⟨record, known, up⟩ down
        rcases recorded with pooled | working
        · exact pooled warm
        · exact working active
      refine ⟨?_, ?_, ?_, ?_, ?_⟩
      · intro g goroutine found
        cases found
      · intro g runner phase found
        cases found
      · intro id worker found
        change ((Orchestrator.newOrchestrator maxWorkers warmWorkers).recoverState (some containers)).warmPool.lookup
          id = some worker at found
        obtain ⟨record, known, running⟩ := alive id (.inl (by simp [found]))
        rw [(reports.recovers_running maxWorkers warmWorkers known running).1] at found
        split at found
        · next reads =>
            cases found
            exact ⟨record, known, rfl, reads⟩
        · cases found
      · intro id worker found
        change ((Orchestrator.newOrchestrator maxWorkers
          warmWorkers).recoverState (some containers)).activeWorkers.lookup id = some worker at found
        obtain ⟨record, known, running⟩ := alive id (.inr (by simp [found]))
        rw [(reports.recovers_running maxWorkers warmWorkers known running).2] at found
        split at found
        · next reads =>
            cases found
            exact ⟨rfl, record, known, rfl, reads, rfl⟩
        · cases found
      · intro id record known running
        obtain ⟨warm, active⟩ := reports.recovers_running maxWorkers warmWorkers known running
        change id ∈ ((Orchestrator.newOrchestrator maxWorkers
          warmWorkers).recoverState (some containers)).warmPool ∨ id ∈ ((Orchestrator.newOrchestrator maxWorkers
          warmWorkers).recoverState (some containers)).activeWorkers ∨ _
        by_cases reads : hasPrefix record.name namePrefixActive = true
        · rw [if_pos reads] at active
          exact .inr (.inl (Finmap.mem_of_lookup_eq_some active))
        · by_cases pooled : hasPrefix record.name namePrefixWarm = true
          · rw [if_pos ⟨Bool.eq_false_of_not_eq_true reads, pooled⟩] at warm
            exact .inl (Finmap.mem_of_lookup_eq_some warm)
          · exact .inr (.inr (.inr ⟨Bool.eq_false_of_not_eq_true reads, Bool.eq_false_of_not_eq_true pooled⟩))

/-- A container that runs is recorded as its name says. -/
theorem Readable.recorded {state : System Managers} (readable : Readable state) (assigned : Assigned state)
    (idle : ∀ id, ¬state.Carried id) {id : ContainerID} {record : Container}
    (known : state.docker.lookup id = some record) (running : record.running = true) :
    state.orchestrator.warmPool.lookup id = (if readsWarm record.name then
      some ⟨id, record.ipAddress⟩ else none) ∧
    state.orchestrator.activeWorkers.lookup id = (if hasPrefix record.name namePrefixActive = true then
      some ⟨id, record.ipAddress, parseRunnerFromActiveName record.name⟩ else none) := by
  cases pooled : state.orchestrator.warmPool.lookup id with
  | some worker =>
      obtain ⟨entry, found, address, reads⟩ := readable.warm id worker pooled
      have keyed := assigned.keyed id worker pooled
      rw [keyed] at found
      cases known.symm.trans found
      have apart := assigned.exclusive.warm_active id (Finmap.mem_of_lookup_eq_some pooled)
      rw [if_pos reads, if_neg (by simp [reads.1]), address, ← keyed]
      exact ⟨rfl, keyed ▸ Finmap.lookup_eq_none.mpr apart⟩
  | none =>
      cases working : state.orchestrator.activeWorkers.lookup id with
      | some worker =>
          obtain ⟨keyed, entry, found, address, reads, named⟩ := readable.active id worker working
          cases known.symm.trans found
          rw [if_neg (by simp [readsWarm, reads]), if_pos reads, address, named, ← keyed]
          exact ⟨rfl, rfl⟩
      | none =>
          rcases readable.loose id record known running with warm | active | carried | ⟨foreign, unused⟩
          · exact absurd warm (Finmap.lookup_eq_none.mp pooled)
          · exact absurd active (Finmap.lookup_eq_none.mp working)
          · exact absurd carried (idle id)
          · rw [if_neg (by simp [readsWarm, unused]), if_neg (by simp [foreign])]
            exact ⟨rfl, rfl⟩

/-- A state at rest is what the next process recovers. -/
theorem AtRest.restores {state : System Managers} {containers : List ListedContainer} (atRest : AtRest state)
    (assigned : Assigned state) (readable : Readable state) (reports : Reports state.docker containers)
    (maxWorkers warmWorkers : Int) :
    Restores state ((Orchestrator.newOrchestrator maxWorkers warmWorkers).recoverState (some containers)) := by
  have idle : ∀ id, ¬state.Carried id := by
    rintro id ⟨g, goroutine, found, carries⟩
    cases (atRest.idle g goroutine found).symm.trans (Goroutine.carries_unsettled carries)
  have entries (id : ContainerID) :
      ((Orchestrator.newOrchestrator maxWorkers warmWorkers).recoverState (some containers)).warmPool.lookup id =
        state.orchestrator.warmPool.lookup id ∧
      ((Orchestrator.newOrchestrator maxWorkers warmWorkers).recoverState (some containers)).activeWorkers.lookup id =
        state.orchestrator.activeWorkers.lookup id := by
    cases up : state.running id with
    | true =>
        unfold running at up
        cases known : state.docker.lookup id with
        | none => simp [known] at up
        | some record =>
            rw [known] at up
            obtain ⟨warm, active⟩ := readable.recorded assigned idle known up
            rw [warm, active]
            exact reports.recovers_running maxWorkers warmWorkers known up
    | false =>
        have unrecorded : ¬(id ∈ state.orchestrator.warmPool ∨ id ∈ state.orchestrator.activeWorkers) := by
          intro recorded
          cases (atRest.alive id recorded).symm.trans up
        rw [not_or] at unrecorded
        rw [Finmap.lookup_eq_none.mpr unrecorded.1, Finmap.lookup_eq_none.mpr unrecorded.2]
        apply reports.recovers_only
        intro record known
        unfold running at up
        rw [known] at up
        exact up
  have warmPool := Finmap.ext_lookup fun id => (entries id).1
  have activeWorkers := Finmap.ext_lookup fun id => (entries id).2
  refine ⟨warmPool, activeWorkers, ?_, ?_⟩
  · intro runner
    apply Orchestrator.listeners_of_counts (Orchestrator.recovered_positive _ _ _ runner)
    have started : Started maxWorkers warmWorkers state.managers
        (booted maxWorkers warmWorkers state.docker (some containers) state.managers) :=
      ⟨_, _, fun _ same => Option.some.inj same ▸ reports.toLists, rfl⟩
    have counted : Orchestrator.getActiveCount _ runner = Orchestrator.activeOf _ runner :=
      (started_sound started).2.counted runner
    refine counted.trans ?_
    rw [assigned.counted runner]
    unfold Orchestrator.activeOf
    exact congrArg (fun workers : Map ContainerID ActiveWorker =>
      workers.count fun _ worker => worker.runnerName = runner) activeWorkers
  · intro g id returns pooled
    rw [warmPool] at pooled
    have once := assigned.once id
    have warm := warmAt_mem pooled
    have holders := tally_nonneg (Goroutine.holds_nonneg id) state.goroutines
    have owner := Map.found_le_weigh state.goroutines (fun _ => Goroutine.owns id)
      (fun _ => Goroutine.owns_nonneg id) g
    rw [returns.owns] at owner
    simp only [occupied, owned, tally] at once holders
    omega

theorem readable_reached (interfaces : Interfaces Managers Event Outcome) {maxWorkers warmWorkers : Int}
    {managers : Managers} {state : System Managers}
    (reached : Reaches (step interfaces) (Resumed maxWorkers warmWorkers managers) KeepsNames state) :
    Assigned state ∧ Readable state := by
  apply reached.invariant
  · intro start resumed
    exact ⟨assigned_booted resumed.started, readable_resumed resumed⟩
  · rintro earlier action after _ ⟨assigned, readable⟩ keeps taken
    have effect := step_effect interfaces taken
    exact ⟨assigned_step interfaces assigned effect, readable_step assigned readable keeps effect⟩

/-- While the names are names that Docker takes, the next process recovers the
maps of this one. -/
theorem restart_equivalent (interfaces : Interfaces Managers Event Outcome) (maxWorkers warmWorkers : Int)
    (managers : Managers) (state : System Managers)
    (reached : Reaches (step interfaces) (Resumed maxWorkers warmWorkers managers) KeepsNames state)
    (atRest : AtRest state) (containers : List ListedContainer) (reports : Reports state.docker containers)
    (maxAfter warmAfter : Int) :
    Restores state ((Orchestrator.newOrchestrator maxAfter warmAfter).recoverState (some containers)) := by
  obtain ⟨assigned, readable⟩ := readable_reached interfaces reached
  exact atRest.restores assigned readable reports maxAfter warmAfter

theorem fresh_resumed (maxWorkers warmWorkers : Int) :
    Resumed maxWorkers warmWorkers () (booted maxWorkers warmWorkers ∅ (some []) ()) :=
  ⟨∅, some [], rfl, by decide⟩

/-- A runner called `my runner`: the rename of its container is rejected, and a
restart takes the working container for a warm one. -/
theorem restart_forgets_worker : ∃ (state : System Unit) (containers : List ListedContainer),
    Reaches (step Interfaces.silent) (Resumed 1 1 ()) Verdicts state ∧ AtRest state ∧
    Reports state.docker containers ∧
    ¬Restores state ((Orchestrator.newOrchestrator 1 1).recoverState (some containers)) := by
  obtain ⟨state, reached, atRest, reports, returned⟩ : ∃ state, Reaches (step Interfaces.silent) (Resumed 1 1 ())
      Verdicts state ∧ AtRest state ∧
      Reports state.docker [⟨"c1", ["/github-mux-warm-0a1b2c3d"], "running", ["10.0.0.1"]⟩] ∧
      state.goroutines.lookup 1 = some (.allocate "my runner" (.returned ⟨"c1", "10.0.0.1"⟩)) := by
    apply Reaches.of_replay (fresh_resumed 1 1) [.poolLock, .poolLoop 0, .poolLoop 1,
      .bootCreate 0 "c1" "0a1b2c3d" "10.0.0.1", .bootInspect 0, .bootRecord 0, .bootCheck 0 true, .bootBroadcast 0,
      .allocate 1 "my runner" (some "c1"), .rename 1 none, .check 1 true, .register 1, .markBusy 1, .evaluate 1 ()]
    decide
  refine ⟨state, _, reached, atRest, reports, fun restores => ?_⟩
  exact restores.handedOut 1 "c1" ⟨"my runner", _, returned, rfl⟩ (by decide)

theorem restart_equivalent_renamed : ∃ state : System Unit,
    state.orchestrator.activeWorkers.lookup "c1" = some ⟨"c1", "10.0.0.1", "my_runner"⟩ ∧
    Restores state ((Orchestrator.newOrchestrator 2 0).recoverState
      (some [⟨"c1", ["/github-mux-active-my_runner-9f8e7d6c"], "running", ["10.0.0.1"]⟩])) := by
  obtain ⟨state, reached, atRest, reports, working⟩ : ∃ state, Reaches (step Interfaces.silent) (Resumed 1 1 ())
      KeepsNames state ∧ AtRest state ∧
      Reports state.docker [⟨"c1", ["/github-mux-active-my_runner-9f8e7d6c"], "running", ["10.0.0.1"]⟩] ∧
      state.orchestrator.activeWorkers.lookup "c1" = some ⟨"c1", "10.0.0.1", "my_runner"⟩ := by
    apply Reaches.of_replay (fresh_resumed 1 1) [.poolLock, .poolLoop 0, .poolLoop 1,
      .bootCreate 0 "c1" "0a1b2c3d" "10.0.0.1", .bootInspect 0, .bootRecord 0, .bootCheck 0 true, .bootBroadcast 0,
      .allocate 1 "my_runner" (some "c1"), .rename 1 (some "9f8e7d6c"), .check 1 true, .register 1, .markBusy 1, .evaluate 1 ()]
    decide
  exact ⟨state, working, restart_equivalent Interfaces.silent 1 1 () state reached atRest _ reports 2 0⟩

end System

end RunnersMux

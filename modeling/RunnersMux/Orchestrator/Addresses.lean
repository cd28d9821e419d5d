import RunnersMux.Orchestrator.Jobs
import RunnersMux.Orchestrator.Orphans

/-! The addresses that the orchestrator hands out with its containers.

A caller of `AllocateWorker` reaches its container by an address. A container keeps
the address that Docker has given it, so a worker that is recorded once stays
accurate; that nobody else answers at the address is up to Docker.
-/

set_option autoImplicit false

namespace RunnersMux

open Foundations

/-- The worker that a goroutine has been told the address of. -/
def Goroutine.worker : Goroutine → Option WarmWorker
  | .boot (.started worker) | .allocate _ (.claimed worker) | .allocate _ (.renamed worker)
  | .allocate _ (.dead worker) | .allocate _ (.alive worker) | .allocate _ (.registered worker)
  | .allocate _ (.marked worker) | .allocate _ (.returned worker) => some worker
  | _ => none

/-- Docker has the container under this address. -/
def Located (docker : Map ContainerID Container) (worker : WarmWorker) : Prop :=
  ∃ record, docker.lookup worker.containerID = some record ∧ record.ipAddress = worker.ipAddress

/-- Containers keep their addresses, and none starts again. -/
def Unmoved (docker after : Map ContainerID Container) : Prop :=
  ∀ id record, docker.lookup id = some record → ∃ kept, after.lookup id = some kept ∧
    kept.ipAddress = record.ipAddress ∧ (kept.running = true → record.running = true)

theorem Unmoved.refl (docker : Map ContainerID Container) : Unmoved docker docker :=
  fun _ record found => ⟨record, found, rfl, id⟩

theorem Lasting.unmoved {docker after : Map ContainerID Container} (lasting : Lasting docker after) :
    Unmoved docker after := by
  intro id record found
  obtain ⟨kept, looked, _, address, alive⟩ := lasting id record found
  exact ⟨kept, looked, address, alive⟩

theorem Unmoved.located {docker after : Map ContainerID Container} (unmoved : Unmoved docker after)
    {worker : WarmWorker} (located : Located docker worker) : Located after worker := by
  obtain ⟨record, found, address⟩ := located
  obtain ⟨kept, looked, same, _⟩ := unmoved _ record found
  exact ⟨kept, looked, same.trans address⟩

section
variable {Managers : Type} {state after : System Managers} {id : ContainerID}

theorem System.running_iff :
    state.running id = true ↔ ∃ record, state.docker.lookup id = some record ∧ record.running = true := by
  unfold System.running
  split
  · next record found => simp [found]
  · next absent => simp [absent]

theorem Unmoved.gone (unmoved : Unmoved state.docker after.docker) (gone : state.Gone id) : after.Gone id := by
  obtain ⟨record, found, dead⟩ := gone
  obtain ⟨kept, looked, _, alive⟩ := unmoved id record found
  refine ⟨kept, looked, ?_⟩
  cases running : kept.running with
  | false => rfl
  | true => cases dead.symm.trans (alive running)

/-- A container that Docker has known does not start again. -/
theorem Unmoved.running (unmoved : Unmoved state.docker after.docker) (known : state.docker.lookup id ≠ none)
    (running : after.running id = true) : state.running id = true := by
  obtain ⟨record, found⟩ := Option.ne_none_iff_exists'.mp known
  obtain ⟨kept, looked, _, alive⟩ := unmoved id record found
  obtain ⟨now, there, runs⟩ := System.running_iff.mp running
  cases looked.symm.trans there
  exact System.running_iff.mpr ⟨record, found, alive runs⟩

end

namespace System

variable {Managers Event Outcome : Type}

theorem unmoved_rename (state : System Managers) (key : ContainerID) (name : String) :
    Unmoved state.docker (state.containerRename key name).docker := by
  intro id record found
  unfold containerRename
  split
  · next other known =>
      dsimp only
      rw [Map.lookup_insert_if]
      split
      · next same =>
          subst same
          cases known.symm.trans found
          exact ⟨_, rfl, rfl, fun running => running⟩
      · exact ⟨record, found, rfl, fun running => running⟩
  · exact ⟨record, found, rfl, fun running => running⟩

theorem effect_unmoved {interfaces : Interfaces Managers Event Outcome} {state after : System Managers}
    {action : Action Event Outcome} (effect : Effect interfaces state action after) :
    Unmoved state.docker after.docker := by
  cases effect with
  | bootCreate found fresh => exact (lasting_insert fresh _).unmoved
  | bootInspectFail found | discard found | kill found => exact (state.lasting_remove _ _).unmoved
  | die alive => exact (state.lasting_stop _).unmoved
  | rename found => exact state.unmoved_rename _ _
  | bootDeath found free reaped => cases reaped <;> exact .refl _
  | dieEvent known dead fresh free reaped => cases reaped <;> exact .refl _
  | @evaluate g outcome caller later found goes free =>
      obtain ⟨paused, managers, frame⟩ := state.evaluateCapacity_frame interfaces.pauser outcome
      rw [frame]
      exact .refl _
  | _ => exact .refl _

/-- A container that runs after a step ran before it, or was created by it under a new address. -/
theorem effect_running {interfaces : Interfaces Managers Event Outcome} {state after : System Managers}
    {action : Action Event Outcome} (effect : Effect interfaces state action after) {id : ContainerID}
    {record : Container} (found : after.docker.lookup id = some record) (running : record.running = true) :
    (∃ old, state.docker.lookup id = some old ∧ old.running = true ∧ old.ipAddress = record.ipAddress) ∨
      ∃ g short, action = .bootCreate g id short record.ipAddress := by
  cases before : state.docker.lookup id with
  | some old =>
      obtain ⟨kept, looked, address, alive⟩ := effect_unmoved effect id old before
      cases looked.symm.trans found
      exact .inl ⟨old, rfl, alive running, address.symm⟩
  | none =>
      right
      cases effect with
      | @bootCreate g key short ipAddress starting fresh =>
          rcases Map.lookup_of_insert found with ⟨rfl, rfl⟩ | ⟨_, old⟩
          · exact ⟨g, short, rfl⟩
          · cases before.symm.trans old
      | bootInspectFail | discard | kill => cases (remove_absent before).symm.trans found
      | die => cases (stop_absent before).symm.trans found
      | rename => cases (containerRename_unknown.mpr before).symm.trans found
      | bootDeath _ _ reaped => cases reaped <;> cases before.symm.trans found
      | dieEvent _ _ _ _ reaped => cases reaped <;> cases before.symm.trans found
      | @evaluate g outcome =>
          obtain ⟨paused, managers, frame⟩ := state.evaluateCapacity_frame interfaces.pauser outcome
          rw [frame] at found
          cases before.symm.trans found
      | _ => cases before.symm.trans found

/-- Every worker that the pool or a goroutine has is under its own address. -/
structure Addressed (state : System Managers) : Prop where
  pool : ∀ id worker, state.orchestrator.warmPool.lookup id = some worker → Located state.docker worker
  goroutines : ∀ g goroutine worker, state.goroutines.lookup g = some goroutine → goroutine.worker = some worker →
    Located state.docker worker

section
variable {state between : System Managers} {g : GoroutineID} {new : Goroutine}

/-- A section that ends with one goroutine in a new phase. -/
theorem Addressed.resume (addressed : Addressed state) (same : between.goroutines = state.goroutines)
    (unmoved : Unmoved state.docker between.docker)
    (pool : ∀ id worker, between.orchestrator.warmPool.lookup id = some worker → Located between.docker worker)
    (told : ∀ worker, new.worker = some worker → Located between.docker worker) : Addressed (between.resume g new) := by
  constructor
  · exact pool
  · intro h goroutine worker found has
    rw [resume_goroutines, same, Map.lookup_insert_if] at found
    split at found
    · cases found
      exact told worker has
    · exact unmoved.located (addressed.goroutines h goroutine worker found has)

/-- Such a section that leaves Docker and the pool. -/
theorem Addressed.quiet (addressed : Addressed state) (same : between.goroutines = state.goroutines)
    (docker : between.docker = state.docker)
    (pool : ∀ id worker, between.orchestrator.warmPool.lookup id = some worker →
      ∃ key, state.orchestrator.warmPool.lookup key = some worker)
    (told : ∀ worker, new.worker = some worker → Located state.docker worker) : Addressed (between.resume g new) := by
  apply addressed.resume same
  · rw [docker]
    exact .refl _
  · intro id worker found
    obtain ⟨key, before⟩ := pool id worker found
    rw [docker]
    exact addressed.pool key worker before
  · rw [docker]
    exact told

/-- What a claim takes out of the pool is under its address. -/
theorem Addressed.pick (addressed : Addressed state) {runner : RunnerName} {start o : Orchestrator}
    {phase : AllocatePhase} (picked : Picked start o phase) (warm : start.warmPool = state.orchestrator.warmPool) :
    Addressed ({ state with orchestrator := o }.resume g (.allocate runner phase)) := by
  cases picked with
  | wait empty =>
      refine addressed.quiet rfl rfl ?_ (fun _ has => by cases has)
      intro id worker found
      exact ⟨id, warm ▸ found⟩
  | claim found =>
      refine addressed.quiet rfl rfl ?_ ?_
      · intro id worker kept
        exact ⟨id, warm ▸ Map.lookup_of_erase kept⟩
      · intro worker has
        cases has
        exact addressed.pool _ _ (warm ▸ found)

theorem Reaped.pool {reporter : StatusReporter Managers} {key : ContainerID} {changed : Bool}
    (reaped : Reaped reporter state key between changed) {id : ContainerID} {worker : WarmWorker}
    (found : between.orchestrator.warmPool.lookup id = some worker) :
    state.orchestrator.warmPool.lookup id = some worker := by
  cases reaped with
  | active | unknown => exact found
  | warm => exact Map.lookup_of_erase found

theorem Reaped.docker {reporter : StatusReporter Managers} {key : ContainerID} {changed : Bool}
    (reaped : Reaped reporter state key between changed) : between.docker = state.docker := by
  cases reaped <;> rfl

end

theorem addressed_step (interfaces : Interfaces Managers Event Outcome) {state after : System Managers}
    {action : Action Event Outcome} (addressed : Addressed state) (effect : Effect interfaces state action after) :
    Addressed after := by
  have unmoved := effect_unmoved effect
  have stays (id : ContainerID) (worker : WarmWorker) (found : state.orchestrator.warmPool.lookup id = some worker) :
      Located after.docker worker := unmoved.located (addressed.pool id worker found)
  have kept {g : GoroutineID} {old new : Goroutine} (found : state.goroutines.lookup g = some old)
      (same : new.worker = old.worker) (worker : WarmWorker) (has : new.worker = some worker) :
      Located after.docker worker :=
    unmoved.located (addressed.goroutines g old worker found (same.symm.trans has))
  have nothing {new : Goroutine} (none_ : new.worker = none) (worker : WarmWorker) (has : new.worker = some worker) :
      Located after.docker worker := by
    rw [none_] at has
    cases has
  cases effect with
  | poolLock | poolBlock | setStatusReporter | managers | updateSettings =>
      exact ⟨addressed.pool, addressed.goroutines⟩
  | poolBoot | bootCreateFail | bootGiveUp | bootAlive | bootDead | bootBroadcast | cancel | abortActive
  | abortUnknown =>
      exact addressed.resume rfl unmoved stays (nothing rfl)
  | bootCreate => exact addressed.resume rfl unmoved stays (nothing rfl)
  | bootInspect found known =>
      refine addressed.resume rfl unmoved stays ?_
      intro worker has
      cases has
      exact ⟨_, known, rfl⟩
  | @bootPool g worker found free =>
      refine addressed.resume rfl unmoved ?_ (nothing rfl)
      intro id pooled added
      rcases Map.lookup_of_insert added with ⟨rfl, rfl⟩ | ⟨_, old⟩
      · exact addressed.goroutines g _ _ found rfl
      · exact stays id pooled old
  | bootInspectFail | discard | kill =>
      refine addressed.resume (remove_goroutines ..) unmoved ?_ (nothing rfl)
      rw [remove_orchestrator]
      exact stays
  | die =>
      constructor
      · rw [stop_orchestrator]
        exact stays
      · intro g goroutine worker found has
        rw [stop_goroutines] at found
        exact unmoved.located (addressed.goroutines g goroutine worker found has)
  | bootDeath found free reaped =>
      refine addressed.resume reaped.goroutines unmoved (fun id worker found => stays id worker (reaped.pool found)) ?_
      apply nothing
      split <;> rfl
  | dieEvent known dead fresh free reaped =>
      refine addressed.resume reaped.goroutines unmoved (fun id worker found => stays id worker (reaped.pool found)) ?_
      apply nothing
      split <;> rfl
  | allocate fresh free picked => exact addressed.pick picked rfl
  | wake found closed free picked => exact addressed.pick picked rfl
  | retry found free picked => exact addressed.pick picked rfl
  | rename found =>
      refine addressed.resume (containerRename_goroutines ..) unmoved ?_ (kept found rfl)
      rw [containerRename_orchestrator]
      exact stays
  | renameFail found | checkAlive found | checkDead found | register found | markBusy found =>
      exact addressed.resume rfl unmoved stays (kept found rfl)
  | @evaluate g outcome caller later found goes free =>
      obtain ⟨paused, managers, frame⟩ := state.evaluateCapacity_frame interfaces.pauser outcome
      rw [frame] at unmoved stays kept nothing ⊢
      refine addressed.resume rfl unmoved stays (kept found ?_)
      unfold afterEvaluation at goes
      split at goes <;> cases goes <;> rfl

/-- The workers that `recoverState` puts into the pool are under the addresses that Docker lists. -/
theorem addressed_booted {docker : Map ContainerID Container} {listing : Option (List ListedContainer)}
    (reports : ∀ containers, listing = some containers → Reports docker containers) (maxWorkers warmWorkers : Int)
    (managers : Managers) : Addressed (booted maxWorkers warmWorkers docker listing managers) := by
  constructor
  · apply Orchestrator.recoverState_keeps fun o =>
      ∀ id worker, o.warmPool.lookup id = some worker → Located docker worker
    · intro o container after member before recovers id worker found
      cases recovers with
      | skip => exact before id worker found
      | active up runner => exact before id worker found
      | warm up =>
          rcases Map.lookup_of_insert found with ⟨rfl, rfl⟩ | ⟨_, old⟩
          · cases listing with
            | none => cases member
            | some containers =>
                have reports := reports containers rfl
                obtain ⟨record, known, _⟩ := reports.known container member
                exact ⟨record, known, (reports.named container member record known).2.symm⟩
          · exact before id worker old
    · intro id worker found
      cases found
  · intro g goroutine worker found
    cases found

/-- No two running containers have one address. -/
def Apart (docker : Map ContainerID Container) : Prop :=
  ∀ id ∈ docker.keys, ∀ other ∈ docker.keys, ∀ one ∈ docker.lookup id, ∀ two ∈ docker.lookup other,
    one.running = true → two.running = true → one.ipAddress = two.ipAddress → id = other

/-- Nobody answers at an address. -/
def Unused (docker : Map ContainerID Container) (ipAddress : String) : Prop :=
  ∀ id ∈ docker.keys, ∀ record ∈ docker.lookup id, record.running = true → record.ipAddress ≠ ipAddress

instance (docker : Map ContainerID Container) : Decidable (Apart docker) :=
  inferInstanceAs (Decidable (∀ id ∈ docker.keys, ∀ other ∈ docker.keys, ∀ one ∈ docker.lookup id,
    ∀ two ∈ docker.lookup other, _))

instance (docker : Map ContainerID Container) (ipAddress : String) : Decidable (Unused docker ipAddress) :=
  inferInstanceAs (Decidable (∀ id ∈ docker.keys, ∀ record ∈ docker.lookup id, _))

theorem Unused.ne {docker : Map ContainerID Container} {ipAddress : String} (unused : Unused docker ipAddress)
    {id : ContainerID} {record : Container} (found : docker.lookup id = some record) (running : record.running = true) :
    record.ipAddress ≠ ipAddress :=
  unused id (Finmap.mem_keys.mpr (Finmap.mem_of_lookup_eq_some found)) record found running

theorem Apart.eq {docker : Map ContainerID Container} (apart : Apart docker) {id other : ContainerID}
    {one two : Container} (found : docker.lookup id = some one) (also : docker.lookup other = some two)
    (runs : one.running = true) (running : two.running = true) (same : one.ipAddress = two.ipAddress) : id = other :=
  apart id (Finmap.mem_keys.mpr (Finmap.mem_of_lookup_eq_some found)) other
    (Finmap.mem_keys.mpr (Finmap.mem_of_lookup_eq_some also)) one found two also runs running same

theorem apart_step {interfaces : Interfaces Managers Event Outcome} {state after : System Managers}
    {action : Action Event Outcome} (apart : Apart state.docker) (effect : Effect interfaces state action after)
    (unused : ∀ g id short ipAddress, action = .bootCreate g id short ipAddress → Unused state.docker ipAddress) :
    Apart after.docker := by
  intro id _ other _ one found two also runs running same
  rcases effect_running effect found runs with ⟨old, known, up, address⟩ | ⟨g, short, created⟩
  · rcases effect_running effect also running with ⟨last, there, goes, place⟩ | ⟨g, short, created⟩
    · exact apart.eq known there up goes (address.trans (same.trans place.symm))
    · exact absurd (address.trans same) ((unused _ _ _ _ created).ne known up)
  · rcases effect_running effect also running with ⟨last, there, goes, place⟩ | ⟨h, suffix, again⟩
    · exact absurd (place.trans same.symm) ((unused _ _ _ _ created).ne there goes)
    · exact (Action.bootCreate.inj (created.symm.trans again)).2.1

end System

end RunnersMux

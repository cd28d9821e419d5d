import RunnersMux.Foundations.Counting
import RunnersMux.Orchestrator.Capacity
import RunnersMux.Orchestrator.Counters
import RunnersMux.Orchestrator.Restart

/-! Running containers that nobody answers for.

`maintainPool` counts what the two maps record. The host runs whatever Docker
runs: a container is in neither map while a call carries it to one of them or to
its removal. With every running container in a map or carried, the limit on the
maps is one on the host, up to the containers that are on their way out.
-/

set_option autoImplicit false

namespace RunnersMux

open Foundations

namespace Goroutine

/-- The container that a goroutine carries. -/
def cargo : Goroutine → Option ContainerID
  | .boot (.inspecting id) | .abort (.evaluating id) | .abort (.killing id) => some id
  | .boot (.started worker) | .allocate _ (.claimed worker) | .allocate _ (.renamed worker)
  | .allocate _ (.dead worker) | .allocate _ (.alive worker) => some worker.containerID
  | _ => none

/-- One for a call that is about to remove the container it carries. -/
def removes : Goroutine → Int
  | .allocate _ (.dead _) | .abort (.evaluating _) | .abort (.killing _) => 1
  | _ => 0

theorem cargo_eq_some {goroutine : Goroutine} {id : ContainerID} :
    goroutine.cargo = some id ↔ goroutine.carries id := by
  unfold cargo carries
  split <;> simp

/-- A carried container takes a slot of the limit, or is on its way out. -/
theorem cargo_slots (goroutine : Goroutine) :
    (if goroutine.cargo.isSome then 1 else 0) ≤ goroutine.boots + goroutine.claimed + goroutine.removes := by
  unfold cargo boots claimed removes
  cases goroutine with
  | boot phase => cases phase <;> simp
  | allocate runner phase => cases phase <;> simp
  | death phase => simp
  | abort phase => cases phase <;> simp

end Goroutine

namespace System

variable {Managers Event Outcome : Type}

/-- What a boot goroutine gives up is dead, the inspection that says so has not failed, and the running
containers that a forced removal fails for are some that are known. -/
structure Inspected (left : Finset ContainerID) (state : System Managers) (action : Action Event Outcome) : Prop where
  dead : ∀ id ∈ state.givesUp action, state.Gone id
  removed : ∀ id ∈ state.leaves action, state.running id = true → id ∈ left

instance (state : System Managers) (id : ContainerID) : Decidable (state.Gone id) :=
  decidable_of_iff ((state.docker.lookup id).any fun container => !container.running) <| by
    simp [Gone, Option.any_eq_true]

instance (left : Finset ContainerID) (state : System Managers) (action : Action Event Outcome) :
    Decidable (Inspected left state action) :=
  decidable_of_iff ((∀ id ∈ state.givesUp action, state.Gone id) ∧
      ∀ id ∈ state.leaves action, state.running id = true → id ∈ left)
    ⟨fun both => ⟨both.1, both.2⟩, fun inspected => ⟨inspected.dead, inspected.removed⟩⟩

/-- Where a process starts that finds no managed container under a foreign name. -/
def Adopted (maxWorkers warmWorkers : Int) (managers : Managers) (state : System Managers) : Prop :=
  ∃ docker containers, Reports docker containers ∧
    (∀ id record, docker.lookup id = some record → record.running = true → ¬unread record.name) ∧
    state = booted maxWorkers warmWorkers docker (some containers) managers

/-- Every running container is in a map or carried, but for some whose removal has failed. -/
structure Followed (left : Finset ContainerID) (state : System Managers) : Prop where
  found : ∀ id, id ∉ left → state.running id = true →
    id ∈ state.orchestrator.warmPool ∨ id ∈ state.orchestrator.activeWorkers ∨ state.Carried id
  dead : ∀ g worker, state.goroutines.lookup g = some (.boot (.dead worker)) → state.Gone worker.containerID

/-- A section that ends with one goroutine in a new phase. Whatever it takes out of
a map, or its goroutine put down, is in a map or carried again. -/
theorem Followed.resume {left : Finset ContainerID} {state between : System Managers} {g : GoroutineID}
    {old : Option Goroutine} {new : Goroutine}
    (followed : Followed left state) (same : between.goroutines = state.goroutines)
    (looked : state.goroutines.lookup g = old)
    (gone : ∀ id, state.Gone id → between.Gone id)
    (runs : ∀ id, between.running id = true → state.running id = true ∨ new.carries id)
    (kept : ∀ id, id ∉ left → between.running id = true → id ∈ state.orchestrator.warmPool ∨
        id ∈ state.orchestrator.activeWorkers ∨ Goroutine.carriedBy id old →
      id ∈ between.orchestrator.warmPool ∨ id ∈ between.orchestrator.activeWorkers ∨ new.carries id)
    (dead : ∀ worker, new = .boot (.dead worker) → between.Gone worker.containerID) :
    Followed left (between.resume g new) := by
  have here (id : ContainerID) (carries : new.carries id) : (between.resume g new).Carried id :=
    ⟨g, new, Finmap.lookup_insert _, carries⟩
  have again (id : ContainerID) (outside : id ∉ left) (runs : between.running id = true)
      (before : id ∈ state.orchestrator.warmPool ∨ id ∈ state.orchestrator.activeWorkers ∨
        Goroutine.carriedBy id old) : id ∈ between.orchestrator.warmPool ∨ id ∈ between.orchestrator.activeWorkers ∨
        (between.resume g new).Carried id :=
    (kept id outside runs before).imp_right (.imp_right (here id))
  constructor
  · intro id outside running
    have running : between.running id = true := running
    rcases runs id running with before | carries
    · rcases followed.found id outside before with warm | active | ⟨other, goroutine, found, carries⟩
      · exact again id outside running (.inl warm)
      · exact again id outside running (.inr (.inl active))
      · by_cases mine : other = g
        · subst mine
          apply again id outside running
          rw [← looked, found]
          exact .inr (.inr carries)
        · refine .inr (.inr ⟨other, goroutine, ?_, carries⟩)
          rw [resume_goroutines, same, Finmap.lookup_insert_of_ne _ mine]
          exact found
    · exact .inr (.inr (here id carries))
  · intro other worker found
    rw [resume_goroutines, Map.lookup_insert_if, same] at found
    split at found
    · exact dead worker (Option.some.inj found)
    · exact gone _ (followed.dead other worker found)

/-- Such a section that takes nothing out of the maps, and whose goroutine keeps what it carries. -/
theorem Followed.quiet {left : Finset ContainerID} {state between : System Managers} {g : GoroutineID}
    {old : Option Goroutine} {new : Goroutine}
    (followed : Followed left state) (same : between.goroutines = state.goroutines)
    (looked : state.goroutines.lookup g = old)
    (docker : between.docker = state.docker)
    (warm : between.orchestrator.warmPool = state.orchestrator.warmPool)
    (active : between.orchestrator.activeWorkers = state.orchestrator.activeWorkers)
    (passes : ∀ id, Goroutine.carriedBy id old → new.carries id)
    (dead : ∀ worker, new = .boot (.dead worker) → state.Gone worker.containerID) :
    Followed left (between.resume g new) := by
  have gone (id : ContainerID) : between.Gone id ↔ state.Gone id := by
    unfold Gone
    rw [docker]
  have running (id : ContainerID) : between.running id = state.running id := by
    unfold System.running
    rw [docker]
  refine followed.resume same looked (fun id => (gone id).mpr) (fun id runs => .inl ((running id).symm.trans runs)) ?_
    (fun worker is => (gone _).mpr (dead worker is))
  intro id _ _ before
  rw [warm, active]
  exact before.imp_right (.imp_right (passes id))

theorem stop_running {state : System Managers} {key id : ContainerID} (running : (state.stop key).running id = true) :
    state.running id = true ∧ id ≠ key := by
  unfold System.running at running
  split at running
  · next record found =>
      obtain ⟨earlier, before⟩ := Option.ne_none_iff_exists'.mp fun absent => by
        cases (stop_absent absent).symm.trans found
      obtain ⟨kept, again, _, _, alive⟩ := lasting_stop state key id earlier before
      cases found.symm.trans again
      constructor
      · unfold System.running
        rw [before]
        exact alive running
      · rintro rfl
        cases (stop_stopped found).symm.trans running
  · cases running

theorem remove_running {state : System Managers} {removed : Bool} {key id : ContainerID}
    (running : (state.remove removed key).running id = true) :
    state.running id = true ∧ (id = key → removed = false) := by
  rcases state.remove_cases key removed with ⟨same, fails⟩ | ⟨same, _⟩ <;> rw [same] at running
  · exact ⟨running, fun _ => fails⟩
  · exact ⟨(stop_running running).1, fun mine => absurd mine (stop_running running).2⟩

theorem containerRename_running (state : System Managers) (key id : ContainerID) (name : String) :
    (state.containerRename key name).running id = state.running id := by
  cases known : state.docker.lookup key with
  | none => simp only [containerRename, known]
  | some record =>
      by_cases same : id = key
      · subst same
        simp [System.running, containerRename, known]
      · simp [System.running, containerRename, known, same]

theorem containerRename_unknown {state : System Managers} {key id : ContainerID} {name : String} :
    (state.containerRename key name).docker.lookup id = none ↔ state.docker.lookup id = none := by
  constructor
  · exact containerRename_known
  · intro absent
    unfold containerRename
    split
    · next container found =>
        rw [Map.lookup_insert_if]
        split
        · next same =>
            subst same
            cases absent.symm.trans found
        · exact absent
    · exact absent

/-- The container that the goroutine carried is removed. -/
theorem Followed.remove {left : Finset ContainerID} {state : System Managers} {g : GoroutineID}
    {old new : Goroutine} {key : ContainerID} {removed : Bool} (followed : Followed left state)
    (looked : state.goroutines.lookup g = some old)
    (spared : removed = false → state.running key = true → key ∈ left)
    (only : ∀ id, old.carries id → key = id) (new_ : ∀ worker, new ≠ .boot (.dead worker)) :
    Followed left ((state.remove removed key).resume g new) := by
  refine followed.resume (remove_goroutines ..) looked (fun id => remove_gone)
    (fun id runs => .inl (remove_running runs).1) ?_ (fun worker is => absurd is (new_ worker))
  intro id outside runs before
  rw [remove_orchestrator]
  rcases before with warm | active | mine
  · exact .inl warm
  · exact .inr (.inl active)
  · cases only id mine
    obtain ⟨alive, fails⟩ := remove_running runs
    exact absurd (spared (fails rfl) alive) outside

/-- What a claim takes out of the pool its call carries. -/
theorem Followed.pick {left : Finset ContainerID} {state : System Managers} {g : GoroutineID}
    {runner : RunnerName} {old : Option Goroutine}
    {start o : Orchestrator} {phase : AllocatePhase} (followed : Followed left state) (keyed : state.orchestrator.Keyed)
    (picked : Picked start o phase) (warm : start.warmPool = state.orchestrator.warmPool)
    (active : start.activeWorkers = state.orchestrator.activeWorkers) (looked : state.goroutines.lookup g = old)
    (empty : ∀ id, ¬Goroutine.carriedBy id old) :
    Followed left ({ state with orchestrator := o }.resume g (.allocate runner phase)) := by
  cases picked with
  | wait none_ => exact followed.quiet rfl looked rfl warm active (fun id carried => absurd carried (empty id)) nofun
  | @claim key candidate found =>
      rw [warm] at found
      have key_ := keyed key candidate found
      refine followed.resume rfl looked (fun _ gone => gone) (fun _ runs => .inl runs) ?_ nofun
      rintro id _ _ (pooled | working | carried)
      · by_cases same : id = key
        · exact .inr (.inr (key_.trans same.symm))
        · exact .inl (Finmap.mem_erase.mpr ⟨same, warm ▸ pooled⟩)
      · exact .inr (.inl (show id ∈ start.activeWorkers from active ▸ working))
      · exact absurd carried (empty id)

/-- A container whose death is handled is dead, so what the maps lose does not run. -/
theorem Followed.reap {left : Finset ContainerID} {reporter : StatusReporter Managers}
    {state between : System Managers} {g : GoroutineID}
    {key : ContainerID} {changed : Bool} {old : Option Goroutine} {new : Goroutine} (followed : Followed left state)
    (reaped : Reaped reporter state key between changed) (gone : state.Gone key)
    (looked : state.goroutines.lookup g = old) (empty : ∀ id, ¬Goroutine.carriedBy id old)
    (new_ : ∀ worker, new ≠ .boot (.dead worker)) : Followed left (between.resume g new) := by
  have docker : between.docker = state.docker := by cases reaped <;> rfl
  have running (id : ContainerID) (runs : between.running id = true) : state.running id = true ∧ id ≠ key := by
    unfold System.running at runs ⊢
    rw [docker] at runs
    refine ⟨runs, ?_⟩
    rintro rfl
    cases gone.not_running.symm.trans runs
  refine followed.resume reaped.goroutines looked ?_ (fun id runs => .inl (running id runs).1) ?_
    (fun worker is => absurd is (new_ worker))
  · intro id gone
    unfold Gone
    rw [docker]
    exact gone
  · rintro id _ runs (pooled | working | carried)
    · left
      cases reaped with
      | active | unknown => exact pooled
      | warm => exact Finmap.mem_erase.mpr ⟨(running id runs).2, pooled⟩
    · right
      left
      cases reaped with
      | active => exact Finmap.mem_erase.mpr ⟨(running id runs).2, working⟩
      | warm | unknown => exact working
    · exact absurd carried (empty id)

theorem followed_step {left : Finset ContainerID} (interfaces : Interfaces Managers Event Outcome)
    {state after : System Managers}
    {action : Action Event Outcome} (followed : Followed left state) (keyed : state.orchestrator.Keyed)
    (inspected : Inspected left state action) (effect : Effect interfaces state action after) :
    Followed left after := by
  have carriesNothing {old : Goroutine} (bare : old.cargo = none) (id : ContainerID) :
      ¬Goroutine.carriedBy id (some old) := by
    intro carries
    rw [Goroutine.cargo_eq_some.mpr carries] at bare
    cases bare
  cases effect with
  | poolLock | poolBlock | setStatusReporter | managers | updateSettings =>
      exact ⟨followed.found, followed.dead⟩
  | poolBoot held short full fresh =>
      exact followed.quiet rfl fresh rfl rfl rfl (fun _ carried => carried.elim)
        (fun _ is => by cases is)
  | @bootCreate g key short ipAddress found fresh =>
      refine followed.resume rfl found ?_ ?_ ?_ (fun _ is => by cases is)
      · rintro id ⟨container, known, dead⟩
        refine ⟨container, (Finmap.lookup_insert_of_ne _ ?_).trans known, dead⟩
        rintro rfl
        cases fresh.symm.trans known
      · intro id runs
        by_cases same : id = key
        · exact .inr same.symm
        · left
          unfold System.running at runs ⊢
          rw [Finmap.lookup_insert_of_ne _ same] at runs
          exact runs
      · exact fun id _ _ before => before.imp_right (.imp_right fun carried => absurd carried (carriesNothing rfl id))
  | bootCreateFail found | bootGiveUp found =>
      exact followed.quiet rfl found rfl rfl rfl (fun id carried => absurd carried (carriesNothing rfl id))
        (fun _ is => by cases is)
  | bootInspect found known =>
      exact followed.quiet rfl found rfl rfl rfl (fun _ carried => carried)
        (fun _ is => by cases is)
  | @bootInspectFail g removed key found =>
      refine followed.remove found ?_ (fun _ same => same) (fun _ is => by cases is)
      rintro rfl
      exact inspected.removed key (by simp [leaves, found])
  | @bootPool g worker found free =>
      -- The container is put into the pool alive or dead.
      refine followed.resume rfl found (fun _ gone => gone) (fun _ runs => .inl runs) ?_ (fun _ is => by cases is)
      rintro id _ _ (pooled | working | mine)
      · exact .inl (Finmap.mem_insert.mpr (.inr pooled))
      · exact .inr (.inl working)
      · exact .inl (Finmap.mem_insert.mpr (.inl (Eq.symm mine)))
  | bootAlive found alive =>
      exact followed.quiet rfl found rfl rfl rfl (fun id carried => absurd carried (carriesNothing rfl id))
        (fun _ is => by cases is)
  | @bootDead g worker found =>
      refine followed.quiet rfl found rfl rfl rfl (fun id carried => absurd carried (carriesNothing rfl id)) ?_
      rintro other ⟨⟩
      exact inspected.dead worker.containerID (by simp [givesUp, found])
  | bootDeath found free reaped =>
      exact followed.reap reaped (followed.dead _ _ found) found (carriesNothing rfl)
        (by split <;> exact fun _ is => by cases is)
  | bootBroadcast found free =>
      rcases found with found | found <;>
        exact followed.quiet rfl found rfl rfl rfl (fun id carried => absurd carried (carriesNothing rfl id))
          (fun _ is => by cases is)
  | allocate fresh free picked => exact followed.pick keyed picked rfl rfl fresh (fun _ carried => carried)
  | wake found closed free picked => exact followed.pick keyed picked rfl rfl found (carriesNothing rfl)
  | retry found free picked => exact followed.pick keyed picked rfl rfl found (carriesNothing rfl)
  | cancel found free | markBusy found =>
      exact followed.quiet rfl found rfl rfl rfl (fun id carried => absurd carried (carriesNothing rfl id))
        (fun _ is => by cases is)
  | @rename g runner candidate suffix found =>
      refine followed.resume (containerRename_goroutines ..) found (fun _ => containerRename_gone) ?_ ?_
        (fun _ is => by cases is)
      · intro id runs
        rw [containerRename_running] at runs
        exact .inl runs
      · rw [containerRename_orchestrator]
        exact fun _ _ _ before => before
  | renameFail found | checkAlive found | checkDead found =>
      exact followed.quiet rfl found rfl rfl rfl (fun _ carried => carried) (fun _ is => by cases is)
  | @discard g removed runner candidate found =>
      refine followed.remove found ?_ (fun _ same => same) (fun _ is => by cases is)
      rintro rfl
      exact inspected.removed candidate.containerID (by simp [leaves, found])
  | @register g runner candidate found free =>
      refine followed.resume rfl found (fun _ gone => gone) (fun _ runs => .inl runs) ?_ (fun _ is => by cases is)
      rintro id _ _ (pooled | working | mine)
      · exact .inl pooled
      · exact .inr (.inl (Finmap.mem_insert.mpr (.inr working)))
      · exact .inr (.inl (Finmap.mem_insert.mpr (.inl (Eq.symm mine))))
  | @dieEvent g key container between changed known dead fresh free reaped =>
      have after : Followed left (between.resume g (.death (if changed then .evaluating else .finished))) :=
        followed.reap reaped ⟨container, known, dead⟩ fresh (fun _ carried => carried) (fun _ is => by cases is)
      exact ⟨after.found, after.dead⟩
  | @abortActive g key worker found fresh free =>
      refine followed.resume rfl fresh (fun _ gone => gone) (fun _ runs => .inl runs) ?_ (fun _ is => by cases is)
      rintro id _ _ (pooled | working | mine)
      · exact .inl pooled
      · by_cases same : id = key
        · exact .inr (.inr same.symm)
        · exact .inr (.inl (Finmap.mem_erase.mpr ⟨same, working⟩))
      · exact mine.elim
  | abortUnknown absent fresh free =>
      exact followed.quiet rfl fresh rfl rfl rfl (fun _ carried => carried.elim) (fun _ is => by cases is)
  | @kill g removed key found =>
      refine followed.remove found ?_ (fun _ same => same) (fun _ is => by cases is)
      rintro rfl
      exact inspected.removed key (by simp [leaves, found])
  | @evaluate g outcome caller later found goes free =>
      obtain ⟨paused, managers, frame⟩ := state.evaluateCapacity_frame interfaces.pauser outcome
      rw [frame]
      refine followed.quiet rfl found rfl rfl rfl ?_ ?_
      · intro id carried
        unfold afterEvaluation at goes
        split at goes <;> cases goes <;> exact carried
      · rintro worker rfl
        unfold afterEvaluation at goes
        split at goes <;> cases goes
  | @die key alive =>
      constructor
      · intro id outside runs
        rw [stop_orchestrator]
        unfold Carried
        rw [stop_goroutines]
        exact followed.found id outside (stop_running runs).1
      · intro g worker found
        rw [stop_goroutines] at found
        exact stop_gone (followed.dead g worker found)

/-- Recovery records every running container, so the first process after a crash has lost none. -/
theorem followed_adopted {left : Finset ContainerID} {maxWorkers warmWorkers : Int} {managers : Managers}
    {state : System Managers}
    (adopted : Adopted maxWorkers warmWorkers managers state) : Followed left state := by
  obtain ⟨docker, containers, reports, ours, rfl⟩ := adopted
  constructor
  · intro id _ running
    obtain ⟨record, known, alive⟩ : ∃ record, docker.lookup id = some record ∧ record.running = true := by
      unfold System.running at running
      split at running
      · next record known => exact ⟨record, known, running⟩
      · cases running
    obtain ⟨warm, active⟩ := reports.recovers_running maxWorkers warmWorkers known alive
    by_cases reads : hasPrefix record.name namePrefixActive = true
    · rw [if_pos reads] at active
      exact .inr (.inl (Finmap.mem_of_lookup_eq_some active))
    · by_cases pooled : hasPrefix record.name namePrefixWarm = true
      · rw [if_pos ⟨Bool.eq_false_of_not_eq_true reads, pooled⟩] at warm
        exact .inl (Finmap.mem_of_lookup_eq_some warm)
      · exact absurd ⟨Bool.eq_false_of_not_eq_true reads, Bool.eq_false_of_not_eq_true pooled⟩
          (ours id record known alive)
  · intro g worker found
    cases found

theorem Adopted.started {maxWorkers warmWorkers : Int} {managers : Managers} {state : System Managers}
    (adopted : Adopted maxWorkers warmWorkers managers state) : Started maxWorkers warmWorkers managers state := by
  obtain ⟨docker, containers, reports, _, shape⟩ := adopted
  refine ⟨docker, some containers, ?_, shape⟩
  rintro _ ⟨⟩
  exact reports.toLists

/-- No container runs that the orchestrator does not answer for: from recovery on, every
running container is in a map or in the hands of a call, or a forced removal has failed for it. -/
theorem no_orphans (interfaces : Interfaces Managers Event Outcome) (maxWorkers warmWorkers : Int)
    (managers : Managers) (left : Finset ContainerID) (state : System Managers)
    (reached : Reaches (step interfaces) (Adopted maxWorkers warmWorkers managers) (Inspected left) state)
    (id : ContainerID) (outside : id ∉ left) (running : state.running id = true) :
    id ∈ state.orchestrator.warmPool ∨ id ∈ state.orchestrator.activeWorkers ∨ state.Carried id := by
  have both : Assigned state ∧ Followed left state := by
    apply reached.invariant
    · intro start adopted
      exact ⟨assigned_booted adopted.started, followed_adopted adopted⟩
    · rintro earlier action after _ ⟨assigned, followed⟩ inspected taken
      have effect := step_effect interfaces taken
      exact ⟨assigned_step interfaces assigned effect,
        followed_step interfaces followed assigned.keyed inspected effect⟩
  exact both.2.found id outside running

theorem oneWarm_adopted (maxWorkers warmWorkers : Int) :
    Adopted maxWorkers warmWorkers () (oneWarm maxWorkers warmWorkers) := by
  refine ⟨_, _, by decide +kernel, ?_, rfl⟩
  intro id record known _
  rcases Map.lookup_of_insert known with ⟨_, rfl⟩ | ⟨_, absent⟩
  · rintro ⟨_, unpooled⟩
    revert unpooled
    decide +kernel
  · cases absent

/-- A claimed container is in neither map, and its call carries it. -/
theorem no_orphans_claimed : ∃ state : System Unit, state.running "c1" = true ∧ state.orchestrator.warmPool = ∅ ∧
    ("c1" ∈ state.orchestrator.warmPool ∨ "c1" ∈ state.orchestrator.activeWorkers ∨ state.Carried "c1") := by
  obtain ⟨state, reached, running, empty⟩ : ∃ state,
      Reaches (step Interfaces.silent) (Adopted 1 1 ()) (Inspected ∅) state ∧
      state.running "c1" = true ∧ state.orchestrator.warmPool = ∅ := by
    apply Reaches.of_replay (oneWarm_adopted 1 1) [.allocate 0 "r" (some "c1")]
    decide
  exact ⟨state, running, empty, no_orphans Interfaces.silent 1 1 () ∅ state reached "c1" (by simp) running⟩

def removals (state : System Managers) : Int := tally Goroutine.removes state.goroutines

/-- The containers that the host runs. -/
def runningCount (state : System Managers) : Int := state.docker.count fun _ container => container.running

/-- The running containers are among those recorded and those carried. -/
theorem Followed.runningCount_le {left : Finset ContainerID} {state : System Managers}
    (followed : Followed left state) :
    state.runningCount ≤ left.card + state.orchestrator.warmPool.size + state.orchestrator.activeWorkers.size +
      tally (fun goroutine => if goroutine.cargo.isSome then 1 else 0) state.goroutines := by
  have covered : state.runningCount ≤ (left ∪ (state.orchestrator.warmPool.keys ∪
      state.orchestrator.activeWorkers.keys ∪ state.goroutines.gather Goroutine.cargo)).card := by
    apply Map.count_le_card
    intro id container known running
    have runs : state.running id = true := by
      unfold System.running
      rw [known]
      exact running
    rw [Finset.mem_union, Finset.mem_union, Finset.mem_union, Finmap.mem_keys, Finmap.mem_keys, Map.mem_gather]
    by_cases inside : id ∈ left
    · exact .inl inside
    · rcases followed.found id inside runs with warm | active | ⟨g, goroutine, looked, carries⟩
      · exact .inr (.inl (.inl warm))
      · exact .inr (.inl (.inr active))
      · exact .inr (.inr ⟨g, goroutine, looked, Goroutine.cargo_eq_some.mpr carries⟩)
  have carried := Map.card_gather_le state.goroutines Goroutine.cargo
  have all := Finset.card_union_le left (state.orchestrator.warmPool.keys ∪ state.orchestrator.activeWorkers.keys ∪
    state.goroutines.gather Goroutine.cargo)
  have outer := Finset.card_union_le (state.orchestrator.warmPool.keys ∪ state.orchestrator.activeWorkers.keys)
    (state.goroutines.gather Goroutine.cargo)
  have inner := Finset.card_union_le state.orchestrator.warmPool.keys state.orchestrator.activeWorkers.keys
  rw [Map.size_eq_card, Map.size_eq_card]
  unfold tally
  omega

/-- Every carried container has a slot of the limit, but for those being removed. -/
theorem Slots.runningCount_le {maxWorkers : Int} {left : Finset ContainerID} {state : System Managers}
    (slots : Slots maxWorkers state) (tallied : Tallied state) (followed : Followed left state) :
    state.runningCount ≤ maxWorkers + state.removals + left.card := by
  have carried : tally (fun goroutine => if goroutine.cargo.isSome then 1 else 0) state.goroutines ≤
      tally Goroutine.boots state.goroutines + state.claimedCount + state.removals := by
    unfold claimedCount removals tally
    rw [← Map.weigh_add, ← Map.weigh_add]
    exact Map.weigh_le state.goroutines fun _ goroutine _ => goroutine.cargo_slots
  have all := followed.runningCount_le
  have room := slots.room
  have booting := tallied.booting
  unfold Orchestrator.total at room
  omega

/-- The host never runs more worker containers than the limit, up to those that an abort
or a discard is about to remove, and those that a removal has failed for. -/
theorem running_bounded (interfaces : Interfaces Managers Event Outcome) (maxWorkers warmWorkers : Int)
    (managers : Managers) (left : Finset ContainerID) (state : System Managers)
    (reached : Reaches (step interfaces)
      (fun start => Adopted maxWorkers warmWorkers managers start ∧ WithinCapacity maxWorkers start)
      (fun state action => Inspected left state action ∧ admitsClaims maxWorkers state action) state) :
    state.runningCount ≤ maxWorkers + state.removals + left.card := by
  have all : Assigned state ∧ Tallied state ∧ Slots maxWorkers state ∧ Followed left state := by
    apply reached.invariant
    · rintro start ⟨adopted, within⟩
      exact ⟨assigned_booted adopted.started, tallied_booted adopted.started, slots_booted adopted.started within,
        followed_adopted adopted⟩
    · rintro earlier action after _ ⟨assigned, tallied, slots, followed⟩ ⟨inspected, admitted⟩ taken
      have effect := step_effect interfaces taken
      exact ⟨assigned_step interfaces assigned effect, tallied_step interfaces tallied effect,
        slots_step interfaces slots admitted effect, followed_step interfaces followed assigned.keyed inspected effect⟩
  obtain ⟨_, tallied, slots, followed⟩ := all
  exact slots.runningCount_le tallied followed

/-- The pool boots a successor of an aborted container before that is killed, and the kill fails: two run
against a limit of one. -/
theorem running_bounded_aborting : ∃ state : System Unit, (state.runningCount = 2 ∧ state.removals = 0) ∧
    state.runningCount ≤ 1 + state.removals + (1 : Nat) := by
  obtain ⟨state, reached, shape⟩ : ∃ state, Reaches (step Interfaces.silent)
      (fun start => Adopted 1 1 () start ∧ WithinCapacity 1 start)
      (fun state action => Inspected {"c1"} state action ∧ admitsClaims 1 state action) state ∧
      state.runningCount = 2 ∧ state.removals = 0 := by
    apply Reaches.of_replay ⟨oneWarm_adopted 1 1, by decide⟩ [.allocate 0 "r" (some "c1"), .rename 0 (some "2"),
      .check 0 true, .register 0, .markBusy 0, .evaluate 0 (), .abort 1 "c1", .poolLock, .poolLoop 2,
      .bootCreate 2 "c2" "3" "10.0.0.2", .poolLoop 3, .evaluate 1 (), .kill 1 false]
    decide
  exact ⟨state, shape, running_bounded Interfaces.silent 1 1 () {"c1"} state reached⟩

end System

end RunnersMux

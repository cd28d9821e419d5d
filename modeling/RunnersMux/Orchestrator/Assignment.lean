import RunnersMux.Foundations.Transitions
import RunnersMux.Orchestrator.Recovery

/-! Who holds a container.

Two sums say it. A container that is being booted, is warm or is claimed has one
holder before its registration; afterwards a call has been handed it, and
`activeWorkers` records it until it dies. Only the creation of a container,
whose ID Docker has never used, adds a holder.
-/

set_option autoImplicit false

namespace RunnersMux

open Foundations

/-- Indicates that a goroutine's container is the one in question. -/
def mark (id other : ContainerID) : Int := if other = id then 1 else 0

theorem mark_self (id : ContainerID) : mark id id = 1 := if_pos rfl

theorem mark_nonneg (id other : ContainerID) : 0 ≤ mark id other := by
  unfold mark
  split <;> decide

namespace Goroutine

/-- A boot that has not filled the pool yet, or a claim that is not registered. -/
def holds (id : ContainerID) : Goroutine → Int
  | .boot (.inspecting other) => mark id other
  | .boot (.started worker) => mark id worker.containerID
  | .allocate _ (.claimed candidate) | .allocate _ (.renamed candidate)
  | .allocate _ (.dead candidate) | .allocate _ (.alive candidate) => mark id candidate.containerID
  | _ => 0

/-- A call that has registered the container, returned or not. -/
def owns (id : ContainerID) : Goroutine → Int
  | .allocate _ (.registered candidate) | .allocate _ (.marked candidate)
  | .allocate _ (.returned candidate) => mark id candidate.containerID
  | _ => 0

theorem holds_nonneg (id : ContainerID) (goroutine : Goroutine) : 0 ≤ goroutine.holds id := by
  unfold holds
  split <;> first | exact mark_nonneg _ _ | decide

theorem owns_nonneg (id : ContainerID) (goroutine : Goroutine) : 0 ≤ goroutine.owns id := by
  unfold owns
  split <;> first | exact mark_nonneg _ _ | decide

end Goroutine

def AllocatePhase.unregistered : AllocatePhase → Option ContainerID
  | .claimed candidate | .renamed candidate | .dead candidate | .alive candidate =>
      some candidate.containerID
  | _ => none

namespace Orchestrator

def warmAt (o : Orchestrator) (id : ContainerID) : Int :=
  Map.found (fun _ => 1) (o.warmPool.lookup id)

def activeAt (o : Orchestrator) (id : ContainerID) : Int :=
  Map.found (fun _ => 1) (o.activeWorkers.lookup id)

/-- The entries of `activeWorkers` that belong to a runner. -/
def activeOf (o : Orchestrator) (runner : RunnerName) : Int :=
  o.activeWorkers.count fun _ worker => worker.runnerName = runner

def Keyed (o : Orchestrator) : Prop :=
  ∀ id worker, o.warmPool.lookup id = some worker → worker.containerID = id

def Counted (o : Orchestrator) : Prop := ∀ runner, o.getActiveCount runner = o.activeOf runner

section
variable (o : Orchestrator) (id : ContainerID)

theorem warmAt_nonneg : 0 ≤ o.warmAt id := (Map.found_one_bounds _).1
theorem warmAt_le : o.warmAt id ≤ 1 := (Map.found_one_bounds _).2
theorem activeAt_nonneg : 0 ≤ o.activeAt id := (Map.found_one_bounds _).1

@[simp] theorem warmAt_broadcast : o.broadcast.warmAt id = o.warmAt id := rfl
@[simp] theorem warmAt_register (runner : RunnerName) (candidate : WarmWorker) :
    (o.register runner candidate).warmAt id = o.warmAt id := rfl
@[simp] theorem activeAt_broadcast : o.broadcast.activeAt id = o.activeAt id := rfl
@[simp] theorem activeAt_recordBoot (worker : Option WarmWorker) :
    (o.recordBoot worker).activeAt id = o.activeAt id := by cases worker <;> rfl

theorem warmAt_recordBoot (worker : WarmWorker) :
    (o.recordBoot (some worker)).warmAt id ≤ o.warmAt id + mark id worker.containerID := by
  have present := o.warmAt_nonneg id
  change Map.found (fun _ => 1) ((o.warmPool.insert worker.containerID worker).lookup id) ≤ _
  rw [Map.lookup_insert_if]
  unfold mark
  by_cases same : id = worker.containerID
  · rw [if_pos same, if_pos same.symm]
    simp only [Map.found_some]
    omega
  · rw [if_neg same, if_neg (Ne.symm same)]
    simp [warmAt]

theorem warmAt_erase (key : ContainerID) :
    Map.found (fun _ => 1) ((o.warmPool.erase key).lookup id) ≤ o.warmAt id := by
  have present := o.warmAt_nonneg id
  rw [Map.lookup_erase_if]
  split
  · exact present
  · exact Int.le_refl _

theorem warmAt_claim {key : ContainerID} {candidate : WarmWorker}
    (found : o.warmPool.lookup key = some candidate) :
    (o.claim key).warmAt id + mark id key = o.warmAt id := by
  have erased : (o.claim key).warmPool.lookup id = if id = key then none else o.warmPool.lookup id :=
    Map.lookup_erase_if _ _ _
  unfold warmAt mark
  rw [erased]
  by_cases same : id = key
  · subst same
    simp [found]
  · simp [same, Ne.symm same]

theorem activeAt_register (runner : RunnerName) (candidate : WarmWorker) :
    (o.register runner candidate).activeAt id ≤ o.activeAt id + mark id candidate.containerID := by
  have present := o.activeAt_nonneg id
  have inserted : (o.register runner candidate).activeWorkers.lookup id =
      if id = candidate.containerID then some ⟨candidate.containerID, candidate.ipAddress, runner⟩
      else o.activeWorkers.lookup id := Map.lookup_insert_if _ _ _ _
  unfold activeAt mark at *
  rw [inserted]
  by_cases same : id = candidate.containerID
  · simp only [same, if_true, Map.found_some] at *
    omega
  · simp [same, Ne.symm same]

theorem activeAt_removeActive (key : ContainerID) (runner : RunnerName) :
    (o.removeActive key runner).activeAt id ≤ o.activeAt id := by
  have present := o.activeAt_nonneg id
  have erased : (o.removeActive key runner).activeWorkers.lookup id =
      if id = key then none else o.activeWorkers.lookup id := Map.lookup_erase_if _ _ _
  unfold activeAt at *
  rw [erased]
  split
  · exact present
  · exact Int.le_refl _

theorem keyed_insert {worker : WarmWorker} (keyed : o.Keyed) :
    ∀ id found, (o.warmPool.insert worker.containerID worker).lookup id = some found →
      found.containerID = id :=
  Map.forall_insert keyed rfl

theorem keyed_erase {key : ContainerID} (keyed : o.Keyed) :
    ∀ id found, (o.warmPool.erase key).lookup id = some found → found.containerID = id :=
  Map.forall_erase keyed key

theorem getActiveCount_insert (runner other : RunnerName) (count : Int) :
    getActiveCount { o with activeListeners := o.activeListeners.insert runner count } other =
      if other = runner then count else o.getActiveCount other := by
  unfold getActiveCount
  dsimp only
  rw [Map.lookup_insert_if]
  split <;> rfl

/-- A registration of a container that no entry records yet counts once. -/
theorem counted_register {runner : RunnerName} {candidate : WarmWorker} (counted : o.Counted)
    (absent : o.activeWorkers.lookup candidate.containerID = none) :
    (o.register runner candidate).Counted := by
  intro other
  have listeners := o.getActiveCount_insert runner other (o.getActiveCount runner + 1)
  have entries : (o.register runner candidate).activeOf other =
      o.activeOf other + (if runner = other then 1 else 0) := by
    unfold activeOf Map.count register
    dsimp only
    rw [Map.weigh_insert, absent]
    simp
  have before := counted other
  rw [entries]
  refine listeners.trans ?_
  by_cases same : other = runner
  · subst same
    simp [before]
  · simp [same, Ne.symm same, before]

theorem counted_removeActive {key : ContainerID} {worker : ActiveWorker} (counted : o.Counted)
    (found : o.activeWorkers.lookup key = some worker) :
    (o.removeActive key worker.runnerName).Counted := by
  intro other
  have listeners := o.getActiveCount_insert worker.runnerName other (o.getActiveCount worker.runnerName - 1)
  have entries : (o.removeActive key worker.runnerName).activeOf other =
      o.activeOf other - (if worker.runnerName = other then 1 else 0) := by
    unfold activeOf Map.count removeActive
    dsimp only
    rw [Map.weigh_erase, found]
    simp
  have before := counted other
  rw [entries]
  refine listeners.trans ?_
  by_cases same : other = worker.runnerName
  · subst same
    simp [before]
  · simp [same, Ne.symm same, before]

end

end Orchestrator

namespace System

variable {Managers Event Outcome : Type}

/-- Before its registration a container is booting, warm or claimed. -/
def occupied (state : System Managers) (id : ContainerID) : Int :=
  state.orchestrator.warmAt id + tally (Goroutine.holds id) state.goroutines

/-- Afterwards the call that registered it owns it. -/
def owned (state : System Managers) (id : ContainerID) : Int :=
  tally (Goroutine.owns id) state.goroutines

/-- No holder is added for an ID that Docker already knows. -/
structure Keeps (state after : System Managers) : Prop where
  once : ∀ id, after.occupied id + after.owned id ≤ state.occupied id + state.owned id
  apart : ∀ id, after.occupied id + after.orchestrator.activeAt id ≤
    state.occupied id + state.orchestrator.activeAt id
  known : ∀ id, after.docker.lookup id = none → state.docker.lookup id = none

/-- The sums, with the map keys and the listener counts they rest on. -/
structure Assigned (state : System Managers) : Prop where
  keyed : state.orchestrator.Keyed
  counted : state.orchestrator.Counted
  once : ∀ id, state.occupied id + state.owned id ≤ 1
  apart : ∀ id, state.occupied id + state.orchestrator.activeAt id ≤ 1
  unknown : ∀ id, state.docker.lookup id = none → state.occupied id + state.owned id ≤ 0 ∧
    state.occupied id + state.orchestrator.activeAt id ≤ 0

section
variable (state : System Managers) (id : ContainerID)

theorem occupied_nonneg : 0 ≤ state.occupied id :=
  Int.add_nonneg (state.orchestrator.warmAt_nonneg id) (tally_nonneg (Goroutine.holds_nonneg id) _)

theorem owned_nonneg : 0 ≤ state.owned id := tally_nonneg (Goroutine.owns_nonneg id) _

end

theorem stop_known {state : System Managers} {key id : ContainerID}
    (absent : (state.stop key).docker.lookup id = none) :
    state.docker.lookup id = none := by
  unfold stop at absent
  split at absent
  · rw [Map.lookup_insert_if] at absent
    split at absent
    · cases absent
    · exact absent
  · exact absent

theorem remove_known {state : System Managers} {removed : Bool} {key id : ContainerID}
    (absent : (state.remove removed key).docker.lookup id = none) : state.docker.lookup id = none := by
  rcases state.remove_cases key removed with ⟨same, _⟩ | ⟨same, _⟩ <;> rw [same] at absent
  · exact absent
  · exact stop_known absent

theorem containerRename_known {state : System Managers} {key id : ContainerID} {name : String}
    (absent : (state.containerRename key name).docker.lookup id = none) :
    state.docker.lookup id = none := by
  unfold containerRename at absent
  split at absent
  · rw [Map.lookup_insert_if] at absent
    split at absent
    · cases absent
    · exact absent
  · exact absent

/-- A section that ends with one goroutine in a new phase, in terms of the
weights of that goroutine alone. -/
theorem Keeps.resume {state between : System Managers} {g : GoroutineID} {old : Option Goroutine}
    {new : Goroutine} (same : between.goroutines = state.goroutines)
    (found : state.goroutines.lookup g = old)
    (once : ∀ id, between.orchestrator.warmAt id + new.holds id + new.owns id ≤
      state.orchestrator.warmAt id + Map.found (Goroutine.holds id) old + Map.found (Goroutine.owns id) old)
    (apart : ∀ id, between.orchestrator.warmAt id + new.holds id + between.orchestrator.activeAt id ≤
      state.orchestrator.warmAt id + Map.found (Goroutine.holds id) old + state.orchestrator.activeAt id)
    (known : ∀ id, between.docker.lookup id = none → state.docker.lookup id = none) :
    Keeps state (between.resume g new) := by
  refine ⟨?_, ?_, known⟩
  · intro id
    have local_ := once id
    simp only [occupied, owned, resume_orchestrator, resume_goroutines, same, tally_insert, found]
    omega
  · intro id
    have local_ := apart id
    simp only [occupied, resume_orchestrator, resume_goroutines, same, tally_insert, found]
    omega

/-- The loop body of a call that held nothing before it. -/
theorem Picked.keeps {o after : Orchestrator} {phase : AllocatePhase} (picked : Picked o after phase)
    (keyed : o.Keyed) (runner : RunnerName) :
    ∀ id, (Goroutine.allocate runner phase).owns id = 0 ∧ after.activeAt id = o.activeAt id ∧
      after.warmAt id + (Goroutine.allocate runner phase).holds id = o.warmAt id := by
  intro id
  cases picked with
  | claim found =>
      refine ⟨rfl, rfl, ?_⟩
      have same := keyed _ _ found
      subst same
      exact o.warmAt_claim id found
  | wait empty => exact ⟨rfl, rfl, Int.add_zero _⟩

/-- A loop body of a call that held nothing, on a record with the same maps. -/
theorem Keeps.picked {state : System Managers} {g : GoroutineID} {runner : RunnerName}
    {old : Option Goroutine} {between after : Orchestrator} {phase : AllocatePhase}
    (picked : Picked between after phase) (found : state.goroutines.lookup g = old)
    (idle : ∀ id, Map.found (Goroutine.holds id) old = 0 ∧ Map.found (Goroutine.owns id) old = 0)
    (warm : between.warmPool = state.orchestrator.warmPool)
    (active : between.activeWorkers = state.orchestrator.activeWorkers)
    (keyed : state.orchestrator.Keyed) :
    Keeps state ({ state with orchestrator := after }.resume g (.allocate runner phase)) := by
  have keyed : between.Keyed := by
    unfold Orchestrator.Keyed
    rw [warm]
    exact keyed
  have warm (id : ContainerID) : between.warmAt id = state.orchestrator.warmAt id := by
    unfold Orchestrator.warmAt
    rw [warm]
  have active (id : ContainerID) : between.activeAt id = state.orchestrator.activeAt id := by
    unfold Orchestrator.activeAt
    rw [active]
  refine Keeps.resume rfl found ?_ ?_ fun id absent => absent
  · intro id
    obtain ⟨owns, _, holds⟩ := picked.keeps keyed runner id
    rw [(idle id).1, (idle id).2, owns, holds, warm id]
    omega
  · intro id
    obtain ⟨_, kept, holds⟩ := picked.keeps keyed runner id
    rw [(idle id).1, holds, kept, warm id, active id]
    omega

theorem Reaped.keeps {reporter : StatusReporter Managers} {state between : System Managers}
    {key : ContainerID} {changed : Bool} (reaped : Reaped reporter state key between changed) :
    between.goroutines = state.goroutines ∧ between.docker = state.docker ∧
      (∀ id, between.orchestrator.warmAt id ≤ state.orchestrator.warmAt id) ∧
      (∀ id, between.orchestrator.activeAt id ≤ state.orchestrator.activeAt id) := by
  cases reaped with
  | @active worker found =>
      exact ⟨rfl, rfl, fun id => Int.le_refl _,
        fun id => state.orchestrator.activeAt_removeActive id key worker.runnerName⟩
  | warm absent found =>
      exact ⟨rfl, rfl, fun id => state.orchestrator.warmAt_erase id _, fun id => Int.le_refl _⟩
  | unknown absent missing => exact ⟨rfl, rfl, fun id => Int.le_refl _, fun id => Int.le_refl _⟩

theorem afterEvaluation_keeps {caller later : Goroutine} (goes : afterEvaluation caller = some later)
    (id : ContainerID) : caller.holds id = 0 ∧ later.holds id = 0 ∧ later.owns id = caller.owns id := by
  unfold afterEvaluation at goes
  split at goes <;> cases goes <;> exact ⟨rfl, rfl, rfl⟩

/-- Every step but the creation of a container moves or drops holders. -/
theorem keeps_step (interfaces : Interfaces Managers Event Outcome) {state after : System Managers}
    {action : Action Event Outcome} (keyed : state.orchestrator.Keyed)
    (effect : Effect interfaces state action after) :
    Keeps state after ∨ ∃ g id short ipAddress, action = .bootCreate g id short ipAddress := by
  cases effect with
  | poolLock | poolBlock | setStatusReporter | managers | updateSettings =>
      exact .inl ⟨fun id => Int.le_refl _, fun id => Int.le_refl _, fun id absent => absent⟩
  | bootCreate found fresh => exact .inr ⟨_, _, _, _, rfl⟩
  | poolBoot held short full fresh =>
      refine .inl (Keeps.resume rfl fresh ?_ ?_ fun id absent => absent) <;>
        exact fun id => Int.le_refl _
  | bootCreateFail found | bootInspect found | bootAlive found | bootDead found | checkAlive found
  | checkDead found | renameFail found | markBusy found =>
      refine .inl (Keeps.resume rfl found ?_ ?_ fun id absent => absent) <;>
        exact fun id => Int.le_refl _
  | bootGiveUp found free | cancel found free =>
      refine .inl (Keeps.resume rfl found ?_ ?_ fun id absent => absent) <;>
        exact fun id => Int.le_refl _
  | bootInspectFail found | discard found =>
      -- The call lets go of the container: its weight drops from one to zero.
      refine .inl (Keeps.resume (remove_goroutines ..) found ?_ ?_ fun id => remove_known) <;>
        intro id <;> have positive := mark_nonneg id <;>
        simp only [remove_orchestrator, Map.found_some, Goroutine.holds, Goroutine.owns, Int.add_zero] <;>
        grind
  | @bootPool g worker found free =>
      have grown (id : ContainerID) := state.orchestrator.warmAt_recordBoot id worker
      refine .inl (Keeps.resume rfl found ?_ ?_ fun id absent => absent)
      · intro id
        have := grown id
        simp only [Map.found_some, Goroutine.holds, Goroutine.owns]
        omega
      · intro id
        have := grown id
        simp only [Map.found_some, Goroutine.holds, Orchestrator.activeAt_recordBoot]
        omega
  | @bootDeath g worker between changed found free reaped =>
      obtain ⟨goroutines, docker, warm, active⟩ := reaped.keeps
      have silent (id : ContainerID) :
          (Goroutine.boot (if changed then .evaluating else .announcing)).holds id = 0 ∧
          (Goroutine.boot (if changed then .evaluating else .announcing)).owns id = 0 := by
        cases changed <;> exact ⟨rfl, rfl⟩
      refine .inl (Keeps.resume goroutines found ?_ ?_ fun id absent => docker ▸ absent)
      · intro id
        rw [(silent id).1, (silent id).2]
        exact Int.add_le_add_right (Int.add_le_add_right (warm id) 0) 0
      · intro id
        rw [(silent id).1]
        exact Int.add_le_add (Int.add_le_add_right (warm id) 0) (active id)
  | bootBroadcast found free =>
      rcases found with found | found <;>
        refine .inl (Keeps.resume rfl found ?_ ?_ fun id absent => absent) <;>
        exact fun id => Int.le_refl _
  | allocate fresh free picked =>
      exact .inl (Keeps.picked picked fresh (fun _ => ⟨rfl, rfl⟩) rfl rfl keyed)
  | wake found closed free picked =>
      exact .inl (Keeps.picked picked found (fun _ => ⟨rfl, rfl⟩) rfl rfl keyed)
  | rename found =>
      refine .inl (Keeps.resume (containerRename_goroutines ..) found ?_ ?_ fun id => containerRename_known) <;>
        intro id <;> rw [containerRename_orchestrator] <;> exact Int.le_refl _
  | retry found free picked =>
      exact .inl (Keeps.picked picked found (fun _ => ⟨rfl, rfl⟩) rfl rfl keyed)
  | @register g runner candidate found free =>
      have grown (id : ContainerID) := state.orchestrator.activeAt_register id runner candidate
      refine .inl (Keeps.resume rfl found ?_ ?_ fun id absent => absent)
      · intro id
        simp only [Map.found_some, Goroutine.holds, Goroutine.owns, Orchestrator.warmAt_broadcast,
          Orchestrator.warmAt_register]
        omega
      · intro id
        have := grown id
        simp only [Map.found_some, Goroutine.holds, Orchestrator.warmAt_broadcast,
          Orchestrator.warmAt_register, Orchestrator.activeAt_broadcast]
        omega
  | @dieEvent g key container between changed known dead fresh free reaped =>
      obtain ⟨goroutines, docker, warm, active⟩ := reaped.keeps
      refine .inl (Keeps.resume goroutines fresh ?_ ?_ fun id absent => docker ▸ absent)
      · intro id
        exact Int.add_le_add_right (Int.add_le_add_right (warm id) 0) 0
      · intro id
        exact Int.add_le_add (Int.add_le_add_right (warm id) 0) (active id)
  | @abortActive g key worker found fresh free =>
      refine .inl (Keeps.resume rfl fresh ?_ ?_ fun id absent => absent)
      · exact fun id => Int.le_refl _
      · intro id
        exact Int.add_le_add_left (state.orchestrator.activeAt_removeActive id key worker.runnerName) _
  | abortUnknown absent fresh free =>
      refine .inl (Keeps.resume rfl fresh ?_ ?_ fun id absent => absent) <;>
        exact fun id => Int.le_refl _
  | kill found =>
      refine .inl (Keeps.resume (remove_goroutines ..) found ?_ ?_ fun id => remove_known) <;>
        intro id <;> rw [remove_orchestrator] <;> exact Int.le_refl _
  | evaluate found goes free =>
      obtain ⟨paused, managers, frame⟩ := state.evaluateCapacity_frame interfaces.pauser ‹_›
      rw [frame]
      refine .inl (Keeps.resume rfl found ?_ ?_ fun id absent => absent)
      · intro id
        obtain ⟨before, later, owns⟩ := afterEvaluation_keeps goes id
        simp only [Map.found_some, before, later, owns]
        exact Int.le_refl _
      · intro id
        obtain ⟨before, later, owns⟩ := afterEvaluation_keeps goes id
        simp only [Map.found_some, before, later]
        exact Int.le_refl _
  | die alive =>
      refine .inl ⟨?_, ?_, fun id => stop_known⟩ <;> intro id <;>
        simp only [occupied, owned, stop_orchestrator, stop_goroutines] <;> exact Int.le_refl _

theorem Picked.maps {o after : Orchestrator} {phase : AllocatePhase} (picked : Picked o after phase)
    (keyed : o.Keyed) (counted : o.Counted) : after.Keyed ∧ after.Counted := by
  cases picked with
  | claim found => exact ⟨o.keyed_erase keyed, counted⟩
  | wait empty => exact ⟨keyed, counted⟩

theorem Reaped.maps {reporter : StatusReporter Managers} {state between : System Managers}
    {key : ContainerID} {changed : Bool} (reaped : Reaped reporter state key between changed)
    (keyed : state.orchestrator.Keyed) (counted : state.orchestrator.Counted) :
    between.orchestrator.Keyed ∧ between.orchestrator.Counted := by
  cases reaped with
  | active found => exact ⟨keyed, state.orchestrator.counted_removeActive counted found⟩
  | warm absent found => exact ⟨state.orchestrator.keyed_erase keyed, counted⟩
  | unknown absent missing => exact ⟨keyed, counted⟩

/-- The keys and the counts survive a step. A registration needs that no entry
of `activeWorkers` has the container yet. -/
theorem maps_step (interfaces : Interfaces Managers Event Outcome) {state after : System Managers}
    {action : Action Event Outcome} (assigned : Assigned state)
    (effect : Effect interfaces state action after) :
    after.orchestrator.Keyed ∧ after.orchestrator.Counted := by
  obtain ⟨keyed, counted, once, apart, unknown⟩ := assigned
  cases effect with
  | poolLock | poolBlock | poolBoot | bootCreate | bootCreateFail | bootInspect | bootGiveUp | bootAlive
  | bootDead | bootBroadcast | cancel | renameFail | checkAlive | checkDead | markBusy | abortUnknown
  | setStatusReporter | updateSettings | managers => exact ⟨keyed, counted⟩
  | bootInspectFail | discard | kill | die =>
      simp only [resume_orchestrator, remove_orchestrator, stop_orchestrator]
      exact ⟨keyed, counted⟩
  | rename =>
      simp only [resume_orchestrator, containerRename_orchestrator]
      exact ⟨keyed, counted⟩
  | bootPool found free => exact ⟨state.orchestrator.keyed_insert keyed, counted⟩
  | bootDeath found free reaped => exact reaped.maps keyed counted
  | dieEvent known dead fresh free reaped => exact reaped.maps keyed counted
  | allocate fresh free picked => exact picked.maps keyed counted
  | wake found closed free picked => exact picked.maps keyed counted
  | retry found free picked => exact picked.maps keyed counted
  | @register g runner candidate found free =>
      refine ⟨keyed, ?_⟩
      have claimed : 1 ≤ state.occupied candidate.containerID := by
        have weight := Map.found_le_weigh state.goroutines
          (fun _ => Goroutine.holds candidate.containerID) (fun _ => Goroutine.holds_nonneg _) g
        have present := state.orchestrator.warmAt_nonneg candidate.containerID
        rw [found] at weight
        simp only [Map.found_some, Goroutine.holds, mark_self] at weight
        unfold occupied tally
        omega
      have room := apart candidate.containerID
      have none_ : state.orchestrator.activeWorkers.lookup candidate.containerID = none := by
        cases looked : state.orchestrator.activeWorkers.lookup candidate.containerID with
        | none => rfl
        | some worker =>
            simp only [Orchestrator.activeAt, looked, Map.found_some] at room
            omega
      exact state.orchestrator.counted_register counted none_
  | abortActive found fresh free =>
      exact ⟨keyed, state.orchestrator.counted_removeActive counted found⟩
  | evaluate found goes free =>
      obtain ⟨paused, managers, frame⟩ := state.evaluateCapacity_frame interfaces.pauser ‹_›
      rw [frame]
      exact ⟨keyed, counted⟩

theorem assigned_step (interfaces : Interfaces Managers Event Outcome) {state after : System Managers}
    {action : Action Event Outcome} (assigned : Assigned state)
    (effect : Effect interfaces state action after) : Assigned after := by
  obtain ⟨keyed, counted⟩ := maps_step interfaces assigned effect
  rcases keeps_step interfaces assigned.keyed effect with keeps | ⟨g, key, short, ipAddress, rfl⟩
  · refine ⟨keyed, counted, fun id => (keeps.once id).trans (assigned.once id),
      fun id => (keeps.apart id).trans (assigned.apart id), fun id absent => ?_⟩
    obtain ⟨once, apart⟩ := assigned.unknown id (keeps.known id absent)
    exact ⟨(keeps.once id).trans once, (keeps.apart id).trans apart⟩
  · cases effect with
    | bootCreate found fresh =>
        have holders (id : ContainerID) :
            ({ state with docker := state.docker.insert key ⟨namePrefixWarm ++ short, ipAddress, true⟩ }.resume g
              (.boot (.inspecting key))).occupied id = state.occupied id + mark id key := by
          simp only [occupied, resume_orchestrator, resume_goroutines, tally_insert, found, Map.found_some,
            Goroutine.holds]
          omega
        have owners (id : ContainerID) :
            ({ state with docker := state.docker.insert key ⟨namePrefixWarm ++ short, ipAddress, true⟩ }.resume g
              (.boot (.inspecting key))).owned id = state.owned id := by
          simp only [owned, resume_goroutines, tally_insert, found, Map.found_some, Goroutine.owns]
          omega
        have unused := assigned.unknown key fresh
        refine ⟨keyed, counted, ?_, ?_, ?_⟩
        · intro id
          rw [holders, owners]
          by_cases same : key = id
          · subst same
            rw [mark_self]
            omega
          · have before := assigned.once id
            simpa [mark, same] using before
        · intro id
          rw [holders]
          change state.occupied id + mark id key + state.orchestrator.activeAt id ≤ 1
          by_cases same : key = id
          · subst same
            rw [mark_self]
            omega
          · have before := assigned.apart id
            simpa [mark, same] using before
        · intro id absent
          rw [holders, owners]
          simp only [resume_docker, Map.lookup_insert_if] at absent
          split at absent
          · cases absent
          · next other =>
              have before := assigned.unknown id absent
              simpa [mark, Ne.symm other] using before

end System

namespace Orchestrator

/-- A record at rest whose containers all have a given property. -/
structure Sound (o : Orchestrator) (known : ContainerID → Prop) : Prop where
  keyed : o.Keyed
  counted : o.Counted
  apart : ∀ id, o.warmAt id + o.activeAt id ≤ 1
  unknown : ∀ id, ¬known id → o.warmAt id + o.activeAt id ≤ 0

theorem Sound.mono {o : Orchestrator} {known other : ContainerID → Prop} (sound : o.Sound known)
    (weaker : ∀ id, known id → other id) : o.Sound other :=
  { sound with unknown := fun id new => sound.unknown id fun old => new (weaker id old) }

/-- A container that was in neither map is recorded in at most one. -/
theorem Sound.recovers {o after : Orchestrator} {known : ContainerID → Prop} {container : ListedContainer}
    (sound : o.Sound known) (fresh : ¬known container.id) (recovers : Recovers o container after) :
    after.Sound fun id => known id ∨ id = container.id := by
  have unused := sound.unknown container.id fresh
  have warm := o.warmAt_nonneg container.id
  -- Both kinds of record add one holder of this ID and none of any other.
  have bounds (grown : ∀ id, after.warmAt id + after.activeAt id ≤
      o.warmAt id + o.activeAt id + mark id container.id) :
      (∀ id, after.warmAt id + after.activeAt id ≤ 1) ∧
        ∀ id, ¬(known id ∨ id = container.id) → after.warmAt id + after.activeAt id ≤ 0 := by
    constructor
    · intro id
      have bound := grown id
      by_cases same : container.id = id
      · subst same
        rw [mark_self] at bound
        omega
      · have before := sound.apart id
        rw [mark, if_neg same] at bound
        omega
    · intro id other
      rw [not_or] at other
      have bound := grown id
      have before := sound.unknown id other.1
      rw [mark, if_neg (Ne.symm other.2)] at bound
      omega
  cases recovers with
  | skip => exact sound.mono fun id old => .inl old
  | active up runner =>
      have absent : o.activeWorkers.lookup container.id = none := by
        cases looked : o.activeWorkers.lookup container.id with
        | none => rfl
        | some worker =>
            simp only [activeAt, looked, Map.found_some] at unused
            omega
      obtain ⟨apart, unknown⟩ := bounds fun id => by
        have grown := o.activeAt_register id runner ⟨container.id, firstIP container⟩
        rw [warmAt_register]
        dsimp only at grown
        omega
      exact ⟨sound.keyed, o.counted_register sound.counted absent, apart, unknown⟩
  | warm up =>
      obtain ⟨apart, unknown⟩ := bounds fun id => by
        have grown : (o.recoverWarm ⟨container.id, firstIP container⟩).warmAt id ≤
            o.warmAt id + mark id container.id := o.warmAt_recordBoot id ⟨container.id, firstIP container⟩
        have same : (o.recoverWarm ⟨container.id, firstIP container⟩).activeAt id = o.activeAt id := rfl
        omega
      exact ⟨o.keyed_insert sound.keyed, sound.counted, apart, unknown⟩

/-- The listing's IDs are distinct, so recovery records each at most once. -/
theorem Sound.recoverState {containers : List ListedContainer} {o : Orchestrator}
    {known : ContainerID → Prop} (sound : o.Sound known) (distinct : (containers.map (·.id)).Nodup)
    (fresh : ∀ id ∈ containers.map (·.id), ¬known id) :
    (o.recoverState (some containers)).Sound fun id => known id ∨ id ∈ containers.map (·.id) := by
  induction containers generalizing o known with
  | nil => exact sound.mono fun id old => .inl old
  | cons container rest ih =>
      obtain ⟨unlisted, distinct⟩ := List.nodup_cons.mp distinct
      have first := sound.recovers (fresh _ List.mem_cons_self) (o.recoverContainer_recovers container)
      have others : ∀ id ∈ rest.map (·.id), ¬(known id ∨ id = container.id) := by
        rintro id listed (old | same)
        · exact fresh id (List.mem_cons_of_mem _ listed) old
        · subst same
          exact unlisted listed
      apply (ih first distinct others).mono
      rintro id ((old | same) | listed)
      · exact .inl old
      · exact .inr (same ▸ List.mem_cons_self)
      · exact .inr (List.mem_cons_of_mem _ listed)

end Orchestrator

namespace System

variable {Managers Event Outcome : Type}

theorem started_sound {maxWorkers warmWorkers : Int} {managers : Managers} {state : System Managers}
    (started : Started maxWorkers warmWorkers managers state) :
    state.goroutines = ∅ ∧ state.orchestrator.Sound fun id => state.docker.lookup id ≠ none := by
  obtain ⟨docker, listing, answers, rfl⟩ := started
  refine ⟨rfl, ?_⟩
  have empty : (Orchestrator.newOrchestrator maxWorkers warmWorkers).Sound fun _ => False :=
    ⟨nofun, fun _ => rfl, fun _ => Int.zero_le_ofNat 1, fun _ _ => Int.le_refl 0⟩
  cases listing with
  | none => exact empty.mono nofun
  | some containers =>
      have lists := answers containers rfl
      apply (empty.recoverState lists.distinct fun _ _ => id).mono
      rintro id (none_ | listed) absent
      · exact none_
      · obtain ⟨container, member, rfl⟩ := List.mem_map.mp listed
        obtain ⟨record, known, _⟩ := lists.known container member
        cases known.symm.trans absent

theorem assigned_booted {maxWorkers warmWorkers : Int} {managers : Managers} {state : System Managers}
    (started : Started maxWorkers warmWorkers managers state) : Assigned state := by
  obtain ⟨quiet, sound⟩ := started_sound started
  have idle (weight : Goroutine → Int) : tally weight state.goroutines = 0 := by
    rw [quiet]
    rfl
  refine ⟨sound.keyed, sound.counted, ?_, ?_, ?_⟩
  · intro id
    have warm := state.orchestrator.warmAt_le id
    simp only [occupied, owned, idle]
    omega
  · intro id
    have apart := sound.apart id
    simp only [occupied, idle]
    omega
  · intro id absent
    have unknown := sound.unknown id (not_not_intro absent)
    have active := state.orchestrator.activeAt_nonneg id
    simp only [occupied, owned, idle]
    omega

/-- A call that has taken a container out of `warmPool` and not registered it. -/
def Claims (state : System Managers) (g : GoroutineID) (id : ContainerID) : Prop :=
  ∃ runner phase, state.goroutines.lookup g = some (.allocate runner phase) ∧ phase.unregistered = some id

/-- A call of `AllocateWorker` that has returned a container. -/
def Returns (state : System Managers) (g : GoroutineID) (id : ContainerID) : Prop :=
  ∃ runner candidate, state.goroutines.lookup g = some (.allocate runner (.returned candidate)) ∧
    candidate.containerID = id

/-- Containers have one holder, calls return different ones, and the counts of
listeners are the counts of their containers. -/
structure Exclusive (state : System Managers) : Prop where
  warm_claimed : ∀ id g, id ∈ state.orchestrator.warmPool → ¬state.Claims g id
  warm_active : ∀ id, id ∈ state.orchestrator.warmPool → id ∉ state.orchestrator.activeWorkers
  claimed_active : ∀ id g, state.Claims g id → id ∉ state.orchestrator.activeWorkers
  claimed_once : ∀ id first second, state.Claims first id → state.Claims second id → first = second
  returned_once : ∀ id first second, state.Returns first id → state.Returns second id → first = second
  counts : ∀ runner, state.orchestrator.getActiveCount runner = state.orchestrator.activeOf runner
  nonneg : ∀ runner, 0 ≤ state.orchestrator.getActiveCount runner

theorem Claims.holds {state : System Managers} {g : GoroutineID} {id : ContainerID}
    (claims : state.Claims g id) : Map.found (Goroutine.holds id) (state.goroutines.lookup g) = 1 := by
  obtain ⟨runner, phase, found, claimed⟩ := claims
  rw [found]
  cases phase <;> cases claimed <;> exact mark_self _

theorem Returns.owns {state : System Managers} {g : GoroutineID} {id : ContainerID}
    (returns : state.Returns g id) : Map.found (Goroutine.owns id) (state.goroutines.lookup g) = 1 := by
  obtain ⟨runner, candidate, found, rfl⟩ := returns
  rw [found]
  exact mark_self _

theorem Claims.occupied {state : System Managers} {g : GoroutineID} {id : ContainerID}
    (claims : state.Claims g id) : state.orchestrator.warmAt id + 1 ≤ state.occupied id := by
  have weight := Map.found_le_weigh state.goroutines (fun _ => Goroutine.holds id)
    (fun _ => Goroutine.holds_nonneg id) g
  rw [claims.holds] at weight
  exact Int.add_le_add_left weight _

theorem warmAt_mem {o : Orchestrator} {id : ContainerID} (member : id ∈ o.warmPool) : o.warmAt id = 1 := by
  obtain ⟨worker, found⟩ := Finmap.mem_iff.mp member
  simp [Orchestrator.warmAt, found]

theorem activeAt_mem {o : Orchestrator} {id : ContainerID} (member : id ∈ o.activeWorkers) :
    o.activeAt id = 1 := by
  obtain ⟨worker, found⟩ := Finmap.mem_iff.mp member
  simp [Orchestrator.activeAt, found]

theorem Assigned.exclusive {state : System Managers} (assigned : Assigned state) : Exclusive state where
  warm_claimed := by
    intro id g member claims
    have warm := warmAt_mem member
    have occupied := claims.occupied
    have once := assigned.once id
    have owned := state.owned_nonneg id
    omega
  warm_active := by
    intro id warm active
    have warm := warmAt_mem warm
    have active := activeAt_mem active
    have apart := assigned.apart id
    have holders := tally_nonneg (Goroutine.holds_nonneg id) state.goroutines
    simp only [occupied] at apart
    omega
  claimed_active := by
    intro id g claims active
    have active := activeAt_mem active
    have occupied := claims.occupied
    have warm := state.orchestrator.warmAt_nonneg id
    have apart := assigned.apart id
    omega
  claimed_once := by
    intro id first second claims other
    by_contra apart
    have both := Map.found_add_le_weigh state.goroutines (fun _ => Goroutine.holds id)
      (fun _ => Goroutine.holds_nonneg id) apart
    have warm := state.orchestrator.warmAt_nonneg id
    have once := assigned.once id
    have owned := state.owned_nonneg id
    rw [claims.holds, other.holds] at both
    simp only [occupied, tally] at once
    omega
  returned_once := by
    intro id first second returns other
    by_contra apart
    have both := Map.found_add_le_weigh state.goroutines (fun _ => Goroutine.owns id)
      (fun _ => Goroutine.owns_nonneg id) apart
    have once := assigned.once id
    have occupied := state.occupied_nonneg id
    rw [returns.owns, other.owns] at both
    simp only [owned, tally] at once
    omega
  counts := assigned.counted
  nonneg := by
    intro runner
    rw [assigned.counted runner]
    exact Map.count_nonneg _ _

theorem reached_assigned (interfaces : Interfaces Managers Event Outcome) {maxWorkers warmWorkers : Int}
    {managers : Managers} {allowed : System Managers → Action Event Outcome → Prop} {state : System Managers}
    (reached : Reaches (step interfaces) (Started maxWorkers warmWorkers managers) allowed state) :
    Assigned state := by
  apply reached.invariant
  · intro start started
    exact assigned_booted started
  · intro earlier action after _ assigned _ taken
    exact assigned_step interfaces assigned (step_effect interfaces taken)

/-- Exclusive assignment holds in every state that any interleaving reaches. -/
theorem exclusive_assignment (interfaces : Interfaces Managers Event Outcome) (maxWorkers warmWorkers : Int)
    (managers : Managers) (state : System Managers)
    (reached : Reaches (step interfaces) (Started maxWorkers warmWorkers managers) everyStep state) :
    Exclusive state :=
  (reached_assigned interfaces reached).exclusive

theorem exclusive_assignment_returned : ∃ state : System Unit,
    state.orchestrator.getActiveCount "r" = 1 ∧ Exclusive state := by
  obtain ⟨state, reached, shape⟩ : ∃ state, Reaches (step Interfaces.silent) (Started 1 1 ()) everyStep state ∧
      state.orchestrator.getActiveCount "r" = 1 := by
    apply Reaches.of_replay (oneWarm_started 1 1) [.allocate 0 "r" (some "c1"), .rename 0 none,
      .check 0 true, .register 0, .markBusy 0, .evaluate 0 ()]
    decide
  exact ⟨state, shape, exclusive_assignment Interfaces.silent 1 1 () state reached⟩

end System

end RunnersMux

import RunnersMux.Orchestrator.Assignment

/-! Dead containers that keep a slot.

A die event removes its container from whichever map records it. A boot that
fills the pool after the event looks again and cleans up. `AllocateWorker` looks
before it registers and not afterwards, so a candidate whose event is consumed
in between stays in `activeWorkers` for good.
-/

set_option autoImplicit false

namespace RunnersMux

open Foundations

/-- A boot goroutine that still has to look at the container it put into the pool. -/
def Goroutine.watches (id : ContainerID) : Goroutine → Prop
  | .boot (.pooled worker) | .boot (.dead worker) => worker.containerID = id
  | _ => False

/-- A goroutine that has nothing left to do. -/
def Goroutine.settled : Goroutine → Bool
  | .boot .finished | .allocate _ (.returned _) | .allocate _ .cancelled | .death .finished
  | .abort .finished => true
  | _ => false

namespace System

variable {Managers Event Outcome : Type}

def Gone (state : System Managers) (id : ContainerID) : Prop :=
  ∃ container, state.docker.lookup id = some container ∧ container.running = false

def Watched (state : System Managers) (id : ContainerID) : Prop :=
  ∃ g goroutine, state.goroutines.lookup g = some goroutine ∧ goroutine.watches id

/-- No call is in progress and no die event is outstanding. -/
structure Settled (state : System Managers) : Prop where
  idle : ∀ g goroutine, state.goroutines.lookup g = some goroutine → goroutine.settled = true
  delivered : ∀ id container, state.docker.lookup id = some container → container.running = false →
    id ∈ state.delivered

/-- Every recorded container is alive. -/
def NoPhantoms (state : System Managers) : Prop :=
  ∀ id, id ∈ state.orchestrator.warmPool ∨ id ∈ state.orchestrator.activeWorkers →
    state.running id = true

instance (state : System Managers) : Decidable (Settled state) :=
  decidable_of_iff (_ ∧ _) ⟨fun both => ⟨both.1, both.2⟩, fun settled => ⟨settled.idle, settled.delivered⟩⟩

instance (state : System Managers) : Decidable (NoPhantoms state) :=
  decidable_of_iff (∀ id ∈ state.orchestrator.warmPool.keys ∪ state.orchestrator.activeWorkers.keys,
      state.running id = true) <| by
    simp only [NoPhantoms, Finset.mem_union, Finmap.mem_keys]

/-- The container a registration is about to record. -/
def registers (state : System Managers) : Action Event Outcome → Option ContainerID
  | .register g =>
      match state.goroutines.lookup g with
      | some (.allocate _ (.alive candidate)) => some candidate.containerID
      | _ => none
  | _ => none

/-- No call registers a container whose die event has been consumed. -/
def registersLive (state : System Managers) (action : Action Event Outcome) : Prop :=
  ∀ id ∈ state.registers action, id ∉ state.delivered

instance (state : System Managers) (action : Action Event Outcome) :
    Decidable (registersLive state action) :=
  inferInstanceAs (Decidable (∀ id ∈ state.registers action, id ∉ state.delivered))

/-- After its die event a container is in the pool only while a boot goroutine
is about to look at it, and is never active. -/
structure Reaping (state : System Managers) : Prop where
  gone : ∀ id ∈ state.delivered, state.Gone id
  warm : ∀ id ∈ state.delivered, id ∈ state.orchestrator.warmPool → state.Watched id
  active : ∀ id ∈ state.delivered, id ∉ state.orchestrator.activeWorkers

theorem stop_gone {state : System Managers} {id key : ContainerID} (gone : state.Gone id) :
    (state.stop key).Gone id := by
  obtain ⟨container, found, dead⟩ := gone
  unfold Gone stop
  split
  · next other looked =>
      by_cases same : id = key
      · subst same
        exact ⟨_, Finmap.lookup_insert _, rfl⟩
      · exact ⟨container, (Finmap.lookup_insert_of_ne _ same).trans found, dead⟩
  · exact ⟨container, found, dead⟩

theorem remove_gone {state : System Managers} {removed : Bool} {id key : ContainerID} (gone : state.Gone id) :
    (state.remove removed key).Gone id := by
  rcases state.remove_cases key removed with ⟨same, _⟩ | ⟨same, _⟩ <;> rw [same]
  · exact gone
  · exact stop_gone gone

theorem containerRename_gone {state : System Managers} {id key : ContainerID} {name : String}
    (gone : state.Gone id) : (state.containerRename key name).Gone id := by
  obtain ⟨container, found, dead⟩ := gone
  unfold Gone containerRename
  split
  · next other looked =>
      by_cases same : id = key
      · subst same
        cases looked.symm.trans found
        exact ⟨_, Finmap.lookup_insert _, dead⟩
      · exact ⟨container, (Finmap.lookup_insert_of_ne _ same).trans found, dead⟩
  · exact ⟨container, found, dead⟩

theorem Gone.not_running {state : System Managers} {id : ContainerID} (gone : state.Gone id) :
    state.running id = false := by
  obtain ⟨container, found, dead⟩ := gone
  simp only [running, found, dead]

/-- A section that ends with one goroutine in a new phase. -/
theorem Reaping.resume {state between : System Managers} {g : GoroutineID} {old : Option Goroutine}
    {new : Goroutine} (reaping : Reaping state) (same : between.goroutines = state.goroutines)
    (found : state.goroutines.lookup g = old) (delivered : between.delivered = state.delivered)
    (gone : ∀ id, state.Gone id → between.Gone id)
    (warm : ∀ id ∈ state.delivered, id ∈ between.orchestrator.warmPool →
      (id ∈ state.orchestrator.warmPool ∧ ∀ goroutine ∈ old, goroutine.watches id → new.watches id) ∨
        new.watches id)
    (active : ∀ id ∈ state.delivered, id ∉ state.orchestrator.activeWorkers →
      id ∉ between.orchestrator.activeWorkers) :
    Reaping (between.resume g new) := by
  constructor
  · intro id member
    rw [resume_delivered, delivered] at member
    exact gone id (reaping.gone id member)
  · intro id member pooled
    rw [resume_delivered, delivered] at member
    have here : new.watches id → (between.resume g new).Watched id := fun watches =>
      ⟨g, new, Finmap.lookup_insert _, watches⟩
    rcases warm id member pooled with ⟨before, passes⟩ | watches
    · obtain ⟨other, goroutine, looked, watches⟩ := reaping.warm id member before
      by_cases mine : other = g
      · subst mine
        exact here (passes goroutine (found.symm.trans looked) watches)
      · refine ⟨other, goroutine, ?_, watches⟩
        rw [resume_goroutines, same, Finmap.lookup_insert_of_ne _ mine]
        exact looked
    · exact here watches
  · intro id member
    rw [resume_delivered, delivered] at member
    exact active id member (reaping.active id member)

/-- Such a section adds nothing to the maps, and its goroutine watched nothing. -/
theorem Reaping.quiet {state between : System Managers} {g : GoroutineID} {old : Option Goroutine}
    {new : Goroutine} (reaping : Reaping state) (same : between.goroutines = state.goroutines)
    (found : state.goroutines.lookup g = old) (unwatched : ∀ goroutine ∈ old, ∀ id, ¬goroutine.watches id)
    (delivered : between.delivered = state.delivered) (gone : ∀ id, state.Gone id → between.Gone id)
    (warm : ∀ id, id ∈ between.orchestrator.warmPool → id ∈ state.orchestrator.warmPool)
    (active : ∀ id, id ∈ between.orchestrator.activeWorkers → id ∈ state.orchestrator.activeWorkers) :
    Reaping (between.resume g new) := by
  apply reaping.resume same found delivered gone
  · intro id _ pooled
    exact .inl ⟨warm id pooled, fun goroutine here watches => absurd watches (unwatched goroutine here id)⟩
  · intro id _ absent present
    exact absent (active id present)

/-- The consumed event, for a container that no map records any more. -/
theorem Reaping.deliver {state : System Managers} (reaping : Reaping state) (key : ContainerID)
    (gone : state.Gone key) (unpooled : key ∉ state.orchestrator.warmPool)
    (inactive : key ∉ state.orchestrator.activeWorkers) :
    Reaping { state with delivered := insert key state.delivered } := by
  constructor
  · intro id member
    rcases Finset.mem_insert.mp member with same | earlier
    · exact same ▸ gone
    · exact reaping.gone id earlier
  · intro id member pooled
    rcases Finset.mem_insert.mp member with same | earlier
    · subst same
      exact absurd pooled unpooled
    · exact reaping.warm id earlier pooled
  · intro id member
    rcases Finset.mem_insert.mp member with same | earlier
    · exact same ▸ inactive
    · exact reaping.active id earlier

/-- After its critical section `handleContainerDeath` has left the container in
neither map, because no container is in both. -/
theorem Reaped.reaping {reporter : StatusReporter Managers} {state between : System Managers}
    {key : ContainerID} {changed : Bool} (reaped : Reaped reporter state key between changed)
    (exclusive : Exclusive state) :
    (between.goroutines = state.goroutines ∧ between.delivered = state.delivered ∧
      between.docker = state.docker) ∧
    (∀ id, id ∈ between.orchestrator.warmPool → id ∈ state.orchestrator.warmPool ∧ id ≠ key) ∧
    (∀ id, id ∈ between.orchestrator.activeWorkers → id ∈ state.orchestrator.activeWorkers ∧ id ≠ key) := by
  cases reaped with
  | active found =>
      refine ⟨⟨rfl, rfl, rfl⟩, ?_, ?_⟩
      · intro id pooled
        refine ⟨pooled, fun same => ?_⟩
        exact exclusive.warm_active id pooled (same ▸ Finmap.mem_of_lookup_eq_some found)
      · intro id active
        have split := Finmap.mem_erase.mp active
        exact ⟨split.2, split.1⟩
  | warm absent found =>
      refine ⟨⟨rfl, rfl, rfl⟩, ?_, ?_⟩
      · intro id pooled
        have split := Finmap.mem_erase.mp pooled
        exact ⟨split.2, split.1⟩
      · intro id active
        refine ⟨active, fun same => ?_⟩
        subst same
        exact Finmap.lookup_eq_none.mp absent active
  | unknown absent missing =>
      refine ⟨⟨rfl, rfl, rfl⟩, ?_, ?_⟩
      · intro id pooled
        refine ⟨pooled, fun same => ?_⟩
        subst same
        exact Finmap.lookup_eq_none.mp missing pooled
      · intro id active
        refine ⟨active, fun same => ?_⟩
        subst same
        exact Finmap.lookup_eq_none.mp absent active

theorem Picked.pool {o after : Orchestrator} {phase : AllocatePhase} (picked : Picked o after phase) :
    after.activeWorkers = o.activeWorkers ∧ ∀ id, id ∈ after.warmPool → id ∈ o.warmPool := by
  cases picked with
  | claim found => exact ⟨rfl, fun id pooled => (Finmap.mem_erase.mp pooled).2⟩
  | wait empty => exact ⟨rfl, fun id pooled => pooled⟩

theorem afterEvaluation_unwatched {caller later : Goroutine} (goes : afterEvaluation caller = some later)
    (id : ContainerID) : ¬caller.watches id := by
  intro watches
  unfold afterEvaluation at goes
  split at goes <;> cases goes <;> exact watches

theorem reaping_step (interfaces : Interfaces Managers Event Outcome) {state after : System Managers}
    {action : Action Event Outcome} (exclusive : Exclusive state) (reaping : Reaping state)
    (live : registersLive state action) (effect : Effect interfaces state action after) :
    Reaping after := by
  cases effect with
  | poolLock | poolBlock | setStatusReporter | managers | updateSettings =>
      exact ⟨reaping.gone, reaping.warm, reaping.active⟩
  | poolBoot held short full fresh =>
      exact reaping.quiet rfl fresh nofun rfl (fun _ gone => gone) (fun _ pooled => pooled)
        (fun _ active => active)
  | @bootCreate g key short ipAddress found fresh =>
      refine reaping.quiet rfl found ?_ rfl ?_ (fun _ pooled => pooled) (fun _ active => active)
      · rintro _ ⟨⟩ id ⟨⟩
      · rintro id ⟨container, looked, dead⟩
        -- Docker gives the container a new ID, so no dead one comes back to life.
        have other : id ≠ key := by
          intro same
          subst same
          cases fresh.symm.trans looked
        exact ⟨container, (Finmap.lookup_insert_of_ne _ other).trans looked, dead⟩
  | bootCreateFail found | bootInspect found | bootGiveUp found | cancel found | renameFail found
  | checkAlive found | checkDead found | markBusy found =>
      refine reaping.quiet rfl found ?_ rfl (fun _ gone => gone) (fun _ pooled => pooled)
        (fun _ active => active)
      rintro _ ⟨⟩ id ⟨⟩
  | bootInspectFail found | discard found | kill found =>
      refine reaping.quiet (remove_goroutines ..) found ?_ (remove_delivered ..) (fun _ => remove_gone) ?_ ?_
      · rintro _ ⟨⟩ id ⟨⟩
      · simp only [remove_orchestrator]
        exact fun _ pooled => pooled
      · simp only [remove_orchestrator]
        exact fun _ active => active
  | @bootPool g worker found free =>
      refine reaping.resume rfl found rfl (fun _ gone => gone) ?_ ?_
      · intro id _ pooled
        rcases Finmap.mem_insert.mp pooled with same | before
        · -- The container is pooled unchecked, and the call still has to check it.
          exact .inr same.symm
        · refine .inl ⟨before, ?_⟩
          rintro _ ⟨⟩ ⟨⟩
      · exact fun _ _ absent => absent
  | @bootAlive g worker found alive =>
      refine reaping.resume rfl found rfl (fun _ gone => gone) ?_ ?_
      · intro id member pooled
        refine .inl ⟨pooled, ?_⟩
        rintro _ ⟨⟩ watches
        -- The container answered the check, so its event is not among the delivered ones.
        have dead := (reaping.gone id member).not_running
        rw [← show worker.containerID = id from watches, alive] at dead
        cases dead
      · exact fun _ _ absent => absent
  | @bootDead g worker found =>
      refine reaping.resume rfl found rfl (fun _ gone => gone) ?_ ?_
      · intro id _ pooled
        refine .inl ⟨pooled, ?_⟩
        rintro _ ⟨⟩ watches
        exact watches
      · exact fun _ _ absent => absent
  | @bootDeath g worker between changed found free reaped =>
      obtain ⟨⟨goroutines, delivered, docker⟩, warm, active⟩ := reaped.reaping exclusive
      refine reaping.resume goroutines found delivered ?_ ?_ ?_
      · intro id gone
        unfold Gone
        rw [docker]
        exact gone
      · intro id _ pooled
        refine .inl ⟨(warm id pooled).1, ?_⟩
        rintro _ ⟨⟩ watches
        exact absurd (show worker.containerID = id from watches).symm (warm id pooled).2
      · exact fun id _ absent present => absent (active id present).1
  | bootBroadcast found free =>
      rcases found with found | found <;>
        refine reaping.quiet rfl found ?_ rfl (fun _ gone => gone) (fun _ pooled => pooled)
          (fun _ active => active) <;>
        rintro _ ⟨⟩ id ⟨⟩
  | allocate fresh free picked =>
      obtain ⟨active, warm⟩ := picked.pool
      exact reaping.quiet rfl fresh nofun rfl (fun _ gone => gone) warm fun id present => active ▸ present
  | wake found closed free picked =>
      obtain ⟨active, warm⟩ := picked.pool
      refine reaping.quiet rfl found ?_ rfl (fun _ gone => gone) warm fun id present => active ▸ present
      rintro _ ⟨⟩ id ⟨⟩
  | retry found free picked =>
      obtain ⟨active, warm⟩ := picked.pool
      refine reaping.quiet rfl found ?_ rfl (fun _ gone => gone) warm fun id present => active ▸ present
      rintro _ ⟨⟩ id ⟨⟩
  | rename found =>
      refine reaping.quiet (containerRename_goroutines ..) found ?_ (containerRename_delivered ..)
        (fun _ => containerRename_gone) ?_ ?_
      · rintro _ ⟨⟩ id ⟨⟩
      · simp only [containerRename_orchestrator]
        exact fun _ pooled => pooled
      · simp only [containerRename_orchestrator]
        exact fun _ active => active
  | @register g runner candidate found free =>
      have undelivered : candidate.containerID ∉ state.delivered := by
        apply live
        simp [registers, found]
      refine reaping.resume rfl found rfl (fun _ gone => gone) ?_ ?_
      · intro id _ pooled
        refine .inl ⟨pooled, ?_⟩
        rintro _ ⟨⟩ ⟨⟩
      · intro id member absent present
        rcases Finmap.mem_insert.mp present with same | before
        · exact undelivered (same ▸ member)
        · exact absent before
  | @dieEvent g key container between changed known dead fresh free reaped =>
      obtain ⟨⟨goroutines, delivered, docker⟩, warm, active⟩ := reaped.reaping exclusive
      have keeps : Reaping (between.resume g (.death (if changed then .evaluating else .finished))) := by
        refine reaping.quiet goroutines fresh nofun delivered ?_ (fun id pooled => (warm id pooled).1)
          (fun id present => (active id present).1)
        intro id gone
        unfold Gone
        rw [docker]
        exact gone
      have reaped := keeps.deliver key ⟨container, docker ▸ known, dead⟩
        (fun pooled => (warm key pooled).2 rfl) (fun present => (active key present).2 rfl)
      rw [resume_delivered, delivered] at reaped
      exact reaped
  | @abortActive g key worker found fresh free =>
      exact reaping.quiet rfl fresh nofun rfl (fun _ gone => gone) (fun _ pooled => pooled)
        (fun id present => (Finmap.mem_erase.mp present).2)
  | abortUnknown absent fresh free =>
      exact reaping.quiet rfl fresh nofun rfl (fun _ gone => gone) (fun _ pooled => pooled)
        (fun _ active => active)
  | evaluate found goes free =>
      obtain ⟨paused, managers, frame⟩ := state.evaluateCapacity_frame interfaces.pauser ‹_›
      rw [frame]
      refine reaping.quiet rfl found ?_ rfl (fun _ gone => gone) (fun _ pooled => pooled)
        (fun _ active => active)
      rintro _ ⟨⟩ id
      exact afterEvaluation_unwatched goes id
  | die alive =>
      constructor
      · intro id member
        rw [stop_delivered] at member
        exact stop_gone (reaping.gone id member)
      · intro id member pooled
        rw [stop_delivered] at member
        rw [stop_orchestrator] at pooled
        unfold Watched
        rw [stop_goroutines]
        exact reaping.warm id member pooled
      · intro id member
        rw [stop_delivered] at member
        rw [stop_orchestrator]
        exact reaping.active id member

theorem reaping_booted {maxWorkers warmWorkers : Int} {managers : Managers} {state : System Managers}
    (started : Started maxWorkers warmWorkers managers state) : Reaping state := by
  obtain ⟨docker, listing, answers, rfl⟩ := started
  have gone : ∀ id ∈ (booted maxWorkers warmWorkers docker listing managers).delivered,
      (booted maxWorkers warmWorkers docker listing managers).Gone id := by
    intro id member
    obtain ⟨known, dead⟩ := Finset.mem_filter.mp member
    obtain ⟨container, found⟩ := Finmap.mem_iff.mp (Finmap.mem_keys.mp known)
    rw [found] at dead
    exact ⟨container, found, dead⟩
  -- A recovered container was listed as running, so its event is still to come.
  have alive : ∀ id ∈ (booted maxWorkers warmWorkers docker listing managers).delivered,
      ¬(id ∈ (booted maxWorkers warmWorkers docker listing managers).orchestrator.warmPool ∨
        id ∈ (booted maxWorkers warmWorkers docker listing managers).orchestrator.activeWorkers) := by
    intro id member recorded
    obtain ⟨container, found, dead⟩ := gone id member
    obtain ⟨entry, listed, rfl, up⟩ :=
      Orchestrator.recoverState_running maxWorkers warmWorkers listing id recorded
    cases listing with
    | none => cases listed
    | some containers =>
        obtain ⟨record, known, agrees⟩ := (answers containers rfl).known entry listed
        cases known.symm.trans found
        cases (agrees.mpr up).symm.trans dead
  exact ⟨gone, fun id member pooled => absurd (.inl pooled) (alive id member),
    fun id member active => alive id member (.inr active)⟩

theorem watches_unsettled {goroutine : Goroutine} {id : ContainerID} (watches : goroutine.watches id) :
    goroutine.settled = false := by
  unfold Goroutine.watches at watches
  split at watches
  · rfl
  · rfl
  · cases watches

theorem Assigned.known {state : System Managers} (assigned : Assigned state) {id : ContainerID}
    (recorded : id ∈ state.orchestrator.warmPool ∨ id ∈ state.orchestrator.activeWorkers) :
    ∃ container, state.docker.lookup id = some container := by
  cases found : state.docker.lookup id with
  | some container => exact ⟨container, rfl⟩
  | none =>
      have unknown := (assigned.unknown id found).2
      have warm := state.orchestrator.warmAt_nonneg id
      have active := state.orchestrator.activeAt_nonneg id
      have holders := tally_nonneg (Goroutine.holds_nonneg id) state.goroutines
      unfold occupied at unknown
      rcases recorded with pooled | present
      · have one := warmAt_mem pooled
        omega
      · have one := activeAt_mem present
        omega

/-- While no call registers a container whose die event has been consumed, a
settled state records live containers only. -/
theorem no_phantoms (interfaces : Interfaces Managers Event Outcome) (maxWorkers warmWorkers : Int)
    (managers : Managers) (state : System Managers)
    (reached : Reaches (step interfaces) (Started maxWorkers warmWorkers managers) registersLive state)
    (settled : Settled state) : NoPhantoms state := by
  have reaping : Reaping state := by
    apply reached.invariant
    · intro start started
      exact reaping_booted started
    · intro earlier action after before reaping live taken
      have exclusive := (reached_assigned interfaces before).exclusive
      exact reaping_step interfaces exclusive reaping live (step_effect interfaces taken)
  intro id recorded
  obtain ⟨container, found⟩ := (reached_assigned interfaces reached).known recorded
  cases alive : container.running with
  | true => simp only [running, found, alive]
  | false =>
      have member := settled.delivered id container found alive
      rcases recorded with pooled | active
      · obtain ⟨g, goroutine, looked, watches⟩ := reaping.warm id member pooled
        cases (settled.idle g goroutine looked).symm.trans (watches_unsettled watches)
      · exact absurd active (reaping.active id member)

/-- The candidate dies after its liveness check, its die event finds it in
neither map, and the call registers it. -/
theorem phantom_worker : ∃ state : System Unit,
    Reaches (step Interfaces.silent) (Started 1 1 ()) everyStep state ∧
    Settled state ∧ ¬NoPhantoms state := by
  apply Reaches.of_replay (oneWarm_started 1 1) [.allocate 0 "r" (some "c1"), .rename 0 none,
    .check 0 true, .die "c1", .dieEvent 1 "c1", .register 0, .markBusy 0, .evaluate 0 ()]
  decide

theorem no_phantoms_booted : ∃ state : System Unit,
    (state.orchestrator.warmPool.size = 1 ∧ state.orchestrator.activeWorkers.size = 1) ∧
    NoPhantoms state := by
  obtain ⟨state, reached, settled, shape⟩ : ∃ state, Reaches (step Interfaces.silent) (Started 2 1 ())
      registersLive state ∧ Settled state ∧
      state.orchestrator.warmPool.size = 1 ∧ state.orchestrator.activeWorkers.size = 1 := by
    apply Reaches.of_replay (oneWarm_started 2 1) [.allocate 0 "r" (some "c1"), .poolLock, .poolLoop 1,
      .poolLoop 2, .rename 0 (some "3"), .check 0 true, .register 0, .markBusy 0, .evaluate 0 (),
      .bootCreate 1 "c2" "2" "10.0.0.2", .bootInspect 1, .bootRecord 1, .bootCheck 1 true, .bootBroadcast 1]
    decide
  exact ⟨state, shape, no_phantoms Interfaces.silent 2 1 () state reached settled⟩

end System

end RunnersMux

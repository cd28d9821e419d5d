import RunnersMux.Orchestrator.Assignment
import RunnersMux.ScaleSet.Provisioning

/-! Whether a scale set starts as many workers as it is asked for.

A worker that is registered while its payload is on the way is active and pending
at once. A call that finds it in both counts takes it for two workers, and starts
one less than it answers for.
-/

set_option autoImplicit false

namespace RunnersMux

open Foundations

theorem Action.asks_nonneg {Event Outcome : Type} (runner : RunnerName) (action : Action Event Outcome) :
    0 ≤ action.asks runner := by
  unfold asks
  split <;> decide

namespace Scaling

variable {Managers Event Outcome : Type}

/-- The workers that are active or still being started, each of them once. -/
def distinct (s : Scaling Managers) : Int :=
  s.system.orchestrator.activeOf s.scaler.runnerName + s.starting

/-- Nothing dies or fails. -/
def Calm (_ : Scaling Managers) (event : ScalingEvent Event Outcome) : Prop := event.loses = false

/-- Nothing dies or fails, and nobody but the call decides on a worker. -/
structure Undisturbed (c : CallID) (s : Scaling Managers) (event : ScalingEvent Event Outcome) : Prop where
  calm : event.loses = false
  others : s.adds event = 0 ∨ event = .scaleUp c

instance [DecidableEq Event] [DecidableEq Outcome] (c : CallID) (s : Scaling Managers)
    (event : ScalingEvent Event Outcome) : Decidable (Undisturbed c s event) :=
  decidable_of_iff (event.loses = false ∧ (s.adds event = 0 ∨ event = .scaleUp c))
    ⟨fun both => ⟨both.1, both.2⟩, fun undisturbed => ⟨undisturbed.calm, undisturbed.others⟩⟩

/-- What a call has decided on, from its count of the active workers on. -/
inductive Decided (scaler : Scaler) (count pending active : Int) : DesirePhase → Int → Prop where
  | counted : Decided scaler count pending active (.counted count pending active) 0
  | spawning {left : Nat} : Decided scaler count pending active
      (.spawning (scaler.targetRunnerCount count) left) (scaler.scaleUp count pending active)
  | returned : Decided scaler count pending active
      (.returned (scaler.targetRunnerCount count)) (scaler.scaleUp count pending active)

/-- A call since its count of the active workers, when the supply was `before`. -/
structure Answering (c : CallID) (scaler : Scaler) (count pending active before : Int) (quiet : Prop)
    (s : Scaling Managers) : Prop where
  same : s.scaler.maxRunners = scaler.maxRunners
  called : ∃ phase gain, s.calls.lookup c = some phase ∧ Decided scaler count pending active phase gain ∧
    before + gain ≤ s.supply ∧ (quiet → s.supply ≤ before + gain)

section
variable {s after : Scaling Managers} {c : CallID} {scaler : Scaler} {count pending active before : Int} {quiet : Prop}

theorem adds_nonneg (event : ScalingEvent Event Outcome) : 0 ≤ s.adds event := by
  unfold adds
  split
  · exact Action.asks_nonneg _ _
  · split
    · exact s.scaler.scaleUp_nonneg _ _ _
    · exact Int.le_refl 0
  · exact Int.le_refl 0

theorem scales_max {interfaces : Interfaces Managers Event Outcome} {event : ScalingEvent Event Outcome}
    (scales : Scales interfaces s event after) : after.scaler.maxRunners = s.scaler.maxRunners := by
  cases scales <;> rfl

/-- A call goes on by its own steps, and decides in one of them. -/
theorem Decided.scales {interfaces : Interfaces Managers Event Outcome} {event : ScalingEvent Event Outcome}
    {phase : DesirePhase} {gain : Int} (same : s.scaler.maxRunners = scaler.maxRunners)
    (found : s.calls.lookup c = some phase) (decided : Decided scaler count pending active phase gain)
    (scales : Scales interfaces s event after) : ∃ next more, after.calls.lookup c = some next ∧
      Decided scaler count pending active next more ∧
      ((event = .scaleUp c ∧ more = gain + s.adds event) ∨ (event ≠ .scaleUp c ∧ more = gain)) := by
  have lookup (d : CallID) (new : DesirePhase) :
      (s.proceed d new).calls.lookup c = if c = d then some new else some phase :=
    (Map.lookup_insert_if ..).trans (by rw [found])
  have target (count : Int) : s.scaler.targetRunnerCount count = scaler.targetRunnerCount count := by
    unfold Scaler.targetRunnerCount
    rw [same]
  have amount (count pending active : Int) :
      s.scaler.scaleUp count pending active = scaler.scaleUp count pending active := by
    unfold Scaler.scaleUp
    rw [target]
  cases scales with
  | desire fresh free =>
      refine ⟨phase, gain, (lookup _ _).trans (if_neg ?_), decided, .inr ⟨by simp, rfl⟩⟩
      rintro rfl
      cases fresh.symm.trans found
  | @measure d count pending here =>
      refine ⟨phase, gain, (lookup _ _).trans (if_neg ?_), decided, .inr ⟨by simp, rfl⟩⟩
      rintro rfl
      cases here.symm.trans found
      cases decided
  | @scaleUp d count pending active here =>
      by_cases own : c = d
      · -- The decision itself, with the counts that the call has carried along.
        subst own
        cases here.symm.trans found
        cases decided
        refine ⟨_, _, (lookup _ _).trans (if_pos rfl), ?_, .inl ⟨rfl, rfl⟩⟩
        simp only [adds, here, target, amount, Int.zero_add]
        exact .spawning
      · exact ⟨phase, gain, (lookup _ _).trans (if_neg own), decided, .inr ⟨by simpa using Ne.symm own, rfl⟩⟩
  | @spawn d w target left here fresh =>
      by_cases own : c = d
      · subst own
        cases here.symm.trans found
        cases decided
        exact ⟨_, _, (lookup _ _).trans (if_pos rfl), .spawning, .inr ⟨by simp, rfl⟩⟩
      · exact ⟨phase, gain, (lookup _ _).trans (if_neg own), decided, .inr ⟨by simp, rfl⟩⟩
  | @respond d target here =>
      by_cases own : c = d
      · subst own
        cases here.symm.trans found
        cases decided
        exact ⟨_, _, (lookup _ _).trans (if_pos rfl), .returned, .inr ⟨by simp, rfl⟩⟩
      · exact ⟨phase, gain, (lookup _ _).trans (if_neg own), decided, .inr ⟨by simp, rfl⟩⟩
  | _ => exact ⟨phase, gain, found, decided, .inr ⟨by simp, rfl⟩⟩

theorem Answering.scales {interfaces : Interfaces Managers Event Outcome} {event : ScalingEvent Event Outcome}
    (answering : Answering c scaler count pending active before quiet s) (calm : event.loses = false)
    (others : quiet → s.adds event = 0 ∨ event = .scaleUp c) (scales : Scales interfaces s event after) :
    Answering c scaler count pending active before quiet after := by
  obtain ⟨phase, gain, found, decided, least, most⟩ := answering.called
  obtain ⟨next, more, here, goes, own⟩ := decided.scales answering.same found scales
  have supplied := (supply_scales scales).2 calm
  have adds := s.adds_nonneg event
  refine ⟨(scales_max scales).trans answering.same, next, more, here, goes, ?_, fun still => ?_⟩
  · rcases own with ⟨_, more⟩ | ⟨_, more⟩ <;> omega
  · have upper := most still
    rcases own with ⟨_, more⟩ | ⟨other, more⟩
    · omega
    · have nothing := (others still).resolve_right other
      omega

/-- A run of steps of a call that has counted. -/
theorem Answering.reached {interfaces : Interfaces Managers Event Outcome}
    {allowed : Scaling Managers → ScalingEvent Event Outcome → Prop}
    (answering : Answering c scaler count pending active before quiet s)
    (calm : ∀ s event, allowed s event → event.loses = false)
    (others : quiet → ∀ s event, allowed s event → s.adds event = 0 ∨ event = .scaleUp c)
    (further : Reaches (step interfaces) (· = s) allowed after) :
    Answering c scaler count pending active before quiet after := by
  apply further.invariant
  · rintro _ rfl
    exact answering
  · intro state event next _ answering permitted taken
    exact answering.scales (calm state event permitted) (fun still => others still state event permitted)
      (step_scales interfaces taken)

theorem Answering.returned {target : Int} (answering : Answering c scaler count pending active before quiet s)
    (found : s.calls.lookup c = some (.returned target)) : target = scaler.targetRunnerCount count ∧
      before + scaler.scaleUp count pending active ≤ s.supply ∧
      (quiet → s.supply ≤ before + scaler.scaleUp count pending active) := by
  obtain ⟨phase, gain, here, decided, least, most⟩ := answering.called
  cases found.symm.trans here
  cases decided
  exact ⟨rfl, least, most⟩

end

/-- The counters of the orchestrator stay right under the scaler. -/
theorem scales_assigned {interfaces : Interfaces Managers Event Outcome} {s after : Scaling Managers}
    {event : ScalingEvent Event Outcome} (assigned : System.Assigned s.system)
    (scales : Scales interfaces s event after) : System.Assigned after.system := by
  cases scales with
  | orchestrator acted | allocate found acted | abort found acted =>
      exact System.assigned_step interfaces assigned (System.step_effect interfaces acted)
  | _ => exact assigned

/-- What holds in every state of a scaler that is created next to a running orchestrator. -/
structure Accounted (maxRunners : Int) (s : Scaling Managers) : Prop where
  max : s.scaler.maxRunners = maxRunners
  kept : Bookkept s
  assigned : System.Assigned s.system

theorem Accounted.distinct {maxRunners : Int} {s : Scaling Managers} (accounted : Accounted maxRunners s) :
    s.distinct = s.supply := by
  unfold Scaling.distinct supply
  rw [accounted.assigned.counted]

section
variable {interfaces : Interfaces Managers Event Outcome} {maxWorkers warmWorkers : Int} {managers : Managers}
  {system : System Managers} {runnerName : RunnerName} {maxRunners : Int} {s after : Scaling Managers}

theorem Accounted.reached {allowed : Scaling Managers → ScalingEvent Event Outcome → Prop}
    (accounted : Accounted maxRunners s) (further : Reaches (step interfaces) (· = s) allowed after) :
    Accounted maxRunners after := by
  apply further.invariant
  · rintro _ rfl
    exact accounted
  · intro state event next _ accounted _ taken
    have scales := step_scales interfaces taken
    exact ⟨(scales_max scales).trans accounted.max, accounted.kept.scales scales,
      scales_assigned accounted.assigned scales⟩

theorem new_accounted
    (booted : Reaches (System.step interfaces) (System.Started maxWorkers warmWorkers managers) everyStep system) :
    Accounted maxRunners (new system runnerName maxRunners) :=
  ⟨rfl, new_bookkept system runnerName maxRunners, System.reached_assigned interfaces booted⟩

end

/-- `pendingCount` holds no worker that has been obtained or given up, or there are enough of them. -/
def CountsRight (s : Scaling Managers) (target : Int) : Prop :=
  target ≤ s.distinct ∨ s.scaler.pendingCount ≤ s.starting

/-- A call that counts right leaves as many workers as it answers for, and one that
does not leaves less, unless somebody else decides on more meanwhile. -/
theorem demand_met (interfaces : Interfaces Managers Event Outcome) (maxWorkers warmWorkers : Int) (managers : Managers)
    (system : System Managers) (runnerName : RunnerName) (maxRunners : Int)
    (booted : Reaches (System.step interfaces) (System.Started maxWorkers warmWorkers managers) everyStep system)
    (s begun after : Scaling Managers)
    (reached : Reaches (step interfaces) (· = new system runnerName maxRunners) everyStep s)
    (c : CallID) (count pending target : Int) (locked : s.calls.lookup c = some (.locked count pending))
    (measured : step interfaces s (.measure c) = some begun)
    (further : Reaches (step interfaces) (· = begun) Calm after)
    (returned : after.calls.lookup c = some (.returned target)) :
    target = min count maxRunners ∧ (s.CountsRight target → target ≤ after.distinct) ∧
      (Reaches (step interfaces) (· = begun) (Undisturbed c) after →
        (target ≤ after.distinct ↔ s.CountsRight target)) := by
  have accounted : Accounted maxRunners s := (new_accounted booted).reached reached
  have first : Reaches (step interfaces) (· = s) everyStep begun := .next (.start rfl) trivial measured
  have last : Accounted maxRunners after := (accounted.reached first).reached further
  have own : pending = s.scaler.pendingCount := by
    refine (accounted.kept.held c pending ?_).2
    unfold reading
    rw [locked]
    rfl
  -- The count itself adds nothing.
  have answering (quiet : Prop) : Answering c s.scaler count pending
      (s.system.orchestrator.getActiveCount s.scaler.runnerName) s.supply quiet begun := by
    have scales := step_scales interfaces measured
    have supplied : begun.supply = s.supply + 0 := (supply_scales scales).2 rfl
    cases scales with
    | measure found =>
        cases locked.symm.trans found
        exact ⟨rfl, _, 0, Finmap.lookup_insert _, .counted, Int.le_of_eq supplied.symm,
          fun _ => Int.le_of_eq supplied⟩
  -- The supply falls short by what is pending and not being started any more.
  have amount : target = s.scaler.targetRunnerCount count → (s.CountsRight target ↔ target ≤ s.supply +
      s.scaler.scaleUp count pending (s.system.orchestrator.getActiveCount s.scaler.runnerName)) := by
    rintro rfl
    unfold CountsRight Scaler.scaleUp
    rw [accounted.distinct, own]
    unfold supply
    split <;> omega
  have counted := (answering False).reached (fun _ _ calm => calm) (fun never => never.elim) further
  obtain ⟨equal, least, _⟩ := counted.returned returned
  refine ⟨?_, fun right => ?_, fun undisturbed => ?_⟩
  · rw [equal, ← accounted.max]
    rfl
  · rw [last.distinct]
    exact Int.le_trans ((amount equal).mp right) least
  · have most := (((answering True).reached (fun _ _ quiet => quiet.calm) (fun _ _ _ quiet => quiet.others)
      undisturbed).returned returned).2.2 trivial
    rw [amount equal, last.distinct, Int.le_antisymm most least]

/-- A call that decides on one worker, which is registered while its payload is on the way. -/
def oneRegistered : List (ScalingEvent Empty Unit) :=
  [.desire 0 1, .measure 0, .scaleUp 0, .spawn 0 10, .respond 0, .generate 10 true, .allocate 10 (some "c1"),
    .orchestrator (.rename 10 none), .orchestrator (.check 10 true), .orchestrator (.register 10)]

/-- The next call asks for two, and answers two for the one that there is. -/
theorem demand_missed : System.Started 5 1 () (System.oneWarm 5 1) ∧ ∃ s after : Scaling Unit,
    Reaches (step Interfaces.silent) (· = new (System.oneWarm 5 1) "r" 5) everyStep s ∧ s.calls.lookup 1 = none ∧
      Reaches (step Interfaces.silent) (· = s) (Undisturbed 1) after ∧
      after.calls.lookup 1 = some (.returned (min 2 5)) ∧ after.distinct = 1 := by
  obtain ⟨s, reached, fresh, rest⟩ : ∃ s : Scaling Unit,
      Reaches (step Interfaces.silent) (· = new (System.oneWarm 5 1) "r" 5) everyStep s ∧ s.calls.lookup 1 = none ∧
      (replay (step Interfaces.silent) (Undisturbed 1) s [.desire 1 2, .measure 1, .scaleUp 1, .respond 1]).any
        (fun after => decide (after.calls.lookup 1 = some (.returned (min 2 5)) ∧ after.distinct = 1)) = true := by
    refine Reaches.of_replay rfl oneRegistered ?_
    decide
  obtain ⟨after, played, shape⟩ := (Option.any_eq_true _ _).mp rest
  exact ⟨System.oneWarm_started 5 1, s, after, reached, fresh, Reaches.replay (.start rfl) played,
    of_decide_eq_true shape⟩

/-- A call that finds nothing, and leaves the two workers that it is asked for. -/
theorem demand_met_fresh : ∃ s begun after : Scaling Unit, s.calls.lookup 0 = some (.locked 2 0) ∧
    step Interfaces.silent s (.measure 0) = some begun ∧
    Reaches (step Interfaces.silent) (· = begun) (Undisturbed 0) after ∧
    after.calls.lookup 0 = some (.returned 2) ∧ 2 ≤ after.distinct := by
  obtain ⟨s, reached, locked, right, rest⟩ : ∃ s : Scaling Unit,
      Reaches (step Interfaces.silent) (· = new (System.oneWarm 5 1) "r" 5) everyStep s ∧
      s.calls.lookup 0 = some (.locked 2 0) ∧ s.scaler.pendingCount ≤ s.starting ∧
      ((step Interfaces.silent s (.measure 0)).any fun begun =>
        (replay (step Interfaces.silent) (Undisturbed 0) begun
          [.scaleUp 0, .spawn 0 10, .spawn 0 11, .respond 0]).any
          fun after => decide (after.calls.lookup 0 = some (.returned 2))) = true := by
    refine Reaches.of_replay rfl [.desire 0 2] ?_
    decide
  obtain ⟨begun, measured, rest⟩ := (Option.any_eq_true _ _).mp rest
  obtain ⟨after, played, returned⟩ := (Option.any_eq_true _ _).mp rest
  have returned := of_decide_eq_true returned
  have undisturbed : Reaches (step Interfaces.silent) (· = begun) (Undisturbed 0) after :=
    Reaches.replay (.start rfl) played
  have calm : Reaches (step Interfaces.silent) (· = begun) Calm after := undisturbed.mono fun _ _ quiet => quiet.calm
  exact ⟨s, begun, after, locked, measured, undisturbed, returned,
    (demand_met Interfaces.silent 5 1 () _ "r" 5 (.start (System.oneWarm_started 5 1)) s begun after reached 0 2 0 2
      locked measured calm returned).2.1 (.inr right)⟩

end Scaling

end RunnersMux

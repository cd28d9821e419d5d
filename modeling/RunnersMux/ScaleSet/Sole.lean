import RunnersMux.ScaleSet.Manager

/-! The scale set manager as a tenant of its table.

Its goroutines write the table by the calls of a `BaseManager` only. Where
`Start` is accepted only at rest, one of them is engaged a runner at a time: the
one that launches the listener, and then the listener's own.
-/

set_option autoImplicit false

namespace RunnersMux

open Foundations

namespace LaunchPhase

/-- The entry of the `Start`. -/
def entry : LaunchPhase → Option Nat
  | .storing entry | .spawning entry _ | .waiting entry | .failing entry _ => some entry
  | .returned _ => none

/-- The entry that the `Start` is about to write. -/
def fails : LaunchPhase → Option Nat
  | .failing entry _ => some entry
  | _ => none

/-- The listener has yet to be spawned. -/
def engaged : LaunchPhase → Bool
  | .storing _ | .spawning _ _ => true
  | _ => false

end LaunchPhase

namespace ListenerPhase

/-- `runListener` has not returned. -/
def live : ListenerPhase → Bool
  | .starting _ | .listening _ => true
  | _ => false

/-- The last transition is to come. -/
def engaged : ListenerPhase → Bool
  | .starting _ | .listening _ | .exited _ _ | .ending _ => true
  | _ => false

end ListenerPhase

namespace ScaleSet

def engaged (s : ScaleSet) (t : ThreadID) (runner : RunnerName) : Prop :=
  (∃ phase, s.threads.lookup t = some (.launch runner phase) ∧ phase.engaged = true) ∨
    ∃ phase, s.threads.lookup t = some (.listener runner phase) ∧ phase.engaged = true

def names (s : ScaleSet) (t : ThreadID) (runner : RunnerName) (address : Nat) : Prop :=
  ∃ phase, s.threads.lookup t = some (.launch runner phase) ∧ address ∈ phase.fails

/-- One engaged goroutine a runner, and no entry of the future. -/
structure Sole (s : ScaleSet) : Prop extends Tenancy s.manager.processes s.engaged s.names where
  dated : ∀ t runner phase, s.threads.lookup t = some (.launch runner phase) → ∀ entry ∈ phase.entry,
    entry < s.manager.next

/-- No `Start` of the step is accepted for a runner that is up. -/
def Rested (s : ScaleSet) (event : ScaleSetEvent) : Prop :=
  ∀ runner ∈ event.starts, s.manager.processes.resting runner = true

instance (s : ScaleSet) (event : ScaleSetEvent) : Decidable (s.Rested event) :=
  inferInstanceAs (Decidable (∀ runner ∈ event.starts, _))

theorem new_sole : Sole .new := by
  constructor
  · constructor
    · rintro t runner (⟨phase, found, _⟩ | ⟨phase, found, _⟩) <;> cases found
    · rintro t other runner (⟨phase, found, _⟩ | ⟨phase, found, _⟩) <;> cases found
    · rintro t other runner address (⟨phase, found, _⟩ | ⟨phase, found, _⟩) <;> cases found
  · intro t runner phase found
    cases found

variable {s after : ScaleSet} {t : ThreadID} {thread : ScaleSetThread} {manager : ScaleSetManager}

/-- A step writes the table by one call of the `BaseManager`, or leaves it. -/
theorem step_table {event : ScaleSetEvent} (taken : s.step event = some after)
    (busy : ∀ runner, event ≠ .markBusy runner) (idle : ∀ runner, event ≠ .markIdle runner) :
    after.manager.processes = s.manager.processes ∨ ∃ request : TableCall, request.plain ∧
      request.starts = event.starts ∧ s.manager.processes.call request = some after.manager.processes := by
  have transition (runner : RunnerName) (goal : RunnerState) (plain : goal ≠ .busy) :
      s.manager.processes.transitioned runner goal = s.manager.processes ∨ ∃ request : TableCall, request.plain ∧
        request.starts = none ∧
        s.manager.processes.call request = some (s.manager.processes.transitioned runner goal) := by
    unfold Processes.transitioned
    cases moved : s.manager.processes.transition runner goal with
    | error refused => exact .inl rfl
    | ok processes => exact .inr ⟨.transition runner goal, plain, rfl, by simp [Processes.call, moved, Except.toOption]⟩
  cases step_moves taken with
  | @start t runner processes fresh started =>
      exact .inr ⟨.start runner s.manager.next, trivial, rfl, by simp [Processes.call, started, Except.toOption]; rfl⟩
  | spawn found fresh => exact .inl rfl
  | @stop t runner processes fresh stopped =>
      exact .inr ⟨.stop runner, trivial, rfl, by simp [Processes.call, stopped, Except.toOption]; rfl⟩
  | @launch t reply runner phase next manager found launches =>
      cases launches with
      | @fail entry text => exact .inr ⟨.fail runner entry text, trivial, rfl, rfl⟩
      | _ => exact .inl rfl
  | @listen t reply runner phase next manager found listens =>
      cases listens with
      | online => exact transition runner .online (by decide)
      | @finish failure goal text down => exact transition runner goal (by rintro rfl; cases down)
      | @report text => exact .inr ⟨.setError runner text, trivial, rfl, rfl⟩
      | _ => exact .inl rfl
  | halt found table counter => exact .inl table
  | @markBusy runner => exact absurd rfl (busy runner)
  | @markIdle runner => exact absurd rfl (idle runner)

theorem lookup_resume (other : ThreadID) : (s.resume t thread manager).threads.lookup other =
    if other = t then some thread else s.threads.lookup other :=
  Map.lookup_insert_if _ _ _ _

/-- An engaged thread of a state in which one thread has moved. -/
theorem engaged_resume {other : ThreadID} {name : RunnerName} (engaged : (s.resume t thread manager).engaged other name) :
    other ≠ t ∧ s.engaged other name ∨ other = t ∧
      ((∃ phase, thread = .launch name phase ∧ phase.engaged = true) ∨
        ∃ phase, thread = .listener name phase ∧ phase.engaged = true) := by
  by_cases same : other = t
  · right
    rcases engaged with ⟨phase, found, needs⟩ | ⟨phase, found, needs⟩
    · rw [lookup_resume, if_pos same] at found
      exact ⟨same, .inl ⟨phase, Option.some.inj found, needs⟩⟩
    · rw [lookup_resume, if_pos same] at found
      exact ⟨same, .inr ⟨phase, Option.some.inj found, needs⟩⟩
  · left
    rcases engaged with ⟨phase, found, needs⟩ | ⟨phase, found, needs⟩
    · rw [lookup_resume, if_neg same] at found
      exact ⟨same, .inl ⟨phase, found, needs⟩⟩
    · rw [lookup_resume, if_neg same] at found
      exact ⟨same, .inr ⟨phase, found, needs⟩⟩

theorem names_resume {other : ThreadID} {name : RunnerName} {address : Nat}
    (named : (s.resume t thread manager).names other name address) :
    other ≠ t ∧ s.names other name address ∨
      other = t ∧ ∃ phase, thread = .launch name phase ∧ address ∈ phase.fails := by
  obtain ⟨phase, found, fails⟩ := named
  rw [lookup_resume] at found
  split at found
  · next same => exact .inr ⟨same, phase, Option.some.inj found, fails⟩
  · next different => exact .inl ⟨different, phase, found, fails⟩

theorem dated_resume (sole : s.Sole) (next : s.manager.next ≤ manager.next)
    (own : ∀ runner phase, thread = .launch runner phase → ∀ entry ∈ phase.entry, entry < manager.next) :
    ∀ other runner phase, (s.resume t thread manager).threads.lookup other = some (.launch runner phase) →
      ∀ entry ∈ phase.entry, entry < manager.next := by
  intro other runner phase found entry named
  rw [lookup_resume] at found
  split at found
  · exact own runner phase (Option.some.inj found) entry named
  · exact Nat.lt_of_lt_of_le (sole.dated other runner phase found entry named) next

/-- A launch that is engaged was so before its step. -/
theorem launches_engaged {runner : RunnerName} {phase next : LaunchPhase}
    (launches : Launches s.manager runner phase manager next) (needs : next.engaged = true) : phase.engaged = true := by
  cases launches with
  | store => rfl
  | _ => cases needs

theorem listens_engaged {runner : RunnerName} {phase next : ListenerPhase}
    (listens : Listens s.manager runner phase manager next) (needs : next.engaged = true) : phase.engaged = true := by
  cases listens with
  | finish | report | drop => cases needs
  | _ => rfl

theorem Sole.launch {runner : RunnerName} {phase next : LaunchPhase} (sole : s.Sole)
    (found : s.threads.lookup t = some (.launch runner phase)) (launches : Launches s.manager runner phase manager next) :
    Sole (s.resume t (.launch runner next) manager) := by
  have dated := sole.dated t runner phase found
  constructor
  · apply sole.moves
    · intro other name engaged
      rcases engaged_resume engaged with ⟨_, before⟩ | ⟨rfl, ⟨now, same, needs⟩ | ⟨now, same, _⟩⟩
      · exact before
      · cases same
        exact .inl ⟨phase, found, launches_engaged launches needs⟩
      · cases same
    · intro other name address named
      rcases names_resume named with ⟨_, before⟩ | ⟨rfl, now, same, fails⟩
      · exact .inl before
      · cases same
        cases launches with
        | failed known down =>
            -- The runner has failed, so that no thread is engaged for it.
            right
            intro another engaged
            rcases engaged_resume engaged with ⟨_, before⟩ | ⟨same, _⟩
            · obtain ⟨entry, looked, up⟩ := sole.toTenancy.entry before
              cases known.symm.trans looked
              rw [down] at up
              cases up
            · exact same
        | _ => cases fails
    · intro other name engaged
      cases launches with
      | @fail address text =>
          apply Processes.keeps_fail
          rintro rfl
          rcases engaged_resume engaged with ⟨different, before⟩ | ⟨_, ⟨now, same, needs⟩ | ⟨now, same, _⟩⟩
          · exact sole.stale other t runner address before ⟨_, found, rfl⟩ (Ne.symm different)
          · cases same
            cases needs
          · cases same
      | _ => exact .refl _ name
  · cases launches with
    | store =>
        apply dated_resume sole (Nat.le_succ _)
        intro name now same entry named
        cases same
        exact Nat.lt_succ_of_lt (dated entry named)
    | leave =>
        apply dated_resume sole (Nat.le_refl _)
        intro name now same entry named
        cases same
        cases named
    | failed known down =>
        apply dated_resume sole (Nat.le_refl _)
        intro name now same entry named
        cases same
        exact dated entry named
    | fail =>
        apply dated_resume sole (Nat.le_refl _)
        intro name now same entry named
        cases same
        cases named

theorem Sole.listen {runner : RunnerName} {phase next : ListenerPhase} (sole : s.Sole)
    (found : s.threads.lookup t = some (.listener runner phase)) (listens : Listens s.manager runner phase manager next) :
    Sole (s.resume t (.listener runner next) manager) := by
  constructor
  · apply sole.moves
    · intro other name engaged
      rcases engaged_resume engaged with ⟨_, before⟩ | ⟨rfl, ⟨now, same, _⟩ | ⟨now, same, needs⟩⟩
      · exact before
      · cases same
      · cases same
        exact .inr ⟨phase, found, listens_engaged listens needs⟩
    · intro other name address named
      rcases names_resume named with ⟨_, before⟩ | ⟨_, now, same, _⟩
      · exact .inl before
      · cases same
    · intro other name engaged
      cases listens with
      | online => exact Processes.keeps_transitioned fun _ => rfl
      | finish down =>
          -- The thread was the one engaged for its runner, and is no longer.
          apply Processes.keeps_transitioned
          rintro rfl
          rcases engaged_resume engaged with ⟨different, before⟩ | ⟨_, ⟨now, same, _⟩ | ⟨now, same, needs⟩⟩
          · exact absurd (sole.single other t runner before (.inr ⟨_, found, rfl⟩)) different
          · cases same
          · cases same
            cases needs
      | report => exact Processes.keeps_setError _ _
      | _ => exact .refl _ name
  · have same : manager.next = s.manager.next := by
      cases listens <;> rfl
    refine dated_resume sole (Nat.le_of_eq same.symm) ?_
    intro name now equal
    cases equal

/-- A step of a thread that neither is nor becomes a `Start` or a listener. -/
theorem Sole.steady (sole : s.Sole) (keeps : ∀ name, s.manager.processes.Keeps after.manager.processes name)
    (next : after.manager.next = s.manager.next)
    (launches : ∀ other runner phase, after.threads.lookup other = some (.launch runner phase) →
      s.threads.lookup other = some (.launch runner phase))
    (listeners : ∀ other runner phase, after.threads.lookup other = some (.listener runner phase) →
      s.threads.lookup other = some (.listener runner phase)) : after.Sole := by
  constructor
  · apply sole.moves
    · rintro other name (⟨phase, found, needs⟩ | ⟨phase, found, needs⟩)
      · exact .inl ⟨phase, launches other name phase found, needs⟩
      · exact .inr ⟨phase, listeners other name phase found, needs⟩
    · rintro other name address ⟨phase, found, fails⟩
      exact .inl ⟨phase, launches other name phase found, fails⟩
    · intro other name _
      exact keeps name
  · intro other runner phase found entry named
    rw [next]
    exact sole.dated other runner phase (launches other runner phase found) entry named

/-- A `Start` at rest. -/
theorem Sole.start {runner : RunnerName} {processes : Processes} (sole : s.Sole)
    (rested : s.manager.processes.resting runner = true)
    (started : s.manager.processes.start runner s.manager.next = .ok processes) :
    Sole (s.resume t (.launch runner (.storing s.manager.next))
      { s.manager with processes, next := s.manager.next + 1 }) := by
  obtain ⟨_, rfl⟩ := Processes.start_ok started
  constructor
  · apply sole.begins (t := t) rested rfl
    · intro other name engaged
      rcases engaged_resume engaged with ⟨_, before⟩ | ⟨same, ⟨now, mine, _⟩ | ⟨now, mine, _⟩⟩
      · exact .inl before
      · cases mine
        exact .inr ⟨same, rfl⟩
      · cases mine
    · intro other name address named
      rcases names_resume named with ⟨_, before⟩ | ⟨same, now, mine, fails⟩
      · exact .inl before
      · cases mine
        cases fails
    · rintro other address ⟨phase, found, fails⟩
      refine Nat.ne_of_gt (sole.dated other runner phase found address ?_)
      cases phase <;> cases fails
      rfl
  · apply dated_resume sole (Nat.le_succ _)
    intro name phase same entry named
    cases same
    cases named
    exact Nat.lt_succ_self _

/-- A launch hands its runner over to the listener that it spawns. -/
theorem Sole.spawn {g : ThreadID} {runner : RunnerName} {entry context : Nat} (sole : s.Sole)
    (found : s.threads.lookup t = some (.launch runner (.spawning entry context))) :
    Sole ((s.resume t (.launch runner (.waiting entry)) s.manager).resume g
      (.listener runner (.starting context)) s.manager) := by
  have launches := sole.dated t runner _ found
  constructor
  · apply sole.hands (t := t) (g := g) (.inl ⟨_, found, rfl⟩)
    · intro other name engaged
      rcases engaged_resume engaged with ⟨_, before⟩ | ⟨same, ⟨now, mine, _⟩ | ⟨now, mine, _⟩⟩
      · rcases engaged_resume before with ⟨apart, old⟩ | ⟨_, ⟨now, mine, needs⟩ | ⟨now, mine, _⟩⟩
        · exact .inr ⟨apart, old⟩
        · cases mine
          cases needs
        · cases mine
      · cases mine
      · cases mine
        exact .inl ⟨same, rfl⟩
    · intro other name address named
      rcases names_resume named with ⟨_, before⟩ | ⟨_, now, mine, _⟩
      · rcases names_resume before with kept | ⟨_, now, mine, fails⟩
        · exact kept
        · cases mine
          cases fails
      · cases mine
  · intro other name phase looked entry named
    rw [lookup_resume, lookup_resume] at looked
    split at looked
    · cases looked
    · split at looked
      · cases looked
        exact launches entry named
      · exact sole.dated other name phase looked entry named

/-- A thread that halts is neither a launch nor a listener. -/
theorem Sole.halt {runner : RunnerName} {phase : HaltPhase} (sole : s.Sole)
    (keeps : ∀ name, s.manager.processes.Keeps manager.processes name) (counter : manager.next = s.manager.next) :
    Sole (s.resume t (.halt runner phase) manager) := by
  apply sole.steady keeps counter
  · intro other name now found
    rw [lookup_resume] at found
    split at found
    · cases found
    · exact found
  · intro other name now found
    rw [lookup_resume] at found
    split at found
    · cases found
    · exact found

theorem Sole.step {event : ScaleSetEvent} (sole : s.Sole) (rested : s.Rested event)
    (taken : s.step event = some after) : after.Sole := by
  cases step_moves taken with
  | start fresh started => exact sole.start (rested _ rfl) started
  | spawn found fresh => exact sole.spawn found
  | stop fresh stopped => exact sole.halt (fun name => Processes.keeps_stop stopped) rfl
  | launch found launches => exact sole.launch found launches
  | listen found listens => exact sole.listen found listens
  | halt found table counter =>
      exact sole.halt (fun name => .same (congrArg (Finmap.lookup name) table)) counter
  | @markBusy runner =>
      exact sole.steady (fun name => Processes.keeps_markBusy runner) rfl (fun _ _ _ => id) fun _ _ _ => id
  | @markIdle runner =>
      exact sole.steady (fun name => Processes.keeps_markIdle runner rfl) rfl (fun _ _ _ => id) fun _ _ _ => id

/-- A runner is engaged before a step if it is after it, unless the step starts it. -/
theorem engaged_step {event : ScaleSetEvent} {runner : RunnerName} (taken : s.step event = some after)
    (mine : after.engaged t runner) : (∃ other, s.engaged other runner) ∨ runner ∈ event.starts := by
  cases step_moves taken with
  | start fresh started =>
      rcases engaged_resume mine with ⟨_, before⟩ | ⟨_, ⟨now, same, _⟩ | ⟨now, same, _⟩⟩
      · exact .inl ⟨t, before⟩
      · cases same
        exact .inr rfl
      · cases same
  | @spawn u g name entry context found fresh =>
      rcases engaged_resume mine with ⟨_, before⟩ | ⟨_, ⟨now, same, _⟩ | ⟨now, same, _⟩⟩
      · rcases engaged_resume before with ⟨_, old⟩ | ⟨_, ⟨now, same, needs⟩ | ⟨now, same, _⟩⟩
        · exact .inl ⟨t, old⟩
        · cases same
          cases needs
        · cases same
      · cases same
      · cases same
        exact .inl ⟨u, .inl ⟨_, found, rfl⟩⟩
  | stop fresh stopped =>
      rcases engaged_resume mine with ⟨_, before⟩ | ⟨_, ⟨now, same, _⟩ | ⟨now, same, _⟩⟩
      · exact .inl ⟨t, before⟩
      · cases same
      · cases same
  | @launch u reply name phase next manager found launches =>
      rcases engaged_resume mine with ⟨_, before⟩ | ⟨_, ⟨now, same, needs⟩ | ⟨now, same, _⟩⟩
      · exact .inl ⟨t, before⟩
      · cases same
        exact .inl ⟨u, .inl ⟨phase, found, launches_engaged launches needs⟩⟩
      · cases same
  | @listen u reply name phase next manager found listens =>
      rcases engaged_resume mine with ⟨_, before⟩ | ⟨_, ⟨now, same, _⟩ | ⟨now, same, needs⟩⟩
      · exact .inl ⟨t, before⟩
      · cases same
      · cases same
        exact .inl ⟨u, .inr ⟨phase, found, listens_engaged listens needs⟩⟩
  | halt found table counter =>
      rcases engaged_resume mine with ⟨_, before⟩ | ⟨_, ⟨now, same, _⟩ | ⟨now, same, _⟩⟩
      · exact .inl ⟨t, before⟩
      · cases same
      · cases same
  | markBusy | markIdle => exact .inl ⟨t, mine⟩

/-- The goroutine of a live listener is engaged. -/
theorem Sole.listener {g other : ThreadID} {runner : RunnerName} {phase next : ListenerPhase} (sole : s.Sole)
    (one : s.threads.lookup g = some (.listener runner phase)) (two : s.threads.lookup other = some (.listener runner next))
    (live : phase.live = true) (alive : next.live = true) : g = other := by
  have engaged (phase : ListenerPhase) (live : phase.live = true) : phase.engaged = true := by
    cases phase <;> first | rfl | cases live
  exact sole.single g other runner (.inr ⟨phase, one, engaged phase live⟩) (.inr ⟨next, two, engaged next alive⟩)

end ScaleSet

end RunnersMux

import RunnersMux.Standalone.Custody
import RunnersMux.Mux.Tenancy

/-! Runs in which `Start` is accepted only for a runner at rest.

The lifecycles of the manager are tenants of its table: one is engaged a runner
at a time, so one listener of a runner is live at a time. What is asked of the
starts of some runners is enough for these.
-/

set_option autoImplicit false

namespace RunnersMux

open Foundations

/-- A section takes its runner's entry down if it ends the lifecycle or reports to the entry. -/
theorem perform_keeps {m after : StandaloneManager} {runner name : RunnerName} {answer : Answer} {head : Section}
    {todo : List Section} (performed : m.perform runner answer head = some (after, todo))
    (stays : name = runner → head.drops = false) (stale : name = runner → ∀ address text, head = .fail address text →
      ∀ entry, m.processes.lookup runner = some entry → entry.address ≠ address) :
    m.processes.Keeps after.processes name := by
  rcases perform_processes performed with same | ⟨goal, rfl, same⟩ | ⟨text, rfl, same⟩ | ⟨address, text, rfl, same⟩
  · exact .same (by rw [same])
  · rw [same]
    exact Processes.keeps_transitioned fun mine => stays mine.symm
  · rw [same]
    exact Processes.keeps_setError runner text
  · rw [same]
    apply Processes.keeps_fail
    rintro rfl
    exact stale rfl address text rfl

namespace Standalone

def engaged (s : Standalone) (t : ThreadID) (runner : RunnerName) : Prop :=
  ∃ todo, s.threads.lookup t = some (.lifecycle runner todo) ∧ Engaged todo

def names (s : Standalone) (t : ThreadID) (runner : RunnerName) (address : Nat) : Prop :=
  ∃ todo, s.threads.lookup t = some (.lifecycle runner todo) ∧ ∃ later ∈ todo, address ∈ later.entry

/-- Each of the runners has one lifecycle that is engaged for it. -/
abbrev Sole (only : RunnerName → Prop) (s : Standalone) : Prop :=
  Tenancy s.manager.processes (fun t runner => only runner ∧ s.engaged t runner) s.names

variable {only : RunnerName → Prop}

theorem new_sole (only : RunnerName → Prop) : Sole only .new := by
  constructor
  · rintro t runner ⟨_, todo, found, _⟩
    cases found
  · rintro t other runner ⟨_, todo, found, _⟩
    cases found
  · rintro t other runner address ⟨_, todo, found, _⟩
    cases found

/-- A step that leaves the lifecycle threads where they are and takes no entry down. -/
theorem Sole.steady {s after : Standalone} (sole : s.Sole only)
    (keeps : ∀ name, s.manager.processes.Keeps after.manager.processes name)
    (threads : ∀ t runner todo, after.threads.lookup t = some (.lifecycle runner todo) ↔
      s.threads.lookup t = some (.lifecycle runner todo)) : after.Sole only := by
  apply sole.moves
  · rintro t runner ⟨asked, todo, found, engaged⟩
    exact ⟨asked, todo, (threads _ _ _).mp found, engaged⟩
  · rintro t runner address ⟨todo, found, named⟩
    exact .inl ⟨todo, (threads _ _ _).mp found, named⟩
  · intro t runner _
    exact keeps runner

section
variable {s : Standalone} {t : ThreadID} {runner : RunnerName} {head : Section} {rest todo : List Section}
  {answer : Answer} {manager : StandaloneManager}

/-- A lifecycle that is engaged after a section was engaged before it, and not by
the last that it needs the runner for. -/
theorem engaged_performs (kept : Kept s.manager runner (head :: rest))
    (performed : s.manager.perform runner answer head = some (manager, todo)) (engaged : Engaged (todo ++ rest)) :
    Engaged (head :: rest) ∧ head.drops = false ∧ ∀ address text, head ≠ .fail address text := by
  have ⟨_, nothing⟩ := perform_todo performed
  have idle (slow : head.passing = false) : ¬Engaged rest := by
    rintro ⟨later, member, works | drops⟩
    · exact kept.straight.ended slow ⟨later, member, works⟩
    · cases (kept.first later member).symm.trans drops
  have left (none_ : todo = []) : Engaged rest := by
    rw [none_] at engaged
    exact engaged
  refine ⟨?_, ?_, ?_⟩
  · obtain ⟨later, member, needs⟩ := engaged
    rcases List.mem_append.mp member with new | old
    · refine ⟨head, List.mem_cons_self, .inl ?_⟩
      cases works : head.working with
      | true => rfl
      | false =>
          rw [nothing (.inr works)] at new
          cases new
    · exact ⟨later, List.mem_cons_of_mem _ old, needs⟩
  · cases drops : head.drops with
    | false => rfl
    | true =>
        cases head with
        | transition goal =>
            have slow : (Section.transition goal).passing = false := congrArg not drops
            exact absurd (left (nothing (.inr rfl))) (idle slow)
        | _ => cases drops
  · rintro address text rfl
    exact absurd (left (nothing (.inr rfl))) (idle rfl)

theorem engaged_perform (custody : Custody s) (found : s.threads.lookup t = some (.lifecycle runner (head :: rest)))
    (performed : s.manager.perform runner answer head = some (manager, todo)) {other : ThreadID} {name : RunnerName}
    (mine : (s.resume t (.lifecycle runner (todo ++ rest)) manager).engaged other name) : s.engaged other name := by
  obtain ⟨others, here, engaged⟩ := mine
  rw [lookup_resume] at here
  split at here
  · next same =>
      cases here
      exact ⟨_, same ▸ found, (engaged_performs (custody.kept t runner _ found) performed engaged).1⟩
  · exact ⟨others, here, engaged⟩

theorem Sole.performs (custody : Custody s) (sole : s.Sole only)
    (found : s.threads.lookup t = some (.lifecycle runner (head :: rest)))
    (performed : s.manager.perform runner answer head = some (manager, todo)) :
    Sole only (s.resume t (.lifecycle runner (todo ++ rest)) manager) := by
  have ⟨_, nothing⟩ := perform_todo performed
  have engages := engaged_performs (custody.kept t runner _ found) performed
  have fewer (other : ThreadID) (name : RunnerName)
      (mine : only name ∧ (s.resume t (.lifecycle runner (todo ++ rest)) manager).engaged other name) :
      only name ∧ s.engaged other name :=
    ⟨mine.1, engaged_perform custody found performed mine.2⟩
  have alone (works : Engaged (head :: rest)) (other : ThreadID) (mine : only runner ∧ s.engaged other runner) :
      other = t :=
    sole.single other t runner mine ⟨mine.1, _, found, works⟩
  apply sole.moves fewer
  · rintro other name address ⟨others, here, later, member, named⟩
    rw [lookup_resume] at here
    split at here
    · next same =>
        subst same
        cases here
        rcases List.mem_append.mp member with new | old
        · right
          intro another mine
          refine alone ⟨head, List.mem_cons_self, .inl ?_⟩ another (fewer another _ mine)
          cases works : head.working with
          | true => rfl
          | false =>
              rw [nothing (.inr works)] at new
              cases new
        · exact .inl ⟨_, found, later, List.mem_cons_of_mem _ old, named⟩
    · exact .inl ⟨others, here, later, member, named⟩
  · intro other name mine
    -- The thread itself is not at its end, and no other engaged thread of its runner is.
    apply perform_keeps performed
    · rintro rfl
      cases drops : head.drops with
      | false => rfl
      | true =>
          have same := alone ⟨head, List.mem_cons_self, .inr drops⟩ other (fewer other _ mine)
          obtain ⟨_, others, here, engaged⟩ := mine
          rw [lookup_resume, if_pos same] at here
          cases here
          exact drops.symm.trans (engages engaged).2.1
    · rintro rfl address text rfl
      refine sole.stale other t name address (fewer other name mine) ⟨_, found, _, List.mem_cons_self, rfl⟩ ?_
      intro same
      obtain ⟨_, others, here, engaged⟩ := mine
      rw [lookup_resume, if_pos same.symm] at here
      cases here
      exact (engages engaged).2.2 address text rfl

end

/-- A thread begins to be engaged in a `Start` only. -/
theorem engaged_step {s after : Standalone} {call : Call} {t : ThreadID} {runner : RunnerName} (custody : Custody s)
    (taken : s.step call = some after) (mine : after.engaged t runner) :
    s.engaged t runner ∨ runner ∈ call.starts ∧ s.threads.lookup t = none := by
  cases call with
  | own event =>
      cases act_moves taken with
      | start fresh started =>
          obtain ⟨todo, found, engaged⟩ := mine
          rw [lookup_resume] at found
          split at found
          · next same =>
              cases found
              exact .inr ⟨rfl, same ▸ fresh⟩
          · exact .inl ⟨todo, found, engaged⟩
      | perform found performed => exact .inl (engaged_perform custody found performed mine)
      | stop fresh stopped | advance found advanced =>
          obtain ⟨todo, here, engaged⟩ := mine
          rw [lookup_resume] at here
          split at here
          · cases here
          · exact .inl ⟨todo, here, engaged⟩
      | exit alive => exact .inl mine
  | lockOthers outcome activeRunners | unlockOthers outcome | markBusy name | markIdle name =>
      cases taken
      exact .inl mine

theorem Sole.step {s after : Standalone} {call : Call} (custody : Custody s) (sole : s.Sole only)
    (rested : ∀ runner ∈ call.starts, only runner → s.manager.processes.resting runner = true)
    (taken : s.step call = some after) : after.Sole only := by
  have swept (outcome : Finset Pid) (source goal : RunnerState) (sent : Signal) (spared : Finset RunnerName)
      (up : goal.down = false) (name : RunnerName) :
      s.manager.processes.Keeps (s.manager.sweep outcome source goal sent spared).processes name := by
    apply Processes.keeps_mapValues
    intro entry
    refine ⟨?_, fun down => ?_⟩
    · split <;> rfl
    · split at down
      · cases up.symm.trans down
      · exact down
  cases call with
  | own event =>
      cases act_moves taken with
      | @start t runner processes fresh started =>
          obtain ⟨_, same⟩ := Processes.start_ok started
          change Tenancy processes _ _
          rw [same]
          have begun (other : ThreadID) (name : RunnerName)
              (engaged : Standalone.engaged (s.resume t (.lifecycle runner [.initializeEnvironment s.manager.next])
                { s.manager with processes, next := s.manager.next + 1 }) other name) :
              s.engaged other name ∨ other = t ∧ name = runner := by
            obtain ⟨todo, found, engaged⟩ := engaged
            rw [lookup_resume] at found
            split at found
            · next equal =>
                cases found
                exact .inr ⟨equal, rfl⟩
            · exact .inl ⟨todo, found, engaged⟩
          have named (other : ThreadID) (name : RunnerName) (address : Nat)
              (names : Standalone.names (s.resume t (.lifecycle runner [.initializeEnvironment s.manager.next])
                { s.manager with processes, next := s.manager.next + 1 }) other name address) :
              s.names other name address ∨ other = t ∧ name = runner := by
            obtain ⟨todo, found, named⟩ := names
            rw [lookup_resume] at found
            split at found
            · next equal =>
                cases found
                exact .inr ⟨equal, rfl⟩
            · exact .inl ⟨todo, found, named⟩
          by_cases asked : only runner
          · apply sole.begins (t := t) (rested runner rfl asked) rfl
            · intro other name mine
              exact (begun other name mine.2).imp_left fun before => ⟨mine.1, before⟩
            · exact named
            · rintro other address ⟨todo, found, later, member, names⟩
              exact Nat.ne_of_gt ((custody.kept other runner todo found).dated later member address names)
          · apply sole.moves
            · intro other name mine
              rcases begun other name mine.2 with before | ⟨_, rfl⟩
              · exact ⟨mine.1, before⟩
              · exact absurd mine.1 asked
            · intro other name address names
              refine (named other name address names).imp_right ?_
              rintro ⟨rfl, rfl⟩ another mine
              exact absurd mine.1 asked
            · intro other name mine
              refine .same (Finmap.lookup_insert_of_ne _ ?_)
              rintro rfl
              exact asked mine.1
      | stop fresh stopped =>
          refine sole.steady (fun name => Processes.keeps_stop stopped) (lookup_resume_stop ?_)
          intro name todo found
          cases fresh.symm.trans found
      | perform found performed => exact sole.performs custody found performed
      | @advance t answer runner phase next manager found advanced =>
          refine sole.steady (fun name => .same ?_) (lookup_resume_stop ?_)
          · change manager.processes.lookup name = _
            rw [(advance_frame advanced).1]
          · intro name todo lifecycle
            cases found.symm.trans lifecycle
      | exit alive => exact sole.steady (fun name => .refl _ name) fun _ _ _ => Iff.rfl
  | lockOthers outcome activeRunners =>
      cases taken
      exact sole.steady (swept outcome .online .paused .stop activeRunners rfl) fun _ _ _ => Iff.rfl
  | unlockOthers outcome =>
      cases taken
      exact sole.steady (swept outcome .paused .online .cont ∅ rfl) fun _ _ _ => Iff.rfl
  | markBusy runner =>
      cases taken
      exact sole.steady (fun name => Processes.keeps_markBusy runner) fun _ _ _ => Iff.rfl
  | markIdle runner =>
      cases taken
      refine sole.steady (fun name => Processes.keeps_markIdle runner ?_) fun _ _ _ => Iff.rfl
      split <;> rfl

/-- The thread that owns a live listener is engaged for its runner. -/
theorem Custody.engaged {s : Standalone} (custody : Custody s) {pid : Pid} {group : ProcessGroup}
    (known : s.manager.groups.lookup pid = some group) (live : group.live = true) :
    ∃ t todo, s.threads.lookup t = some (.lifecycle group.runner todo) ∧ pid ∈ owners todo := by
  have alive : s.manager.live pid = true := by
    unfold StandaloneManager.live
    rw [known]
    exact live
  obtain ⟨t, runner, todo, found, member⟩ := custody.alive pid alive
  obtain ⟨kept, looked, _, same⟩ := (custody.kept t runner todo found).unreaped pid member
  cases known.symm.trans looked
  exact ⟨t, todo, same ▸ found, member⟩

/-- Two live listeners of one runner are the same process. -/
theorem Sole.listener {s : Standalone} (custody : Custody s) (sole : s.Sole only) {pid other : Pid}
    {group another : ProcessGroup} (one : s.manager.groups.lookup pid = some group)
    (two : s.manager.groups.lookup other = some another) (live : group.live = true) (alive : another.live = true)
    (asked : only group.runner) (same : group.runner = another.runner) : pid = other := by
  obtain ⟨t, todo, found, member⟩ := custody.engaged one live
  obtain ⟨u, others, here, owns⟩ := custody.engaged two alive
  rw [← same] at here
  have equal := sole.single t u group.runner ⟨asked, todo, found, engaged_of_owner member⟩
    ⟨asked, others, here, engaged_of_owner owns⟩
  subst equal
  cases found.symm.trans here
  exact (custody.kept t _ todo found).straight.owner member owns

end Standalone

end RunnersMux

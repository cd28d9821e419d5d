import RunnersMux.Standalone.Holding

/-! Whose listener a live process is, in every run.

Nothing is asked of the run here: a live listener is owned by the thread that
forked it, and by no other, however many starts overlap. What overlapping
starts break is that a runner has one such thread. It does as long as no
`Start` is accepted for a runner that is up, which is `Sole`.
-/

set_option autoImplicit false

namespace RunnersMux

open Foundations

namespace Section

/-- The entry of the `Start` that a section works for. -/
def entry : Section → Option Nat
  | .initializeEnvironment entry | .store entry | .fail entry _ => some entry
  | .spawn (.launch entry) | .record (.launch entry) _ | .abort (.launch entry) _ => some entry
  | _ => none

/-- A transition with which a lifecycle ends. -/
def drops : Section → Bool
  | .transition goal => goal.down
  | _ => false

/-- The listener that a section waits for. -/
def reaps : Section → Option Pid
  | .abort _ pid | .serve pid _ => some pid
  | _ => none

end Section

/-- A lifecycle that needs its runner up. -/
def Engaged (todo : List Section) : Prop := ∃ later ∈ todo, later.working = true ∨ later.drops = true

theorem engaged_of_owner {todo : List Section} {pid : Pid} (member : pid ∈ owners todo) : Engaged todo := by
  obtain ⟨later, mine, works⟩ := Standalone.ongoing_of_owner member
  exact ⟨later, mine, .inl works⟩

/-- A section that owns a listener works, and is not passed over. -/
theorem Section.owned_works {head : Section} {pid : Pid} (owns : pid ∈ head.owned) :
    head.working = true ∧ head.passing = false := by
  cases head <;> first | exact ⟨rfl, rfl⟩ | cases owns

/-- A lifecycle owns one listener at most. -/
theorem Straight.owner {todo : List Section} (straight : Straight todo) {pid other : Pid}
    (one : pid ∈ owners todo) (two : other ∈ owners todo) : pid = other := by
  induction todo with
  | nil => cases one
  | cons head rest ih =>
      have alone (own later : Pid) (mine : own ∈ head.owned) (after : later ∈ owners rest) : False :=
        straight.ended (Section.owned_works mine).2 (Standalone.ongoing_of_owner after)
      rw [owners_cons, List.mem_append, Option.mem_toList] at one two
      rcases one with here | later <;> rcases two with also | after
      · exact Option.mem_unique here also
      · exact (alone pid other here after).elim
      · exact (alone other pid also later).elim
      · exact ih (List.pairwise_cons.mp straight).2 later after

section
variable {m after : StandaloneManager} {runner : RunnerName} {answer : Answer} {head : Section} {todo : List Section}

/-- A process that is not waited for keeps its number and its runner. -/
theorem perform_unreaped (performed : m.perform runner answer head = some (after, todo)) {pid : Pid}
    {group : ProcessGroup} (spared : pid ∉ head.reaps) (known : m.groups.lookup pid = some group)
    (unreaped : group.reaped = false) :
    ∃ kept, after.groups.lookup pid = some kept ∧ kept.reaped = false ∧ kept.runner = group.runner := by
  have modified {own : Pid} {change : ProcessGroup → ProcessGroup} (different : pid ≠ own) :
      ∃ kept, (m.groups.modify own change).lookup pid = some kept ∧ kept.reaped = false ∧
        kept.runner = group.runner := by
    refine ⟨group, ?_, unreaped, rfl⟩
    rw [Map.lookup_modify, if_neg different, known]
  cases perform_performs performed with
  | spawn clean nonzero free =>
      refine ⟨group, ?_, unreaped, rfl⟩
      dsimp only
      rw [Map.lookup_insert_if, if_neg, known]
      rintro rfl
      rw [known] at free
      cases unreaped.symm.trans free
  | record records =>
      cases records with
      | cancelled | free => exact ⟨group, known, unreaped, rfl⟩
      | frozen | missed =>
          refine ⟨_, (StandaloneManager.lookup_signal _ _ _ _).trans (congrArg _ known), ?_, ?_⟩
          · dsimp only
            split
            · exact (ProcessGroup.deliver_reaped _ _).trans unreaped
            · exact unreaped
          · dsimp only
            split
            · exact ProcessGroup.deliver_runner _ _
            · rfl
  | abort | serve => exact modified fun same => spared (congrArg some same.symm)
  | _ => exact ⟨group, known, unreaped, rfl⟩

/-- A fork takes a number that is free, for a process that the section then owns. -/
theorem perform_forked (performed : m.perform runner answer head = some (after, todo)) {pid : Pid}
    (forked : pid ∈ head.forks answer) :
    (∀ group, m.groups.lookup pid = some group → group.reaped = true) ∧
      after.groups.lookup pid = some (.launched runner) ∧ pid ∈ owners todo := by
  cases perform_performs performed with
  | spawn clean nonzero free =>
      rw [Section.forks, if_pos clean] at forked
      cases forked
      refine ⟨?_, Finmap.lookup_insert _, List.mem_cons_self⟩
      intro group known
      rw [known] at free
      exact free
  | spawnFail failed =>
      rw [Section.forks, if_neg (by simp [failed])] at forked
      cases forked
  | _ => cases forked

/-- What a section owns it has forked, or had before and has not waited for. -/
theorem perform_owners (performed : m.perform runner answer head = some (after, todo)) {pid : Pid}
    (owns : pid ∈ owners todo) : pid ∈ head.forks answer ∨ pid ∈ head.owned ∧ pid ∉ head.reaps := by
  cases perform_performs performed with
  | spawnFail | abort =>
      rw [Standalone.owners_failure] at owns
      cases owns
  | spawn clean nonzero free =>
      left
      rw [List.mem_singleton.mp owns, Section.forks, if_pos clean]
      rfl
  | record records =>
      right
      cases records <;> exact ⟨congrArg some (List.mem_singleton.mp owns).symm, by simp [Section.reaps]⟩
  | _ => cases owns

/-- A live listener of the section that has run is still owned by it. -/
theorem perform_live (performed : m.perform runner answer head = some (after, todo)) {pid : Pid}
    (live : after.live pid = true) :
    pid ∈ head.forks answer ∧ pid ∈ owners todo ∨ m.live pid = true ∧ (pid ∈ head.owned → pid ∈ owners todo) := by
  by_cases forked : pid ∈ head.forks answer
  · exact .inl ⟨forked, (perform_forked performed forked).2.2⟩
  · refine .inr ⟨(perform_groups performed live forked).1, fun mine => ?_⟩
    cases perform_performs performed with
    | record records =>
        cases mine
        cases records <;> exact List.mem_cons_self
    | abort =>
        cases mine
        unfold StandaloneManager.live at live
        rw [Map.lookup_modify, if_pos rfl, Option.any_map] at live
        obtain ⟨group, _, alive⟩ := (Option.any_eq_true _ _).mp live
        have ended := ProcessGroup.deliver_live .kill group
        rw [show (group.deliver .kill).live = true from alive] at ended
        simp at ended
    | serve ended =>
        cases mine
        unfold StandaloneManager.live at live
        rw [Map.lookup_modify, if_pos rfl, Option.any_map] at live
        obtain ⟨group, known, alive⟩ := (Option.any_eq_true _ _).mp live
        rw [known] at ended
        change group.exit.isNone = true at alive
        rw [show group.exit = _ from ended] at alive
        cases alive
    | _ => cases mine

/-- The entries that a section names are its own, and it names none without work to do. -/
theorem perform_entries (performed : m.perform runner answer head = some (after, todo)) {later : Section}
    (member : later ∈ todo) {entry : Nat} (names : entry ∈ later.entry) : entry ∈ head.entry := by
  cases perform_performs performed with
  | @spawnFail caller text failed =>
      cases caller <;> simp [Caller.failure] at member
      · rcases member with rfl | rfl | rfl
        · cases names
        · cases names
        · exact names
      · rcases member with rfl | rfl | rfl <;> cases names
  | @abort caller pid =>
      cases caller <;> simp [Caller.failure] at member
      · rcases member with rfl | rfl | rfl
        · cases names
        · cases names
        · exact names
      · rcases member with rfl | rfl | rfl <;> cases names
  | @spawn caller clean nonzero free =>
      cases List.mem_singleton.mp member
      cases caller <;> exact names
  | @record caller pid _ _ records =>
      cases records with
      | cancelled =>
          cases List.mem_singleton.mp member
          cases caller <;> exact names
      | _ =>
          simp [launched] at member
          rcases member with rfl | rfl | rfl <;> cases names
  | prepareFail | prepare | store =>
      cases List.mem_singleton.mp member
      exact names
  | fire | exited | serve =>
      cases List.mem_singleton.mp member
      cases names
  | finish | retry | giveUp | cancel =>
      simp at member
      rcases member with rfl | rfl | rfl | rfl <;> cases names
  | _ => cases member

theorem perform_next (performed : m.perform runner answer head = some (after, todo)) : m.next ≤ after.next := by
  cases perform_performs performed with
  | store | retry => exact Nat.le_succ _
  | record records => cases records <;> exact Nat.le_refl _
  | _ => exact Nat.le_refl _

/-- A lifecycle ends with the first of the sections that it is left with. -/
theorem perform_first (performed : m.perform runner answer head = some (after, todo)) :
    ∀ later ∈ todo.tail, later.drops = false := by
  cases perform_performs performed with
  | @spawnFail caller text failed => cases caller <;> simp [Caller.failure, Section.drops]
  | @abort caller pid => cases caller <;> simp [Caller.failure, Section.drops]
  | record records => cases records <;> simp [launched, Section.drops]
  | _ => simp [Section.drops]

end

/-- What holds of one lifecycle thread, whoever else has been started. -/
structure Kept (m : StandaloneManager) (runner : RunnerName) (todo : List Section) : Prop where
  straight : Straight todo
  first : ∀ later ∈ todo.tail, later.drops = false
  unreaped : ∀ pid ∈ owners todo, ∃ group, m.groups.lookup pid = some group ∧ group.reaped = false ∧
    group.runner = runner
  dated : ∀ later ∈ todo, ∀ entry ∈ later.entry, entry < m.next

namespace Kept

variable {m after : StandaloneManager} {runner : RunnerName} {todo rest : List Section} {head : Section}
  {answer : Answer}

/-- A change that reaps nothing of the thread's own. -/
theorem carried (kept : Kept m runner todo)
    (groups : ∀ pid ∈ owners todo, ∀ group, m.groups.lookup pid = some group → group.reaped = false →
      ∃ now, after.groups.lookup pid = some now ∧ now.reaped = false ∧ now.runner = group.runner)
    (next : m.next ≤ after.next) : Kept after runner todo := by
  refine ⟨kept.straight, kept.first, ?_, ?_⟩
  · intro pid member
    obtain ⟨group, known, unreaped, mine⟩ := kept.unreaped pid member
    obtain ⟨now, looked, still, same⟩ := groups pid member group known unreaped
    exact ⟨now, looked, still, same.trans mine⟩
  · intro later member entry names
    exact Nat.lt_of_lt_of_le (kept.dated later member entry names) next

theorem steady (kept : Kept m runner todo) (steady : Steady m after) (next : m.next ≤ after.next) :
    Kept after runner todo := by
  apply kept.carried _ next
  intro pid _ group known unreaped
  obtain ⟨now, looked, still, same⟩ := steady.group pid group known
  exact ⟨now, looked, still.trans unreaped, same⟩

/-- A section that owns a listener is followed by none that does. -/
theorem alone (kept : Kept m runner (head :: rest)) {pid other : Pid} (owns : pid ∈ head.owned) :
    other ∉ owners rest := by
  intro later
  exact kept.straight.ended (Section.owned_works owns).2 (Standalone.ongoing_of_owner later)

/-- The thread that takes a step. -/
theorem performs (kept : Kept m runner (head :: rest))
    (performed : m.perform runner answer head = some (after, todo)) : Kept after runner (todo ++ rest) := by
  have ⟨shape, nothing⟩ := perform_todo performed
  constructor
  · cases slow : head.passing with
    | true =>
        rw [nothing (.inl slow)]
        exact (List.pairwise_cons.mp kept.straight).2
    | false => exact shape.append (List.pairwise_cons.mp kept.straight).2 (kept.straight.ended slow)
  · intro later member
    cases todo with
    | nil => exact kept.first later (List.mem_of_mem_tail member)
    | cons next others =>
        rcases List.mem_append.mp member with new | old
        · exact perform_first performed later new
        · exact kept.first later old
  · intro pid member
    have carry (mine : pid ∈ owners (head :: rest)) (spared : pid ∉ head.reaps) :
        ∃ group, after.groups.lookup pid = some group ∧ group.reaped = false ∧ group.runner = runner := by
      obtain ⟨group, known, unreaped, same⟩ := kept.unreaped pid mine
      obtain ⟨now, looked, still, also⟩ := perform_unreaped performed spared known unreaped
      exact ⟨now, looked, still, also.trans same⟩
    rw [owners_append] at member
    rcases List.mem_append.mp member with new | old
    · rcases perform_owners performed new with forked | ⟨owned, spared⟩
      · exact ⟨.launched runner, (perform_forked performed forked).2.1, rfl, rfl⟩
      · exact carry (Standalone.mem_owners_head owned) spared
    · apply carry
      · rw [owners_cons]
        exact List.mem_append_right _ old
      · intro reaped
        have owned : pid ∈ head.owned := by
          cases head <;> first | exact reaped | cases reaped
        exact kept.alone owned old
  · intro later member entry names
    refine Nat.lt_of_lt_of_le ?_ (perform_next performed)
    rcases List.mem_append.mp member with new | old
    · exact kept.dated head List.mem_cons_self entry (perform_entries performed new names)
    · exact kept.dated later (List.mem_cons_of_mem _ old) entry names

end Kept

namespace Standalone

/-- Every live listener is owned by one lifecycle thread of its runner. -/
structure Custody (s : Standalone) : Prop where
  kept : ∀ t runner todo, s.threads.lookup t = some (.lifecycle runner todo) → Kept s.manager runner todo
  apart : ∀ t other runner name todo others pid, s.threads.lookup t = some (.lifecycle runner todo) →
    s.threads.lookup other = some (.lifecycle name others) → pid ∈ owners todo → pid ∈ owners others → t = other
  alive : ∀ pid, s.manager.live pid = true → ∃ t runner todo,
    s.threads.lookup t = some (.lifecycle runner todo) ∧ pid ∈ owners todo

/-- A thread that moves within one lifecycle keeps the lifecycles of all other runners. -/
theorem lookup_resume_other {s : Standalone} {t : ThreadID} {runner name : RunnerName} {old todo others : List Section}
    {manager : StandaloneManager} {other : ThreadID} (found : s.threads.lookup t = some (.lifecycle name old))
    (different : name ≠ runner) :
    (s.resume t (.lifecycle name todo) manager).threads.lookup other = some (.lifecycle runner others) ↔
      s.threads.lookup other = some (.lifecycle runner others) := by
  rw [lookup_resume]
  split
  · next same =>
      subst same
      rw [found]
      simp [different]
  · exact Iff.rfl

/-- A step that leaves the lifecycle threads where they are. -/
theorem Custody.steady {s after : Standalone} (custody : Custody s) (steady : Steady s.manager after.manager)
    (next : s.manager.next ≤ after.manager.next)
    (threads : ∀ t runner todo, after.threads.lookup t = some (.lifecycle runner todo) ↔
      s.threads.lookup t = some (.lifecycle runner todo)) : Custody after := by
  constructor
  · intro t runner todo found
    exact (custody.kept t runner todo ((threads _ _ _).mp found)).steady steady next
  · exact OwnersApart.steady custody.apart threads
  · exact LiveOwned.steady custody.alive steady threads

theorem Custody.begins {s : Standalone} {t : ThreadID} {runner : RunnerName} {manager : StandaloneManager}
    (custody : Custody s) (fresh : s.threads.lookup t = none) (steady : Steady s.manager manager)
    (next : manager.next = s.manager.next + 1) :
    Custody (s.resume t (.lifecycle runner [.initializeEnvironment s.manager.next]) manager) := by
  constructor
  · intro other name todo found
    rw [lookup_resume] at found
    split at found
    · cases found
      refine ⟨List.pairwise_singleton _ _, by simp, by simp [owners, Section.owned], ?_⟩
      intro later member entry names
      cases List.mem_singleton.mp member
      cases names
      change s.manager.next < manager.next
      omega
    · refine (custody.kept other name todo found).steady steady ?_
      change s.manager.next ≤ manager.next
      omega
  · exact OwnersApart.begins custody.apart
  · exact LiveOwned.begins custody.alive fresh steady

theorem Custody.performs {s : Standalone} {t : ThreadID} {runner : RunnerName} {head : Section}
    {rest todo : List Section} {answer : Answer} {manager : StandaloneManager} (custody : Custody s)
    (found : s.threads.lookup t = some (.lifecycle runner (head :: rest)))
    (performed : s.manager.perform runner answer head = some (manager, todo)) :
    Custody (s.resume t (.lifecycle runner (todo ++ rest)) manager) := by
  have reaped (pid : Pid) (member : pid ∈ head.reaps) : pid ∈ head.owned := by
    cases head <;> first | exact member | cases member
  constructor
  · intro other name others here
    rw [lookup_resume] at here
    split at here
    · cases here
      exact (custody.kept t runner _ found).performs performed
    · next different =>
        apply (custody.kept other name others here).carried _ (perform_next performed)
        intro pid member group known unreaped
        refine perform_unreaped performed (fun waited => different ?_) known unreaped
        exact (custody.apart t other runner name _ others pid found here (mem_owners_head (reaped pid waited)) member).symm
  · refine OwnersApart.performs custody.apart found fun pid new => ?_
    refine (perform_owners performed new).symm.imp (·.1) ?_
    intro forked other name others here also
    obtain ⟨group, known, unreaped, _⟩ := (custody.kept other name others here).unreaped pid also
    cases unreaped.symm.trans ((perform_forked performed forked).1 group known)
  · exact LiveOwned.performs custody.alive found fun pid live => (perform_live performed live).imp_left (·.2)

theorem advance_next {m after : StandaloneManager} {runner : RunnerName} {answer : Answer} {phase next : StopPhase}
    (advanced : m.advance runner answer phase = some (after, next)) : after.next = m.next := by
  cases advance_advances advanced <;> rfl

theorem Custody.step {s after : Standalone} {call : Call} (custody : Custody s) (taken : s.step call = some after) :
    Custody after := by
  cases call with
  | own event =>
      cases act_moves taken with
      | start fresh started => exact custody.begins fresh (.of_groups rfl fun _ => rfl) rfl
      | stop fresh stopped =>
          refine custody.steady (.of_groups rfl fun _ => rfl) (Nat.le_refl _) (lookup_resume_stop ?_)
          intro name todo found
          cases fresh.symm.trans found
      | perform found performed => exact custody.performs found performed
      | advance found advanced =>
          apply custody.steady (StandaloneManager.advance_steady advanced) (Nat.le_of_eq (advance_next advanced).symm)
          apply lookup_resume_stop
          intro name todo lifecycle
          cases found.symm.trans lifecycle
      | exit alive => exact custody.steady (StandaloneManager.exit_steady _ _) (Nat.le_refl _) fun _ _ _ => Iff.rfl
  | lockOthers outcome activeRunners | unlockOthers outcome =>
      cases taken
      exact custody.steady (.of_signal rfl rfl) (Nat.le_refl _) fun _ _ _ => Iff.rfl
  | markBusy runner | markIdle runner =>
      cases taken
      exact custody.steady (.of_groups rfl fun _ => rfl) (Nat.le_refl _) fun _ _ _ => Iff.rfl

theorem new_custody : Custody .new := by
  constructor
  · intro t runner todo found
    cases found
  · intro t other runner name todo others pid found
    cases found
  · intro pid alive
    cases alive

end Standalone

end RunnersMux

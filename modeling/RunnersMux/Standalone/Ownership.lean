import RunnersMux.Standalone.Effects

/-! Which thread owns which listener.

As long as a runner is started only after its last lifecycle has ended, and no
process ID is handed out that `listenerData` still records, every live listener
belongs to one thread, and what is recorded of it is its own.
-/

set_option autoImplicit false

namespace RunnersMux

open Foundations

namespace Section

/-- The listener that a section has launched, runs or is about to reap. -/
def owned : Section → Option Pid
  | .record _ pid | .abort _ pid | .serve pid _ => some pid
  | _ => none

/-- A section that a launch runs between its record and `Wait`. -/
def quick : Section → Bool
  | .transition .online | .transition .paused | .setError _ => true
  | _ => false

theorem quick_cases {head : Section} (brief : head.quick = true) :
    (∃ goal, head = .transition goal ∧ (goal = .online ∨ goal = .paused)) ∨ ∃ text, head = .setError text := by
  unfold quick at brief
  split at brief
  · exact .inl ⟨_, rfl, .inl rfl⟩
  · exact .inl ⟨_, rfl, .inr rfl⟩
  · exact .inr ⟨_, rfl⟩
  · cases brief

/-- A section that comes after `Launch` has stored the `ListenerData`. -/
def late : Section → Bool
  | .initializeEnvironment _ | .store _ | .fail _ _ => false
  | _ => true

end Section

/-- The listener that a section forks. -/
def Section.forks (answer : Answer) : Section → Option Pid
  | .spawn _ => if answer.error = none then some answer.pid else none
  | _ => none

def owners (todo : List Section) : List Pid := todo.filterMap Section.owned

/-- Only quick sections stand before the one that owns a listener. -/
def Tidy : List Section → Prop
  | [] => True
  | head :: rest => (head.quick = false → owners rest = []) ∧ Tidy rest

theorem owners_cons (head : Section) (rest : List Section) :
    owners (head :: rest) = head.owned.toList ++ owners rest := by
  unfold owners
  cases found : head.owned <;> simp [found]

theorem owners_append (todo rest : List Section) : owners (todo ++ rest) = owners todo ++ owners rest :=
  List.filterMap_append ..

theorem serve_mem_owners {todo : List Section} {pid : Pid} {attempt : Nat}
    (member : Section.serve pid attempt ∈ todo) : pid ∈ owners todo :=
  List.mem_filterMap.mpr ⟨_, member, rfl⟩

theorem Tidy.append {todo rest : List Section} (first : Tidy todo) (second : Tidy rest)
    (ownerless : owners rest = []) : Tidy (todo ++ rest) := by
  induction todo with
  | nil => exact second
  | cons head others ih =>
      refine ⟨?_, ih first.2⟩
      intro slow
      change owners (others ++ rest) = []
      rw [owners_append, first.1 slow, ownerless]
      rfl

/-- A runner's lifecycle that still has sections to run. -/
def Thread.runs (runner : RunnerName) : Thread → Bool
  | .lifecycle name todo => decide (name = runner) && !todo.isEmpty
  | .stop _ _ => false

/-- What holds of one lifecycle thread. -/
structure Sane (m : StandaloneManager) (runner : RunnerName) (todo : List Section) : Prop where
  tidy : Tidy todo
  unreaped : ∀ pid ∈ owners todo, pid ≠ 0 ∧ ∃ group, m.groups.lookup pid = some group ∧
    group.reaped = false ∧ group.runner = runner
  stored : (∃ later ∈ todo, later.late = true) → ∃ data, m.listenerData.lookup runner = some data
  recorded : ∀ pid attempt, .serve pid attempt ∈ todo → ∃ data, m.listenerData.lookup runner = some data ∧
    data.cmd = some pid ∧ data.pgid = pid

theorem Sane.nil (m : StandaloneManager) (runner : RunnerName) : Sane m runner [] :=
  ⟨trivial, nofun, nofun, nofun⟩

theorem Tidy.of_ownerless {todo : List Section} (ownerless : owners todo = []) : Tidy todo := by
  induction todo with
  | nil => trivial
  | cons head rest ih =>
      rw [owners_cons, List.append_eq_nil_iff] at ownerless
      exact ⟨fun _ => ownerless.2, ih ownerless.2⟩

theorem Sane.of_ownerless {m : StandaloneManager} {runner : RunnerName} {todo : List Section}
    (ownerless : owners todo = [])
    (stored : (∃ later ∈ todo, later.late = true) → ∃ data, m.listenerData.lookup runner = some data) :
    Sane m runner todo := by
  refine ⟨.of_ownerless ownerless, ?_, stored, ?_⟩
  · intro pid member
    rw [ownerless] at member
    cases member
  · intro pid attempt member
    have owns := serve_mem_owners member
    rw [ownerless] at owns
    cases owns

namespace Standalone

/-- Threads, listeners and records agree. -/
structure Owned (s : Standalone) : Prop where
  single : ∀ t other runner head next rest others,
    s.threads.lookup t = some (.lifecycle runner (head :: rest)) →
    s.threads.lookup other = some (.lifecycle runner (next :: others)) → t = other
  apart : ∀ t other runner name todo others pid, s.threads.lookup t = some (.lifecycle runner todo) →
    s.threads.lookup other = some (.lifecycle name others) → pid ∈ owners todo → pid ∈ owners others → t = other
  sane : ∀ t runner todo, s.threads.lookup t = some (.lifecycle runner todo) → Sane s.manager runner todo
  owner : ∀ runner data, s.manager.listenerData.lookup runner = some data →
    s.manager.live data.pgid = true → data.cmd = some data.pgid ∧ ∃ t todo attempt,
      s.threads.lookup t = some (.lifecycle runner todo) ∧ .serve data.pgid attempt ∈ todo
  alive : ∀ pid, s.manager.live pid = true → ∃ t runner todo,
    s.threads.lookup t = some (.lifecycle runner todo) ∧ pid ∈ owners todo

section
variable {s : Standalone} {t : ThreadID} {runner : RunnerName} {head : Section} {rest todo : List Section}
  {thread : Thread} {manager : StandaloneManager}

theorem lookup_resume (other : ThreadID) : (s.resume t thread manager).threads.lookup other =
    if other = t then some thread else s.threads.lookup other :=
  Map.lookup_insert_if _ _ _ _

/-- No process has two owners. -/
def OwnersApart (s : Standalone) : Prop :=
  ∀ t other runner name todo others pid, s.threads.lookup t = some (.lifecycle runner todo) →
    s.threads.lookup other = some (.lifecycle name others) → pid ∈ owners todo → pid ∈ owners others → t = other

/-- Every live process has one. -/
def LiveOwned (s : Standalone) : Prop :=
  ∀ pid, s.manager.live pid = true → ∃ t runner todo, s.threads.lookup t = some (.lifecycle runner todo) ∧
    pid ∈ owners todo

theorem mem_owners_head {pid : Pid} (member : pid ∈ head.owned) : pid ∈ owners (head :: rest) := by
  rw [owners_cons]
  exact List.mem_append_left _ (Option.mem_toList.mpr member)

/-- A section hands on what its thread has owned, or a process that had no owner. -/
theorem OwnersApart.performs (apart : OwnersApart s) (found : s.threads.lookup t = some (.lifecycle runner (head :: rest)))
    (fewer : ∀ pid ∈ owners todo, pid ∈ head.owned ∨ ∀ other name others,
      s.threads.lookup other = some (.lifecycle name others) → pid ∉ owners others) :
    OwnersApart (s.resume t (.lifecycle runner (todo ++ rest)) manager) := by
  have mine (other : ThreadID) (name : RunnerName) (others : List Section) (pid : Pid)
      (here : s.threads.lookup other = some (.lifecycle name others)) (member : pid ∈ owners (todo ++ rest))
      (also : pid ∈ owners others) : other = t := by
    rw [owners_append] at member
    rcases List.mem_append.mp member with new | old
    · rcases fewer pid new with kept | unowned
      · exact (apart t other runner name _ others pid found here (mem_owners_head kept) also).symm
      · exact absurd also (unowned other name others here)
    · refine (apart t other runner name _ others pid found here ?_ also).symm
      rw [owners_cons]
      exact List.mem_append_right _ old
  intro first second name name' todo' others' pid one two member also
  rw [lookup_resume] at one two
  split at one <;> split at two
  · next same both => exact same.trans both.symm
  · next same other =>
      cases one
      exact same.trans (mine second name' others' pid two member also).symm
  · next other same =>
      cases two
      exact (mine first name todo' pid one also member).trans same.symm
  · exact apart first second name name' todo' others' pid one two member also

/-- What is alive afterwards has been handed on, or forked by the section. -/
theorem LiveOwned.performs (alive : LiveOwned s) (found : s.threads.lookup t = some (.lifecycle runner (head :: rest)))
    (dies : ∀ pid, manager.live pid = true → pid ∈ owners todo ∨
      s.manager.live pid = true ∧ (pid ∈ head.owned → pid ∈ owners todo)) :
    LiveOwned (s.resume t (.lifecycle runner (todo ++ rest)) manager) := by
  intro pid live
  have moved : (s.resume t (.lifecycle runner (todo ++ rest)) manager).threads.lookup t =
      some (.lifecycle runner (todo ++ rest)) := (lookup_resume t).trans (if_pos rfl)
  rcases dies pid live with member | ⟨before, keeps⟩
  · refine ⟨t, runner, todo ++ rest, moved, ?_⟩
    rw [owners_append]
    exact List.mem_append_left _ member
  · obtain ⟨other, name, others, here, member⟩ := alive pid before
    by_cases same : other = t
    · subst same
      cases found.symm.trans here
      refine ⟨other, runner, todo ++ rest, moved, ?_⟩
      rw [owners_append]
      rw [owners_cons] at member
      rcases List.mem_append.mp member with own | old
      · exact List.mem_append_left _ (keeps (Option.mem_toList.mp own))
      · exact List.mem_append_right _ old
    · exact ⟨other, name, others, (lookup_resume other).trans ((if_neg same).trans here), member⟩

end

/-- What the other threads need of a change: their records stay, and so do the
listeners that the moving thread does not own. -/
structure Spares (m after : StandaloneManager) (runner : RunnerName) (own : List Pid) : Prop where
  data : ∀ name, name ≠ runner → after.listenerData.lookup name = m.listenerData.lookup name
  group : ∀ pid group, pid ∉ own → m.groups.lookup pid = some group → group.reaped = false →
    ∃ kept, after.groups.lookup pid = some kept ∧ kept.reaped = false ∧ kept.runner = group.runner

/-- A thread of another runner stays sane. -/
theorem Spares.sane {m after : StandaloneManager} {runner name : RunnerName} {own : List Pid}
    {todo : List Section} (spares : Spares m after runner own) (other : name ≠ runner)
    (disjoint : ∀ pid ∈ owners todo, pid ∉ own) (sane : Sane m name todo) : Sane after name todo := by
  refine ⟨sane.tidy, ?_, ?_, ?_⟩
  · intro pid member
    obtain ⟨nonzero, group, found, unreaped, mine⟩ := sane.unreaped pid member
    obtain ⟨kept, looked, still, same⟩ := spares.group pid group (disjoint pid member) found unreaped
    exact ⟨nonzero, kept, looked, still, same.trans mine⟩
  · intro later
    rw [spares.data name other]
    exact sane.stored later
  · intro pid attempt member
    rw [spares.data name other]
    exact sane.recorded pid attempt member

/-- One section of one lifecycle thread, in terms of what the thread owns before
and after it. `fresh` is the process that a launch has just forked. -/
theorem Owned.perform {s : Standalone} {t : ThreadID} {runner : RunnerName} {head : Section}
    {rest todo : List Section} {manager : StandaloneManager} (owned : Owned s) (fresh : Option Pid)
    (found : s.threads.lookup t = some (.lifecycle runner (head :: rest)))
    (sane : Sane manager runner (todo ++ rest))
    (fewer : ∀ pid ∈ owners todo, pid ∈ fresh ∨ pid ∈ head.owned)
    (unowned : ∀ pid ∈ fresh, ∀ group, s.manager.groups.lookup pid = some group → group.reaped = true)
    (spares : Spares s.manager manager runner head.owned.toList)
    (dies : ∀ pid, manager.live pid = true → (s.manager.live pid = true ∧
      (pid ∈ head.owned → pid ∈ owners todo)) ∨ pid ∈ fresh ∧ pid ∈ owners todo)
    (unrecorded : ∀ pid ∈ fresh, ∀ name data, manager.listenerData.lookup name = some data → data.pgid ≠ pid)
    (owner : ∀ data, manager.listenerData.lookup runner = some data → manager.live data.pgid = true →
      data.cmd = some data.pgid ∧ ∃ attempt, .serve data.pgid attempt ∈ todo ++ rest) :
    Owned (s.resume t (.lifecycle runner (todo ++ rest)) manager) := by
  constructor
  · intro first second name head' next' rest' others' one two
    rw [lookup_resume] at one two
    split at one <;> split at two
    · next same also => exact same.trans also.symm
    · next same other =>
        have equal := (Thread.lifecycle.inj (Option.some.inj one)).1
        subst equal
        exact same.trans (owned.single t second runner head next' rest others' found two)
    · next other same =>
        have equal := (Thread.lifecycle.inj (Option.some.inj two)).1
        subst equal
        exact (owned.single first t runner head' head rest' rest one found).trans same.symm
    · exact owned.single first second name head' next' rest' others' one two
  · refine OwnersApart.performs owned.apart found fun pid new => (fewer pid new).symm.imp_right ?_
    intro forked other name others here also
    obtain ⟨_, group, known, unreaped, _⟩ := (owned.sane other name others here).unreaped pid also
    cases (unowned pid forked group known).symm.trans unreaped
  · intro other name others here
    rw [lookup_resume] at here
    split at here
    · cases here
      exact sane
    · next different =>
        by_cases same : name = runner
        · subst same
          cases others with
          | nil => exact Sane.nil manager name
          | cons next others =>
              exact absurd (owned.single other t name next head others rest here found) different
        · apply spares.sane same _ (owned.sane other name others here)
          intro pid member own
          exact different (owned.apart t other runner name _ others pid found here
            (mem_owners_head (Option.mem_toList.mp own)) member).symm
  · intro name data recorded live
    by_cases same : name = runner
    · subst same
      obtain ⟨cmd, attempt, member⟩ := owner data recorded live
      exact ⟨cmd, t, todo ++ rest, attempt, (lookup_resume t).trans (if_pos rfl), member⟩
    · rcases dies data.pgid live with ⟨before, _⟩ | ⟨forked, _⟩
      · obtain ⟨cmd, other, others, attempt, here, member⟩ :=
          owned.owner name data ((spares.data name same) ▸ recorded) before
        have different : other ≠ t := by
          intro equal
          subst equal
          cases found.symm.trans here
          exact same rfl
        exact ⟨cmd, other, others, attempt, (lookup_resume other).trans ((if_neg different).trans here), member⟩
      · exact absurd rfl (unrecorded data.pgid forked name data recorded)
  · exact LiveOwned.performs owned.alive found fun pid live => (dies pid live).symm.imp_left (·.2)

/-- A live listener that is recorded for the runner of a running thread is one
that this thread serves. -/
theorem Owned.mine {s : Standalone} {t : ThreadID} {runner : RunnerName} {head : Section} {rest : List Section}
    {data : ListenerData} (owned : Owned s)
    (found : s.threads.lookup t = some (.lifecycle runner (head :: rest)))
    (recorded : s.manager.listenerData.lookup runner = some data)
    (live : s.manager.live data.pgid = true) :
    data.cmd = some data.pgid ∧ ∃ attempt, .serve data.pgid attempt ∈ head :: rest := by
  obtain ⟨cmd, other, todo, attempt, here, member⟩ := owned.owner runner data recorded live
  cases todo with
  | nil => cases member
  | cons next others =>
      cases owned.single t other runner head next rest others found here
      cases found.symm.trans here
      exact ⟨cmd, attempt, member⟩

theorem Owned.nonzero {s : Standalone} (owned : Owned s) : s.manager.live 0 = false := by
  cases live : s.manager.live 0 with
  | false => rfl
  | true =>
      obtain ⟨t, runner, todo, found, member⟩ := owned.alive 0 live
      exact absurd rfl ((owned.sane t runner todo found).unreaped 0 member).1

/-- A section after which its thread owns nothing. -/
theorem Owned.release {s : Standalone} {t : ThreadID} {runner : RunnerName} {head : Section}
    {rest todo : List Section} {manager : StandaloneManager} (owned : Owned s)
    (found : s.threads.lookup t = some (.lifecycle runner (head :: rest)))
    (slow : head.quick = false) (ownerless : owners todo = [])
    (stored : (∃ later ∈ todo ++ rest, later.late = true) → ∃ data, manager.listenerData.lookup runner = some data)
    (spares : Spares s.manager manager runner head.owned.toList)
    (dies : ∀ pid, manager.live pid = true → s.manager.live pid = true ∧ pid ∉ head.owned)
    (dead : ∀ data, manager.listenerData.lookup runner = some data → manager.live data.pgid = false) :
    Owned (s.resume t (.lifecycle runner (todo ++ rest)) manager) := by
  have none_ : owners (todo ++ rest) = [] := by
    rw [owners_append, ownerless, (owned.sane t runner _ found).tidy.1 slow]
    rfl
  apply owned.perform none found (.of_ownerless none_ stored)
  · intro pid member
    rw [ownerless] at member
    cases member
  · nofun
  · exact spares
  · intro pid live
    exact .inl ⟨(dies pid live).1, fun member => absurd member (dies pid live).2⟩
  · nofun
  · intro data recorded live
    rw [dead data recorded] at live
    cases live

/-- A slow section that owns nothing runs only while no live listener is
recorded for its runner. -/
theorem Owned.dead {s : Standalone} {t : ThreadID} {runner : RunnerName} {head : Section} {rest : List Section}
    {data : ListenerData} (owned : Owned s)
    (found : s.threads.lookup t = some (.lifecycle runner (head :: rest)))
    (slow : head.quick = false) (serves : ∀ attempt, head ≠ .serve data.pgid attempt)
    (recorded : s.manager.listenerData.lookup runner = some data) : s.manager.live data.pgid = false := by
  cases live : s.manager.live data.pgid with
  | false => rfl
  | true =>
      obtain ⟨_, attempt, member⟩ := owned.mine found recorded live
      rcases List.mem_cons.mp member with same | member
      · exact absurd same.symm (serves attempt)
      · have owns := serve_mem_owners member
        rw [(owned.sane t runner _ found).tidy.1 slow] at owns
        cases owns

theorem Spares.refl (m : StandaloneManager) (runner : RunnerName) (own : List Pid) : Spares m m runner own :=
  ⟨fun _ _ => rfl, fun _ group _ known unreaped => ⟨group, known, unreaped, rfl⟩⟩

/-- A slow section that owns no listener and neither touches the groups nor the records. -/
theorem Owned.pass {s : Standalone} {t : ThreadID} {runner : RunnerName} {head : Section}
    {rest todo : List Section} {manager : StandaloneManager} (owned : Owned s)
    (found : s.threads.lookup t = some (.lifecycle runner (head :: rest)))
    (slow : head.quick = false) (free : head.owned = none) (ownerless : owners todo = [])
    (late : (∃ later ∈ todo, later.late = true) → head.late = true)
    (groups : manager.groups = s.manager.groups) (records : manager.listenerData = s.manager.listenerData) :
    Owned (s.resume t (.lifecycle runner (todo ++ rest)) manager) := by
  have alive (pid : Pid) : manager.live pid = s.manager.live pid := by
    unfold StandaloneManager.live
    rw [groups]
  have stored := (owned.sane t runner _ found).stored
  apply owned.release found slow ownerless
  · rintro ⟨later, member, is_late⟩
    rw [records]
    rcases List.mem_append.mp member with new | old
    · exact stored ⟨head, List.mem_cons_self, late ⟨later, new, is_late⟩⟩
    · exact stored ⟨later, List.mem_cons_of_mem _ old, is_late⟩
  · constructor
    · intro name _
      rw [records]
    · intro pid group _ known unreaped
      rw [groups]
      exact ⟨group, known, unreaped, rfl⟩
  · intro pid live
    rw [free]
    exact ⟨alive pid ▸ live, nofun⟩
  · intro data recorded
    rw [alive]
    apply owned.dead found slow _ (records ▸ recorded)
    rintro attempt rfl
    cases free

/-- A slow section that writes the record of its own runner. -/
theorem Owned.write {s : Standalone} {t : ThreadID} {runner : RunnerName} {head : Section}
    {rest todo : List Section} {manager : StandaloneManager} (owned : Owned s)
    (found : s.threads.lookup t = some (.lifecycle runner (head :: rest)))
    (slow : head.quick = false) (free : head.owned = none) (ownerless : owners todo = [])
    (groups : manager.groups = s.manager.groups)
    (others : ∀ name, name ≠ runner →
      manager.listenerData.lookup name = s.manager.listenerData.lookup name)
    (stored : ∃ data, manager.listenerData.lookup runner = some data)
    (keeps : ∀ data, manager.listenerData.lookup runner = some data → data.pgid = 0 ∨
      ∃ before, s.manager.listenerData.lookup runner = some before ∧ data.pgid = before.pgid) :
    Owned (s.resume t (.lifecycle runner (todo ++ rest)) manager) := by
  have alive (pid : Pid) : manager.live pid = s.manager.live pid := by
    unfold StandaloneManager.live
    rw [groups]
  apply owned.release found slow ownerless (fun _ => stored)
  · constructor
    · exact others
    · intro pid group _ known unreaped
      rw [groups]
      exact ⟨group, known, unreaped, rfl⟩
  · intro pid live
    rw [free]
    exact ⟨alive pid ▸ live, nofun⟩
  · intro data recorded
    rw [alive]
    rcases keeps data recorded with zero | ⟨before, known, same⟩
    · rw [zero]
      exact owned.nonzero
    · rw [same]
      apply owned.dead found slow _ known
      rintro attempt rfl
      cases free

/-- A section that only writes a state or an error. -/
theorem Owned.quick {s : Standalone} {t : ThreadID} {runner : RunnerName} {head : Section}
    {rest : List Section} {manager : StandaloneManager} (owned : Owned s)
    (found : s.threads.lookup t = some (.lifecycle runner (head :: rest))) (free : head.owned = none)
    (groups : manager.groups = s.manager.groups) (records : manager.listenerData = s.manager.listenerData) :
    Owned (s.resume t (.lifecycle runner rest) manager) := by
  have alive (pid : Pid) : manager.live pid = s.manager.live pid := by
    unfold StandaloneManager.live
    rw [groups]
  have sane := owned.sane t runner _ found
  have own : owners (head :: rest) = owners rest := by
    rw [owners_cons, free]
    rfl
  change Owned (s.resume t (.lifecycle runner ([] ++ rest)) manager)
  apply owned.perform none found
  · refine ⟨sane.tidy.2, ?_, ?_, ?_⟩
    · intro pid member
      rw [groups]
      exact sane.unreaped pid (own ▸ member)
    · rintro ⟨later, member, late⟩
      rw [records]
      exact sane.stored ⟨later, List.mem_cons_of_mem _ member, late⟩
    · intro pid attempt member
      rw [records]
      exact sane.recorded pid attempt (List.mem_cons_of_mem _ member)
  · nofun
  · nofun
  · constructor
    · intro name _
      rw [records]
    · intro pid group _ known unreaped
      rw [groups]
      exact ⟨group, known, unreaped, rfl⟩
  · intro pid live
    rw [free]
    exact .inl ⟨alive pid ▸ live, nofun⟩
  · nofun
  · intro data recorded live
    rw [alive] at live
    obtain ⟨cmd, attempt, member⟩ := owned.mine found (records ▸ recorded) live
    refine ⟨cmd, attempt, (List.mem_cons.mp member).resolve_left ?_⟩
    rintro rfl
    cases free

/-- A launch forks a process under a number that nothing refers to. -/
theorem Owned.spawn {s : Standalone} {t : ThreadID} {runner : RunnerName} {caller : Caller} {pid : Pid}
    {rest : List Section} (owned : Owned s)
    (found : s.threads.lookup t = some (.lifecycle runner (.spawn caller :: rest)))
    (nonzero : pid ≠ 0) (reaped : (s.manager.groups.lookup pid).all (·.reaped) = true)
    (unrecorded : ∀ name data, s.manager.listenerData.lookup name = some data → data.pgid ≠ pid) :
    Owned (s.resume t (.lifecycle runner ([.record caller pid] ++ rest))
      { s.manager with groups := s.manager.groups.insert pid (.launched runner) }) := by
  have sane := owned.sane t runner _ found
  have ownerless : owners rest = [] := sane.tidy.1 rfl
  have known (group : ProcessGroup) (here : s.manager.groups.lookup pid = some group) : group.reaped = true := by
    rw [here] at reaped
    exact reaped
  have alive (other : Pid) (different : other ≠ pid) :
      (StandaloneManager.live { s.manager with groups := s.manager.groups.insert pid (.launched runner) } other)
        = s.manager.live other := by
    unfold StandaloneManager.live
    rw [Map.lookup_insert_if, if_neg different]
  have only : owners ([.record caller pid] ++ rest) = [pid] := by
    rw [owners_append, ownerless]
    rfl
  apply owned.perform (some pid) found
  · constructor
    · exact ⟨fun _ => ownerless, sane.tidy.2⟩
    · intro other member
      rw [only] at member
      cases List.mem_singleton.mp member
      exact ⟨nonzero, .launched runner, by rw [Map.lookup_insert_if, if_pos rfl], rfl, rfl⟩
    · intro _
      exact sane.stored ⟨_, List.mem_cons_self, rfl⟩
    · intro other attempt member
      rcases List.mem_append.mp member with here | there
      · cases List.mem_singleton.mp here
      · have owns := serve_mem_owners there
        rw [ownerless] at owns
        cases owns
  · intro other member
    exact .inl (List.mem_singleton.mp member ▸ rfl)
  · intro other forked group here
    cases forked
    exact known group here
  · constructor
    · intro name _
      rfl
    · intro other group _ here unreaped
      refine ⟨group, ?_, unreaped, rfl⟩
      rw [Map.lookup_insert_if, if_neg, here]
      rintro rfl
      cases (known group here).symm.trans unreaped
  · intro other live
    by_cases same : other = pid
    · subst same
      exact .inr ⟨rfl, List.mem_singleton.mpr rfl⟩
    · exact .inl ⟨alive other same ▸ live, nofun⟩
  · intro other forked name data recorded
    cases forked
    exact unrecorded name data recorded
  · intro data recorded live
    rw [alive _ (unrecorded runner data recorded), owned.dead found rfl nofun recorded] at live
    cases live

/-- A launch enters its listener; a signal on the way changes no part of the invariant. -/
theorem Owned.enters {s : Standalone} {t : ThreadID} {runner : RunnerName} {caller : Caller} {pid : Pid}
    {rest : List Section} {goal : RunnerState} {manager : StandaloneManager} (owned : Owned s)
    (found : s.threads.lookup t = some (.lifecycle runner (.record caller pid :: rest)))
    (brief : (Section.transition goal).quick = true)
    (listeners : manager.listenerData = (s.manager.enter runner pid).listenerData)
    (groups : ∀ other group, s.manager.groups.lookup other = some group →
      ∃ kept, manager.groups.lookup other = some kept ∧ kept.reaped = group.reaped ∧ kept.runner = group.runner)
    (alive : ∀ other, manager.live other = s.manager.live other) :
    Owned (s.resume t (.lifecycle runner (launched goal pid caller ++ rest)) manager) := by
  have sane := owned.sane t runner _ found
  have ownerless : owners rest = [] := sane.tidy.1 rfl
  have mine : pid ∈ owners (.record caller pid :: rest) := List.mem_cons_self
  obtain ⟨nonzero, group, known, unreaped, same⟩ := sane.unreaped pid mine
  obtain ⟨data, looked⟩ := sane.stored ⟨_, List.mem_cons_self, rfl⟩
  have written : manager.listenerData.lookup runner =
      some { data with cmd := some pid, pgid := pid, retryCancel := none } := by
    rw [listeners]
    simp [StandaloneManager.enter, looked]
  have only : owners (launched goal pid caller ++ rest) = [pid] := by
    rw [owners_append, ownerless]
    rfl
  apply owned.perform none found
  · refine ⟨?_, ?_, fun _ => ⟨_, written⟩, ?_⟩
    · refine Tidy.append ?_ sane.tidy.2 ownerless
      refine ⟨fun slow => Bool.noConfusion (brief.symm.trans slow), ?_, fun _ => rfl, trivial⟩
      intro slow
      cases slow
    · intro other member
      rw [only] at member
      cases List.mem_singleton.mp member
      obtain ⟨kept, here, still, name⟩ := groups pid group known
      exact ⟨nonzero, kept, here, still.trans unreaped, name.trans same⟩
    · intro other attempt member
      have owns := serve_mem_owners member
      rw [only] at owns
      cases List.mem_singleton.mp owns
      exact ⟨_, written, rfl, rfl⟩
  · intro other member
    exact .inr (List.mem_singleton.mp member ▸ rfl)
  · intro other forked
    cases forked
  · constructor
    · intro name different
      rw [listeners]
      simp [StandaloneManager.enter, different]
    · intro other group _ here unreaped
      obtain ⟨kept, kept_here, still, name⟩ := groups other group here
      exact ⟨kept, kept_here, still.trans unreaped, name⟩
  · intro other live
    refine .inl ⟨alive other ▸ live, ?_⟩
    intro member
    cases member
    exact List.mem_cons_self
  · intro other forked
    cases forked
  · intro current recorded _
    cases written.symm.trans recorded
    exact ⟨rfl, caller.attempt, List.mem_append_left _ (by simp [launched])⟩

/-- As `Owned.enters`, of a launch under the pause. -/
theorem Owned.enters_stopped {s : Standalone} {t : ThreadID} {runner : RunnerName} {caller : Caller} {pid : Pid}
    {rest : List Section} {goal : RunnerState} (owned : Owned s)
    (found : s.threads.lookup t = some (.lifecycle runner (.record caller pid :: rest)))
    (brief : (Section.transition goal).quick = true) :
    Owned (s.resume t (.lifecycle runner (launched goal pid caller ++ rest))
      ((s.manager.enter runner pid).signal {pid} .stop)) := by
  have listeners : ((s.manager.enter runner pid).signal {pid} .stop).listenerData =
      (s.manager.enter runner pid).listenerData := rfl
  apply owned.enters found brief listeners
  · intro other group here
    refine ⟨_, (StandaloneManager.lookup_signal _ _ _ _).trans (congrArg _ here), ?_, ?_⟩
    · dsimp only
      split
      · exact ProcessGroup.deliver_reaped _ _
      · rfl
    · dsimp only
      split
      · exact ProcessGroup.deliver_runner _ _
      · rfl
  · intro other
    exact StandaloneManager.live_signal_spared _ _ _ _ (by decide)

/-- A launch is recorded, and its process perhaps stopped. -/
theorem Owned.record {s : Standalone} {t : ThreadID} {runner : RunnerName} {caller : Caller} {pid : Pid}
    {rest todo : List Section} {outcome : Finset Pid} {manager : StandaloneManager} (owned : Owned s)
    (found : s.threads.lookup t = some (.lifecycle runner (.record caller pid :: rest)))
    (records : Records s.manager runner caller pid outcome manager todo) :
    Owned (s.resume t (.lifecycle runner (todo ++ rest)) manager) := by
  have sane := owned.sane t runner _ found
  have ownerless : owners rest = [] := sane.tidy.1 rfl
  obtain ⟨data, looked⟩ := sane.stored ⟨_, List.mem_cons_self, rfl⟩
  cases records with
  | cancelled =>
      apply owned.perform none found
      · refine ⟨⟨fun _ => ownerless, sane.tidy.2⟩, ?_, ?_, ?_⟩
        · exact sane.unreaped
        · intro _
          exact ⟨data, looked⟩
        · intro other attempt member
          refine sane.recorded other attempt (List.mem_cons_of_mem _ ?_)
          exact (List.mem_cons.mp member).resolve_left (by simp)
      · intro other member
        exact .inr (List.mem_singleton.mp member ▸ rfl)
      · intro other forked
        cases forked
      · exact .refl _ _ _
      · intro other live
        refine .inl ⟨live, ?_⟩
        intro member
        cases member
        exact List.mem_cons_self
      · intro other forked
        cases forked
      · intro current recorded live
        rw [owned.dead found rfl (by simp) recorded] at live
        cases live
  | frozen paused => exact owned.enters_stopped found rfl
  | missed paused dead => exact owned.enters_stopped found rfl
  | free open_ => exact owned.enters found rfl rfl (fun _ group here => ⟨group, here, rfl, rfl⟩) (fun _ => rfl)

/-- A listener is reaped by the thread that owns it. -/
theorem Owned.reap {s : Standalone} {t : ThreadID} {runner : RunnerName} {head : Section} {pid : Pid}
    {rest todo : List Section} {change : ProcessGroup → ProcessGroup} (owned : Owned s)
    (found : s.threads.lookup t = some (.lifecycle runner (head :: rest)))
    (slow : head.quick = false) (late : head.late = true) (mine : head.owned = some pid)
    (ownerless : owners todo = [])
    (dead : ∀ group, s.manager.groups.lookup pid = some group → (change group).live = false) :
    Owned (s.resume t (.lifecycle runner (todo ++ rest))
      { s.manager with groups := s.manager.groups.modify pid change }) := by
  have alive (other : Pid) (live : StandaloneManager.live
      { s.manager with groups := s.manager.groups.modify pid change } other = true) :
      s.manager.live other = true ∧ other ≠ pid := by
    unfold StandaloneManager.live at live ⊢
    rw [Map.lookup_modify] at live
    split at live
    · next same =>
        subst same
        cases known : s.manager.groups.lookup other with
        | none =>
            rw [known] at live
            cases live
        | some group =>
            rw [known, Option.map_some, Option.any_some, dead group known] at live
            cases live
    · next different => exact ⟨live, different⟩
  apply owned.release found slow ownerless
  · intro _
    exact (owned.sane t runner _ found).stored ⟨head, List.mem_cons_self, late⟩
  · constructor
    · intro name _
      rfl
    · intro other group foreign known unreaped
      have different : other ≠ pid := by
        rintro rfl
        rw [mine] at foreign
        exact foreign List.mem_cons_self
      exact ⟨group, by rw [Map.lookup_modify, if_neg different, known], unreaped, rfl⟩
  · intro other live
    have ⟨before, different⟩ := alive other live
    rw [mine]
    exact ⟨before, fun same => different (Option.some.inj same).symm⟩
  · intro data recorded
    cases live : StandaloneManager.live
        { s.manager with groups := s.manager.groups.modify pid change } data.pgid with
    | false => rfl
    | true =>
        obtain ⟨before, different⟩ := alive _ live
        rw [owned.dead found slow _ recorded] at before
        · cases before
        · rintro attempt rfl
          cases mine
          exact different rfl

theorem owners_failure (caller : Caller) (text : String) : owners (caller.failure text) = [] := by
  cases caller <;> rfl

/-- A step of a lifecycle thread, if it forks no process whose number is still recorded. -/
theorem Owned.performs {s : Standalone} {t : ThreadID} {runner : RunnerName} {head : Section}
    {rest todo : List Section} {answer : Answer} {manager : StandaloneManager} (owned : Owned s)
    (found : s.threads.lookup t = some (.lifecycle runner (head :: rest)))
    (performed : s.manager.perform runner answer head = some (manager, todo))
    (unrecorded : ∀ pid ∈ head.forks answer, ∀ name data,
      s.manager.listenerData.lookup name = some data → data.pgid ≠ pid) :
    Owned (s.resume t (.lifecycle runner (todo ++ rest)) manager) := by
  have stored (late : head.late = true) := (owned.sane t runner _ found).stored ⟨head, List.mem_cons_self, late⟩
  -- `forget`, `arm` and `disarm` write through a pointer, which leaves the PGID.
  have update (data : Option Nat) (change : ListenerData → ListenerData)
      (keeps : ∀ current, (change current).pgid = current.pgid) (slow : head.quick = false)
      (free : head.owned = none) (late : head.late = true) :
      Owned (s.resume t (.lifecycle runner ([] ++ rest)) (s.manager.update runner data change)) := by
    obtain ⟨current, looked⟩ := stored late
    refine owned.write found slow free rfl rfl ?_ ?_ ?_
    · intro name different
      simp [StandaloneManager.update, different]
    · simp [StandaloneManager.update, looked]
    · intro after recorded
      simp only [StandaloneManager.update, Map.lookup_modify, if_true, looked, Option.map_some,
        Option.some.injEq] at recorded
      refine .inr ⟨current, looked, ?_⟩
      subst recorded
      split
      · exact keeps current
      · rfl
  cases perform_performs performed with
  | prepareFail | prepare => exact owned.pass found rfl rfl rfl (by simp [Section.late]) rfl rfl
  | store =>
      refine owned.write found rfl rfl rfl rfl ?_ ?_ ?_
      · intro name different
        exact Finmap.lookup_insert_of_ne _ different
      · exact ⟨_, Finmap.lookup_insert _⟩
      · intro data recorded
        cases (Finmap.lookup_insert _).symm.trans recorded
        exact .inl rfl
  | spawnFail failed => exact owned.pass found rfl rfl (owners_failure _ _) (fun _ => rfl) rfl rfl
  | spawn clean nonzero free =>
      exact owned.spawn found nonzero free (unrecorded _ (by rw [Section.forks, if_pos clean]; rfl))
  | record records => exact owned.record found records
  | abort =>
      apply owned.reap found rfl rfl rfl (owners_failure _ _)
      intro group _
      change (group.deliver .kill).live = false
      rw [ProcessGroup.deliver_live]
      exact Bool.and_false _
  | @transition goal =>
      cases brief : (Section.transition goal).quick with
      | true => exact owned.quick found rfl rfl rfl
      | false => exact owned.pass found brief rfl rfl (by simp) rfl rfl
  | setError => exact owned.quick found rfl rfl rfl
  | fail => exact owned.pass found rfl rfl rfl (by simp) rfl rfl
  | @serve pid attempt status exited =>
      apply owned.reap found rfl rfl rfl rfl
      intro group known
      rw [known] at exited
      change group.exit.isNone = false
      rw [show group.exit = some status from exited]
      rfl
  | exited | finish | retry | giveUp | fire | cancel =>
      exact owned.pass found rfl rfl rfl (fun _ => rfl) rfl rfl
  | @forget data => exact update data _ (fun _ => rfl) rfl rfl rfl
  | @arm data => exact update data _ (fun _ => rfl) rfl rfl rfl
  | @disarm data => exact update data _ (fun _ => rfl) rfl rfl rfl

end Standalone

end RunnersMux

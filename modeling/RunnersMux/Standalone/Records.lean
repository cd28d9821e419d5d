import RunnersMux.Standalone.Sole

/-! What `ListenerData` says while a lifecycle goes on.

`Notes` annotates a list of sections with what a `Halt` would read: the process
that is served, or the channel of a back-off, unless another `Halt` has closed
it. A lifecycle that has ended may still write through its pointer, but no
longer to the record of a later one.
-/

set_option autoImplicit false

namespace RunnersMux

open Foundations

namespace Section

/-- The pointer to a `ListenerData` that a section holds. -/
def pointer : Section → Option Nat
  | .forget data | .arm data _ | .backoff _ _ data | .disarm data => data
  | .spawn (.retry _ data) | .record (.retry _ data) _ | .abort (.retry _ data) _ => data
  | _ => none

/-- A section of a lifecycle that has stored its `ListenerData` and goes on. -/
def placed (head : Section) : Bool := head.working && head.late

end Section

/-- What the record has to say while a lifecycle is left with some sections. -/
def Notes (closed : Finset Nat) : List Section → Option ListenerData → Prop
  | [], _ => True
  | .transition _ :: rest, data | .setError _ :: rest, data => Notes closed rest data
  | .forget _ :: rest, _ | .disarm _ :: rest, _ => ∀ data, Notes closed rest data
  | .fail _ _ :: rest, _ | .initializeEnvironment _ :: rest, _ | .store _ :: rest, _ => rest = []
  | .spawn _ :: rest, data | .record _ _ :: rest, data | .abort _ _ :: rest, data | .exited _ _ _ :: rest, data
  | .decide _ _ _ _ :: rest, data => data.isSome = true ∧ rest = []
  | .serve pid _ :: rest, data =>
      (∃ known, data = some known ∧ known.cmd = some pid ∧ known.pgid = pid) ∧ rest = []
  | .arm pointer channel :: rest, data => ∃ known, data = some known ∧ pointer = some known.address ∧
      Notes closed rest (some { known with cmd := none, retryCancel := some channel })
  | .backoff channel _ _ :: rest, data =>
      (∃ known, data = some known ∧ known.cmd = none ∧ (known.retryCancel = some channel ∨ channel ∈ closed)) ∧
        rest = []

section
variable {closed : Finset Nat} {todo rest : List Section} {data other : Option ListenerData}

/-- A lifecycle that is not in its place reads nothing of the record. -/
theorem Notes.free (notes : Notes closed todo data) (out : ∀ later ∈ todo, later.placed = false) :
    Notes closed todo other := by
  induction todo generalizing data other with
  | nil => trivial
  | cons head rest ih =>
      have after := fun later member => out later (List.mem_cons_of_mem _ member)
      cases head with
      | transition | setError => exact ih notes after
      | forget | disarm => exact notes
      | fail | initializeEnvironment | store => exact notes
      | _ => exact absurd (out _ List.mem_cons_self) (by simp [Section.placed, Section.working, Section.late])

/-- Channels are closed for good. -/
theorem Notes.closed_mono {more : Finset Nat} (notes : Notes closed todo data) (grows : closed ⊆ more) :
    Notes more todo data := by
  induction todo generalizing data with
  | nil => trivial
  | cons head rest ih =>
      cases head with
      | transition | setError => exact ih notes
      | forget | disarm => exact fun data => ih (notes data)
      | arm =>
          obtain ⟨known, found, same, next⟩ := notes
          exact ⟨known, found, same, ih next⟩
      | backoff =>
          obtain ⟨⟨known, found, dead, either⟩, last⟩ := notes
          exact ⟨⟨known, found, dead, either.imp_right fun member => grows member⟩, last⟩
      | _ => exact notes

/-- A `Halt` that finds no process closes the channel that it finds. -/
theorem Notes.cancel {known : ListenerData} {channel : Nat} (notes : Notes closed todo (some known))
    (dead : known.cmd = none) (armed : known.retryCancel = some channel) :
    Notes (insert channel closed) todo (some { known with retryCancel := none }) := by
  induction todo with
  | nil => trivial
  | cons head rest ih =>
      cases head with
      | transition | setError => exact ih notes
      | forget | disarm => exact fun data => (notes data).closed_mono (Finset.subset_insert _ _)
      | arm =>
          obtain ⟨data, found, same, next⟩ := notes
          cases found
          exact ⟨_, rfl, same, next.closed_mono (Finset.subset_insert _ _)⟩
      | backoff =>
          obtain ⟨⟨data, found, _, either⟩, last⟩ := notes
          cases found
          refine ⟨⟨_, rfl, dead, .inr ?_⟩, last⟩
          rcases either with same | member
          · cases armed.symm.trans same
            exact Finset.mem_insert_self _ _
          · exact Finset.mem_insert_of_mem member
      | serve =>
          obtain ⟨⟨data, found, cmd, _⟩, _⟩ := notes
          cases found
          cases dead.symm.trans cmd
      | spawn | record | abort | exited | decide => exact ⟨rfl, notes.2⟩
      | _ => exact notes

theorem notes_failure (caller : Caller) (text : String) : Notes closed (caller.failure text) data := by
  cases caller with
  | launch entry => exact rfl
  | retry attempt pointer => exact fun _ => trivial

end

section
variable {m after : StandaloneManager} {runner : RunnerName} {answer : Answer} {head : Section}
  {todo rest : List Section}

/-- The branches after an exit, with the pointer that is read there. -/
theorem decide_cases {draining : Bool} {status : ExitStatus} {attempt : Nat} {fast : Bool}
    (performed : m.perform runner answer (.decide draining status attempt fast) = some (after, todo)) :
    (after = m ∧ (todo = [.transition .offline, .forget ((m.listenerData.lookup runner).map (·.address)),
        .setError status.text] ∨ todo = [.transition .offline, .setError status.text,
        .forget ((m.listenerData.lookup runner).map (·.address))])) ∨
      (draining = false ∧ status ≠ .clean ∧ attempt < maxListenerRetries ∧ fast = true) ∧
        after = { m with next := m.next + 1 } ∧ todo = [.transition .registering, .setError "",
          .arm ((m.listenerData.lookup runner).map (·.address)) m.next,
          .backoff m.next attempt ((m.listenerData.lookup runner).map (·.address))] := by
  simp only [StandaloneManager.perform, Option.some.injEq, StandaloneManager.afterExit] at performed
  split at performed
  · cases performed
    exact .inl ⟨rfl, .inl rfl⟩
  · next stays =>
      rw [not_or] at stays
      split at performed <;> cases performed
      · next retries => exact .inr ⟨⟨Bool.eq_false_iff.mpr stays.1, stays.2, retries⟩, rfl, rfl⟩
      · exact .inl ⟨rfl, .inr rfl⟩

theorem perform_closed (performed : m.perform runner answer head = some (after, todo)) : after.closed = m.closed := by
  cases perform_performs performed with
  | record records => cases records <;> rfl
  | _ => rfl

/-- A section writes to the record of its runner, but only `store` replaces it. -/
theorem perform_address (performed : m.perform runner answer head = some (after, todo))
    (kept : ∀ entry, head ≠ .store entry) :
    (after.listenerData.lookup runner).map (·.address) = (m.listenerData.lookup runner).map (·.address) := by
  have update (data : Option Nat) (change : ListenerData → ListenerData)
      (same : ∀ current, (change current).address = current.address) :
      ((m.update runner data change).listenerData.lookup runner).map (·.address) =
        (m.listenerData.lookup runner).map (·.address) := by
    simp only [StandaloneManager.update, Map.lookup_modify, if_true, Option.map_map]
    cases m.listenerData.lookup runner with
    | none => rfl
    | some current =>
        simp only [Option.map_some, Function.comp_apply]
        split
        · exact congrArg some (same current)
        · rfl
  have entered (pid : Pid) : ((m.enter runner pid).listenerData.lookup runner).map (·.address) =
      (m.listenerData.lookup runner).map (·.address) := by
    simp only [StandaloneManager.enter, Map.lookup_modify, if_true, Option.map_map]
    rfl
  cases perform_performs performed with
  | @store entry => exact absurd rfl (kept entry)
  | @record caller pid _ _ records =>
      cases records with
      | cancelled => rfl
      | _ => exact entered pid
  | forget | arm | disarm => exact update _ _ fun _ => rfl
  | _ => rfl

/-- A pointer is passed on, or read from the record after an exit. -/
theorem perform_pointers (performed : m.perform runner answer head = some (after, todo)) {later : Section}
    (member : later ∈ todo) {pointer : Nat} (holds : pointer ∈ later.pointer) :
    pointer ∈ head.pointer ∨
      head.working = true ∧ (m.listenerData.lookup runner).map (·.address) = some pointer := by
  have failed {caller : Caller} {text : String} (member : later ∈ caller.failure text) :
      ∃ attempt, caller = .retry attempt (some pointer) := by
    cases caller <;> simp [Caller.failure] at member
    · rcases member with rfl | rfl | rfl <;> cases holds
    · rcases member with rfl | rfl | rfl
      · cases holds
      · cases holds
      · exact ⟨_, congrArg _ holds⟩
  have passes (other : ∀ draining status attempt fast, head ≠ .decide draining status attempt fast) :
      pointer ∈ head.pointer := by
    cases perform_performs performed with
    | @spawnFail caller text =>
        obtain ⟨attempt, rfl⟩ := failed member
        rfl
    | @abort caller pid =>
        obtain ⟨attempt, rfl⟩ := failed member
        rfl
    | @spawn caller =>
        cases List.mem_singleton.mp member
        cases caller <;> exact holds
    | @record caller pid _ _ records =>
        cases records with
        | cancelled =>
            cases List.mem_singleton.mp member
            cases caller <;> exact holds
        | _ =>
            simp [launched] at member
            rcases member with rfl | rfl | rfl <;> cases holds
    | fire =>
        cases List.mem_singleton.mp member
        exact holds
    | cancel =>
        simp at member
        rcases member with rfl | rfl
        · cases holds
        · exact holds
    | prepareFail | prepare | store | serve | exited =>
        cases List.mem_singleton.mp member
        cases holds
    | finish | retry | giveUp => exact absurd rfl (other _ _ _ _)
    | _ => cases member
  cases head with
  | decide draining status attempt fast =>
      right
      refine ⟨rfl, ?_⟩
      rcases decide_cases performed with ⟨_, rfl | rfl⟩ | ⟨_, _, rfl⟩ <;> simp at member <;>
        rcases member with rfl | rfl | rfl | rfl <;> first | exact holds | cases holds
  | _ => exact .inl (passes (by simp))

/-- The thread that takes a step. -/
theorem Notes.performs (notes : Notes m.closed (head :: rest) (m.listenerData.lookup runner))
    (performed : m.perform runner answer head = some (after, todo)) :
    Notes after.closed (todo ++ rest) (after.listenerData.lookup runner) := by
  -- What follows a section that leaves others in its place is nothing.
  have goes (none_ : rest = []) (next : Notes after.closed todo (after.listenerData.lookup runner)) :
      Notes after.closed (todo ++ rest) (after.listenerData.lookup runner) := by
    rw [none_, List.append_nil]
    exact next
  have entered {pid : Pid} (stored : (m.listenerData.lookup runner).isSome = true) :
      ∃ known, (m.enter runner pid).listenerData.lookup runner = some known ∧ known.cmd = some pid ∧
        known.pgid = pid := by
    obtain ⟨known, found⟩ := Option.isSome_iff_exists.mp stored
    refine ⟨{ known with cmd := some pid, pgid := pid, retryCancel := none }, ?_, rfl, rfl⟩
    change (m.listenerData.modify runner _).lookup runner = _
    rw [Map.lookup_modify, if_pos rfl, found, Option.map_some]
  cases head with
  | decide draining status attempt fast =>
      obtain ⟨stored, last⟩ := notes
      rcases decide_cases performed with ⟨rfl, rfl | rfl⟩ | ⟨_, rfl, rfl⟩
      · exact goes last fun _ => trivial
      · exact goes last fun _ => trivial
      · obtain ⟨known, found⟩ := Option.isSome_iff_exists.mp stored
        refine goes last ⟨known, found, ?_, ⟨_, rfl, rfl, .inl rfl⟩, rfl⟩
        rw [found, Option.map_some]
  | arm pointer channel =>
      obtain ⟨known, found, same, next⟩ := notes
      cases performed
      have written : (m.update runner pointer fun current =>
          { current with cmd := none, retryCancel := some channel }).listenerData.lookup runner =
            some { known with cmd := none, retryCancel := some channel } := by
        simp [StandaloneManager.update, found, same]
      exact written ▸ next
  | forget pointer | disarm pointer =>
      cases performed
      exact notes _
  | transition goal | setError text =>
      cases performed
      exact notes
  | fail entry text =>
      cases performed
      exact goes notes trivial
  | initializeEnvironment entry => cases perform_performs performed <;> exact goes notes rfl
  | store entry =>
      cases performed
      exact goes notes ⟨by rw [Finmap.lookup_insert]; rfl, rfl⟩
  | spawn caller =>
      cases perform_performs performed with
      | spawnFail failed => exact goes notes.2 (notes_failure caller _)
      | spawn clean nonzero free => exact goes notes.2 ⟨notes.1, rfl⟩
  | record caller pid =>
      cases perform_performs performed with
      | record records =>
          cases records with
          | cancelled => exact goes notes.2 ⟨notes.1, rfl⟩
          | _ => exact goes notes.2 ⟨entered notes.1, rfl⟩
  | abort caller pid =>
      cases performed
      exact goes notes.2 (notes_failure caller _)
  | exited status attempt fast =>
      cases performed
      exact goes notes.2 ⟨notes.1, rfl⟩
  | serve pid attempt =>
      obtain ⟨⟨known, found, _⟩, last⟩ := notes
      cases perform_performs performed with
      | serve ended => exact goes last ⟨by rw [found]; rfl, rfl⟩
  | backoff channel attempt data =>
      obtain ⟨⟨known, found, _⟩, last⟩ := notes
      cases perform_performs performed with
      | fire => exact goes last ⟨by rw [found]; rfl, rfl⟩
      | cancel closed => exact goes last fun _ => trivial

end

namespace Standalone

/-- The records of one runner, between all the lifecycles that it has had. -/
structure Noted (runner : RunnerName) (s : Standalone) : Prop where
  notes : ∀ t todo, s.threads.lookup t = some (.lifecycle runner todo) →
    Notes s.manager.closed todo (s.manager.listenerData.lookup runner)
  stale : ∀ t other todo others, s.threads.lookup t = some (.lifecycle runner todo) →
    (∃ later ∈ todo, later.placed = true) → s.threads.lookup other = some (.lifecycle runner others) → other ≠ t →
    ∀ later ∈ others, ∀ pointer ∈ later.pointer, ∀ data, s.manager.listenerData.lookup runner = some data →
      data.address ≠ pointer
  dated : ∀ t todo, s.threads.lookup t = some (.lifecycle runner todo) →
    ∀ later ∈ todo, ∀ pointer ∈ later.pointer, pointer < s.manager.next
  address : ∀ data, s.manager.listenerData.lookup runner = some data → data.address < s.manager.next

theorem new_noted (runner : RunnerName) : Noted runner .new := by
  constructor
  · intro t todo found
    cases found
  · intro t other todo others found
    cases found
  · intro t todo found
    cases found
  · intro data found
    cases found

variable {s after : Standalone} {runner : RunnerName}

/-- A step that leaves the records and the runner's lifecycles alone. -/
theorem Noted.steady (noted : Noted runner s)
    (data : after.manager.listenerData.lookup runner = s.manager.listenerData.lookup runner)
    (closed : s.manager.closed ⊆ after.manager.closed) (next : s.manager.next ≤ after.manager.next)
    (threads : ∀ t todo, after.threads.lookup t = some (.lifecycle runner todo) ↔
      s.threads.lookup t = some (.lifecycle runner todo)) : Noted runner after := by
  constructor
  · intro t todo found
    rw [data]
    exact (noted.notes t todo ((threads t todo).mp found)).closed_mono closed
  · intro t other todo others found placed here different
    rw [data]
    exact noted.stale t other todo others ((threads t todo).mp found) placed ((threads other others).mp here) different
  · intro t todo found later member pointer holds
    exact Nat.lt_of_lt_of_le (noted.dated t todo ((threads t todo).mp found) later member pointer holds) next
  · intro known found
    rw [data] at found
    exact Nat.lt_of_lt_of_le (noted.address known found) next

theorem engaged_of_placed {todo : List Section} (placed : ∃ later ∈ todo, later.placed = true) : Engaged todo := by
  obtain ⟨later, member, both⟩ := placed
  exact ⟨later, member, .inl (Bool.and_eq_true_iff.mp both).1⟩

section
variable {t : ThreadID} {head : Section} {rest todo : List Section} {answer : Answer} {manager : StandaloneManager}

/-- A section that puts its lifecycle in its place has stored the record. -/
theorem placed_perform {m after : StandaloneManager} (performed : m.perform runner answer head = some (after, todo))
    (placed : ∃ later ∈ todo, later.placed = true) : (∃ entry, head = .store entry) ∨ head.placed = true := by
  obtain ⟨later, member, both⟩ := placed
  cases perform_performs performed with
  | prepareFail | prepare =>
      cases List.mem_singleton.mp member
      cases both
  | store => exact .inl ⟨_, rfl⟩
  | transition | setError | fail | forget | disarm => cases member
  | _ => exact .inr rfl

/-- A section of a lifecycle that is not in its place writes no record but
through a stale pointer. -/
theorem perform_unplaced {m after : StandaloneManager} (performed : m.perform runner answer head = some (after, todo))
    (idle : head.working = false)
    (stale : ∀ pointer ∈ head.pointer, ∀ data, m.listenerData.lookup runner = some data → data.address ≠ pointer) :
    after.listenerData.lookup runner = m.listenerData.lookup runner := by
  have missed (data : Option Nat) (change : ListenerData → ListenerData)
      (held : ∀ pointer ∈ data, ∀ known, m.listenerData.lookup runner = some known → known.address ≠ pointer) :
      (m.update runner data change).listenerData.lookup runner = m.listenerData.lookup runner := by
    simp only [StandaloneManager.update, Map.lookup_modify, if_true]
    cases found : m.listenerData.lookup runner with
    | none => rfl
    | some known =>
        rw [Option.map_some, if_neg]
        intro same
        exact held known.address same.symm known found rfl
  cases perform_performs performed with
  | forget | disarm => exact missed _ _ stale
  | transition | setError | fail => rfl
  | _ => cases idle

/-- What is read after a section that stores no record was read before it. -/
theorem perform_read {m after : StandaloneManager} (performed : m.perform runner answer head = some (after, todo))
    (kept : ¬∃ entry, head = .store entry) {data : ListenerData} (looked : after.listenerData.lookup runner = some data) :
    ∃ before, m.listenerData.lookup runner = some before ∧ data.address = before.address := by
  have same := perform_address performed fun entry stores => kept ⟨entry, stores⟩
  rw [looked] at same
  obtain ⟨before, known, equal⟩ := Option.map_eq_some_iff.mp same.symm
  exact ⟨before, known, equal.symm⟩

/-- Beside a lifecycle that is in its place, another one writes nothing that is read. -/
theorem Noted.spared {other : ThreadID} {others : List Section} (sole : s.Sole (· = runner)) (noted : Noted runner s)
    (found : s.threads.lookup t = some (.lifecycle runner (head :: rest)))
    (performed : s.manager.perform runner answer head = some (manager, todo)) (different : other ≠ t)
    (here : s.threads.lookup other = some (.lifecycle runner others)) (placed : ∃ later ∈ others, later.placed = true) :
    head.working = false ∧ manager.listenerData.lookup runner = s.manager.listenerData.lookup runner := by
  have idle : head.working = false := by
    refine Bool.eq_false_iff.mpr fun working => different ?_
    exact sole.single other t runner ⟨rfl, others, here, engaged_of_placed placed⟩
      ⟨rfl, _, found, head, List.mem_cons_self, .inl working⟩
  refine ⟨idle, perform_unplaced performed idle ?_⟩
  intro pointer holds data known
  exact noted.stale other t others _ here placed found (Ne.symm different) head List.mem_cons_self pointer holds
    data known

/-- The pointers of a lifecycle that is not in its place stay old. -/
theorem Noted.stale_performs (sole : s.Sole (· = runner)) (noted : Noted runner s)
    (found : s.threads.lookup t = some (.lifecycle runner (head :: rest)))
    (performed : s.manager.perform runner answer head = some (manager, todo)) {one other : ThreadID}
    {ones others : List Section}
    (here : (s.resume t (.lifecycle runner (todo ++ rest)) manager).threads.lookup one = some (.lifecycle runner ones))
    (placed : ∃ later ∈ ones, later.placed = true)
    (there : (s.resume t (.lifecycle runner (todo ++ rest)) manager).threads.lookup other =
      some (.lifecycle runner others)) (different : other ≠ one) :
    ∀ later ∈ others, ∀ pointer ∈ later.pointer, ∀ data, manager.listenerData.lookup runner = some data →
      data.address ≠ pointer := by
  intro later member pointer holds data looked
  rw [lookup_resume] at here there
  split at here <;> split at there
  · next same also => exact absurd (also.trans same.symm) different
  · next same distinct =>
      cases here
      -- The thread that moves is in its place; the other's pointers are old.
      by_cases stores : ∃ entry, head = .store entry
      · obtain ⟨entry, rfl⟩ := stores
        cases performed
        cases (Finmap.lookup_insert _).symm.trans looked
        exact Nat.ne_of_gt (noted.dated other others there later member pointer holds)
      · obtain ⟨before, known, equal⟩ := perform_read performed stores looked
        rw [equal]
        apply noted.stale t other _ others found _ there distinct later member pointer holds before known
        obtain ⟨task, mine, both⟩ := placed
        rcases List.mem_append.mp mine with new | old
        · exact ⟨head, List.mem_cons_self,
            (placed_perform performed ⟨task, new, both⟩).resolve_left stores⟩
        · exact ⟨task, List.mem_cons_of_mem _ old, both⟩
  · next distinct same =>
      cases there
      have ⟨idle, kept⟩ := noted.spared sole found performed distinct here placed
      rw [kept] at looked
      have old := noted.stale one t ones _ here placed found (Ne.symm distinct)
      rcases List.mem_append.mp member with new | rested
      · rcases perform_pointers performed new holds with mine | ⟨working, _⟩
        · exact old head List.mem_cons_self pointer mine data looked
        · cases idle.symm.trans working
      · exact old later (List.mem_cons_of_mem _ rested) pointer holds data looked
  · next distinct apart =>
      have ⟨_, kept⟩ := noted.spared sole found performed distinct here placed
      rw [kept] at looked
      exact noted.stale one other ones others here placed there different later member pointer holds data looked

theorem Noted.performs (sole : s.Sole (· = runner)) (noted : Noted runner s)
    (found : s.threads.lookup t = some (.lifecycle runner (head :: rest)))
    (performed : s.manager.perform runner answer head = some (manager, todo)) :
    Noted runner (s.resume t (.lifecycle runner (todo ++ rest)) manager) := by
  have next := perform_next performed
  constructor
  · intro other others here
    rw [lookup_resume] at here
    split at here
    · cases here
      exact (noted.notes t _ found).performs performed
    · next different =>
        have before := (noted.notes other others here).closed_mono (Finset.Subset.refl _)
        change Notes manager.closed others (manager.listenerData.lookup runner)
        rw [perform_closed performed]
        by_cases placed : ∃ later ∈ others, later.placed = true
        · rw [(noted.spared sole found performed different here placed).2]
          exact before
        · apply before.free
          intro later member
          exact Bool.eq_false_iff.mpr fun also => placed ⟨later, member, also⟩
  · intro one other ones others here placed there different
    exact noted.stale_performs sole found performed here placed there different
  · intro other others here later member pointer holds
    rw [lookup_resume] at here
    refine Nat.lt_of_lt_of_le ?_ next
    split at here
    · cases here
      rcases List.mem_append.mp member with new | old
      · -- A pointer is handed on, or read from the record.
        rcases perform_pointers performed new holds with mine | ⟨_, read⟩
        · exact noted.dated t _ found head List.mem_cons_self pointer mine
        · obtain ⟨data, known, rfl⟩ := Option.map_eq_some_iff.mp read
          exact noted.address data known
      · exact noted.dated t _ found later (List.mem_cons_of_mem _ old) pointer holds
    · exact noted.dated other others here later member pointer holds
  · intro data looked
    change manager.listenerData.lookup runner = some data at looked
    change data.address < manager.next
    by_cases stores : ∃ entry, head = .store entry
    · obtain ⟨entry, rfl⟩ := stores
      cases performed
      cases (Finmap.lookup_insert _).symm.trans looked
      exact Nat.lt_succ_self _
    · obtain ⟨before, known, equal⟩ := perform_read performed stores looked
      rw [equal]
      exact Nat.lt_of_lt_of_le (noted.address before known) next

end

/-- What the locked section of `Halt` finds. -/
theorem halt_cases {m after : StandaloneManager} {force : Bool} {next : StopPhase}
    (halted : m.halt runner force = (after, next)) :
    (m.listenerData.lookup runner = none ∧ after = m ∧ next = .returned (some "runner not found")) ∨
      ∃ data, m.listenerData.lookup runner = some data ∧
        ((∃ pid, data.cmd = some pid ∧ after = m ∧
            next = if force then .killing data.pgid else .resuming pid data.pgid) ∨
          (∃ channel, data.cmd = none ∧ data.retryCancel = some channel ∧ next = .returned none ∧
            after = { m with
              listenerData := m.listenerData.insert runner { data with retryCancel := none }
              closed := insert channel m.closed }) ∨
          data.cmd = none ∧ data.retryCancel = none ∧ after = m ∧ next = .returned none) := by
  simp only [StandaloneManager.halt] at halted
  split at halted
  · next absent =>
      cases halted
      exact .inl ⟨absent, rfl, rfl⟩
  · next data known =>
      right
      refine ⟨data, known, ?_⟩
      split at halted
      · next _ pid cmd =>
          cases halted
          exact .inl ⟨pid, cmd, rfl, rfl⟩
      · next channel dead armed =>
          cases halted
          exact .inr (.inl ⟨channel, dead, armed, rfl, rfl⟩)
      · next dead quiet =>
          cases halted
          exact .inr (.inr ⟨dead, quiet, rfl, rfl⟩)

/-- A `Halt` writes a record only when it closes the channel that the record holds. -/
theorem advance_records {m after : StandaloneManager} {answer : Answer} {phase next : StopPhase}
    (advanced : m.advance runner answer phase = some (after, next)) :
    (after.listenerData = m.listenerData ∧ after.closed = m.closed) ∨
      ∃ data channel, m.listenerData.lookup runner = some data ∧ data.cmd = none ∧
        data.retryCancel = some channel ∧ after.closed = insert channel m.closed ∧
        after.listenerData = m.listenerData.insert runner { data with retryCancel := none } := by
  cases phase with
  | halting force =>
      rcases halt_cases (Option.some.inj advanced) with ⟨_, rfl, _⟩ | ⟨data, known, found⟩
      · exact .inl ⟨rfl, rfl⟩
      · rcases found with ⟨_, _, rfl, _⟩ | ⟨channel, dead, armed, _, rfl⟩ | ⟨_, _, rfl, _⟩
        · exact .inl ⟨rfl, rfl⟩
        · exact .inr ⟨data, channel, known, dead, armed, rfl, rfl⟩
        · exact .inl ⟨rfl, rfl⟩
  | _ =>
      left
      cases advance_advances advanced <;> exact ⟨rfl, rfl⟩

theorem Noted.halted {t : ThreadID} {name : RunnerName} {answer : Answer} {phase next : StopPhase}
    {manager : StandaloneManager} (noted : Noted runner s) (found : s.threads.lookup t = some (.stop name phase))
    (advanced : s.manager.advance name answer phase = some (manager, next)) :
    Noted runner (s.resume t (.stop name next) manager) := by
  have threads (other : ThreadID) (others : List Section) :
      (s.resume t (.stop name next) manager).threads.lookup other = some (.lifecycle runner others) ↔
        s.threads.lookup other = some (.lifecycle runner others) :=
    lookup_resume_stop (fun _ _ lifecycle => by cases found.symm.trans lifecycle) other runner others
  have counter := Nat.le_of_eq (advance_next advanced).symm
  rcases advance_records advanced with ⟨records, closed⟩ | ⟨data, channel, known, dead, armed, closed, records⟩
  · exact noted.steady (congrArg (Finmap.lookup runner) records) closed.symm.subset counter threads
  · by_cases mine : runner = name
    · subst mine
      have looked : manager.listenerData.lookup runner = some { data with retryCancel := none } := by
        rw [records, Finmap.lookup_insert]
      have addresses {now : ListenerData} (here : manager.listenerData.lookup runner = some now) :
          now.address = data.address := by
        cases looked.symm.trans here
        rfl
      constructor
      · intro other others here
        have notes := noted.notes other others ((threads other others).mp here)
        rw [known] at notes
        change Notes manager.closed others (manager.listenerData.lookup runner)
        rw [looked, closed]
        exact notes.cancel dead armed
      · intro one other ones others here placed there different later member pointer holds now read
        rw [addresses read]
        exact noted.stale one other ones others ((threads one ones).mp here) placed ((threads other others).mp there)
          different later member pointer holds data known
      · intro other others here later member pointer holds
        exact Nat.lt_of_lt_of_le
          (noted.dated other others ((threads other others).mp here) later member pointer holds) counter
      · intro now read
        rw [addresses read]
        exact Nat.lt_of_lt_of_le (noted.address data known) counter
    · refine noted.steady ?_ ?_ counter threads
      · change manager.listenerData.lookup runner = _
        rw [records, Finmap.lookup_insert_of_ne _ mine]
      · change s.manager.closed ⊆ manager.closed
        rw [closed]
        exact Finset.subset_insert _ _

theorem Noted.step {call : Call} (sole : s.Sole (· = runner)) (noted : Noted runner s)
    (rested : runner ∈ call.starts → s.manager.processes.resting runner = true)
    (taken : s.step call = some after) : Noted runner after := by
  cases call with
  | own event =>
      cases act_moves taken with
      | @start t name processes fresh started =>
          by_cases mine : name = runner
          · subst mine
            have idle (other : ThreadID) (others : List Section)
                (here : s.threads.lookup other = some (.lifecycle name others)) (engaged : Engaged others) : False :=
              Bool.noConfusion ((rested rfl).symm.trans (sole.up other name ⟨rfl, others, here, engaged⟩))
            constructor
            · intro other others here
              rw [lookup_resume] at here
              split at here
              · cases here
                exact rfl
              · exact noted.notes other others here
            · intro one other ones others here placed
              rw [lookup_resume] at here
              split at here
              · cases here
                simp [Section.placed, Section.late] at placed
              · exact (idle one ones here (engaged_of_placed placed)).elim
            · intro other others here later member pointer holds
              rw [lookup_resume] at here
              split at here
              · cases here
                cases List.mem_singleton.mp member
                cases holds
              · exact Nat.lt_succ_of_lt (noted.dated other others here later member pointer holds)
            · intro data looked
              exact Nat.lt_succ_of_lt (noted.address data looked)
          · refine noted.steady rfl (Finset.Subset.refl _) (Nat.le_succ _) ?_
            intro other others
            rw [lookup_resume]
            split
            · next equal =>
                subst equal
                rw [fresh]
                simp [mine]
            · exact Iff.rfl
      | @stop t name force processes fresh stopped =>
          refine noted.steady rfl (Finset.Subset.refl _) (Nat.le_refl _) ?_
          intro other others
          exact lookup_resume_stop (fun name todo found => by cases fresh.symm.trans found) other runner others
      | @perform t answer name head todo rest manager found performed =>
          by_cases mine : name = runner
          · subst mine
            exact noted.performs sole found performed
          · refine noted.steady ((perform_frame performed).2 runner (Ne.symm mine)).2
              (perform_closed performed).symm.subset (perform_next performed) ?_
            intro other others
            exact lookup_resume_other found mine
      | advance found advanced => exact noted.halted found advanced
      | exit alive => exact noted.steady rfl (Finset.Subset.refl _) (Nat.le_refl _) fun _ _ => Iff.rfl
  | lockOthers | unlockOthers | markBusy | markIdle =>
      cases taken
      exact noted.steady rfl (Finset.Subset.refl _) (Nat.le_refl _) fun _ _ => Iff.rfl

end Standalone

end RunnersMux

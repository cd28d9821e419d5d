import RunnersMux.Foundations.Transitions
import RunnersMux.ScaleSet.Sole

/-! The cancel functions of the scale set listeners.

`cancels` is keyed by name. `Launch` stores into it before the goroutine exists,
and a goroutine deletes from it after its runner has been Offline, or Failed,
long enough for another `Start`. A listener keeps its cancel function as long as
nobody else writes the entry of its name.
-/

set_option autoImplicit false

namespace RunnersMux

open Foundations

/-- The runner and the context of a listener that is live, or about to be spawned. -/
def ScaleSetThread.holds : ScaleSetThread → Option (RunnerName × Nat)
  | .launch runner (.spawning _ context) | .listener runner (.starting context)
  | .listener runner (.listening context) => some (runner, context)
  | _ => none

namespace ScaleSet

/-- Whoever holds a context that is not cancelled is in `cancels` with it. -/
def Stored (s : ScaleSet) : Prop :=
  ∀ t thread, s.threads.lookup t = some thread → ∀ held ∈ thread.holds, held.2 ∉ s.manager.cancelled →
    s.manager.cancels.lookup held.1 = some held.2

/-- A live listener can be cancelled, if it has not been. -/
def Stoppable (s : ScaleSet) : Prop :=
  ∀ g runner phase, s.threads.lookup g = some (.listener runner phase) → phase.live = true →
    ∃ context, (phase = .starting context ∨ phase = .listening context) ∧
      (context ∈ s.manager.cancelled ∨ s.manager.cancels.lookup runner = some context)

/-- The runner whose entry in `cancels` a step writes or deletes. -/
def rewrites (s : ScaleSet) : ScaleSetEvent → Option RunnerName
  | .run t _ =>
      match s.threads.lookup t with
      | some (.launch runner (.storing _)) | some (.listener runner .dropping) => some runner
      | _ => none
  | _ => none

/-- A step rewrites no entry that a listener, live or about to be spawned, still needs. -/
def SparesHolders (s : ScaleSet) (event : ScaleSetEvent) : Prop :=
  ∀ runner ∈ s.rewrites event, ∀ t thread, s.threads.lookup t = some thread → ∀ held ∈ thread.holds,
    held.1 = runner → held.2 ∈ s.manager.cancelled

instance (s : ScaleSet) (event : ScaleSetEvent) : Decidable (s.SparesHolders event) :=
  inferInstanceAs (Decidable (∀ runner ∈ s.rewrites event, _))

variable {s after : ScaleSet} {t : ThreadID} {thread : ScaleSetThread} {manager : ScaleSetManager}

/-- One thread moves; the others keep their entries or have no use for them. -/
theorem Stored.moves (stored : s.Stored) (grows : s.manager.cancelled ⊆ manager.cancelled)
    (keeps : ∀ runner, manager.cancels.lookup runner = s.manager.cancels.lookup runner ∨
      ∀ t thread, s.threads.lookup t = some thread → ∀ held ∈ thread.holds, held.1 = runner →
        held.2 ∈ s.manager.cancelled)
    (own : ∀ held ∈ thread.holds, held.2 ∉ manager.cancelled → manager.cancels.lookup held.1 = some held.2) :
    (s.resume t thread manager).Stored := by
  intro other now found held holds uncancelled
  rw [lookup_resume] at found
  split at found
  · cases found
    exact own held holds uncancelled
  · have before : held.2 ∉ s.manager.cancelled := fun member => uncancelled (grows member)
    -- Another holder: its entry is as it was, or its context has been cancelled before.
    rcases keeps held.1 with same | needless
    · exact same.trans (stored other now found held holds before)
    · exact absurd (needless other now found held holds rfl) before

/-- A step that leaves `cancels` alone, of a thread that holds nothing new. -/
theorem Stored.still {old : ScaleSetThread} (stored : s.Stored) (found : s.threads.lookup t = some old)
    (grows : s.manager.cancelled ⊆ manager.cancelled) (same : manager.cancels = s.manager.cancels)
    (holds : ∀ held ∈ thread.holds, held ∈ old.holds) : (s.resume t thread manager).Stored := by
  apply stored.moves grows
  · intro runner
    exact .inl (congrArg _ same)
  · intro held now uncancelled
    rw [same]
    exact stored t old found held (holds held now) fun member => uncancelled (grows member)

theorem Stored.launch {runner : RunnerName} {phase next : LaunchPhase} (stored : s.Stored)
    (found : s.threads.lookup t = some (.launch runner phase)) (launches : Launches s.manager runner phase manager next)
    (spares : ∀ reply, s.SparesHolders (.run t reply)) : Stored (s.resume t (.launch runner next) manager) := by
  cases launches with
  | store =>
      refine Stored.moves stored ?_ ?_ ?_
      · exact Finset.Subset.refl s.manager.cancelled
      · intro name
        -- The entry of the name is overwritten; whoever held it is cancelled by the condition.
        by_cases same : name = runner
        · subst same
          exact .inr (spares ⟨false, none, false⟩ name (by simp [rewrites, found]))
        · exact .inl (Finmap.lookup_insert_of_ne _ same)
      · rintro _ ⟨⟩ _
        exact Finmap.lookup_insert _
  | leave | failed | fail => exact stored.still found (Finset.Subset.refl _) rfl (by simp [ScaleSetThread.holds])

theorem Stored.listen {runner : RunnerName} {phase next : ListenerPhase} (stored : s.Stored)
    (found : s.threads.lookup t = some (.listener runner phase)) (listens : Listens s.manager runner phase manager next)
    (spares : ∀ reply, s.SparesHolders (.run t reply)) : Stored (s.resume t (.listener runner next) manager) := by
  cases listens with
  | drop =>
      refine Stored.moves stored ?_ ?_ ?_
      · exact Finset.Subset.refl s.manager.cancelled
      · intro name
        -- `delete` goes by the name, whatever context is stored there.
        by_cases same : name = runner
        · subst same
          exact .inr (spares ⟨false, none, false⟩ name (by simp [rewrites, found]))
        · exact .inl (Finmap.lookup_erase_ne same)
      · simp [ScaleSetThread.holds]
  | online => exact stored.still found (Finset.Subset.refl _) rfl fun _ held => held
  | abandon | leave | decide | finish | report =>
      exact stored.still found (Finset.Subset.refl _) rfl (by simp [ScaleSetThread.holds])

/-- A launch hands its context over to the listener that it spawns. -/
theorem Stored.spawn {g : ThreadID} {runner : RunnerName} {entry context : Nat} (stored : s.Stored)
    (found : s.threads.lookup t = some (.launch runner (.spawning entry context))) :
    Stored ((s.resume t (.launch runner (.waiting entry)) s.manager).resume g
      (.listener runner (.starting context)) s.manager) := by
  have waits : Stored (s.resume t (.launch runner (.waiting entry)) s.manager) :=
    stored.still found (Finset.Subset.refl _) rfl (by simp [ScaleSetThread.holds])
  refine Stored.moves waits (Finset.Subset.refl _) (fun _ => .inl rfl) ?_
  rintro _ ⟨⟩ uncancelled
  exact stored t _ found (runner, context) rfl uncancelled

/-- A `Halt` may cancel a context, and writes no entry. -/
theorem halt_cancels {runner : RunnerName} {phase next : HaltPhase}
    (halted : s.manager.halt runner phase = some (manager, next)) :
    manager.cancels = s.manager.cancels ∧ s.manager.cancelled ⊆ manager.cancelled := by
  cases phase with
  | halting =>
      simp only [ScaleSetManager.halt] at halted
      split at halted <;> cases halted <;> exact ⟨rfl, Finset.Subset.refl _⟩
  | cancelling context =>
      cases halted
      exact ⟨rfl, Finset.subset_insert _ _⟩
  | returned => cases halted

theorem run_halt {runner : RunnerName} {phase : HaltPhase} {reply : Reply}
    (found : s.threads.lookup t = some (.halt runner phase)) :
    s.run t reply = (s.manager.halt runner phase).map fun (manager, next) => s.resume t (.halt runner next) manager := by
  simp only [ScaleSet.run, found]

theorem Stored.step {event : ScaleSetEvent} (stored : s.Stored) (spares : s.SparesHolders event)
    (taken : s.step event = some after) : after.Stored := by
  cases step_moves taken with
  | start fresh started =>
      refine Stored.moves stored ?_ (fun _ => .inl rfl) (by simp [ScaleSetThread.holds])
      exact Finset.Subset.refl s.manager.cancelled
  | spawn found fresh => exact stored.spawn found
  | stop fresh stopped =>
      refine Stored.moves stored ?_ (fun _ => .inl rfl) (by simp [ScaleSetThread.holds])
      exact Finset.Subset.refl s.manager.cancelled
  | launch found launches => exact stored.launch found launches fun _ => spares
  | listen found listens => exact stored.listen found listens fun _ => spares
  | @halt t reply runner phase next manager found table counter =>
      have ran := (run_halt found).symm.trans taken
      obtain ⟨⟨halted, reached⟩, goes, same⟩ := Option.map_eq_some_iff.mp ran
      obtain rfl : halted = manager := congrArg ScaleSet.manager same
      obtain ⟨cancels, grows⟩ := halt_cancels goes
      exact stored.still found grows cancels (by simp [ScaleSetThread.holds])
  | markBusy | markIdle => exact stored

theorem reached_stored (reached : Reaches ScaleSet.step (· = .new) SparesHolders s) : s.Stored := by
  refine reached.invariant ?_ fun _ _ _ _ stored spares taken => Stored.step stored spares taken
  rintro _ rfl t thread found
  cases found

theorem Stored.stoppable (stored : s.Stored) : s.Stoppable := by
  intro g runner phase found live
  have cancellable (context : Nat) (held : (runner, context) ∈ ScaleSetThread.holds (.listener runner phase)) :
      context ∈ s.manager.cancelled ∨ s.manager.cancels.lookup runner = some context := by
    by_cases cancelled : context ∈ s.manager.cancelled
    · exact .inl cancelled
    · exact .inr (stored g _ found _ held cancelled)
  cases phase with
  | starting context => exact ⟨context, .inl rfl, cancellable context rfl⟩
  | listening context => exact ⟨context, .inr rfl, cancellable context rfl⟩
  | _ => cases live

/-- Nobody else moves a thread that is not spawning. -/
theorem thread_stays {event : ScaleSetEvent} (found : s.threads.lookup t = some thread) (taken : s.step event = some after)
    (others : ∀ reply, event ≠ .run t reply)
    (still : ∀ runner entry context, thread ≠ .launch runner (.spawning entry context)) :
    after.threads.lookup t = some thread := by
  cases step_moves taken with
  | @start u runner processes fresh started =>
      have apart : t ≠ u := by
        rintro rfl
        cases found.symm.trans fresh
      rw [lookup_resume, if_neg apart, found]
  | @spawn u g runner entry context spawning fresh =>
      have apart : t ≠ g := by
        rintro rfl
        cases found.symm.trans fresh
      have distinct : t ≠ u := by
        rintro rfl
        cases found.symm.trans spawning
        exact still runner entry context rfl
      rw [lookup_resume, if_neg apart, lookup_resume, if_neg distinct, found]
  | @stop u runner processes fresh stopped =>
      have apart : t ≠ u := by
        rintro rfl
        cases found.symm.trans fresh
      rw [lookup_resume, if_neg apart, found]
  | @launch u reply | @listen u reply | @halt u reply =>
      have apart : t ≠ u := by
        rintro rfl
        exact others reply rfl
      rw [lookup_resume, if_neg apart, found]
  | markBusy | markIdle => exact found

theorem cancelled_grows {event : ScaleSetEvent} (taken : s.step event = some after) :
    s.manager.cancelled ⊆ after.manager.cancelled := by
  cases step_moves taken with
  | @launch t reply runner phase next manager found launches =>
      cases launches <;> exact Finset.Subset.refl s.manager.cancelled
  | @listen t reply runner phase next manager found listens =>
      cases listens <;> exact Finset.Subset.refl s.manager.cancelled
  | @halt t reply runner phase next manager found table counter =>
      obtain ⟨_, goes, same⟩ := Option.map_eq_some_iff.mp ((run_halt found).symm.trans taken)
      rw [← congrArg ScaleSet.manager same]
      exact (halt_cancels goes).2
  | _ => exact Finset.Subset.refl s.manager.cancelled

/-- A `Stop` that has found a live listener: as long as the listener is live, its context is
cancelled, or the thread of the `Stop` has that before it. -/
def Pursues (t g : ThreadID) (runner : RunnerName) (context : Nat) (s : ScaleSet) : Prop :=
  ∃ phase, s.threads.lookup g = some (.listener runner phase) ∧ (phase.live = true →
    (runner, context) ∈ ScaleSetThread.holds (.listener runner phase) ∧ (context ∈ s.manager.cancelled ∨
      s.threads.lookup t = some (.halt runner .halting) ∨ s.threads.lookup t = some (.halt runner (.cancelling context))))

/-- A step of a listener that stays live leaves it its context, and the contexts alone. -/
theorem listens_live {runner : RunnerName} {phase next : ListenerPhase}
    (listens : Listens s.manager runner phase manager next) (held : RunnerName × Nat) (live : next.live = true) :
    phase.live = true ∧ manager.cancelled = s.manager.cancelled ∧
      (held ∈ ScaleSetThread.holds (.listener runner phase) → held ∈ ScaleSetThread.holds (.listener runner next)) := by
  cases listens with
  | online => exact ⟨rfl, rfl, id⟩
  | _ => cases live

theorem Pursues.listen {g : ThreadID} {runner : RunnerName} {context : Nat} {reply : Reply}
    (pursues : s.Pursues t g runner context) (taken : s.step (.run g reply) = some after) :
    after.Pursues t g runner context := by
  obtain ⟨phase, found, pursued⟩ := pursues
  simp only [ScaleSet.step, ScaleSet.run, found] at taken
  obtain ⟨⟨manager, next⟩, listened, rfl⟩ := Option.map_eq_some_iff.mp taken
  refine ⟨next, (lookup_resume g).trans (if_pos rfl), fun live => ?_⟩
  obtain ⟨before, same, keeps⟩ := listens_live (listen_listens listened) (runner, context) live
  obtain ⟨mine, far⟩ := pursued before
  refine ⟨keeps mine, ?_⟩
  have others (phase : HaltPhase) (halting : s.threads.lookup t = some (.halt runner phase)) :
      (s.resume g (.listener runner next) manager).threads.lookup t = some (.halt runner phase) := by
    have apart : t ≠ g := by
      rintro rfl
      cases found.symm.trans halting
    rw [lookup_resume, if_neg apart, halting]
  rcases far with cancelled | halting | cancelling
  · exact .inl (same.symm ▸ cancelled)
  · exact .inr (.inl (others _ halting))
  · exact .inr (.inr (others _ cancelling))

theorem Pursues.halt {g : ThreadID} {runner : RunnerName} {context : Nat} {reply : Reply} (stored : s.Stored)
    (pursues : s.Pursues t g runner context) (apart : g ≠ t) (taken : s.step (.run t reply) = some after) :
    after.Pursues t g runner context := by
  obtain ⟨phase, found, pursued⟩ := pursues
  have stays : after.threads.lookup g = some (.listener runner phase) :=
    thread_stays found taken (by simpa using Ne.symm apart) nofun
  refine ⟨phase, stays, fun live => ?_⟩
  obtain ⟨mine, far⟩ := pursued live
  refine ⟨mine, ?_⟩
  rcases far with cancelled | halting | cancelling
  · exact .inl (cancelled_grows taken cancelled)
  · by_cases cancelled : context ∈ s.manager.cancelled
    · exact .inl (cancelled_grows taken cancelled)
    · -- `Stored` is what the lookup relies on.
      have looked := stored g _ found _ mine cancelled
      have ran := (run_halt halting).symm.trans taken
      simp only [ScaleSetManager.halt, looked, Option.map_some, Option.some.injEq] at ran
      subst ran
      exact .inr (.inr ((lookup_resume t).trans (if_pos rfl)))
  · have ran := (run_halt cancelling).symm.trans taken
    simp only [ScaleSetManager.halt, Option.map_some, Option.some.injEq] at ran
    subst ran
    exact .inl (Finset.mem_insert_self context _)

theorem Pursues.step {g : ThreadID} {runner : RunnerName} {context : Nat} {event : ScaleSetEvent} (stored : s.Stored)
    (pursues : s.Pursues t g runner context) (taken : s.step event = some after) : after.Pursues t g runner context := by
  by_cases listens : ∃ reply, event = .run g reply
  · obtain ⟨reply, rfl⟩ := listens
    exact pursues.listen taken
  by_cases halts : ∃ reply, event = .run t reply
  · obtain ⟨reply, rfl⟩ := halts
    refine Pursues.halt stored pursues ?_ taken
    rintro rfl
    exact listens ⟨reply, rfl⟩
  obtain ⟨phase, found, pursued⟩ := pursues
  refine ⟨phase, thread_stays found taken (fun reply same => listens ⟨reply, same⟩) nofun, fun live => ?_⟩
  obtain ⟨mine, far⟩ := pursued live
  have others (phase : HaltPhase) (halting : s.threads.lookup t = some (.halt runner phase)) :
      after.threads.lookup t = some (.halt runner phase) :=
    thread_stays halting taken (fun reply same => halts ⟨reply, same⟩) nofun
  exact ⟨mine, far.imp (cancelled_grows taken ·) (.imp (others _) (others _))⟩

/-- A thread that neither stores nor drops rewrites nothing. -/
theorem spares_still {event : ScaleSetEvent} (still : s.rewrites event = none) : s.SparesHolders event := by
  intro runner rewritten
  rw [still] at rewritten
  cases rewritten

theorem spares_listener {runner : RunnerName} {phase : ListenerPhase} (reply : Reply)
    (found : s.threads.lookup t = some (.listener runner phase)) (waits : phase ≠ .dropping) :
    s.SparesHolders (.run t reply) := by
  apply spares_still
  simp only [rewrites, found]
  cases phase <;> first | rfl | exact absurd rfl waits

theorem spares_halt {runner : RunnerName} {phase : HaltPhase} {reply : Reply}
    (found : s.threads.lookup t = some (.halt runner phase)) : s.SparesHolders (.run t reply) := by
  apply spares_still
  simp only [rewrites, found]

/-- One step of a listener's goroutine. -/
theorem listen_next {g : ThreadID} {runner : RunnerName} {phase next : ListenerPhase} (reply : Reply)
    (found : s.threads.lookup g = some (.listener runner phase)) (waits : phase ≠ .dropping)
    (listened : s.manager.listen runner reply phase = some (manager, next)) :
    Reaches ScaleSet.step (· = s) SparesHolders (s.resume g (.listener runner next) manager) ∧
      (s.resume g (.listener runner next) manager).threads.lookup g = some (.listener runner next) := by
  refine ⟨.next (.start rfl) (spares_listener reply found waits) ?_, (lookup_resume g).trans (if_pos rfl)⟩
  simp only [ScaleSet.step, ScaleSet.run, found, listened, Option.map_some]

/-- A cancelled context is no failure. -/
theorem listen_canceled (runner : RunnerName) (manager : ScaleSetManager) :
    manager.listen runner ⟨true, none, true⟩ (.exited (some "context canceled") true) = some (manager, .ending none) := by
  simp [ScaleSetManager.listen]

/-- Once its context is cancelled, a listener returns, and its goroutine sets a Draining runner
Offline. -/
theorem canceled_offline {g : ThreadID} {runner : RunnerName} {phase : ListenerPhase} {context : Nat}
    (found : s.threads.lookup g = some (.listener runner phase))
    (mine : (runner, context) ∈ ScaleSetThread.holds (.listener runner phase)) (cancelled : context ∈ s.manager.cancelled)
    (draining : s.manager.processes.getState runner = some .draining) :
    ∃ last, Reaches ScaleSet.step (· = s) SparesHolders last ∧ context ∈ last.manager.cancelled ∧
      last.manager.processes.getState runner = some .offline := by
  have returns : s.manager.listen runner ⟨true, some "context canceled", true⟩ phase =
      some (s.manager, .exited (some "context canceled") true) := by
    have left : s.manager.leave context ⟨true, some "context canceled", true⟩ =
        some (s.manager, .exited (some "context canceled") true) := if_pos fun _ => cancelled
    cases phase <;> cases mine <;> exact left
  have busy : phase ≠ .dropping := by
    rintro rfl
    cases mine
  obtain ⟨exits, exited⟩ := listen_next _ found busy returns
  obtain ⟨decides, decided⟩ := listen_next _ exited nofun (listen_canceled runner s.manager)
  obtain ⟨finishes, _⟩ := listen_next ⟨true, none, true⟩ decided nofun rfl
  refine ⟨_, (exits.trans decides).trans finishes, cancelled, ?_⟩
  obtain ⟨entry, arrived, offline⟩ :=
    Processes.transitioned_arrives draining (.inl (List.mem_singleton_self RunnerState.offline))
  exact Option.map_eq_some_iff.mpr ⟨entry, arrived, offline⟩

/-- The two steps of a `Halt`, and then those of the listener. -/
theorem Stored.offline {g : ThreadID} {runner : RunnerName} {phase : ListenerPhase} {context : Nat} (stored : s.Stored)
    (halting : s.threads.lookup t = some (.halt runner .halting))
    (found : s.threads.lookup g = some (.listener runner phase))
    (mine : (runner, context) ∈ ScaleSetThread.holds (.listener runner phase))
    (draining : s.manager.processes.getState runner = some .draining) :
    ∃ last, Reaches ScaleSet.step (· = s) SparesHolders last ∧ context ∈ last.manager.cancelled ∧
      last.manager.processes.getState runner = some .offline := by
  by_cases cancelled : context ∈ s.manager.cancelled
  · exact canceled_offline found mine cancelled draining
  have apart : g ≠ t := by
    rintro rfl
    cases found.symm.trans halting
  have looked := stored g _ found _ mine cancelled
  have finds : s.step (.run t ⟨true, none, false⟩) = some (s.resume t (.halt runner (.cancelling context)) s.manager) := by
    change s.run t _ = _
    simp only [run_halt halting, ScaleSetManager.halt, looked, Option.map_some]
  generalize between : s.resume t (.halt runner (.cancelling context)) s.manager = middle at finds
  have cancelling : middle.threads.lookup t = some (.halt runner (.cancelling context)) := by
    rw [← between, lookup_resume, if_pos rfl]
  have cancels : middle.step (.run t ⟨true, none, false⟩) = some (middle.resume t (.halt runner .returned)
      { middle.manager with cancelled := insert context middle.manager.cancelled }) := by
    change middle.run t _ = _
    simp only [run_halt cancelling, ScaleSetManager.halt, Option.map_some]
  have listening : middle.threads.lookup g = some (.listener runner phase) := by
    rw [← between, lookup_resume, if_neg apart, found]
  have stays : (middle.resume t (.halt runner .returned)
      { middle.manager with cancelled := insert context middle.manager.cancelled }).threads.lookup g =
        some (.listener runner phase) := by
    rw [lookup_resume, if_neg apart, listening]
  obtain ⟨last, further, done, offline⟩ :=
    canceled_offline stays mine (Finset.mem_insert_self context _) (by rw [← between]; exact draining)
  exact ⟨last, Reaches.trans (.next (.next (.start rfl) (spares_halt halting) finds) (spares_halt cancelling) cancels)
    further, done, offline⟩

/-- What a `Stop` leaves behind. -/
theorem step_stop {runner : RunnerName} (taken : s.step (.stop t runner) = some after) :
    after.threads.lookup t = some (.halt runner .halting) ∧
      after.manager.processes.getState runner = some .draining ∧ after.manager.cancelled = s.manager.cancelled := by
  cases step_moves taken with
  | stop fresh stopped =>
      obtain ⟨process, _, rfl⟩ := Processes.stop_ok stopped
      refine ⟨(lookup_resume t).trans (if_pos rfl), ?_, rfl⟩
      exact Option.map_eq_some_iff.mpr ⟨_, Finmap.lookup_insert s.manager.processes, rfl⟩

/-- As long as nobody rewrites an entry in `cancels` that a listener needs, a live listener has its
cancel function there; and after a `Stop` that sets Draining, the listener is cancelled once `Halt`
has returned, and its runner can reach Offline. -/
theorem listener_stops (reached : Reaches ScaleSet.step (· = .new) SparesHolders s) :
    s.Stoppable ∧ ∀ t runner after, s.step (.stop t runner) = some after →
      ∀ g phase, s.threads.lookup g = some (.listener runner phase) → phase.live = true →
        ∃ context, (phase = .starting context ∨ phase = .listening context) ∧
          (∀ later, Reaches ScaleSet.step (· = after) SparesHolders later →
            later.threads.lookup t = some (.halt runner .returned) →
            ∀ now, later.threads.lookup g = some (.listener runner now) → now.live = true →
              context ∈ later.manager.cancelled) ∧
          ∃ last, Reaches ScaleSet.step (· = after) SparesHolders last ∧ context ∈ last.manager.cancelled ∧
            last.manager.processes.getState runner = some .offline := by
  have stored := reached_stored reached
  refine ⟨stored.stoppable, fun t runner after taken g phase found live => ?_⟩
  have spares : s.SparesHolders (.stop t runner) := spares_still rfl
  have kept := Stored.step stored spares taken
  obtain ⟨halting, draining, same⟩ := step_stop taken
  have stays : after.threads.lookup g = some (.listener runner phase) := thread_stays found taken nofun nofun
  obtain ⟨context, is, _⟩ := stored.stoppable g runner phase found live
  have mine : (runner, context) ∈ ScaleSetThread.holds (.listener runner phase) := by
    rcases is with rfl | rfl <;> rfl
  refine ⟨context, is, ?_, kept.offline halting stays mine draining⟩
  intro later further returned now still alive
  have pursues : later.Stored ∧ later.Pursues t g runner context := by
    apply further.invariant
    · rintro _ rfl
      exact ⟨kept, phase, stays, fun _ => ⟨mine, .inr (.inl halting)⟩⟩
    · intro state event next _ holds spared moved
      exact ⟨Stored.step holds.1 spared moved, Pursues.step holds.1 holds.2 moved⟩
  obtain ⟨_, last, here, pursued⟩ := pursues
  cases here.symm.trans still
  rcases (pursued alive).2 with cancelled | halting | cancelling
  · exact cancelled
  · cases returned.symm.trans halting
  · cases returned.symm.trans cancelling

/-- A listener comes online; it is the goroutine 10 of the `Start` 0. -/
def oneOnline : List ScaleSetEvent :=
  [.start 0 "a", .run 0 ⟨false, none, false⟩, .spawn 0 10, .run 10 ⟨false, none, false⟩]

/-- The goroutine of a listener that has returned publishes Offline, and is slow to delete its
entry: that of the next listener. -/
def lateDrop : List ScaleSetEvent :=
  oneOnline ++ [.run 10 ⟨true, none, false⟩, .run 10 ⟨false, none, false⟩, .run 10 ⟨false, none, false⟩,
    .start 1 "a", .run 1 ⟨false, none, false⟩, .spawn 1 11, .run 11 ⟨false, none, false⟩,
    .run 10 ⟨false, none, false⟩, .run 10 ⟨false, none, false⟩]

/-- The second listener is live, its context is not cancelled, and `Halt` finds nothing to call. -/
theorem listener_unstoppable : ∃ s, Reaches ScaleSet.step (· = .new) everyStep s ∧ ¬s.Stoppable ∧
    ∃ stopped ∈ replay ScaleSet.step everyStep s [.stop 2 "a", .run 2 ⟨false, none, false⟩],
      stopped.threads.lookup 2 = some (.halt "a" .returned) ∧
      stopped.threads.lookup 11 = some (.listener "a" (.listening 3)) ∧ 3 ∉ stopped.manager.cancelled ∧
      stopped.manager.processes.getState "a" = some .draining := by
  obtain ⟨s, reached, live, uncancelled, missing, halts⟩ : ∃ s, Reaches ScaleSet.step (· = .new) everyStep s ∧
      s.threads.lookup 11 = some (.listener "a" (.listening 3)) ∧ 3 ∉ s.manager.cancelled ∧
      s.manager.cancels.lookup "a" = none ∧
      ∃ stopped ∈ replay ScaleSet.step everyStep s [.stop 2 "a", .run 2 ⟨false, none, false⟩],
        stopped.threads.lookup 2 = some (.halt "a" .returned) ∧
        stopped.threads.lookup 11 = some (.listener "a" (.listening 3)) ∧ 3 ∉ stopped.manager.cancelled ∧
        stopped.manager.processes.getState "a" = some .draining := by
    refine Reaches.of_replay rfl lateDrop ?_
    decide
  refine ⟨s, reached, fun stoppable => ?_, halts⟩
  obtain ⟨context, same | same, cancelled | stored⟩ := stoppable 11 "a" _ live rfl
  · cases same
  · cases same
  · cases same
    exact uncancelled cancelled
  · rw [missing] at stored
    cases stored

/-- One listener, and a `Stop` that cancels it. -/
theorem listener_stops_once : ∃ s after, Reaches ScaleSet.step (· = .new) SparesHolders s ∧
    s.step (.stop 2 "a") = some after ∧ s.threads.lookup 10 = some (.listener "a" (.listening 1)) ∧
    ∃ last, Reaches ScaleSet.step (· = after) SparesHolders last ∧ 1 ∈ last.manager.cancelled ∧
      last.manager.processes.getState "a" = some .offline := by
  obtain ⟨s, reached, live, stops⟩ : ∃ s, Reaches ScaleSet.step (· = .new) SparesHolders s ∧
      s.threads.lookup 10 = some (.listener "a" (.listening 1)) ∧ (s.step (.stop 2 "a")).isSome := by
    refine Reaches.of_replay rfl oneOnline ?_
    decide
  obtain ⟨after, taken⟩ := Option.isSome_iff_exists.mp stops
  obtain ⟨context, same | same, _, last, further, cancelled, offline⟩ :=
    (listener_stops reached).2 2 "a" after taken 10 _ live rfl
  · cases same
  · cases same
    exact ⟨s, after, reached, taken, live, last, further, cancelled, offline⟩

end ScaleSet

end RunnersMux

import RunnersMux.Worker.Outcome

/-! Who has got through to a worker container.

A connection or a request stays known to the launcher from the moment it arrives,
whatever becomes of it. Nobody is known who has not come, and the payload is that
of somebody known.
-/

set_option autoImplicit false

namespace RunnersMux

open Foundations

/-- The contender that an event brings. -/
def LauncherEvent.brings : LauncherEvent → Option Contender
  | .dial conn => some (.connection conn)
  | .postStart id true (.ok jitConfig) => some (.start id jitConfig)
  | _ => none

namespace WorkerLauncher

/-- It has come, and waits or has been dealt with. -/
def Knows (s : WorkerLauncher) : Contender → Prop
  | .connection conn => conn ∈ s.backlog ∨ (s.calls.lookup (.connection conn)).isSome
  | .start id jitConfig =>
      s.starts.lookup id = some (.received true (.ok jitConfig)) ∨ (s.calls.lookup (.start id jitConfig)).isSome

instance (s : WorkerLauncher) : (contender : Contender) → Decidable (s.Knows contender)
  | .connection _ => inferInstanceAs (Decidable (_ ∨ _))
  | .start _ _ => inferInstanceAs (Decidable (_ ∨ _))

variable {s after : WorkerLauncher} {event : LauncherEvent} {contender : Contender}

theorem knows_called {call : OnceCall} (called : s.calls.lookup contender = some call) : s.Knows contender := by
  cases contender <;> exact .inr (by simp [called])

theorem new_knows (contender : Contender) : ¬new.Knows contender := by
  cases contender <;> simp [Knows, new]

/-- A step that touches neither the threads of a contender nor its call. -/
theorem knows_congr (backlog : after.backlog = s.backlog) (starts : after.starts = s.starts)
    (calls : after.calls = s.calls) (contender : Contender) : after.Knows contender ↔ s.Knows contender := by
  cases contender <;> simp only [Knows, backlog, starts, calls]

theorem listen_knows {err : Option String} (taken : s.listen err = some after) (contender : Contender) :
    after.Knows contender ↔ s.Knows contender := by
  simp only [listen] at taken
  split at taken
  case h_5 => cases taken
  all_goals
    cases taken
    exact knows_congr rfl rfl rfl contender

theorem dial_knows {conn : Nat} (taken : s.dial conn = some after) (contender : Contender) :
    after.Knows contender ↔ s.Knows contender ∨ .connection conn = contender := by
  obtain ⟨_, made⟩ := Option.ite_none_right_eq_some.mp taken
  cases made
  cases contender with
  | connection other =>
      simp only [Knows, List.mem_append, List.mem_singleton, Contender.connection.injEq]
      grind
  | start id jitConfig => simp [Knows]

/-- A connection is taken off the queue by a call. -/
theorem accept_knows {err : Option String} (taken : s.accept err = some after) (contender : Contender) :
    after.Knows contender ↔ s.Knows contender := by
  obtain ⟨_, made⟩ := Option.ite_none_right_eq_some.mp taken
  cases err with
  | some err =>
      cases made
      exact Iff.rfl
  | none =>
      simp only at made
      split at made
      · cases made
      · next conn backlog queued =>
          cases made
          cases contender with
          | connection other =>
              simp only [Knows, queued, List.mem_cons, Map.lookup_insert_if, Contender.connection.injEq]
              grind
          | start id jitConfig => simp [Knows]

theorem doOnce_knows {caller : Contender} (taken : s.doOnce caller = some after) (contender : Contender) :
    after.Knows contender ↔ s.Knows contender := by
  simp only [doOnce] at taken
  split at taken
  · cases taken
  · next call there =>
      split at taken
      · cases taken
      · next startOnce next went =>
          cases taken
          have called (other : Contender) :
              ((s.calls.insert caller next).lookup other).isSome = (s.calls.lookup other).isSome := by
            rw [Map.lookup_insert_if]
            split
            · next same =>
                rw [same, there]
                rfl
            · rfl
          cases contender <;> simp only [Knows, called]

theorem decide_knows {conn : Nat} (taken : s.decide conn = some after) (contender : Contender) :
    after.Knows contender ↔ s.Knows contender := by
  obtain ⟨_, made⟩ := Option.ite_none_right_eq_some.mp taken
  split at made
  case h_3 => cases made
  all_goals
    cases made
    exact knows_congr rfl rfl rfl contender

theorem postStart_knows {id : Nat} {post : Bool} {body : Except String String}
    (taken : s.postStart id post body = some after) (contender : Contender) :
    after.Knows contender ↔ s.Knows contender ∨ (LauncherEvent.postStart id post body).brings = some contender := by
  obtain ⟨⟨_, new⟩, made⟩ := Option.ite_none_right_eq_some.mp taken
  cases made
  cases contender with
  | connection conn => cases post <;> cases body <;> simp [Knows, LauncherEvent.brings]
  | start other jitConfig =>
      simp only [Knows, Map.lookup_insert_if]
      split
      · next same =>
          subst same
          cases post <;> cases body <;> simp [LauncherEvent.brings, new]
          grind
      · next apart =>
          cases post <;> cases body <;> simp [LauncherEvent.brings, Ne.symm apart]

/-- A request that stops to be `received` contends, or has never asked for anything. -/
theorem decode_knows {id : Nat} (taken : s.decode id = some after) (contender : Contender) :
    after.Knows contender ↔ s.Knows contender := by
  simp only [decode] at taken
  split at taken
  · next post body there =>
      cases contender with
      | connection conn =>
          split at taken
          · cases taken
            exact Iff.rfl
          · split at taken <;> cases taken <;> simp [Knows]
      | start other jitConfig =>
          split at taken
          · cases taken
            simp only [Knows, Map.lookup_insert_if]
            grind
          · split at taken <;> cases taken <;> simp only [Knows, Map.lookup_insert_if] <;> grind
  · cases taken

theorem answerStart_knows {id : Nat} (taken : s.answerStart id = some after) (contender : Contender) :
    after.Knows contender ↔ s.Knows contender := by
  simp only [answerStart] at taken
  split at taken
  · next jitConfig there =>
      split at taken
      · cases taken
        cases contender with
        | connection conn => exact Iff.rfl
        | start other config =>
            simp only [Knows, Map.lookup_insert_if]
            grind
      · cases taken
  · cases taken

/-- Known is who has been known, and who comes. -/
theorem step_knows (taken : s.step event = some after) (contender : Contender) :
    after.Knows contender ↔ s.Knows contender ∨ event.brings = some contender := by
  simp only [step] at taken
  split at taken
  · cases taken
  · have nobody {before : WorkerLauncher} (same : after.Knows contender ↔ before.Knows contender) :
        after.Knows contender ↔ before.Knows contender ∨ (none : Option Contender) = some contender := by
      simpa using same
    cases event with
    | listen err => exact nobody (listen_knows taken contender)
    | dial conn => simpa [LauncherEvent.brings] using dial_knows taken contender
    | accept err => exact nobody (accept_knows taken contender)
    | startOnce caller => exact nobody (doOnce_knows taken contender)
    | decide conn => exact nobody (decide_knows taken contender)
    | postStart id post body => exact postStart_knows taken contender
    | decode id => exact nobody (decode_knows taken contender)
    | answerStart id => exact nobody (answerStart_knows taken contender)
    | getWait id | wakeWait id =>
        obtain ⟨_, made⟩ := Option.ite_none_right_eq_some.mp taken
        cases made
        exact nobody (knows_congr rfl rfl rfl contender)
    | wakeMain =>
        obtain ⟨_, made⟩ := Option.ite_none_right_eq_some.mp taken
        cases made
        exact nobody (knows_congr rfl rfl rfl contender)
    | answerWait id =>
        simp only [answerWait] at taken
        split at taken <;> cases taken
        exact nobody (knows_congr rfl rfl rfl contender)
    | signal id =>
        simp only [signal] at taken
        split at taken <;> cases taken
        exact nobody (knows_congr rfl rfl rfl contender)
    | leave timeout =>
        simp only [leave] at taken
        split at taken
        · obtain ⟨_, made⟩ := Option.ite_none_right_eq_some.mp taken
          cases made
          exact nobody (knows_congr rfl rfl rfl contender)
        · cases taken
    | payload index event =>
        simp only [payloadStep] at taken
        split at taken
        · cases taken
        · split at taken <;> cases taken
          exact nobody (knows_congr rfl rfl rfl contender)
    | finish index =>
        simp only [payloadFinish] at taken
        split at taken
        · cases taken
        · split at taken <;> cases taken
          exact nobody (knows_congr rfl rfl rfl contender)

/-- The payload is that of somebody known. -/
theorem Coherent.payload_known (coherent : s.Coherent) {payload : WorkerPayload} (among : payload ∈ s.payloads) :
    s.Knows payload.starter := knows_called (coherent.starter payload among)

/-- Its turn is still to come, or it is inside the guard. -/
inductive Pending (s : WorkerLauncher) : Contender → Prop where
  | queued {conn : Nat} (queued : conn ∈ s.backlog) : Pending s (.connection conn)
  | posted {id : Nat} {jitConfig : String} (posted : s.starts.lookup id = some (.received true (.ok jitConfig))) :
      Pending s (.start id jitConfig)
  | calling {contender : Contender} {call : OnceCall} (calls : s.calls.lookup contender = some call)
      (under : call = .entering ∨ call = .inside) : Pending s contender

/-- Where somebody has got through, a payload has been started or can still be. -/
theorem Coherent.busy (coherent : s.Coherent) (knows : s.Knows contender) :
    s.payloads ≠ [] ∨ s.Pending contender := by
  have called (called : (s.calls.lookup contender).isSome) : s.payloads ≠ [] ∨ s.Pending contender := by
    obtain ⟨call, calls⟩ := Option.isSome_iff_exists.mp called
    cases call with
    | entering => exact .inr (.calling calls (.inl rfl))
    | inside => exact .inr (.calling calls (.inr rfl))
    | returned first =>
        left
        have once := coherent.once
        rw [coherent.guards.returned contender first calls, if_pos rfl] at once
        exact List.ne_nil_of_length_eq_add_one once
  cases contender with
  | connection conn =>
      rcases knows with queued | calls
      · exact .inr (.queued queued)
      · exact called calls
  | start id jitConfig =>
      rcases knows with posted | calls
      · exact .inr (.posted posted)
      · exact called calls

end WorkerLauncher

end RunnersMux

import RunnersMux.Orchestrator.Counters
import RunnersMux.Orchestrator.Jobs

/-! The clients of `HandleAllocate`.

A call of `AllocateWorker` looks at its context only while it waits. A client
that goes away after the claim is not noticed: the rename fails and is logged,
and the container is registered for nobody. The step condition names the moments
at which a client may go.
-/

set_option autoImplicit false

namespace RunnersMux

open Foundations

/-- A request; the name is missing if the body does not decode. -/
structure AllocateRequest where
  method : String
  runnerName : Option RunnerName
  deriving DecidableEq, Repr

/-- The text and the status of an `http.Error`, or an `AllocateResponse`. -/
inductive AllocateReply where
  | error (text : String) (status : Nat)
  | response (workerIP : String) (containerID : ContainerID)
  deriving DecidableEq, Repr

/-- What `HandleAllocate` does before it calls `AllocateWorker`. -/
def AllocateRequest.decode (request : AllocateRequest) : Except AllocateReply RunnerName :=
  if request.method ≠ "POST" then .error (.error "Method not allowed" 405)
  else
    match request.runnerName with
    | none => .error (.error "Invalid payload" 400)
    | some runner => .ok runner

/-- The call whose container a step registers. -/
def Action.registrant {Event Outcome : Type} : Action Event Outcome → Option GoroutineID
  | .register g => some g
  | _ => none

/-- What `HandleAllocate` writes when the call has returned. -/
def Goroutine.reply : Goroutine → Option AllocateReply
  | .allocate _ (.returned candidate) => some (.response candidate.ipAddress candidate.containerID)
  | .allocate _ .cancelled => some (.error "context canceled" 500)
  | _ => none

/-- The other end of a request: its context is cancelled when it is gone. -/
structure Client where
  gone : Bool
  reply : Option AllocateReply
  delivered : Bool
  deriving DecidableEq, Repr

/-- The orchestrator with the requests that it serves, by the goroutine that does. -/
structure Serving (Managers : Type) where
  system : System Managers
  clients : Map GoroutineID Client

inductive ServingEvent (Event Outcome : Type) where
  | handleAllocate (g : GoroutineID) (request : AllocateRequest) (choice : Option ContainerID)
  | disconnect (g : GoroutineID)
  | reply (g : GoroutineID)
  | deliver (g : GoroutineID)
  | system (action : Action Event Outcome)
  deriving DecidableEq, Repr

namespace Serving

variable {Managers Event Outcome : Type}

/-- What the context of a request decides: the wait may end once it is cancelled, and
Docker is not asked any more. Other callers have contexts of their own. -/
def permits (s : Serving Managers) : Action Event Outcome → Bool
  | .cancel g => (s.clients.lookup g).all (·.gone)
  | .rename g (some _) => (s.clients.lookup g).all (!·.gone)
  | _ => true

def step (interfaces : Interfaces Managers Event Outcome) (s : Serving Managers) :
    ServingEvent Event Outcome → Option (Serving Managers)
  | .handleAllocate g request choice =>
      match request.decode with
      | .error _ => some s
      | .ok runner =>
          (System.step interfaces s.system (.allocate g runner choice)).map fun system =>
            { system, clients := s.clients.insert g ⟨false, none, false⟩ }
  | .disconnect g =>
      match s.clients.lookup g with
      | some client =>
          if client.gone = false ∧ client.delivered = false then
            some { s with clients := s.clients.insert g { client with gone := true } }
          else none
      | none => none
  | .reply g =>
      match s.clients.lookup g, (s.system.goroutines.lookup g).bind Goroutine.reply with
      | some client, some reply =>
          -- Nobody reads the error of the write.
          if client.reply = none then
            some { s with clients := s.clients.insert g { client with reply := some reply } }
          else none
      | _, _ => none
  | .deliver g =>
      match s.clients.lookup g with
      | some client =>
          if client.gone = false ∧ client.reply ≠ none then
            some { s with clients := s.clients.insert g { client with delivered := true } }
          else none
      | none => none
  | .system action =>
      if s.permits action then
        (System.step interfaces s.system action).map fun system => { s with system }
      else none

/-- The process has started and no request has come. -/
def Opens (maxWorkers warmWorkers : Int) (managers : Managers) (s : Serving Managers) : Prop :=
  System.Started maxWorkers warmWorkers managers s.system ∧ s.clients = ∅

/-- Nothing is left of a call: it is in no counter, and no container is registered for it. -/
structure Unburdened (state : System Managers) (g : GoroutineID) : Prop where
  withdrawn : state.orchestrator.pendingAllocations =
    System.tally Goroutine.requests (state.goroutines.erase g)
  vacated : ∀ id runner, (state.goroutines.lookup g).bind Goroutine.registered = some (id, runner) →
    id ∉ state.orchestrator.activeWorkers

/-- A client that went before its response arrived leaves nothing behind once the handler is done. -/
def Leakless (s : Serving Managers) : Prop :=
  ∀ g client, s.clients.lookup g = some client → client.gone = true → client.reply ≠ none →
    Unburdened s.system g

/-- No container is registered for a client that has gone, and none goes while a
container is registered for it. -/
def Attended (s : Serving Managers) : ServingEvent Event Outcome → Prop
  | .system action => ∀ g ∈ action.registrant, ∀ client ∈ s.clients.lookup g, client.gone = false
  | .disconnect g => ∀ entry ∈ (s.system.goroutines.lookup g).bind Goroutine.registered,
      entry.1 ∉ s.system.orchestrator.activeWorkers
  | _ => True

instance (s : Serving Managers) : (event : ServingEvent Event Outcome) → Decidable (s.Attended event)
  | .system action => inferInstanceAs (Decidable (∀ g ∈ action.registrant, _))
  | .disconnect g => inferInstanceAs (Decidable (∀ entry ∈ (s.system.goroutines.lookup g).bind Goroutine.registered, _))
  | .handleAllocate .. | .reply _ | .deliver _ => isTrue trivial

/-- What a run keeps. A reply is that of the call, which has returned. -/
structure Waited (s : Serving Managers) : Prop where
  assigned : System.Assigned s.system
  tallied : System.Tallied s.system
  replied : ∀ g client, s.clients.lookup g = some client → client.reply ≠ none →
    (s.system.goroutines.lookup g).bind Goroutine.reply = client.reply
  vacant : ∀ g client, s.clients.lookup g = some client → client.gone = true → ∀ id runner,
    (s.system.goroutines.lookup g).bind Goroutine.registered = some (id, runner) →
      id ∉ s.system.orchestrator.activeWorkers

end Serving

namespace System

variable {Managers Event Outcome : Type} {interfaces : Interfaces Managers Event Outcome}
  {state after : System Managers} {action : Action Event Outcome}

/-- A call that has returned stays as it is. -/
theorem effect_reply (effect : Effect interfaces state action after) {g : GoroutineID} {reply : AllocateReply}
    (replies : (state.goroutines.lookup g).bind Goroutine.reply = some reply) :
    (after.goroutines.lookup g).bind Goroutine.reply = some reply := by
  have resumes := effect_resumes effect g
  generalize state.goroutines.lookup g = old, after.goroutines.lookup g = new at replies resumes
  cases resumes with
  | same => exact replies
  | progresses progress => cases progress <;> cases replies

theorem requests_reply {goroutine : Goroutine} {reply : AllocateReply} (replies : goroutine.reply = some reply) :
    goroutine.requests = 0 := by
  unfold Goroutine.reply at replies
  split at replies
  · rfl
  · rfl
  · cases replies

theorem owns_registered {goroutine : Goroutine} {id : ContainerID} {runner : RunnerName}
    (registered : goroutine.registered = some (id, runner)) : goroutine.owns id = 1 := by
  unfold Goroutine.registered at registered
  split at registered <;> cases registered <;> exact mark_self _

/-- What one call has registered, no other claims. -/
theorem Assigned.registered_unclaimed (assigned : Assigned state) {g h : GoroutineID} {id : ContainerID}
    {runner : RunnerName} (registered : (state.goroutines.lookup g).bind Goroutine.registered = some (id, runner)) :
    ¬state.Claims h id := by
  intro claims
  obtain ⟨goroutine, found, own⟩ := Option.bind_eq_some_iff.mp registered
  -- A registration is one owner of the container and a claim would be the second.
  have owner := Map.found_le_weigh state.goroutines (fun _ => Goroutine.owns id)
    (fun _ => Goroutine.owns_nonneg id) g
  rw [found, Map.found_some, owns_registered own] at owner
  have occupied := claims.occupied
  have warm := state.orchestrator.warmAt_nonneg id
  have once := assigned.once id
  change 1 ≤ state.owned id at owner
  omega

/-- A step that is no registration of the call adds no container of it to `activeWorkers`. -/
theorem effect_vacant (assigned : Assigned state) (effect : Effect interfaces state action after) {g : GoroutineID}
    (other : g ∉ action.registrant)
    (vacant : ∀ id runner, (state.goroutines.lookup g).bind Goroutine.registered = some (id, runner) →
      id ∉ state.orchestrator.activeWorkers) (id : ContainerID) (runner : RunnerName)
    (made : (after.goroutines.lookup g).bind Goroutine.registered = some (id, runner)) :
    id ∉ after.orchestrator.activeWorkers := by
  rcases effect_registers effect made with before | registers
  · intro member
    obtain ⟨worker, active⟩ := Finmap.mem_iff.mp member
    -- An entry appears only by a claim, and nobody claims what this call has registered.
    rcases effect_active effect active with already | ⟨h, claims, _⟩
    · exact vacant id runner before (Finmap.mem_of_lookup_eq_some already)
    · exact assigned.registered_unclaimed before claims
  · subst registers
    exact absurd rfl other

end System

namespace Serving

variable {Managers Event Outcome : Type}

theorem waited_opens {maxWorkers warmWorkers : Int} {managers : Managers} {s : Serving Managers}
    (opens : Opens maxWorkers warmWorkers managers s) : Waited s := by
  obtain ⟨started, nobody⟩ := opens
  refine ⟨System.assigned_booted started, System.tallied_booted started, ?_, ?_⟩
  · intro g client found
    rw [nobody] at found
    cases found
  · intro g client found
    rw [nobody] at found
    cases found

theorem Waited.leakless {s : Serving Managers} (waited : Waited s) : Leakless s := by
  intro g client found gone answered
  constructor
  · obtain ⟨reply, replied⟩ := Option.ne_none_iff_exists'.mp answered
    obtain ⟨goroutine, running, replies⟩ := Option.bind_eq_some_iff.mp
      ((waited.replied g client found answered).trans replied)
    -- A call that has a reply asks for nothing, so the others make up the counter.
    unfold System.tally
    rw [Map.weigh_erase, running, Map.found_some, System.requests_reply replies, Int.sub_zero]
    exact waited.tallied.pending
  · exact waited.vacant g client found gone

/-- A step of the orchestrator; the clients look on. -/
theorem waited_system {interfaces : Interfaces Managers Event Outcome} {s : Serving Managers}
    {system : System Managers} {action : Action Event Outcome} (waited : Waited s)
    (attended : ∀ g ∈ action.registrant, ∀ client ∈ s.clients.lookup g, client.gone = false)
    (taken : System.step interfaces s.system action = some system) : Waited { s with system } := by
  have effect := System.step_effect interfaces taken
  refine ⟨System.assigned_step interfaces waited.assigned effect, System.tallied_step interfaces waited.tallied effect,
    ?_, ?_⟩
  · intro g client found answered
    obtain ⟨reply, replied⟩ := Option.ne_none_iff_exists'.mp answered
    rw [replied]
    exact System.effect_reply effect ((waited.replied g client found answered).trans replied)
  · intro g client found gone
    apply System.effect_vacant waited.assigned effect _ (waited.vacant g client found gone)
    intro registers
    cases gone.symm.trans (attended g registers client found)

/-- A change of one client. -/
theorem Waited.update {s : Serving Managers} {g : GoroutineID} {client : Client} (waited : Waited s)
    (replied : client.reply ≠ none → (s.system.goroutines.lookup g).bind Goroutine.reply = client.reply)
    (vacant : client.gone = true → ∀ id runner,
      (s.system.goroutines.lookup g).bind Goroutine.registered = some (id, runner) →
        id ∉ s.system.orchestrator.activeWorkers) : Waited { s with clients := s.clients.insert g client } where
  assigned := waited.assigned
  tallied := waited.tallied
  replied := Map.forall_insert waited.replied replied
  vacant := Map.forall_insert waited.vacant vacant

theorem waited_step {interfaces : Interfaces Managers Event Outcome} {s after : Serving Managers}
    {event : ServingEvent Event Outcome} (waited : Waited s) (attended : s.Attended event)
    (taken : s.step interfaces event = some after) : Waited after := by
  cases event with
  | handleAllocate g request choice =>
      simp only [step] at taken
      split at taken
      · cases taken
        exact waited
      · obtain ⟨system, allocated, rfl⟩ := Option.map_eq_some_iff.mp taken
        exact (waited_system waited (by simp [Action.registrant]) allocated).update (absurd rfl) nofun
  | disconnect g =>
      simp only [step] at taken
      split at taken
      · next client found =>
          split at taken <;> cases taken
          refine waited.update (waited.replied g client found) ?_
          intro _ id runner registered
          exact attended _ registered
      · cases taken
  | reply g =>
      simp only [step] at taken
      split at taken
      · next client reply found replies =>
          split at taken <;> cases taken
          exact waited.update (fun _ => replies) (waited.vacant g client found)
      · cases taken
  | deliver g =>
      simp only [step] at taken
      split at taken
      · next client found =>
          split at taken <;> cases taken
          exact waited.update (waited.replied g client found) (waited.vacant g client found)
      · cases taken
  | system action =>
      simp only [step] at taken
      split at taken
      · obtain ⟨system, acted, rfl⟩ := Option.map_eq_some_iff.mp taken
        exact waited_system waited attended acted
      · cases taken

/-- A client that goes while its call waits leaks nothing, whatever else happens. -/
theorem client_leaks_nothing (interfaces : Interfaces Managers Event Outcome) (maxWorkers warmWorkers : Int)
    (managers : Managers) (s : Serving Managers)
    (reached : Reaches (step interfaces) (Opens maxWorkers warmWorkers managers) Attended s) : Leakless s := by
  have waited : Waited s := by
    apply reached.invariant
    · intro first opens
      exact waited_opens opens
    · intro earlier event after _ waited attended taken
      exact waited_step waited attended taken
  exact waited.leakless

/-- One warm container and nobody who asks for it. -/
def oneWarm (maxWorkers warmWorkers : Int) : Serving Unit where
  system := System.oneWarm maxWorkers warmWorkers
  clients := ∅

theorem oneWarm_opens (maxWorkers warmWorkers : Int) : Opens maxWorkers warmWorkers () (oneWarm maxWorkers warmWorkers) :=
  ⟨System.oneWarm_started maxWorkers warmWorkers, rfl⟩

/-- The client goes after the claim: the rename fails, the container is registered
and the handler writes its response to nobody. -/
theorem client_leaks : ∃ s, Reaches (step Interfaces.silent) (Opens 1 1 ()) everyStep s ∧ ¬Leakless s := by
  obtain ⟨s, reached, gone, registered, active⟩ : ∃ s, Reaches (step Interfaces.silent) (Opens 1 1 ()) everyStep s ∧
      s.clients.lookup 0 = some ⟨true, some (.response "10.0.0.1" "c1"), false⟩ ∧
      (s.system.goroutines.lookup 0).bind Goroutine.registered = some ("c1", "r") ∧
      "c1" ∈ s.system.orchestrator.activeWorkers := by
    apply Reaches.of_replay (oneWarm_opens 1 1) [.handleAllocate 0 ⟨"POST", some "r"⟩ (some "c1"), .disconnect 0,
      .system (.rename 0 none), .system (.check 0 true), .system (.register 0), .system (.markBusy 0),
      .system (.evaluate 0 ()), .reply 0]
    decide
  exact ⟨s, reached, fun leakless => (leakless 0 _ gone rfl nofun).vacated "c1" "r" registered active⟩

/-- The client goes while the pool is empty, and its request is withdrawn. -/
theorem client_leaks_nothing_waiting : ∃ s : Serving Unit,
    s.clients.lookup 0 = some ⟨true, some (.error "context canceled" 500), false⟩ ∧ Leakless s := by
  obtain ⟨s, reached, gone⟩ : ∃ s, Reaches (step Interfaces.silent) (Opens 1 0 ()) Attended s ∧
      s.clients.lookup 0 = some ⟨true, some (.error "context canceled" 500), false⟩ := by
    apply Reaches.of_replay (oneWarm_opens 1 0) [.handleAllocate 1 ⟨"POST", some "r"⟩ (some "c1"),
      .handleAllocate 0 ⟨"POST", some "r"⟩ none, .disconnect 0, .system (.cancel 0), .reply 0]
    decide
  exact ⟨s, gone, client_leaks_nothing Interfaces.silent 1 0 () s reached⟩

end Serving

end RunnersMux

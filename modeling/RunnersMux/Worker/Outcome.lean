import RunnersMux.Worker.Launcher

/-! One payload and one result.

Whoever comes out of the guard has started the only payload, which calls `finish`
once, with the exit code of what it has come to. Nothing else is ever read.
-/

set_option autoImplicit false

namespace RunnersMux

open Foundations

/-- What the error says is the exit code of the process, and 1 if that is not known. -/
theorem exitCode_waitError (found : Except String WaitStatus) :
    WaitError.exitCode (waitError found) = (PayloadResult.waited found).code := by
  cases found with
  | error text => rfl
  | ok status =>
      simp only [waitError]
      split
      · next ended =>
          subst ended
          rfl
      · rfl

namespace WorkerPayload

/-- The code that it carries to `finish` is that of its result. -/
def Honest (payload : WorkerPayload) : Prop :=
  match payload.phase with
  | .joining code | .finishing code => payload.result.map PayloadResult.code = some code
  | .returned => payload.result.isSome = true
  | _ => True

/-- The argument of its call of `finish`, when it has returned. -/
def reported (payload : WorkerPayload) : Option Int :=
  if payload.phase = .returned then payload.result.map PayloadResult.code else none

variable {payload after : WorkerPayload} {event : PayloadEvent}

theorem reported_eq_none (there : payload.phase ≠ .returned) : payload.reported = none := if_neg there

theorem new_honest (starter : Contender) : (new starter).Honest ∧ (new starter).reported = none := by
  cases starter <;> exact ⟨trivial, rfl⟩

/-- What a step keeps: it is not the step that returns. -/
structure Steps (payload after : WorkerPayload) : Prop where
  honest : after.Honest
  starter : after.starter = payload.starter
  reported : after.reported = payload.reported

/-- A step between two phases, neither of which is the last one. -/
theorem Steps.of_phases (before : payload.phase ≠ .returned) (later : after.phase ≠ .returned) (honest : after.Honest)
    (starter : after.starter = payload.starter) : payload.Steps after :=
  ⟨honest, starter, (reported_eq_none later).trans (reported_eq_none before).symm⟩

theorem fail_steps (there : payload.phase ≠ .returned) : payload.Steps payload.fail :=
  .of_phases there (by simp [fail]) rfl rfl

/-- `cmd.Start`, which both payloads call. -/
theorem start_steps {err : Option String} (here : payload.phase = .spawning)
    (made : (match err with
      | some _ => some payload.fail
      | none => some { payload with phase := .running }) = some after) : payload.Steps after := by
  have there : payload.phase ≠ .returned := by simp [here]
  cases err with
  | some err =>
      cases made
      exact fail_steps there
  | none =>
      cases made
      exact .of_phases there (by simp) trivial rfl

theorem standalone_steps (honest : payload.Honest) (taken : payload.runStandaloneWorker event = some after) :
    payload.Steps after := by
  cases event with
  | readFramedHeader result =>
      obtain ⟨here, made⟩ := Option.ite_none_right_eq_some.mp taken
      cases result with
      | error err =>
          cases made
          exact fail_steps (by simp [here])
      | ok header =>
          cases made
          by_cases empty : header.configFiles.getD ∅ = ∅ <;>
            exact .of_phases (by simp [here]) (by simp [empty]) (by simp [Honest, empty]) rfl
  | writeConfigFiles result =>
      obtain ⟨here, made⟩ := Option.ite_none_right_eq_some.mp taken
      cases result with
      | error err =>
          cases made
          exact fail_steps (by simp [here])
      | ok done =>
          cases made
          exact .of_phases (by simp [here]) (by simp) trivial rfl
  | pipe err =>
      simp only [runStandaloneWorker] at taken
      split at taken
      · next here =>
          cases taken
          exact fail_steps (by simp [here])
      · next here =>
          cases taken
          exact fail_steps (by simp [here])
      · next here =>
          cases taken
          exact .of_phases (by simp [here]) (by simp) trivial rfl
      · next here =>
          cases taken
          exact .of_phases (by simp [here]) (by simp) trivial rfl
      · cases taken
  | start err =>
      obtain ⟨here, made⟩ := Option.ite_none_right_eq_some.mp taken
      exact start_steps here made
  | wait found =>
      obtain ⟨here, made⟩ := Option.ite_none_right_eq_some.mp taken
      cases made
      exact .of_phases (by simp [here]) (by simp) (by simp [Honest, exitCode_waitError]) rfl
  | copied =>
      obtain ⟨_, made⟩ := Option.ite_none_right_eq_some.mp taken
      cases made
      exact ⟨honest, rfl, rfl⟩
  | join =>
      simp only [runStandaloneWorker] at taken
      split at taken
      · next exitCode here =>
          obtain ⟨_, made⟩ := Option.ite_none_right_eq_some.mp taken
          cases made
          simp only [Honest, here] at honest
          exact .of_phases (by simp [here]) (by simp) honest rfl
      · cases taken

theorem jit_steps (taken : payload.runJITWorker event = some after) : payload.Steps after := by
  cases event with
  | start err =>
      obtain ⟨here, made⟩ := Option.ite_none_right_eq_some.mp taken
      exact start_steps here made
  | wait found =>
      obtain ⟨here, made⟩ := Option.ite_none_right_eq_some.mp taken
      cases made
      exact .of_phases (by simp [here]) (by simp) (by simp [Honest, exitCode_waitError]) rfl
  | _ => simp [runJITWorker] at taken

theorem step_steps (honest : payload.Honest) (taken : payload.step event = some after) : payload.Steps after := by
  simp only [step] at taken
  split at taken
  · exact standalone_steps honest taken
  · exact jit_steps taken

end WorkerPayload

/-- The exit code that a request has read. -/
def WaitRequest.code : WaitRequest → Option Int
  | .waiting => none
  | .read exitCode | .answered exitCode | .signalled exitCode => some exitCode

namespace WorkerLauncher

/-- Its `Do` has been called, and what follows it is still to come. -/
def AtHand (s : WorkerLauncher) : Contender → Prop
  | .connection conn => s.acceptLoop = .handling conn
  | .start id jitConfig => s.starts.lookup id = some (.contending jitConfig)

def Refused (s : WorkerLauncher) : Contender → Prop
  | .connection conn => conn ∈ s.closed
  | .start id _ => s.starts.lookup id = some (.answered 409)

def Served (s : WorkerLauncher) : Contender → Prop
  | .connection _ => s.acceptLoop = .stopped
  | .start id _ => s.starts.lookup id = some (.answered 200)

/-- How the threads of a launcher agree. -/
structure Coherent (s : WorkerLauncher) : Prop where
  guards : s.startOnce.Guards s.calls
  apart : s.backlog.Nodup
  waiting : ∀ conn ∈ s.backlog, s.calls.lookup (.connection conn) = none
  dealt : ∀ contender call, s.calls.lookup contender = some call →
    s.AtHand contender ∨ call = .returned false ∧ s.Refused contender ∨ call = .returned true ∧ s.Served contender
  hand : ∀ contender, s.AtHand contender → ∃ call, s.calls.lookup contender = some call
  refused : ∀ conn ∈ s.closed, s.calls.lookup (.connection conn) = some (.returned false)
  started : ∀ id, s.starts.lookup id = some (.answered 200) →
    ∃ jitConfig, s.calls.lookup (.start id jitConfig) = some (.returned true)
  once : s.payloads.length = if s.startOnce = .done then 1 else 0
  starter : ∀ payload ∈ s.payloads, s.calls.lookup payload.starter = some (.returned true)
  honest : ∀ payload ∈ s.payloads, payload.Honest
  finishes : s.finishes = s.payloads.filterMap WorkerPayload.reported
  result : s.finishes = if s.finished = true then [s.exitCode] else []
  waits : ∀ id request code, s.waits.lookup id = some request → request.code = some code → s.finishes = [code]
  leaving : ∀ code, s.main = .leaving code → s.finishes = [code]
  exited : ∀ status, s.main = .exited status → ∃ code, s.finishes = [code] ∧ status = exitStatus code

theorem new_coherent : new.Coherent := by
  constructor
  case hand =>
    intro contender
    cases contender <;> simp [new, AtHand]
  all_goals simp [new, Once.Guards.new]

variable {s after : WorkerLauncher}

namespace Coherent

theorem finished (coherent : s.Coherent) (done : s.finished = true) : s.finishes = [s.exitCode] := by
  simpa [done] using coherent.result

theorem listen {err : Option String} (coherent : s.Coherent) (taken : s.listen err = some after) : after.Coherent := by
  simp only [WorkerLauncher.listen] at taken
  split at taken
  case h_5 => cases taken
  all_goals
    cases taken
    exact { coherent with leaving := by simp, exited := by simp }

theorem dial {conn : Nat} (coherent : s.Coherent) (taken : s.dial conn = some after) : after.Coherent := by
  obtain ⟨⟨_, new, unknown⟩, made⟩ := Option.ite_none_right_eq_some.mp taken
  cases made
  refine { coherent with apart := ?_, waiting := ?_ }
  · exact List.Nodup.append coherent.apart (List.nodup_singleton conn) (by simpa using new)
  · intro other queued
    rcases List.mem_append.mp queued with old | own
    · exact coherent.waiting other old
    · rw [List.mem_singleton.mp own]
      exact unknown

/-- A call that begins leaves the others where they are. -/
theorem lookup_enter {contender other : Contender} {call : OnceCall} (absent : s.calls.lookup contender = none)
    (found : s.calls.lookup other = some call) : (s.calls.insert contender .entering).lookup other = some call := by
  have apart : other ≠ contender := by
    rintro rfl
    simp [absent] at found
  simpa [Map.lookup_insert_if, apart] using found

theorem accept {err : Option String} (coherent : s.Coherent) (taken : s.accept err = some after) : after.Coherent := by
  obtain ⟨⟨_, free⟩, made⟩ := Option.ite_none_right_eq_some.mp taken
  cases err with
  | some err =>
      cases made
      exact coherent
  | none =>
      simp only at made
      split at made
      · cases made
      · next conn backlog queued =>
          cases made
          have apart := coherent.apart
          have waiting := coherent.waiting
          simp only [queued, List.nodup_cons, List.forall_mem_cons] at apart waiting
          have kept {other : Contender} {call : OnceCall} (found : s.calls.lookup other = some call) := lookup_enter waiting.1 found
          exact {
            coherent with
            guards := coherent.guards.enter waiting.1
            apart := apart.2
            waiting := fun other queued => by
              have different : other ≠ conn := fun same => apart.1 (same ▸ queued)
              simpa [Map.lookup_insert_if, different] using waiting.2 other queued
            dealt := fun contender call found => by
              rcases Map.lookup_of_insert found with ⟨rfl, _⟩ | ⟨_, old⟩
              · exact .inl rfl
              · cases contender with
                | connection other =>
                    rcases coherent.dealt _ call old with busy | closed | ⟨_, stopped⟩
                    · simp [AtHand, free] at busy
                    · exact .inr (.inl closed)
                    · simp [Served, free] at stopped
                | start id jitConfig => exact coherent.dealt _ call old
            refused := fun other closed => kept (coherent.refused other closed)
            hand := fun contender busy => by
              cases contender with
              | connection other =>
                  cases busy
                  exact ⟨.entering, by simp⟩
              | start id jitConfig => exact (coherent.hand (.start id jitConfig) busy).imp fun _ => kept
            started := fun id answered => (coherent.started id answered).imp fun _ => kept
            starter := fun payload among => kept (coherent.starter payload among) }

theorem doOnce {contender : Contender} (coherent : s.Coherent) (taken : s.doOnce contender = some after) :
    after.Coherent := by
  simp only [WorkerLauncher.doOnce] at taken
  split at taken
  · cases taken
  · next call there =>
      split at taken
      · cases taken
      · next startOnce next went =>
          cases taken
          have own : (s.calls.insert contender next).lookup contender = some next := by simp
          have others {other : Contender} {first : Bool} (found : s.calls.lookup other = some (.returned first)) :=
            Once.lookup_returned there went found
          have members {payload : WorkerPayload}
              (among : payload ∈ if next = .returned true then s.payloads ++ [.new contender] else s.payloads) :
              payload ∈ s.payloads ∨ next = .returned true ∧ payload = .new contender := by
            split at among
            · next first => simpa [first] using among
            · exact .inl among
          exact {
            coherent with
            guards := coherent.guards.step there went
            waiting := fun conn queued => by
              have absent := coherent.waiting conn queued
              have apart : .connection conn ≠ contender := by
                rintro rfl
                simp [absent] at there
              simpa [Map.lookup_insert_if, apart] using absent
            dealt := fun other call' found => by
              rcases Map.lookup_of_insert found with ⟨rfl, _⟩ | ⟨_, old⟩
              · refine .inl ((coherent.dealt other call there).resolve_right ?_)
                rintro (⟨returned, _⟩ | ⟨returned, _⟩)
                · exact Once.ne_returned went _ returned
                · exact Once.ne_returned went _ returned
              · exact coherent.dealt other call' old
            hand := fun other busy => by
              by_cases same : other = contender
              · exact ⟨next, same ▸ own⟩
              · simpa [Map.lookup_insert_if, same] using coherent.hand other busy
            refused := fun conn closed => others (coherent.refused conn closed)
            started := fun id answered => (coherent.started id answered).imp fun _ => others
            once := by
              have before := coherent.once
              obtain ⟨_, fresh, rfl, rfl⟩ | ⟨_, done, rfl, rfl⟩ | ⟨rfl, rfl, rfl⟩ := Once.step_cases went
              · simpa [fresh] using before
              · simpa [done] using before
              · simpa [coherent.guards.inside contender there] using before
            starter := fun payload among => by
              rcases members among with old | ⟨first, rfl⟩
              · exact others (coherent.starter payload old)
              · exact own.trans (congrArg some first)
            honest := fun payload among => by
              rcases members among with old | ⟨_, rfl⟩
              · exact coherent.honest payload old
              · exact (WorkerPayload.new_honest contender).1
            finishes := by
              rw [coherent.finishes]
              split
              · simp [(WorkerPayload.new_honest contender).2]
              · rfl }

theorem decide {conn : Nat} (coherent : s.Coherent) (taken : s.decide conn = some after) : after.Coherent := by
  obtain ⟨busy, made⟩ := Option.ite_none_right_eq_some.mp taken
  -- The loop has one connection at hand, and has closed all the others.
  have others {other : Nat} {call : OnceCall} (apart : other ≠ conn)
      (found : s.calls.lookup (.connection other) = some call) : call = .returned false ∧ other ∈ s.closed := by
    rcases coherent.dealt _ call found with hand | refused | ⟨_, stopped⟩
    · simp [AtHand, busy, Ne.symm apart] at hand
    · exact refused
    · simp [Served, busy] at stopped
  split at made
  · next lost =>
      cases made
      refine { coherent with dealt := ?_, hand := ?_, refused := ?_ }
      · intro contender call found
        cases contender with
        | connection other =>
            by_cases own : other = conn
            · subst own
              cases lost.symm.trans found
              exact .inr (.inl ⟨rfl, List.mem_append_right _ (List.mem_singleton_self _)⟩)
            · exact .inr (.inl ((others own found).imp_right (List.mem_append_left _)))
        | start id jitConfig => exact coherent.dealt _ call found
      · intro contender hand
        cases contender with
        | connection other => cases hand
        | start id jitConfig => exact coherent.hand (.start id jitConfig) hand
      · simp only [List.forall_mem_append, List.forall_mem_singleton]
        exact ⟨coherent.refused, lost⟩
  · next won =>
      cases made
      refine { coherent with dealt := ?_, hand := ?_ }
      · intro contender call found
        cases contender with
        | connection other =>
            by_cases own : other = conn
            · subst own
              cases won.symm.trans found
              exact .inr (.inr ⟨rfl, rfl⟩)
            · exact .inr (.inl (others own found))
        | start id jitConfig => exact coherent.dealt _ call found
      · intro contender hand
        cases contender with
        | connection other => cases hand
        | start id jitConfig => exact coherent.hand (.start id jitConfig) hand
  · cases made

/-- A request that has not been decoded does not contend. -/
theorem uncalled (id : Nat) (coherent : s.Coherent)
    (undecoded : ∀ request, s.starts.lookup id = some request → ∃ post body, request = .received post body)
    (jitConfig : String) : s.calls.lookup (.start id jitConfig) = none := by
  cases found : s.calls.lookup (.start id jitConfig) with
  | none => rfl
  | some call =>
      rcases coherent.dealt _ call found with there | ⟨_, there⟩ | ⟨_, there⟩ <;>
        · obtain ⟨post, body, same⟩ := undecoded _ there
          cases same

/-- It goes on without contending. -/
theorem setStart {id : Nat} {request : StartRequest} (coherent : s.Coherent)
    (none : ∀ jitConfig, s.calls.lookup (.start id jitConfig) = none)
    (aside : ∀ jitConfig, request ≠ .contending jitConfig) (refused : request ≠ .answered 200) :
    { s with starts := s.starts.insert id request }.Coherent := by
  refine { coherent with dealt := ?_, hand := ?_, started := ?_ }
  · intro contender call found
    cases contender with
    | connection conn => exact coherent.dealt _ call found
    | start other jitConfig =>
        have apart : other ≠ id := by
          rintro rfl
          simp [none] at found
        simpa [AtHand, Refused, Served, Map.lookup_insert_if, apart] using coherent.dealt _ call found
  · intro contender hand
    cases contender with
    | connection conn => exact coherent.hand (.connection conn) hand
    | start other jitConfig =>
        rcases Map.lookup_of_insert hand with ⟨_, own⟩ | ⟨_, old⟩
        · exact absurd own (aside jitConfig)
        · exact coherent.hand (.start other jitConfig) old
  · intro other there
    rcases Map.lookup_of_insert there with ⟨_, own⟩ | ⟨_, old⟩
    · exact absurd own refused
    · exact coherent.started other old

theorem postStart {id : Nat} {post : Bool} {body : Except String String} (coherent : s.Coherent)
    (taken : s.postStart id post body = some after) : after.Coherent := by
  obtain ⟨⟨_, new⟩, made⟩ := Option.ite_none_right_eq_some.mp taken
  cases made
  have none := uncalled id coherent fun request there => by simp [new] at there
  exact coherent.setStart none (by simp) (by simp)

theorem contend {id : Nat} {jitConfig : String} (coherent : s.Coherent)
    (none : ∀ jitConfig, s.calls.lookup (.start id jitConfig) = none) :
    { s with
      starts := s.starts.insert id (.contending jitConfig)
      calls := s.calls.insert (.start id jitConfig) .entering }.Coherent := by
  have kept {other : Contender} {call : OnceCall} (found : s.calls.lookup other = some call) :=
    lookup_enter (none jitConfig) found
  have elsewhere {other : Nat} {config : String} {call : OnceCall} (found : s.calls.lookup (.start other config) = some call) :
      other ≠ id := by
    rintro rfl
    simp [none] at found
  exact {
    coherent with
    guards := coherent.guards.enter (none jitConfig)
    waiting := fun conn queued => by simpa [Map.lookup_insert_if] using coherent.waiting conn queued
    dealt := fun contender call found => by
      rcases Map.lookup_of_insert found with ⟨rfl, _⟩ | ⟨_, old⟩
      · exact .inl (by simp [AtHand])
      · cases contender with
        | connection conn => exact coherent.dealt _ call old
        | start other config =>
            simpa [AtHand, Refused, Served, Map.lookup_insert_if, elsewhere old] using coherent.dealt _ call old
    hand := fun contender hand => by
      cases contender with
      | connection conn => exact (coherent.hand (.connection conn) hand).imp fun _ => kept
      | start other config =>
          rcases Map.lookup_of_insert hand with ⟨rfl, own⟩ | ⟨_, old⟩
          · cases own
            exact ⟨.entering, by simp⟩
          · exact (coherent.hand (.start other config) old).imp fun _ => kept
    refused := fun conn closed => kept (coherent.refused conn closed)
    started := fun other there => by
      rcases Map.lookup_of_insert there with ⟨_, own⟩ | ⟨_, old⟩
      · cases own
      · exact (coherent.started other old).imp fun _ => kept
    starter := fun payload among => kept (coherent.starter payload among) }

theorem decode {id : Nat} (coherent : s.Coherent) (taken : s.decode id = some after) : after.Coherent := by
  simp only [WorkerLauncher.decode] at taken
  split at taken
  · next post body there =>
      have none := uncalled id coherent fun request found => ⟨post, body, Option.some.inj (found.symm.trans there)⟩
      split at taken
      · cases taken
        exact coherent.setStart none (by simp) (by simp)
      · split at taken
        · cases taken
          exact coherent.setStart none (by simp) (by simp)
        · cases taken
          exact coherent.contend none
  · cases taken

theorem answerStart {id : Nat} (coherent : s.Coherent) (taken : s.answerStart id = some after) : after.Coherent := by
  simp only [WorkerLauncher.answerStart] at taken
  split at taken
  · next jitConfig there =>
      split at taken
      · next startedHere returned =>
          cases taken
          refine { coherent with dealt := ?_, hand := ?_, started := ?_ }
          · intro contender call found
            cases contender with
            | connection conn => exact coherent.dealt _ call found
            | start other config =>
                have dealt := coherent.dealt _ call found
                by_cases own : other = id
                · subst own
                  simp only [AtHand, Refused, Served, there] at dealt
                  -- Only one config of a request contends.
                  rcases dealt with still | ⟨_, answered⟩ | ⟨_, answered⟩
                  · cases still
                    cases returned.symm.trans found
                    cases startedHere <;> simp [AtHand, Refused, Served]
                  · cases answered
                  · cases answered
                · simpa [AtHand, Refused, Served, Map.lookup_insert_if, own] using dealt
          · intro contender hand
            cases contender with
            | connection conn => exact coherent.hand (.connection conn) hand
            | start other config =>
                rcases Map.lookup_of_insert hand with ⟨_, own⟩ | ⟨_, old⟩
                · cases own
                · exact coherent.hand (.start other config) old
          · intro other found
            rcases Map.lookup_of_insert found with ⟨rfl, own⟩ | ⟨_, old⟩
            · cases startedHere with
              | true => exact ⟨jitConfig, returned⟩
              | false => simp at own
            · exact coherent.started other old
      · cases taken
  · cases taken

/-- A request to `/wait` goes on with what `finish` has been called with. -/
theorem setWait {id : Nat} {request : WaitRequest} (coherent : s.Coherent)
    (reads : ∀ code, request.code = some code → s.finishes = [code]) :
    { s with waits := s.waits.insert id request }.Coherent := by
  refine { coherent with waits := fun other entry code found has => ?_ }
  rcases Map.lookup_of_insert found with ⟨_, rfl⟩ | ⟨_, old⟩
  · exact reads code has
  · exact coherent.waits other entry code old has

theorem getWait {id : Nat} (coherent : s.Coherent) (taken : s.getWait id = some after) : after.Coherent := by
  obtain ⟨_, made⟩ := Option.ite_none_right_eq_some.mp taken
  cases made
  exact coherent.setWait (by simp [WaitRequest.code])

theorem wakeWait {id : Nat} (coherent : s.Coherent) (taken : s.wakeWait id = some after) : after.Coherent := by
  obtain ⟨⟨_, done⟩, made⟩ := Option.ite_none_right_eq_some.mp taken
  cases made
  exact coherent.setWait (by simp [WaitRequest.code, coherent.finished done])

theorem answerWait {id : Nat} (coherent : s.Coherent) (taken : s.answerWait id = some after) : after.Coherent := by
  simp only [WorkerLauncher.answerWait] at taken
  split at taken
  · next exitCode there =>
      cases taken
      exact coherent.setWait (coherent.waits id (.read exitCode) · there)
  · cases taken

theorem signal {id : Nat} (coherent : s.Coherent) (taken : s.signal id = some after) : after.Coherent := by
  simp only [WorkerLauncher.signal] at taken
  split at taken
  · next exitCode there =>
      cases taken
      have onward : { s with waits := s.waits.insert id (.signalled exitCode) }.Coherent :=
        coherent.setWait (coherent.waits id (.answered exitCode) · there)
      exact { onward with }
  · cases taken

/-- A payload that there is is the only one. -/
theorem only {index : Nat} {payload : WorkerPayload} (coherent : s.Coherent) (there : s.payloads[index]? = some payload) :
    s.payloads = [payload] ∧ index = 0 := by
  have once := coherent.once
  cases payloads : s.payloads with
  | nil => simp [payloads] at there
  | cons first rest =>
      have alone : rest = [] := by
        rw [payloads, List.length_cons] at once
        split at once
        · simpa using once
        · omega
      subst alone
      cases index with
      | zero => simpa [payloads] using there
      | succ index => simp [payloads] at there

theorem payloadStep {index : Nat} {event : PayloadEvent} (coherent : s.Coherent)
    (taken : s.payloadStep index event = some after) : after.Coherent := by
  simp only [WorkerLauncher.payloadStep] at taken
  split at taken
  · cases taken
  · next payload there =>
      split at taken
      · cases taken
      · next stepped went =>
          cases taken
          obtain ⟨alone, rfl⟩ := coherent.only there
          have honest := coherent.honest payload (by simp [alone])
          have steps := WorkerPayload.step_steps honest went
          refine { coherent with once := ?_, starter := ?_, honest := ?_, finishes := ?_ }
          · simpa using coherent.once
          · have started := coherent.starter payload (by simp [alone])
            rw [← steps.starter] at started
            simpa [alone] using started
          · simpa [alone] using steps.honest
          · have finishes := coherent.finishes
            simp only [alone, List.filterMap_cons] at finishes
            simp only [alone, List.set_cons_zero, List.filterMap_cons, steps.reported]
            exact finishes

theorem payloadFinish {index : Nat} (coherent : s.Coherent) (taken : s.payloadFinish index = some after) :
    after.Coherent := by
  simp only [WorkerLauncher.payloadFinish] at taken
  split at taken
  · cases taken
  · next payload there =>
      split at taken
      · next code here =>
          cases taken
          obtain ⟨alone, rfl⟩ := coherent.only there
          have honest := coherent.honest payload (by simp [alone])
          simp only [WorkerPayload.Honest, here] at honest
          -- Before its call of finish nothing has been reported, and so nothing has been read.
          have silent : s.finishes = [] := by
            simp [coherent.finishes, alone, WorkerPayload.reported, here]
          have unread (code : Int) : s.finishes ≠ [code] := by simp [silent]
          refine { coherent with
            once := ?_, starter := ?_, honest := ?_, finishes := ?_, result := ?_, waits := ?_, leaving := ?_, exited := ?_ }
          · exact List.length_set.trans coherent.once
          · have started := coherent.starter payload (by simp [alone])
            simpa [WorkerLauncher.finish, alone] using started
          · simp only [WorkerLauncher.finish, alone, List.set_cons_zero, List.forall_mem_singleton]
            have known := congrArg Option.isSome honest
            simpa [WorkerPayload.Honest] using known
          · simp [WorkerLauncher.finish, alone, silent, WorkerPayload.reported, honest]
          · simp [WorkerLauncher.finish, silent]
          · intro other request read found reads
            exact absurd (coherent.waits other request read found reads) (unread read)
          · intro read there
            exact absurd (coherent.leaving read there) (unread read)
          · intro status there
            obtain ⟨read, has, _⟩ := coherent.exited status there
            exact absurd has (unread read)
      · cases taken

theorem wakeMain (coherent : s.Coherent) (taken : s.wakeMain = some after) : after.Coherent := by
  obtain ⟨⟨_, done⟩, made⟩ := Option.ite_none_right_eq_some.mp taken
  cases made
  refine { coherent with leaving := fun code own => ?_, exited := by simp }
  cases own
  exact coherent.finished done

theorem leave {timeout : Bool} (coherent : s.Coherent) (taken : s.leave timeout = some after) : after.Coherent := by
  simp only [WorkerLauncher.leave] at taken
  split at taken
  · next exitCode there =>
      obtain ⟨_, made⟩ := Option.ite_none_right_eq_some.mp taken
      cases made
      refine { coherent with leaving := by simp, exited := fun status own => ?_ }
      cases own
      exact ⟨exitCode, coherent.leaving exitCode there, rfl⟩
  · cases taken

theorem step {event : LauncherEvent} (coherent : s.Coherent) (taken : s.step event = some after) : after.Coherent := by
  simp only [WorkerLauncher.step] at taken
  split at taken
  · cases taken
  · cases event with
    | listen err => exact coherent.listen taken
    | dial conn => exact coherent.dial taken
    | accept err => exact coherent.accept taken
    | startOnce contender => exact coherent.doOnce taken
    | decide conn => exact coherent.decide taken
    | postStart id post body => exact coherent.postStart taken
    | decode id => exact coherent.decode taken
    | answerStart id => exact coherent.answerStart taken
    | getWait id => exact coherent.getWait taken
    | wakeWait id => exact coherent.wakeWait taken
    | answerWait id => exact coherent.answerWait taken
    | signal id => exact coherent.signal taken
    | payload index event => exact coherent.payloadStep taken
    | finish index => exact coherent.payloadFinish taken
    | wakeMain => exact coherent.wakeMain taken
    | leave timeout => exact coherent.leave taken

end Coherent

theorem reached_coherent (reached : Reaches step (· = new) everyStep s) : s.Coherent := by
  apply reached.invariant
  · rintro _ rfl
    exact new_coherent
  · intro state event next _ coherent _ taken
    exact coherent.step taken

/-- What is true of a worker container. -/
structure OneResult (s : WorkerLauncher) : Prop where
  once : s.payloads.length ≤ 1
  /-- A contender that has been dealt with is refused if it is another one than that of the payload. -/
  refused : ∀ contender call, s.calls.lookup contender = some call → ¬s.AtHand contender →
    (s.Refused contender ↔ ∀ payload ∈ s.payloads, payload.starter ≠ contender)
  accepted : ∀ id, s.starts.lookup id = some (.answered 200) →
    ∃ jitConfig, ∃ payload ∈ s.payloads, payload.starter = .start id jitConfig
  /-- No connection is accepted after the one of the payload. -/
  stopped : ∀ payload ∈ s.payloads, ∀ conn, payload.starter = .connection conn →
    s.acceptLoop = .handling conn ∨ s.acceptLoop = .stopped
  /-- A payload that has returned has called `finish` once, and nobody else has called it. -/
  finishes : s.finishes = s.payloads.filterMap WorkerPayload.reported
  returned : ∀ payload ∈ s.payloads, payload.phase = .returned →
    ∃ result, payload.result = some result ∧ s.finishes = [result.code]
  waits : ∀ id request code, s.waits.lookup id = some request → request.code = some code → s.finishes = [code]
  status : ∀ status, s.main = .exited status → ∃ code, s.finishes = [code] ∧ status = exitStatus code

/-- A contender that has been dealt with has come back from its `Do`, and is refused if it was not let in. -/
theorem Coherent.settled {contender : Contender} {call : OnceCall} (coherent : s.Coherent)
    (known : s.calls.lookup contender = some call) (done : ¬s.AtHand contender) :
    call = .returned false ∧ s.Refused contender ∨ call = .returned true ∧ ¬s.Refused contender := by
  rcases coherent.dealt contender call known with hand | refused | ⟨returned, served⟩
  · exact absurd hand done
  · exact .inl refused
  · refine .inr ⟨returned, fun refused => ?_⟩
    subst returned
    cases contender with
    | connection conn => cases known.symm.trans (coherent.refused conn refused)
    | start id jitConfig =>
        simp only [Served, Refused] at served refused
        cases served.symm.trans refused

/-- Whoever has been let in has started the payload. -/
theorem Coherent.first {contender : Contender} (coherent : s.Coherent)
    (first : s.calls.lookup contender = some (.returned true)) : ∃ payload ∈ s.payloads, payload.starter = contender := by
  have once := coherent.once
  simp only [coherent.guards.returned contender true first, if_true] at once
  obtain ⟨payload, alone⟩ := List.length_eq_one_iff.mp once
  have among : payload ∈ s.payloads := by simp [alone]
  exact ⟨payload, among, coherent.guards.first payload.starter contender (coherent.starter payload among) first⟩

theorem Coherent.oneResult (coherent : s.Coherent) : s.OneResult := by
  have once := coherent.once
  refine ⟨?_, ?_, fun id answered => (coherent.started id answered).imp fun _ => coherent.first, ?_, coherent.finishes, ?_,
    coherent.waits, coherent.exited⟩
  · split at once <;> omega
  · intro contender call known done
    rcases coherent.settled known done with ⟨returned, refused⟩ | ⟨returned, served⟩
    · subst returned
      refine iff_of_true refused fun payload among own => ?_
      cases known.symm.trans (own ▸ coherent.starter payload among)
    · subst returned
      obtain ⟨payload, among, own⟩ := coherent.first known
      exact iff_of_false served fun others => others payload among own
  · intro payload among conn own
    have first := coherent.starter payload among
    rw [own] at first
    rcases coherent.dealt _ _ first with busy | ⟨returned, _⟩ | ⟨_, stopped⟩
    · exact .inl busy
    · cases returned
    · exact .inr stopped
  · intro payload among returned
    obtain ⟨index, _, there⟩ := List.getElem_of_mem among
    obtain ⟨alone, _⟩ := coherent.only (List.getElem?_eq_some_iff.mpr ⟨_, there⟩)
    have honest := coherent.honest payload among
    simp only [WorkerPayload.Honest, returned] at honest
    obtain ⟨result, has⟩ := Option.isSome_iff_exists.mp honest
    exact ⟨result, has, by simp [coherent.finishes, alone, WorkerPayload.reported, returned, has]⟩

/-- The steps of contenders, from their `Do` to what follows it. -/
def Contends : WorkerLauncher → LauncherEvent → Prop
  | _, .startOnce _ | _, .decide _ | _, .answerStart _ => True
  | _, _ => False

/-- The steps of contenders can bring it to its end. -/
def Settles (s : WorkerLauncher) (contender : Contender) : Prop :=
  ∃ after, Reaches step (· = s) Contends after ∧ ¬after.AtHand contender

variable {contender : Contender}

theorem Settles.of_step {event : LauncherEvent} (taken : s.step event = some after) (own : s.Contends event)
    (later : after.Settles contender) : s.Settles contender := by
  obtain ⟨last, reached, done⟩ := later
  exact ⟨last, Reaches.trans (.next (.start rfl) own taken) reached, done⟩

theorem settles_returned {first : Bool} (here : s.gone = false) (hand : s.AtHand contender)
    (returned : s.calls.lookup contender = some (.returned first)) : s.Settles contender := by
  cases contender with
  | connection conn =>
      simp only [AtHand] at hand
      obtain ⟨after, taken, done⟩ : ∃ after, s.step (.decide conn) = some after ∧ ¬after.AtHand (.connection conn) := by
        cases first <;> simp [step, here, decide, hand, returned, AtHand]
      exact ⟨after, .next (.start rfl) (by trivial) taken, done⟩
  | start id jitConfig =>
      simp only [AtHand] at hand
      obtain ⟨after, taken, done⟩ : ∃ after, s.step (.answerStart id) = some after ∧ ¬after.AtHand (.start id jitConfig) := by
        simp [step, here, answerStart, hand, returned, AtHand]
      exact ⟨after, .next (.start rfl) (by trivial) taken, done⟩

/-- One step of a `Do`, which is about the guard and its calls only. -/
theorem step_startOnce {call next : OnceCall} {startOnce : Once Contender} (here : s.gone = false)
    (there : s.calls.lookup contender = some call) (went : s.startOnce.step contender call = some (startOnce, next)) :
    ∃ after, s.step (.startOnce contender) = some after ∧ after.gone = false ∧ after.startOnce = startOnce ∧
      after.calls = s.calls.insert contender next ∧ ∀ other, s.AtHand other → after.AtHand other := by
  simp only [step, here, doOnce, there, went]
  refine ⟨_, rfl, here, rfl, rfl, fun other hand => ?_⟩
  cases other <;> exact hand

theorem settles_inside (here : s.gone = false) (hand : s.AtHand contender)
    (inside : s.calls.lookup contender = some .inside) : s.Settles contender := by
  obtain ⟨after, taken, still, _, calls, kept⟩ := step_startOnce here inside rfl
  have returned : after.calls.lookup contender = some (.returned true) := by simp [calls]
  exact .of_step taken trivial (settles_returned still (kept contender hand) returned)

theorem settles_done (here : s.gone = false) (hand : s.AtHand contender) (done : s.startOnce = .done)
    (entering : s.calls.lookup contender = some .entering) : s.Settles contender := by
  obtain ⟨after, taken, still, _, calls, kept⟩ := step_startOnce here entering (by rw [done]; rfl)
  have returned : after.calls.lookup contender = some (.returned false) := by simp [calls]
  exact .of_step taken trivial (settles_returned still (kept contender hand) returned)

/-- Whoever waits for the guard waits for a contender that can go on. -/
theorem Coherent.settles (coherent : s.Coherent) (here : s.gone = false) (hand : s.AtHand contender) :
    s.Settles contender := by
  obtain ⟨call, there⟩ := coherent.hand contender hand
  cases call with
  | returned first => exact settles_returned here hand there
  | inside => exact settles_inside here hand there
  | entering =>
      cases guard : s.startOnce with
      | fresh =>
          obtain ⟨after, taken, still, _, calls, kept⟩ := step_startOnce here there (by rw [guard]; rfl)
          exact .of_step taken trivial (settles_inside still (kept contender hand) (by simp [calls]))
      | running other =>
          have inside := coherent.guards.running other guard
          have apart : contender ≠ other := by
            rintro rfl
            cases there.symm.trans inside
          obtain ⟨after, taken, still, done, calls, kept⟩ := step_startOnce here inside rfl
          refine .of_step taken trivial (settles_done still (kept contender hand) done ?_)
          simpa [calls, Map.lookup_insert_if, apart] using there
      | done => exact settles_done here hand guard there

/-- Once the loop has stopped, a connection that has not been accepted stays so. -/
theorem step_stopped {event : LauncherEvent} {conn : Nat} (stopped : s.acceptLoop = .stopped) (queued : conn ∈ s.backlog)
    (taken : s.step event = some after) :
    after.acceptLoop = .stopped ∧ conn ∈ after.backlog ∧ after.closed = s.closed := by
  simp only [step] at taken
  split at taken
  · cases taken
  · cases event with
    | accept err => simp [accept, stopped] at taken
    | decide conn => simp [decide, stopped] at taken
    | dial other =>
        obtain ⟨_, made⟩ := Option.ite_none_right_eq_some.mp taken
        cases made
        exact ⟨stopped, by simp [queued], rfl⟩
    | _ =>
        simp only [listen, doOnce, postStart, decode, answerStart, getWait, wakeWait, answerWait, signal, payloadStep,
          payloadFinish, wakeMain, leave] at taken
        grind [finish]

/-- A worker container runs one payload and reports one result. -/
theorem one_payload_one_result (s : WorkerLauncher) (reached : Reaches step (· = new) everyStep s) :
    s.OneResult ∧ (s.gone = false → ∀ contender, s.AtHand contender →
      ∃ after, Reaches step (· = s) Contends after ∧ after.OneResult ∧ ¬after.AtHand contender) := by
  have coherent := reached_coherent reached
  refine ⟨coherent.oneResult, fun here contender hand => ?_⟩
  obtain ⟨after, further, done⟩ := coherent.settles here hand
  have also : Reaches step (· = new) everyStep after := reached.trans (further.mono fun _ _ _ => trivial)
  exact ⟨after, further, (reached_coherent also).oneResult, done⟩

/-- A request starts the payload before a connection and another request. Its process exits with 3. -/
theorem one_payload_one_result_jit : ∃ s : WorkerLauncher, s.OneResult ∧ s.Refused (.connection 0) ∧ s.Refused (.start 1 "b") ∧
    s.finishes = [3] ∧ s.main = .exited 3 := by
  obtain ⟨s, reached, closed, answered, finishes, exited⟩ : ∃ s, Reaches step (· = new) everyStep s ∧ 0 ∈ s.closed ∧
      s.starts.lookup 1 = some (.answered 409) ∧ s.finishes = [3] ∧ s.main = .exited 3 := by
    refine Reaches.of_replay rfl [.listen none, .listen none, .getWait 0, .dial 0, .postStart 0 true (.ok "a"),
      .postStart 1 true (.ok "b"), .decode 0, .startOnce (.start 0 "a"), .accept none, .startOnce (.start 0 "a"),
      .startOnce (.connection 0), .decide 0, .decode 1, .startOnce (.start 1 "b"), .answerStart 1, .payload 0 (.start none),
      .payload 0 (.wait (.ok (.exited 3))), .finish 0, .wakeMain, .wakeWait 0, .answerWait 0, .signal 0, .leave false] ?_
    decide +kernel
  exact ⟨s, (one_payload_one_result s reached).1, closed, answered, finishes, exited⟩

/-- A second connection is neither accepted nor closed, whatever comes; and a payload that is killed has
no exit code that is a status. -/
theorem connection_left :
    (∃ s : WorkerLauncher, Reaches step (· = new) everyStep s ∧ s.payloads.map WorkerPayload.starter = [.connection 0] ∧
      ∀ later, Reaches step (· = s) everyStep later → 1 ∈ later.backlog ∧ ¬later.Refused (.connection 1)) ∧
    ∃ s : WorkerLauncher, Reaches step (· = new) everyStep s ∧ s.waits.lookup 0 = some (.signalled (-1)) ∧
      s.main = .exited 255 := by
  constructor
  · obtain ⟨s, reached, started, stopped, queued, closed⟩ : ∃ s, Reaches step (· = new) everyStep s ∧
        s.payloads.map WorkerPayload.starter = [.connection 0] ∧ s.acceptLoop = .stopped ∧ 1 ∈ s.backlog ∧ s.closed = [] := by
      refine Reaches.of_replay rfl [.listen none, .listen none, .dial 0, .dial 1, .accept none, .startOnce (.connection 0),
        .startOnce (.connection 0), .decide 0] ?_
      decide +kernel
    refine ⟨s, reached, started, fun later further => ?_⟩
    obtain ⟨_, still, none⟩ : later.acceptLoop = .stopped ∧ 1 ∈ later.backlog ∧ later.closed = [] := by
      apply further.invariant
      · rintro _ rfl
        exact ⟨stopped, queued, closed⟩
      · rintro state event next _ ⟨stopped, queued, closed⟩ _ taken
        obtain ⟨stopped, queued, same⟩ := step_stopped stopped queued taken
        exact ⟨stopped, queued, same.trans closed⟩
    exact ⟨still, by simp [Refused, none]⟩
  · refine Reaches.of_replay rfl [.listen none, .listen none, .postStart 0 true (.ok "a"), .decode 0,
      .startOnce (.start 0 "a"), .startOnce (.start 0 "a"), .payload 0 (.start none), .payload 0 (.wait (.ok .signaled)),
      .finish 0, .getWait 0, .wakeWait 0, .answerWait 0, .signal 0, .wakeMain, .leave false] ?_
    decide +kernel

end WorkerLauncher

end RunnersMux

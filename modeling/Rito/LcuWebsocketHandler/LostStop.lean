import Rito.LcuWebsocketHandler.Reconnect
import Rito.LcuWebsocketHandler.WakeUp

namespace Rito

namespace LcuWebsocketHandler

theorem reconnect_sameFlags (handler : LcuWebsocketHandler) (outcome : ReconnectOutcome) :
    handler.SameFlags (handler.reconnect outcome).2 := by
  by_cases hc : handler.isConnected = true
  · rw [reconnect_connected outcome hc]
    exact SameFlags.refl handler
  · rw [Bool.not_eq_true] at hc
    exact (reconnect_disconnected outcome hc).2

-- A stop() returns from its test of the connection or from its send.
theorem returns_from {handler after : LcuWebsocketHandler} {pc next : ThreadPc}
    {action : ThreadAction} {events : List ThreadEvent}
    (h : handler.threadStep pc action = some (.ok (after, next, events)))
    (hm : .stopReturned ∈ events) : pc = .stopCheck ∨ pc = .stopSend := by
  cases callStep h with
  | stopDisconnected => exact Or.inl rfl
  | stopUsed => exact Or.inr rfl
  | sendDisconnected | sendUsed => cases List.mem_singleton.mp hm
  | _ => cases hm

end LcuWebsocketHandler

-- Only run() clears m_stop.
theorem Loop.Step.stop_eq {loop next : Loop} {action : LoopAction} {more : List LoopEvent}
    (h : Step loop action next more) (ht : loop.threadStep action = some (next, more))
    (hpc : loop.pc ≠ .entered) : next.handler.stop = loop.handler.stop := by
  cases h with
  | clearStop => exact absurd rfl hpc
  | @reconnectReturned handler outcome _ he | @reconnectThrew handler outcome _ _ he
  | @reconnectTerminated handler outcome _ he =>
      have hs := (LcuWebsocketHandler.reconnect_sameFlags handler outcome).stop
      rw [he] at hs
      exact hs
  | setStop =>
      rw [System.threadStep_setStop] at ht
      cases ht
  | sendFrame => exact (sendFrame_sameFlags loop _).stop
  | _ => rfl

-- run() has to be called for the loop to come to its entry, or to leave its
-- resting place.
theorem Loop.Step.run_called {loop next : Loop} {action : LoopAction} {more : List LoopEvent}
    (h : Step loop action next more) (ht : loop.threadStep action = some (next, more))
    (hpc : next.pc = .entered ∨ loop.pc = .idle) : action = .run := by
  cases h with
  | run => rfl
  | notifySilent site _ | notifyReturns site _ | notifyThrows site _ =>
      cases site <;> rcases hpc with hpc | hpc <;> cases hpc
  | setStop =>
      rw [System.threadStep_setStop] at ht
      cases ht
  | sendFrame =>
      rw [System.threadStep_sendFrame] at ht
      cases ht
  | _ => rcases hpc with hpc | hpc <;> cases hpc

theorem ThreadStep.stop {handler after : LcuWebsocketHandler} {pc next : ThreadPc}
    (h : ThreadStep handler pc (.ok (after, next))) (hs : handler.stop = true) :
    after.stop = true := by
  cases h with
  | stopWrite => rfl
  | _ => exact hs

namespace System

variable {ι : Type*} [DecidableEq ι] {system next : System ι} {action : SystemAction ι}
  {actions : List (SystemAction ι)} {events more : List (SystemEvent ι)}

-- The process when a thread has just entered run().
def entered (handler : LcuWebsocketHandler) : System ι :=
  { start handler with loop := { handler := handler, pc := .entered } }

example (handler : LcuWebsocketHandler) :
    machine.step (start handler) (.loop .run : SystemAction ι) = some (entered handler, []) := rfl

-- run() has returned, or the process has come to an end.
def Ended (system : System ι) : Prop := system.loop.pc = .idle ∨ system.crash.isSome = true

def StopReturned (events : List (SystemEvent ι)) : Prop :=
  ∃ thread, .thread thread .stopReturned ∈ events

-- No stop() writes m_stop between the entry of run() and its m_stop = false.
def WritesAfterReset (system : System ι) : SystemAction ι → Prop
  | .loop _ => True
  | .thread thread _ => system.threads thread = .stopWrite → system.loop.pc ≠ .entered

instance (system : System ι) (action : SystemAction ι) :
    Decidable (system.WritesAfterReset action) :=
  match action with
  | .loop _ => inferInstanceAs (Decidable True)
  | .thread thread _ => inferInstanceAs
      (Decidable (system.threads thread = .stopWrite → system.loop.pc ≠ .entered))

-- After a stop() has returned, m_stop is set until the loop ends.
def StopKept (events : List (SystemEvent ι)) (system : System ι) : Prop :=
  StopReturned events → system.Ended ∨ system.loop.handler.stop = true

-- What carries it: it holds from the moment a stop() has written m_stop.
def StopWritten (events : List (SystemEvent ι)) (system : System ι) : Prop :=
  StopReturned events ∨ system.StopUnderWay →
    system.Ended ∨ system.loop.pc ≠ .entered ∧ system.loop.handler.stop = true

theorem returned_of_step (hs : machine.step system action = some (next, more))
    (hr : StopReturned more) : system.StopUnderWay := by
  obtain ⟨thread, hm⟩ := hr
  change system.step action = some (next, more) at hs
  unfold step at hs
  split at hs
  · cases hs
  cases action with
  | loop action =>
      simp only [loopStep] at hs
      split at hs
      · cases hs
      · simp only [Option.some.injEq, Prod.mk.injEq] at hs
        obtain ⟨-, rfl⟩ := hs
        simp at hm
  | thread other action =>
      simp only [otherStep] at hs
      split at hs
      · cases hs
      · simp only [Option.some.injEq, Prod.mk.injEq] at hs
        obtain ⟨-, rfl⟩ := hs
        cases hm
      · rename_i handler pc first ht
        simp only [Option.some.injEq, Prod.mk.injEq] at hs
        obtain ⟨-, rfl⟩ := hs
        obtain ⟨event, hin, he⟩ := List.mem_map.mp hm
        obtain ⟨rfl, rfl⟩ := SystemEvent.thread.inj he
        exact ⟨_, LcuWebsocketHandler.returns_from ht hin⟩

omit [DecidableEq ι] in
theorem stopReturned_append : StopReturned (events ++ more) ↔
    StopReturned events ∨ StopReturned more := by
  simp only [StopReturned, List.mem_append, exists_or]

-- A stop() that is past its write was so before, or has just written.
theorem underWay_of_threadStep {thread : ι} {handler : LcuWebsocketHandler} {pc : ThreadPc}
    {loop : Loop}
    (h : ThreadStep system.loop.handler (system.threads thread) (.ok (handler, pc)))
    (hu : StopUnderWay { system with
      loop := loop
      threads := Function.update system.threads thread pc }) :
    system.StopUnderWay ∨ system.threads thread = .stopWrite ∧ handler.stop = true := by
  obtain ⟨other, ho⟩ := hu
  by_cases heq : other = thread
  · subst heq
    have hpc : pc = .stopCheck ∨ pc = .stopSend := by simpa using ho
    generalize hbefore : system.threads other = before at h
    cases h with
    | stopWrite => exact Or.inr ⟨rfl, rfl⟩
    | connected hc _ =>
        cases before with
        | stopCheck => exact Or.inl ⟨other, Or.inl hbefore⟩
        | sendCheck message =>
            cases hc
            rcases hpc with hpc | hpc <;> cases hpc
        | _ => cases hc
    | _ => rcases hpc with hpc | hpc <;> cases hpc
  · refine Or.inl ⟨other, ?_⟩
    simpa [Function.update_of_ne heq] using ho

theorem StopWritten.step (hi : StopWritten events system) (hrun : action ≠ .loop .run)
    (hw : system.WritesAfterReset action)
    (hs : machine.step system action = some (next, more)) : StopWritten (events ++ more) next := by
  intro hreturned
  obtain ⟨hcrash, hstep⟩ := step_cases hs
  -- what has returned by now had written before
  have hbefore : StopReturned (events ++ more) → StopReturned events ∨ system.StopUnderWay := by
    intro hr
    rcases stopReturned_append.mp hr with hr | hr
    · exact Or.inl hr
    · exact Or.inr (returned_of_step hs hr)
  have hidle : system.Ended → system.loop.pc = .idle := by
    intro he
    rcases he with he | he
    · exact he
    · rw [hcrash] at he
      cases he
  cases hstep with
  | @loop action loop more h ht =>
      have hne : action ≠ .run := by
        rintro rfl
        exact hrun rfl
      have hwritten : StopReturned events ∨ system.StopUnderWay := by
        rcases hreturned with hr | hu
        · exact hbefore hr
        · exact Or.inr hu
      rcases hi hwritten with he | ⟨hpc, hstop⟩
      · exact absurd (h.run_called ht (Or.inr (hidle he))) hne
      · refine Or.inr ⟨fun hentered => hne (h.run_called ht (Or.inl hentered)), ?_⟩
        exact (h.stop_eq ht hpc).trans hstop
  | @thread thread action handler pc h =>
      have hcases : (StopReturned events ∨ system.StopUnderWay) ∨
          system.threads thread = .stopWrite ∧ handler.stop = true := by
        rcases hreturned with hr | hu
        · exact Or.inl (hbefore hr)
        · rcases underWay_of_threadStep h hu with hu | hwrite
          · exact Or.inl (Or.inr hu)
          · exact Or.inr hwrite
      rcases hcases with hwritten | ⟨hthread, hstop⟩
      · rcases hi hwritten with he | ⟨hpc, hstop⟩
        · exact Or.inl (Or.inl (hidle he))
        · exact Or.inr ⟨hpc, h.stop hstop⟩
      · exact Or.inr ⟨hw hthread, hstop⟩
  | crash h => exact Or.inl (Or.inr rfl)

-- The loop does not begin another iteration.
def NoNewIteration (system : System ι) : Prop :=
  ∀ action next more, machine.step system action = some (next, more) →
    system.loop.pc = .head → next.loop.pc ≠ .check

theorem noNewIteration (hstop : system.loop.handler.stop = true) : system.NoNewIteration := by
  intro action next more hs hhead hcheck
  cases (step_cases hs).2 with
  | @loop action loop more h ht =>
      obtain ⟨he, hpc⟩ := receiving_of_threadStep h ht (Or.inl hcheck)
      rcases hpc with ⟨-, hunset⟩ | hpc
      · rw [hstop] at hunset
        cases hunset
      · rw [hhead] at hpc
        cases hpc
  | thread h =>
      have hpc : system.loop.pc = .check := hcheck
      rw [hhead] at hpc
      cases hpc
  | crash h =>
      have hpc : system.loop.pc = .check := hcheck
      rw [hhead] at hpc
      cases hpc

-- In one run() from its entry on, in which every stop() writes m_stop after
-- run() has cleared it, no stop() that returned is lost.
theorem stop_not_lost {handler : LcuWebsocketHandler}
    (h : machine.exec (entered handler) actions = some (system, events))
    (hrun : ∀ action ∈ actions, action ≠ .loop .run)
    (hw : machine.Along WritesAfterReset (entered handler) actions) :
    StopKept events system ∧
      (StopReturned events → system.Ended ∨ system.NoNewIteration) := by
  have hstart : StopWritten [] (entered handler : System ι) := by
    intro hr
    rcases hr with ⟨thread, hm⟩ | ⟨thread, hpc⟩
    · cases hm
    · rcases hpc with hpc | hpc <;> cases hpc
  have hwritten : StopWritten events system :=
    Machine.exec_along (I := StopWritten) hstart
      (fun _ _ _ _ _ hi hc hs => hi.step hc.1 hc.2 hs) (Machine.along_and_mem hrun hw) h
  have hkept : StopKept events system := fun hr => (hwritten (Or.inl hr)).imp id And.right
  exact ⟨hkept, fun hr => (hkept hr).imp id noNewIteration⟩

-- A stop() is called as soon as run() is entered, and runs through before
-- m_stop is cleared.
def earlyStop : List (SystemAction Unit) :=
  [.thread () (.call .stop), .thread () .tau, .thread () .tau, .loop .tau, .loop .tau]

-- The loop goes on, as if nobody had called stop().
theorem earlyStop_lost : ∃ system : System Unit,
    machine.exec (entered (.new true true true)) earlyStop =
        some (system, [.thread () .stopReturned]) ∧
      system.loop.pc = .check ∧ ¬StopKept [.thread () .stopReturned] system := by
  refine ⟨_, rfl, rfl, fun h => ?_⟩
  rcases h ⟨(), List.mem_cons_self⟩ with (he | he) | he <;> cases he

-- The same stop() after m_stop was cleared.
def laterStop : List (SystemAction Unit) :=
  [.thread () (.call .stop), .loop .tau, .thread () .tau, .loop .tau, .thread () .tau]

theorem stop_not_lost_later : ∃ system : System Unit,
    machine.exec (entered (.new true true true)) laterStop =
        some (system, [.thread () .stopReturned]) ∧
      StopKept [.thread () .stopReturned] system := by
  have hs : machine.exec (entered (.new true true true)) laterStop =
      some (machine.final (entered (.new true true true)) laterStop rfl,
        [.thread () .stopReturned]) := rfl
  exact ⟨_, hs, (stop_not_lost hs (by simp [laterStop]) (by decide)).1⟩

end System

end Rito

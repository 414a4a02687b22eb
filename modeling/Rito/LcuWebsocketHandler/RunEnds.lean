import Rito.LcuWebsocketHandler.LostStop
import Rito.Progress

namespace Rito

-- The most steps the thread in run() still takes before it returns, once
-- m_stop is set.
def LoopPc.stepsToReturn : LoopPc → Nat
  | .idle | .entered | .crashed _ => 0
  | .stopNotify => 1
  | .stopReset => 2
  | .head => 3
  | .sleep | .deliver _ => 4
  | .receive | .notifyConnected => 5
  | .reconnect => 6
  | .notifyDisconnected => 7
  | .check => 8

-- In run(), past its m_stop = false.
def LoopPc.Looping (pc : LoopPc) : Prop := pc ≠ .idle ∧ pc ≠ .entered

-- On the way out of run().
def LoopPc.Leaves (pc : LoopPc) : Prop := pc = .stopReset ∨ pc = .stopNotify

def SystemAction.isLoop {ι : Type*} : SystemAction ι → Bool
  | .loop _ => true
  | .thread _ _ => false

namespace Loop

variable {loop next : Loop} {action : LoopAction} {more : List LoopEvent}

theorem stepsToReturn_le (pc : LoopPc) : pc.stepsToReturn ≤ 8 := by
  cases pc <;> simp [LoopPc.stepsToReturn]

-- With m_stop set, every step of the loop brings it nearer to its return.
theorem Step.stepsToReturn_lt (h : Step loop action next more)
    (ht : loop.threadStep action = some (next, more)) (hl : loop.pc.Looping)
    (hstop : loop.handler.stop = true) (hr : .runReturned ∉ more) :
    next.pc.Looping ∧ next.pc.stepsToReturn < loop.pc.stepsToReturn := by
  obtain ⟨hidle, hentered⟩ := hl
  cases h with
  | run => exact absurd rfl hidle
  | clearStop => exact absurd rfl hentered
  | stopNotSeen hs =>
      rw [hstop] at hs
      cases hs
  | notifySilent site _ | notifyReturns site _ =>
      cases site with
      | stop => simp at hr
      | disconnected | connected => exact ⟨⟨by simp, by simp⟩, by simp [LoopPc.stepsToReturn]⟩
  | notifyThrows site _ =>
      cases site <;> exact ⟨⟨by simp, by simp⟩, by simp [LoopPc.stepsToReturn]⟩
  | setStop =>
      rw [System.threadStep_setStop] at ht
      cases ht
  | sendFrame =>
      rw [System.threadStep_sendFrame] at ht
      cases ht
  | _ => exact ⟨⟨by simp, by simp⟩, by simp [LoopPc.stepsToReturn]⟩

-- Without it, the loop does not even set out for its return.
theorem Step.not_leaves (h : Step loop action next more) (hidle : loop.pc ≠ .idle)
    (hleaves : ¬loop.pc.Leaves) (hstop : loop.pc = .entered ∨ loop.handler.stop = false) :
    next.pc ≠ .idle ∧ ¬next.pc.Leaves ∧ .runReturned ∉ more := by
  cases h with
  | run => exact absurd rfl hidle
  | stopSeen hs =>
      obtain hentered | hclear := hstop
      · cases hentered
      · rw [hs] at hclear
        cases hclear
  | reset | resetShutdown | shutdownThrows => exact absurd (Or.inl rfl) hleaves
  | notifySilent site _ | notifyReturns site _ | notifyThrows site _ =>
      cases site with
      | stop => exact absurd (Or.inr rfl) hleaves
      | disconnected | connected => simp [LoopPc.Leaves]
  | setStop => exact ⟨hidle, hleaves, by simp⟩
  | sendFrame => exact ⟨by simpa using hidle, by simpa using hleaves, by simp⟩
  | _ => simp [LoopPc.Leaves]

theorem Step.clears_stop (h : Step loop action next more)
    (ht : loop.threadStep action = some (next, more)) (hpc : loop.pc = .entered) :
    next.handler.stop = false := by
  cases h with
  | clearStop => rfl
  | notifySilent site _ | notifyReturns site _ | notifyThrows site _ => cases site <;> cases hpc
  | setStop =>
      rw [System.threadStep_setStop] at ht
      cases ht
  | sendFrame =>
      rw [System.threadStep_sendFrame] at ht
      cases ht
  | _ => cases hpc

-- It sets out only when it has seen m_stop, and nothing clears that meanwhile.
theorem Step.leaves_stop (h : Step loop action next more)
    (hi : loop.pc.Leaves → loop.handler.stop = true) (hl : next.pc.Leaves) :
    next.handler.stop = true := by
  cases h with
  | stopSeen hs => exact hs
  | reset | resetShutdown => exact hi (Or.inl rfl)
  | notifySilent site _ | notifyReturns site _ | notifyThrows site _ =>
      cases site <;> simp [LoopPc.Leaves] at hl
  | setStop => rfl
  | sendFrame =>
      rw [(sendFrame_sameFlags loop _).stop]
      exact hi (by simpa using hl)
  | _ => simp [LoopPc.Leaves] at hl

-- The loop is never stuck: whatever it waits for, there is an answer to it.
theorem exists_notify (loop : Loop) (connected : Bool) (done failed : LoopPc) :
    ∃ action, (loop.notify connected done failed action).isSome = true := by
  cases hn : loop.handler.notification connected with
  | none => exact ⟨.tau, by simp only [notify, hn, if_true, Option.isSome_some]⟩
  | some callback =>
      refine ⟨.callback callback false, ?_⟩
      simp only [notify, hn, if_true, Bool.false_eq_true, if_false, Option.isSome_some]

theorem exists_receive (loop : Loop) :
    ∃ transport, (loop.receive transport).isSome = true := by
  cases hw : loop.handler.websocket with
  | none => exact ⟨[], by simp only [receive, hw, Option.isSome_some]⟩
  | some client =>
      cases hs : client.websocket with
      | none =>
          exact ⟨[], by
            simp only [receive, hw, HttpsWebsocketClient.receiveMessage, hs, Option.isSome_some]⟩
      | some socket =>
          refine ⟨[.throws (.timeout "")], ?_⟩
          have hframes : HttpsWebsocketClient.receiveFrames maxFramesPerMessage []
              [.throws (.timeout "")] = some (.error (.transport (.timeout "")), false, []) := rfl
          simp only [receive, hw, HttpsWebsocketClient.receiveMessage, hs, hframes,
            Option.isSome_some]

theorem exists_stopReset (loop : Loop) : ∃ action, (loop.stopReset action).isSome = true := by
  cases hs : loop.handler.websocket.any (·.shutsDown) with
  | false =>
      exact ⟨.tau, by simp only [stopReset, hs, Bool.false_eq_true, if_false, Option.isSome_some]⟩
  | true =>
      obtain ⟨client, hw, hclient⟩ := (Option.any_eq_true _ _).mp hs
      refine ⟨.shutdown (.ok ()), ?_⟩
      simp only [stopReset, hs, if_true,
        LcuWebsocketHandler.resetWebsocket_shutsDown hw hclient]
      rfl

theorem exists_threadStep (loop : Loop) (hc : ∀ crash, loop.pc ≠ .crashed crash) :
    ∃ action, (loop.threadStep action).isSome = true := by
  obtain ⟨handler, pc⟩ := loop
  cases pc with
  | idle => exact ⟨.run, rfl⟩
  | entered | head | check | sleep => exact ⟨.tau, rfl⟩
  | stopReset => exact exists_stopReset _
  | stopNotify =>
      obtain ⟨action, hn⟩ :=
        exists_notify ⟨handler, .stopNotify⟩ false .idle (.crashed .terminated)
      exact ⟨action, by simpa only [threadStep, Option.isSome_map] using hn⟩
  | notifyDisconnected => exact exists_notify _ _ _ _
  | notifyConnected => exact exists_notify _ _ _ _
  | receive =>
      obtain ⟨transport, hr⟩ := exists_receive ⟨handler, .receive⟩
      exact ⟨.receive transport, hr⟩
  | deliver response =>
      cases hm : handler.onMessageReceived with
      | false =>
          exact ⟨.tau, by
            simp only [threadStep, hm, Bool.false_eq_true, if_false, Option.isSome_some]⟩
      | true =>
          exact ⟨.callback (.onMessageReceived response) false, by
            simp only [threadStep, hm, and_self, if_true, Option.isSome_some]⟩
  | reconnect =>
      exact ⟨.reconnect ⟨.ok (), .error (.std ""), .ok (), .ok (), ⟨.ok (), .ok ()⟩⟩, rfl⟩
  | crashed crash => exact absurd rfl (hc crash)

end Loop

-- How the process has ended, when the loop stands there.
def LoopPc.crash : LoopPc → Option Crash
  | .crashed crash => some crash
  | _ => none

namespace System

variable {ι : Type*} [DecidableEq ι] {system next : System ι} {action : SystemAction ι}
  {actions : List (SystemAction ι)} {events more : List (SystemEvent ι)}

-- A step of the loop, with what is observed of it.
theorem loop_step_cases {action : LoopAction}
    (h : machine.step system (.loop action) = some (next, events)) :
    ∃ loop more, system.loop.threadStep action = some (loop, more) ∧
      events = more.map .loop ∧ next.loop = loop ∧ next.threads = system.threads ∧
      next.crash = loop.pc.crash := by
  change system.step (.loop action) = _ at h
  unfold step at h
  split at h
  · cases h
  · simp only [loopStep] at h
    split at h
    · cases h
    · next loop more ht =>
        obtain ⟨rfl, rfl⟩ := Prod.mk.inj (Option.some.inj h)
        exact ⟨loop, more, ht, rfl, rfl, rfl, rfl⟩

-- A step of another thread leaves the loop where it is, and may set m_stop.
theorem thread_step_cases {thread : ι} {action : ThreadAction}
    (h : machine.step system (.thread thread action) = some (next, events)) :
    next.loop.pc = system.loop.pc ∧ .loop .runReturned ∉ events ∧
      (next.loop.handler.stop = system.loop.handler.stop ∨
        system.threads thread = .stopWrite ∧ next.loop.handler.stop = true) ∧
      (next.crash = none → system.crash = none) := by
  have hevents : .loop .runReturned ∉ events := by
    change system.step (.thread thread action) = _ at h
    unfold step at h
    split at h
    · cases h
    · simp only [otherStep] at h
      split at h
      · cases h
      · obtain ⟨-, rfl⟩ := Prod.mk.inj (Option.some.inj h)
        simp
      · obtain ⟨-, rfl⟩ := Prod.mk.inj (Option.some.inj h)
        simp
  obtain ⟨hc, hstep⟩ := step_cases h
  cases hstep with
  | crash => exact ⟨rfl, hevents, Or.inl rfl, fun _ => hc⟩
  | @thread _ _ handler pc ht =>
      refine ⟨rfl, hevents, ?_, fun _ => hc⟩
      generalize hpc : system.threads thread = before at ht
      cases ht with
      | stopWrite => exact Or.inr ⟨rfl, rfl⟩
      | _ => exact Or.inl rfl

-- The loop leaves run() only with m_stop set, and a process that has not ended
-- has its loop at a place of its own.
structure Leaving (system : System ι) : Prop where
  stop : system.loop.pc.Leaves → system.loop.handler.stop = true
  alive : system.crash = none → ∀ crash, system.loop.pc ≠ .crashed crash

theorem Leaving.step (hi : system.Leaving) (h : machine.step system action = some (next, events)) :
    next.Leaving := by
  cases action with
  | loop action =>
      obtain ⟨loop, more, ht, -, rfl, -, hcrash⟩ := loop_step_cases h
      refine ⟨(Loop.threadStep_cases ht).leaves_stop hi.stop, fun hc crash hpc => ?_⟩
      simp [hcrash, hpc, LoopPc.crash] at hc
  | thread thread action =>
      obtain ⟨hpc, -, hstop, hcrash⟩ := thread_step_cases h
      refine ⟨fun hl => ?_, fun hc => hpc ▸ hi.alive (hcrash hc)⟩
      obtain hsame | ⟨-, hset⟩ := hstop
      · rw [hsame]
        exact hi.stop (hpc ▸ hl)
      · exact hset

theorem leaving_of_reachable {handler : LcuWebsocketHandler}
    (h : machine.Reachable (start handler) system) : system.Leaving := by
  obtain ⟨actions, events, he⟩ := h
  refine machine.invariant ?_ (fun _ _ _ _ hi hs => hi.step hs) he
  exact ⟨fun hl => by simp [start, Loop.start, LoopPc.Leaves] at hl, fun _ crash => by
    simp [start, Loop.start]⟩

-- This thread writes m_stop in this step.
def WritesStop (system : System ι) : SystemAction ι → Prop
  | .loop _ => False
  | .thread thread _ => system.threads thread = .stopWrite

instance (system : System ι) : ∀ action, Decidable (system.WritesStop action)
  | .loop _ => isFalse id
  | .thread thread _ => inferInstanceAs (Decidable (system.threads thread = .stopWrite))

def Stopping (system : System ι) : Prop :=
  system.loop.pc.Looping ∧ system.loop.handler.stop = true

def Running (system : System ι) : Prop :=
  system.loop.pc ≠ .idle ∧ ¬system.loop.pc.Leaves ∧
    (system.loop.pc = .entered ∨ system.loop.handler.stop = false)

theorem Stopping.step (hi : system.Stopping)
    (h : machine.step system action = some (next, events)) (hr : .loop .runReturned ∉ events) :
    next.Stopping ∧ next.loop.pc.stepsToReturn + (if action.isLoop then 1 else 0) ≤
      system.loop.pc.stepsToReturn := by
  obtain ⟨hl, hstop⟩ := hi
  cases action with
  | loop action =>
      obtain ⟨loop, more, ht, rfl, rfl, -, -⟩ := loop_step_cases h
      have hstep := Loop.threadStep_cases ht
      obtain ⟨hnext, hlt⟩ := hstep.stepsToReturn_lt ht hl hstop (by simpa using hr)
      refine ⟨⟨hnext, (hstep.stop_eq ht hl.2).trans hstop⟩, ?_⟩
      change _ + 1 ≤ _
      omega
  | thread thread action =>
      obtain ⟨hpc, -, hset, -⟩ := thread_step_cases h
      refine ⟨⟨hpc ▸ hl, ?_⟩, hpc ▸ Nat.le_refl _⟩
      obtain hsame | ⟨-, hset⟩ := hset
      · exact hsame.trans hstop
      · exact hset

theorem Running.step (hi : system.Running) (hw : ¬system.WritesStop action)
    (h : machine.step system action = some (next, events)) :
    next.Running ∧ .loop .runReturned ∉ events := by
  obtain ⟨hidle, hleaves, hstop⟩ := hi
  cases action with
  | loop action =>
      obtain ⟨loop, more, ht, rfl, rfl, -, -⟩ := loop_step_cases h
      have hstep := Loop.threadStep_cases ht
      obtain ⟨hnext, hkeeps, hr⟩ := hstep.not_leaves hidle hleaves hstop
      refine ⟨⟨hnext, hkeeps, Or.inr ?_⟩, by simpa using hr⟩
      by_cases hentered : system.loop.pc = .entered
      · exact hstep.clears_stop ht hentered
      · rw [hstep.stop_eq ht hentered]
        exact hstop.resolve_left hentered
  | thread thread action =>
      obtain ⟨hpc, hr, hset, -⟩ := thread_step_cases h
      refine ⟨⟨hpc ▸ hidle, hpc ▸ hleaves, ?_⟩, hr⟩
      obtain hsame | ⟨hwrites, -⟩ := hset
      · rw [hpc, hsame]
        exact hstop
      · exact absurd hwrites hw

-- run() ends because of a stop(), and of nothing else. It is never stuck. Once
-- m_stop is set, it returns within eight steps of its own, or the process ends,
-- whatever other threads do meanwhile; until some thread writes m_stop, it does
-- not return.
theorem run_ends_when_stopped (onMessageReceived onConnected onDisconnected : Bool)
    (h : machine.Reachable (start (.new onMessageReceived onConnected onDisconnected)) system)
    (hidle : system.loop.pc ≠ .idle) (hc : system.crash = none) :
    (∃ action, (machine.step system (.loop action)).isSome = true) ∧
      (system.loop.pc ≠ .entered → system.loop.handler.stop = true →
        ∀ actions last more, machine.exec system actions = some (last, more) →
          .loop .runReturned ∉ more → actions.countP SystemAction.isLoop ≤ 8) ∧
      (system.loop.pc = .entered ∨ system.loop.handler.stop = false →
        ∀ actions last more, machine.exec system actions = some (last, more) →
          machine.Along (fun system action => ¬system.WritesStop action) system actions →
          .loop .runReturned ∉ more) := by
  have hi := leaving_of_reachable h
  refine ⟨?_, fun hentered hstop actions last more he hr => ?_, fun hstop actions last more he ha => ?_⟩
  · obtain ⟨action, hstep⟩ := Loop.exists_threadStep system.loop (hi.alive hc)
    obtain ⟨⟨loop, more⟩, ht⟩ := Option.isSome_iff_exists.mp hstep
    refine ⟨action, ?_⟩
    change (system.step (.loop action)).isSome = true
    simp only [step, hc, Option.isSome_none, Bool.false_eq_true, if_false, loopStep, ht,
      Option.isSome_some]
  · have hcount := machine.exec_countP_le (I := Stopping) (fun system => system.loop.pc.stepsToReturn)
      SystemAction.isLoop (fun _ _ _ _ hi hn hs => hi.step hs (hn _ _ hs))
      ⟨⟨hidle, hentered⟩, hstop⟩ (machine.along_of_not_mem he hr) he
    have hle := Loop.stepsToReturn_le system.loop.pc
    omega
  · have hleaves : ¬system.loop.pc.Leaves := by
      intro hl
      obtain hentered | hclear := hstop
      · simp [hentered, LoopPc.Leaves] at hl
      · rw [hi.stop hl] at hclear
        cases hclear
    exact (machine.exec_along (I := fun events system => system.Running ∧ .loop .runReturned ∉ events)
      ⟨⟨hidle, hleaves, hstop⟩, by simp⟩
      (fun events _ _ _ _ hi hw hs => ⟨(hi.1.step hw hs).1, by
        simpa [hi.2] using (hi.1.step hw hs).2⟩) ha he).2

-- A stop() writes m_stop when the loop has just looked at it.
def stoppedAtCheck : List (SystemAction Unit) :=
  [.loop .run, .loop .tau, .loop .tau, .thread () (.call .stop), .thread () .tau]

-- The longest way from there to the return of run(), up to its last step.
def lastSteps : List (SystemAction Unit) :=
  [.loop .tau, .loop .tau,
    .loop (.reconnect ⟨.ok (), .ok ⟨"token", 51234⟩, .ok (), .ok (), ⟨.ok (), .ok ()⟩⟩),
    .loop (.callback .onConnected true), .loop .tau, .loop .tau, .loop (.shutdown (.ok ()))]

theorem stoppedAtCheck_runs :
    (machine.exec (start (.new true true true)) stoppedAtCheck).isSome = true := rfl

theorem run_ends_when_stopped_atCheck : lastSteps.countP SystemAction.isLoop ≤ 8 :=
  (run_ends_when_stopped true true true
    (Machine.reachable_final stoppedAtCheck_runs) (by decide) rfl).2.1 (by decide) rfl _ _ _
    (Machine.exec_final rfl) (by decide)

end System

end Rito

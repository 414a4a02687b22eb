import Rito.LcuWebsocketHandler.Placed

namespace Rito

-- The outcomes that no handler in run() catches: an exception of
-- on_disconnected, or one of the shutdown in the client's destructor.
def LoopAction.escapes : LoopAction → Bool
  | .callback .onDisconnected true => true
  | .shutdown (.error _) => true
  | _ => false

namespace Loop

variable {loop next : Loop} {action : LoopAction} {actions : List LoopAction}
  {events more : List LoopEvent} {handler : LcuWebsocketHandler}

-- The stop branch is only entered, and only left, with m_stop set.
def StopSeen (loop : Loop) : Prop :=
  loop.pc = .stopReset ∨ loop.pc = .stopNotify → loop.handler.stop = true

theorem StopSeen.step (hs : loop.StopSeen) (h : Step loop action next more) : next.StopSeen := by
  intro hpc
  cases h with
  | stopSeen ht => exact ht
  | reset _ | resetShutdown _ => exact hs (Or.inl rfl)
  | notifySilent site _ | notifyReturns site _ | notifyThrows site _ => cases site <;> simp at hpc
  | setStop => rfl
  | sendFrame =>
      rw [sendFrame_pc] at hpc
      rw [(sendFrame_sameFlags _ _).stop]
      exact hs hpc
  | _ => simp at hpc

theorem stopSeen_of_exec (h : machine.exec (start handler) actions = some (loop, events)) :
    loop.StopSeen := by
  refine machine.invariant (I := StopSeen) ?_ (fun _ _ _ _ hs hstep => hs.step (step_cases hstep)) h
  simp [StopSeen, start]

-- Only the stop branch returns from run().
theorem Step.runReturned (h : Step loop action next more) (hm : .runReturned ∈ more) :
    loop.pc = .stopNotify := by
  cases h with
  | notifySilent site _ | notifyReturns site _ | notifyThrows site _ => cases site <;> simp_all
  | _ => simp at hm

-- A crashed thread stays where it is.
theorem Step.of_crashed {crash : Crash} (h : Step loop action next more)
    (hc : loop.pc = .crashed crash) : next.pc = .crashed crash ∧ action.escapes = false := by
  cases h with
  | notifySilent site _ | notifyReturns site _ | notifyThrows site _ => cases site <;> simp at hc
  | setStop => exact ⟨hc, rfl⟩
  | sendFrame => exact ⟨by simpa using hc, rfl⟩
  | _ => simp at hc

-- One step ends the process exactly when its outcome escapes.
theorem Step.crashed_iff (hp : loop.Placed) (h : Step loop action next more)
    (hn : ∀ crash, loop.pc ≠ .crashed crash) :
    (∃ crash, next.pc = .crashed crash) ↔ action.escapes = true := by
  cases h with
  | shutdownThrows _ => simp [LoopAction.escapes]
  | notifySilent site _ => cases site <;> simp [LoopAction.escapes]
  | notifyReturns site _ => cases site <;> simp [LoopAction.escapes]
  | notifyThrows site hcb =>
      obtain ⟨_, rfl⟩ := LcuWebsocketHandler.notification_eq_some hcb
      cases site <;> simp [LoopAction.escapes]
  | receiveNull hw =>
      have hc : LcuWebsocketHandler.isConnected _ = true := hp
      rw [LcuWebsocketHandler.isConnected_of_none hw] at hc
      cases hc
  | reconnectTerminated he => exact absurd he (LcuWebsocketHandler.reconnect_ne_terminated hp)
  | setStop => simpa [LoopAction.escapes] using hn
  | sendFrame => simpa [LoopAction.escapes] using hn
  | _ => simp [LoopAction.escapes]

theorem crashed_iff_escapes (hw : handler.websocket = none)
    (h : machine.exec (start handler) actions = some (loop, events)) :
    (∃ crash, loop.pc = .crashed crash) ↔ ∃ action ∈ actions, action.escapes = true := by
  have hi : loop.Placed ∧
      ((∃ crash, loop.pc = .crashed crash) ↔ ∃ action ∈ actions, action.escapes = true) := by
    refine machine.exec_induction (I := fun actions _ loop => loop.Placed ∧
      ((∃ crash, loop.pc = .crashed crash) ↔ ∃ action ∈ actions, action.escapes = true)) ?_ ?_ h
    · exact ⟨hw, by simp [start]⟩
    · intro actions _ loop action next _ hi hs
      obtain ⟨hp, hi⟩ := hi
      have hstep := step_cases hs
      refine ⟨hp.step hstep, ?_⟩
      simp only [List.mem_append, List.mem_singleton, or_and_right, exists_or, exists_eq_left]
      by_cases hc : ∃ crash, loop.pc = .crashed crash
      · obtain ⟨crash, hc⟩ := hc
        exact ⟨fun _ => Or.inl (hi.mp ⟨crash, hc⟩), fun _ => ⟨crash, (hstep.of_crashed hc).1⟩⟩
      · rw [← hi, hstep.crashed_iff hp (by simpa using hc)]
        simp [hc]
  exact hi.2

-- run() keeps its noexcept promise, and returns only after m_stop was set,
-- exactly in the runs where neither on_disconnected nor shutdown() throws.
theorem run_noexcept_iff (onMessageReceived onConnected onDisconnected : Bool)
    (h : machine.exec (start (.new onMessageReceived onConnected onDisconnected)) actions =
      some (loop, events)) :
    ((∀ crash, loop.pc ≠ .crashed crash) ∧
        ∀ action next more, machine.step loop action = some (next, more) →
          .runReturned ∈ more → loop.handler.stop = true) ↔
      ∀ action ∈ actions, action.escapes = false := by
  have hc := crashed_iff_escapes rfl h
  constructor
  · rintro ⟨hn, _⟩ action hm
    by_contra he
    obtain ⟨crash, hcr⟩ := hc.mpr ⟨action, hm, by simpa using he⟩
    exact hn crash hcr
  · intro he
    refine ⟨fun crash hcr => ?_, fun action next more hs hm => ?_⟩
    · obtain ⟨action, hm, ha⟩ := hc.mp ⟨crash, hcr⟩
      rw [he action hm] at ha
      cases ha
    · exact stopSeen_of_exec h (Or.inr ((step_cases hs).runReturned hm))

-- The connection is lost and on_disconnected throws.
def lostConnection : List LoopAction :=
  [.run, .tau, .tau, .tau, .tau,
    .reconnect ⟨.ok (), .ok ⟨"token", 51234⟩, .ok (), .ok (), ⟨.ok (), .ok ()⟩⟩,
    .callback .onConnected false, .tau, .tau, .receive [.frame 0 []], .tau, .tau,
    .callback .onDisconnected true]

theorem lostConnection_terminates :
    ∃ loop events, machine.exec (start (.new true true true)) lostConnection = some (loop, events) ∧
      loop.pc = .crashed .terminated :=
  ⟨_, _, rfl, rfl⟩

-- on_connected and the message callback throw, the connection is lost and comes
-- up again, and the loop is stopped. The last step is still to come.
def callbacksThrow : List LoopAction :=
  [.run, .tau, .tau, .tau, .tau,
    .reconnect ⟨.ok (), .ok ⟨"token", 51234⟩, .ok (), .ok (), ⟨.ok (), .ok ()⟩⟩,
    .callback .onConnected true, .tau, .tau, .tau, .receive [.frame 0x81 [91]],
    .callback (.onMessageReceived [91]) true, .tau, .tau, .receive [.frame 0 []], .tau, .tau, .tau,
    .reconnect ⟨.ok (), .ok ⟨"token", 51234⟩, .ok (), .ok (), ⟨.ok (), .ok ()⟩⟩,
    .callback .onConnected false, .setStop, .tau, .shutdown (.ok ())]

theorem callbacksThrow_runs :
    (machine.exec (start (.new true true true)) callbacksThrow).isSome = true := rfl

theorem run_noexcept_iff_callbacksThrow :
    (∀ crash, (machine.final (start (.new true true true)) callbacksThrow
        callbacksThrow_runs).pc ≠ .crashed crash) ∧ ∀ action next more,
      machine.step (machine.final (start (.new true true true)) callbacksThrow
          callbacksThrow_runs) action = some (next, more) →
        .runReturned ∈ more → (machine.final (start (.new true true true)) callbacksThrow
          callbacksThrow_runs).handler.stop = true :=
  (run_noexcept_iff true true true (Machine.exec_final callbacksThrow_runs)).mpr
    (by simp [callbacksThrow, LoopAction.escapes])

end Loop

end Rito

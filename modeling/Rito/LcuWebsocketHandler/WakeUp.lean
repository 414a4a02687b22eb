import Rito.LcuWebsocketHandler.Interleaving

namespace Rito

namespace LcuWebsocketHandler

variable {handler : LcuWebsocketHandler} {client : HttpsWebsocketClient}

theorem isConnected_sendMessage (hw : handler.websocket = some client) (message : Bytes) :
    ({ handler with websocket := some (client.sendMessage message (.ok ())).2 } :
      LcuWebsocketHandler).isConnected = handler.isConnected := by
  simp [isConnected, HttpsWebsocketClient.isConnected, hw]

end LcuWebsocketHandler

theorem Loop.Step.opened {loop next : Loop} {action : LoopAction} {more : List LoopEvent}
    (ho : loop.handler.Opened) (hp : loop.Placed) (h : Step loop action next more) :
    next.handler.Opened := by
  cases h with
  | reset _ | resetShutdown _ => exact LcuWebsocketHandler.opened_of_none rfl
  | @received handler client after _ _ hw hr | @receiveFailed handler client after _ _ hw hr =>
      obtain ⟨ha, hc, _⟩ := HttpsWebsocketClient.receiveMessage_client hr
      refine LcuWebsocketHandler.opened_of_some rfl fun hafter => ?_
      have hs := ho client hw (hc hafter)
      rw [ha]
      exact hs
  | @reconnectReturned _ outcome _ he | @reconnectThrew _ outcome _ _ he
  | @reconnectTerminated _ outcome _ he =>
      have hr := LcuWebsocketHandler.reconnect_opened outcome hp
      rw [he] at hr
      exact hr
  | @sendFrame _ message =>
      cases hw : loop.handler.websocket with
      | none => simpa [Loop.sendFrame, hw] using ho
      | some client =>
          simp only [Loop.sendFrame, hw]
          refine LcuWebsocketHandler.opened_of_some rfl fun hc => ?_
          rw [HttpsWebsocketClient.sendMessage_connected] at hc
          obtain ⟨socket, hs⟩ := Option.isSome_iff_exists.mp (ho client hw hc)
          simp [HttpsWebsocketClient.sendMessage, hs]
  | _ => exact ho

namespace System

variable {ι : Type*} [DecidableEq ι] {system next : System ι} {action : SystemAction ι}

-- The loop is past its test of m_stop, on its way to the receive or in it.
def Receiving (system : System ι) : Prop :=
  system.loop.pc = .check ∨ system.loop.pc = .receive

-- An "Exit" has gone out on the present socket in the present iteration.
def ExitSent (system : System ι) : Prop :=
  exitMessage ∈ system.loop.handler.sentFrames.drop system.mark

-- Some stop() call has written m_stop and still has to look at the socket or
-- to send on it.
def StopUnderWay (system : System ι) : Prop :=
  ∃ thread, system.threads thread = .stopCheck ∨ system.threads thread = .stopSend

-- A stop() that finds the loop past its test of m_stop is still under way
-- until its "Exit" has gone out on the socket the loop receives from.
structure WakeUp (system : System ι) : Prop where
  placed : system.loop.Placed
  opened : system.loop.handler.Opened
  marked : system.Receiving → system.mark ≤ system.loop.handler.sentFrames.length
  woken : system.Receiving → system.loop.handler.isConnected = true →
    system.loop.handler.stop = true → system.StopUnderWay ∨ system.ExitSent

-- The loop only comes to its test of the connection past m_stop unset, and
-- to the receive from there, without touching the socket.
theorem receiving_of_threadStep {loop next : Loop} {action : LoopAction} {more : List LoopEvent}
    (h : Loop.Step loop action next more) (ht : loop.threadStep action = some (next, more))
    (hr : next.pc = .check ∨ next.pc = .receive) :
    next.handler = loop.handler ∧
      (loop.pc = .head ∧ loop.handler.stop = false ∨ loop.pc = .check) := by
  cases h with
  | stopNotSeen hs => exact ⟨rfl, Or.inl ⟨rfl, hs⟩⟩
  | connectionUp _ => exact ⟨rfl, Or.inr rfl⟩
  | notifySilent site _ | notifyReturns site _ | notifyThrows site _ => cases site <;> simp at hr
  | setStop =>
      rw [threadStep_setStop] at ht
      cases ht
  | sendFrame =>
      rw [threadStep_sendFrame] at ht
      cases ht
  | _ => simp at hr

omit [DecidableEq ι] in
theorem WakeUp.loop {loop : Loop} {action : LoopAction} {more : List LoopEvent} {crash : Option Crash}
    (hi : system.WakeUp) (ht : system.loop.threadStep action = some (loop, more))
    (h : Loop.Step system.loop action loop more) :
    WakeUp { system with
      loop := loop
      mark := if system.loop.pc = .head then loop.handler.sentFrames.length else system.mark
      crash := crash } := by
  refine ⟨hi.placed.step h, h.opened hi.opened hi.placed, ?_, ?_⟩
  · intro hr
    obtain ⟨he, ⟨hpc, _⟩ | hpc⟩ := receiving_of_threadStep h ht hr
    · simp [hpc]
    · simpa [hpc, he] using hi.marked (Or.inl hpc)
  · intro hr hc hs
    obtain ⟨he, ⟨_, hn⟩ | hpc⟩ := receiving_of_threadStep h ht hr
    · have hstop : loop.handler.stop = true := hs
      rw [he, hn] at hstop
      cases hstop
    · refine (hi.woken (Or.inl hpc) (he ▸ hc) (he ▸ hs)).imp id fun hx => ?_
      simpa [ExitSent, hpc, he] using hx

theorem StopUnderWay.update {thread : ι} {pc : ThreadPc} {loop : Loop}
    (h : system.StopUnderWay) (hc : system.threads thread ≠ .stopCheck)
    (hs : system.threads thread ≠ .stopSend) :
    StopUnderWay { system with
      loop := loop
      threads := Function.update system.threads thread pc } := by
  obtain ⟨other, ho⟩ := h
  refine ⟨other, ?_⟩
  have hne : other ≠ thread := by
    rintro rfl
    exact ho.elim hc hs
  simpa [Function.update_of_ne hne] using ho

theorem stopUnderWay_self {thread : ι} {pc : ThreadPc} {loop : Loop}
    (h : pc = .stopCheck ∨ pc = .stopSend) :
    StopUnderWay { system with
      loop := loop
      threads := Function.update system.threads thread pc } :=
  ⟨thread, by simpa using h⟩

-- Another thread never shortens what went out on the socket.
theorem length_sentFrames_le {handler after : LcuWebsocketHandler} {pc next : ThreadPc}
    (h : ThreadStep handler pc (.ok (after, next))) :
    handler.sentFrames.length ≤ after.sentFrames.length := by
  cases h with
  | @sent _ message client socket _ hw hs =>
      rw [LcuWebsocketHandler.sentFrames_sendMessage hw hs message, List.length_append]
      omega
  | _ => exact Nat.le_refl _

theorem WakeUp.woken_thread {thread : ι} {handler : LcuWebsocketHandler} {pc : ThreadPc}
    (hi : system.WakeUp) (hr : system.Receiving) (hconn : system.loop.handler.isConnected = true)
    (hstop : handler.stop = true)
    (h : ThreadStep system.loop.handler (system.threads thread) (.ok (handler, pc))) :
    StopUnderWay { system with
      loop := { system.loop with handler := handler }
      threads := Function.update system.threads thread pc } ∨
    exitMessage ∈ handler.sentFrames.drop system.mark := by
  generalize hpc : system.threads thread = before at h
  cases h with
  | callStop | callSend =>
      exact (hi.woken hr hconn hstop).imp
        (fun hu => hu.update (by simp [hpc]) (by simp [hpc])) id
  | stopWrite => exact Or.inl (stopUnderWay_self (Or.inl rfl))
  | connected hu _ =>
      cases before with
      | stopCheck =>
          cases hu
          exact Or.inl (stopUnderWay_self (Or.inr rfl))
      | sendCheck message =>
          exact (hi.woken hr hconn hstop).imp
            (fun hu => hu.update (by simp [hpc]) (by simp [hpc])) id
      | _ => cases hu
  | disconnected _ hd =>
      rw [hd] at hconn
      cases hconn
  | @noSocket _ message client _ hw hn =>
      rw [LcuWebsocketHandler.isConnected_of_some hw] at hconn
      have hsome := hi.opened client hw hconn
      rw [hn] at hsome
      cases hsome
  | @sent _ message client socket hu hw hs =>
      rw [LcuWebsocketHandler.sentFrames_sendMessage hw hs message,
        List.drop_append_of_le_length (hi.marked hr), List.mem_append]
      cases before with
      | stopSend =>
          cases hu
          exact Or.inr (Or.inr (by simp))
      | sendUse message =>
          exact (hi.woken hr hconn hstop).imp
            (fun hu => hu.update (by simp [hpc]) (by simp [hpc])) Or.inl
      | _ => cases hu

theorem isConnected_thread {handler after : LcuWebsocketHandler} {pc next : ThreadPc}
    (h : ThreadStep handler pc (.ok (after, next))) :
    after.isConnected = handler.isConnected := by
  cases h with
  | sent _ hw _ => exact LcuWebsocketHandler.isConnected_sendMessage hw _
  | _ => rfl

theorem WakeUp.thread {thread : ι} {handler : LcuWebsocketHandler} {pc : ThreadPc}
    (hi : system.WakeUp)
    (h : ThreadStep system.loop.handler (system.threads thread) (.ok (handler, pc))) :
    WakeUp { system with
      loop := { system.loop with handler := handler }
      threads := Function.update system.threads thread pc } := by
  have hkeeps := threadStep_keeps (I := fun loop => loop.Placed ∧ loop.handler.Opened)
    (fun _ _ _ _ hi hs => ⟨hi.1.step hs, hs.opened hi.2 hi.1⟩) ⟨hi.placed, hi.opened⟩ h
  refine ⟨hkeeps.1, hkeeps.2, fun hr => ?_, fun hr hc hstop => ?_⟩
  · exact Nat.le_trans (hi.marked hr) (length_sentFrames_le h)
  · exact hi.woken_thread hr ((isConnected_thread h).symm.trans hc) hstop h

theorem WakeUp.step (hi : system.WakeUp) (h : Step system action next) : next.WakeUp := by
  cases h with
  | loop h ht => exact hi.loop ht h
  | thread h => exact hi.thread h
  | crash _ => exact ⟨hi.placed, hi.opened, hi.marked, hi.woken⟩

theorem wakeUp_of_reachable {handler : LcuWebsocketHandler} (hw : handler.websocket = none)
    (h : machine.Reachable (start handler) system) : system.WakeUp := by
  obtain ⟨actions, events, he⟩ := h
  refine machine.invariant ?_ (fun _ _ _ _ hi hs => hi.step (step_cases hs).2) he
  exact ⟨hw, LcuWebsocketHandler.opened_of_none hw, fun hr => by simp [Receiving, start, Loop.start] at hr,
    fun hr => by simp [Receiving, start, Loop.start] at hr⟩

-- Every stop() call has returned.
def StopsReturned (system : System ι) : Prop :=
  ∀ thread, system.threads thread ≠ .stopWrite ∧ system.threads thread ≠ .stopCheck ∧
    system.threads thread ≠ .stopSend

-- A stop is never left without its wake-up: where the loop is about to
-- receive, or blocked in it, on a connected socket with m_stop set, the
-- returned stop() calls have sent "Exit" on that socket in this iteration.
theorem stop_wakes (onMessageReceived onConnected onDisconnected : Bool)
    (h : machine.Reachable (start (.new onMessageReceived onConnected onDisconnected)) system)
    (hpc : system.loop.pc = .receive) (hc : system.loop.handler.isConnected = true)
    (hstop : system.loop.handler.stop = true) (hret : system.StopsReturned) :
    system.ExitSent := by
  obtain ⟨thread, ht⟩ | he := (wakeUp_of_reachable rfl h).woken (Or.inr hpc) hc hstop
  · exact absurd ht (not_or.mpr (hret thread).2)
  · exact he

-- The loop connects and goes into its receive; a stop() then runs through.
def stopDuringReceive : List (SystemAction Unit) :=
  [.loop .run, .loop .tau, .loop .tau, .loop .tau, .loop .tau,
    .loop (.reconnect ⟨.ok (), .ok ⟨"token", 51234⟩, .ok (), .ok (), ⟨.ok (), .ok ()⟩⟩),
    .loop (.callback .onConnected false), .loop .tau, .loop .tau, .thread () (.call .stop),
    .thread () .tau, .thread () .tau, .thread () (.sendFrame (.ok ()))]

theorem stop_wakes_duringReceive :
    ExitSent (machine.final (start (.new true true true)) stopDuringReceive rfl) :=
  stop_wakes true true true (Machine.reachable_final rfl) rfl rfl rfl
    (fun () => ⟨by decide, by decide, by decide⟩)

end System

end Rito

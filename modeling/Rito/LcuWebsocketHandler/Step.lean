import Rito.LcuWebsocketHandler.Loop
import Rito.LcuWebsocketHandler.Theorems

namespace Rito.Loop

-- The three calls of notify_connection_state_changed: where each stands, its
-- argument, where the loop goes on after it and where a throwing callback
-- leads, and what else is observed when it is done.
inductive NotifySite : LoopPc → Bool → LoopPc → LoopPc → List LoopEvent → Prop
  | stop : NotifySite .stopNotify false .idle (.crashed .terminated) [.runReturned]
  | disconnected : NotifySite .notifyDisconnected false .reconnect (.crashed .terminated) []
  | connected : NotifySite .notifyConnected true .head .sleep []

-- Everything one step can do, with the guard of each case.
inductive Step : Loop → LoopAction → Loop → List LoopEvent → Prop
  | run {handler} : Step ⟨handler, .idle⟩ .run ⟨handler, .entered⟩ []
  | clearStop {handler} :
      Step ⟨handler, .entered⟩ .tau ⟨{ handler with stop := false }, .head⟩ []
  | stopSeen {handler} (h : handler.stop = true) :
      Step ⟨handler, .head⟩ .tau ⟨handler, .stopReset⟩ []
  | stopNotSeen {handler} (h : handler.stop = false) :
      Step ⟨handler, .head⟩ .tau ⟨handler, .check⟩ []
  | reset {handler} (h : handler.websocket.any (·.shutsDown) = false) :
      Step ⟨handler, .stopReset⟩ .tau ⟨{ handler with websocket := none }, .stopNotify⟩ []
  | resetShutdown {handler} (h : handler.websocket.any (·.shutsDown) = true) :
      Step ⟨handler, .stopReset⟩ (.shutdown (.ok ()))
        ⟨{ handler with websocket := none }, .stopNotify⟩ []
  | shutdownThrows {handler exception} (h : handler.websocket.any (·.shutsDown) = true) :
      Step ⟨handler, .stopReset⟩ (.shutdown (.error exception)) ⟨handler, .crashed .terminated⟩ []
  | notifySilent {handler pc connected next failed more}
      (site : NotifySite pc connected next failed more)
      (h : handler.notification connected = none) :
      Step ⟨handler, pc⟩ .tau ⟨handler.setStateConnected connected, next⟩ more
  | notifyReturns {handler pc connected next failed more callback}
      (site : NotifySite pc connected next failed more)
      (h : handler.notification connected = some callback) :
      Step ⟨handler, pc⟩ (.callback callback false) ⟨handler.setStateConnected connected, next⟩
        (.invoked callback :: more)
  | notifyThrows {handler pc connected next failed more callback}
      (site : NotifySite pc connected next failed more)
      (h : handler.notification connected = some callback) :
      Step ⟨handler, pc⟩ (.callback callback true) ⟨handler, failed⟩ [.invoked callback]
  | connectionUp {handler} (h : handler.isConnected = true) :
      Step ⟨handler, .check⟩ .tau ⟨handler, .receive⟩ []
  | connectionDown {handler} (h : handler.isConnected = false) :
      Step ⟨handler, .check⟩ .tau ⟨handler, .notifyDisconnected⟩ []
  | received {handler client after transport message} (hw : handler.websocket = some client)
      (h : client.receiveMessage transport = some (.ok message, after, [])) :
      Step ⟨handler, .receive⟩ (.receive transport)
        ⟨{ handler with websocket := some after }, .deliver message⟩ [.received message]
  | receiveFailed {handler client after transport exception}
      (hw : handler.websocket = some client)
      (h : client.receiveMessage transport = some (.error exception, after, [])) :
      Step ⟨handler, .receive⟩ (.receive transport)
        ⟨{ handler with websocket := some after }, .head⟩ []
  | receiveNull {handler transport} (hw : handler.websocket = none) :
      Step ⟨handler, .receive⟩ (.receive transport) ⟨handler, .crashed .nullDereference⟩ []
  | deliverSilent {handler response} (h : handler.onMessageReceived = false) :
      Step ⟨handler, .deliver response⟩ .tau ⟨handler, .head⟩ []
  | deliver {handler response throws} (h : handler.onMessageReceived = true) :
      Step ⟨handler, .deliver response⟩ (.callback (.onMessageReceived response) throws)
        ⟨handler, .head⟩ [.invoked (.onMessageReceived response)]
  | reconnectReturned {handler outcome after}
      (h : handler.reconnect outcome = (.returned, after)) :
      Step ⟨handler, .reconnect⟩ (.reconnect outcome) ⟨after, .notifyConnected⟩ []
  | reconnectThrew {handler outcome after exception}
      (h : handler.reconnect outcome = (.threw exception, after)) :
      Step ⟨handler, .reconnect⟩ (.reconnect outcome) ⟨after, .sleep⟩ []
  | reconnectTerminated {handler outcome after}
      (h : handler.reconnect outcome = (.terminated, after)) :
      Step ⟨handler, .reconnect⟩ (.reconnect outcome) ⟨after, .crashed .terminated⟩ []
  | wake {handler} : Step ⟨handler, .sleep⟩ .tau ⟨handler, .head⟩ []
  | setStop {handler pc} : Step ⟨handler, pc⟩ .setStop ⟨{ handler with stop := true }, pc⟩ []
  | sendFrame {loop message} : Step loop (.sendFrame message) (loop.sendFrame message) []

variable {loop next : Loop} {action : LoopAction} {events : List LoopEvent}

theorem notify_cases {connected : Bool} {done failed : LoopPc}
    (h : loop.notify connected done failed action = some (next, events)) :
    (action = .tau ∧ loop.handler.notification connected = none ∧ events = [] ∧
      next = ⟨loop.handler.setStateConnected connected, done⟩) ∨
    ∃ callback, loop.handler.notification connected = some callback ∧
      events = [.invoked callback] ∧
      ((action = .callback callback false ∧
          next = ⟨loop.handler.setStateConnected connected, done⟩) ∨
        (action = .callback callback true ∧ next = ⟨loop.handler, failed⟩)) := by
  unfold notify at h
  cases action with
  | tau =>
      simp only [Option.ite_none_right_eq_some, Option.some.injEq, Prod.mk.injEq] at h
      obtain ⟨hn, rfl, rfl⟩ := h
      exact Or.inl ⟨rfl, hn, rfl, rfl⟩
  | callback callback throws =>
      cases throws <;>
        simp only [Option.ite_none_right_eq_some, Bool.false_eq_true, if_false, if_true,
          Option.some.injEq, Prod.mk.injEq] at h <;>
        obtain ⟨hn, rfl, rfl⟩ := h
      · exact Or.inr ⟨callback, hn, rfl, Or.inl ⟨rfl, rfl⟩⟩
      · exact Or.inr ⟨callback, hn, rfl, Or.inr ⟨rfl, rfl⟩⟩
  | _ => simp at h

-- A call of notify_connection_state_changed at one of its sites.
theorem Step.of_notify {handler : LcuWebsocketHandler} {pc done failed : LoopPc}
    {connected : Bool} {more : List LoopEvent} (site : NotifySite pc connected done failed more)
    (h : Loop.notify ⟨handler, pc⟩ connected done failed action = some (next, events)) :
    Step ⟨handler, pc⟩ action next (if next.pc = done then events ++ more else events) := by
  have hne : failed ≠ done := by cases site <;> simp
  obtain ⟨rfl, hn, rfl, rfl⟩ | ⟨callback, hn, rfl, ⟨rfl, rfl⟩ | ⟨rfl, rfl⟩⟩ := notify_cases h
  · simpa using Step.notifySilent site hn
  · simpa using Step.notifyReturns site hn
  · simpa [hne] using Step.notifyThrows site hn

theorem Step.of_stopReset {handler : LcuWebsocketHandler}
    (h : Loop.stopReset ⟨handler, .stopReset⟩ action = some (next, events)) :
    Step ⟨handler, .stopReset⟩ action next events := by
  unfold stopReset at h
  cases action with
  | tau =>
      simp only [Option.ite_none_left_eq_some, Bool.not_eq_true, Option.some.injEq,
        Prod.mk.injEq] at h
      obtain ⟨hq, rfl, rfl⟩ := h
      exact .reset hq
  | shutdown result =>
      simp only [Option.ite_none_right_eq_some] at h
      obtain ⟨hq, h⟩ := h
      obtain ⟨client, hw, hs⟩ := (Option.any_eq_true _ _).mp hq
      rw [LcuWebsocketHandler.resetWebsocket_shutsDown hw hs] at h
      cases result with
      | error exception =>
          obtain ⟨rfl, rfl⟩ := Prod.mk.inj (Option.some.inj h)
          exact .shutdownThrows hq
      | ok _ =>
          obtain ⟨rfl, rfl⟩ := Prod.mk.inj (Option.some.inj h)
          exact .resetShutdown hq
  | _ => simp at h

theorem Step.of_receive {handler : LcuWebsocketHandler} {transport : List FrameResult}
    (h : Loop.receive ⟨handler, .receive⟩ transport = some (next, events)) :
    Step ⟨handler, .receive⟩ (.receive transport) next events := by
  unfold receive at h
  split at h
  · rename_i hw
    simp only [Option.some.injEq, Prod.mk.injEq] at h
    obtain ⟨rfl, rfl⟩ := h
    exact .receiveNull hw
  · rename_i client hw
    split at h
    · rename_i message after hr
      simp only [Option.some.injEq, Prod.mk.injEq] at h
      obtain ⟨rfl, rfl⟩ := h
      exact .received hw hr
    · rename_i exception after hr
      simp only [Option.some.injEq, Prod.mk.injEq] at h
      obtain ⟨rfl, rfl⟩ := h
      exact .receiveFailed hw hr
    · cases h

theorem Step.of_reconnect {handler : LcuWebsocketHandler} {outcome : ReconnectOutcome} :
    Step ⟨handler, .reconnect⟩ (.reconnect outcome) (Loop.reconnect ⟨handler, .reconnect⟩ outcome)
      [] := by
  unfold reconnect
  split
  · rename_i after hr
    exact .reconnectReturned hr
  · rename_i exception after hr
    exact .reconnectThrew hr
  · rename_i after hr
    exact .reconnectTerminated hr

theorem threadStep_cases (h : loop.threadStep action = some (next, events)) :
    Step loop action next events := by
  obtain ⟨handler, pc⟩ := loop
  unfold threadStep at h
  simp only [goto] at h
  split at h
  · simp only [Option.some.injEq, Prod.mk.injEq] at h
    obtain ⟨rfl, rfl⟩ := h
    exact .run
  · simp only [Option.some.injEq, Prod.mk.injEq] at h
    obtain ⟨rfl, rfl⟩ := h
    exact .clearStop
  · simp only [Option.some.injEq, Prod.mk.injEq] at h
    obtain ⟨rfl, rfl⟩ := h
    cases hs : handler.stop
    · exact .stopNotSeen hs
    · exact .stopSeen hs
  · exact .of_stopReset h
  · simp only [Option.map_eq_some_iff, Prod.mk.injEq, Prod.exists] at h
    obtain ⟨after, first, hn, rfl, rfl⟩ := h
    exact .of_notify .stop hn
  · simp only [Option.some.injEq, Prod.mk.injEq] at h
    obtain ⟨rfl, rfl⟩ := h
    cases hc : handler.isConnected
    · exact .connectionDown hc
    · exact .connectionUp hc
  · exact .of_receive h
  · simp only [Option.ite_none_left_eq_some, Bool.not_eq_true, Option.some.injEq,
      Prod.mk.injEq] at h
    obtain ⟨hm, rfl, rfl⟩ := h
    exact .deliverSilent hm
  · simp only [Option.ite_none_right_eq_some, Option.some.injEq, Prod.mk.injEq] at h
    obtain ⟨⟨hm, rfl⟩, rfl, rfl⟩ := h
    exact .deliver hm
  · simpa using Step.of_notify .disconnected h
  · simp only [Option.some.injEq, Prod.mk.injEq] at h
    obtain ⟨rfl, rfl⟩ := h
    exact .of_reconnect
  · simpa using Step.of_notify .connected h
  · simp only [Option.some.injEq, Prod.mk.injEq] at h
    obtain ⟨rfl, rfl⟩ := h
    exact .wake
  · cases h

theorem step_cases (h : machine.step loop action = some (next, events)) :
    Step loop action next events := by
  change loop.step action = some (next, events) at h
  unfold step at h
  split at h
  · simp only [Option.some.injEq, Prod.mk.injEq] at h
    obtain ⟨rfl, rfl⟩ := h
    exact .setStop
  · simp only [Option.some.injEq, Prod.mk.injEq] at h
    obtain ⟨rfl, rfl⟩ := h
    exact .sendFrame
  · exact threadStep_cases h

end Rito.Loop

import Rito.LcuWebsocketHandler.Placed
import Rito.LcuWebsocketHandler.Threads

namespace Rito

namespace ThreadPc

-- The message of the use of m_websocket the thread is about to make.
def uses : ThreadPc → Option Bytes
  | .stopSend => some exitMessage
  | .sendUse message => some message
  | _ => none

-- The use that a successful is_connected() leads to.
def checks : ThreadPc → Option ThreadPc
  | .stopCheck => some .stopSend
  | .sendCheck message => some (.sendUse message)
  | _ => none

end ThreadPc

-- Everything one step of a thread in stop() or send_message() can do.
inductive ThreadStep (handler : LcuWebsocketHandler) :
    ThreadPc → Except Crash (LcuWebsocketHandler × ThreadPc) → Prop
  | callStop : ThreadStep handler .outside (.ok (handler, .stopWrite))
  | callSend {message} : ThreadStep handler .outside (.ok (handler, .sendCheck message))
  | stopWrite : ThreadStep handler .stopWrite (.ok ({ handler with stop := true }, .stopCheck))
  | connected {pc use} (hu : pc.checks = some use) (hc : handler.isConnected = true) :
      ThreadStep handler pc (.ok (handler, use))
  | disconnected {pc use} (hu : pc.checks = some use) (hc : handler.isConnected = false) :
      ThreadStep handler pc (.ok (handler, .outside))
  | null {pc message} (hu : pc.uses = some message) (hw : handler.websocket = none) :
      ThreadStep handler pc (.error .nullDereference)
  | noSocket {pc message client} (hu : pc.uses = some message)
      (hw : handler.websocket = some client) (hs : client.websocket = none) :
      ThreadStep handler pc (.ok (handler, .outside))
  | sent {pc message client socket} (hu : pc.uses = some message)
      (hw : handler.websocket = some client) (hs : client.websocket = some socket) :
      ThreadStep handler pc
        (.ok ({ handler with websocket := some (client.sendMessage message (.ok ())).2 }, .outside))
  | threw {pc message client} (hu : pc.uses = some message)
      (hw : handler.websocket = some client) : ThreadStep handler pc (.error .terminated)

namespace LcuWebsocketHandler

-- The ways in which a use of m_websocket ends.
inductive UseEnds (handler : LcuWebsocketHandler) (message : Bytes) :
    ThreadAction → Except Crash (Bool × LcuWebsocketHandler) → Prop
  | null (hw : handler.websocket = none) : UseEnds handler message .tau (.error .nullDereference)
  | noSocket {client : HttpsWebsocketClient} (hw : handler.websocket = some client)
      (hs : client.websocket = none) : UseEnds handler message .tau (.ok (false, handler))
  | sent {client : HttpsWebsocketClient} {socket : WebSocket}
      (hw : handler.websocket = some client) (hs : client.websocket = some socket) :
      UseEnds handler message (.sendFrame (.ok ()))
        (.ok (true, { handler with websocket := some (client.sendMessage message (.ok ())).2 }))
  | threw {client : HttpsWebsocketClient} {exception : TransportException}
      (hw : handler.websocket = some client) :
      UseEnds handler message (.sendFrame (.error exception)) (.error .terminated)

-- The steps of a call, by the place they are taken from, with what they return
-- to the caller.
inductive CallStep (handler : LcuWebsocketHandler) : ThreadPc → ThreadAction →
    Except Crash (LcuWebsocketHandler × ThreadPc × List ThreadEvent) → Prop
  | callStop : CallStep handler .outside (.call .stop) (.ok (handler, .stopWrite, []))
  | callSend (message : Bytes) :
      CallStep handler .outside (.call (.sendMessage message))
        (.ok (handler, .sendCheck message, []))
  | stopWrite :
      CallStep handler .stopWrite .tau (.ok ({ handler with stop := true }, .stopCheck, []))
  | stopConnected (hc : handler.isConnected = true) :
      CallStep handler .stopCheck .tau (.ok (handler, .stopSend, []))
  | stopDisconnected (hc : handler.isConnected = false) :
      CallStep handler .stopCheck .tau (.ok (handler, .outside, [.stopReturned]))
  | sendConnected (message : Bytes) (hc : handler.isConnected = true) :
      CallStep handler (.sendCheck message) .tau (.ok (handler, .sendUse message, []))
  | sendDisconnected (message : Bytes) (hc : handler.isConnected = false) :
      CallStep handler (.sendCheck message) .tau (.ok (handler, .outside, [.sendReturned false]))
  | stopUsed {action : ThreadAction} {sent : Bool} {after : LcuWebsocketHandler}
      (hu : handler.UseEnds exitMessage action (.ok (sent, after))) :
      CallStep handler .stopSend action (.ok (after, .outside, [.stopReturned]))
  | stopCrashed {action : ThreadAction} {crash : Crash}
      (hu : handler.UseEnds exitMessage action (.error crash)) :
      CallStep handler .stopSend action (.error crash)
  | sendUsed {message : Bytes} {action : ThreadAction} {sent : Bool} {after : LcuWebsocketHandler}
      (hu : handler.UseEnds message action (.ok (sent, after))) :
      CallStep handler (.sendUse message) action (.ok (after, .outside, [.sendReturned sent]))
  | sendCrashed {message : Bytes} {action : ThreadAction} {crash : Crash}
      (hu : handler.UseEnds message action (.error crash)) :
      CallStep handler (.sendUse message) action (.error crash)

variable {handler after : LcuWebsocketHandler} {pc next : ThreadPc} {action : ThreadAction}
  {message : Bytes} {crash : Crash} {events : List ThreadEvent}

theorem sentFrames_sendMessage {client : HttpsWebsocketClient} {socket : WebSocket}
    (hw : handler.websocket = some client) (hs : client.websocket = some socket)
    (message : Bytes) :
    ({ handler with websocket := some (client.sendMessage message (.ok ())).2 } :
      LcuWebsocketHandler).sentFrames = handler.sentFrames ++ [message] := by
  simp [sentFrames, HttpsWebsocketClient.sendMessage, hw, hs]

theorem use_ends {result : Except Crash (Bool × LcuWebsocketHandler)}
    (h : handler.useWebsocket message action = some result) :
    handler.UseEnds message action result := by
  unfold useWebsocket at h
  split at h
  · next hw =>
      obtain rfl := Option.some.inj h
      exact .null hw
  · next client hw =>
      obtain ⟨hs, he⟩ := Option.ite_none_right_eq_some.mp h
      obtain rfl := Option.some.inj he
      exact .noSocket hw (Option.isNone_iff_eq_none.mp hs)
  · next client ending hw =>
      obtain ⟨hsome, he⟩ := Option.ite_none_right_eq_some.mp h
      obtain ⟨socket, hs⟩ := Option.isSome_iff_exists.mp hsome
      cases ending with
      | error exception =>
          obtain rfl : .error .terminated = result := by
            simpa [HttpsWebsocketClient.sendMessage, hs] using he
          exact .threw hw
      | ok _ =>
          have hsend : client.sendMessage message (.ok ()) =
              (.ok true, (client.sendMessage message (.ok ())).2) := by
            simp only [HttpsWebsocketClient.sendMessage, hs]
          rw [hsend] at he
          obtain rfl := Option.some.inj he
          exact .sent hw hs
  · cases h

theorem callStep {result : Except Crash (LcuWebsocketHandler × ThreadPc × List ThreadEvent)}
    (h : handler.threadStep pc action = some result) : handler.CallStep pc action result := by
  unfold threadStep at h
  split at h
  · obtain rfl := Option.some.inj h
    exact .callStop
  · obtain rfl := Option.some.inj h
    exact .callSend _
  · obtain rfl := Option.some.inj h
    exact .stopWrite
  · split at h
    · next hc =>
        obtain rfl := Option.some.inj h
        exact .stopConnected hc
    · next hc =>
        obtain rfl := Option.some.inj h
        exact .stopDisconnected (by simpa using hc)
  · obtain ⟨used, hu, rfl⟩ := Option.map_eq_some_iff.mp h
    cases used with
    | error crash => exact .stopCrashed (use_ends hu)
    | ok _ => exact .stopUsed (use_ends hu)
  · split at h
    · next hc =>
        obtain rfl := Option.some.inj h
        exact .sendConnected _ hc
    · next hc =>
        obtain rfl := Option.some.inj h
        exact .sendDisconnected _ (by simpa using hc)
  · obtain ⟨used, hu, rfl⟩ := Option.map_eq_some_iff.mp h
    cases used with
    | error crash => exact .sendCrashed (use_ends hu)
    | ok _ => exact .sendUsed (use_ends hu)
  · cases h

theorem UseEnds.threadStep_error (h : handler.UseEnds message action (.error crash))
    (hu : pc.uses = some message) : ThreadStep handler pc (.error crash) := by
  cases h with
  | null hw => exact .null hu hw
  | threw hw => exact .threw hu hw

theorem UseEnds.threadStep_ok {sent : Bool}
    (h : handler.UseEnds message action (.ok (sent, after))) (hu : pc.uses = some message) :
    ThreadStep handler pc (.ok (after, .outside)) := by
  cases h with
  | noSocket hw hs => exact .noSocket hu hw hs
  | sent hw hs => exact .sent hu hw hs

theorem threadStep_error (h : handler.threadStep pc action = some (.error crash)) :
    ThreadStep handler pc (.error crash) := by
  cases callStep h with
  | stopCrashed hu => exact hu.threadStep_error rfl
  | sendCrashed hu => exact hu.threadStep_error rfl

theorem threadStep_ok (h : handler.threadStep pc action = some (.ok (after, next, events))) :
    ThreadStep handler pc (.ok (after, next)) := by
  cases callStep h with
  | callStop => exact .callStop
  | callSend => exact .callSend
  | stopWrite => exact .stopWrite
  | stopConnected hc => exact .connected rfl hc
  | stopDisconnected hc => exact .disconnected rfl hc
  | sendConnected _ hc => exact .connected rfl hc
  | sendDisconnected _ hc => exact .disconnected rfl hc
  | stopUsed hu => exact hu.threadStep_ok rfl
  | sendUsed hu => exact hu.threadStep_ok rfl

end LcuWebsocketHandler

namespace System

variable {ι : Type*} [DecidableEq ι] {system next : System ι} {action : SystemAction ι}
  {events : List (SystemEvent ι)}

-- Everything one step of the process can do.
inductive Step (system : System ι) : SystemAction ι → System ι → Prop
  | loop {action loop more} (h : Loop.Step system.loop action loop more)
      (ht : system.loop.threadStep action = some (loop, more)) :
      Step system (.loop action) { system with
        loop := loop
        mark := if system.loop.pc = .head then loop.handler.sentFrames.length else system.mark
        crash := match loop.pc with
          | .crashed crash => some crash
          | _ => none }
  | thread {thread action handler pc}
      (h : ThreadStep system.loop.handler (system.threads thread) (.ok (handler, pc))) :
      Step system (.thread thread action) { system with
        loop := { system.loop with handler := handler }
        threads := Function.update system.threads thread pc }
  | crash {thread action crash}
      (h : ThreadStep system.loop.handler (system.threads thread) (.error crash)) :
      Step system (.thread thread action) { system with crash := some crash }

theorem step_cases (h : machine.step system action = some (next, events)) :
    system.crash = none ∧ Step system action next := by
  change system.step action = some (next, events) at h
  unfold step at h
  split at h
  · cases h
  rename_i hc
  refine ⟨by simpa using hc, ?_⟩
  cases action with
  | loop action =>
      simp only [loopStep] at h
      split at h
      · cases h
      · rename_i loop more ht
        simp only [Option.some.injEq, Prod.mk.injEq] at h
        obtain ⟨rfl, rfl⟩ := h
        exact .loop (Loop.threadStep_cases ht) ht
  | thread thread action =>
      simp only [otherStep] at h
      split at h
      · cases h
      · rename_i crash ht
        simp only [Option.some.injEq, Prod.mk.injEq] at h
        obtain ⟨rfl, rfl⟩ := h
        exact .crash (LcuWebsocketHandler.threadStep_error ht)
      · rename_i handler pc more ht
        simp only [Option.some.injEq, Prod.mk.injEq] at h
        obtain ⟨rfl, rfl⟩ := h
        exact .thread (LcuWebsocketHandler.threadStep_ok ht)

-- The loop sees a step of another thread as nothing, as m_stop being set or
-- as a frame going out.
theorem threadStep_loop {loop : Loop} {pc after : ThreadPc} {handler : LcuWebsocketHandler}
    (h : ThreadStep loop.handler pc (.ok (handler, after))) :
    { loop with handler := handler } = loop ∨
      ∃ action, Loop.machine.step loop action = some ({ loop with handler := handler }, []) := by
  cases h with
  | stopWrite => exact Or.inr ⟨.setStop, rfl⟩
  | @sent _ message client socket hu hw hs =>
      refine Or.inr ⟨.sendFrame message, ?_⟩
      change some (loop.sendFrame message, []) = _
      rw [Loop.sendFrame, hw]
  | _ => exact Or.inl rfl

-- What every step of the loop's own machine keeps, a step of another thread
-- keeps too.
theorem threadStep_keeps {I : Loop → Prop}
    (hstep : ∀ loop action next more, I loop → Loop.Step loop action next more → I next)
    {loop : Loop} {pc after : ThreadPc} {handler : LcuWebsocketHandler} (hi : I loop)
    (h : ThreadStep loop.handler pc (.ok (handler, after))) : I { loop with handler := handler } := by
  obtain he | ⟨action, hs⟩ := threadStep_loop h
  · exact he ▸ hi
  · exact hstep _ _ _ _ hi (Loop.step_cases hs)

-- No place of the thread in run() takes the steps of the other threads.
theorem threadStep_setStop (loop : Loop) : loop.threadStep .setStop = none := by
  unfold Loop.threadStep
  split <;> simp_all [Loop.stopReset, Loop.notify]

theorem threadStep_sendFrame (loop : Loop) (message : Bytes) :
    loop.threadStep (.sendFrame message) = none := by
  unfold Loop.threadStep
  split <;> simp_all [Loop.stopReset, Loop.notify]

theorem step_of_threadStep {loop after : Loop} {action : LoopAction} {more : List LoopEvent}
    (h : loop.threadStep action = some (after, more)) :
    Loop.machine.step loop action = some (after, more) := by
  cases action with
  | setStop =>
      rw [threadStep_setStop] at h
      cases h
  | sendFrame message =>
      rw [threadStep_sendFrame] at h
      cases h
  | _ => exact h

-- What the loop does among other threads it can also do alone, with their
-- steps played by the environment.
theorem loop_reachable {handler : LcuWebsocketHandler}
    (h : machine.Reachable (start handler) system) :
    Loop.machine.Reachable (Loop.start handler) system.loop := by
  apply h.project System.loop
  intro system action next _ hs
  cases (step_cases hs).2 with
  | loop _ ht => exact Or.inr ⟨_, _, step_of_threadStep ht⟩
  | thread ht =>
      obtain he | ⟨action, hl⟩ := threadStep_loop ht
      · exact Or.inl he
      · exact Or.inr ⟨action, [], hl⟩
  | crash _ => exact Or.inl rfl

end System

end Rito

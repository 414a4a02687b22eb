import Rito.LcuWebsocketHandler.Stands

namespace Rito

variable {ι : Type*} [DecidableEq ι]

-- What a step of the atomic process leaves: the loop and the threads it is to
-- have, and no crash.
structure System.Becomes (next : System ι) (loop : Loop) (threads : ι → ThreadPc) : Prop where
  loop : next.loop = loop
  threads : next.threads = threads
  crash : next.crash = none

namespace Loop

variable {handler : LcuWebsocketHandler} {pc : LoopPc} {action : LoopAction} {loop : Loop}
  {more : List LoopEvent}

-- A step that is not one of m_websocket does not depend on it.
theorem threadStep_frame (hp : pc.entry = none) (hr : pc ≠ .receive)
    (h : threadStep ⟨handler, pc⟩ action = some (loop, more))
    (websocket : Option HttpsWebsocketClient) :
    threadStep ⟨{ handler with websocket := websocket }, pc⟩ action =
      some (⟨{ loop.handler with websocket := websocket }, loop.pc⟩, more) := by
  have hn : ∀ connected, ({ handler with websocket := websocket } :
      LcuWebsocketHandler).notification connected = handler.notification connected :=
    fun _ => rfl
  cases threadStep_cases h with
  | run => rfl
  | clearStop => rfl
  | stopSeen hs | stopNotSeen hs => simp [threadStep, goto, hs]
  | reset | resetShutdown | shutdownThrows | connectionUp | connectionDown | reconnectReturned
  | reconnectThrew | reconnectTerminated => cases hp
  | received | receiveFailed | receiveNull => exact absurd rfl hr
  | notifySilent site hs | notifyReturns site hs | notifyThrows site hs =>
      cases site <;> simp [threadStep, notify, goto, hn, hs] <;> rfl
  | deliverSilent hm | deliver hm => simp [threadStep, goto, hm]
  | wake => rfl
  | setStop =>
      rw [System.threadStep_setStop] at h
      cases h
  | sendFrame =>
      rw [System.threadStep_sendFrame] at h
      cases h

end Loop

namespace System

variable {system : System ι} {thread : ι}

theorem step_of_loop {action : LoopAction} {loop : Loop} {more : List LoopEvent}
    (hc : system.crash = none) (h : system.loop.threadStep action = some (loop, more))
    (hpc : ∀ crash, loop.pc ≠ .crashed crash) :
    ∃ next, machine.step system (.loop action) = some (next, more.map .loop) ∧
      next.Becomes loop system.threads := by
  change ∃ next, system.step (.loop action) = _ ∧ _
  simp only [step, hc, Option.isSome_none, Bool.false_eq_true, if_false, loopStep, h]
  exact ⟨_, rfl, rfl, rfl, rfl⟩

theorem step_of_crash {action : LoopAction} {loop : Loop} {more : List LoopEvent} {crash : Crash}
    (hc : system.crash = none) (h : system.loop.threadStep action = some (loop, more))
    (hpc : loop.pc = .crashed crash) :
    ∃ next, machine.step system (.loop action) = some (next, more.map .loop) ∧
      next.crash = some crash := by
  change ∃ next, system.step (.loop action) = _ ∧ _
  simp only [step, hc, Option.isSome_none, Bool.false_eq_true, if_false, loopStep, h]
  refine ⟨_, rfl, ?_⟩
  simp only [hpc]

theorem step_of_thread {action : ThreadAction} {handler : LcuWebsocketHandler} {pc : ThreadPc}
    {more : List ThreadEvent} (hc : system.crash = none)
    (h : system.loop.handler.threadStep (system.threads thread) action =
      some (.ok (handler, pc, more))) :
    ∃ next, machine.step system (.thread thread action) =
        some (next, more.map (.thread thread)) ∧
      next.Becomes { system.loop with handler := handler }
        (Function.update system.threads thread pc) := by
  change ∃ next, system.step (.thread thread action) = _ ∧ _
  simp only [step, hc, Option.isSome_none, Bool.false_eq_true, if_false, otherStep, h]
  exact ⟨_, rfl, rfl, rfl, rfl⟩

theorem step_of_thread_crash {action : ThreadAction} {crash : Crash} (hc : system.crash = none)
    (h : system.loop.handler.threadStep (system.threads thread) action = some (.error crash)) :
    machine.step system (.thread thread action) =
      some ({ system with crash := some crash }, []) := by
  change system.step (.thread thread action) = _
  simp only [step, hc, Option.isSome_none, Bool.false_eq_true, if_false, otherStep, h]

end System

namespace LcuWebsocketHandler

variable {handler : LcuWebsocketHandler} {client : HttpsWebsocketClient} {message : Bytes}

theorem useWebsocket_none (message : Bytes) (hw : handler.websocket = none) :
    handler.useWebsocket message .tau = some (.error .nullDereference) := by
  simp only [useWebsocket, hw]

theorem useWebsocket_not_sent (message : Bytes) (hw : handler.websocket = some client)
    (hs : client.websocket = none) :
    handler.useWebsocket message .tau = some (.ok (false, handler)) := by
  simp only [useWebsocket, hw, hs, Option.isNone_none, if_true]

theorem useWebsocket_sent (message : Bytes) (hw : handler.websocket = some client)
    (hs : client.websocket.isSome = true) :
    handler.useWebsocket message (.sendFrame (.ok ())) = some (.ok (true,
      { handler with websocket := some (client.sendMessage message (.ok ())).2 })) := by
  obtain ⟨socket, hsocket⟩ := Option.isSome_iff_exists.mp hs
  simp only [useWebsocket, hw, hsocket, Option.isSome_some, if_true,
    HttpsWebsocketClient.sendMessage]

theorem useWebsocket_threw (message : Bytes) (hw : handler.websocket = some client)
    (hs : client.websocket.isSome = true) (exception : TransportException) :
    handler.useWebsocket message (.sendFrame (.error exception)) =
      some (.error .terminated) := by
  obtain ⟨socket, hsocket⟩ := Option.isSome_iff_exists.mp hs
  simp only [useWebsocket, hw, hsocket, Option.isSome_some, if_true,
    HttpsWebsocketClient.sendMessage]

-- A call of send_message() on the client, as one step.
theorem useWebsocket_of_sends {found : Option HttpsWebsocketClient} {value : Bool}
    (h : Sends message handler.websocket found value) : ∃ action,
    handler.useWebsocket message action =
      some (.ok (value, { handler with websocket := found })) := by
  obtain ⟨client, hw, hsends⟩ := h
  cases value with
  | false =>
      obtain ⟨hs, rfl⟩ := hsends
      exact ⟨.tau, useWebsocket_not_sent message hw hs⟩
  | true =>
      obtain ⟨hs, rfl⟩ := hsends
      exact ⟨.sendFrame (.ok ()), useWebsocket_sent message hw hs⟩

end LcuWebsocketHandler

section Commits

variable {system : System ι} {sockets : Sockets} {entry : Inside} {ending : Ending}

-- A test that finds the connection up is taken when it reads m_connected.
theorem loop_tested (hc : system.crash = none) (hpc : system.loop.pc = .check)
    (hup : system.loop.handler.isConnected = true) :
    ∃ next, System.machine.step system (.loop .tau) = some (next, []) ∧
      next.Becomes { system.loop with pc := .receive } system.threads := by
  have hstep : system.loop.threadStep .tau = some ({ system.loop with pc := .receive }, []) := by
    unfold Loop.threadStep
    simp only [hpc, hup, if_true]
    rfl
  exact System.step_of_loop hc hstep (by simp)

theorem keepWebsocket {handler : LcuWebsocketHandler} {object : Option HttpsWebsocketClient}
    (h : object = handler.websocket) : { handler with websocket := object } = handler := by
  rw [h]

-- The reset in the stop branch as one step, when its shutdown() returns.
theorem reset_commits {handler : LcuWebsocketHandler} :
    ∃ action, Loop.threadStep ⟨handler, .stopReset⟩ action =
      some (⟨{ handler with websocket := none }, .stopNotify⟩, []) := by
  by_cases hs : handler.websocket.any (·.shutsDown) = true
  · obtain ⟨client, hw, hclient⟩ := (Option.any_eq_true _ _).mp hs
    refine ⟨.shutdown (.ok ()), ?_⟩
    simp only [Loop.threadStep, Loop.stopReset, hs, if_true,
      LcuWebsocketHandler.resetWebsocket_shutsDown hw hclient]
    rfl
  · exact ⟨.tau, by simp only [Loop.threadStep, Loop.stopReset, hs, Bool.false_eq_true, if_false]⟩

-- The other critical sections of the loop are taken, as one step, when they
-- unlock.
theorem loop_commits {here : LoopPc} (hc : system.crash = none) (hpc : system.loop.pc = here)
    (he : here.entry = some entry)
    (ho : outline system.loop.handler.websocket sockets entry.block (.inr ending))
    (hn : ending ≠ .tested true) :
    ∃ action next, System.machine.step system (.loop action) = some (next, []) ∧
      next.Becomes ⟨{ system.loop.handler with websocket := sockets.object },
        LoopPc.exit ending⟩ system.threads := by
  obtain ⟨⟨handler, pc⟩, threads, mark, crash⟩ := system
  subst hpc
  obtain ⟨hends, ho⟩ := ho
  suffices hstep : ∃ action, Loop.threadStep ⟨handler, pc⟩ action =
      some (⟨{ handler with websocket := sockets.object }, LoopPc.exit ending⟩, []) by
    obtain ⟨action, hstep⟩ := hstep
    refine ⟨action, System.step_of_loop hc hstep fun crash hcrash => ?_⟩
    cases ending with
    | tested connected => cases connected <;> cases hcrash
    | reconnected result => cases result <;> cases hcrash
    | _ => cases hcrash
  cases pc with
  | check =>
      obtain rfl := Option.some.inj he
      cases ending with
      | tested connected =>
          cases connected with
          | true => exact absurd rfl hn
          | false =>
              have hdown := LcuWebsocketHandler.isConnected_of_unconnected (ho.2 rfl)
                (rfl : handler.websocket = _)
              refine ⟨.tau, ?_⟩
              rw [keepWebsocket ho.1]
              simp only [Loop.threadStep, hdown, Bool.false_eq_true, if_false]
              rfl
      | _ => cases hends
  | stopReset =>
      obtain rfl := Option.some.inj he
      cases ending with
      | dropped =>
          have hobject : sockets.object = none := ho
          rw [hobject]
          exact reset_commits
      | _ => cases hends
  | reconnect =>
      obtain rfl := Option.some.inj he
      cases ending with
      | reconnected result =>
          obtain ⟨outcome, hreconnect⟩ := ho
          have hdone := hreconnect handler rfl
          refine ⟨.reconnect outcome, ?_⟩
          cases result <;> simp only [Loop.threadStep, Loop.reconnect, hdone, completion] <;> rfl
      | _ => cases hends
  | _ => cases he

-- What an iteration of the for loop in receive_message() leaves: it goes on, the connection is to be
-- written down as lost, or the call is over and has left the client as it was.
inductive Iterates (client : Nat) : LoopPlace → List LoopEvent → Prop
  | goesOn {left messageBuffer} (seen) (h : Continues seen left messageBuffer) :
      Iterates client (.receiveFrame client left messageBuffer) []
  | loses (seen) (h : Loses seen) : Iterates client (.receiveClear client) []
  | fails (seen exception) (h : ∀ object : HttpsWebsocketClient, object.websocket.isSome = true →
      object.receiveMessage seen = some (.error exception, object, [])) :
      Iterates client (.ready .head) []
  | returns (seen) {message} (h : ∀ object : HttpsWebsocketClient, object.websocket.isSome = true →
      object.receiveMessage seen = some (.ok message, object, [])) :
      Iterates client (.ready (.deliver message)) [.received message]

theorem FrameStep.iterates {client left : Nat} {messageBuffer : Bytes} {input : Input}
    {place : LoopPlace} {events : List LoopEvent} {seen : List FrameResult}
    (h : FrameStep client left messageBuffer input place events)
    (hc : Continues seen left messageBuffer) : Iterates client place events := by
  cases h with
  | tooLong =>
      refine .fails (seen ++ []) HttpsWebsocketClient.messageTooLong fun object hs => ?_
      obtain ⟨connected, host, port, credentials, _ | socket⟩ := object
      · cases hs
      · have hframes := hc []
        rw [HttpsWebsocketClient.receiveFrames] at hframes
        simp only [HttpsWebsocketClient.receiveMessage, hframes, Bool.not_false, Bool.and_true]
  | @timedOut _ _ what =>
      refine .fails (seen ++ [.throws (.timeout what)]) HttpsWebsocketClient.notStarted
        fun object hs => ?_
      obtain ⟨connected, host, port, credentials, _ | socket⟩ := object
      · cases hs
      · have hframes := hc [.throws (.timeout what)]
        rw [HttpsWebsocketClient.receiveFrames] at hframes
        simp only [HttpsWebsocketClient.receiveMessage, hframes]
  | @interrupted _ _ exception he =>
      refine .loses (seen ++ [.throws exception]) fun object hs => ?_
      obtain ⟨connected, host, port, credentials, _ | socket⟩ := object
      · cases hs
      · have hframes := hc [.throws exception]
        rw [HttpsWebsocketClient.receiveFrames] at hframes
        cases exception with
        | timeout what => exact absurd rfl (he what)
        | websocket what | message what | other what =>
            exact ⟨_, by simp only [HttpsWebsocketClient.receiveMessage, hframes]; rfl⟩
  | @closed _ _ flags payload hclose =>
      refine .loses (seen ++ [.frame flags payload]) fun object hs => ?_
      obtain ⟨connected, host, port, credentials, _ | socket⟩ := object
      · cases hs
      · have hframes := hc [.frame flags payload]
        rw [HttpsWebsocketClient.receiveFrames, if_pos hclose] at hframes
        refine ⟨.websocket "Websocket client is disconnected", ?_⟩
        simp only [HttpsWebsocketClient.receiveMessage, hframes, Bool.not_true, Bool.and_false]
        rfl
  | @final _ _ flags payload hopen hfin =>
      refine .returns (seen ++ [.frame flags payload]) fun object hs => ?_
      obtain ⟨connected, host, port, credentials, _ | socket⟩ := object
      · cases hs
      · have hframes := hc [.frame flags payload]
        rw [HttpsWebsocketClient.receiveFrames, if_neg hopen, if_pos hfin] at hframes
        simp only [HttpsWebsocketClient.receiveMessage, hframes]
  | @more _ _ flags payload hopen hfin =>
      refine .goesOn (seen ++ [.frame flags payload]) fun rest => ?_
      rw [List.append_assoc, hc, List.singleton_append, HttpsWebsocketClient.receiveFrames,
        if_neg hopen, if_neg hfin]

-- The call as one step.
theorem receive_commits {object after : HttpsWebsocketClient} {seen : List FrameResult}
    {result : Except Exception Bytes} (hc : system.crash = none)
    (hpc : system.loop.pc = .receive) (hw : system.loop.handler.websocket = some object)
    (h : object.receiveMessage seen = some (result, after, [])) :
    ∃ next, System.machine.step system (.loop (.receive seen)) =
        some (next, (result.toOption.map LoopEvent.received).toList.map .loop) ∧
      next.Becomes ⟨{ system.loop.handler with websocket := some after },
        match result with
        | .ok message => .deliver message
        | .error _ => .head⟩ system.threads := by
  refine System.step_of_loop hc ?_ fun crash hcrash => ?_
  · unfold Loop.threadStep
    simp only [hpc, Loop.receive, hw, h]
    cases result <;> rfl
  · cases result <;> cases hcrash

theorem receive_null (hc : system.crash = none) (hpc : system.loop.pc = .receive)
    (hw : system.loop.handler.websocket = none) :
    ∃ next, System.machine.step system (.loop (.receive [])) = some (next, []) ∧
      next.crash = some .nullDereference := by
  have hstep : system.loop.threadStep (.receive []) =
      some (system.loop.goto (.crashed .nullDereference), []) := by
    unfold Loop.threadStep
    simp only [hpc, Loop.receive, hw]
  exact System.step_of_crash hc hstep rfl

theorem thread_tested {thread : ι} {here : ThreadPc} (hc : system.crash = none)
    (hpc : system.threads thread = here) (he : here.entry = some entry)
    (hb : entry.block = .isConnected) (hup : system.loop.handler.isConnected = true) :
    ∃ next, System.machine.step system (.thread thread .tau) = some (next, []) ∧
      next.Becomes system.loop
        (Function.update system.threads thread (here.exit (.tested true)).1) := by
  suffices hstep : system.loop.handler.threadStep (system.threads thread) .tau =
      some (.ok (system.loop.handler, (here.exit (.tested true)).1, [])) from
    System.step_of_thread hc hstep
  rw [hpc]
  cases here with
  | stopCheck | sendCheck message =>
      simp only [LcuWebsocketHandler.threadStep, hup, if_true]
      rfl
  | sendUse message =>
      obtain rfl := Option.some.inj he
      cases hb
  | _ => cases he

theorem thread_commits {thread : ι} {here : ThreadPc} (hc : system.crash = none)
    (hpc : system.threads thread = here) (he : here.entry = some entry)
    (ho : outline system.loop.handler.websocket sockets entry.block (.inr ending))
    (hn : ending ≠ .tested true) :
    ∃ action next, System.machine.step system (.thread thread action) =
        some (next, (here.exit ending).2.map (.thread thread)) ∧
      next.Becomes { system.loop with
          handler := { system.loop.handler with websocket := sockets.object } }
        (Function.update system.threads thread (here.exit ending).1) := by
  obtain ⟨hends, ho⟩ := ho
  suffices hstep : ∃ action, system.loop.handler.threadStep (system.threads thread) action =
      some (.ok ({ system.loop.handler with websocket := sockets.object }, here.exit ending)) by
    obtain ⟨action, hstep⟩ := hstep
    exact ⟨action, System.step_of_thread hc hstep⟩
  rw [hpc]
  cases here with
  | stopCheck | sendCheck message =>
      obtain rfl := Option.some.inj he
      cases ending with
      | tested connected =>
          cases connected with
          | true => exact absurd rfl hn
          | false =>
              have hdown := LcuWebsocketHandler.isConnected_of_unconnected (ho.2 rfl)
                (rfl : system.loop.handler.websocket = _)
              refine ⟨.tau, ?_⟩
              rw [keepWebsocket ho.1]
              simp only [LcuWebsocketHandler.threadStep, hdown, Bool.false_eq_true, if_false]
              rfl
      | _ => cases hends
  | sendUse message =>
      obtain rfl := Option.some.inj he
      cases ending with
      | sent value =>
          obtain ⟨other, hblock, hsends⟩ := ho
          obtain rfl := CriticalSection.sendMessage.inj hblock
          obtain ⟨action, huse⟩ := LcuWebsocketHandler.useWebsocket_of_sends hsends
          refine ⟨action, ?_⟩
          simp only [LcuWebsocketHandler.threadStep, huse]
          rfl
      | _ => cases hends
  | _ => cases he

end Commits

end Rito

import Rito.LcuWebsocketHandler.CallbackTrace
import Rito.LcuWebsocketHandler.RunEnds
import Rito.Simulation

namespace Rito

namespace LcuWebsocketHandler

variable (handler : LcuWebsocketHandler) (stop : Bool)

-- No call reads m_stop, and only stop() writes it.
theorem useWebsocket_stop (message : Bytes) (action : ThreadAction) :
    ({ handler with stop := stop } : LcuWebsocketHandler).useWebsocket message action =
      (handler.useWebsocket message action).map fun result =>
        result.map fun (sent, after) => (sent, { after with stop := stop }) := by
  cases hw : handler.websocket with
  | none => cases action <;> simp [useWebsocket, hw, Except.map]
  | some client =>
      cases action with
      | call call => simp [useWebsocket, hw]
      | tau => by_cases hs : client.websocket.isNone <;> simp [useWebsocket, hw, hs, Except.map]
      | sendFrame result =>
          by_cases hs : client.websocket.isSome
          · simp only [useWebsocket, hw, hs, if_true]
            cases hsend : client.sendMessage message result with
            | mk sent after => cases sent <;> rfl
          · simp [useWebsocket, hw, hs]

theorem threadStep_stop (pc : ThreadPc) (action : ThreadAction) :
    ({ handler with stop := stop } : LcuWebsocketHandler).threadStep pc action =
      (handler.threadStep pc action).map fun result => result.map fun (after, rest) =>
        ({ after with stop := if pc = .stopWrite then true else stop }, rest) := by
  have hconnected : ({ handler with stop := stop } : LcuWebsocketHandler).isConnected =
      handler.isConnected := rfl
  cases pc with
  | outside =>
      cases action with
      | call call => cases call <;> rfl
      | tau | sendFrame => rfl
  | stopWrite => cases action <;> rfl
  | stopCheck | sendCheck message =>
      cases action with
      | tau => by_cases hc : handler.isConnected <;> simp [threadStep, hconnected, hc, Except.map]
      | call | sendFrame => rfl
  | stopSend | sendUse message =>
      simp only [threadStep, useWebsocket_stop]
      cases handler.useWebsocket _ action with
      | none => rfl
      | some result => cases result <;> rfl

end LcuWebsocketHandler

namespace Loop

variable {loop next : Loop} {action : LoopAction} {more : List LoopEvent}
  {handler : LcuWebsocketHandler}

-- What is left of a run() when it has returned: nothing but m_stop.
structure Returned (handler : LcuWebsocketHandler) (loop : Loop) : Prop where
  placed : loop.Placed
  callbacks : SameCallbacks handler loop.handler
  state : loop.pc = .idle ∨ loop.pc = .entered → loop.handler.isStateConnected = false

theorem Returned.step (hi : Returned handler loop) (h : Step loop action next more) :
    Returned handler next where
  placed := hi.placed.step h
  callbacks := by
    obtain ⟨hm, hc, hd⟩ := h.sameCallbacks hi.placed
    exact ⟨hm.trans hi.callbacks.1, hc.trans hi.callbacks.2.1, hd.trans hi.callbacks.2.2⟩
  state := by
    intro hpc
    cases h with
    | run => exact hi.state (Or.inl rfl)
    | notifySilent site _ | notifyReturns site _ =>
        cases site with
        | stop => rfl
        | disconnected | connected => simp at hpc
    | notifyThrows site _ => cases site <;> simp at hpc
    | setStop => exact hi.state hpc
    | sendFrame =>
        rw [(sendFrame_sameFlags loop _).isStateConnected]
        exact hi.state (by simpa using hpc)
    | _ => simp at hpc

theorem returned_of_reachable {onMessageReceived onConnected onDisconnected : Bool}
    (h : machine.Reachable (start (.new onMessageReceived onConnected onDisconnected)) loop) :
    Returned (.new onMessageReceived onConnected onDisconnected) loop := by
  obtain ⟨actions, events, he⟩ := h
  have hstart : Returned (.new onMessageReceived onConnected onDisconnected)
      (start (.new onMessageReceived onConnected onDisconnected)) :=
    ⟨rfl, ⟨rfl, rfl, rfl⟩, fun _ => rfl⟩
  exact machine.invariant hstart
    (fun _ _ _ _ hi hs => hi.step (step_cases hs)) he

end Loop

namespace System

variable {ι : Type*} [DecidableEq ι] {system other next : System ι} {action : SystemAction ι}
  {events : List (SystemEvent ι)}

-- Two processes that differ in nothing but an m_stop that run() is yet to clear,
-- and in how many frames were sent before.
structure Alike (system other : System ι) : Prop where
  pc : other.loop.pc = system.loop.pc
  threads : other.threads = system.threads
  crash : other.crash = system.crash
  handler : other.loop.handler =
    { system.loop.handler with stop := other.loop.handler.stop }
  stop : other.loop.handler.stop = system.loop.handler.stop ∨
    system.loop.pc = .idle ∨ system.loop.pc = .entered

omit [DecidableEq ι] in
theorem Alike.symm (ha : Alike system other) : Alike other system where
  pc := ha.pc.symm
  threads := ha.threads.symm
  crash := ha.crash.symm
  handler := by rw [ha.handler]
  stop := by
    rw [ha.pc]
    exact ha.stop.imp_left Eq.symm

omit [DecidableEq ι] in
-- The loop of the one does what that of the other does.
theorem Alike.loop_step (ha : Alike system other) {act : LoopAction} {loop : Loop}
    {more : List LoopEvent} (h : system.loop.threadStep act = some (loop, more)) :
    ∃ after, other.loop.threadStep act = some (after, more) ∧ after.pc = loop.pc ∧
      after.handler = { loop.handler with stop := after.handler.stop } ∧
      (after.handler.stop = loop.handler.stop ∨ loop.pc = .idle ∨ loop.pc = .entered) := by
  obtain ⟨⟨handler, pc⟩, threads, mark, crash⟩ := system
  obtain ⟨⟨otherHandler, otherPc⟩, otherThreads, otherMark, otherCrash⟩ := other
  obtain ⟨rfl, -, -, hhandler, hstop⟩ := ha
  dsimp only at hhandler hstop h
  by_cases hsame : otherHandler.stop = handler.stop
  · rw [hsame] at hhandler
    subst hhandler
    exact ⟨loop, h, rfl, rfl, Or.inl rfl⟩
  · have hpc := hstop.resolve_left hsame
    cases Loop.threadStep_cases h with
    | run => exact ⟨⟨otherHandler, .entered⟩, rfl, rfl, hhandler, Or.inr (Or.inr rfl)⟩
    | clearStop =>
        refine ⟨⟨{ otherHandler with stop := false }, .head⟩, rfl, rfl, ?_, Or.inl rfl⟩
        rw [hhandler]
    | notifySilent site _ | notifyReturns site _ | notifyThrows site _ =>
        cases site <;> simp at hpc
    | setStop =>
        rw [threadStep_setStop] at h
        cases h
    | sendFrame =>
        rw [threadStep_sendFrame] at h
        cases h
    | _ => simp at hpc

theorem exists_loop_step {act : LoopAction} {loop : Loop} {more : List LoopEvent}
    (hc : system.crash = none) (ht : system.loop.threadStep act = some (loop, more)) :
    ∃ next, machine.step system (.loop act) = some (next, more.map .loop) ∧
      next.loop = loop ∧ next.threads = system.threads ∧ next.crash = loop.pc.crash := by
  change ∃ next, system.step (.loop act) = _ ∧ _
  simp only [step, hc, Option.isSome_none, Bool.false_eq_true, if_false, loopStep, ht]
  exact ⟨_, rfl, rfl, rfl, rfl⟩

theorem Alike.step (ha : Alike system other)
    (h : machine.step system action = some (next, events)) :
    ∃ after, machine.step other action = some (after, events) ∧ Alike next after := by
  have hc := (step_cases h).1
  have hother : other.crash = none := ha.crash.trans hc
  cases action with
  | loop act =>
      obtain ⟨loop, more, ht, rfl, rfl, hthreads, hcrash⟩ := loop_step_cases h
      obtain ⟨after, hafter, hpc, hhandler, hstop⟩ := ha.loop_step ht
      obtain ⟨last, hlast, rfl, hsame, hended⟩ := exists_loop_step hother hafter
      refine ⟨last, hlast, hpc, ?_, ?_, hhandler, hstop⟩
      · rw [hsame, ha.threads, hthreads]
      · rw [hended, hcrash, hpc]
  | thread thread act =>
      have hframe := LcuWebsocketHandler.threadStep_stop system.loop.handler
        other.loop.handler.stop (system.threads thread) act
      rw [← ha.handler, ← ha.threads] at hframe
      change system.step (.thread thread act) = _ at h
      simp only [step, hc, Option.isSome_none, Bool.false_eq_true, if_false, otherStep,
        ← ha.threads] at h
      change ∃ after, other.step (.thread thread act) = _ ∧ _
      simp only [step, hother, Option.isSome_none, Bool.false_eq_true, if_false, otherStep, hframe]
      split at h
      · cases h
      · next crash ht =>
          obtain ⟨rfl, rfl⟩ := Prod.mk.inj (Option.some.inj h)
          rw [ht]
          exact ⟨_, rfl, ha.pc, rfl, rfl, ha.handler, ha.stop⟩
      · next handler pc more ht =>
          obtain ⟨rfl, rfl⟩ := Prod.mk.inj (Option.some.inj h)
          rw [ht]
          refine ⟨_, rfl, ha.pc, rfl, rfl, rfl, ?_⟩
          have hstop : (if other.threads thread = .stopWrite then true
              else system.loop.handler.stop) = handler.stop := by
            have hstep := LcuWebsocketHandler.threadStep_ok ht
            generalize other.threads thread = before at hstep
            cases hstep with
            | connected hu | disconnected hu | noSocket hu | sent hu =>
                refine if_neg ?_
                rintro rfl
                cases hu
            | _ => rfl
          refine ha.stop.imp_left fun hsame => ?_
          rw [← hstop, ← hsame]

-- From there on, the two cannot be told apart.
theorem Alike.output_eq (ha : Alike system other) (actions : List (SystemAction ι)) :
    (machine.exec system actions).map Prod.snd = (machine.exec other actions).map Prod.snd :=
  machine.exec_output_eq (fun _ _ _ _ _ ha hs => ha.step hs) (fun _ _ ha => ha.symm) ha actions

-- A process whose run() has returned cannot be told from one that has not run
-- yet, whatever calls of other threads are under way.
theorem runs_again (onMessageReceived onConnected onDisconnected : Bool)
    {actions : List (SystemAction ι)}
    (h : machine.exec (start (.new onMessageReceived onConnected onDisconnected)) actions =
      some (system, events))
    (hpc : system.loop.pc = .idle) (hc : system.crash = none) (later : List (SystemAction ι)) :
    (machine.exec system later).map Prod.snd =
      (machine.exec { (start (.new onMessageReceived onConnected onDisconnected) : System ι) with
        threads := system.threads } later).map Prod.snd := by
  have hr := Loop.returned_of_reachable (loop_reachable ⟨actions, events, h⟩)
  have hplaced := hr.placed
  unfold Loop.Placed at hplaced
  simp only [hpc] at hplaced
  obtain ⟨hm, hconnected, hdisconnected⟩ := hr.callbacks
  have hsame : Alike system { (start (.new onMessageReceived onConnected onDisconnected) :
      System ι) with threads := system.threads } := by
    refine ⟨hpc.symm, rfl, hc.symm, ?_, Or.inr (Or.inl hpc)⟩
    simp only [start, Loop.start, LcuWebsocketHandler.new, hplaced, hr.state (Or.inl hpc), hm,
      hconnected, hdisconnected]
  exact hsame.output_eq later

-- A run that a stop() has brought to its end.
def firstRun : List (SystemAction Unit) :=
  stopDuringReceive ++ [.loop (.receive [.throws (.timeout "")]), .loop .tau,
    .loop (.shutdown (.ok ())), .loop (.callback .onDisconnected false)]

theorem firstRun_runs : (machine.exec (start (.new true true true)) firstRun).isSome = true := rfl

theorem runs_again_firstRun :
    (machine.exec (machine.final (start (.new true true true)) firstRun firstRun_runs)
        firstRun).map Prod.snd =
      some [.loop (.invoked .onConnected), .thread () .stopReturned,
        .loop (.invoked .onDisconnected), .loop .runReturned] :=
  runs_again true true true (Machine.exec_final firstRun_runs) rfl rfl firstRun

end System

end Rito

import Rito.LcuWebsocketHandler.Interleaving
import Mathlib.Data.Fintype.Basic

namespace Rito

-- The steps of the loop that leave m_websocket null: the reset in the stop
-- branch, and a reconnect that fails before it has built a new client.
def Loop.leavesNull (loop : Loop) : LoopAction → Bool
  | .tau => loop.pc = .stopReset
  | .shutdown (.ok _) => loop.pc = .stopReset
  | .reconnect outcome =>
      loop.pc = .reconnect && !(outcome.scan.isOk && outcome.construct.isOk)
  | _ => false

namespace LcuWebsocketHandler

theorem reconnect_websocket_ne_none {handler : LcuWebsocketHandler} {outcome : ReconnectOutcome}
    (hc : handler.isConnected = false) (hs : outcome.scan.isOk = true)
    (hk : outcome.construct.isOk = true) : (handler.reconnect outcome).2.websocket ≠ none := by
  rw [reconnect_eq_connect outcome hc]
  have hends := @connect_ends { handler with websocket := none } outcome rfl
  generalize (connect _ outcome).1 = completion at hends
  generalize (connect _ outcome).2 = after at hends ⊢
  cases hends with
  | unmade hn =>
      rw [hs, hk] at hn
      cases hn
  | unset _ _ | unstarted _ _ | started _ _ => simp

theorem reconnect_websocket_eq_none {handler : LcuWebsocketHandler} {outcome : ReconnectOutcome}
    (hc : handler.isConnected = false)
    (h : (outcome.scan.isOk && outcome.construct.isOk) = false) :
    (∃ exception, (handler.reconnect outcome).1 = .threw exception) ∧
      (handler.reconnect outcome).2.websocket = none := by
  rw [reconnect_eq_connect outcome hc]
  have hends := @connect_ends { handler with websocket := none } outcome rfl
  generalize (connect _ outcome).1 = completion at hends ⊢
  generalize (connect _ outcome).2 = after at hends ⊢
  cases hends with
  | unmade _ => exact ⟨⟨_, rfl⟩, rfl⟩
  | unset hs hm | unstarted hs hm | started hs hm =>
      rw [hs, hm] at h
      cases h

end LcuWebsocketHandler

namespace Loop

variable {loop next : Loop} {action : LoopAction} {more : List LoopEvent}

theorem Step.websocket_ne_none (h : Step loop action next more) (hp : loop.Placed)
    (hn : loop.leavesNull action = false) (hw : loop.handler.websocket ≠ none) :
    next.handler.websocket ≠ none := by
  cases h with
  | reset _ | resetShutdown _ => simp [leavesNull] at hn
  | received _ _ | receiveFailed _ _ => simp
  | @reconnectReturned _ outcome _ he | @reconnectThrew _ outcome _ _ he
  | @reconnectTerminated _ outcome _ he =>
      simp only [leavesNull, decide_true, Bool.true_and, Bool.not_eq_false', Bool.and_eq_true] at hn
      have hr := LcuWebsocketHandler.reconnect_websocket_ne_none hp hn.1 hn.2
      rw [he] at hr
      exact hr
  | sendFrame => exact fun hnone => hw ((sendFrame_websocket_eq_none _ _).mp hnone)
  | _ => exact hw

theorem Step.websocket_eq_none (h : Step loop action next more) (hp : loop.Placed)
    (hn : loop.leavesNull action = true) :
    next.handler.websocket = none ∧ ∀ crash, next.pc ≠ .crashed crash := by
  cases h with
  | reset _ | resetShutdown _ => exact ⟨rfl, by simp⟩
  | @reconnectReturned _ outcome _ he | @reconnectThrew _ outcome _ _ he =>
      simp only [leavesNull, decide_true, Bool.true_and, Bool.not_eq_true'] at hn
      obtain ⟨⟨_, ht⟩, hw⟩ := LcuWebsocketHandler.reconnect_websocket_eq_none hp hn
      rw [he] at ht hw
      exact ⟨hw, by simp⟩
  | reconnectTerminated he => exact absurd he (LcuWebsocketHandler.reconnect_ne_terminated hp)
  | notifySilent site _ => cases site <;> simp [leavesNull] at hn
  | _ => simp [leavesNull] at hn

end Loop

namespace System

variable {ι : Type*} [DecidableEq ι] {system next : System ι} {action : SystemAction ι}

-- The loop leaves m_websocket null while another thread is between its
-- is_connected() and the use it was to guard.
def Undercuts (system : System ι) : SystemAction ι → Prop
  | .loop action => system.loop.leavesNull action = true ∧
      ∃ thread, (system.threads thread).uses.isSome = true
  | .thread _ _ => False

instance [Fintype ι] (system : System ι) : ∀ action, Decidable (system.Undercuts action)
  | .loop _ => inferInstanceAs (Decidable (_ ∧ _))
  | .thread _ _ => inferInstanceAs (Decidable False)

-- A thread past its is_connected() finds a socket.
structure Guarding (system : System ι) : Prop where
  placed : system.loop.Placed
  crash : system.crash ≠ some .nullDereference
  guarded : ∀ thread, (system.threads thread).uses.isSome = true →
    system.loop.handler.websocket ≠ none

theorem websocket_ne_none_thread {handler after : LcuWebsocketHandler} {pc next : ThreadPc}
    (h : ThreadStep handler pc (.ok (after, next))) (hw : handler.websocket ≠ none) :
    after.websocket ≠ none := by
  cases h with
  | sent _ _ _ => simp
  | _ => exact hw

-- A thread only comes to its use through a successful is_connected().
theorem websocket_ne_none_of_uses {handler after : LcuWebsocketHandler} {pc next : ThreadPc}
    (h : ThreadStep handler pc (.ok (after, next))) (hu : next.uses.isSome = true) :
    after.websocket ≠ none := by
  cases h with
  | connected _ hc =>
      intro hw
      rw [LcuWebsocketHandler.isConnected_of_none hw] at hc
      cases hc
  | _ => simp [ThreadPc.uses] at hu

theorem Guarding.step (hi : system.Guarding) (hn : ¬system.Undercuts action)
    (h : Step system action next) : next.Guarding := by
  cases h with
  | loop h _ =>
      refine ⟨hi.placed.step h, ?_, fun thread hu => ?_⟩
      · have hp := hi.placed.step h
        simp only
        split
        · rename_i crash hpc
          unfold Loop.Placed at hp
          rw [hpc] at hp
          simp [show crash = .terminated from hp]
        · simp
      · refine h.websocket_ne_none hi.placed ?_ (hi.guarded thread hu)
        by_contra hl
        exact hn ⟨by simpa using hl, thread, hu⟩
  | @thread thread _ handler pc h =>
      have hp := threadStep_keeps (I := Loop.Placed) (fun _ _ _ _ hi hs => hi.step hs) hi.placed h
      refine ⟨hp, hi.crash, fun other hu => ?_⟩
      by_cases he : other = thread
      · subst other
        simp only [Function.update_self] at hu
        exact websocket_ne_none_of_uses h hu
      · simp only [Function.update_of_ne he] at hu
        exact websocket_ne_none_thread h (hi.guarded other hu)
  | crash h =>
      refine ⟨hi.placed, ?_, hi.guarded⟩
      generalize hpc : system.threads _ = pc at h
      cases h with
      | null hu hw => exact absurd hw (hi.guarded _ (by rw [hpc, hu]; rfl))
      | threw _ _ => simp

omit [DecidableEq ι] in
theorem guarding_start {handler : LcuWebsocketHandler} (hw : handler.websocket = none) :
    Guarding (start handler : System ι) :=
  ⟨hw, by simp [start], fun _ hu => by simp [start, ThreadPc.uses] at hu⟩

theorem placed_of_reachable {handler : LcuWebsocketHandler} (hw : handler.websocket = none)
    (h : machine.Reachable (start handler) system) : system.loop.Placed := by
  obtain ⟨actions, events, he⟩ := loop_reachable h
  exact Loop.placed_of_exec hw he

theorem step_null {thread : ι} (hc : system.crash = none)
    (hu : (system.threads thread).uses.isSome = true) (hw : system.loop.handler.websocket = none) :
    machine.step system (.thread thread .tau) =
      some ({ system with crash := some .nullDereference }, []) := by
  have ht : system.loop.handler.threadStep (system.threads thread) .tau =
      some (.error .nullDereference) := by
    generalize system.threads thread = pc at hu
    cases pc <;> simp_all [ThreadPc.uses, LcuWebsocketHandler.threadStep,
      LcuWebsocketHandler.useWebsocket, Except.map]
  change system.step (.thread thread .tau) = _
  simp [step, hc, otherStep, ht]

-- Once the loop has undercut a thread, that thread's next step is a use of a
-- null m_websocket.
theorem undercut_crashes {handler : LcuWebsocketHandler} {events : List (SystemEvent ι)}
    (hw : handler.websocket = none) (h : machine.Reachable (start handler) system)
    (hu : system.Undercuts action) (hs : machine.step system action = some (next, events)) :
    ∃ thread, machine.step next (.thread thread .tau) =
      some ({ next with crash := some .nullDereference }, []) := by
  cases (step_cases hs).2 with
  | loop hstep _ =>
      obtain ⟨hl, thread, ht⟩ := hu
      obtain ⟨hnone, hpc⟩ := hstep.websocket_eq_none (placed_of_reachable hw h) hl
      exact ⟨thread, step_null (by simp only) ht hnone⟩
  | thread _ | crash _ => cases hu

-- No null m_websocket is used in a run in which the loop undercuts no thread,
-- and every run in which it does can go on to such a use at once.
theorem no_null_dereference (onMessageReceived onConnected onDisconnected : Bool)
    {actions : List (SystemAction ι)} {events : List (SystemEvent ι)}
    (h : machine.exec (start (.new onMessageReceived onConnected onDisconnected)) actions =
      some (system, events)) :
    (machine.Along (fun system action => ¬system.Undercuts action)
        (start (.new onMessageReceived onConnected onDisconnected)) actions →
      system.crash ≠ some .nullDereference) ∧
      ∀ action next more, machine.step system action = some (next, more) →
        system.Undercuts action → ∃ thread, machine.step next (.thread thread .tau) =
          some ({ next with crash := some .nullDereference }, []) := by
  constructor
  · intro ha
    exact (machine.invariant_along (guarding_start rfl)
      (fun _ _ _ _ hi hn hs => hi.step hn (step_cases hs).2) ha h).crash
  · intro action next more hs hu
    exact undercut_crashes rfl ⟨actions, events, h⟩ hu hs

-- A send_message() finds the socket connected, the loop stops and resets it,
-- and the send goes through a null pointer.
def undercutSend : List (SystemAction Bool) :=
  [.loop .run, .loop .tau, .loop .tau, .loop .tau, .loop .tau,
    .loop (.reconnect ⟨.ok (), .ok ⟨"token", 51234⟩, .ok (), .ok (), ⟨.ok (), .ok ()⟩⟩),
    .loop (.callback .onConnected false), .thread false (.call (.sendMessage [91, 93])),
    .thread false .tau, .thread true (.call .stop), .thread true .tau, .loop .tau,
    .loop (.shutdown (.ok ())), .thread false .tau]

theorem undercutSend_null :
    (machine.final (start (.new true true true)) undercutSend rfl).crash =
      some .nullDereference := rfl

-- The send is over before the loop goes on to receive a message; a stop() sends
-- its own frame, and then the socket is reset.
def servedSend : List (SystemAction Bool) :=
  undercutSend.take 9 ++ [.thread false (.sendFrame (.ok ())), .loop .tau, .loop .tau,
    .loop (.receive [.frame 0x81 [91]]), .thread true (.call .stop), .thread true .tau,
    .thread true .tau, .thread true (.sendFrame (.ok ())),
    .loop (.callback (.onMessageReceived [91]) false), .loop .tau, .loop (.shutdown (.ok ()))]

theorem servedSend_runs :
    (machine.exec (start (.new true true true)) servedSend).isSome = true := rfl

theorem no_null_dereference_served :
    (machine.final (start (.new true true true)) servedSend servedSend_runs).crash ≠
      some .nullDereference :=
  (no_null_dereference true true true (Machine.exec_final servedSend_runs)).1 (by decide)

end System

end Rito

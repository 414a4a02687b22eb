import Rito.LcuWebsocketHandler.Placed
import Rito.Trace

namespace Rito.Loop

-- The connection callbacks invoked: true for on_connected.
def connectionCallbacks (events : List LoopEvent) : List Bool :=
  events.filterMap fun
    | .invoked .onConnected => some true
    | .invoked .onDisconnected => some false
    | _ => none

-- The arguments of the message callback.
def delivered (events : List LoopEvent) : List Bytes :=
  events.filterMap fun
    | .invoked (.onMessageReceived message) => some message
    | _ => none

-- What Https_websocket_client::receive_message returned.
def receivedMessages (events : List LoopEvent) : List Bytes :=
  events.filterMap fun
    | .received message => some message
    | _ => none

-- The message received and not yet handed to the callback.
def pending : LoopPc → List Bytes
  | .deliver response => [response]
  | _ => []

-- An on_connected that no on_disconnected has followed.
def Announced (events : List LoopEvent) : Prop :=
  ∃ earlier later, events = earlier ++ .invoked .onConnected :: later ∧
    .invoked .onDisconnected ∉ later

-- Message callbacks only come between an on_connected and the next
-- on_disconnected.
def DeliversAnnounced : List LoopEvent → Prop :=
  Guarded fun before event => ∀ message, event = .invoked (.onMessageReceived message) →
    Announced before

variable {loop next : Loop} {action : LoopAction} {events more : List LoopEvent}

theorem connectionCallbacks_append (events more : List LoopEvent) :
    connectionCallbacks (events ++ more) = connectionCallbacks events ++ connectionCallbacks more :=
  List.filterMap_append

theorem delivered_append (events more : List LoopEvent) :
    delivered (events ++ more) = delivered events ++ delivered more :=
  List.filterMap_append

theorem receivedMessages_append (events more : List LoopEvent) :
    receivedMessages (events ++ more) = receivedMessages events ++ receivedMessages more :=
  List.filterMap_append

theorem announced_concat (events : List LoopEvent) :
    Announced (events ++ [.invoked .onConnected]) := ⟨events, [], rfl, by simp⟩

theorem Announced.append (h : Announced events) (hm : .invoked .onDisconnected ∉ more) :
    Announced (events ++ more) := by
  obtain ⟨earlier, later, rfl, hl⟩ := h
  exact ⟨earlier, later ++ more, by simp, by simp [hl, hm]⟩

-- What m_is_state_connected says at each place when no on_connected throws:
-- it leads the socket in reconnect_and_notify and follows it everywhere else.
def Stated (loop : Loop) : Prop :=
  match loop.pc with
  | .idle | .entered | .reconnect | .notifyConnected => loop.handler.isStateConnected = false
  | .sleep => loop.handler.isStateConnected = false ∧ loop.handler.isConnected = false
  | .head | .check | .stopReset => loop.handler.isConnected = true →
      loop.handler.isStateConnected = true
  | .receive | .deliver _ => loop.handler.isStateConnected = true
  | _ => True

-- All three callbacks are registered.
def Registered (handler : LcuWebsocketHandler) : Prop :=
  handler.onMessageReceived = true ∧ handler.onConnected = true ∧ handler.onDisconnected = true

-- The two handlers have the same callbacks registered.
def SameCallbacks (handler after : LcuWebsocketHandler) : Prop :=
  after.onMessageReceived = handler.onMessageReceived ∧
    after.onConnected = handler.onConnected ∧ after.onDisconnected = handler.onDisconnected

theorem sameCallbacks_of_sameFlags {handler after : LcuWebsocketHandler}
    (hs : handler.SameFlags after) : SameCallbacks handler after := by
  rw [hs]
  exact ⟨rfl, rfl, rfl⟩

-- No step registers a callback.
theorem Step.sameCallbacks (h : Step loop action next more) (hp : loop.Placed) :
    SameCallbacks loop.handler next.handler := by
  cases h with
  | reconnectReturned he =>
      exact sameCallbacks_of_sameFlags (LcuWebsocketHandler.reconnect_returned hp he).2
  | reconnectThrew he =>
      exact sameCallbacks_of_sameFlags (LcuWebsocketHandler.reconnect_threw hp he).2
  | reconnectTerminated he => exact absurd he (LcuWebsocketHandler.reconnect_ne_terminated hp)
  | sendFrame => exact sameCallbacks_of_sameFlags (sendFrame_sameFlags _ _)
  | _ => exact ⟨rfl, rfl, rfl⟩

theorem Registered.step (hr : Registered loop.handler) (hp : loop.Placed)
    (h : Step loop action next more) : Registered next.handler := by
  obtain ⟨hm, hc, hd⟩ := h.sameCallbacks hp
  exact ⟨hm.trans hr.1, hc.trans hr.2.1, hd.trans hr.2.2⟩

theorem Stated.step (hst : loop.Stated) (hp : loop.Placed)
    (ha : action ≠ .callback .onConnected true) (h : Step loop action next more) :
    next.Stated := by
  cases h with
  | run => exact hst
  | clearStop =>
      intro hc
      rw [LcuWebsocketHandler.isConnected_stop, LcuWebsocketHandler.isConnected_of_none hp] at hc
      cases hc
  | stopSeen _ | stopNotSeen _ => exact hst
  | notifySilent site _ | notifyReturns site _ =>
      cases site with
      | stop | disconnected => rfl
      | connected => exact fun _ => rfl
  | notifyThrows site hn =>
      cases site with
      | stop | disconnected => trivial
      | connected => exact absurd (by rw [(LcuWebsocketHandler.notification_eq_some hn).2]; rfl) ha
  | connectionUp hc => exact hst hc
  | received hw he => exact hst
  | receiveFailed hw he => exact fun _ => hst
  | deliverSilent _ | deliver _ => exact fun _ => hst
  | reconnectReturned he =>
      exact (LcuWebsocketHandler.reconnect_returned hp he).2.isStateConnected.trans hst
  | reconnectThrew he =>
      obtain ⟨hc, hs⟩ := LcuWebsocketHandler.reconnect_threw hp he
      exact ⟨hs.isStateConnected.trans hst, hc⟩
  | wake =>
      intro hc
      rw [hst.2] at hc
      cases hc
  | setStop => exact hst
  | sendFrame =>
      have hs := sendFrame_sameFlags loop ‹_›
      unfold Stated at hst ⊢
      rw [sendFrame_pc, sendFrame_isConnected, hs]
      exact hst
  | _ => trivial

-- What a step does to the switch between the two connection callbacks: it
-- leaves it alone, turns it on with on_connected or off with on_disconnected.
theorem Step.switch (h : Step loop action next more) (hp : loop.Placed)
    (hc : loop.handler.onConnected = true) (hd : loop.handler.onDisconnected = true)
    (ha : action ≠ .callback .onConnected true) :
    (connectionCallbacks more = [] ∧ .invoked .onDisconnected ∉ more ∧
        (next.pc ≠ .crashed .terminated → loop.pc ≠ .crashed .terminated ∧
          next.handler.isStateConnected = loop.handler.isStateConnected)) ∨
      (loop.pc ≠ .crashed .terminated ∧ loop.handler.isStateConnected = false ∧
        more = [.invoked .onConnected] ∧ next.handler.isStateConnected = true) ∨
      (loop.pc ≠ .crashed .terminated ∧ loop.handler.isStateConnected = true ∧
        connectionCallbacks more = [false] ∧
        (next.pc ≠ .crashed .terminated → next.handler.isStateConnected = false)) := by
  cases h with
  | notifySilent site hn =>
      have hs := LcuWebsocketHandler.notification_eq_none hc hd hn
      cases site <;> exact Or.inl ⟨rfl, by simp, fun _ => ⟨by simp, hs.symm⟩⟩
  | notifyReturns site hn =>
      obtain ⟨hs, rfl⟩ := LcuWebsocketHandler.notification_eq_some hn
      cases site with
      | stop | disconnected => exact Or.inr (Or.inr ⟨by simp, hs, rfl, fun _ => rfl⟩)
      | connected => exact Or.inr (Or.inl ⟨by simp, hs, rfl, rfl⟩)
  | notifyThrows site hn =>
      obtain ⟨hs, rfl⟩ := LcuWebsocketHandler.notification_eq_some hn
      cases site with
      | stop | disconnected => exact Or.inr (Or.inr ⟨by simp, hs, rfl, fun hc => absurd rfl hc⟩)
      | connected => exact absurd rfl ha
  | reconnectReturned he =>
      have hs := (LcuWebsocketHandler.reconnect_returned hp he).2.isStateConnected
      exact Or.inl ⟨rfl, by simp, fun _ => ⟨by simp, hs⟩⟩
  | reconnectThrew he =>
      have hs := (LcuWebsocketHandler.reconnect_threw hp he).2.isStateConnected
      exact Or.inl ⟨rfl, by simp, fun _ => ⟨by simp, hs⟩⟩
  | shutdownThrows _ | reconnectTerminated _ =>
      exact Or.inl ⟨rfl, by simp, fun hc => absurd rfl hc⟩
  | setStop => exact Or.inl ⟨rfl, by simp, fun hc => ⟨hc, rfl⟩⟩
  | sendFrame =>
      have hs := (sendFrame_sameFlags loop ‹_›).isStateConnected
      exact Or.inl ⟨rfl, by simp, fun hc => ⟨by simpa using hc, hs⟩⟩
  | _ => exact Or.inl ⟨rfl, by simp, fun _ => ⟨by simp, rfl⟩⟩

-- The invocations of the connection callbacks so far, with the state of the
-- switch after them.
def Toggled (events : List LoopEvent) (loop : Loop) : Prop :=
  ∃ on, Toggle (connectionCallbacks events) on ∧
    (loop.pc ≠ .crashed .terminated → on = loop.handler.isStateConnected)

theorem Toggled.step (ht : Toggled events loop) (hp : loop.Placed)
    (hc : loop.handler.onConnected = true) (hd : loop.handler.onDisconnected = true)
    (ha : action ≠ .callback .onConnected true) (h : Step loop action next more) :
    Toggled (events ++ more) next := by
  obtain ⟨on, ht, hon⟩ := ht
  unfold Toggled
  rw [connectionCallbacks_append]
  obtain ⟨hq, _, hs⟩ | ⟨hup, hs, rfl, hn⟩ | ⟨hup, hs, hm, hn⟩ := h.switch hp hc hd ha
  · rw [hq, List.append_nil]
    exact ⟨on, ht, fun hne => (hon (hs hne).1).trans (hs hne).2.symm⟩
  · obtain rfl := (hon hup).trans hs
    exact ⟨true, ht.turn, fun _ => hn.symm⟩
  · obtain rfl := (hon hup).trans hs
    rw [hm]
    exact ⟨false, ht.turn, fun hne => (hn hne).symm⟩

-- A message is pending between its receipt and its callback.
theorem Step.pending (h : Step loop action next more) (hr : Registered loop.handler) :
    Loop.pending loop.pc ++ receivedMessages more = delivered more ++ Loop.pending next.pc := by
  cases h with
  | notifySilent site _ => cases site <;> rfl
  | notifyReturns site hn | notifyThrows site hn =>
      obtain ⟨_, rfl⟩ := LcuWebsocketHandler.notification_eq_some hn
      cases site <;> rfl
  | deliverSilent hm =>
      rw [hr.1] at hm
      cases hm
  | setStop => simp [receivedMessages, delivered]
  | sendFrame => simp [receivedMessages, delivered]
  | _ => rfl

-- Messages are delivered one at a time, and only from the place that holds
-- one.
theorem Step.delivers (h : Step loop action next more) (message : Bytes)
    (hm : .invoked (.onMessageReceived message) ∈ more) :
    more = [.invoked (.onMessageReceived message)] ∧ loop.pc = .deliver message := by
  cases h with
  | notifySilent site _ => cases site <;> simp at hm
  | notifyReturns site hn | notifyThrows site hn =>
      obtain ⟨_, rfl⟩ := LcuWebsocketHandler.notification_eq_some hn
      cases site <;> simp at hm
  | deliver _ =>
      simp only [List.mem_singleton, LoopEvent.invoked.injEq, Callback.onMessageReceived.injEq] at hm
      subst hm
      exact ⟨rfl, rfl⟩
  | _ => simp at hm

structure TraceInvariant (events : List LoopEvent) (loop : Loop) : Prop where
  placed : loop.Placed
  registered : Registered loop.handler
  stated : loop.Stated
  toggle : ∃ on, Toggle (connectionCallbacks events) on ∧
    (loop.pc ≠ .crashed .terminated → on = loop.handler.isStateConnected)
  announced : loop.pc ≠ .crashed .terminated → loop.handler.isStateConnected = true →
    Announced events
  received : receivedMessages events = delivered events ++ pending loop.pc
  delivers : DeliversAnnounced events

theorem TraceInvariant.step (hi : TraceInvariant events loop)
    (ha : action ≠ .callback .onConnected true) (h : Step loop action next more) :
    TraceInvariant (events ++ more) next where
  placed := hi.placed.step h
  registered := hi.registered.step hi.placed h
  stated := hi.stated.step hi.placed ha h
  toggle :=
    Toggled.step hi.toggle hi.placed hi.registered.2.1 hi.registered.2.2 ha h
  announced := by
    intro hc hup
    obtain ⟨_, hd, hs⟩ | ⟨_, _, rfl, _⟩ | ⟨_, _, _, hn⟩ :=
      h.switch hi.placed hi.registered.2.1 hi.registered.2.2 ha
    · exact (hi.announced (hs hc).1 ((hs hc).2 ▸ hup)).append hd
    · exact announced_concat events
    · rw [hn hc] at hup
      cases hup
  received := by
    have hp := h.pending hi.registered
    rw [receivedMessages_append, delivered_append, hi.received, List.append_assoc, hp,
      List.append_assoc]
  delivers := by
    by_cases hm : ∃ message, .invoked (.onMessageReceived message) ∈ more
    · obtain ⟨message, hm⟩ := hm
      obtain ⟨rfl, hpc⟩ := h.delivers message hm
      refine guarded_concat.mpr ⟨hi.delivers, fun _ _ => hi.announced (by simp [hpc]) ?_⟩
      have hst := hi.stated
      unfold Stated at hst
      rw [hpc] at hst
      exact hst
    · apply hi.delivers.append
      rintro event he _ message rfl
      exact absurd ⟨message, he⟩ hm

theorem TraceInvariant.of_exec {actions : List LoopAction}
    (h : machine.exec (start (.new true true true)) actions = some (loop, events))
    (ha : ∀ action ∈ actions, action ≠ .callback .onConnected true) :
    TraceInvariant events loop := by
  refine machine.exec_induction (I := fun actions events loop =>
    (∀ action ∈ actions, action ≠ .callback .onConnected true) → TraceInvariant events loop)
    ?_ ?_ h ha
  · intro _
    exact {
      placed := rfl
      registered := ⟨rfl, rfl, rfl⟩
      stated := rfl
      toggle := ⟨false, .off, fun _ => rfl⟩
      announced := fun _ hup => by cases hup
      received := rfl
      delivers := guarded_nil _ }
  · intro actions events loop action next more hi hs ha
    exact (hi fun action hm => ha action (by simp [hm])).step (ha action (by simp)) (step_cases hs)

-- The order in which callbacks are invoked, over any number of calls of run()
-- on one handler. A throwing on_disconnected or shutdown() ends the process
-- and needs no exclusion; only a throwing on_connected breaks the law.
theorem callback_trace {actions : List LoopAction}
    (h : machine.exec (start (.new true true true)) actions = some (loop, events))
    (ha : ∀ action ∈ actions, action ≠ .callback .onConnected true) :
    ((connectionCallbacks events).IsChain (· ≠ ·) ∧
        ∀ first ∈ (connectionCallbacks events).head?, first = true) ∧
      (receivedMessages events = delivered events ++ pending loop.pc ∧
        DeliversAnnounced events) ∧
      (loop.pc = .idle →
        (connectionCallbacks events).count true = (connectionCallbacks events).count false ∧
          loop.handler.isStateConnected = false ∧ loop.handler.websocket = none) := by
  have hi := TraceInvariant.of_exec h ha
  obtain ⟨on, ht, hon⟩ := hi.toggle
  refine ⟨⟨ht.isChain, ht.head?⟩, ⟨hi.received, hi.delivers⟩, ?_⟩
  intro hpc
  have hs := hi.stated
  have hp := hi.placed
  unfold Stated at hs
  unfold Placed at hp
  rw [hpc] at hs hp
  obtain rfl := (hon (by simp [hpc])).trans hs
  exact ⟨ht.count_eq, hs, hp⟩

-- One session: connect, receive a message whose callback throws, stop.
def session : List LoopAction :=
  [.run, .tau, .tau, .tau, .tau,
    .reconnect ⟨.ok (), .ok ⟨"token", 51234⟩, .ok (), .ok (), ⟨.ok (), .ok ()⟩⟩,
    .callback .onConnected false, .tau, .tau,
    .receive [.frame 0x01 [91], .frame 0x80 [93]],
    .callback (.onMessageReceived [91, 93]) true, .setStop, .tau, .shutdown (.ok ()),
    .callback .onDisconnected false]

theorem session_exec :
    machine.exec (start (.new true true true)) session =
      some (⟨{ LcuWebsocketHandler.new true true true with stop := true }, .idle⟩,
        [.invoked .onConnected, .received [91, 93], .invoked (.onMessageReceived [91, 93]),
          .invoked .onDisconnected, .runReturned]) := rfl

theorem callback_trace_session :
    (connectionCallbacks [.invoked .onConnected, .received [91, 93],
      .invoked (.onMessageReceived [91, 93]), .invoked .onDisconnected, .runReturned]).count true =
    (connectionCallbacks [.invoked .onConnected, .received [91, 93],
      .invoked (.onMessageReceived [91, 93]), .invoked .onDisconnected, .runReturned]).count false :=
  ((callback_trace session_exec (by simp [session])).2.2 rfl).1

end Rito.Loop

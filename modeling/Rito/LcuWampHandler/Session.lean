import Rito.HttpsWebsocketClient.Receive
import Rito.LcuWampHandler.Dispatch
import Rito.LcuWebsocketHandler.CallbackTrace

namespace Rito

-- An Lcu_wamp_handler with the thread in its run(): which of its five callbacks
-- are registered, and the Lcu_websocket_handler it forwards from.
structure WampSession where
  loop : Loop
  wamp : LcuWampHandler
  onConnectedCallback : Bool
  onDisconnectedCallback : Bool
  deriving DecidableEq, Repr

-- What its user can observe.
inductive WampEvent where
  | connected
  | disconnected
  | invoked (invocation : WampInvocation)
  | runReturned
  deriving DecidableEq, Repr

-- A step of the loop: one that invokes a callback of the websocket handler says
-- how the user's callback ends, if that comes to invoke one.
inductive WampAction where
  | loop (action : LoopAction)
  | callback (callback : Callback) (outcome : CallbackOutcome)

namespace WampSession

variable {Var ArrayPtr : Type} (poco : PocoJson Var ArrayPtr)

-- The constructor registers all three forwarders.
def new (wamp : LcuWampHandler) (onConnectedCallback onDisconnectedCallback : Bool) :
    WampSession where
  loop := .start (.new true true true)
  wamp := wamp
  onConnectedCallback := onConnectedCallback
  onDisconnectedCallback := onDisconnectedCallback

-- on_connected() and on_disconnected()
def onConnected (session : WampSession) : List WampEvent :=
  if session.onConnectedCallback then [.connected] else []

def onDisconnected (session : WampSession) : List WampEvent :=
  if session.onDisconnectedCallback then [.disconnected] else []

-- What a forwarder invokes.
def forward (session : WampSession) : Callback → List WampEvent
  | .onConnected => session.onConnected
  | .onDisconnected => session.onDisconnected
  | .onMessageReceived message => (session.wamp.onMessage poco message).map .invoked

-- How it ends.
def forwardOutcome (session : WampSession) (outcome : CallbackOutcome) :
    Callback → CallbackOutcome
  | .onConnected => if session.onConnectedCallback then outcome else .returns
  | .onDisconnected => if session.onDisconnectedCallback then outcome else .returns
  | .onMessageReceived message =>
      if message.isEmpty then .returns
      else session.wamp.dispatchOutcome poco message fun _ => outcome

-- The step as the websocket handler sees it.
def loopAction (session : WampSession) : WampAction → LoopAction
  | .loop action => action
  | .callback callback outcome =>
      .callback callback (session.forwardOutcome poco outcome callback ≠ .returns)

def observed (session : WampSession) : LoopEvent → List WampEvent
  | .invoked callback => session.forward poco callback
  | .received _ => []
  | .runReturned => [.runReturned]

def step (session : WampSession) (action : WampAction) : Option (WampSession × List WampEvent) :=
  match action with
  | .loop (.callback _ _) => none
  | action =>
      (Loop.machine.step session.loop (session.loopAction poco action)).map fun (loop, events) =>
        ({ session with loop := loop }, events.flatMap (session.observed poco))

def machine : Machine WampSession WampAction WampEvent := ⟨step poco⟩

end WampSession

-- The text that a call of receive_message() returns, read off the frames it
-- takes: they end in a final one.
def completed (transport : List FrameResult) : List Bytes :=
  match transport.getLast? with
  | none => []
  | some last => if last.isFinal then [transport.flatMap FrameResult.payload] else []

theorem completed_concat (frames : List FrameResult) (last : FrameResult) :
    completed (frames ++ [last]) =
      if last.isFinal then [frames.flatMap FrameResult.payload ++ last.payload] else [] := by
  simp [completed]

theorem HttpsWebsocketClient.Receives.completed {client next : HttpsWebsocketClient}
    {consumed : List FrameResult} {result : Except Exception Bytes}
    (h : Receives client consumed result next) :
    Rito.completed consumed = result.toOption.toList := by
  cases h with
  | returns hf hl hlast =>
      rw [completed_concat, if_pos hlast]
      rfl
  | disconnected hf hl hlast =>
      rw [completed_concat, FrameResult.not_isFinal_of_closes hlast]
      rfl
  | timesOut | fails =>
      rw [completed_concat]
      rfl
  | tooLong hf hl =>
      obtain rfl | ⟨frames, last, rfl⟩ := List.eq_nil_or_concat consumed
      · cases hl
      · have hlast := hf last (by simp)
        have hfinal : last.isFinal = false := by
          simp only [FrameResult.continues, Bool.and_eq_true, Bool.not_eq_true'] at hlast
          exact hlast.2
        rw [List.concat_eq_append, completed_concat, hfinal]
        rfl

namespace Loop

variable {loop next : Loop} {action : LoopAction} {actions : List LoopAction}
  {events more : List LoopEvent}

-- The texts that come off the transport.
def texts : LoopAction → List Bytes
  | .receive transport => completed transport
  | _ => []

-- A call of receive_message() returns the text its frames make up, and nothing
-- else does.
theorem Step.receivedMessages (h : Step loop action next more) (hp : loop.Placed) :
    Loop.receivedMessages more = texts action := by
  cases h with
  | notifySilent site _ => cases site <;> rfl
  | notifyReturns site _ | notifyThrows site _ => cases site <;> rfl
  | @received handler client _ transport message hw hr =>
      cases hs : client.websocket with
      | none => simp [HttpsWebsocketClient.receiveMessage, hs] at hr
      | some socket =>
          obtain ⟨consumed, hconsumed, hreceives⟩ :=
            HttpsWebsocketClient.receiveMessage_receives hs hr
          rw [List.append_nil] at hconsumed
          rw [texts, hconsumed, hreceives.completed]
          rfl
  | @receiveFailed handler client _ transport exception hw hr =>
      cases hs : client.websocket with
      | none =>
          simp only [HttpsWebsocketClient.receiveMessage, hs, Option.some.injEq, Prod.mk.injEq] at hr
          obtain ⟨-, -, rfl⟩ := hr
          rfl
      | some socket =>
          obtain ⟨consumed, hconsumed, hreceives⟩ :=
            HttpsWebsocketClient.receiveMessage_receives hs hr
          rw [List.append_nil] at hconsumed
          rw [texts, hconsumed, hreceives.completed]
          rfl
  | receiveNull hw =>
      have hc : LcuWebsocketHandler.isConnected _ = true := hp
      rw [LcuWebsocketHandler.isConnected_of_none hw] at hc
      cases hc
  | _ => rfl

-- Every text that came off the transport has been handed to the message
-- callback, or is about to be, whatever the callbacks throw.
structure Delivering (texts : List Bytes) (events : List LoopEvent) (loop : Loop) : Prop where
  placed : loop.Placed
  registered : Registered loop.handler
  texts : texts = delivered events ++ pending loop.pc

theorem Delivering.step {seen : List Bytes} (hi : Delivering seen events loop)
    (h : Step loop action next more) :
    Delivering (seen ++ Loop.texts action) (events ++ more) next where
  placed := hi.placed.step h
  registered := hi.registered.step hi.placed h
  texts := by
    rw [hi.texts, ← h.receivedMessages hi.placed, List.append_assoc, h.pending hi.registered,
      delivered_append, List.append_assoc]

theorem delivering_of_exec
    (h : machine.exec (start (.new true true true)) actions = some (loop, events)) :
    Delivering (actions.flatMap texts) events loop := by
  refine machine.exec_induction (I := fun actions events loop =>
    Delivering (actions.flatMap texts) events loop) ?_ ?_ h
  · exact Delivering.mk (show Placed (start _) from rfl) ⟨rfl, rfl, rfl⟩ rfl
  · intro actions events loop action next more hi hs
    rw [List.flatMap_append, List.flatMap_singleton]
    exact hi.step (step_cases hs)

end Loop

namespace WampSession

variable {Var ArrayPtr : Type} {poco : PocoJson Var ArrayPtr} {session next : WampSession}
  {action : WampAction} {actions : List WampAction} {events : List WampEvent}

-- The message callbacks invoked.
def invocations (events : List WampEvent) : List WampInvocation :=
  events.filterMap fun
    | .invoked invocation => some invocation
    | _ => none

-- The connection callbacks invoked: true for on_connected.
def connections (events : List WampEvent) : List Bool :=
  events.filterMap fun
    | .connected => some true
    | .disconnected => some false
    | _ => none

def texts : WampAction → List Bytes
  | .loop action => Loop.texts action
  | .callback _ _ => []

theorem step_loop (h : (machine poco).step session action = some (next, events)) :
    ∃ more, Loop.machine.step session.loop (session.loopAction poco action) =
        some (next.loop, more) ∧ events = more.flatMap (session.observed poco) ∧
      next = { session with loop := next.loop } := by
  change step poco session action = some (next, events) at h
  unfold step at h
  split at h
  · cases h
  · obtain ⟨⟨loop, more⟩, hs, he⟩ := Option.map_eq_some_iff.mp h
    obtain ⟨rfl, rfl⟩ := Prod.mk.inj he
    exact ⟨more, hs, rfl, rfl⟩

-- The session does what its websocket handler does, with the forwarders for
-- callbacks.
theorem exec_loop (h : (machine poco).exec session actions = some (next, events)) :
    ∃ more, Loop.machine.exec session.loop (actions.map (session.loopAction poco)) =
        some (next.loop, more) ∧ events = more.flatMap (session.observed poco) := by
  induction actions generalizing session events with
  | nil =>
      obtain ⟨rfl, rfl⟩ := Machine.exec_nil_iff.mp h
      exact ⟨[], rfl, rfl⟩
  | cons action actions ih =>
      obtain ⟨mid, first, later, hs, hrest, rfl⟩ := Machine.exec_cons.mp h
      obtain ⟨more, hmore, rfl, hmid⟩ := step_loop hs
      obtain ⟨rest, hlater, rfl⟩ := ih hrest
      have hsame : mid.loopAction poco = session.loopAction poco ∧
          mid.observed poco = session.observed poco := by
        rw [hmid]
        exact ⟨rfl, rfl⟩
      rw [hsame.1] at hlater
      rw [hsame.2]
      exact ⟨more ++ rest, Machine.exec_cons.mpr ⟨mid.loop, more, rest, hmore, hlater, rfl⟩,
        (List.flatMap_append ..).symm⟩

-- An on_connected that no on_disconnected has followed.
def Announced (events : List WampEvent) : Prop :=
  ∃ earlier later, events = earlier ++ .connected :: later ∧ .disconnected ∉ later

-- Message callbacks only come between an on_connected and the next
-- on_disconnected.
def InvokesAnnounced : List WampEvent → Prop :=
  Guarded fun before event => ∀ invocation, event = .invoked invocation → Announced before

theorem Announced.append {more : List WampEvent} (h : Announced events)
    (hm : .disconnected ∉ more) : Announced (events ++ more) := by
  obtain ⟨earlier, later, rfl, hl⟩ := h
  exact ⟨earlier, later ++ more, by simp, by simp [hl, hm]⟩

theorem invocations_append (events more : List WampEvent) :
    invocations (events ++ more) = invocations events ++ invocations more :=
  List.filterMap_append

theorem connections_append (events more : List WampEvent) :
    connections (events ++ more) = connections events ++ connections more :=
  List.filterMap_append

theorem invocations_map (invoked : List WampInvocation) :
    invocations (invoked.map .invoked) = invoked := by
  induction invoked with
  | nil => rfl
  | cons invocation invoked ih =>
      have hcons : invocations ((invocation :: invoked).map .invoked) =
          invocation :: invocations (invoked.map .invoked) := rfl
      rw [hcons, ih]

theorem connections_map (invoked : List WampInvocation) :
    connections (invoked.map .invoked) = [] := by
  simp [connections]

-- One event of the websocket handler.
theorem invocations_observed (session : WampSession) (event : LoopEvent) :
    invocations (session.observed poco event) =
      (Loop.delivered [event]).flatMap (session.wamp.onMessage poco) := by
  cases event with
  | received _ | runReturned => rfl
  | invoked callback =>
      cases callback with
      | onConnected =>
          show invocations session.onConnected = []
          unfold onConnected
          split <;> rfl
      | onDisconnected =>
          show invocations session.onDisconnected = []
          unfold onDisconnected
          split <;> rfl
      | onMessageReceived message =>
          rw [observed, forward, invocations_map]
          exact (List.flatMap_singleton ..).symm

theorem connections_observed (hc : session.onConnectedCallback = true)
    (hd : session.onDisconnectedCallback = true) (event : LoopEvent) :
    connections (session.observed poco event) = Loop.connectionCallbacks [event] := by
  cases event with
  | received _ | runReturned => rfl
  | invoked callback =>
      cases callback with
      | onConnected =>
          rw [observed, forward, onConnected, if_pos hc]
          rfl
      | onDisconnected =>
          rw [observed, forward, onDisconnected, if_pos hd]
          rfl
      | onMessageReceived message => exact connections_map _

theorem invocations_flatMap (session : WampSession) (more : List LoopEvent) :
    invocations (more.flatMap (session.observed poco)) =
      (Loop.delivered more).flatMap (session.wamp.onMessage poco) := by
  induction more with
  | nil => rfl
  | cons event more ih =>
      rw [List.flatMap_cons, invocations_append, invocations_observed, ih,
        ← List.flatMap_append, ← Loop.delivered_append]
      rfl

theorem connections_flatMap (hc : session.onConnectedCallback = true)
    (hd : session.onDisconnectedCallback = true) (more : List LoopEvent) :
    connections (more.flatMap (session.observed poco)) = Loop.connectionCallbacks more := by
  induction more with
  | nil => rfl
  | cons event more ih =>
      rw [List.flatMap_cons, connections_append, connections_observed hc hd, ih,
        ← Loop.connectionCallbacks_append]
      rfl

theorem texts_flatMap (session : WampSession) (actions : List WampAction) :
    (actions.map (session.loopAction poco)).flatMap Loop.texts = actions.flatMap texts := by
  induction actions with
  | nil => rfl
  | cons action actions ih =>
      rw [List.map_cons, List.flatMap_cons, List.flatMap_cons, ih]
      cases action <;> rfl

-- A forwarder passes a disconnect on and makes none up.
theorem not_mem_observed {event : LoopEvent} (hn : event ≠ .invoked .onDisconnected) :
    .disconnected ∉ session.observed poco event := by
  cases event with
  | received _ | runReturned => simp [observed]
  | invoked callback =>
      cases callback with
      | onDisconnected => exact absurd rfl hn
      | onConnected =>
          rw [observed, forward, onConnected]
          split <;> simp
      | onMessageReceived message => simp [observed, forward]

theorem announced_flatMap {more : List LoopEvent} (hc : session.onConnectedCallback = true)
    (h : Loop.Announced more) : Announced (more.flatMap (session.observed poco)) := by
  obtain ⟨earlier, later, rfl, hl⟩ := h
  refine ⟨earlier.flatMap (session.observed poco), later.flatMap (session.observed poco), ?_, ?_⟩
  · rw [List.flatMap_append, List.flatMap_cons]
    congr 1
    rw [observed, forward, onConnected, if_pos hc]
    rfl
  · intro hm
    obtain ⟨event, he, hm⟩ := List.mem_flatMap.mp hm
    exact not_mem_observed (fun heq => hl (heq ▸ he)) hm

theorem invokesAnnounced_flatMap {more : List LoopEvent} (hc : session.onConnectedCallback = true)
    (h : Loop.DeliversAnnounced more) :
    InvokesAnnounced (more.flatMap (session.observed poco)) := by
  induction more using List.reverseRecOn with
  | nil => exact guarded_nil _
  | append_singleton more event ih =>
      obtain ⟨hmore, hevent⟩ := guarded_concat.mp h
      rw [List.flatMap_append, List.flatMap_singleton]
      by_cases hm : ∃ message, event = .invoked (.onMessageReceived message)
      · obtain ⟨message, rfl⟩ := hm
        have ha : Announced (more.flatMap (session.observed poco)) :=
          announced_flatMap hc (hevent message rfl)
        apply (ih hmore).append_of
        intro earlier event later he invocation _
        apply ha.append
        intro hd
        have hmem : .disconnected ∈ session.observed poco (.invoked (.onMessageReceived message)) := by
          rw [he]
          exact List.mem_append_left _ hd
        exact not_mem_observed (by simp) hmem
      · apply (ih hmore).append
        rintro _ he before invocation rfl
        cases event with
        | received _ | runReturned => simp [observed] at he
        | invoked callback =>
            cases callback with
            | onConnected =>
                rw [observed, forward, onConnected] at he
                split at he <;> simp at he
            | onDisconnected =>
                rw [observed, forward, onDisconnected] at he
                split at he <;> simp at he
            | onMessageReceived message => exact absurd ⟨message, rfl⟩ hm

-- Every callback of the websocket handler is a forwarder.
theorem not_mem_loop (h : (machine poco).exec session actions = some (next, events))
    (callback : Callback) (throws : Bool) : .loop (.callback callback throws) ∉ actions := by
  induction actions generalizing session events with
  | nil => simp
  | cons action actions ih =>
      obtain ⟨mid, first, later, hs, hrest, rfl⟩ := Machine.exec_cons.mp h
      intro hm
      obtain rfl | hm := List.mem_cons.mp hm
      · cases hs
      · exact ih hrest hm

-- A forwarder lets an exception of on_connected out only when the user's
-- callback threw one.
theorem loopAction_ne (h : (machine poco).exec session actions = some (next, events))
    (ha : ∀ outcome, .callback .onConnected outcome ∈ actions → outcome = .returns) :
    ∀ action ∈ actions.map (session.loopAction poco), action ≠ .callback .onConnected true := by
  rintro _ hm rfl
  obtain ⟨action, hmem, hl⟩ := List.mem_map.mp hm
  cases action with
  | loop action =>
      obtain rfl : action = .callback .onConnected true := hl
      exact not_mem_loop h _ _ hmem
  | callback callback outcome =>
      obtain ⟨rfl, hthrows⟩ := LoopAction.callback.inj hl
      obtain rfl := ha outcome hmem
      simp [forwardOutcome] at hthrows

-- The WAMP handler end to end, over any number of calls of run(): each text that
-- the transport carried was dispatched, once and in order, whatever the
-- callbacks throw, save one that is about to be. While on_connected does not
-- throw, no callback for a message comes outside of a connection.
theorem session_dispatches {wamp : LcuWampHandler} {onConnectedCallback onDisconnectedCallback : Bool}
    (h : (machine poco).exec (.new wamp onConnectedCallback onDisconnectedCallback) actions =
      some (session, events)) :
    (actions.flatMap texts).flatMap (wamp.onMessage poco) =
        invocations events ++ (Loop.pending session.loop.pc).flatMap (wamp.onMessage poco) ∧
      ((∀ outcome, .callback .onConnected outcome ∈ actions → outcome = .returns) →
        onConnectedCallback = true → onDisconnectedCallback = true →
          InvokesAnnounced events ∧ (connections events).IsChain (· ≠ ·) ∧
            (∀ first ∈ (connections events).head?, first = true) ∧
            (session.loop.pc = .idle →
              (connections events).count true = (connections events).count false)) := by
  obtain ⟨more, hloop, rfl⟩ := exec_loop h
  refine ⟨?_, ?_⟩
  · have hd := (Loop.delivering_of_exec hloop).texts
    rw [texts_flatMap] at hd
    rw [hd, List.flatMap_append, invocations_flatMap]
    rfl
  · intro ha hc hd
    have hi := Loop.TraceInvariant.of_exec hloop (loopAction_ne h ha)
    obtain ⟨on, ht, hon⟩ := hi.toggle
    rw [connections_flatMap hc hd]
    refine ⟨invokesAnnounced_flatMap hc hi.delivers, ht.isChain, ht.head?, ?_⟩
    intro hpc
    have hs := hi.stated
    unfold Loop.Stated at hs
    rw [hpc] at hs
    obtain rfl := (hon (by simp [hpc])).trans hs
    exact ht.count_eq

-- An event that comes in two frames.
def eventText : List Char := "[8, \"a\", true]".toList

theorem eventText_onMessage :
    LcuWampHandler.allRegistered.onMessage LcuWampHandler.valuePoco (utf8 eventText) =
      [.event (utf8 ['a']) (utf8 "true".toList)] := by
  have ht : Json.Text eventText (IncomingMessage.event ['a'] (.bool true)).json :=
    Json.parse_sound rfl
  obtain ⟨array, rfl, hm⟩ := LcuWampHandler.onMessage_array LcuWampHandler.valuePoco_documented ht
    LcuWampHandler.allRegistered
  rw [hm, LcuWampHandler.dispatchArray_event LcuWampHandler.valuePoco_documented rfl]
  rfl

def eventRun : List WampAction :=
  [.loop .run, .loop .tau, .loop .tau, .loop .tau, .loop .tau,
    .loop (.reconnect ⟨.ok (), .ok ⟨"token", 51234⟩, .ok (), .ok (), ⟨.ok (), .ok ()⟩⟩),
    .callback .onConnected .returns, .loop .tau, .loop .tau,
    .loop (.receive [.frame 0x01 [91, 56, 44, 32, 34, 97, 34],
      .frame 0x80 [44, 32, 116, 114, 117, 101, 93]]),
    .callback (.onMessageReceived (utf8 eventText)) (.throws "handler"), .loop .setStop, .loop .tau,
    .loop (.shutdown (.ok ())), .callback .onDisconnected .returns]

theorem eventRun_exec :
    (machine LcuWampHandler.valuePoco).exec (.new LcuWampHandler.allRegistered true true) eventRun =
      some (⟨⟨{ LcuWebsocketHandler.new true true true with stop := true }, .idle⟩,
          LcuWampHandler.allRegistered, true, true⟩,
        .connected ::
          ((LcuWampHandler.allRegistered.onMessage LcuWampHandler.valuePoco (utf8 eventText)).map
            WampEvent.invoked ++ [.disconnected, .runReturned])) := rfl

theorem session_dispatches_eventRun :
    invocations (.connected :: ([.event (utf8 ['a']) (utf8 "true".toList)].map WampEvent.invoked ++
      [.disconnected, .runReturned])) = [.event (utf8 ['a']) (utf8 "true".toList)] := by
  have h := eventRun_exec
  rw [eventText_onMessage] at h
  have hd := (session_dispatches h).1
  have htexts : eventRun.flatMap texts = [utf8 eventText] := rfl
  rw [htexts, List.flatMap_singleton, eventText_onMessage] at hd
  exact (hd.trans (List.append_nil _)).symm

end WampSession

end Rito

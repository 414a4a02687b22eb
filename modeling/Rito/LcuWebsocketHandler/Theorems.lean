import Rito.HttpsWebsocketClient.Lifecycle
import Rito.LcuWebsocketHandler

namespace Rito

namespace LcuWebsocketHandler

variable {handler after : LcuWebsocketHandler} {outcome : ReconnectOutcome}

-- Fields that only the loop's own assignments change.
def SameFlags (handler after : LcuWebsocketHandler) : Prop :=
  after = { handler with websocket := after.websocket }

theorem SameFlags.refl (handler : LcuWebsocketHandler) : handler.SameFlags handler := rfl

theorem SameFlags.isStateConnected (h : handler.SameFlags after) :
    after.isStateConnected = handler.isStateConnected := by rw [h]

theorem SameFlags.stop (h : handler.SameFlags after) : after.stop = handler.stop := by rw [h]

theorem isConnected_of_none (h : handler.websocket = none) : handler.isConnected = false := by
  simp [isConnected, h]

theorem isConnected_of_some {client : HttpsWebsocketClient} (h : handler.websocket = some client) :
    handler.isConnected = client.connected := by
  simp [isConnected, HttpsWebsocketClient.isConnected, h]

-- The client that connect() starts.
def clientOf (parameters : LcuParameters) : HttpsWebsocketClient :=
  (HttpsWebsocketClient.new "127.0.0.1" parameters.appPort).setCredentials "riot"
    parameters.remotingAuthToken

-- The ways in which connect() ends on a handler that has no client.
inductive ConnectEnds (handler : LcuWebsocketHandler) (outcome : ReconnectOutcome) :
    Completion → LcuWebsocketHandler → Prop
  | unmade {exception : Thrown} (hn : (outcome.scan.isOk && outcome.construct.isOk) = false) :
      ConnectEnds handler outcome (.threw exception) handler
  | unset {parameters : LcuParameters} {exception : Thrown} (hs : outcome.scan = .ok parameters)
      (hm : outcome.construct.isOk = true) :
      ConnectEnds handler outcome (.threw exception)
        { handler with websocket := some (.new "127.0.0.1" parameters.appPort) }
  | unstarted {parameters : LcuParameters} {exception : Thrown} {socket : Option WebSocket}
      (hs : outcome.scan = .ok parameters) (hm : outcome.construct.isOk = true) :
      ConnectEnds handler outcome (.threw exception)
        { handler with websocket := some { clientOf parameters with websocket := socket } }
  | started {parameters : LcuParameters} {socket : WebSocket}
      (hs : outcome.scan = .ok parameters) (hm : outcome.construct.isOk = true) :
      ConnectEnds handler outcome .returned
        { handler with
          websocket := some
            { clientOf parameters with websocket := some socket, connected := true } }

theorem connect_ends (outcome : ReconnectOutcome) (hw : handler.websocket = none) :
    ConnectEnds handler outcome (handler.connect outcome).1 (handler.connect outcome).2 := by
  simp only [connect, hw]
  cases hs : outcome.scan with
  | error exception => exact .unmade (by rw [hs]; rfl)
  | ok parameters =>
      cases hm : outcome.construct with
      | error exception => exact .unmade (by rw [hs, hm]; rfl)
      | ok _ =>
          have hmade : outcome.construct.isOk = true := by
            rw [hm]
            rfl
          cases outcome.setCredentials with
          | error exception => exact .unset hs hmade
          | ok _ =>
              obtain ⟨socket, hstart⟩ | ⟨exception, socket, hstart⟩ :=
                (clientOf parameters).start_new outcome.start rfl
              · unfold clientOf at hstart
                simp only [hstart]
                exact .started hs hmade
              · unfold clientOf at hstart
                simp only [hstart]
                exact .unstarted hs hmade

theorem connect_none (outcome : ReconnectOutcome) (hw : handler.websocket = none) :
    ((handler.connect outcome).1 = .returned ∧ (handler.connect outcome).2.isConnected = true ∨
      (∃ exception, (handler.connect outcome).1 = .threw exception) ∧
        (handler.connect outcome).2.isConnected = false) ∧
      handler.SameFlags (handler.connect outcome).2 := by
  have hends := connect_ends outcome hw
  generalize (handler.connect outcome).1 = completion at hends ⊢
  generalize (handler.connect outcome).2 = after at hends ⊢
  cases hends with
  | unmade _ => exact ⟨Or.inr ⟨⟨_, rfl⟩, isConnected_of_none hw⟩, SameFlags.refl _⟩
  | unset _ _ | unstarted _ _ => exact ⟨Or.inr ⟨⟨_, rfl⟩, rfl⟩, rfl⟩
  | started _ _ => exact ⟨Or.inl ⟨rfl, rfl⟩, rfl⟩

-- A client that is connected ends as its shutdown does.
theorem resetWebsocket_shutsDown {client : HttpsWebsocketClient}
    (hw : handler.websocket = some client) (hs : client.shutsDown = true)
    (shutdown : Except TransportException Unit) : handler.resetWebsocket shutdown =
      shutdown.map fun _ => { handler with websocket := none } := by
  simp only [resetWebsocket, hw, HttpsWebsocketClient.destroy, HttpsWebsocketClient.stop, hs,
    if_true]
  cases shutdown <;> rfl

-- The old client is not connected, so its destructor calls no shutdown.
theorem resetWebsocket_disconnected (shutdown : Except TransportException Unit)
    (hc : handler.isConnected = false) :
    handler.resetWebsocket shutdown = .ok { handler with websocket := none } := by
  unfold resetWebsocket
  split
  · rename_i hw
    rw [← hw]
  · rename_i client hw
    rw [isConnected_of_some hw] at hc
    have hd : client.destroy shutdown = .ok () := HttpsWebsocketClient.stop_of_disconnected hc
    rw [hd]
    rfl

-- A reconnect() of a handler that is not connected drops the client it has
-- and connects from nothing.
theorem reconnect_eq_connect (outcome : ReconnectOutcome) (hc : handler.isConnected = false) :
    handler.reconnect outcome = ({ handler with websocket := none }).connect outcome := by
  unfold reconnect
  split
  · rw [resetWebsocket_disconnected _ hc]
  · rename_i hn
    cases hw : handler.websocket with
    | none => rw [← hw]
    | some client => simp [hw, hc] at hn

-- From a handler that is not connected, reconnect() returns exactly when it
-- connects, and never ends the process.
theorem reconnect_disconnected (outcome : ReconnectOutcome) (hc : handler.isConnected = false) :
    ((handler.reconnect outcome).1 = .returned ∧ (handler.reconnect outcome).2.isConnected = true ∨
      (∃ exception, (handler.reconnect outcome).1 = .threw exception) ∧
        (handler.reconnect outcome).2.isConnected = false) ∧
      handler.SameFlags (handler.reconnect outcome).2 := by
  rw [reconnect_eq_connect outcome hc]
  exact connect_none outcome rfl

-- A client that says it is connected holds a socket.
def Opened (handler : LcuWebsocketHandler) : Prop :=
  ∀ client, handler.websocket = some client → client.connected = true →
    client.websocket.isSome = true

theorem opened_of_none (h : handler.websocket = none) : handler.Opened := by
  intro client hw
  rw [h] at hw
  cases hw

theorem opened_of_some {client : HttpsWebsocketClient} (h : handler.websocket = some client)
    (hc : client.connected = true → client.websocket.isSome = true) : handler.Opened := by
  intro other hw
  rw [h] at hw
  cases hw
  exact hc

theorem connect_opened (outcome : ReconnectOutcome) (hw : handler.websocket = none) :
    (handler.connect outcome).2.Opened := by
  have hends := connect_ends outcome hw
  generalize (handler.connect outcome).1 = completion at hends
  generalize (handler.connect outcome).2 = after at hends ⊢
  cases hends with
  | unmade _ => exact opened_of_none hw
  | unset _ _ | unstarted _ _ => exact opened_of_some rfl (fun hc => by cases hc)
  | started _ _ => exact opened_of_some rfl (fun _ => rfl)

theorem reconnect_opened (outcome : ReconnectOutcome) (hc : handler.isConnected = false) :
    (handler.reconnect outcome).2.Opened := by
  rw [reconnect_eq_connect outcome hc]
  exact connect_opened outcome rfl

theorem reconnect_returned (hc : handler.isConnected = false)
    (h : handler.reconnect outcome = (.returned, after)) :
    after.isConnected = true ∧ handler.SameFlags after := by
  obtain ⟨⟨_, ha⟩ | ⟨⟨_, he⟩, _⟩, hs⟩ := reconnect_disconnected outcome hc
  · rw [h] at ha hs
    exact ⟨ha, hs⟩
  · rw [h] at he
    cases he

theorem reconnect_threw {exception : Thrown} (hc : handler.isConnected = false)
    (h : handler.reconnect outcome = (.threw exception, after)) :
    after.isConnected = false ∧ handler.SameFlags after := by
  obtain ⟨⟨hr, _⟩ | ⟨_, ha⟩, hs⟩ := reconnect_disconnected outcome hc
  · rw [h] at hr
    cases hr
  · rw [h] at ha hs
    exact ⟨ha, hs⟩

theorem reconnect_ne_terminated (hc : handler.isConnected = false) :
    handler.reconnect outcome ≠ (.terminated, after) := by
  intro h
  obtain ⟨⟨hr, _⟩ | ⟨⟨_, he⟩, _⟩, _⟩ := reconnect_disconnected outcome hc
  · rw [h] at hr
    cases hr
  · rw [h] at he
    cases he

theorem notification_eq_some {connected : Bool} {callback : Callback}
    (h : handler.notification connected = some callback) :
    handler.isStateConnected = !connected ∧
      callback = if connected then .onConnected else .onDisconnected := by
  unfold notification at h
  cases connected <;> cases hs : handler.isStateConnected <;> simp [hs] at h ⊢ <;> exact h.2.symm

-- With both connection callbacks registered, no callback means no change.
theorem notification_eq_none {connected : Bool} (hc : handler.onConnected = true)
    (hd : handler.onDisconnected = true) (h : handler.notification connected = none) :
    handler.isStateConnected = connected := by
  unfold notification at h
  cases connected <;> cases hs : handler.isStateConnected <;> simp [hs, hc, hd] at h ⊢

end LcuWebsocketHandler

end Rito

import Rito.LcuWebsocketHandler.Theorems

namespace Rito

-- A client as reconnect() builds it from what a process scan returned. Its
-- credentials, once set, are those of the scan as well.
structure HttpsWebsocketClient.BuiltFrom (parameters : LcuParameters)
    (client : HttpsWebsocketClient) : Prop where
  host : client.host = "127.0.0.1"
  port : client.port = parameters.appPort
  credentials : ∀ credentials, client.credentials = some credentials →
    credentials = ("riot", parameters.remotingAuthToken)

namespace LcuWebsocketHandler

-- What a reconnect() makes of a handler: how it ends, and the handler after it.
structure ReconnectLaw (handler : LcuWebsocketHandler) (outcome : ReconnectOutcome)
    (completion : Completion) (after : LcuWebsocketHandler) : Prop where
  returned_iff : completion = .returned ↔ after.isConnected = true
  not_terminated : completion ≠ .terminated
  -- a later call starts from a handler without a client
  threw : ∀ exception, completion = .threw exception → after.isConnected = false ∧
    ∀ later, after.reconnect later = ({ after with websocket := none }).connect later
  kept : handler.isConnected = true → after = handler
  -- the client there is afterwards comes from this call's scan
  installed : handler.isConnected = false → ∀ client, after.websocket = some client →
    ∃ parameters, outcome.scan = .ok parameters ∧ client.BuiltFrom parameters ∧
      (completion = .returned →
        client.credentials = some ("riot", parameters.remotingAuthToken))
  -- the old one is destroyed, and its destructor calls no shutdown
  dropped : handler.isConnected = false →
    (∀ old, handler.websocket = some old → old.shutsDown = false) ∧
      ∀ shutdown, handler.reconnect { outcome with shutdown := shutdown } = (completion, after) ∧
        ({ handler with websocket := none }).connect outcome = (completion, after)

variable {handler : LcuWebsocketHandler} {outcome : ReconnectOutcome}
  {client : HttpsWebsocketClient}

theorem shutsDown_of_disconnected (hc : handler.isConnected = false)
    (hw : handler.websocket = some client) : client.shutsDown = false := by
  rw [isConnected_of_some hw] at hc
  simp [HttpsWebsocketClient.shutsDown, hc]

theorem builtFrom_clientOf {parameters : LcuParameters} {socket : Option WebSocket}
    {connected : Bool} : HttpsWebsocketClient.BuiltFrom parameters
      { clientOf parameters with websocket := socket, connected := connected } := by
  refine ⟨rfl, rfl, fun credentials h => ?_⟩
  exact (Option.some.inj h).symm

-- The client that connecting from nothing leaves behind.
theorem connect_installed (hw : handler.websocket = none)
    (h : (handler.connect outcome).2.websocket = some client) :
    ∃ parameters, outcome.scan = .ok parameters ∧ client.BuiltFrom parameters ∧
      ((handler.connect outcome).1 = .returned →
        client.credentials = some ("riot", parameters.remotingAuthToken)) := by
  have hends := connect_ends outcome hw
  generalize (handler.connect outcome).1 = completion at hends ⊢
  generalize (handler.connect outcome).2 = after at hends h
  cases hends with
  | unmade _ =>
      rw [hw] at h
      cases h
  | @unset parameters _ hs _ =>
      obtain rfl : HttpsWebsocketClient.new "127.0.0.1" parameters.appPort = client :=
        Option.some.inj h
      refine ⟨parameters, hs, ⟨rfl, rfl, fun credentials hc => ?_⟩, fun hr => ?_⟩
      · cases hc
      · cases hr
  | @unstarted parameters _ _ hs _ =>
      rw [← Option.some.inj h]
      exact ⟨parameters, hs, builtFrom_clientOf, fun _ => rfl⟩
  | @started parameters _ hs _ =>
      rw [← Option.some.inj h]
      exact ⟨parameters, hs, builtFrom_clientOf, fun _ => rfl⟩

theorem reconnect_connected (outcome : ReconnectOutcome) (hc : handler.isConnected = true) :
    handler.reconnect outcome = (.returned, handler) := by
  cases hw : handler.websocket with
  | none =>
      rw [isConnected_of_none hw] at hc
      cases hc
  | some client => simp only [reconnect, hc, connect, hw, not_true, and_false, if_false]

-- Whatever state a handler is in and whatever the steps of reconnect() come to.
theorem reconnect_law (handler : LcuWebsocketHandler) (outcome : ReconnectOutcome) :
    ReconnectLaw handler outcome (handler.reconnect outcome).1 (handler.reconnect outcome).2 := by
  by_cases hc : handler.isConnected = true
  · rw [reconnect_connected outcome hc]
    exact
      { returned_iff := by simp [hc]
        not_terminated := by simp
        threw := by simp
        kept := fun _ => rfl
        installed := by simp [hc]
        dropped := by simp [hc] }
  · rw [Bool.not_eq_true] at hc
    have hconnect := reconnect_eq_connect outcome hc
    have hends := (reconnect_disconnected outcome hc).1
    exact
      { returned_iff := by
          rcases hends with ⟨hreturned, hafter⟩ | ⟨⟨exception, hthrew⟩, hafter⟩
          · exact iff_of_true hreturned hafter
          · rw [hthrew, hafter]
            simp
        not_terminated := by
          rcases hends with ⟨hreturned, -⟩ | ⟨⟨exception, hthrew⟩, -⟩
          · simp [hreturned]
          · simp [hthrew]
        threw := by
          intro exception hexception
          rcases hends with ⟨hreturned, -⟩ | ⟨-, hafter⟩
          · rw [hreturned] at hexception
            cases hexception
          · exact ⟨hafter, fun later => reconnect_eq_connect later hafter⟩
        kept := by simp [hc]
        installed := by
          intro _ client hw
          rw [hconnect] at hw ⊢
          exact connect_installed rfl hw
        dropped := by
          intro _
          refine ⟨fun old hw => shutsDown_of_disconnected hc hw, fun shutdown => ?_⟩
          rw [reconnect_eq_connect _ hc, hconnect]
          exact ⟨rfl, rfl⟩ }

end LcuWebsocketHandler

end Rito

import Rito.LcuWebsocketHandler.Clients
import Rito.LcuWebsocketHandler.Reconnect

namespace Rito

-- A handler with such a client is not connected.
def Unconnected (before : Option HttpsWebsocketClient) : Prop :=
  ∀ client, before = some client → client.connected = false

-- What a call of send_message() does to the client, by what it returns.
def Sends (message : Bytes) (before after : Option HttpsWebsocketClient) (sent : Bool) : Prop :=
  ∃ client, before = some client ∧
    if sent then client.websocket.isSome = true ∧
      after = some (client.sendMessage message (.ok ())).2
    else client.websocket = none ∧ after = before

-- How reconnect() ends.
def completion : Except Thrown Unit → Completion
  | .ok () => .returned
  | .error exception => .threw exception

-- A client in the making, up to m_connected = true.
def clientInMaking (parameters : LcuParameters) (socket : WebSocket) : HttpsWebsocketClient :=
  { LcuWebsocketHandler.clientOf parameters with websocket := some socket }

-- What a place in a critical section knows of m_websocket as it is, against
-- the client `before` that the section found when it locked the mutex.
def Inside.Outline (before : Option HttpsWebsocketClient) (sockets : Sockets) : Inside → Prop
  | .release site => sockets.object = before ∧ (site = .reconnect → Unconnected before)
  | .destroyTest site client =>
      sockets.websocket = none ∧ sockets.clients client = before ∧
        (site = .reconnect → Unconnected before)
  | .clearConnected site _ | .shutdown site _ =>
      sockets.websocket = none ∧ before.any (·.shutsDown) = true ∧
        (site = .reconnect → Unconnected before)
  | .free site _ => sockets.websocket = none ∧ (site = .reconnect → Unconnected before)
  | .reconnectNull =>
      sockets.websocket = none ∧ Unconnected before ∨
        sockets.object = before ∧ ∃ client, before = some client ∧ client.connected = true
  | .scan | .construct _ => sockets.websocket = none ∧ Unconnected before
  | .setCredentials parameters =>
      Unconnected before ∧ sockets.object = some (.new "127.0.0.1" parameters.appPort)
  | .openSocket =>
      Unconnected before ∧
        ∃ parameters, sockets.object = some (LcuWebsocketHandler.clientOf parameters)
  | .setMaxPayloadSize _ =>
      Unconnected before ∧ ∃ parameters,
        sockets.object = some (clientInMaking parameters { maxPayloadSize := none, sent := [] })
  | .setConnected _ =>
      Unconnected before ∧ ∃ parameters, sockets.object =
        some (clientInMaking parameters { maxPayloadSize := some maxFrameSize, sent := [] })
  | _ => sockets.object = before

-- What it knows when all that is left is to unlock: what the whole section
-- comes to, as one step.
def Ending.Outline (before : Option HttpsWebsocketClient) (sockets : Sockets)
    (block : CriticalSection) : Ending → Prop
  | .tested connected =>
      sockets.object = before ∧ (connected = false → Unconnected before)
  | .sent value => ∃ message, block = .sendMessage message ∧
      Sends message before sockets.object value
  | .dropped => sockets.object = none
  | .reconnected result => ∃ outcome, ∀ handler : LcuWebsocketHandler,
      handler.websocket = before → handler.reconnect outcome =
        (completion result, { handler with websocket := sockets.object })

def outline (before : Option HttpsWebsocketClient) (sockets : Sockets) (block : CriticalSection) :
    Inside ⊕ Ending → Prop
  | .inl access => access.block = block ∧ access.Outline before sockets
  | .inr ending => ending.Ends block ∧ ending.Outline before sockets block

namespace Sockets

variable {sockets : Sockets} {client : Nat} {object other : HttpsWebsocketClient}

theorem object_of_none (hw : sockets.websocket = none) : sockets.object = none := by
  simp only [Sockets.object, hw, Option.bind_none]

theorem object_of_some (hw : sockets.websocket = some client) :
    sockets.object = sockets.clients client := by
  simp only [Sockets.object, hw, Option.bind_some]

theorem object_set (hw : sockets.websocket = some client) :
    (sockets.set client (some other)).object = some other := by
  simp [Sockets.object, set, hw]

end Sockets

namespace LcuWebsocketHandler

variable {handler : LcuWebsocketHandler} {before : Option HttpsWebsocketClient}

theorem isConnected_of_unconnected (hu : Unconnected before) (hw : handler.websocket = before) :
    handler.isConnected = false := by
  unfold isConnected
  split
  · rfl
  · next client hc => exact hu client (hw ▸ hc)

-- From there, reconnect() connects from nothing.
theorem reconnect_of_unconnected (hu : Unconnected before) (hw : handler.websocket = before)
    (outcome : ReconnectOutcome) :
    handler.reconnect outcome = ({ handler with websocket := none }).connect outcome :=
  reconnect_eq_connect outcome (isConnected_of_unconnected hu hw)

end LcuWebsocketHandler

section Access

variable {sockets after : Sockets} {access : Inside} {next : Inside ⊕ Ending}
  {before : Option HttpsWebsocketClient}

-- An outcome of reconnect() whose calls all return, to be changed where one
-- does not.
def returning (parameters : LcuParameters) : ReconnectOutcome where
  shutdown := .ok ()
  scan := .ok parameters
  construct := .ok ()
  setCredentials := .ok ()
  start := ⟨.ok (), .ok ()⟩

theorem unconnected_none : Unconnected none := by
  intro client hc
  cases hc

theorem unconnected_some {object : HttpsWebsocketClient} (hc : object.connected = false) :
    Unconnected (some object) := by
  intro client hclient
  obtain rfl := Option.some.inj hclient
  exact hc

theorem before_eq_some {client : Nat} {object : HttpsWebsocketClient}
    (ho : sockets.object = before) (hw : sockets.websocket = some client)
    (hd : sockets.clients client = some object) : before = some object := by
  rw [← ho, Sockets.object_of_some hw, hd]

theorem outline_afterReset {site : ResetSite} (hw : after.websocket = none)
    (hu : site = .reconnect → Unconnected before) :
    Rito.outline before after (Inside.release site).block (Sockets.afterReset site) := by
  cases site with
  | stop => exact ⟨trivial, Sockets.object_of_none hw⟩
  | reconnect => exact ⟨rfl, Or.inl ⟨hw, hu rfl⟩⟩

-- The proof outline of the critical sections: what a place knows, the access
-- there makes into what the next place knows.
theorem Access.outline (h : Access sockets access (.ok (after, next)))
    (hp : access.Points sockets) (ho : access.Outline before sockets) :
    Rito.outline before after access.block next := by
  cases h with
  | testNull hw =>
      refine ⟨trivial, ho, fun _ => ?_⟩
      rw [← ho, Sockets.object_of_none hw]
      exact unconnected_none
  | testPointer hw | sendPointer hw | reconnectPointer hw => exact ⟨rfl, ho⟩
  | testFlag hd =>
      refine ⟨trivial, ho, fun hc => ?_⟩
      rw [before_eq_some ho hp hd]
      exact unconnected_some hc
  | notSent hd hs => exact ⟨trivial, _, rfl, _, before_eq_some ho hp hd, hs, ho⟩
  | sent hd hs =>
      refine ⟨trivial, _, rfl, _, before_eq_some ho hp hd, ?_, Sockets.object_set hp⟩
      rw [hs]
      rfl
  | releaseNull hw => exact outline_afterReset hw ho.2
  | release hw =>
      refine ⟨rfl, rfl, ?_, ho.2⟩
      rw [← ho.1, Sockets.object_of_some hw]
  | shutsDown hd hs =>
      refine ⟨rfl, ho.1, ?_, ho.2.2⟩
      rw [← ho.2.1, hd]
      exact hs
  | silent hd hs => exact ⟨rfl, ho.1, ho.2.2⟩
  | clearConnected hd => exact ⟨rfl, ho⟩
  | shutdown hd => exact ⟨rfl, ho.1, ho.2.2⟩
  | free hd => exact outline_afterReset ho.1 ho.2
  | noClient hw =>
      refine ⟨rfl, Or.inl ⟨hw, ?_⟩⟩
      have ho : sockets.object = before := ho
      rw [← ho, Sockets.object_of_none hw]
      exact unconnected_none
  | stillConnected hd hc =>
      exact ⟨rfl, Or.inr ⟨ho, _, before_eq_some ho hp hd, hc⟩⟩
  | notConnected hd hc =>
      refine ⟨rfl, ho, fun _ => ?_⟩
      rw [before_eq_some ho hp hd]
      exact unconnected_some hc
  | reconnectNull hw =>
      refine ⟨rfl, hw, ?_⟩
      obtain ⟨-, hu⟩ | ⟨ho, client, hc, -⟩ := ho
      · exact hu
      · rw [← ho, Sockets.object_of_none hw] at hc
        cases hc
  | kept hw =>
      obtain ⟨hnone, -⟩ | ⟨ho, client, hc, hconnected⟩ := ho
      · rw [hw] at hnone
        cases hnone
      · refine ⟨trivial, returning ⟨"", 0⟩, fun handler hhandler => ?_⟩
        have hup : handler.isConnected = true := by
          rw [LcuWebsocketHandler.isConnected_of_some (hhandler.trans hc)]
          exact hconnected
        rw [LcuWebsocketHandler.reconnect_connected _ hup, ho, ← hhandler]
        rfl
  | @scanFailed exception =>
      refine ⟨trivial, { returning ⟨"", 0⟩ with scan := .error exception }, fun handler hh => ?_⟩
      rw [LcuWebsocketHandler.reconnect_of_unconnected ho.2 hh, Sockets.object_of_none ho.1]
      rfl
  | scanned => exact ⟨rfl, ho⟩
  | @notConstructed parameters exception =>
      refine ⟨trivial, { returning parameters with construct := .error exception },
        fun handler hh => ?_⟩
      rw [LcuWebsocketHandler.reconnect_of_unconnected ho.2 hh, Sockets.object_of_none ho.1]
      rfl
  | constructed => exact ⟨rfl, ho.2, by simp [Sockets.object]⟩
  | @credentialsNotSet parameters exception _ _ hw hd =>
      refine ⟨trivial, { returning parameters with setCredentials := .error exception },
        fun handler hh => ?_⟩
      rw [LcuWebsocketHandler.reconnect_of_unconnected ho.1 hh, ho.2]
      rfl
  | @credentialsSet parameters _ _ hw hd =>
      refine ⟨rfl, ho.1, parameters, ?_⟩
      rw [Sockets.object_set hw]
      have hobject := ho.2
      rw [Sockets.object_of_some hw, hd] at hobject
      rw [Option.some.inj hobject]
      rfl
  | alreadyOpen hw hd hs =>
      obtain ⟨hu, parameters, hobject⟩ := ho
      rw [Sockets.object_of_some hw, hd] at hobject
      rw [Option.some.inj hobject] at hs
      cases hs
  | @notOpened _ _ exception hw hd hs =>
      obtain ⟨hu, parameters, hobject⟩ := ho
      refine ⟨trivial, { returning parameters with start := ⟨.error exception, .ok ()⟩ },
        fun handler hh => ?_⟩
      rw [LcuWebsocketHandler.reconnect_of_unconnected hu hh, hobject]
      rfl
  | opened hw hd hs =>
      obtain ⟨hu, parameters, hobject⟩ := ho
      refine ⟨rfl, hu, parameters, ?_⟩
      rw [Sockets.object_of_some hw, hd] at hobject
      rw [Sockets.object_set hw, Option.some.inj hobject]
      rfl
  | @notLimited _ _ exception hd =>
      obtain ⟨hu, parameters, hobject⟩ := ho
      refine ⟨trivial, { returning parameters with start := ⟨.ok (), .error exception⟩ },
        fun handler hh => ?_⟩
      rw [LcuWebsocketHandler.reconnect_of_unconnected hu hh, hobject]
      rfl
  | limited hd =>
      obtain ⟨hu, parameters, hobject⟩ := ho
      refine ⟨rfl, hu, parameters, ?_⟩
      rw [Sockets.object_of_some hp, hd] at hobject
      rw [Sockets.object_set hp, Option.some.inj hobject]
      rfl
  | setConnected hd =>
      obtain ⟨hu, parameters, hobject⟩ := ho
      rw [Sockets.object_of_some hp, hd] at hobject
      refine ⟨trivial, returning parameters, fun handler hh => ?_⟩
      rw [LcuWebsocketHandler.reconnect_of_unconnected hu hh, Sockets.object_set hp,
        Option.some.inj hobject]
      rfl

-- The sections that read m_websocket and its client only.
def reads : Inside ⊕ Ending → Bool
  | .inl access => access.block = .isConnected
  | .inr (.tested _) => true
  | .inr _ => false

-- m_connected = false, as the loop writes it without the lock.
def clearConnected (object : HttpsWebsocketClient) : HttpsWebsocketClient :=
  { object with connected := false }

theorem unconnected_clear (before : Option HttpsWebsocketClient) :
    Unconnected (before.map clearConnected) := by
  intro client hc
  obtain ⟨object, -, rfl⟩ := Option.map_eq_some_iff.mp hc
  rfl

theorem clearConnected_sendMessage (object : HttpsWebsocketClient) (message : Bytes) :
    clearConnected (object.sendMessage message (.ok ())).2 =
      ((clearConnected object).sendMessage message (.ok ())).2 := by
  obtain ⟨connected, host, port, credentials, websocket⟩ := object
  cases websocket <;> rfl

theorem Sends.clear {message : Bytes} {found : Option HttpsWebsocketClient} {value : Bool}
    (h : Sends message before found value) :
    Sends message (before.map clearConnected) (found.map clearConnected) value := by
  obtain ⟨client, rfl, hsends⟩ := h
  refine ⟨clearConnected client, rfl, ?_⟩
  cases value with
  | false => exact ⟨hsends.1, congrArg (Option.map clearConnected) hsends.2⟩
  | true =>
      refine ⟨hsends.1, ?_⟩
      rw [hsends.2, ← clearConnected_sendMessage]
      rfl

-- A section other than a reset or a reconnect() leaves m_websocket as it was,
-- up to its last access.
theorem Inside.outline_iff (hb : access.block ≠ .stopReset ∧ access.block ≠ .reconnect) :
    access.Outline before sockets ↔ sockets.object = before := by
  cases access with
  | testPointer | testFlag | sendPointer | sendFrame => exact Iff.rfl
  | release site | destroyTest site | clearConnected site | shutdown site | free site =>
      cases site with
      | stop => exact absurd rfl hb.1
      | reconnect => exact absurd rfl hb.2
  | _ => exact absurd rfl hb.2

-- What a section of another thread knows does not depend on m_connected, once
-- the client it found is taken to be the one after the write.
theorem outline_clear {block : CriticalSection} {place : Inside ⊕ Ending} {client : Nat}
    {object : HttpsWebsocketClient} (hb : block ≠ .stopReset ∧ block ≠ .reconnect)
    (hw : sockets.websocket = some client) (hd : sockets.clients client = some object)
    (ho : outline before sockets block place) :
    outline (before.map clearConnected)
      (sockets.set client (some (clearConnected object))) block place := by
  have hobject : (sockets.set client (some (clearConnected object))).object =
      sockets.object.map clearConnected := by
    rw [Sockets.object_set hw, Sockets.object_of_some hw, hd]
    rfl
  cases place with
  | inl access =>
      obtain ⟨rfl, ho⟩ := ho
      refine ⟨rfl, (Inside.outline_iff hb).mpr ?_⟩
      rw [hobject, (Inside.outline_iff hb).mp ho]
  | inr ending =>
      obtain ⟨hends, ho⟩ := ho
      refine ⟨hends, ?_⟩
      cases ending with
      | tested connected =>
          exact ⟨by rw [hobject, ho.1], fun _ => unconnected_clear before⟩
      | sent value =>
          obtain ⟨message, hm, hsends⟩ := ho
          exact ⟨message, hm, by rw [hobject]; exact hsends.clear⟩
      | dropped =>
          cases block with
          | stopReset => exact absurd rfl hb.1
          | _ => cases hends
      | reconnected result =>
          cases block with
          | reconnect => exact absurd rfl hb.2
          | _ => cases hends

-- Nor does a section that only reads depend on what is sent meanwhile.
theorem outline_send {block : CriticalSection} {place : Inside ⊕ Ending} {client : Nat}
    {object : HttpsWebsocketClient} (message : Bytes) (hr : reads place = true)
    (hw : sockets.websocket = some client) (hd : sockets.clients client = some object)
    (ho : outline before sockets block place) :
    outline (before.map fun object => (object.sendMessage message (.ok ())).2)
      (sockets.set client (some (object.sendMessage message (.ok ())).2)) block place := by
  have hobject : (sockets.set client (some (object.sendMessage message (.ok ())).2)).object =
      sockets.object.map fun object => (object.sendMessage message (.ok ())).2 := by
    rw [Sockets.object_set hw, Sockets.object_of_some hw, hd]
    rfl
  cases place with
  | inl access =>
      obtain ⟨rfl, ho⟩ := ho
      have hblock : access.block = .isConnected := by simpa [reads] using hr
      have hb : access.block ≠ .stopReset ∧ access.block ≠ .reconnect := by simp [hblock]
      refine ⟨rfl, (Inside.outline_iff hb).mpr ?_⟩
      rw [hobject, (Inside.outline_iff hb).mp ho]
  | inr ending =>
      obtain ⟨hends, ho⟩ := ho
      refine ⟨hends, ?_⟩
      cases ending with
      | tested connected =>
          refine ⟨by rw [hobject, ho.1], fun hc one hone => ?_⟩
          obtain ⟨found, hfound, rfl⟩ := Option.map_eq_some_iff.mp hone
          rw [HttpsWebsocketClient.sendMessage_connected]
          exact ho.2 hc found hfound
      | _ => cases hr

end Access

end Rito

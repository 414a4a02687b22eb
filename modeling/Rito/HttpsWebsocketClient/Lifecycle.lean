import Rito.HttpsWebsocketClient
import Rito.Machine

namespace Rito

-- A call on a client, with what the transport does during it.
inductive ClientCall where
  | setCredentials (username password : String)
  | start (outcome : StartOutcome)
  | stop (shutdown : Except TransportException Unit)
  | sendMessage (message : Bytes) (sendFrame : Except TransportException Unit)
  | receiveMessage (transport : List FrameResult)

-- How it ends.
inductive ClientReturn where
  | credentialsSet
  | started (result : Except Exception Unit)
  | stopped (result : Except TransportException Unit)
  | sent (result : Except TransportException Bool)
  | received (result : Except Exception Bytes)

-- What a client is to its callers. A client is started while it holds a socket
-- object, whether or not the connection is up.
inductive ClientPhase where
  | notStarted
  | connected
  | disconnected
  deriving DecidableEq, Repr

-- What a call can make of the phase, by how it ends.
inductive ClientPhase.Step : ClientPhase → ClientReturn → ClientPhase → Prop
  | credentialsSet (phase : ClientPhase) : Step phase .credentialsSet phase
  | opened : Step .notStarted (.started (.ok ())) .connected
  | alreadyStarted {phase : ClientPhase} (hp : phase ≠ .notStarted) :
      Step phase (.started (.ok ())) phase
  | notOpened (exception : Exception) : Step .notStarted (.started (.error exception)) .notStarted
  -- the exception is that of setMaxPayloadSize()
  | halfOpened (exception : Exception) :
      Step .notStarted (.started (.error exception)) .disconnected
  | stopped (phase : ClientPhase) : Step phase (.stopped (.ok ())) .notStarted
  | interrupted (exception : TransportException) :
      Step .connected (.stopped (.error exception)) .disconnected
  | sent (phase : ClientPhase) (result : Except TransportException Bool) :
      Step phase (.sent result) phase
  | received (phase : ClientPhase) (result : Except Exception Bytes) :
      Step phase (.received result) phase
  | lost (exception : Exception) : Step .connected (.received (.error exception)) .disconnected

-- The phases that a sequence of calls goes through.
inductive ClientPhase.Run (start : ClientPhase) : List ClientReturn → ClientPhase → Prop
  | nil : Run start [] start
  | concat {phase next : ClientPhase} {returns : List ClientReturn} {ended : ClientReturn}
      (hr : Run start returns phase) (hs : Step phase ended next) :
      Run start (returns ++ [ended]) next

namespace HttpsWebsocketClient

def call (client : HttpsWebsocketClient) :
    ClientCall → Option (HttpsWebsocketClient × List ClientReturn)
  | .setCredentials username password =>
      some (client.setCredentials username password, [.credentialsSet])
  | .start outcome =>
      let (result, next) := client.start outcome
      some (next, [.started result])
  | .stop shutdown =>
      let (result, next) := client.stop shutdown
      some (next, [.stopped result])
  | .sendMessage message sendFrame =>
      let (result, next) := client.sendMessage message sendFrame
      some (next, [.sent result])
  | .receiveMessage transport =>
      -- it takes off the transport exactly what the call says
      match client.receiveMessage transport with
      | some (result, next, []) => some (next, [.received result])
      | _ => none

-- Any sequence of calls on one client.
def machine : Machine HttpsWebsocketClient ClientCall ClientReturn := ⟨call⟩

def phase (client : HttpsWebsocketClient) : ClientPhase :=
  match client.websocket with
  | none => .notStarted
  | some _ => if client.connected then .connected else .disconnected

-- m_connected is only set while there is a socket object.
def FlagSound (client : HttpsWebsocketClient) : Prop :=
  client.connected = true → client.websocket.isSome = true

variable {client next : HttpsWebsocketClient} {outcome : StartOutcome}
  {shutdown : Except TransportException Unit} {host : String} {port : UInt16}
  {calls : List ClientCall} {returns : List ClientReturn}

theorem FlagSound.not_connected (hf : client.FlagSound) (hw : client.websocket = none) :
    client.connected = false := by
  by_contra hc
  rw [Bool.not_eq_false] at hc
  have hs := hf hc
  rw [hw] at hs
  cases hs

-- The phase only depends on whether there is a socket, and on m_connected.
theorem phase_congr (hw : next.websocket.isSome = client.websocket.isSome)
    (hc : next.connected = client.connected) : next.phase = client.phase := by
  have hphase : ∀ client : HttpsWebsocketClient, client.phase =
      if client.websocket.isSome then if client.connected then .connected else .disconnected
      else .notStarted := by
    intro client
    unfold phase
    cases client.websocket <;> rfl
  rw [hphase next, hphase client, hw, hc]

theorem phase_of_none (hw : client.websocket = none) : client.phase = .notStarted := by
  simp only [phase, hw]

theorem phase_of_lost (hw : client.websocket.isSome = true) (hc : client.connected = false) :
    client.phase = .disconnected := by
  obtain ⟨socket, hs⟩ := Option.isSome_iff_exists.mp hw
  simp only [phase, hs, hc, Bool.false_eq_true, if_false]

theorem phase_eq_notStarted : client.phase = .notStarted ↔ client.websocket = none := by
  unfold phase
  cases client.websocket with
  | none => simp
  | some socket => cases client.connected <;> simp

theorem phase_eq_connected (hf : client.FlagSound) :
    client.phase = .connected ↔ client.connected = true := by
  unfold FlagSound at hf
  unfold phase
  cases hw : client.websocket with
  | none =>
      rw [hw] at hf
      simpa using hf
  | some socket => cases client.connected <;> simp

-- On a client without a socket, start() sets m_connected exactly when it
-- returns.
theorem start_new (client : HttpsWebsocketClient) (outcome : StartOutcome)
    (hw : client.websocket = none) :
    (∃ socket, client.start outcome =
        (.ok (), { client with websocket := some socket, connected := true })) ∨
      ∃ exception socket,
        client.start outcome = (.error exception, { client with websocket := socket }) := by
  simp only [start, hw]
  cases outcome.openSocket with
  | error exception => exact Or.inr ⟨startException exception, none, by rw [← hw]⟩
  | ok _ =>
      cases outcome.setMaxPayloadSize with
      | error exception => exact Or.inr ⟨startException exception, _, rfl⟩
      | ok _ => exact Or.inl ⟨_, rfl⟩

-- On a started client it does nothing.
theorem start_started (hw : client.websocket.isSome = true) :
    client.start outcome = (.ok (), client) := by
  obtain ⟨socket, hs⟩ := Option.isSome_iff_exists.mp hw
  simp only [start, hs]

theorem start_returns (h : client.start outcome = (.ok (), next)) :
    (client.websocket = none ∧ next.isConnected = true) ∨
      (client.websocket.isSome = true ∧ next = client) := by
  cases hw : client.websocket with
  | none =>
      rcases client.start_new outcome hw with ⟨socket, he⟩ | ⟨exception, socket, he⟩
      · rw [he] at h
        obtain ⟨-, rfl⟩ := Prod.mk.inj h
        exact Or.inl ⟨rfl, rfl⟩
      · rw [he] at h
        cases (Prod.mk.inj h).1
  | some socket =>
      have hs : client.websocket.isSome = true := by rw [hw]; rfl
      rw [start_started hs] at h
      exact Or.inr ⟨rfl, (Prod.mk.inj h).2.symm⟩

-- stop() leaves m_connected set only where there is no socket; it throws only
-- where the connection is up.
theorem stop_cases (client : HttpsWebsocketClient) (shutdown : Except TransportException Unit) :
    (∃ exception, client.phase = .connected ∧
        client.stop shutdown = (.error exception, { client with connected := false })) ∨
      ∃ connected, client.stop shutdown =
          (.ok (), { client with connected := connected, websocket := none }) ∧
        (client.FlagSound → connected = false) := by
  unfold stop
  cases hs : client.shutsDown with
  | true =>
      rw [if_pos rfl]
      cases shutdown with
      | error exception =>
          refine Or.inl ⟨exception, ?_, rfl⟩
          obtain ⟨hw, hc⟩ := Bool.and_eq_true_iff.mp hs
          obtain ⟨socket, hw⟩ := Option.isSome_iff_exists.mp hw
          simp only [phase, hw, hc, if_true]
      | ok _ => exact Or.inr ⟨false, rfl, fun _ => rfl⟩
  | false =>
      refine Or.inr ⟨client.connected, rfl, fun hf => ?_⟩
      by_contra hc
      rw [Bool.not_eq_false] at hc
      rw [shutsDown, hf hc, hc] at hs
      cases hs

theorem stop_of_disconnected (hc : client.isConnected = false) :
    (client.stop shutdown).1 = .ok () := by
  have hs : client.shutsDown = false := by
    unfold isConnected at hc
    rw [shutsDown, hc, Bool.and_false]
  simp only [stop, hs, Bool.false_eq_true, if_false]

theorem stop_returns (h : client.stop shutdown = (.ok (), next)) : next.websocket = none := by
  rcases client.stop_cases shutdown with ⟨exception, -, he⟩ | ⟨connected, he, -⟩
  · rw [he] at h
    cases (Prod.mk.inj h).1
  · rw [he] at h
    rw [← (Prod.mk.inj h).2]

@[simp] theorem sendMessage_connected (client : HttpsWebsocketClient) (message : Bytes)
    (sendFrame : Except TransportException Unit) :
    (client.sendMessage message sendFrame).2.connected = client.connected := by
  unfold sendMessage
  split
  · rfl
  · split <;> rfl

-- A frame that is sent keeps the socket object.
theorem sendMessage_isSome (client : HttpsWebsocketClient) (message : Bytes)
    (sendFrame : Except TransportException Unit) :
    (client.sendMessage message sendFrame).2.websocket.isSome = client.websocket.isSome := by
  unfold sendMessage
  cases hw : client.websocket with
  | none => simp [hw]
  | some socket =>
      cases sendFrame with
      | error exception => simp [hw]
      | ok _ => rfl

-- The client as receive_message left it.
theorem receiveMessage_client {client : HttpsWebsocketClient} {transport rest : List FrameResult}
    {result : Except Exception Bytes} {after : HttpsWebsocketClient}
    (h : client.receiveMessage transport = some (result, after, rest)) :
    after = { client with connected := after.connected } ∧
      (after.connected = true → client.connected = true) ∧
      ((∃ message, result = .ok message) → after = client) := by
  unfold receiveMessage at h
  split at h
  · simp only [Option.some.injEq, Prod.mk.injEq] at h
    obtain ⟨rfl, rfl, rfl⟩ := h
    simp
  · split at h <;> simp only [reduceCtorEq, Option.some.injEq, Prod.mk.injEq] at h <;>
      obtain ⟨rfl, rfl, rfl⟩ := h <;> simp +contextual

theorem start_phase (hf : client.FlagSound) (outcome : StartOutcome) :
    (client.start outcome).2.FlagSound ∧
      client.phase.Step (.started (client.start outcome).1) (client.start outcome).2.phase := by
  cases hw : client.websocket with
  | some socket =>
      have hs : client.websocket.isSome = true := by rw [hw]; rfl
      have hp : client.phase ≠ .notStarted := by
        rw [ne_eq, phase_eq_notStarted, hw]
        exact Option.some_ne_none socket
      rw [start_started hs]
      exact ⟨hf, .alreadyStarted hp⟩
  | none =>
      have hc := hf.not_connected hw
      rw [phase_of_none hw]
      rcases client.start_new outcome hw with ⟨socket, he⟩ | ⟨exception, socket, he⟩
      · rw [he]
        exact ⟨fun _ => rfl, .opened⟩
      · rw [he]
        refine ⟨fun hnext => ?_, ?_⟩
        · rw [hc] at hnext
          cases hnext
        · cases socket with
          | none => exact .notOpened exception
          | some socket =>
              have hp : ({ client with websocket := some socket } : HttpsWebsocketClient).phase =
                  .disconnected := phase_of_lost rfl hc
              rw [hp]
              exact .halfOpened exception

theorem stop_phase (hf : client.FlagSound) (shutdown : Except TransportException Unit) :
    (client.stop shutdown).2.FlagSound ∧
      client.phase.Step (.stopped (client.stop shutdown).1) (client.stop shutdown).2.phase := by
  rcases client.stop_cases shutdown with ⟨exception, hp, he⟩ | ⟨connected, he, hc⟩
  · have hs : client.websocket.isSome = true := hf ((phase_eq_connected hf).mp hp)
    have hnext : ({ client with connected := false } : HttpsWebsocketClient).phase =
        .disconnected := phase_of_lost hs rfl
    rw [he, hp, hnext]
    exact ⟨fun hc => absurd hc Bool.false_ne_true, .interrupted exception⟩
  · obtain rfl := hc hf
    rw [he]
    exact ⟨fun hc => absurd hc Bool.false_ne_true, .stopped client.phase⟩

theorem sendMessage_phase (hf : client.FlagSound) (message : Bytes)
    (sendFrame : Except TransportException Unit) :
    (client.sendMessage message sendFrame).2.FlagSound ∧
      client.phase.Step (.sent (client.sendMessage message sendFrame).1)
        (client.sendMessage message sendFrame).2.phase := by
  have hw := client.sendMessage_isSome message sendFrame
  have hc := client.sendMessage_connected message sendFrame
  rw [phase_congr hw hc]
  refine ⟨?_, .sent client.phase _⟩
  unfold FlagSound
  rw [hw, hc]
  exact hf

theorem receiveMessage_phase {transport rest : List FrameResult}
    {result : Except Exception Bytes} (hf : client.FlagSound)
    (h : client.receiveMessage transport = some (result, next, rest)) :
    next.FlagSound ∧ client.phase.Step (.received result) next.phase := by
  obtain ⟨hnext, hup, hok⟩ := receiveMessage_client h
  have hw : next.websocket = client.websocket := by rw [hnext]
  refine ⟨fun hc => by rw [hw]; exact hf (hup hc), ?_⟩
  by_cases hc : next.connected = client.connected
  · rw [phase_congr (by rw [hw]) hc]
    exact .received client.phase result
  · -- the call has lost the connection
    have hdown : next.connected = false := by
      by_contra hn
      rw [Bool.not_eq_false] at hn
      exact hc (hn.trans (hup hn).symm)
    have hbefore : client.connected = true := by
      rw [hdown] at hc
      simpa using hc
    have hp : next.phase = .disconnected := by
      apply phase_of_lost _ hdown
      rw [hw]
      exact hf hbefore
    cases result with
    | ok message =>
        rw [hok ⟨message, rfl⟩] at hc
        exact absurd rfl hc
    | error exception =>
        rw [(phase_eq_connected hf).mpr hbefore, hp]
        exact .lost exception

-- What a call keeps, and where the phase goes.
theorem call_phase {action : ClientCall} (hf : client.FlagSound)
    (h : client.call action = some (next, returns)) :
    next.FlagSound ∧ ∃ ended, returns = [ended] ∧ client.phase.Step ended next.phase := by
  cases action with
  | setCredentials username password =>
      obtain ⟨rfl, rfl⟩ := Prod.mk.inj (Option.some.inj h)
      exact ⟨hf, .credentialsSet, rfl, .credentialsSet client.phase⟩
  | start outcome =>
      obtain ⟨rfl, rfl⟩ := Prod.mk.inj (Option.some.inj h)
      obtain ⟨hnext, hs⟩ := start_phase hf outcome
      exact ⟨hnext, _, rfl, hs⟩
  | stop shutdown =>
      obtain ⟨rfl, rfl⟩ := Prod.mk.inj (Option.some.inj h)
      obtain ⟨hnext, hs⟩ := stop_phase hf shutdown
      exact ⟨hnext, _, rfl, hs⟩
  | sendMessage message sendFrame =>
      obtain ⟨rfl, rfl⟩ := Prod.mk.inj (Option.some.inj h)
      obtain ⟨hnext, hs⟩ := sendMessage_phase hf message sendFrame
      exact ⟨hnext, _, rfl, hs⟩
  | receiveMessage transport =>
      unfold call at h
      rcases hr : client.receiveMessage transport with _ | ⟨result, after, _ | _⟩
      · simp [hr] at h
      · simp only [hr, Option.some.injEq, Prod.mk.injEq] at h
        obtain ⟨rfl, rfl⟩ := h
        obtain ⟨hnext, hs⟩ := receiveMessage_phase hf hr
        exact ⟨hnext, _, rfl, hs⟩
      · simp [hr] at h

theorem flagSound_new (host : String) (port : UInt16) : (new host port).FlagSound :=
  fun hc => absurd hc Bool.false_ne_true

-- The calls on a client keep m_connected sound and go through its phases.
theorem exec_phase (h : machine.exec (new host port) calls = some (client, returns)) :
    client.FlagSound ∧ ClientPhase.Run .notStarted returns client.phase := by
  refine machine.exec_induction (I := fun _ returns client =>
    client.FlagSound ∧ ClientPhase.Run .notStarted returns client.phase) ?_ ?_ h
  · exact ⟨flagSound_new host port, .nil⟩
  · rintro _ returns client action next _ ⟨hf, hr⟩ hs
    obtain ⟨hnext, ended, rfl, hstep⟩ := call_phase hf hs
    exact ⟨hnext, .concat hr hstep⟩

-- The peer closes the connection.
def lostCalls : List ClientCall := [.start ⟨.ok (), .ok ()⟩, .receiveMessage [.frame 0 []]]

-- shutdown() throws in stop().
def interruptedCalls : List ClientCall :=
  [.start ⟨.ok (), .ok ()⟩, .stop (.error (.other "SSL connection unexpectedly closed"))]

-- The client still holds its socket object, so that start() returns and does
-- not connect it.
theorem start_leaves_disconnected :
    (∃ client returns next,
      machine.exec (new "127.0.0.1" 51234) lostCalls = some (client, returns) ∧
        client.start ⟨.ok (), .ok ()⟩ = (.ok (), next) ∧ next.isConnected = false) ∧
    ∃ client returns next,
      machine.exec (new "127.0.0.1" 51234) interruptedCalls = some (client, returns) ∧
        client.start ⟨.ok (), .ok ()⟩ = (.ok (), next) ∧ next.isConnected = false := by
  constructor
  · exact ⟨_, _, _, rfl, rfl, rfl⟩
  · exact ⟨_, _, _, rfl, rfl, rfl⟩

-- A start() that returns has connected the client if there was no socket
-- object, and has done nothing if there was one. On a client that is not
-- connected stop() returns, and behind a stop() that returned there is none.
theorem start_connects (h : machine.exec (new host port) calls = some (client, returns)) :
    (client.connected = true → client.websocket.isSome = true) ∧
      (∀ outcome next, client.start outcome = (.ok (), next) →
        (next.isConnected = true ↔ client.websocket = none ∨ client.isConnected = true) ∧
          (client.websocket.isSome = true → next = client)) ∧
      (client.isConnected = false → ∀ shutdown, (client.stop shutdown).1 = .ok ()) ∧
      ∀ shutdown outcome stopped next, client.stop shutdown = (.ok (), stopped) →
        stopped.start outcome = (.ok (), next) → next.isConnected = true := by
  refine ⟨(exec_phase h).1, fun outcome next hs => ⟨?_, fun hw => ?_⟩, fun hc shutdown => ?_, ?_⟩
  · rcases start_returns hs with ⟨hw, hc⟩ | ⟨hw, hnext⟩
    · exact iff_of_true hc (Or.inl hw)
    · have hsome : client.websocket ≠ none := Option.isSome_iff_ne_none.mp hw
      simp only [hnext, hsome, false_or]
  · rw [start_started hw] at hs
    exact (Prod.mk.inj hs).2.symm
  · exact stop_of_disconnected hc
  · intro shutdown outcome stopped next hstop hs
    have hw := stop_returns hstop
    rcases start_returns hs with ⟨-, hc⟩ | ⟨hsome, -⟩
    · exact hc
    · rw [hw] at hsome
      cases hsome

-- The client that lostCalls leaves.
def lostClient : HttpsWebsocketClient :=
  { new "127.0.0.1" 51234 with
    websocket := some { maxPayloadSize := some maxFrameSize, sent := [] } }

theorem start_connects_lost :
    (lostClient.start ⟨.ok (), .ok ()⟩).2 = lostClient ∧
      ((lostClient.stop (.ok ())).2.start ⟨.ok (), .ok ()⟩).2.isConnected = true := by
  have hrun : machine.exec (new "127.0.0.1" 51234) lostCalls = some (lostClient,
      [.started (.ok ()),
        .received (.error (.websocket "Websocket client is disconnected"))]) := rfl
  obtain ⟨-, hstart, -, hstop⟩ := start_connects hrun
  exact ⟨(hstart ⟨.ok (), .ok ()⟩ _ rfl).2 rfl, hstop (.ok ()) ⟨.ok (), .ok ()⟩ _ _ rfl rfl⟩

end HttpsWebsocketClient

end Rito

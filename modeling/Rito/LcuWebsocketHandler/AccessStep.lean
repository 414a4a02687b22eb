import Rito.LcuWebsocketHandler.Accesses

namespace Rito

namespace Inside

-- The client that an access goes to.
def leadsTo (sockets : Sockets) : Inside → Option Nat
  | .testFlag client | .sendFrame _ client | .destroyTest _ client | .clearConnected _ client
  | .shutdown _ client | .free _ client | .reconnectFlag client | .setMaxPayloadSize client
  | .setConnected client => some client
  | .setCredentials _ | .openSocket => sockets.websocket
  | _ => none

-- The accesses that use m_websocket without a test of their own.
def loads : Inside → Bool
  | .sendPointer _ | .setCredentials _ | .openSocket => true
  | _ => false

end Inside

-- The client the loop receives from.
def LoopPlace.receives : LoopPlace → Option Nat
  | .receiveTest client | .receiveFrame client _ _ | .receiveClear client => some client
  | _ => none

-- Everything one access in a critical section can do.
inductive Access (sockets : Sockets) : Inside → Except Fault (Sockets × (Inside ⊕ Ending)) → Prop
  | testNull (hw : sockets.websocket = none) :
      Access sockets .testPointer (.ok (sockets, .inr (.tested false)))
  | testPointer {client} (hw : sockets.websocket = some client) :
      Access sockets .testPointer (.ok (sockets, .inl (.testFlag client)))
  | testFlag {client object} (hd : sockets.clients client = some object) :
      Access sockets (.testFlag client) (.ok (sockets, .inr (.tested object.connected)))
  | sendPointer {message client} (hw : sockets.websocket = some client) :
      Access sockets (.sendPointer message) (.ok (sockets, .inl (.sendFrame message client)))
  | notSent {message client object} (hd : sockets.clients client = some object)
      (hs : object.websocket = none) :
      Access sockets (.sendFrame message client) (.ok (sockets, .inr (.sent false)))
  | sent {message client object socket} (hd : sockets.clients client = some object)
      (hs : object.websocket = some socket) :
      Access sockets (.sendFrame message client)
        (.ok (sockets.set client (some (object.sendMessage message (.ok ())).2),
          .inr (.sent true)))
  | sendThrew {message client object socket} (hd : sockets.clients client = some object)
      (hs : object.websocket = some socket) :
      Access sockets (.sendFrame message client) (.error (.crash .terminated))
  | releaseNull {site} (hw : sockets.websocket = none) :
      Access sockets (.release site) (.ok (sockets, Sockets.afterReset site))
  | release {site client} (hw : sockets.websocket = some client) :
      Access sockets (.release site)
        (.ok ({ sockets with websocket := none }, .inl (.destroyTest site client)))
  | shutsDown {site client object} (hd : sockets.clients client = some object)
      (hs : object.shutsDown = true) :
      Access sockets (.destroyTest site client) (.ok (sockets, .inl (.clearConnected site client)))
  | silent {site client object} (hd : sockets.clients client = some object)
      (hs : object.shutsDown = false) :
      Access sockets (.destroyTest site client) (.ok (sockets, .inl (.free site client)))
  | clearConnected {site client object} (hd : sockets.clients client = some object) :
      Access sockets (.clearConnected site client)
        (.ok (sockets.set client (some { object with connected := false }),
          .inl (.shutdown site client)))
  | shutdown {site client object} (hd : sockets.clients client = some object) :
      Access sockets (.shutdown site client) (.ok (sockets, .inl (.free site client)))
  | shutdownThrew {site client object} (hd : sockets.clients client = some object) :
      Access sockets (.shutdown site client) (.error (.crash .terminated))
  | free {site client object} (hd : sockets.clients client = some object) :
      Access sockets (.free site client) (.ok (sockets.set client none, Sockets.afterReset site))
  | noClient (hw : sockets.websocket = none) :
      Access sockets .reconnectPointer (.ok (sockets, .inl .reconnectNull))
  | reconnectPointer {client} (hw : sockets.websocket = some client) :
      Access sockets .reconnectPointer (.ok (sockets, .inl (.reconnectFlag client)))
  | stillConnected {client object} (hd : sockets.clients client = some object)
      (hc : object.connected = true) :
      Access sockets (.reconnectFlag client) (.ok (sockets, .inl .reconnectNull))
  | notConnected {client object} (hd : sockets.clients client = some object)
      (hc : object.connected = false) :
      Access sockets (.reconnectFlag client) (.ok (sockets, .inl (.release .reconnect)))
  | reconnectNull (hw : sockets.websocket = none) :
      Access sockets .reconnectNull (.ok (sockets, .inl .scan))
  | kept {client} (hw : sockets.websocket = some client) :
      Access sockets .reconnectNull (.ok (sockets, .inr (.reconnected (.ok ()))))
  | scanFailed {exception} :
      Access sockets .scan (.ok (sockets, .inr (.reconnected (.error exception))))
  | scanned {parameters} : Access sockets .scan (.ok (sockets, .inl (.construct parameters)))
  | notConstructed {parameters exception} :
      Access sockets (.construct parameters)
        (.ok (sockets, .inr (.reconnected (.error exception))))
  | constructed {parameters} :
      Access sockets (.construct parameters)
        (.ok ({ websocket := some sockets.made
                clients := Function.update sockets.clients sockets.made
                  (some (.new "127.0.0.1" parameters.appPort))
                made := sockets.made + 1 }, .inl (.setCredentials parameters)))
  | credentialsNotSet {parameters exception client object}
      (hw : sockets.websocket = some client) (hd : sockets.clients client = some object) :
      Access sockets (.setCredentials parameters)
        (.ok (sockets, .inr (.reconnected (.error exception))))
  | credentialsSet {parameters client object} (hw : sockets.websocket = some client)
      (hd : sockets.clients client = some object) :
      Access sockets (.setCredentials parameters)
        (.ok (sockets.set client
          (some (object.setCredentials "riot" parameters.remotingAuthToken)), .inl .openSocket))
  | alreadyOpen {client object socket} (hw : sockets.websocket = some client)
      (hd : sockets.clients client = some object) (hs : object.websocket = some socket) :
      Access sockets .openSocket (.ok (sockets, .inr (.reconnected (.ok ()))))
  | notOpened {client object exception} (hw : sockets.websocket = some client)
      (hd : sockets.clients client = some object) (hs : object.websocket = none) :
      Access sockets .openSocket (.ok (sockets, .inr (.reconnected
        (.error (.rito (HttpsWebsocketClient.startException exception))))))
  | opened {client object} (hw : sockets.websocket = some client)
      (hd : sockets.clients client = some object) (hs : object.websocket = none) :
      Access sockets .openSocket
        (.ok (sockets.set client
          (some { object with websocket := some { maxPayloadSize := none, sent := [] } }),
          .inl (.setMaxPayloadSize client)))
  | notLimited {client object exception} (hd : sockets.clients client = some object) :
      Access sockets (.setMaxPayloadSize client) (.ok (sockets, .inr (.reconnected
        (.error (.rito (HttpsWebsocketClient.startException exception))))))
  | limited {client object} (hd : sockets.clients client = some object) :
      Access sockets (.setMaxPayloadSize client)
        (.ok (sockets.set client (some { object with
            websocket := object.websocket.map fun socket =>
              { socket with maxPayloadSize := some maxFrameSize } }),
          .inl (.setConnected client)))
  | setConnected {client object} (hd : sockets.clients client = some object) :
      Access sockets (.setConnected client)
        (.ok (sockets.set client (some { object with connected := true }),
          .inr (.reconnected (.ok ()))))
  | null {inside} (hl : inside.loads = true) (hw : sockets.websocket = none) :
      Access sockets inside (.error (.crash .nullDereference))
  | dangling {inside client} (hl : inside.leadsTo sockets = some client)
      (hd : sockets.clients client = none) : Access sockets inside (.error .dangling)

-- Everything one iteration of the for loop in receive_message can do.
inductive FrameStep (client : Nat) : Nat → Bytes → Input → LoopPlace → List LoopEvent → Prop
  | tooLong {messageBuffer} : FrameStep client 0 messageBuffer .tau (.ready .head) []
  | timedOut {left messageBuffer what} :
      FrameStep client (left + 1) messageBuffer (.frame (.throws (.timeout what))) (.ready .head) []
  | interrupted {left messageBuffer exception} (he : ∀ what, exception ≠ .timeout what) :
      FrameStep client (left + 1) messageBuffer (.frame (.throws exception))
        (.receiveClear client) []
  | closed {left messageBuffer flags payload} (hc : payload.length = 0 ∧ flags = 0) :
      FrameStep client (left + 1) messageBuffer (.frame (.frame flags payload))
        (.receiveClear client) []
  | final {left messageBuffer flags payload} (hc : ¬(payload.length = 0 ∧ flags = 0))
      (hf : flags &&& frameFlagFin ≠ 0) :
      FrameStep client (left + 1) messageBuffer (.frame (.frame flags payload))
        (.ready (.deliver (messageBuffer ++ payload))) [.received (messageBuffer ++ payload)]
  | more {left messageBuffer flags payload} (hc : ¬(payload.length = 0 ∧ flags = 0))
      (hf : ¬flags &&& frameFlagFin ≠ 0) :
      FrameStep client (left + 1) messageBuffer (.frame (.frame flags payload))
        (.receiveFrame client left (messageBuffer ++ payload)) []

theorem LoopPlace.receiveStep_cases {client left : Nat} {messageBuffer : Bytes} {input : Input}
    {place : LoopPlace} {events : List LoopEvent}
    (h : receiveStep client left messageBuffer input = some (place, events)) :
    FrameStep client left messageBuffer input place events := by
  unfold receiveStep at h
  split at h
  · obtain ⟨rfl, he⟩ := Option.ite_none_right_eq_some.mp h
    obtain ⟨rfl, rfl⟩ := Prod.mk.inj (Option.some.inj he)
    exact .tooLong
  · split at h
    · cases h
    · obtain ⟨rfl, rfl⟩ := Prod.mk.inj (Option.some.inj h)
      exact .timedOut
    · next he =>
        obtain ⟨rfl, rfl⟩ := Prod.mk.inj (Option.some.inj h)
        exact .interrupted he
    · split at h
      · next hc =>
          obtain ⟨rfl, rfl⟩ := Prod.mk.inj (Option.some.inj h)
          exact .closed hc
      · next hc =>
          split at h
          · next hf =>
              obtain ⟨rfl, rfl⟩ := Prod.mk.inj (Option.some.inj h)
              exact .final hc hf
          · next hf =>
              obtain ⟨rfl, rfl⟩ := Prod.mk.inj (Option.some.inj h)
              exact .more hc hf
  · cases h

namespace Sockets

variable {sockets : Sockets} {inside : Inside} {input : Input}

theorem deref_of_some {client : Nat} {object : HttpsWebsocketClient}
    (hd : sockets.clients client = some object) : sockets.deref client = .ok object := by
  simp only [deref, hd]

theorem deref_of_none {client : Nat} (hd : sockets.clients client = none) :
    sockets.deref client = .error .dangling := by
  simp only [deref, hd]

theorem pointer_of_some {client : Nat} (hw : sockets.websocket = some client) :
    sockets.pointer = .ok client := by
  simp only [pointer, hw]

theorem pointer_of_none (hw : sockets.websocket = none) :
    sockets.pointer = .error (.crash .nullDereference) := by
  simp only [pointer, hw]

-- The ways in which send_message ends on the client a pointer leads to.
inductive SendEnds (sockets : Sockets) (message : Bytes) (client : Nat) :
    Except Fault (Bool × Sockets) → Prop
  | dangling (hd : sockets.clients client = none) :
      SendEnds sockets message client (.error .dangling)
  | notSent {object} (hd : sockets.clients client = some object)
      (hs : object.websocket = none) : SendEnds sockets message client (.ok (false, sockets))
  | sent {object socket} (hd : sockets.clients client = some object)
      (hs : object.websocket = some socket) :
      SendEnds sockets message client
        (.ok (true, sockets.set client (some (object.sendMessage message (.ok ())).2)))
  | threw {object socket} (hd : sockets.clients client = some object)
      (hs : object.websocket = some socket) :
      SendEnds sockets message client (.error (.crash .terminated))

theorem send_ends {message : Bytes} {client : Nat} {result : Except Fault (Bool × Sockets)}
    (h : sockets.send message client input = some result) :
    SendEnds sockets message client result := by
  unfold send at h
  split at h
  · next hd =>
      obtain rfl := Option.some.inj h
      exact .dangling hd
  · next object hd =>
      obtain ⟨hs, he⟩ := Option.ite_none_right_eq_some.mp h
      obtain rfl := Option.some.inj he
      exact .notSent hd (Option.isNone_iff_eq_none.mp hs)
  · next object ending hd =>
      obtain ⟨hsome, he⟩ := Option.ite_none_right_eq_some.mp h
      obtain ⟨socket, hs⟩ := Option.isSome_iff_exists.mp hsome
      cases ending with
      | error exception =>
          obtain rfl : .error (.crash .terminated) = result := by
            simpa [HttpsWebsocketClient.sendMessage, hs] using he
          exact .threw hd hs
      | ok _ =>
          have hsend : object.sendMessage message (.ok ()) =
              (.ok true, (object.sendMessage message (.ok ())).2) := by
            simp only [HttpsWebsocketClient.sendMessage, hs]
          rw [hsend] at he
          obtain rfl := Option.some.inj he
          exact .sent hd hs
  · cases h

-- An access through a pointer to a freed client ends the process, and any
-- other goes on with the client.
theorem deref_access {client : Nat} {result : Except Fault (Sockets × (Inside ⊕ Ending))}
    {next : HttpsWebsocketClient → Except Fault (Sockets × (Inside ⊕ Ending))}
    (hl : inside.leadsTo sockets = some client)
    (h : (sockets.deref client >>= next) = result)
    (hnext : ∀ object, sockets.clients client = some object → Access sockets inside (next object)) :
    Access sockets inside result := by
  cases hd : sockets.clients client with
  | none =>
      rw [deref_of_none hd] at h
      exact h ▸ .dangling hl hd
  | some object =>
      rw [deref_of_some hd] at h
      exact h ▸ hnext object hd

theorem pointer_access {result : Except Fault (Sockets × (Inside ⊕ Ending))}
    {next : Nat → Except Fault (Sockets × (Inside ⊕ Ending))} (hl : inside.loads = true)
    (h : (sockets.pointer >>= next) = result)
    (hnext : ∀ client, sockets.websocket = some client → Access sockets inside (next client)) :
    Access sockets inside result := by
  cases hw : sockets.websocket with
  | none =>
      rw [pointer_of_none hw] at h
      exact h ▸ .null hl hw
  | some client =>
      rw [pointer_of_some hw] at h
      exact h ▸ hnext client hw

theorem access_cases {result : Except Fault (Sockets × (Inside ⊕ Ending))}
    (h : sockets.access inside input = some result) : Access sockets inside result := by
  unfold access at h
  split at h
  -- is_connected() and send_message()
  · split at h <;> obtain rfl := Option.some.inj h
    · next hw => exact .testNull hw
    · next hw => exact .testPointer hw
  · exact deref_access rfl (Option.some.inj h) fun object hd => .testFlag hd
  · exact pointer_access rfl (Option.some.inj h) fun client hw => .sendPointer hw
  · obtain ⟨ended, he, rfl⟩ := Option.map_eq_some_iff.mp h
    cases send_ends he with
    | dangling hd => exact .dangling rfl hd
    | notSent hd hs => exact .notSent hd hs
    | sent hd hs => exact .sent hd hs
    | threw hd hs => exact .sendThrew hd hs
  -- the reset
  · split at h <;> obtain rfl := Option.some.inj h
    · next hw => exact .releaseNull hw
    · next hw => exact .release hw
  · refine deref_access rfl (Option.some.inj h) fun object hd => ?_
    split
    · next hs => exact .shutsDown hd hs
    · next hs => exact .silent hd (Bool.eq_false_iff.mpr hs)
  · exact deref_access rfl (Option.some.inj h) fun object hd => .clearConnected hd
  · refine deref_access rfl (Option.some.inj h) fun object hd => ?_
    split
    · exact .shutdownThrew hd
    · exact .shutdown hd
  · exact deref_access rfl (Option.some.inj h) fun object hd => .free hd
  -- reconnect()
  · split at h <;> obtain rfl := Option.some.inj h
    · next hw => exact .noClient hw
    · next hw => exact .reconnectPointer hw
  · refine deref_access rfl (Option.some.inj h) fun object hd => ?_
    split
    · next hc => exact .stillConnected hd hc
    · next hc => exact .notConnected hd (Bool.eq_false_iff.mpr hc)
  · split at h <;> obtain rfl := Option.some.inj h
    · next hw => exact .reconnectNull hw
    · next hw => exact .kept hw
  · split at h <;> obtain rfl := Option.some.inj h
    · exact .scanFailed
    · exact .scanned
  · split at h <;> obtain rfl := Option.some.inj h
    · exact .notConstructed
    · exact .constructed
  · refine pointer_access rfl (Option.some.inj h) fun client hw => ?_
    refine deref_access hw rfl fun object hd => ?_
    split
    · exact .credentialsNotSet hw hd
    · exact .credentialsSet hw hd
  · refine pointer_access rfl (Option.some.inj h) fun client hw => ?_
    refine deref_access hw rfl fun object hd => ?_
    split
    · next hs => exact .alreadyOpen hw hd hs
    · next hs => exact .notOpened hw hd hs
    · next hs => exact .opened hw hd hs
  · refine deref_access rfl (Option.some.inj h) fun object hd => ?_
    split
    · exact .notLimited hd
    · exact .limited hd
  · exact deref_access rfl (Option.some.inj h) fun object hd => .setConnected hd
  · cases h

end Sockets

namespace FineSystem

-- Everything one step of the process can do.
inductive Step {ι : Type*} [DecidableEq ι] (fine : FineSystem ι) :
    FineAction ι → FineSystem ι → List (SystemEvent ι) → Prop
  | plain {pc action loop events} (hl : fine.loop = .ready pc) (hp : pc.entry = none)
      (hr : pc ≠ .receive)
      (h : Loop.threadStep { handler := fine.memory.handler, pc := pc } action =
        some (loop, events)) :
      Step fine (.loop (.loop action)) { fine with
        memory := fine.memory.keepSockets loop.handler
        loop := .ready loop.pc
        fault := match loop.pc with
          | .crashed crash => some (.crash crash)
          | _ => none } (events.map .loop)
  | loopLock {pc access} (hl : fine.loop = .ready pc) (hp : pc.entry = some access)
      (hm : fine.mutex = none) :
      Step fine (.loop .tau) { fine with mutex := some none, loop := .inside pc access } []
  | loopAccess {pc access input sockets next} (hl : fine.loop = .inside pc access)
      (ha : fine.memory.access access input = some (.ok (sockets, next)))
      (h : Access fine.memory.toSockets access (.ok (sockets, next))) :
      Step fine (.loop input) { fine.setSockets sockets with loop := loopPlace pc next } []
  | loopFault {pc access input fault} (hl : fine.loop = .inside pc access)
      (h : Access fine.memory.toSockets access (.error fault)) :
      Step fine (.loop input) { fine with fault := some fault } []
  | loopUnlock {pc ending} (hl : fine.loop = .leaving pc ending) :
      Step fine (.loop .tau) { fine with mutex := none, loop := .ready (LoopPc.exit ending) } []
  | receivePointer {client} (hl : fine.loop = .ready .receive)
      (hw : fine.memory.websocket = some client) :
      Step fine (.loop .tau) { fine with loop := .receiveTest client } []
  | receiveNull (hl : fine.loop = .ready .receive) (hw : fine.memory.websocket = none) :
      Step fine (.loop .tau) { fine with fault := some (.crash .nullDereference) } []
  | receiveTest {client object} (hl : fine.loop = .receiveTest client)
      (hd : fine.memory.clients client = some object) (hs : object.websocket.isSome = true) :
      Step fine (.loop .tau)
        { fine with loop := .receiveFrame client maxFramesPerMessage [] } []
  | receiveNotStarted {client object} (hl : fine.loop = .receiveTest client)
      (hd : fine.memory.clients client = some object) (hs : object.websocket = none) :
      Step fine (.loop .tau) { fine with loop := .ready .head } []
  | receiveFrame {client left messageBuffer input place events object}
      (hl : fine.loop = .receiveFrame client left messageBuffer)
      (hd : fine.memory.clients client = some object)
      (h : FrameStep client left messageBuffer input place events) :
      Step fine (.loop input) { fine with loop := place } (events.map .loop)
  | receiveClear {client object} (hl : fine.loop = .receiveClear client)
      (hd : fine.memory.clients client = some object) :
      Step fine (.loop .tau) { fine.setSockets
        (fine.memory.set client (some { object with connected := false })) with
        loop := .ready .head } []
  | receiveDangling {client input} (hl : fine.loop.receives = some client)
      (hd : fine.memory.clients client = none) :
      Step fine (.loop input) { fine with fault := some .dangling } []
  | callStop {thread} (ht : fine.threads thread = .ready .outside) :
      Step fine (.thread thread (.call .stop)) (fine.setThread thread (.ready .stopWrite)) []
  | callSend {thread message} (ht : fine.threads thread = .ready .outside) :
      Step fine (.thread thread (.call (.sendMessage message)))
        (fine.setThread thread (.ready (.sendCheck message))) []
  | stopWrite {thread} (ht : fine.threads thread = .ready .stopWrite) :
      Step fine (.thread thread .tau) { fine.setThread thread (.ready .stopCheck) with
        memory := { fine.memory with stop := true } } []
  | stopPointer {thread client} (ht : fine.threads thread = .ready .stopSend)
      (hw : fine.memory.websocket = some client) :
      Step fine (.thread thread .tau) (fine.setThread thread (.unlocked client)) []
  | stopNull {thread} (ht : fine.threads thread = .ready .stopSend)
      (hw : fine.memory.websocket = none) :
      Step fine (.thread thread .tau) { fine with fault := some (.crash .nullDereference) } []
  | used {thread client input sent sockets} (ht : fine.threads thread = .unlocked client)
      (h : Sockets.SendEnds fine.memory.toSockets exitMessage client (.ok (sent, sockets))) :
      Step fine (.thread thread input)
        ((fine.setThread thread (.ready .outside)).setSockets sockets)
        [.thread thread .stopReturned]
  | useFault {thread client input fault} (ht : fine.threads thread = .unlocked client)
      (h : Sockets.SendEnds fine.memory.toSockets exitMessage client (.error fault)) :
      Step fine (.thread thread input) { fine with fault := some fault } []
  | threadLock {thread pc access} (ht : fine.threads thread = .ready pc)
      (hp : pc.entry = some access) (hm : fine.mutex = none) :
      Step fine (.thread thread .tau)
        { fine.setThread thread (.inside pc access) with mutex := some (some thread) } []
  | threadAccess {thread pc access input sockets next}
      (ht : fine.threads thread = .inside pc access)
      (ha : fine.memory.access access input = some (.ok (sockets, next)))
      (h : Access fine.memory.toSockets access (.ok (sockets, next))) :
      Step fine (.thread thread input)
        ((fine.setThread thread (threadPlace pc next)).setSockets sockets) []
  | threadFault {thread pc access input fault} (ht : fine.threads thread = .inside pc access)
      (h : Access fine.memory.toSockets access (.error fault)) :
      Step fine (.thread thread input) { fine with fault := some fault } []
  | threadUnlock {thread pc ending} (ht : fine.threads thread = .leaving pc ending) :
      Step fine (.thread thread .tau)
        { fine.setThread thread (.ready (pc.exit ending).1) with mutex := none }
        ((pc.exit ending).2.map (.thread thread))

variable {ι : Type*} [DecidableEq ι] {fine next : FineSystem ι} {action : FineAction ι}
  {events : List (SystemEvent ι)}

theorem receivePointer_step (hl : fine.loop = .ready .receive) :
    Step fine (.loop .tau) fine.receivePointer [] := by
  unfold receivePointer
  cases hw : fine.memory.websocket with
  | none =>
      rw [Sockets.pointer_of_none hw]
      exact .receiveNull hl hw
  | some client =>
      rw [Sockets.pointer_of_some hw]
      exact .receivePointer hl hw

theorem stopPointer_step {thread : ι} (ht : fine.threads thread = .ready .stopSend) :
    Step fine (.thread thread .tau) (fine.stopPointer thread) [] := by
  unfold stopPointer
  cases hw : fine.memory.websocket with
  | none =>
      rw [Sockets.pointer_of_none hw]
      exact .stopNull ht hw
  | some client =>
      rw [Sockets.pointer_of_some hw]
      exact .stopPointer ht hw

theorem loopStep_cases {input : Input} (h : fine.loopStep input = some (next, events)) :
    Step fine (.loop input) next events := by
  unfold loopStep at h
  split at h
  · next pc _ hl =>
      split at h
      · next hp =>
          obtain ⟨hm, he⟩ := Option.ite_none_right_eq_some.mp h
          obtain ⟨rfl, rfl⟩ := Prod.mk.inj (Option.some.inj he)
          exact .loopLock hl hp hm
      · obtain ⟨rfl, he⟩ := Option.ite_none_right_eq_some.mp h
        obtain ⟨rfl, rfl⟩ := Prod.mk.inj (Option.some.inj he)
        exact receivePointer_step hl
      · next hp =>
          obtain ⟨hr, he⟩ := Option.ite_none_left_eq_some.mp h
          unfold plainStep at he
          split at he
          · cases he
          · next hs =>
              obtain ⟨rfl, rfl⟩ := Prod.mk.inj (Option.some.inj he)
              exact .plain hl hp hr hs
      · cases h
  · next hl =>
      split at h
      · cases h
      · next ha =>
          obtain ⟨rfl, rfl⟩ := Prod.mk.inj (Option.some.inj h)
          exact .loopFault hl (Sockets.access_cases ha)
      · next ha =>
          obtain ⟨rfl, rfl⟩ := Prod.mk.inj (Option.some.inj h)
          exact .loopAccess hl ha (Sockets.access_cases ha)
  · next hl =>
      obtain ⟨rfl, rfl⟩ := Prod.mk.inj (Option.some.inj h)
      exact .loopUnlock hl
  · next client hl =>
      cases hd : fine.memory.clients client with
      | none =>
          rw [Sockets.deref_of_none hd] at h
          obtain ⟨rfl, rfl⟩ := Prod.mk.inj (Option.some.inj h)
          exact .receiveDangling (by rw [hl]; rfl) hd
      | some object =>
          simp only [Sockets.deref_of_some hd] at h
          split at h
          · next hs =>
              obtain ⟨rfl, rfl⟩ := Prod.mk.inj (Option.some.inj h)
              exact .receiveTest hl hd hs
          · next hs =>
              obtain ⟨rfl, rfl⟩ := Prod.mk.inj (Option.some.inj h)
              exact .receiveNotStarted hl hd (by simpa using hs)
  · next client left messageBuffer hl =>
      cases hd : fine.memory.clients client with
      | none =>
          rw [Sockets.deref_of_none hd] at h
          obtain ⟨rfl, rfl⟩ := Prod.mk.inj (Option.some.inj h)
          exact .receiveDangling (by rw [hl]; rfl) hd
      | some object =>
          simp only [Sockets.deref_of_some hd] at h
          obtain ⟨⟨place, more⟩, hr, he⟩ := Option.map_eq_some_iff.mp h
          obtain ⟨rfl, rfl⟩ := Prod.mk.inj he
          exact .receiveFrame hl hd (LoopPlace.receiveStep_cases hr)
  · next client hl =>
      cases hd : fine.memory.clients client with
      | none =>
          rw [Sockets.deref_of_none hd] at h
          obtain ⟨rfl, rfl⟩ := Prod.mk.inj (Option.some.inj h)
          exact .receiveDangling (by rw [hl]; rfl) hd
      | some object =>
          simp only [Sockets.deref_of_some hd] at h
          obtain ⟨rfl, rfl⟩ := Prod.mk.inj (Option.some.inj h)
          exact .receiveClear hl hd
  · cases h

theorem plainThreadStep_cases {thread : ι} {pc : ThreadPc} {input : Input}
    (ht : fine.threads thread = .ready pc)
    (h : fine.plainThreadStep thread pc input = some (next, events)) :
    Step fine (.thread thread input) next events := by
  unfold plainThreadStep at h
  split at h
  · obtain ⟨rfl, rfl⟩ := Prod.mk.inj (Option.some.inj h)
    exact .callStop ht
  · obtain ⟨rfl, rfl⟩ := Prod.mk.inj (Option.some.inj h)
    exact .callSend ht
  · obtain ⟨rfl, rfl⟩ := Prod.mk.inj (Option.some.inj h)
    exact .stopWrite ht
  · obtain ⟨rfl, rfl⟩ := Prod.mk.inj (Option.some.inj h)
    exact stopPointer_step ht
  · cases h

theorem threadStep_cases {thread : ι} {input : Input}
    (h : fine.threadStep thread input = some (next, events)) :
    Step fine (.thread thread input) next events := by
  unfold threadStep at h
  split at h
  · next pc _ ht =>
      split at h
      · next hp =>
          obtain ⟨hm, he⟩ := Option.ite_none_right_eq_some.mp h
          obtain ⟨rfl, rfl⟩ := Prod.mk.inj (Option.some.inj he)
          exact .threadLock ht hp hm
      · cases h
      · exact plainThreadStep_cases ht h
  · next ht =>
      split at h
      · cases h
      · next hu =>
          obtain ⟨rfl, rfl⟩ := Prod.mk.inj (Option.some.inj h)
          exact .useFault ht (Sockets.send_ends hu)
      · next hu =>
          obtain ⟨rfl, rfl⟩ := Prod.mk.inj (Option.some.inj h)
          exact .used ht (Sockets.send_ends hu)
  · next ht =>
      split at h
      · cases h
      · next ha =>
          obtain ⟨rfl, rfl⟩ := Prod.mk.inj (Option.some.inj h)
          exact .threadFault ht (Sockets.access_cases ha)
      · next ha =>
          obtain ⟨rfl, rfl⟩ := Prod.mk.inj (Option.some.inj h)
          exact .threadAccess ht ha (Sockets.access_cases ha)
  · next ht =>
      obtain ⟨rfl, rfl⟩ := Prod.mk.inj (Option.some.inj h)
      exact .threadUnlock ht
  · cases h

theorem step_cases (h : machine.step fine action = some (next, events)) :
    fine.fault = none ∧ Step fine action next events := by
  change fine.step action = some (next, events) at h
  unfold step at h
  split at h
  · cases h
  · next hf =>
      refine ⟨by simpa using hf, ?_⟩
      cases action with
      | loop input => exact loopStep_cases h
      | thread thread input => exact threadStep_cases h

end FineSystem

end Rito

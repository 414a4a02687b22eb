import Mathlib.Logic.Relation
import Rito.LcuWebsocketHandler.Interleaving
import Rito.LcuWebsocketHandler.Outline

namespace Rito

open Relation

variable {sockets after : Sockets} {access : Inside} {handler : LcuWebsocketHandler}

-- One access of a critical section that nothing interrupts.
def Accesses (here next : Sockets × (Inside ⊕ Ending)) : Prop :=
  ∃ access, here.2 = .inl access ∧ Access here.1 access (.ok next)

theorem Access.accesses {next : Sockets × (Inside ⊕ Ending)}
    (h : Access sockets access (.ok next)) : Accesses (sockets, .inl access) next :=
  ⟨access, rfl, h⟩

-- Every access is made on some input.
theorem Access.exists_input {result : Except Fault (Sockets × (Inside ⊕ Ending))}
    (h : Access sockets access result) :
    ∃ input, sockets.access access input = some result := by
  cases h with
  | testNull hw | testPointer hw | releaseNull hw | release hw | noClient hw
  | reconnectPointer hw | reconnectNull hw | kept hw =>
      exact ⟨.tau, by simp only [Sockets.access, hw]⟩
  | testFlag hd | clearConnected hd | free hd | setConnected hd =>
      refine ⟨.tau, ?_⟩
      simp only [Sockets.access, Sockets.deref_of_some hd]
      rfl
  | sendPointer hw =>
      refine ⟨.tau, ?_⟩
      simp only [Sockets.access, Sockets.pointer_of_some hw]
      rfl
  | notSent hd hs =>
      refine ⟨.tau, ?_⟩
      simp only [Sockets.access, Sockets.send, hd, hs, Option.isNone_none, if_true]
      rfl
  | sent hd hs =>
      refine ⟨.transport (.ok ()), ?_⟩
      simp only [Sockets.access, Sockets.send, hd, hs, Option.isSome_some, if_true,
        HttpsWebsocketClient.sendMessage]
      rfl
  | sendThrew hd hs =>
      refine ⟨.transport (.error (.other "")), ?_⟩
      simp only [Sockets.access, Sockets.send, hd, hs, Option.isSome_some, if_true,
        HttpsWebsocketClient.sendMessage]
      rfl
  | shutsDown hd hs | silent hd hs =>
      refine ⟨.tau, ?_⟩
      simp only [Sockets.access, Sockets.deref_of_some hd, bind, Except.bind, hs]
      rfl
  | shutdown hd =>
      refine ⟨.transport (.ok ()), ?_⟩
      simp only [Sockets.access, Sockets.deref_of_some hd]
      rfl
  | shutdownThrew hd =>
      refine ⟨.transport (.error (.other "")), ?_⟩
      simp only [Sockets.access, Sockets.deref_of_some hd]
      rfl
  | stillConnected hd hc | notConnected hd hc =>
      refine ⟨.tau, ?_⟩
      simp only [Sockets.access, Sockets.deref_of_some hd, bind, Except.bind,
        HttpsWebsocketClient.isConnected, hc]
      rfl
  | @scanFailed exception => exact ⟨.scan (.error exception), rfl⟩
  | @scanned parameters => exact ⟨.scan (.ok parameters), rfl⟩
  | @notConstructed parameters exception => exact ⟨.ended (.error exception), rfl⟩
  | constructed => exact ⟨.ended (.ok ()), rfl⟩
  | @credentialsNotSet parameters exception client object hw hd =>
      refine ⟨.ended (.error exception), ?_⟩
      simp only [Sockets.access, Sockets.pointer_of_some hw, bind, Except.bind,
        Sockets.deref_of_some hd]
      rfl
  | credentialsSet hw hd =>
      refine ⟨.ended (.ok ()), ?_⟩
      simp only [Sockets.access, Sockets.pointer_of_some hw, bind, Except.bind,
        Sockets.deref_of_some hd]
      rfl
  | alreadyOpen hw hd hs =>
      refine ⟨.transport (.ok ()), ?_⟩
      simp only [Sockets.access, Sockets.pointer_of_some hw, bind, Except.bind,
        Sockets.deref_of_some hd, hs]
      rfl
  | @notOpened client object exception hw hd hs =>
      refine ⟨.transport (.error exception), ?_⟩
      simp only [Sockets.access, Sockets.pointer_of_some hw, bind, Except.bind,
        Sockets.deref_of_some hd, hs]
      rfl
  | opened hw hd hs =>
      refine ⟨.transport (.ok ()), ?_⟩
      simp only [Sockets.access, Sockets.pointer_of_some hw, bind, Except.bind,
        Sockets.deref_of_some hd, hs]
      rfl
  | @notLimited client object exception hd =>
      refine ⟨.transport (.error exception), ?_⟩
      simp only [Sockets.access, Sockets.deref_of_some hd]
      rfl
  | limited hd =>
      refine ⟨.transport (.ok ()), ?_⟩
      simp only [Sockets.access, Sockets.deref_of_some hd]
      rfl
  | null hl hw =>
      cases access with
      | sendPointer message =>
          refine ⟨.tau, ?_⟩
          simp only [Sockets.access, Sockets.pointer_of_none hw]
          rfl
      | setCredentials parameters =>
          refine ⟨.ended (.ok ()), ?_⟩
          simp only [Sockets.access, Sockets.pointer_of_none hw]
          rfl
      | openSocket =>
          refine ⟨.transport (.ok ()), ?_⟩
          simp only [Sockets.access, Sockets.pointer_of_none hw]
          rfl
      | _ => cases hl
  | dangling hl hd =>
      cases access with
      | testFlag | destroyTest | clearConnected | free | reconnectFlag | setConnected =>
          obtain rfl := Option.some.inj hl
          refine ⟨.tau, ?_⟩
          simp only [Sockets.access, Sockets.deref_of_none hd]
          rfl
      | sendFrame message client =>
          obtain rfl := Option.some.inj hl
          refine ⟨.tau, ?_⟩
          simp only [Sockets.access, Sockets.send, hd]
          rfl
      | shutdown | setMaxPayloadSize =>
          obtain rfl := Option.some.inj hl
          refine ⟨.transport (.ok ()), ?_⟩
          simp only [Sockets.access, Sockets.deref_of_none hd]
          rfl
      | setCredentials parameters =>
          refine ⟨.ended (.ok ()), ?_⟩
          simp only [Sockets.access, Sockets.pointer_of_some hl, bind, Except.bind,
            Sockets.deref_of_none hd]
      | openSocket =>
          refine ⟨.transport (.ok ()), ?_⟩
          simp only [Sockets.access, Sockets.pointer_of_some hl, bind, Except.bind,
            Sockets.deref_of_none hd]
      | _ => cases hl

-- is_connected() comes to what it is of the handler.
theorem goes_tested (hl : sockets.Life none) (hw : handler.websocket = sockets.object) :
    ReflTransGen Accesses (sockets, .inl .testPointer)
      (sockets, .inr (.tested handler.isConnected)) := by
  cases hp : sockets.websocket with
  | none =>
      rw [Sockets.object_of_none hp] at hw
      rw [LcuWebsocketHandler.isConnected_of_none hw]
      exact .single (Access.testNull hp).accesses
  | some client =>
      obtain ⟨object, hd⟩ := Option.isSome_iff_exists.mp (hl.alive client hp)
      rw [Sockets.object_of_some hp, hd] at hw
      rw [LcuWebsocketHandler.isConnected_of_some hw]
      exact .head (Access.testPointer hp).accesses (.single (Access.testFlag hd).accesses)

-- Once m_websocket is nulled, its client is freed, unless its shutdown() throws.
theorem goes_destroyed {client : Nat} {object : HttpsWebsocketClient} (site : ResetSite)
    (hw : sockets.websocket = none) (hd : sockets.clients client = some object) :
    ∃ after, after.websocket = none ∧
      ReflTransGen Accesses (sockets, .inl (.destroyTest site client))
        (after, Sockets.afterReset site) := by
  cases hs : object.shutsDown with
  | false =>
      exact ⟨sockets.set client none, hw,
        .head (Access.silent hd hs).accesses (.single (Access.free hd).accesses)⟩
  | true =>
      have hcleared : (sockets.set client (some { object with connected := false })).clients
          client = some { object with connected := false } := by simp [Sockets.set]
      exact ⟨(sockets.set client (some { object with connected := false })).set client none, hw,
        .head (Access.shutsDown hd hs).accesses (.head (Access.clearConnected hd).accesses
          (.head (Access.shutdown hcleared).accesses (.single (Access.free hcleared).accesses)))⟩

theorem goes_reset (hl : sockets.Life none) (site : ResetSite) :
    ∃ after, after.websocket = none ∧
      ReflTransGen Accesses (sockets, .inl (.release site)) (after, Sockets.afterReset site) := by
  cases hp : sockets.websocket with
  | none => exact ⟨sockets, hp, .single (Access.releaseNull hp).accesses⟩
  | some client =>
      obtain ⟨object, hd⟩ := Option.isSome_iff_exists.mp (hl.alive client hp)
      have hnull : ({ sockets with websocket := none } : Sockets).websocket = none := rfl
      obtain ⟨after, hw, hg⟩ := goes_destroyed site hnull hd
      exact ⟨after, hw, .head (Access.release hp).accesses hg⟩

theorem goes_shutdown (site : ResetSite) (hs : sockets.object.any (·.shutsDown) = true) :
    ∃ after access, ReflTransGen Accesses (sockets, .inl (.release site)) (after, .inl access) ∧
      Access after access (.error (.crash .terminated)) := by
  obtain ⟨object, ho, hs⟩ := (Option.any_eq_true _ _).mp hs
  cases hp : sockets.websocket with
  | none =>
      rw [Sockets.object_of_none hp] at ho
      cases ho
  | some client =>
      have hd : ({ sockets with websocket := none } : Sockets).clients client = some object := by
        rw [← ho, Sockets.object_of_some hp]
      have hcleared : (({ sockets with websocket := none } : Sockets).set client
          (some { object with connected := false })).clients client =
            some { object with connected := false } := by simp [Sockets.set]
      exact ⟨_, .shutdown site client, .head (Access.release hp).accesses
        (.head (Access.shutsDown hd hs).accesses (.single (Access.clearConnected hd).accesses)),
        .shutdownThrew hcleared⟩

-- start() on a client that has no socket.
theorem goes_started {client : Nat} {object : HttpsWebsocketClient} (outcome : StartOutcome)
    (hp : sockets.websocket = some client) (hd : sockets.clients client = some object)
    (hs : object.websocket = none) :
    ∃ after, ReflTransGen Accesses (sockets, .inl .openSocket)
        (after, .inr (.reconnected ((object.start outcome).1.mapError .rito))) ∧
      after.object = some (object.start outcome).2 := by
  have hset : ∀ (sockets : Sockets) other,
      (sockets.set client (some other)).clients client = some other :=
    fun sockets other => by simp [Sockets.set]
  cases ho : outcome.openSocket with
  | error exception =>
      have hstart : object.start outcome =
          (.error (HttpsWebsocketClient.startException exception), object) := by
        simp only [HttpsWebsocketClient.start, hs, ho]
      rw [hstart]
      exact ⟨sockets, .single (Access.notOpened hp hd hs).accesses,
        (Sockets.object_of_some hp).trans hd⟩
  | ok _ =>
      have hopened := ReflTransGen.single (Access.opened hp hd hs).accesses
      cases hm : outcome.setMaxPayloadSize with
      | error exception =>
          have hstart : object.start outcome =
              (.error (HttpsWebsocketClient.startException exception),
                { object with websocket := some { maxPayloadSize := none, sent := [] } }) := by
            simp only [HttpsWebsocketClient.start, hs, ho, hm]
          rw [hstart]
          exact ⟨_, hopened.tail (Access.notLimited (hset _ _)).accesses, Sockets.object_set hp⟩
      | ok _ =>
          have hstart : object.start outcome =
              (.ok (), { object with
                websocket := some { maxPayloadSize := some maxFrameSize, sent := [] }
                connected := true }) := by
            simp only [HttpsWebsocketClient.start, hs, ho, hm]
          rw [hstart]
          have hlimited := hopened.tail (Access.limited (hset _ _)).accesses
          exact ⟨_, hlimited.tail (Access.setConnected (hset _ _)).accesses, Sockets.object_set hp⟩

-- The rest of reconnect(), from the test for null on.
theorem goes_connect (outcome : ReconnectOutcome) (hw : sockets.websocket = none)
    (hn : handler.websocket = none) :
    ∃ after result, ReflTransGen Accesses (sockets, .inl .reconnectNull)
        (after, .inr (.reconnected result)) ∧
      handler.connect outcome =
        (completion result, { handler with websocket := after.object }) := by
  have hstart := (Access.reconnectNull hw).accesses
  have hkeep : handler = { handler with websocket := sockets.object } := by
    rw [Sockets.object_of_none hw, ← hn]
  simp only [LcuWebsocketHandler.connect, hn]
  cases outcome.scan with
  | error exception =>
      exact ⟨sockets, .error exception, .head hstart (.single Access.scanFailed.accesses),
        Prod.ext rfl hkeep⟩
  | ok parameters =>
      have hscanned : Access sockets .scan (.ok (sockets, .inl (.construct parameters))) := .scanned
      have hscan := ReflTransGen.head hstart (.single hscanned.accesses)
      cases outcome.construct with
      | error exception =>
          exact ⟨sockets, .error exception, hscan.tail Access.notConstructed.accesses,
            Prod.ext rfl hkeep⟩
      | ok _ =>
          obtain ⟨made, hp, hd, hmade⟩ : ∃ made : Sockets, made.websocket = some sockets.made ∧
              made.clients sockets.made = some (.new "127.0.0.1" parameters.appPort) ∧
              ReflTransGen Accesses (sockets, .inl .reconnectNull)
                (made, .inl (.setCredentials parameters)) :=
            ⟨_, rfl, Function.update_self .., hscan.tail Access.constructed.accesses⟩
          cases outcome.setCredentials with
          | error exception =>
              refine ⟨made, .error exception,
                hmade.tail (Access.credentialsNotSet hp hd).accesses, Prod.ext rfl ?_⟩
              rw [Sockets.object_of_some hp, hd]
          | ok _ =>
              obtain ⟨ready, hp, hd, hready⟩ : ∃ ready : Sockets,
                  ready.websocket = some sockets.made ∧
                  ready.clients sockets.made = some ((HttpsWebsocketClient.new "127.0.0.1"
                    parameters.appPort).setCredentials "riot" parameters.remotingAuthToken) ∧
                  ReflTransGen Accesses (sockets, .inl .reconnectNull) (ready, .inl .openSocket) :=
                ⟨made.set sockets.made _, hp, Function.update_self ..,
                  hmade.tail (Access.credentialsSet hp hd).accesses⟩
              obtain ⟨after, hstarted, ho⟩ := goes_started outcome.start hp hd rfl
              refine ⟨after, _, hready.trans hstarted, ?_⟩
              rw [ho]
              dsimp only
              rcases HttpsWebsocketClient.start _ outcome.start with ⟨_ | _, client⟩
              · rfl
              · rfl

-- reconnect(), on any handler.
theorem goes_reconnected (outcome : ReconnectOutcome) (hl : sockets.Life none)
    (hw : handler.websocket = sockets.object) :
    ∃ after result, ReflTransGen Accesses (sockets, .inl .reconnectPointer)
        (after, .inr (.reconnected result)) ∧
      handler.reconnect outcome =
        (completion result, { handler with websocket := after.object }) := by
  cases hp : sockets.websocket with
  | none =>
      rw [Sockets.object_of_none hp] at hw
      obtain ⟨after, result, hg, hc⟩ := goes_connect outcome hp hw
      refine ⟨after, result, .head (Access.noClient hp).accesses hg, ?_⟩
      simpa [LcuWebsocketHandler.reconnect, hw] using hc
  | some client =>
      obtain ⟨object, hd⟩ := Option.isSome_iff_exists.mp (hl.alive client hp)
      rw [Sockets.object_of_some hp, hd] at hw
      have htest := ReflTransGen.single (Access.reconnectPointer hp).accesses
      cases hc : object.connected with
      | true =>
          refine ⟨sockets, .ok (), (htest.tail (Access.stillConnected hd hc).accesses).tail
            (Access.kept hp).accesses, ?_⟩
          have hconnected := (LcuWebsocketHandler.isConnected_of_some hw).trans hc
          have hkeep : handler = { handler with websocket := some object } := by rw [← hw]
          rw [Sockets.object_of_some hp, hd, ← hkeep]
          simp [LcuWebsocketHandler.reconnect, hconnected, LcuWebsocketHandler.connect, hw,
            completion]
      | false =>
          have hconnected := (LcuWebsocketHandler.isConnected_of_some hw).trans hc
          obtain ⟨dropped, hnone, hreset⟩ := goes_reset hl .reconnect
          have hn : ({ handler with websocket := none } : LcuWebsocketHandler).websocket = none := rfl
          obtain ⟨after, result, hg, hconnect⟩ := goes_connect outcome hnone hn
          refine ⟨after, result, (htest.tail (Access.notConnected hd hc).accesses).trans
            (hreset.trans hg), ?_⟩
          rw [LcuWebsocketHandler.reconnect_eq_connect outcome hconnected, hconnect]

-- The use of m_websocket in send_message(), as far as it returns.
theorem goes_sent {message : Bytes} {action : ThreadAction} {sent : Bool}
    {next : LcuWebsocketHandler} (hl : sockets.Life none) (hw : handler.websocket = sockets.object)
    (h : handler.UseEnds message action (.ok (sent, next))) :
    ∃ after, ReflTransGen Accesses (sockets, .inl (.sendPointer message))
        (after, .inr (.sent sent)) ∧ next = { handler with websocket := after.object } := by
  cases hp : sockets.websocket with
  | none =>
      rw [Sockets.object_of_none hp] at hw
      cases h with
      | noSocket hsome _ | sent hsome _ =>
          rw [hw] at hsome
          cases hsome
  | some client =>
      obtain ⟨object, hd⟩ := Option.isSome_iff_exists.mp (hl.alive client hp)
      have ho : sockets.object = some object := (Sockets.object_of_some hp).trans hd
      have hpointer : ReflTransGen Accesses (sockets, .inl (.sendPointer message))
          (sockets, .inl (.sendFrame message client)) := .single (Access.sendPointer hp).accesses
      cases h with
      | noSocket hsome hs =>
          obtain rfl := Option.some.inj ((hw.trans ho).symm.trans hsome)
          refine ⟨sockets, hpointer.tail (Access.notSent hd hs).accesses, ?_⟩
          rw [← hw]
      | sent hsome hs =>
          obtain rfl := Option.some.inj ((hw.trans ho).symm.trans hsome)
          refine ⟨_, hpointer.tail (Access.sent hd hs).accesses, ?_⟩
          rw [Sockets.object_set hp]

-- And where it ends the process.
theorem goes_crashed {message : Bytes} {action : ThreadAction} {crash : Crash}
    (hl : sockets.Life none) (hw : handler.websocket = sockets.object)
    (h : handler.useWebsocket message action = some (.error crash)) :
    ∃ after access, ReflTransGen Accesses (sockets, .inl (.sendPointer message))
        (after, .inl access) ∧ Access after access (.error (.crash crash)) := by
  cases hp : sockets.websocket with
  | none =>
      rw [Sockets.object_of_none hp] at hw
      cases LcuWebsocketHandler.use_ends h with
      | null _ => exact ⟨sockets, _, .refl, .null rfl hp⟩
      | threw hsome =>
          rw [hw] at hsome
          cases hsome
  | some client =>
      obtain ⟨object, hd⟩ := Option.isSome_iff_exists.mp (hl.alive client hp)
      have ho : sockets.object = some object := (Sockets.object_of_some hp).trans hd
      cases hs : object.websocket with
      | none =>
          have hsome := hw.trans ho
          cases action <;> simp [LcuWebsocketHandler.useWebsocket, hsome, hs] at h
      | some socket =>
          cases LcuWebsocketHandler.use_ends h with
          | null hnone =>
              rw [hw, ho] at hnone
              cases hnone
          | threw _ =>
              exact ⟨sockets, _, .single (Access.sendPointer hp).accesses, .sendThrew hd hs⟩

end Rito

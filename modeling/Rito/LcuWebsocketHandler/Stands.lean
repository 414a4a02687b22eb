import Rito.LcuWebsocketHandler.Interleaving
import Rito.LcuWebsocketHandler.Outline

namespace Rito

-- A client with a socket object.
def HasSocket (object : Option HttpsWebsocketClient) : Prop :=
  ∃ client, object = some client ∧ client.websocket.isSome = true

-- The call of receive_message() that has seen these frames goes on as the for
-- loop does with what is left of it.
def Continues (seen : List FrameResult) (left : Nat) (messageBuffer : Bytes) : Prop :=
  ∀ rest, HttpsWebsocketClient.receiveFrames maxFramesPerMessage [] (seen ++ rest) =
    HttpsWebsocketClient.receiveFrames left messageBuffer rest

-- It fails on them with the connection lost.
def Loses (seen : List FrameResult) : Prop :=
  ∀ client : HttpsWebsocketClient, client.websocket.isSome = true →
    ∃ exception, client.receiveMessage seen = some (.error exception, clearConnected client, [])

-- The place of the loop in the process of atomic steps, when it stands here
-- among its accesses. A critical section counts as one step that is still to
-- be taken until the mutex is unlocked; only a test that found the connection
-- up has been taken before that.
def LoopPlace.Stands (sockets : Sockets) (before : Option HttpsWebsocketClient) (pc : LoopPc) :
    LoopPlace → Prop
  | .ready here => pc = here
  | .inside here access => pc = here ∧
      ∃ entry, here.entry = some entry ∧ outline before sockets entry.block (.inl access)
  | .leaving here ending => pc = (if ending = .tested true then .receive else here) ∧
      ∃ entry, here.entry = some entry ∧ outline before sockets entry.block (.inr ending)
  | .receiveTest _ => pc = .receive
  | .receiveFrame _ left messageBuffer => pc = .receive ∧ HasSocket sockets.object ∧
      ∃ seen, Continues seen left messageBuffer
  | .receiveClear _ => pc = .receive ∧ HasSocket sockets.object ∧ ∃ seen, Loses seen

def ThreadPlace.Stands (sockets : Sockets) (before : Option HttpsWebsocketClient)
    (pc : ThreadPc) : ThreadPlace → Prop
  | .ready here => pc = here
  | .inside here access => pc = here ∧
      ∃ entry, here.entry = some entry ∧ outline before sockets entry.block (.inl access)
  | .leaving here ending => pc = (if ending = .tested true then (here.exit ending).1 else here) ∧
      ∃ entry, here.entry = some entry ∧ outline before sockets entry.block (.inr ending)
  | .unlocked client => pc = .stopSend ∧ sockets.websocket = some client

section Places

variable {sockets after : Sockets} {before later : Option HttpsWebsocketClient}
  {place : LoopPlace} {pc : LoopPc}

-- Outside a critical section, a place does not depend on what one found.
theorem LoopPlace.Stands.of_not_held (h : place.Stands sockets before pc) (hh : place.held = none)
    (hs : HasSocket sockets.object → HasSocket after.object) : place.Stands after later pc := by
  cases place with
  | ready here => exact h
  | inside here access => cases hh
  | leaving here ending => cases hh
  | receiveTest client => exact h
  | receiveFrame client left messageBuffer => exact ⟨h.1, hs h.2.1, h.2.2⟩
  | receiveClear client => exact ⟨h.1, hs h.2.1, h.2.2⟩

theorem ThreadPlace.Stands.of_not_held {place : ThreadPlace} {pc : ThreadPc}
    (h : place.Stands sockets before pc) (hh : place.held = none)
    (hs : ∀ client, place = .unlocked client → after.websocket = sockets.websocket) :
    place.Stands after later pc := by
  cases place with
  | ready here => exact h
  | inside here access => cases hh
  | leaving here ending => cases hh
  | unlocked client => exact ⟨h.1, (hs client rfl).trans h.2⟩

-- What a place in a critical section knows.
theorem LoopPlace.Stands.outline {held : Inside ⊕ Ending} (h : place.Stands sockets before pc)
    (hh : place.held = some held) :
    ∃ here entry, LoopPc.entry here = some entry ∧
      Rito.outline before sockets entry.block held := by
  cases place with
  | inside here access =>
      obtain rfl := Option.some.inj hh
      obtain ⟨-, entry, he, ho⟩ := h
      exact ⟨here, entry, he, ho⟩
  | leaving here ending =>
      obtain rfl := Option.some.inj hh
      obtain ⟨-, entry, he, ho⟩ := h
      exact ⟨here, entry, he, ho⟩
  | _ => cases hh

theorem ThreadPlace.Stands.outline {place : ThreadPlace} {pc : ThreadPc} {held : Inside ⊕ Ending}
    (h : place.Stands sockets before pc) (hh : place.held = some held) :
    ∃ here entry, ThreadPc.entry here = some entry ∧
      Rito.outline before sockets entry.block held := by
  cases place with
  | inside here access =>
      obtain rfl := Option.some.inj hh
      obtain ⟨-, entry, he, ho⟩ := h
      exact ⟨here, entry, he, ho⟩
  | leaving here ending =>
      obtain rfl := Option.some.inj hh
      obtain ⟨-, entry, he, ho⟩ := h
      exact ⟨here, entry, he, ho⟩
  | _ => cases hh

-- A place in a critical section, when what the section knows is carried over.
theorem LoopPlace.Stands.of_held {held : Inside ⊕ Ending} (h : place.Stands sockets before pc)
    (hh : place.held = some held)
    (ho : ∀ block, Rito.outline before sockets block held → Rito.outline later after block held) :
    place.Stands after later pc := by
  cases place with
  | inside here access =>
      obtain rfl := Option.some.inj hh
      obtain ⟨hpc, entry, he, hout⟩ := h
      exact ⟨hpc, entry, he, ho _ hout⟩
  | leaving here ending =>
      obtain rfl := Option.some.inj hh
      obtain ⟨hpc, entry, he, hout⟩ := h
      exact ⟨hpc, entry, he, ho _ hout⟩
  | _ => cases hh

theorem ThreadPlace.Stands.of_held {place : ThreadPlace} {pc : ThreadPc} {held : Inside ⊕ Ending}
    (h : place.Stands sockets before pc) (hh : place.held = some held)
    (ho : ∀ block, block ≠ .stopReset ∧ block ≠ .reconnect →
      Rito.outline before sockets block held → Rito.outline later after block held) :
    place.Stands after later pc := by
  cases place with
  | inside here access =>
      obtain rfl := Option.some.inj hh
      obtain ⟨hpc, entry, he, hout⟩ := h
      exact ⟨hpc, entry, he, ho _ (ThreadPc.entry_points sockets he).2.2 hout⟩
  | leaving here ending =>
      obtain rfl := Option.some.inj hh
      obtain ⟨hpc, entry, he, hout⟩ := h
      exact ⟨hpc, entry, he, ho _ (ThreadPc.entry_points sockets he).2.2 hout⟩
  | _ => cases hh

-- A section that only reads has left m_websocket as it was.
theorem outline_reads {block : CriticalSection} {held : Inside ⊕ Ending}
    (ho : outline before sockets block held) (hr : reads held = true) :
    sockets.object = before := by
  cases held with
  | inl access =>
      have hblock : access.block = .isConnected := by simpa [reads] using hr
      exact (Inside.outline_iff (by simp [hblock])).mp ho.2
  | inr ending =>
      cases ending with
      | tested connected => exact ho.2.1
      | _ => cases hr

-- A section of another thread has left it, or has sent on its socket.
theorem outline_behind {block : CriticalSection} {held : Inside ⊕ Ending}
    (ho : outline before sockets block held) (hb : block ≠ .stopReset ∧ block ≠ .reconnect) :
    sockets.object = before ∨ ∃ message client, before = some client ∧
      client.websocket.isSome = true ∧
      sockets.object = some (client.sendMessage message (.ok ())).2 := by
  cases held with
  | inl access =>
      obtain ⟨rfl, ho⟩ := ho
      exact Or.inl ((Inside.outline_iff hb).mp ho)
  | inr ending =>
      obtain ⟨hends, ho⟩ := ho
      cases ending with
      | tested connected => exact Or.inl ho.1
      | sent value =>
          obtain ⟨message, -, client, hc, hsends⟩ := ho
          cases value with
          | false => exact Or.inl hsends.2
          | true => exact Or.inr ⟨message, client, hc, hsends.1, hsends.2⟩
      | dropped =>
          cases block with
          | stopReset => exact absurd rfl hb.1
          | _ => cases hends
      | reconnected result =>
          cases block with
          | reconnect => exact absurd rfl hb.2
          | _ => cases hends

end Places

end Rito

import Rito.HttpsWebsocketClient.Receive

namespace Rito

namespace HttpsWebsocketClient

open FrameResult

variable {client next : HttpsWebsocketClient} {buffer : Bytes}
  {transport frames consumed rest before after : List FrameResult} {last stop : FrameResult}
  {socket : WebSocket} {result : Except Exception Bytes}

-- A receive_message call that ended: what it took off the transport, and its
-- result.
structure ReceiveCall where
  consumed : List FrameResult
  result : Except Exception Bytes

-- Up to `calls` receive_message calls made one after the other while
-- m_connected holds. A call that waits forever is the last one.
def receiveCalls : Nat → HttpsWebsocketClient → List FrameResult → List ReceiveCall
  | 0, _, _ => []
  | calls + 1, client, transport =>
      if client.isConnected then
        match client.receiveMessage transport with
        | none => []
        | some (result, client, rest) =>
            ⟨transport.take (transport.length - rest.length), result⟩ ::
              receiveCalls calls client rest
      else []

variable {calls : Nat} {call : ReceiveCall}

theorem receiveCalls_of_disconnected (h : client.connected = false) :
    receiveCalls calls client transport = [] := by
  cases calls with
  | zero => rfl
  | succ calls => simp [receiveCalls, isConnected, h]

theorem receiveCalls_cons (hc : client.connected = true)
    (h : client.receiveMessage (consumed ++ rest) = some (result, next, rest)) :
    receiveCalls (calls + 1) client (consumed ++ rest) =
      ⟨consumed, result⟩ :: receiveCalls calls next rest := by
  simp [receiveCalls, isConnected, hc, h]

-- What the first call on a started client does, when it does not wait forever.
theorem receiveCalls_receives (hw : client.websocket = some socket) (hc : client.connected = true)
    (hm : stop ∈ transport) (hs : stop.continues = false) :
    ∃ consumed rest result next, transport = consumed ++ rest ∧
      Receives client consumed result next ∧
      ∀ calls, receiveCalls (calls + 1) client transport =
        ⟨consumed, result⟩ :: receiveCalls calls next rest := by
  cases h : client.receiveMessage transport with
  | none => exact absurd h (receiveMessage_ne_none hm hs)
  | some ending =>
      obtain ⟨result, next, rest⟩ := ending
      obtain ⟨consumed, rfl, hr⟩ := receiveMessage_receives hw h
      exact ⟨consumed, rest, result, next, rfl, hr, fun _ => receiveCalls_cons hc h⟩

-- A call on frames that go on and a final one returns their payloads.
theorem receiveCalls_final (hw : client.websocket = some socket) (hc : client.connected = true)
    (hf : ∀ frame ∈ frames, frame.continues = true) (hlen : frames.length < maxFramesPerMessage)
    (hl : last.isFinal = true) :
    receiveCalls (calls + 1) client (frames ++ last :: rest) =
      ⟨frames ++ [last], .ok (frames.flatMap payload ++ last.payload)⟩ ::
        receiveCalls calls client rest := by
  obtain ⟨left, hleft⟩ : ∃ n, maxFramesPerMessage - frames.length = n + 1 :=
    ⟨maxFramesPerMessage - frames.length - 1, by omega⟩
  have h : client.receiveMessage ((frames ++ [last]) ++ rest) =
      some (.ok (frames.flatMap payload ++ last.payload), client, rest) := by
    rw [List.append_assoc, receiveMessage, hw]
    simp only [receiveFrames_append hf (Nat.le_of_lt hlen), hleft, List.singleton_append,
      receiveFrames_final hl, List.nil_append]
  rw [← List.singleton_append, ← List.append_assoc]
  exact receiveCalls_cons hc h

theorem receiveCalls_timeout (hw : client.websocket = some socket) (hc : client.connected = true)
    (what : String) :
    receiveCalls (calls + 1) client (.throws (.timeout what) :: rest) =
      ⟨[.throws (.timeout what)], .error notStarted⟩ :: receiveCalls calls client rest := by
  have h : client.receiveMessage ([.throws (.timeout what)] ++ rest) =
      some (.error notStarted, client, rest) := by
    simp [receiveMessage, hw, receiveFrames, maxFramesPerMessage]
  exact receiveCalls_cons hc h

-- What a call took off either ends before a given result or contains it.
theorem consumed_split (h : before ++ stop :: after = consumed ++ rest) :
    (∃ ahead, before = consumed ++ ahead ∧ rest = ahead ++ stop :: after) ∨
      ∃ taken, consumed = before ++ stop :: taken ∧ after = taken ++ rest := by
  rcases List.append_eq_append_iff.mp h with ⟨taken, rfl, ht⟩ | ⟨ahead, rfl, hr⟩
  · cases taken with
    | nil => exact Or.inl ⟨[], by simp, by simpa using ht.symm⟩
    | cons first taken =>
        obtain ⟨rfl, rfl⟩ := List.cons.inj ht
        exact Or.inr ⟨taken, rfl, rfl⟩
  · exact Or.inl ⟨ahead, rfl, hr⟩

-- The calls reach every final frame that only frames and timeouts stand
-- before: one call returns on it, with what it took off since the call before.
theorem exists_returning_call (hw : client.websocket = some socket)
    (hc : client.connected = true) (hb : ∀ result ∈ before, result.staysConnected = true)
    (hl : last.isFinal = true) :
    ∃ calls skipped frames, before = skipped ++ frames ∧
      (∀ frame ∈ frames, frame.continues = true) ∧ frames.length < maxFramesPerMessage ∧
      ⟨frames ++ [last], .ok (frames.flatMap payload ++ last.payload)⟩ ∈
        receiveCalls calls client (before ++ last :: after) := by
  induction hn : before.length using Nat.strongRecOn generalizing before client with
  | ind n ih =>
      have hs : last.continues = false := by simp [continues, hl]
      obtain ⟨consumed, rest, result, next, he, hr, hcalls⟩ :=
        receiveCalls_receives hw hc (List.mem_append_right before (List.mem_cons_self (l := after))) hs
      rcases consumed_split he with ⟨ahead, rfl, rfl⟩ | ⟨taken, rfl, rfl⟩
      · have hpos : 0 < consumed.length := List.length_pos_iff.mpr hr.ne_nil
        have hlt : ahead.length < n := by
          rw [← hn, List.length_append]
          omega
        have hnext : next = client :=
          hr.of_staysConnected fun result hm => hb result (List.mem_append_left _ hm)
        rw [hnext] at hcalls
        obtain ⟨calls, skipped, frames, rfl, hf, hlen, hin⟩ :=
          ih ahead.length hlt hw hc (fun result hm => hb result (List.mem_append_right _ hm)) rfl
        refine ⟨calls + 1, consumed ++ skipped, frames, by simp, hf, hlen, ?_⟩
        rw [hcalls]
        exact List.mem_cons_of_mem _ hin
      · obtain ⟨rfl, hf, hlen⟩ := hr.of_stop hs
        obtain ⟨rfl, -⟩ := hr.of_final hl
        refine ⟨1, [], before, rfl, hf, hlen, ?_⟩
        rw [hcalls 0]
        exact List.mem_cons_self

-- No call returns before the connection is taken for closed when no final
-- frame comes before that.
theorem not_returning_before_close (hw : client.websocket = some socket)
    (hb : ∀ result ∈ before, result.isFinal = false) (hs : stop.closes = true)
    (hm : call ∈ receiveCalls calls client (before ++ stop :: after)) (buffer : Bytes) :
    call.result ≠ .ok buffer := by
  induction calls generalizing before client with
  | zero => simp [receiveCalls] at hm
  | succ calls ih =>
      by_cases hc : client.connected = true
      · have hstop : stop.continues = false := by simp [continues, hs]
        obtain ⟨consumed, rest, result, next, he, hr, hcalls⟩ :=
          receiveCalls_receives hw hc (List.mem_append_right before (List.mem_cons_self (l := after)))
            hstop
        rw [hcalls] at hm
        rcases consumed_split he with ⟨ahead, rfl, rfl⟩ | ⟨taken, rfl, rfl⟩
        · rcases List.mem_cons.mp hm with rfl | hm
          · rintro rfl
            obtain ⟨frames, last, rfl, hl⟩ := hr.final_of_ok
            have hno := hb last (by simp)
            rw [hl] at hno
            cases hno
          · exact ih (hr.websocket_eq.trans hw)
              (fun result hin => hb result (List.mem_append_right _ hin)) hm
        · obtain ⟨rfl, -, -⟩ := hr.of_stop hstop
          have hdisc := hr.of_closes hs
          rw [receiveCalls_of_disconnected hdisc, List.mem_singleton] at hm
          rw [hm]
          rintro rfl
          obtain ⟨frames, last, he, hl⟩ := hr.final_of_ok
          obtain ⟨-, rfl⟩ := List.append_singleton_inj.mp he
          rw [not_isFinal_of_closes hs] at hl
          cases hl
      · rw [receiveCalls_of_disconnected (by simpa using hc)] at hm
        cases hm

-- A client as reconnect() makes it.
def startedClient : HttpsWebsocketClient :=
  (((new "127.0.0.1" 51234).setCredentials "riot" "token").start ⟨.ok (), .ok ()⟩).2

end HttpsWebsocketClient

end Rito

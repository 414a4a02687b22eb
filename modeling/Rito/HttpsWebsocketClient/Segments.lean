import Mathlib.Data.Stream.Init
import Rito.HttpsWebsocketClient.Calls

namespace Rito

-- What a call throws on a result that ends it and is no final frame.
def FrameResult.Interrupts : FrameResult → Except Exception Bytes → Prop
  | .throws (.timeout _), ending => ∃ what, ending = .error (.websocket what)
  | .throws _, ending => ∃ what, ending = .error (.unknown what)
  | .frame flags payload, ending =>
      (FrameResult.frame flags payload).closes = true ∧ ∃ what, ending = .error (.websocket what)

namespace HttpsWebsocketClient

open FrameResult

-- A receive_message call that ended, with the client before and after it.
structure ReceiveStep where
  client : HttpsWebsocketClient
  consumed : List FrameResult
  result : Except Exception Bytes
  next : HttpsWebsocketClient

-- receive_message calls made one after the other, also on a client that is no
-- longer connected. A call that waits forever is the last one.
def receiveSteps : Nat → HttpsWebsocketClient → List FrameResult → List ReceiveStep
  | 0, _, _ => []
  | calls + 1, client, transport =>
      match client.receiveMessage transport with
      | none => []
      | some (result, next, rest) =>
          ⟨client, transport.take (transport.length - rest.length), result, next⟩ ::
            receiveSteps calls next rest

-- The segment ends in its first final frame and holds nothing but frames.
def EndsFinal (consumed : List FrameResult) : Prop :=
  (∃ frames last, consumed = frames ++ [last] ∧ last.isFinal = true ∧
      ∀ frame ∈ frames, frame.isFinal = false) ∧
    ∀ result ∈ consumed, result.isFrame = true ∧ result.closes = false

-- As many frames as a message may have, none of them final.
def AllUnfinished (consumed : List FrameResult) : Prop :=
  consumed.length = maxFramesPerMessage ∧
    ∀ result ∈ consumed, result.isFrame = true ∧ result.closes = false ∧ result.isFinal = false

-- The segment ends at the first result that interrupts it.
def EndsInterrupted (consumed : List FrameResult) (ending : Except Exception Bytes) : Prop :=
  ∃ frames last, consumed = frames ++ [last] ∧ last.Interrupts ending ∧
    ∀ frame ∈ frames, frame.isFrame = true ∧ frame.closes = false ∧ frame.isFinal = false

-- What one call takes off the transport decides how it ends, and the client
-- after it.
structure ReceiveStep.Exact (step : ReceiveStep) : Prop where
  length_le : step.consumed.length ≤ maxFramesPerMessage
  returns_iff : ∀ buffer, step.result = .ok buffer ↔
    EndsFinal step.consumed ∧ buffer = step.consumed.flatMap payload
  tooLong_iff : (∃ what, step.result = .error (.message what)) ↔ AllUnfinished step.consumed
  interrupted : (∀ buffer, step.result ≠ .ok buffer) →
    (∀ what, step.result ≠ .error (.message what)) → EndsInterrupted step.consumed step.result
  next_eq : step.next = { step.client with
    connected := step.client.connected && step.consumed.all staysConnected }

variable {client next : HttpsWebsocketClient} {calls : Nat} {buffer : Bytes}
  {transport frames consumed rest : List FrameResult} {last : FrameResult} {frame : FrameResult}
  {socket : WebSocket} {result : Except Exception Bytes}

theorem continues_iff : frame.continues = true ↔
    frame.isFrame = true ∧ frame.closes = false ∧ frame.isFinal = false := by
  simp [continues, and_assoc]

theorem staysConnected_of_continues (h : frame.continues = true) :
    frame.staysConnected = true := by
  obtain ⟨hframe, hopen, -⟩ := continues_iff.mp h
  cases frame with
  | frame flags payload => simp [staysConnected, hopen]
  | throws exception => cases hframe

theorem closes_of_isFinal (h : last.isFinal = true) : last.closes = false := by
  by_contra hclose
  rw [not_isFinal_of_closes (by simpa using hclose)] at h
  cases h

theorem closes_of_continues (hf : ∀ frame ∈ frames, frame.continues = true) :
    ¬∃ frame ∈ frames, frame.closes = true := by
  rintro ⟨frame, hm, hclose⟩
  rw [(continues_iff.mp (hf frame hm)).2.1] at hclose
  cases hclose

theorem staysConnected_of_isFinal (h : last.isFinal = true) : last.staysConnected = true := by
  have hopen := closes_of_isFinal h
  cases last with
  | frame flags payload => simp [staysConnected, hopen]
  | throws exception => cases h

theorem all_staysConnected (hf : ∀ frame ∈ frames, frame.continues = true) :
    frames.all staysConnected = true :=
  List.all_eq_true.mpr fun frame hm => staysConnected_of_continues (hf frame hm)

theorem continues_of_allUnfinished (h : AllUnfinished consumed) :
    ∀ frame ∈ consumed, frame.continues = true :=
  fun frame hm => continues_iff.mpr (h.2 frame hm)

-- The loop on the frames it reads on from, with an iteration left.
theorem receiveFrames_front (hf : ∀ frame ∈ frames, frame.continues = true)
    (hl : frames.length < maxFramesPerMessage) :
    ∃ left, ∀ rest, receiveFrames maxFramesPerMessage [] (frames ++ rest) =
      receiveFrames (left + 1) (frames.flatMap payload) rest := by
  refine ⟨maxFramesPerMessage - frames.length - 1, fun rest => ?_⟩
  rw [receiveFrames_append hf (Nat.le_of_lt hl), List.nil_append]
  congr 1
  omega

namespace Receives

-- What was taken off is all that a call looks at.
theorem receiveMessage_eq (h : Receives client consumed result next)
    (hw : client.websocket = some socket) :
    client.receiveMessage (consumed ++ rest) = some (result, next, rest) := by
  cases h with
  | returns hf hl hlast =>
      rw [List.append_assoc, receiveMessage, hw]
      obtain ⟨left, hfront⟩ := receiveFrames_front hf hl
      simp only [hfront, List.singleton_append, receiveFrames_final hlast]
  | disconnected hf hl hlast =>
      rw [List.append_assoc, receiveMessage, hw, closes_iff.mp hlast]
      obtain ⟨left, hfront⟩ := receiveFrames_front hf hl
      simp [hfront, receiveFrames]
  | timesOut hf hl =>
      rw [List.append_assoc, receiveMessage, hw]
      obtain ⟨left, hfront⟩ := receiveFrames_front hf hl
      simp only [hfront, List.singleton_append, receiveFrames]
  | fails hf hl he =>
      rename_i exception
      rw [List.append_assoc, receiveMessage, hw]
      obtain ⟨left, hfront⟩ := receiveFrames_front hf hl
      cases exception with
      | timeout what => exact absurd rfl (he what)
      | websocket what | message what | other what =>
          simp only [hfront, List.singleton_append, receiveFrames]
  | tooLong hf hl =>
      rw [receiveMessage, hw]
      simp only [receiveFrames_append hf (Nat.le_of_eq hl), hl, Nat.sub_self, receiveFrames,
        Bool.not_false, Bool.and_true]
      rw [← hw]

theorem length_le (h : Receives client consumed result next) :
    consumed.length ≤ maxFramesPerMessage := by
  cases h with
  | returns _ hl _ | disconnected _ hl _ | timesOut _ hl | fails _ hl _ =>
      rw [List.length_append, List.length_singleton]
      omega
  | tooLong _ hl => exact Nat.le_of_eq hl

theorem next_eq (h : Receives client consumed result next) :
    next = { client with connected := client.connected && consumed.all staysConnected } := by
  cases h with
  | returns hf _ hlast =>
      simp [all_staysConnected hf, staysConnected_of_isFinal hlast]
  | disconnected hf _ hlast =>
      simp [closes_iff.mp hlast, staysConnected, closes]
  | timesOut hf _ => simp [all_staysConnected hf, staysConnected]
  | @fails frames exception hf _ he =>
      cases exception with
      | timeout what => exact absurd rfl (he what)
      | websocket what | message what | other what => simp [staysConnected]
  | tooLong hf _ => simp [all_staysConnected hf]

-- A segment that ends with a result the loop does not go on from.
theorem not_allUnfinished (hs : last.continues = false) :
    ¬AllUnfinished (frames ++ [last]) := by
  intro h
  have hc := continues_of_allUnfinished h last (by simp)
  rw [hs] at hc
  cases hc

theorem not_endsFinal (hs : last.isFinal = false) : ¬EndsFinal (frames ++ [last]) := by
  rintro ⟨⟨front, final, he, hfinal, -⟩, -⟩
  obtain ⟨-, rfl⟩ := List.append_singleton_inj.mp he
  rw [hs] at hfinal
  cases hfinal

theorem not_endsFinal_of_continues (hf : ∀ frame ∈ consumed, frame.continues = true) :
    ¬EndsFinal consumed := by
  rintro ⟨⟨front, final, rfl, hfinal, -⟩, -⟩
  obtain ⟨-, -, hno⟩ := continues_iff.mp (hf final (by simp))
  rw [hno] at hfinal
  cases hfinal

theorem endsFinal (hf : ∀ frame ∈ frames, frame.continues = true) (hlast : last.isFinal = true) :
    EndsFinal (frames ++ [last]) := by
  refine ⟨⟨frames, last, rfl, hlast, fun frame hm => (continues_iff.mp (hf frame hm)).2.2⟩, ?_⟩
  intro result hm
  rcases List.mem_append.mp hm with hm | hm
  · obtain ⟨hframe, hopen, -⟩ := continues_iff.mp (hf result hm)
    exact ⟨hframe, hopen⟩
  · obtain rfl := List.mem_singleton.mp hm
    refine ⟨?_, closes_of_isFinal hlast⟩
    cases result with
    | frame flags payload => rfl
    | throws exception => cases hlast

theorem returns_iff (h : Receives client consumed result next) (buffer : Bytes) :
    result = .ok buffer ↔ EndsFinal consumed ∧ buffer = consumed.flatMap payload := by
  cases h with
  | returns hf _ hlast =>
      simp only [Except.ok.injEq, List.flatMap_append, List.flatMap_singleton]
      constructor
      · intro he
        exact ⟨endsFinal hf hlast, he.symm⟩
      · intro he
        exact he.2.symm
  | disconnected _ _ hlast =>
      exact iff_of_false (by simp) fun he => not_endsFinal (not_isFinal_of_closes hlast) he.1
  | timesOut _ _ | fails _ _ _ =>
      exact iff_of_false (by simp) fun he => not_endsFinal rfl he.1
  | tooLong hf _ =>
      exact iff_of_false (by simp) fun he => not_endsFinal_of_continues hf he.1

theorem tooLong_iff (h : Receives client consumed result next) :
    (∃ what, result = .error (.message what)) ↔ AllUnfinished consumed := by
  cases h with
  | returns _ _ hlast =>
      exact iff_of_false (by simp) (not_allUnfinished (by simp [continues, hlast]))
  | disconnected _ _ hlast =>
      exact iff_of_false (by simp) (not_allUnfinished (by simp [continues, hlast]))
  | timesOut _ _ => exact iff_of_false (by simp [notStarted]) (not_allUnfinished rfl)
  | fails _ _ _ => exact iff_of_false (by simp) (not_allUnfinished rfl)
  | tooLong hf hl =>
      exact iff_of_true ⟨_, rfl⟩ ⟨hl, fun frame hm => continues_iff.mp (hf frame hm)⟩

theorem interrupted (h : Receives client consumed result next)
    (hok : ∀ buffer, result ≠ .ok buffer) (hlong : ∀ what, result ≠ .error (.message what)) :
    EndsInterrupted consumed result := by
  cases h with
  | returns _ _ _ => exact absurd rfl (hok _)
  | disconnected hf _ hlast =>
      refine ⟨_, _, rfl, ?_, fun frame hm => continues_iff.mp (hf frame hm)⟩
      rw [closes_iff.mp hlast]
      exact ⟨rfl, _, rfl⟩
  | timesOut hf _ => exact ⟨_, _, rfl, ⟨_, rfl⟩, fun frame hm => continues_iff.mp (hf frame hm)⟩
  | @fails frames exception hf _ he =>
      refine ⟨_, _, rfl, ?_, fun frame hm => continues_iff.mp (hf frame hm)⟩
      cases exception with
      | timeout what => exact absurd rfl (he what)
      | websocket what | message what | other what => exact ⟨_, rfl⟩
  | tooLong _ _ => exact absurd rfl (hlong _)

theorem exact (h : Receives client consumed result next) :
    ReceiveStep.Exact ⟨client, consumed, result, next⟩ where
  length_le := h.length_le
  returns_iff := h.returns_iff
  tooLong_iff := h.tooLong_iff
  interrupted := h.interrupted
  next_eq := h.next_eq

end Receives

theorem receiveSteps_cons
    (h : client.receiveMessage (consumed ++ rest) = some (result, next, rest)) :
    receiveSteps (calls + 1) client (consumed ++ rest) =
      ⟨client, consumed, result, next⟩ :: receiveSteps calls next rest := by
  simp [receiveSteps, h]

-- As many results as a message may have frames are enough for a call.
theorem receives_take (hw : client.websocket = some socket) (results : Stream' FrameResult) :
    ∃ consumed result next, Receives client consumed result next ∧
      ∀ n, maxFramesPerMessage ≤ n → results.take n =
        consumed ++ (results.drop consumed.length).take (n - consumed.length) := by
  cases h : client.receiveMessage (results.take maxFramesPerMessage) with
  | none =>
      have hlt := (receiveMessage_eq_none h).2
      rw [Stream'.length_take] at hlt
      exact absurd hlt (Nat.lt_irrefl _)
  | some ending =>
      obtain ⟨result, next, rest⟩ := ending
      obtain ⟨consumed, he, hr⟩ := receiveMessage_receives hw h
      have hle := hr.length_le
      have hsplit : ∀ n, maxFramesPerMessage ≤ n → results.take n =
          results.take consumed.length ++
            (results.drop consumed.length).take (n - consumed.length) := by
        intro n hn
        rw [← Stream'.take_add, Nat.add_sub_of_le (Nat.le_trans hle hn)]
      have hc : consumed = results.take consumed.length :=
        (List.append_inj (he.symm.trans (hsplit _ (Nat.le_refl _))) (by simp)).1
      refine ⟨consumed, result, next, hr, fun n hn => ?_⟩
      rw [hsplit n hn, ← hc]

-- The calls take consecutive segments off an endless transport, however much
-- of it the model is given, and each of them ends as its segment says.
theorem segmentation_exact (hw : client.websocket = some socket) (results : Stream' FrameResult)
    (calls : Nat) :
    ∃ steps : List ReceiveStep, steps.length = calls ∧
      steps.flatMap ReceiveStep.consumed =
        results.take (steps.flatMap ReceiveStep.consumed).length ∧
      (∀ step ∈ steps, step.Exact) ∧
      ∀ n, calls * maxFramesPerMessage ≤ n → receiveSteps calls client (results.take n) = steps := by
  induction calls generalizing client results with
  | zero => exact ⟨[], rfl, rfl, by simp, fun _ _ => rfl⟩
  | succ calls ih =>
      obtain ⟨consumed, result, next, hr, hsplit⟩ := receives_take hw results
      obtain ⟨steps, hlen, hsegments, hexact, hsteps⟩ :=
        ih (hr.websocket_eq.trans hw) (results.drop consumed.length)
      have hle := hr.length_le
      have hc : consumed = results.take consumed.length := by
        have hfront := hsplit maxFramesPerMessage (Nat.le_refl _)
        have hcut := congrArg (List.take consumed.length) hfront
        rw [List.take_left, Stream'.take_take, Nat.min_eq_right hle] at hcut
        exact hcut.symm
      refine ⟨⟨client, consumed, result, next⟩ :: steps, by simp [hlen], ?_, ?_, fun n hn => ?_⟩
      · rw [List.flatMap_cons, List.length_append, Stream'.take_add, ← hc, ← hsegments]
      · intro step hm
        rcases List.mem_cons.mp hm with rfl | hm
        · exact hr.exact
        · exact hexact step hm
      · rw [Nat.succ_mul] at hn
        rw [hsplit n (by omega), receiveSteps_cons (hr.receiveMessage_eq hw),
          hsteps (n - consumed.length) (by omega)]

-- A message that a timeout cuts short, one of three frames and the end of the
-- connection, before a message comes in every frame.
def cutMessages : Stream' FrameResult :=
  Stream'.appendStream' [.frame 0x01 [0x5b], .throws (.timeout "Timeout"), .frame 0x01 [0x5b],
    .frame 0x00 [0x31], .frame 0x80 [0x5d], .frame 0x00 []] (Stream'.const (.frame 0x81 [0x7b]))

theorem segmentation_exact_cutMessages : ∃ steps : List ReceiveStep, steps.length = 4 ∧
    (∀ step ∈ steps, step.Exact) ∧ ∀ n, 1020 ≤ n →
      receiveSteps 4 startedClient (cutMessages.take n) = steps := by
  obtain ⟨steps, hlen, -, hexact, hsteps⟩ := @segmentation_exact startedClient _ rfl cutMessages 4
  exact ⟨steps, hlen, hexact, hsteps⟩

end HttpsWebsocketClient

end Rito

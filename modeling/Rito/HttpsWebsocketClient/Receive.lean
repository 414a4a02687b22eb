import Rito.HttpsWebsocketClient
import Mathlib.Tactic.Common

namespace Rito

namespace FrameResult

def payload : FrameResult → Bytes
  | .frame _ payload => payload
  | .throws _ => []

-- What receive_message takes for a closed connection.
def closes : FrameResult → Bool
  | .frame flags payload => payload.length = 0 ∧ flags = 0
  | .throws _ => false

def isFinal : FrameResult → Bool
  | .frame flags _ => flags &&& frameFlagFin ≠ 0
  | .throws _ => false

def isFrame : FrameResult → Bool
  | .frame _ _ => true
  | .throws _ => false

-- A result that leaves m_connected set.
def staysConnected : FrameResult → Bool
  | .throws (.timeout _) => true
  | .throws _ => false
  | result => !result.closes

-- A result after which the loop goes on.
def continues (result : FrameResult) : Bool :=
  result.isFrame && !result.closes && !result.isFinal

variable {result : FrameResult}

@[simp] theorem payload_frame (flags : Nat) (payload : Bytes) :
    (FrameResult.frame flags payload).payload = payload := rfl

@[simp] theorem isFrame_frame (flags : Nat) (payload : Bytes) :
    (FrameResult.frame flags payload).isFrame = true := rfl

theorem closes_iff : result.closes = true ↔ result = .frame 0 [] := by
  cases result with
  | frame flags payload => simp [closes, and_comm]
  | throws exception => simp [closes]

theorem continues_frame {flags : Nat} {payload : Bytes} :
    (FrameResult.frame flags payload).continues = true ↔
      ¬(payload.length = 0 ∧ flags = 0) ∧ ¬(flags &&& frameFlagFin ≠ 0) := by
  simp [continues, isFrame, closes, isFinal, imp_iff_not_or]

theorem not_isFinal_of_closes (h : result.closes = true) : result.isFinal = false := by
  rw [closes_iff.mp h]
  decide

end FrameResult

namespace HttpsWebsocketClient

open FrameResult

variable {client next : HttpsWebsocketClient} {left : Nat} {buffer : Bytes}
  {transport frames consumed rest before after : List FrameResult} {last stop : FrameResult}
  {socket : WebSocket} {result : Except Exception Bytes}

theorem receiveFrames_append (hf : ∀ frame ∈ frames, frame.continues = true)
    (hl : frames.length ≤ left) :
    receiveFrames left buffer (frames ++ rest) =
      receiveFrames (left - frames.length) (buffer ++ frames.flatMap payload) rest := by
  induction frames generalizing left buffer with
  | nil => simp
  | cons frame frames ih =>
      have hc := hf frame List.mem_cons_self
      have hl' : frames.length + 1 ≤ left := hl
      obtain ⟨left, rfl⟩ : ∃ n, left = n + 1 := ⟨left - 1, by omega⟩
      cases frame with
      | throws exception => simp [continues, isFrame] at hc
      | frame flags payload =>
          have hstep : receiveFrames (left + 1) buffer (.frame flags payload :: (frames ++ rest)) =
              receiveFrames left (buffer ++ payload) (frames ++ rest) := by
            obtain ⟨hopen, hflags⟩ := continues_frame.mp hc
            rw [receiveFrames, if_neg hopen, if_neg hflags]
          rw [List.cons_append, hstep, ih (fun frame hm => hf frame (List.mem_cons_of_mem _ hm))
            (by omega)]
          have hn : left + 1 - (frames.length + 1) = left - frames.length := by omega
          simp only [List.length_cons, hn, List.flatMap_cons, FrameResult.payload,
            List.append_assoc]

theorem receiveFrames_final (h : last.isFinal = true) :
    receiveFrames (left + 1) buffer (last :: rest) =
      some (.ok (buffer ++ last.payload), false, rest) := by
  cases last with
  | throws exception => cases h
  | frame flags payload =>
      have hflags : flags &&& frameFlagFin ≠ 0 := by simpa [isFinal] using h
      have hopen : ¬(payload.length = 0 ∧ flags = 0) := by
        rintro ⟨-, rfl⟩
        exact hflags (Nat.zero_and _)
      rw [receiveFrames, if_neg hopen, if_pos hflags]
      rfl

-- The loop only waits forever on fewer frames than it has iterations left,
-- none of which ends it.
theorem receiveFrames_eq_none (h : receiveFrames left buffer transport = none) :
    (∀ result ∈ transport, result.continues = true) ∧ transport.length < left := by
  induction left generalizing buffer transport with
  | zero => simp [receiveFrames] at h
  | succ left ih =>
      cases transport with
      | nil => simp
      | cons first transport =>
          cases first with
          | throws exception => simp [receiveFrames] at h
          | frame flags payload =>
              simp only [receiveFrames] at h
              by_cases hclose : payload.length = 0 ∧ flags = 0
              · rw [if_pos hclose] at h
                cases h
              · by_cases hfin : flags &&& frameFlagFin ≠ 0
                · rw [if_neg hclose, if_pos hfin] at h
                  cases h
                · rw [if_neg hclose, if_neg hfin] at h
                  obtain ⟨hall, hlen⟩ := ih h
                  refine ⟨?_, by simpa using hlen⟩
                  intro result hm
                  rcases List.mem_cons.mp hm with rfl | hm
                  · exact continues_frame.mpr ⟨hclose, hfin⟩
                  · exact hall result hm

-- One receive_message call on a started client: what it takes off the
-- transport, how it ends, and the client after it.
inductive Receives (client : HttpsWebsocketClient) :
    List FrameResult → Except Exception Bytes → HttpsWebsocketClient → Prop
  | returns {frames : List FrameResult} {last : FrameResult}
      (hf : ∀ frame ∈ frames, frame.continues = true)
      (hl : frames.length < maxFramesPerMessage) (hlast : last.isFinal = true) :
      Receives client (frames ++ [last]) (.ok (frames.flatMap payload ++ last.payload)) client
  | disconnected {frames : List FrameResult} {last : FrameResult}
      (hf : ∀ frame ∈ frames, frame.continues = true)
      (hl : frames.length < maxFramesPerMessage) (hlast : last.closes = true) :
      Receives client (frames ++ [last])
        (.error (.websocket "Websocket client is disconnected")) { client with connected := false }
  | timesOut {frames : List FrameResult} {what : String}
      (hf : ∀ frame ∈ frames, frame.continues = true)
      (hl : frames.length < maxFramesPerMessage) :
      Receives client (frames ++ [.throws (.timeout what)]) (.error notStarted) client
  | fails {frames : List FrameResult} {exception : TransportException}
      (hf : ∀ frame ∈ frames, frame.continues = true)
      (hl : frames.length < maxFramesPerMessage) (he : ∀ what, exception ≠ .timeout what) :
      Receives client (frames ++ [.throws exception]) (.error (.unknown exception.what))
        { client with connected := false }
  | tooLong {frames : List FrameResult} (hf : ∀ frame ∈ frames, frame.continues = true)
      (hl : frames.length = maxFramesPerMessage) :
      Receives client frames (.error messageTooLong) client

-- The frames at the front of the transport that the loop reads on from.
theorem exists_continues (limit : Nat) (transport : List FrameResult) :
    ∃ frames rest, transport = frames ++ rest ∧ (∀ frame ∈ frames, frame.continues = true) ∧
      frames.length ≤ limit ∧
      (frames.length = limit ∨ rest = [] ∨ ∃ stop after, rest = stop :: after ∧
        stop.continues = false) := by
  induction limit generalizing transport with
  | zero => exact ⟨[], transport, rfl, by simp, Nat.le_refl 0, Or.inl rfl⟩
  | succ limit ih =>
      cases transport with
      | nil => exact ⟨[], [], rfl, by simp, Nat.zero_le _, Or.inr (Or.inl rfl)⟩
      | cons first transport =>
          by_cases hc : first.continues = true
          · obtain ⟨frames, rest, rfl, hf, hl, hr⟩ := ih transport
            refine ⟨first :: frames, rest, rfl, ?_, by simpa using hl, ?_⟩
            · intro frame hm
              rcases List.mem_cons.mp hm with rfl | hm
              · exact hc
              · exact hf frame hm
            · rcases hr with hr | hr
              · exact Or.inl (by simp [hr])
              · exact Or.inr hr
          · exact ⟨[], first :: transport, rfl, by simp, Nat.zero_le _,
              Or.inr (Or.inr ⟨first, transport, rfl, by simpa using hc⟩)⟩

theorem receiveMessage_receives (hw : client.websocket = some socket)
    (h : client.receiveMessage transport = some (result, next, rest)) :
    ∃ consumed, transport = consumed ++ rest ∧ Receives client consumed result next := by
  obtain ⟨frames, tail, rfl, hf, hl, htail⟩ := exists_continues maxFramesPerMessage transport
  obtain ⟨connected, host, port, credentials, websocket⟩ := client
  obtain rfl : websocket = some socket := hw
  simp only [receiveMessage, receiveFrames_append hf hl, List.nil_append] at h
  by_cases hlen : frames.length = maxFramesPerMessage
  · simp only [hlen, Nat.sub_self, receiveFrames, Bool.not_false, Bool.and_true,
      Option.some.injEq, Prod.mk.injEq] at h
    obtain ⟨rfl, rfl, rfl⟩ := h
    exact ⟨frames, rfl, .tooLong hf hlen⟩
  · have hlt : frames.length < maxFramesPerMessage := by omega
    obtain ⟨left, hleft⟩ : ∃ n, maxFramesPerMessage - frames.length = n + 1 :=
      ⟨maxFramesPerMessage - frames.length - 1, by omega⟩
    rw [hleft] at h
    rcases htail with htail | rfl | ⟨stop, after, rfl, hstop⟩
    · exact absurd htail hlen
    · simp [receiveFrames] at h
    · refine ⟨frames ++ [stop], ?_⟩
      by_cases hfin : stop.isFinal = true
      · simp only [receiveFrames_final hfin, Option.some.injEq, Prod.mk.injEq] at h
        obtain ⟨rfl, rfl, rfl⟩ := h
        exact ⟨by simp, .returns hf hlt hfin⟩
      · by_cases hclose : stop.closes = true
        · obtain rfl := closes_iff.mp hclose
          simp [receiveFrames] at h
          obtain ⟨rfl, rfl, rfl⟩ := h
          exact ⟨by simp, .disconnected hf hlt hclose⟩
        · cases stop with
          | frame flags payload => simp [continues, isFrame, hfin, hclose] at hstop
          | throws exception =>
              cases exception with
              | timeout what =>
                  simp only [receiveFrames, Option.some.injEq, Prod.mk.injEq] at h
                  obtain ⟨rfl, rfl, rfl⟩ := h
                  exact ⟨by simp, .timesOut hf hlt⟩
              | websocket what | message what | other what =>
                  simp only [receiveFrames, Option.some.injEq, Prod.mk.injEq] at h
                  obtain ⟨rfl, rfl, rfl⟩ := h
                  exact ⟨by simp, .fails hf hlt fun _ => by simp⟩

-- A call that waits forever was given too few frames, all of which go on.
theorem receiveMessage_eq_none (h : client.receiveMessage transport = none) :
    (∀ result ∈ transport, result.continues = true) ∧ transport.length < maxFramesPerMessage := by
  cases hw : client.websocket with
  | none => simp [receiveMessage, hw] at h
  | some socket =>
      have hnone : receiveFrames maxFramesPerMessage [] transport = none := by
        cases hr : receiveFrames maxFramesPerMessage [] transport with
        | none => rfl
        | some ending =>
            obtain ⟨ending, closed, rest⟩ := ending
            simp only [receiveMessage, hw, hr] at h
            split at h <;> simp_all
      exact receiveFrames_eq_none hnone

theorem receiveMessage_ne_none (hm : stop ∈ transport) (hs : stop.continues = false) :
    client.receiveMessage transport ≠ none := by
  intro h
  have hall := (receiveMessage_eq_none h).1 stop hm
  rw [hs] at hall
  cases hall

namespace Receives

theorem ne_nil (h : Receives client consumed result next) : consumed ≠ [] := by
  cases h with
  | tooLong _ hl =>
      rintro rfl
      cases hl
  | _ => simp

theorem websocket_eq (h : Receives client consumed result next) :
    next.websocket = client.websocket := by
  cases h <;> rfl

theorem of_staysConnected (h : Receives client consumed result next)
    (hs : ∀ result ∈ consumed, result.staysConnected = true) : next = client := by
  cases h with
  | returns _ _ _ | timesOut _ _ | tooLong _ _ => rfl
  | @disconnected frames last _ _ hclose =>
      have hl := hs last (by simp)
      rw [closes_iff.mp hclose] at hl
      cases hl
  | @fails frames exception _ _ he =>
      have hl := hs (.throws exception) (by simp)
      cases exception with
      | timeout what => exact absurd rfl (he what)
      | _ => cases hl

-- A call ends at the first result that does not continue.
theorem of_stop (h : Receives client (before ++ stop :: after) result next)
    (hs : stop.continues = false) :
    after = [] ∧ (∀ frame ∈ before, frame.continues = true) ∧
      before.length < maxFramesPerMessage := by
  have hend : ∀ frames last, before ++ stop :: after = frames ++ [last] →
      (∀ frame ∈ frames, frame.continues = true) → after = [] ∧ before = frames := by
    intro frames last he hf
    rcases List.eq_nil_or_concat after with rfl | ⟨rest, final, rfl⟩
    · exact ⟨rfl, (List.append_singleton_inj.mp he).1⟩
    · have hin : before ++ stop :: rest = frames := by
        have he' : (before ++ stop :: rest) ++ [final] = frames ++ [last] := by simpa using he
        exact (List.append_singleton_inj.mp he').1
      have hc := hf stop (by simp [← hin])
      rw [hs] at hc
      cases hc
  generalize hcons : before ++ stop :: after = consumed at h
  cases h with
  | returns hf hl _ | disconnected hf hl _ | timesOut hf hl | fails hf hl _ =>
      obtain ⟨rfl, rfl⟩ := hend _ _ hcons hf
      exact ⟨rfl, hf, hl⟩
  | tooLong hf _ =>
      have hc := hf stop (by simp [← hcons])
      rw [hs] at hc
      cases hc

theorem of_final (h : Receives client (before ++ [last]) result next) (hl : last.isFinal = true) :
    result = .ok (before.flatMap payload ++ last.payload) ∧ next = client := by
  have hs : last.continues = false := by simp [continues, hl]
  generalize hcons : before ++ [last] = consumed at h
  cases h with
  | returns _ _ _ =>
      obtain ⟨rfl, rfl⟩ := List.append_singleton_inj.mp hcons
      exact ⟨rfl, rfl⟩
  | disconnected _ _ hclose =>
      obtain ⟨rfl, rfl⟩ := List.append_singleton_inj.mp hcons
      rw [not_isFinal_of_closes hclose] at hl
      cases hl
  | timesOut _ _ | fails _ _ _ =>
      obtain ⟨rfl, rfl⟩ := List.append_singleton_inj.mp hcons
      cases hl
  | tooLong hf _ =>
      have hc := hf last (by simp [← hcons])
      rw [hs] at hc
      cases hc

theorem of_closes (h : Receives client (before ++ [last]) result next)
    (hl : last.closes = true) : next.connected = false := by
  generalize hcons : before ++ [last] = consumed at h
  cases h with
  | returns _ _ hfin =>
      obtain ⟨rfl, rfl⟩ := List.append_singleton_inj.mp hcons
      rw [not_isFinal_of_closes hl] at hfin
      cases hfin
  | disconnected _ _ _ | fails _ _ _ => rfl
  | timesOut _ _ =>
      obtain ⟨rfl, rfl⟩ := List.append_singleton_inj.mp hcons
      cases hl
  | tooLong hf _ =>
      have hc := hf last (by simp [← hcons])
      simp [continues, hl] at hc

-- A call that returns a buffer ends with a final frame.
theorem final_of_ok (h : Receives client consumed (.ok buffer) next) :
    ∃ frames last, consumed = frames ++ [last] ∧ last.isFinal = true := by
  cases h with
  | returns _ _ hl => exact ⟨_, _, rfl, hl⟩

end Receives

end HttpsWebsocketClient

end Rito

import Rito.HttpsWebsocketClient.Messages
import Rito.HttpsWebsocketClient.Segments

namespace Rito

namespace HttpsWebsocketClient

open FrameResult

variable {client next : HttpsWebsocketClient} {socket : WebSocket} {calls : Nat}
  {step : ReceiveStep} {consumed transport : List FrameResult} {stop result : FrameResult}
  {ending : Except Exception Bytes} {fragment : Fragment} {rest : List Fragment}
  {messages : List DataMessage} {opcode : Nat}

def disconnectedException : Exception := .websocket "Websocket client is disconnected"

-- The call cleared m_connected, or it said that the connection is closed.
def ReceiveStep.ReportsDisconnect (step : ReceiveStep) : Prop :=
  (step.client.connected = true ∧ step.next.connected = false) ∨
    step.result = .error disconnectedException

-- The message has a payload in every continuation frame but the last.
def FilledContinuations (message : DataMessage) : Prop :=
  ∀ fragment ∈ message.rest.dropLast, fragment.payload ≠ []

instance (message : DataMessage) : Decidable (FilledContinuations message) :=
  inferInstanceAs (Decidable (∀ fragment ∈ message.rest.dropLast, fragment.payload ≠ []))

theorem any_closes_waits (fragment : Fragment) : fragment.waits.any closes = false := by
  apply List.any_eq_false.mpr
  intro result hm
  have hwait := Fragment.mem_waits hm
  simp [hwait.2.1]

theorem closes_of_ne_zero {payload : Bytes} (h : opcode ≠ 0) :
    (FrameResult.frame opcode payload).closes = false := by
  simp [closes, h]

theorem any_closes_continuations (fragment : Fragment) (rest : List Fragment) :
    (fragmentResults 0 fragment rest).any closes =
      (fragment :: rest).dropLast.any fun empty => empty.payload.isEmpty := by
  induction rest generalizing fragment with
  | nil =>
      have hlast : (FrameResult.frame (frameFlagFin ||| 0) fragment.payload).closes = false :=
        closes_of_ne_zero (by decide)
      simp only [fragmentResults, List.any_append, any_closes_waits, List.any_cons, hlast,
        List.any_nil, List.dropLast_singleton, Bool.or_false]
  | cons next rest ih =>
      have hempty : (FrameResult.frame 0 fragment.payload).closes = fragment.payload.isEmpty := by
        cases hp : fragment.payload with
        | nil => rfl
        | cons byte payload => simp [closes]
      simp only [fragmentResults, List.any_append, any_closes_waits, Bool.false_or, List.any_cons,
        hempty, ih, List.dropLast_cons_cons]

-- Only the frames after the first, and not the last, can be taken for a close.
theorem readAsClose_eq_false_iff (message : DataMessage) :
    message.readAsClose = false ↔ FilledContinuations message := by
  obtain ⟨opcode, fragment, rest⟩ := message
  have hopcode : opcode.value ≠ 0 := by
    cases opcode <;> decide
  have hany : (fragmentResults opcode.value fragment rest).any closes =
      rest.dropLast.any fun empty => empty.payload.isEmpty := by
    cases rest with
    | nil =>
        have hlast : (FrameResult.frame (frameFlagFin ||| opcode.value) fragment.payload).closes =
            false := by
          apply closes_of_ne_zero
          cases opcode <;> decide
        simp only [fragmentResults, List.any_append, any_closes_waits, List.any_cons, hlast,
          List.any_nil, List.dropLast_nil, Bool.or_false]
    | cons next rest =>
        simp only [fragmentResults, List.any_append, any_closes_waits, Bool.false_or,
          List.any_cons, closes_of_ne_zero hopcode, any_closes_continuations]
  rw [DataMessage.readAsClose, DataMessage.results, hany]
  simp [FilledContinuations]

namespace Receives

theorem disconnected_iff (h : Receives client consumed ending next) :
    ending = .error disconnectedException ↔ ∃ result ∈ consumed, result.closes = true := by
  have hnone : ∀ {frames : List FrameResult} {last : FrameResult},
      (∀ frame ∈ frames, frame.continues = true) → last.closes = false →
        ¬∃ result ∈ frames ++ [last], result.closes = true := by
    rintro frames last hf hlast ⟨result, hm, hclose⟩
    rcases List.mem_append.mp hm with hm | hm
    · exact closes_of_continues hf ⟨result, hm, hclose⟩
    · rw [List.mem_singleton.mp hm, hlast] at hclose
      cases hclose
  cases h with
  | returns hf _ hlast => exact iff_of_false (by simp) (hnone hf (closes_of_isFinal hlast))
  | @disconnected frames last _ _ hlast => exact iff_of_true rfl ⟨last, by simp, hlast⟩
  | timesOut hf _ =>
      exact iff_of_false (by simp [notStarted, disconnectedException]) (hnone hf rfl)
  | fails hf _ _ => exact iff_of_false (by simp [disconnectedException]) (hnone hf rfl)
  | tooLong hf _ =>
      exact iff_of_false (by simp [messageTooLong, disconnectedException]) (closes_of_continues hf)

end Receives

-- Every call is one receive_message call on results of the transport.
theorem receives_of_mem (hw : client.websocket = some socket)
    (hm : step ∈ receiveSteps calls client transport) :
    Receives step.client step.consumed step.result step.next ∧
      ∀ result ∈ step.consumed, result ∈ transport := by
  induction calls generalizing client transport with
  | zero => cases hm
  | succ calls ih =>
      cases h : client.receiveMessage transport with
      | none =>
          simp only [receiveSteps, h] at hm
          cases hm
      | some pair =>
          obtain ⟨ending, next, rest⟩ := pair
          obtain ⟨consumed, rfl, hr⟩ := receiveMessage_receives hw h
          rw [receiveSteps_cons h] at hm
          rcases List.mem_cons.mp hm with rfl | hm
          · exact ⟨hr, fun result hin => List.mem_append_left _ hin⟩
          · obtain ⟨hstep, hin⟩ := ih (hr.websocket_eq.trans hw) hm
            exact ⟨hstep, fun result hres => List.mem_append_right _ (hin result hres)⟩

-- With calls enough, every result that ends a call is taken off by one.
theorem exists_consuming_call (hw : client.websocket = some socket) (hm : stop ∈ transport)
    (hs : stop.continues = false) :
    ∃ calls, ∃ step ∈ receiveSteps calls client transport, stop ∈ step.consumed := by
  induction hn : transport.length using Nat.strongRecOn generalizing transport client with
  | ind n ih =>
      cases h : client.receiveMessage transport with
      | none => exact absurd h (receiveMessage_ne_none hm hs)
      | some pair =>
          obtain ⟨ending, next, rest⟩ := pair
          obtain ⟨consumed, rfl, hr⟩ := receiveMessage_receives hw h
          rcases List.mem_append.mp hm with hin | hin
          · refine ⟨1, ⟨client, consumed, ending, next⟩, ?_, hin⟩
            rw [receiveSteps_cons h]
            exact List.mem_cons_self
          · have hpos : 0 < consumed.length := List.length_pos_iff.mpr hr.ne_nil
            have hlt : rest.length < n := by
              rw [← hn, List.length_append]
              omega
            obtain ⟨calls, step, hstep, hstop⟩ := ih rest.length hlt (hr.websocket_eq.trans hw) hin rfl
            refine ⟨calls + 1, step, ?_, hstop⟩
            rw [receiveSteps_cons h]
            exact List.mem_cons_of_mem _ hstep

-- Whatever the calls, none reports a disconnect, if and only if no continuation
-- frame but the last of a message is empty.
theorem disconnect_reported_iff (hw : client.websocket = some socket)
    (messages : List DataMessage) :
    (∀ calls, ∀ step ∈ receiveSteps calls client (stream messages), ¬step.ReportsDisconnect) ↔
      ∀ message ∈ messages, FilledContinuations message := by
  constructor
  · intro h message hm
    rw [← readAsClose_eq_false_iff]
    by_contra hread
    obtain ⟨stop, hin, hclose⟩ := List.any_eq_true.mp ((Bool.not_eq_false _).mp hread)
    have hstop : stop.continues = false := by simp [continues, hclose]
    have hstream : stop ∈ stream messages := List.mem_flatMap.mpr ⟨message, hm, hin⟩
    obtain ⟨calls, step, hstep, htaken⟩ := exists_consuming_call hw hstream hstop
    obtain ⟨hr, -⟩ := receives_of_mem hw hstep
    exact h calls step hstep (Or.inr (hr.disconnected_iff.mpr ⟨stop, htaken, hclose⟩))
  · intro h calls step hstep hreport
    obtain ⟨hr, hin⟩ := receives_of_mem hw hstep
    have hstays : ∀ result ∈ step.consumed, result.staysConnected = true := by
      intro result hres
      apply staysConnected_of_stream _ result (hin result hres)
      intro message hm
      exact (readAsClose_eq_false_iff message).mpr (h message hm)
    rcases hreport with ⟨hbefore, hafter⟩ | hdisc
    · rw [hr.of_staysConnected hstays, hbefore] at hafter
      cases hafter
    · obtain ⟨result, hres, hclose⟩ := hr.disconnected_iff.mp hdisc
      have hno := hstays result hres
      rw [closes_iff.mp hclose] at hno
      cases hno

-- A text message in three frames, the second of which is empty.
def hollowMessage : DataMessage := ⟨.text, ⟨[], [0x5b]⟩, [⟨[], []⟩, ⟨[], [0x5d]⟩]⟩

-- The first call stops at the empty frame.
theorem hollowMessage_disconnects : ¬∀ calls, ∀ step ∈ receiveSteps calls startedClient
    (stream [hollowMessage]), ¬step.ReportsDisconnect := by
  intro h
  exact h 1 _ List.mem_cons_self (Or.inr rfl)

-- Empty first and last frames are no harm.
def edgeMessages : List DataMessage :=
  [⟨.text, ⟨[], []⟩, [⟨[], [0x5b]⟩, ⟨[], []⟩]⟩, ⟨.binary, ⟨["Timeout"], []⟩, []⟩]

theorem disconnect_reported_iff_edge : (∀ message ∈ edgeMessages, FilledContinuations message) ∧
    ∀ calls, ∀ step ∈ receiveSteps calls startedClient (stream edgeMessages),
      ¬step.ReportsDisconnect := by
  have hfilled : ∀ message ∈ edgeMessages, FilledContinuations message := by decide
  exact ⟨hfilled, (@disconnect_reported_iff startedClient _ rfl edgeMessages).mpr hfilled⟩

end HttpsWebsocketClient

end Rito

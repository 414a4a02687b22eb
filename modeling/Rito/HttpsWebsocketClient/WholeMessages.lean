import Rito.HttpsWebsocketClient.Messages

namespace Rito

namespace HttpsWebsocketClient

open FrameResult

variable {client : HttpsWebsocketClient} {socket : WebSocket} {calls : Nat} {call : ReceiveCall}
  {buffer : Bytes} {message : DataMessage} {messages : List DataMessage} {fragment : Fragment}
  {after : List FrameResult}

-- The call took the frames of one message off the transport, all of them and
-- nothing else, and returned their payload.
def ReceiveCall.Whole (messages : List DataMessage) (call : ReceiveCall) : Prop :=
  ∀ buffer, call.result = .ok buffer →
    ∃ message ∈ messages, call.consumed = message.frames ∧ buffer = message.payload

-- Every timeout in front of a frame ends a call of its own.
theorem returning_after_waits (hw : client.websocket = some socket) (hc : client.connected = true)
    (hm : call ∈ receiveCalls calls client (fragment.waits ++ after))
    (hok : call.result = .ok buffer) : ∃ calls, call ∈ receiveCalls calls client after := by
  obtain ⟨timeouts, payload⟩ := fragment
  unfold Fragment.waits at hm
  induction timeouts generalizing calls with
  | nil => exact ⟨calls, hm⟩
  | cons what timeouts ih =>
      cases calls with
      | zero => cases hm
      | succ calls =>
          rw [List.map_cons, List.cons_append, receiveCalls_timeout hw hc] at hm
          rcases List.mem_cons.mp hm with rfl | hm
          · cases hok
          · exact ih hm

-- A call that returns on an intact message takes it whole, or comes after it.
theorem returning_on_intact (hw : client.websocket = some socket) (hc : client.connected = true)
    (hi : message.Intact) (hclose : message.readAsClose = false)
    (hm : call ∈ receiveCalls calls client (message.results ++ after))
    (hok : call.result = .ok buffer) :
    (call.consumed = message.frames ∧ buffer = message.payload) ∨
      ∃ calls, call ∈ receiveCalls calls client after := by
  obtain ⟨hlen, htimeouts⟩ := hi
  have hresults : message.results = message.first.waits ++ message.frames :=
    fragmentResults_of_intact htimeouts
  rw [hresults, List.append_assoc] at hm
  obtain ⟨calls, hm⟩ := returning_after_waits hw hc hm hok
  obtain ⟨before, last, hsplit, hl, hb⟩ := message.results_split
  -- the frames are those of the results, so the last one alone is final
  have hframes : message.frames = before.filter isFrame ++ [last] := by
    have hframe : last.isFrame = true := by
      cases last with
      | frame flags payload => rfl
      | throws exception => cases hl
    rw [DataMessage.frames, hsplit, List.filter_append, List.filter_cons, if_pos hframe]
    rfl
  have hf : ∀ frame ∈ before.filter isFrame, frame.continues = true := by
    intro frame hin
    obtain ⟨hin, hframe⟩ := List.mem_filter.mp hin
    have hopen : frame.closes = false := by
      have hall : ∀ result ∈ message.results, result.closes = false := by
        simpa [DataMessage.readAsClose] using hclose
      exact hall frame (by simp [hsplit, hin])
    simp [continues, hframe, hopen, (hb frame hin).1]
  have hcount : (before.filter isFrame).length < maxFramesPerMessage := by
    have hn := message.length_frames
    rw [hframes, List.length_append, List.length_singleton] at hn
    omega
  cases calls with
  | zero => cases hm
  | succ calls =>
      rw [hframes, List.append_assoc, List.singleton_append,
        receiveCalls_final hw hc hf hcount hl] at hm
      rcases List.mem_cons.mp hm with rfl | hm
      · left
        refine ⟨hframes.symm, ?_⟩
        have hpayload := message.payload_frames
        rw [hframes, List.flatMap_append, List.flatMap_singleton] at hpayload
        cases hok
        exact hpayload
      · exact Or.inr ⟨calls, hm⟩

-- Nothing is returned of a message that is read as a close, nor after it.
theorem not_returning_on_readAsClose (hw : client.websocket = some socket)
    (hclose : message.readAsClose = true)
    (hm : call ∈ receiveCalls calls client (message.results ++ after)) (buffer : Bytes) :
    call.result ≠ .ok buffer := by
  obtain ⟨before, last, hsplit, hl, hb⟩ := message.results_split
  obtain ⟨stop, hin, hs⟩ := List.any_eq_true.mp hclose
  have hbefore : stop ∈ before := by
    rw [hsplit] at hin
    rcases List.mem_append.mp hin with hin | hin
    · exact hin
    · obtain rfl := List.mem_singleton.mp hin
      rw [not_isFinal_of_closes hs] at hl
      cases hl
  obtain ⟨early, late, rfl⟩ := List.append_of_mem hbefore
  rw [hsplit, List.append_assoc, List.append_assoc, List.cons_append] at hm
  exact not_returning_before_close hw (fun result hr => (hb result (List.mem_append_left _ hr)).1)
    hs hm buffer

theorem whole_of_intact (hw : client.websocket = some socket) (hc : client.connected = true)
    (hi : ∀ message ∈ beforeClose messages, message.Intact)
    (hm : call ∈ receiveCalls calls client (stream messages)) : call.Whole messages := by
  intro buffer hok
  induction messages generalizing calls with
  | nil =>
      cases calls with
      | zero => cases hm
      | succ calls => simp [stream, receiveCalls, receiveMessage, hw, receiveFrames,
          maxFramesPerMessage] at hm
  | cons message messages ih =>
      rw [stream, List.flatMap_cons] at hm
      cases hclose : message.readAsClose with
      | true => exact absurd hok (not_returning_on_readAsClose hw hclose hm buffer)
      | false =>
          simp only [beforeClose, List.takeWhile_cons, hclose, Bool.not_false, ite_true, List.mem_cons,
            forall_eq_or_imp] at hi
          rcases returning_on_intact hw hc hi.1 hclose hm hok with ⟨hcons, hbuf⟩ | ⟨calls, hm⟩
          · exact ⟨message, List.mem_cons_self, hcons, hbuf⟩
          · obtain ⟨whole, hin, hcons, hbuf⟩ := ih hi.2 hm
            exact ⟨whole, List.mem_cons_of_mem _ hin, hcons, hbuf⟩

-- The frames a call returned on that reach back into an earlier message would
-- contain its final frame.
theorem frames_within {earlier skipped frames before : List FrameResult}
    (he : earlier = [] ∨ ∃ before last, earlier = before ++ [last] ∧ last.isFinal = true)
    (h : earlier ++ before = skipped ++ frames)
    (hf : ∀ frame ∈ frames, frame.continues = true) : ∃ ahead, before = ahead ++ frames := by
  rcases List.append_eq_append_iff.mp h with ⟨ahead, -, hb⟩ | ⟨back, hearlier, rfl⟩
  · exact ⟨ahead, hb⟩
  · rcases List.eq_nil_or_concat back with rfl | ⟨front, final, rfl⟩
    · exact ⟨[], rfl⟩
    · rcases he with rfl | ⟨first, last, rfl, hl⟩
      · simp at hearlier
      · have hlast : last = final := by
          rw [List.concat_eq_append, ← List.append_assoc] at hearlier
          exact (List.append_singleton_inj.mp hearlier).2
        have hc := hf final (by simp)
        rw [← hlast] at hc
        simp [continues, hl] at hc

-- A message whose last frame ends a call that took exactly the frames of a
-- message is intact: the call began at its first frame.
theorem intact_of_frames {whole : DataMessage} {ahead frames : List FrameResult}
    {last : FrameResult} (hresults : message.results = ahead ++ (frames ++ [last]))
    (hlen : frames.length < maxFramesPerMessage) (hwhole : frames ++ [last] = whole.frames) :
    message.Intact := by
  obtain ⟨first, tail, hmessage, hb, hframe, hlater, htimeouts⟩ := message.results_cons
  obtain ⟨start, rest, hstart, hbegins⟩ := whole.frames_cons
  have hall : ∀ result ∈ start :: rest, result.isFrame = true := by
    intro result hm
    rw [← hstart, DataMessage.frames] at hm
    exact (List.mem_filter.mp hm).2
  have hsplit : ahead ++ start :: rest = message.first.waits ++ first :: tail := by
    rw [← hmessage, hresults, hwhole, hstart]
  rcases consumed_split hsplit with ⟨skipped, rfl, hrest⟩ | ⟨taken, hwaits, -⟩
  · cases skipped with
    | nil =>
        obtain ⟨rfl, rfl⟩ := List.cons.inj hrest
        refine ⟨?_, htimeouts fun result hm => hall result (List.mem_cons_of_mem _ hm)⟩
        have hframes : message.frames = first :: tail := by
          rw [DataMessage.frames, hmessage, List.filter_append, filter_waits, List.nil_append]
          exact List.filter_eq_self.mpr hall
        have hcount := message.length_frames
        rw [hframes, ← hstart, ← hwhole, List.length_append, List.length_singleton] at hcount
        omega
    | cons other skipped =>
        obtain ⟨-, htail⟩ := List.cons.inj hrest
        rw [hlater start (by simp [htail])] at hbegins
        cases hbegins
  · have hin : start ∈ message.first.waits := by simp [hwaits]
    obtain ⟨-, -, -, -, hno⟩ := Fragment.mem_waits hin
    rw [hno] at hbegins
    cases hbegins

theorem intact_of_whole (hw : client.websocket = some socket) (hc : client.connected = true)
    (h : ∀ calls, ∀ call ∈ receiveCalls calls client (stream messages), call.Whole messages)
    (hm : message ∈ beforeClose messages) :
    message.Intact := by
  obtain ⟨earlier, later, he⟩ := List.append_of_mem hm
  obtain ⟨rest, hmessages⟩ : ∃ rest, messages = earlier ++ message :: rest := by
    refine ⟨later ++ messages.dropWhile fun message => !message.readAsClose, ?_⟩
    rw [← List.cons_append, ← List.append_assoc, ← he, beforeClose,
      List.takeWhile_append_dropWhile]
  obtain ⟨before, last, hsplit, hl, hb⟩ := message.results_split
  have hstream : stream messages = (stream earlier ++ before) ++ last ::
      stream rest := by
    rw [hmessages]
    simp [stream, hsplit]
  have hquiet : ∀ result ∈ stream earlier ++ before, result.staysConnected = true := by
    intro result hr
    rcases List.mem_append.mp hr with hr | hr
    · have hopen : ∀ message ∈ earlier, message.readAsClose = false := by
        intro message hin
        have hread : message ∈ beforeClose messages := by simp [he, hin]
        exact readAsClose_of_mem hread
      exact staysConnected_of_stream hopen result hr
    · exact message.staysConnected_of_mem (readAsClose_of_mem hm) (by simp [hsplit, hr])
  obtain ⟨calls, skipped, frames, hframes, hf, hlen, hcall⟩ :=
    exists_returning_call hw hc hquiet hl
  rw [← hstream] at hcall
  obtain ⟨whole, -, hwhole, -⟩ := h calls _ hcall _ rfl
  obtain ⟨ahead, rfl⟩ := frames_within (stream_eq earlier) hframes hf
  exact intact_of_frames (by rw [hsplit, List.append_assoc]) hlen hwhole

-- Whatever the calls, only whole messages are returned, if and only if every
-- message that comes before one read as a close is intact.
theorem whole_messages_iff (hw : client.websocket = some socket) (hc : client.connected = true)
    (messages : List DataMessage) :
    (∀ calls, ∀ call ∈ receiveCalls calls client (stream messages), call.Whole messages) ↔
      ∀ message ∈ beforeClose messages, message.Intact :=
  ⟨fun h _ hm => intact_of_whole hw hc h hm, fun hi _ _ hm => whole_of_intact hw hc hi hm⟩

-- One text message in two frames, and a timeout between them.
def cutMessage : DataMessage := ⟨.text, ⟨[], [0x5b]⟩, [⟨["Timeout"], [0x5d]⟩]⟩

-- The second call returns the second frame alone.
theorem cutMessage_tail : ¬∀ calls, ∀ call ∈ receiveCalls calls startedClient (stream [cutMessage]),
    ∀ buffer, call.result = .ok buffer → ∃ message ∈ [cutMessage], buffer = message.payload := by
  intro h
  obtain ⟨message, hm, he⟩ := h 2 _ (List.mem_cons_of_mem _ List.mem_cons_self) [0x5d] rfl
  obtain rfl := List.mem_singleton.mp hm
  exact absurd he (by decide)

-- Timeouts in front of messages, and a message in three frames.
def promptMessages : List DataMessage :=
  [⟨.text, ⟨["Timeout"], [0x5b]⟩, [⟨[], [0x38]⟩, ⟨[], [0x5d]⟩]⟩,
    ⟨.binary, ⟨["Timeout", "Timeout"], []⟩, []⟩]

theorem whole_messages_iff_prompt : beforeClose promptMessages = promptMessages ∧
    ∀ calls, ∀ call ∈ receiveCalls calls startedClient (stream promptMessages),
      call.Whole promptMessages :=
  ⟨rfl, (whole_messages_iff rfl rfl promptMessages).mpr (by decide)⟩

end HttpsWebsocketClient

end Rito

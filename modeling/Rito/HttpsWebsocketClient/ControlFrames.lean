import Rito.HttpsWebsocketClient.Messages

namespace Rito

-- A PING or PONG frame: FIN set, one of the two opcodes, at most 125 bytes.
def FrameResult.isControl : FrameResult → Bool
  | .frame flags payload =>
      (flags = frameFlagFin ||| 0x9 ∨ flags = frameFlagFin ||| 0xa) ∧ payload.length ≤ 125
  | .throws _ => false

-- The messages in a sequence of frames, read up to the first one taken for a
-- close: each ends at a final frame, however many frames it has.
def reassemble : Bytes → List FrameResult → List Bytes
  | _, [] => []
  | buffer, result :: rest =>
      if result.closes then []
      else if result.isFinal then (buffer ++ result.payload) :: reassemble [] rest
      else reassemble (buffer ++ result.payload) rest

-- Frames only, and no call that has `left` iterations to go runs out of them.
def fits : Nat → List FrameResult → Bool
  | _, [] => true
  | left, result :: rest => result.isFrame && (result.closes ||
      if result.isFinal then fits maxFramesPerMessage rest
      else 1 < left && fits (left - 1) rest)

-- What is read before the first frame taken for a close.
def untilClose (transport : List FrameResult) : List FrameResult :=
  transport.takeWhile fun result => !result.closes

open FrameResult

variable {left more : Nat} {buffer : Bytes} {transport after : List FrameResult}
  {result : FrameResult} {fragment : Fragment} {rest : List Fragment} {opcode : Nat}
  {messages : List DataMessage}

theorem FrameResult.of_isControl (h : result.isControl = true) :
    result.isFrame = true ∧ result.closes = false ∧ result.isFinal = true := by
  cases result with
  | throws exception => cases h
  | frame flags payload =>
      have hflags : flags = frameFlagFin ||| 0x9 ∨ flags = frameFlagFin ||| 0xa := by
        simp only [isControl, decide_eq_true_eq] at h
        exact h.1
      rcases hflags with rfl | rfl <;> simp [isFrame, closes, isFinal, frameFlagFin]

-- A sequence fits if its frames but the first do so in the call that reads on.
theorem fits_cons_imp {frames other : List FrameResult}
    (hnext : fits maxFramesPerMessage frames = true → fits maxFramesPerMessage other = true)
    (hsame : 1 < left → fits (left - 1) frames = true →
      1 < more ∧ fits (more - 1) other = true)
    (hf : fits left (result :: frames) = true) : fits more (result :: other) = true := by
  simp only [fits, Bool.and_eq_true, Bool.or_eq_true] at hf ⊢
  refine ⟨hf.1, ?_⟩
  rcases hf.2 with hclose | hgo
  · exact Or.inl hclose
  · by_cases hfin : result.isFinal = true
    · rw [if_pos hfin] at hgo ⊢
      exact Or.inr (hnext hgo)
    · rw [if_neg hfin, Bool.and_eq_true, decide_eq_true_eq] at hgo ⊢
      exact Or.inr (hsame hgo.1 hgo.2)

theorem fits_mono (h : left ≤ more) (hf : fits left transport = true) :
    fits more transport = true := by
  induction transport generalizing left more with
  | nil => rfl
  | cons result rest ih =>
      refine fits_cons_imp id (fun hleft hrest => ?_) hf
      have hlt : 1 < more := by omega
      have hle : left - 1 ≤ more - 1 := by omega
      exact ⟨hlt, ih hle hrest⟩

-- A control frame ends a call early, so it never makes one run out.
theorem fits_of_filter (hl : left ≤ maxFramesPerMessage)
    (hf : fits left (transport.filter fun result => !result.isControl) = true) :
    fits left transport = true := by
  induction transport generalizing left with
  | nil => rfl
  | cons result rest ih =>
      by_cases hcontrol : result.isControl = true
      · obtain ⟨hframe, hopen, hfin⟩ := of_isControl hcontrol
        rw [List.filter_cons, if_neg (by simp [hcontrol])] at hf
        have hrest := ih (Nat.le_refl _) (fits_mono hl hf)
        simp [fits, hframe, hfin, hrest]
      · rw [List.filter_cons, if_pos (by simp [hcontrol])] at hf
        refine fits_cons_imp (ih (Nat.le_refl _)) (fun hleft hrest => ?_) hf
        have hle : left - 1 ≤ maxFramesPerMessage := by omega
        exact ⟨hleft, ih hle hrest⟩

theorem fits_fragmentResults (ho : opcode ≤ 2) (hn : rest.length + 1 ≤ left)
    (ht : ∀ later ∈ fragment :: rest, later.timeouts = [])
    (ha : fits maxFramesPerMessage after = true) :
    fits left (fragmentResults opcode fragment rest ++ after) = true := by
  induction rest generalizing opcode fragment left with
  | nil =>
      have hwaits : fragment.waits = [] := by simp [Fragment.waits, ht fragment]
      simp [fragmentResults, hwaits, fits, isFinal_fin ho, ha]
  | cons next rest ih =>
      have hwaits : fragment.waits = [] := by simp [Fragment.waits, ht fragment]
      rw [List.length_cons] at hn
      have hlt : 1 < left := by omega
      have hrest : fits (left - 1) (fragmentResults 0 next rest ++ after) = true :=
        ih (by omega) (by omega) fun later hm => ht later (List.mem_cons_of_mem _ hm)
      simp [fragmentResults, hwaits, fits, isFinal_opcode ho, hlt, hrest]

-- Conforming data messages, each in few enough frames.
theorem fits_stream (hd : ∀ message ∈ messages, message.Intact ∧ message.first.timeouts = []) :
    fits maxFramesPerMessage (stream messages) = true := by
  induction messages with
  | nil => rfl
  | cons message messages ih =>
      have hrest := ih fun message hm => hd message (List.mem_cons_of_mem _ hm)
      obtain ⟨⟨hlen, htimeouts⟩, hfirst⟩ := hd message List.mem_cons_self
      refine fits_fragmentResults message.opcode.value_le hlen ?_ hrest
      intro later hm
      rcases List.mem_cons.mp hm with rfl | hm
      · exact hfirst
      · exact htimeouts later hm

theorem untilClose_cons (h : ¬result.closes = true) :
    untilClose (result :: transport) = result :: untilClose transport := by
  rw [untilClose, List.takeWhile_cons, if_pos (by simpa using h), untilClose]

theorem reassemble_untilClose (buffer : Bytes) (transport : List FrameResult) :
    reassemble buffer (untilClose transport) = reassemble buffer transport := by
  induction transport generalizing buffer with
  | nil => rfl
  | cons result rest ih =>
      by_cases hclose : result.closes = true
      · simp [untilClose, reassemble, hclose]
      · simp only [untilClose_cons hclose, reassemble, ih]

theorem length_reassemble (buffer : Bytes) (transport : List FrameResult) :
    (reassemble buffer transport).length = (untilClose transport).countP isFinal := by
  induction transport generalizing buffer with
  | nil => rfl
  | cons result rest ih =>
      by_cases hclose : result.closes = true
      · simp [untilClose, reassemble, hclose]
      · rw [untilClose_cons hclose, List.countP_cons, reassemble, if_neg hclose]
        by_cases hfin : result.isFinal = true
        · simp only [if_pos hfin, List.length_cons, ih]
        · simp only [if_neg hfin, ih, Nat.add_zero]

theorem untilClose_filter (transport : List FrameResult) :
    untilClose (transport.filter fun result => !result.isControl) =
      (untilClose transport).filter fun result => !result.isControl := by
  induction transport with
  | nil => rfl
  | cons result rest ih =>
      by_cases hcontrol : result.isControl = true
      · have hopen : ¬result.closes = true := by simp [of_isControl hcontrol]
        rw [untilClose_cons hopen, List.filter_cons, List.filter_cons,
          if_neg (by simp [hcontrol]), if_neg (by simp [hcontrol]), ih]
      · have hkeep : (!result.isControl) = true := by simpa using hcontrol
        by_cases hclose : result.closes = true
        · simp [untilClose, hkeep, hclose]
        · rw [untilClose_cons hclose, List.filter_cons, List.filter_cons, if_pos hkeep,
            if_pos hkeep, untilClose_cons hclose, ih]

-- Every control frame is one more final frame.
theorem countP_isFinal (transport : List FrameResult) :
    transport.countP isFinal = (transport.filter fun result => !result.isControl).countP isFinal +
      transport.countP isControl := by
  induction transport with
  | nil => rfl
  | cons result rest ih =>
      by_cases hcontrol : result.isControl = true
      · obtain ⟨-, -, hfin⟩ := of_isControl hcontrol
        rw [List.filter_cons, if_neg (by simp [hcontrol]), List.countP_cons, List.countP_cons,
          if_pos hfin, if_pos hcontrol, ih]
        omega
      · rw [List.filter_cons, if_pos (by simpa using hcontrol), List.countP_cons,
          List.countP_cons, List.countP_cons, if_neg hcontrol, ih]
        omega

namespace HttpsWebsocketClient

variable {client : HttpsWebsocketClient} {socket : WebSocket} {calls : Nat}

-- One call delivers the next reassembled message, or reads a close, or waits.
theorem receiveFrames_fits (buffer : Bytes) (hpos : 0 < left) (hf : fits left transport = true) :
    (receiveFrames left buffer transport = none ∧ reassemble buffer transport = []) ∨
      (∃ message rest, receiveFrames left buffer transport = some (.ok message, false, rest) ∧
        reassemble buffer transport = message :: reassemble [] rest ∧
        fits maxFramesPerMessage rest = true ∧ rest.length < transport.length) ∨
      ∃ exception rest, receiveFrames left buffer transport =
        some (.error (.rito exception), true, rest) ∧ reassemble buffer transport = [] := by
  induction transport generalizing left buffer with
  | nil =>
      obtain ⟨left, rfl⟩ : ∃ n, left = n + 1 := ⟨left - 1, by omega⟩
      exact Or.inl ⟨rfl, rfl⟩
  | cons result rest ih =>
      simp only [fits, Bool.and_eq_true, Bool.or_eq_true] at hf
      by_cases hclose : result.closes = true
      · obtain rfl := closes_iff.mp hclose
        obtain ⟨left, rfl⟩ : ∃ n, left = n + 1 := ⟨left - 1, by omega⟩
        exact Or.inr (Or.inr ⟨_, _, rfl, rfl⟩)
      · have hgo := hf.2.resolve_left hclose
        by_cases hfin : result.isFinal = true
        · rw [if_pos hfin] at hgo
          obtain ⟨left, rfl⟩ : ∃ n, left = n + 1 := ⟨left - 1, by omega⟩
          refine Or.inr (Or.inl ⟨_, rest, receiveFrames_final hfin, ?_, hgo, by simp⟩)
          rw [reassemble, if_neg hclose, if_pos hfin]
        · rw [if_neg hfin, Bool.and_eq_true, decide_eq_true_eq] at hgo
          have hcont : result.continues = true := by simp [continues, hf.1, hclose, hfin]
          have hstep : receiveFrames left buffer ([result] ++ rest) = _ :=
            receiveFrames_append (by simpa using hcont) hpos
          rw [List.singleton_append, List.length_singleton, List.flatMap_singleton] at hstep
          have hre : reassemble buffer (result :: rest) =
              reassemble (buffer ++ result.payload) rest := by
            rw [reassemble, if_neg hclose, if_neg hfin]
          rw [hstep, hre]
          rcases ih _ (by omega) hgo.2 with hnone | ⟨message, tail, hr, hre, hfits, hlen⟩ | hclosed
          · exact Or.inl hnone
          · exact Or.inr (Or.inl ⟨message, tail, hr, hre, hfits, by simp; omega⟩)
          · exact Or.inr (Or.inr hclosed)

-- The buffers that calls made one after the other return.
def returned (calls : List ReceiveCall) : List Bytes :=
  calls.filterMap fun call => call.result.toOption

@[simp] theorem returned_nil : returned [] = [] := rfl

@[simp] theorem returned_ok (consumed : List FrameResult) (message : Bytes)
    (calls : List ReceiveCall) :
    returned (⟨consumed, .ok message⟩ :: calls) = message :: returned calls := rfl

@[simp] theorem returned_error (consumed : List FrameResult) (exception : Exception)
    (calls : List ReceiveCall) :
    returned (⟨consumed, .error exception⟩ :: calls) = returned calls := rfl

-- Every call takes a result off the transport, so this many calls read all of it.
def delivered (client : HttpsWebsocketClient) (transport : List FrameResult) : List Bytes :=
  returned (receiveCalls transport.length client transport)

theorem returned_receiveCalls (hw : client.websocket = some socket)
    (hc : client.connected = true) (hf : fits maxFramesPerMessage transport = true)
    (hn : transport.length ≤ calls) :
    returned (receiveCalls calls client transport) = reassemble [] transport := by
  induction calls generalizing transport with
  | zero =>
      obtain rfl := List.length_eq_zero_iff.mp (Nat.le_zero.mp hn)
      rfl
  | succ calls ih =>
      rcases receiveFrames_fits [] (by decide) hf with
        ⟨hr, hre⟩ | ⟨message, rest, hr, hre, hrest, hlen⟩ | ⟨exception, rest, hr, hre⟩
      · simp [receiveCalls, isConnected, hc, receiveMessage, hw, hr, hre]
      · have hnext := ih hrest (by omega)
        simp [receiveCalls, isConnected, hc, receiveMessage, hw, hr, hre, hnext]
      · simp [receiveCalls, isConnected, hc, receiveMessage, hw, hr, hre,
          receiveCalls_of_disconnected]

theorem delivered_eq_reassemble (hw : client.websocket = some socket)
    (hc : client.connected = true) (hf : fits maxFramesPerMessage transport = true) :
    delivered client transport = reassemble [] transport :=
  returned_receiveCalls hw hc hf (Nat.le_refl _)

-- Inserting control frames into conforming data messages leaves what is
-- delivered as it was if and only if none stands before the first frame that is
-- taken for a close.
theorem delivered_eq_iff (hw : client.websocket = some socket) (hc : client.connected = true)
    (hd : ∀ message ∈ messages, message.Intact ∧ message.first.timeouts = [])
    (hcontrol : transport.filter (fun result => !result.isControl) = stream messages) :
    delivered client transport = delivered client (stream messages) ↔
      ∀ result ∈ untilClose transport, result.isControl = false := by
  have hfits := fits_stream hd
  have hfitsF : fits maxFramesPerMessage transport = true := by
    apply fits_of_filter (Nat.le_refl _)
    rw [hcontrol]
    exact hfits
  rw [delivered_eq_reassemble hw hc hfitsF, delivered_eq_reassemble hw hc hfits, ← hcontrol]
  constructor
  · intro h
    have hlen := congrArg List.length h
    rw [length_reassemble, length_reassemble, untilClose_filter, countP_isFinal] at hlen
    have hzero : (untilClose transport).countP isControl = 0 := by omega
    simpa using List.countP_eq_zero.mp hzero
  · intro h
    have hsame : (untilClose transport).filter (fun result => !result.isControl) =
        untilClose transport := by
      apply List.filter_eq_self.mpr
      intro result hm
      simp [h result hm]
    rw [← reassemble_untilClose, ← reassemble_untilClose [] (transport.filter _),
      untilClose_filter, hsame]

-- A text message in two frames, "[]", and the same with an empty PING between them.
def twoFrames : DataMessage := ⟨.text, ⟨[], [0x5b]⟩, [⟨[], [0x5d]⟩]⟩

def pinged : List FrameResult := [.frame 0x1 [0x5b], .frame 0x89 [], .frame 0x80 [0x5d]]

-- The PING ends the message, and its second frame is a message of its own.
theorem delivered_pinged :
    pinged.filter (fun result => !result.isControl) = stream [twoFrames] ∧
      delivered startedClient pinged = [[0x5b], [0x5d]] ∧
      delivered startedClient pinged ≠ delivered startedClient (stream [twoFrames]) :=
  ⟨rfl, rfl, by decide⟩

-- A message, one with an empty frame in the middle, and a PONG after that frame.
def tornMessages : List DataMessage :=
  [twoFrames, ⟨.binary, ⟨[], [0x01]⟩, [⟨[], []⟩, ⟨[], [0x02]⟩]⟩]

def tornWithPong : List FrameResult :=
  stream [twoFrames] ++ [.frame 0x2 [0x01], .frame 0x0 [], .frame 0x8a [0xff], .frame 0x80 [0x02]]

theorem delivered_eq_iff_torn :
    delivered startedClient tornWithPong = delivered startedClient (stream tornMessages) :=
  (delivered_eq_iff rfl rfl (by decide) (rfl : tornWithPong.filter _ = stream tornMessages)).mpr
    (by decide)

end HttpsWebsocketClient

end Rito

import Rito.HttpsWebsocketClient.Calls

namespace Rito

inductive DataOpcode where
  | text
  | binary
  deriving DecidableEq, Repr

def DataOpcode.value : DataOpcode → Nat
  | .text => 0x1
  | .binary => 0x2

-- The part of a message one frame carries, and what() of every timeout that
-- receiveFrame throws before the frame comes.
structure Fragment where
  timeouts : List String
  payload : Bytes
  deriving DecidableEq, Repr

def Fragment.waits (fragment : Fragment) : List FrameResult :=
  fragment.timeouts.map fun what => .throws (.timeout what)

-- What receiveFrame yields for a fragment and those after it. The frames after
-- the first are continuation frames, the last one carries the FIN bit.
def fragmentResults (opcode : Nat) : Fragment → List Fragment → List FrameResult
  | fragment, [] => fragment.waits ++ [.frame (frameFlagFin ||| opcode) fragment.payload]
  | fragment, next :: rest =>
      fragment.waits ++ .frame opcode fragment.payload :: fragmentResults 0 next rest

-- A data message, split into one frame or more.
structure DataMessage where
  opcode : DataOpcode
  first : Fragment
  rest : List Fragment
  deriving DecidableEq, Repr

namespace DataMessage

def results (message : DataMessage) : List FrameResult :=
  fragmentResults message.opcode.value message.first message.rest

def frames (message : DataMessage) : List FrameResult :=
  message.results.filter FrameResult.isFrame

def payload (message : DataMessage) : Bytes :=
  message.first.payload ++ message.rest.flatMap Fragment.payload

-- One of the frames is empty, has no FIN bit and is a continuation frame.
def readAsClose (message : DataMessage) : Bool := message.results.any FrameResult.closes

-- Few enough frames, and no timeout between two of them.
def Intact (message : DataMessage) : Prop :=
  message.rest.length + 1 ≤ maxFramesPerMessage ∧
    ∀ fragment ∈ message.rest, fragment.timeouts = []

instance (message : DataMessage) : Decidable message.Intact :=
  inferInstanceAs (Decidable (_ ∧ _))

end DataMessage

def stream (messages : List DataMessage) : List FrameResult :=
  messages.flatMap DataMessage.results

-- The messages that come before one read as a close.
def beforeClose (messages : List DataMessage) : List DataMessage :=
  messages.takeWhile fun message => !message.readAsClose

-- The frames that begin a data message: they have an opcode of their own.
def FrameResult.begins : FrameResult → Bool
  | .frame flags _ => flags &&& 0xf ≠ 0
  | .throws _ => false

open FrameResult

variable {opcode : Nat} {fragment : Fragment} {rest : List Fragment} {message : DataMessage}
  {messages : List DataMessage} {result : FrameResult}

theorem DataOpcode.value_le (opcode : DataOpcode) : opcode.value ≤ 2 := by
  cases opcode <;> decide

theorem Fragment.mem_waits (h : result ∈ fragment.waits) :
    result.isFinal = false ∧ result.closes = false ∧ result.staysConnected = true ∧
      result.isFrame = false ∧ result.begins = false := by
  obtain ⟨what, -, rfl⟩ := List.mem_map.mp h
  exact ⟨rfl, rfl, rfl, rfl, rfl⟩

theorem begins_opcode (opcode : DataOpcode) (payload : Bytes) :
    (FrameResult.frame opcode.value payload).begins = true ∧
      (FrameResult.frame (frameFlagFin ||| opcode.value) payload).begins = true := by
  cases opcode <;> exact ⟨rfl, rfl⟩

theorem isFinal_fin {payload : Bytes} (ho : opcode ≤ 2) :
    (FrameResult.frame (frameFlagFin ||| opcode) payload).isFinal = true := by
  obtain rfl | rfl | rfl : opcode = 0 ∨ opcode = 1 ∨ opcode = 2 := by omega
  all_goals rfl

theorem isFinal_opcode {payload : Bytes} (ho : opcode ≤ 2) :
    (FrameResult.frame opcode payload).isFinal = false := by
  obtain rfl | rfl | rfl : opcode = 0 ∨ opcode = 1 ∨ opcode = 2 := by omega
  all_goals rfl

-- A message ends with its only final frame.
theorem fragmentResults_split (ho : opcode ≤ 2) :
    ∃ before last, fragmentResults opcode fragment rest = before ++ [last] ∧
      last.isFinal = true ∧ ∀ result ∈ before, result.isFinal = false ∧
        (result.closes = false → result.staysConnected = true) := by
  induction rest generalizing opcode fragment with
  | nil =>
      refine ⟨fragment.waits, _, rfl, isFinal_fin ho, fun result hm => ?_⟩
      obtain ⟨hfin, -, hstays, -⟩ := Fragment.mem_waits hm
      exact ⟨hfin, fun _ => hstays⟩
  | cons next rest ih =>
      obtain ⟨before, last, he, hl, hb⟩ := @ih 0 next (by omega)
      refine ⟨fragment.waits ++ .frame opcode fragment.payload :: before, last, ?_, hl, ?_⟩
      · simp [fragmentResults, he]
      · intro result hm
        rcases List.mem_append.mp hm with hm | hm
        · obtain ⟨hfin, -, hstays, -⟩ := Fragment.mem_waits hm
          exact ⟨hfin, fun _ => hstays⟩
        · rcases List.mem_cons.mp hm with rfl | hm
          · exact ⟨isFinal_opcode ho, fun hclose => by simp [staysConnected, hclose]⟩
          · exact hb result hm

-- Only the first frame of a message begins one.
theorem not_begins_of_mem (h : result ∈ fragmentResults 0 fragment rest) :
    result.begins = false := by
  induction rest generalizing fragment with
  | nil =>
      rcases List.mem_append.mp h with hm | hm
      · obtain ⟨-, -, -, -, hb⟩ := Fragment.mem_waits hm
        exact hb
      · obtain rfl := List.mem_singleton.mp hm
        rfl
  | cons next rest ih =>
      rcases List.mem_append.mp h with hm | hm
      · obtain ⟨-, -, -, -, hb⟩ := Fragment.mem_waits hm
        exact hb
      · rcases List.mem_cons.mp hm with rfl | hm
        · rfl
        · exact ih hm

theorem filter_waits (fragment : Fragment) : fragment.waits.filter isFrame = [] := by
  apply List.filter_eq_nil_iff.mpr
  intro result hm
  obtain ⟨-, -, -, hframe, -⟩ := Fragment.mem_waits hm
  simp [hframe]

theorem length_filter_isFrame (opcode : Nat) (fragment : Fragment) (rest : List Fragment) :
    ((fragmentResults opcode fragment rest).filter isFrame).length = rest.length + 1 := by
  induction rest generalizing opcode fragment with
  | nil => simp [fragmentResults, filter_waits, List.filter_cons]
  | cons next rest ih =>
      have hn := ih 0 next
      simp only [fragmentResults, List.filter_append, filter_waits, List.nil_append,
        List.filter_cons, isFrame_frame, ite_true, List.length_cons, hn]

theorem flatMap_filter_isFrame (opcode : Nat) (fragment : Fragment) (rest : List Fragment) :
    ((fragmentResults opcode fragment rest).filter isFrame).flatMap payload =
      fragment.payload ++ rest.flatMap Fragment.payload := by
  induction rest generalizing opcode fragment with
  | nil => simp [fragmentResults, filter_waits, List.filter_cons]
  | cons next rest ih =>
      have hn := ih 0 next
      simp only [fragmentResults, List.filter_append, filter_waits, List.nil_append,
        List.filter_cons, isFrame_frame, ite_true, List.flatMap_cons, payload_frame, hn]

-- Without timeouts between them the frames of a message come one after the other.
theorem fragmentResults_of_intact (h : ∀ fragment ∈ rest, fragment.timeouts = []) :
    fragmentResults opcode fragment rest =
      fragment.waits ++ (fragmentResults opcode fragment rest).filter isFrame := by
  induction rest generalizing opcode fragment with
  | nil => simp [fragmentResults, filter_waits, List.filter_cons]
  | cons next rest ih =>
      have hnext : next.waits = [] := by simp [Fragment.waits, h next List.mem_cons_self]
      have hr := @ih 0 next fun fragment hm => h fragment (List.mem_cons_of_mem _ hm)
      rw [hnext, List.nil_append] at hr
      simp only [fragmentResults, List.filter_append, filter_waits, List.nil_append,
        List.filter_cons, isFrame_frame, ite_true, ← hr]

-- A message is intact when every result after its first frame is a frame.
theorem timeouts_of_frames (h : ∀ result ∈ fragmentResults opcode fragment rest,
    result.isFrame = true) : ∀ later ∈ fragment :: rest, later.timeouts = [] := by
  have hnil : ∀ fragment : Fragment, (∀ result ∈ fragment.waits, result.isFrame = true) →
      fragment.timeouts = [] := by
    intro fragment hall
    by_contra hne
    obtain ⟨what, hm⟩ := List.exists_mem_of_ne_nil _ hne
    cases hall _ (List.mem_map.mpr ⟨what, hm, rfl⟩)
  induction rest generalizing opcode fragment with
  | nil =>
      intro later hm
      obtain rfl := List.mem_singleton.mp hm
      exact hnil later fun result hr => h result (List.mem_append_left _ hr)
  | cons next rest ih =>
      intro later hm
      rcases List.mem_cons.mp hm with rfl | hm
      · exact hnil later fun result hr => h result (List.mem_append_left _ hr)
      · exact ih (fun result hr => h result (List.mem_append_right _ (List.mem_cons_of_mem _ hr)))
          later hm

namespace DataMessage

theorem length_frames (message : DataMessage) :
    message.frames.length = message.rest.length + 1 :=
  length_filter_isFrame ..

theorem payload_frames (message : DataMessage) :
    message.frames.flatMap FrameResult.payload = message.payload :=
  flatMap_filter_isFrame ..

theorem results_split (message : DataMessage) :
    ∃ before last, message.results = before ++ [last] ∧ last.isFinal = true ∧
      ∀ result ∈ before, result.isFinal = false ∧
        (result.closes = false → result.staysConnected = true) :=
  fragmentResults_split message.opcode.value_le

theorem staysConnected_of_mem (message : DataMessage) (h : message.readAsClose = false)
    (hr : result ∈ message.results) : result.staysConnected = true := by
  have hopen : result.closes = false := by
    have hall : ∀ result ∈ message.results, result.closes = false := by
      simpa [readAsClose] using h
    exact hall result hr
  obtain ⟨before, last, he, hl, hb⟩ := message.results_split
  rw [he] at hr
  rcases List.mem_append.mp hr with hin | hin
  · exact (hb result hin).2 hopen
  · obtain rfl := List.mem_singleton.mp hin
    cases result with
    | frame flags payload => simp [staysConnected, hopen]
    | throws exception => cases hl

-- The timeouts before the first frame, that frame, and what follows it.
theorem results_cons (message : DataMessage) :
    ∃ first tail, message.results = message.first.waits ++ first :: tail ∧
      first.begins = true ∧ first.isFrame = true ∧ (∀ result ∈ tail, result.begins = false) ∧
      ((∀ result ∈ tail, result.isFrame = true) →
        ∀ fragment ∈ message.rest, fragment.timeouts = []) := by
  obtain ⟨opcode, fragment, rest⟩ := message
  obtain ⟨hopens, hwhole⟩ := begins_opcode opcode fragment.payload
  cases rest with
  | nil => exact ⟨_, [], rfl, hwhole, rfl, by simp, by simp⟩
  | cons next rest =>
      exact ⟨_, _, rfl, hopens, rfl, fun _ => not_begins_of_mem, timeouts_of_frames⟩

theorem frames_cons (message : DataMessage) :
    ∃ first tail, message.frames = first :: tail ∧ first.begins = true := by
  obtain ⟨first, tail, he, hb, hframe, -⟩ := message.results_cons
  refine ⟨first, tail.filter isFrame, ?_, hb⟩
  rw [frames, he, List.filter_append, filter_waits, List.filter_cons, if_pos hframe,
    List.nil_append]

end DataMessage

-- A stream is empty or ends with a final frame.
theorem stream_eq (messages : List DataMessage) :
    stream messages = [] ∨ ∃ before last, stream messages = before ++ [last] ∧
      last.isFinal = true := by
  rcases List.eq_nil_or_concat messages with rfl | ⟨earlier, message, rfl⟩
  · exact Or.inl rfl
  · obtain ⟨before, last, he, hl, -⟩ := message.results_split
    refine Or.inr ⟨stream earlier ++ before, last, ?_, hl⟩
    simp [stream, he]

theorem readAsClose_of_mem (h : message ∈ beforeClose messages) :
    message.readAsClose = false := by
  have hall := List.all_takeWhile (p := fun message => !message.readAsClose) (l := messages)
  simpa using List.all_eq_true.mp hall message h

theorem staysConnected_of_stream (h : ∀ message ∈ messages, message.readAsClose = false) :
    ∀ result ∈ stream messages, result.staysConnected = true := by
  intro result hm
  obtain ⟨message, hin, hr⟩ := List.mem_flatMap.mp hm
  exact message.staysConnected_of_mem (h message hin) hr

end Rito

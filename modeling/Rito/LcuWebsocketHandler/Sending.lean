import Rito.LcuWampHandler
import Rito.LcuWebsocketHandler.Lifetimes

namespace Rito

-- The public noexcept functions that send: those of Lcu_wamp_handler hand
-- their text to Lcu_websocket_handler::send_message.
inductive EntryPoint where
  | sendMessage (message : Bytes)
  | subscribe (event : List Char)
  | unsubscribe (event : List Char)
  | call (identifier function first : List Char) (rest : List (List Char))
  | callNoArguments (identifier function : List Char)
  | stop

def EntryPoint.toCall : EntryPoint → Call
  | .sendMessage message => .sendMessage message
  | .subscribe event => .sendMessage (utf8 (LcuWampHandler.subscribe event))
  | .unsubscribe event => .sendMessage (utf8 (LcuWampHandler.unsubscribe event))
  | .call identifier function first rest =>
      .sendMessage (utf8 (LcuWampHandler.call identifier function first rest))
  | .callNoArguments identifier function =>
      .sendMessage (utf8 (LcuWampHandler.callNoArguments identifier function))
  | .stop => .stop

-- A step of the process whose other threads call the public functions.
inductive PublicAction (ι : Type*) where
  | loop (input : Input)
  | enter (thread : ι) (entry : EntryPoint)
  | tau (thread : ι)
  | sendFrame (thread : ι) (result : Except TransportException Unit)

def PublicAction.toFine {ι : Type*} : PublicAction ι → FineAction ι
  | .loop input => .loop input
  | .enter thread entry => .thread thread (.call entry.toCall)
  | .tau thread => .thread thread .tau
  | .sendFrame thread result => .thread thread (.transport result)

def Input.throws : Input → Bool
  | .transport (.error _) => true
  | _ => false

-- The most steps of its own a call still has to take: once it has unlocked the
-- mutex that it is to lock next, from a place without the mutex, and from any.
def ThreadPc.stepsAfter : ThreadPc → Nat
  | .stopCheck => 2
  | .sendCheck _ => 4
  | _ => 0

def ThreadPc.stepsLeft : ThreadPc → Nat
  | .outside => 0
  | .stopWrite => 7
  | .stopCheck => 6
  | .stopSend => 2
  | .sendCheck _ => 8
  | .sendUse _ => 4

def ThreadPlace.stepsLeft : ThreadPlace → Nat
  | .ready pc => pc.stepsLeft
  | .inside pc access => access.stepsLeft + pc.stepsAfter
  | .leaving pc _ => 1 + pc.stepsAfter
  | .unlocked _ => 1

-- The client the next sendFrame of a call goes to.
def ThreadPlace.sendsTo : ThreadPlace → Option Nat
  | .inside _ (.sendFrame _ client) | .unlocked client => some client
  | _ => none

-- A use of m_websocket finds it non-null, a client that was read without the
-- lock has not been freed, and sendFrame does not throw.
def ThreadPlace.delivers (sockets : Sockets) (input : Input) : ThreadPlace → Bool
  | .ready .stopSend | .inside _ (.sendPointer _) => sockets.websocket.isSome
  | .inside _ (.sendFrame _ _) => !input.throws
  | .unlocked client => (sockets.clients client).isSome && !input.throws
  | _ => true

-- A critical section is the one that its place has locked the mutex for.
def ThreadPlace.InBlock : ThreadPlace → Prop
  | .inside pc access => ∃ entry, pc.entry = some entry ∧ access.block = entry.block
  | .leaving pc ending => ∃ entry, pc.entry = some entry ∧ ending.Ends entry.block
  | _ => True

namespace Sockets

-- The frames that have been sent to the client of a pointer.
def frames (sockets : Sockets) (client : Nat) : List Bytes :=
  match (sockets.clients client).bind (·.websocket) with
  | none => []
  | some socket => socket.sent

end Sockets

-- What a step of a call does from its place: the frame that it sends, and what
-- it returns. send_message() returns true if its frame was sent, and false
-- otherwise.
def ThreadPlace.Reports (before after : Sockets) :
    ThreadPlace → ThreadPlace → List ThreadEvent → Prop
  | .inside (.sendUse message) (.sendFrame _ client), next, events =>
      ∃ sent : Bool, next = .leaving (.sendUse message) (.sent sent) ∧ events = [] ∧
        after.frames client = before.frames client ++ if sent then [message] else []
  | .leaving (.sendUse _) (.sent sent), next, events =>
      next = .ready .outside ∧ events = [.sendReturned sent] ∧ after = before
  | .leaving (.sendCheck _) (.tested false), next, events =>
      next = .ready .outside ∧ events = [.sendReturned false] ∧ after = before
  | .leaving .stopCheck (.tested false), next, events =>
      next = .ready .outside ∧ events = [.stopReturned] ∧ after = before
  | .unlocked client, next, events =>
      ∃ sent : Bool, next = .ready .outside ∧ events = [.stopReturned] ∧
        after.frames client = before.frames client ++ if sent then [exitMessage] else []
  | _, next, events => next ≠ .ready .outside ∧ events = [] ∧ after = before

-- The accesses of is_connected() and of send_message().
theorem Inside.of_block_isConnected {access : Inside} (h : access.block = .isConnected) :
    access = .testPointer ∨ ∃ client, access = .testFlag client := by
  cases access with
  | testPointer => exact Or.inl rfl
  | testFlag client => exact Or.inr ⟨client, rfl⟩
  | release site | destroyTest site _ | clearConnected site _ | shutdown site _ | free site _ =>
      cases site <;> cases h
  | _ => cases h

theorem Inside.of_block_sendMessage {access : Inside} {message : Bytes}
    (h : access.block = .sendMessage message) :
    access = .sendPointer message ∨ ∃ client, access = .sendFrame message client := by
  cases access with
  | sendPointer other =>
      obtain rfl := CriticalSection.sendMessage.inj h
      exact Or.inl rfl
  | sendFrame other client =>
      obtain rfl := CriticalSection.sendMessage.inj h
      exact Or.inr ⟨client, rfl⟩
  | release site | destroyTest site _ | clearConnected site _ | shutdown site _ | free site _ =>
      cases site <;> cases h
  | _ => cases h

namespace Sockets

variable {sockets after : Sockets} {message : Bytes} {client : Nat} {input : Input}
  {object : HttpsWebsocketClient} {socket : WebSocket}
  {result : Except Fault (Bool × Sockets)}

theorem frames_sendMessage (hd : sockets.clients client = some object)
    (hs : object.websocket = some socket) (message : Bytes) :
    (sockets.set client (some (object.sendMessage message (.ok ())).2)).frames client =
      sockets.frames client ++ [message] := by
  simp [frames, set, hd, hs, HttpsWebsocketClient.sendMessage]

-- What the client's send_message() returns says whether the frame was sent.
theorem SendEnds.frames {sent : Bool} (h : SendEnds sockets message client (.ok (sent, after))) :
    after.frames client = sockets.frames client ++ if sent then [message] else [] := by
  cases h with
  | notSent hd hs => exact (List.append_nil _).symm
  | sent hd hs => exact frames_sendMessage hd hs message

-- It returns unless the client has been freed or sendFrame throws.
theorem send_ok_iff (h : sockets.send message client input = some result) :
    (∃ value, result = .ok value) ↔
      (sockets.clients client).isSome = true ∧ input.throws = false := by
  unfold send at h
  split at h
  · next hd =>
      obtain rfl := Option.some.inj h
      refine iff_of_false ?_ ?_
      · rintro ⟨_, hv⟩
        cases hv
      · rintro ⟨ha, -⟩
        rw [hd] at ha
        cases ha
  · next hd =>
      obtain ⟨-, he⟩ := Option.ite_none_right_eq_some.mp h
      obtain rfl := Option.some.inj he
      exact iff_of_true ⟨_, rfl⟩ ⟨by rw [hd]; rfl, rfl⟩
  · next object ending hd =>
      obtain ⟨hsome, he⟩ := Option.ite_none_right_eq_some.mp h
      obtain ⟨socket, hs⟩ := Option.isSome_iff_exists.mp hsome
      have halive : (sockets.clients client).isSome = true := by rw [hd]; rfl
      cases ending with
      | error exception =>
          obtain rfl : .error (.crash .terminated) = result := by
            simpa [HttpsWebsocketClient.sendMessage, hs] using he
          refine iff_of_false ?_ ?_
          · rintro ⟨_, hv⟩
            cases hv
          · rintro ⟨-, ht⟩
            cases ht
      | ok _ =>
          simp only [HttpsWebsocketClient.sendMessage, hs] at he
          obtain rfl := Option.some.inj he
          exact iff_of_true ⟨_, rfl⟩ ⟨halive, rfl⟩
  · cases h

end Sockets

namespace FineSystem

variable {ι : Type*} [DecidableEq ι] {fine next : FineSystem ι} {action : FineAction ι}
  {events : List (SystemEvent ι)} {thread : ι} {input : Input}

-- A step of a thread does not end the process. Inside a call it brings the
-- call nearer to its return, and sends and returns as it should.
def Answers (fine : FineSystem ι) : FineAction ι → Prop
  | .loop _ => True
  | .thread thread input => ∀ next events,
      machine.step fine (.thread thread input) = some (next, events) →
        next.fault = none ∧
        (fine.threads thread ≠ .ready .outside →
          (next.threads thread).stepsLeft < (fine.threads thread).stepsLeft ∧
          ∃ more, events = more.map (.thread thread) ∧
            (fine.threads thread).Reports fine.memory.toSockets next.memory.toSockets
              (next.threads thread) more)

def Delivers (fine : FineSystem ι) : FineAction ι → Prop
  | .loop _ => True
  | .thread thread input => (fine.threads thread).delivers fine.memory.toSockets input = true

instance (fine : FineSystem ι) : ∀ action, Decidable (fine.Delivers action)
  | .loop _ => isTrue trivial
  | .thread _ _ => inferInstanceAs (Decidable (_ = _))

-- The thread can take its next step, or waits for the mutex, which another one
-- has. Where it is to send a frame on a socket, every outcome is a step.
structure GoesOn (fine : FineSystem ι) (thread : ι) : Prop where
  steps : (∃ input next events,
      machine.step fine (.thread thread input) = some (next, events)) ∨
    ∃ pc holder, fine.threads thread = .ready pc ∧ pc.entry.isSome = true ∧
      fine.mutex = some holder ∧ holder ≠ some thread
  sends : ∀ client object, (fine.threads thread).sendsTo = some client →
    fine.memory.clients client = some object → object.websocket.isSome = true →
      ∀ result, ∃ next events,
        machine.step fine (.thread thread (.transport result)) = some (next, events)

omit [DecidableEq ι] in
theorem sends_of_sendsTo {place : ThreadPlace} {client : Nat} (h : place.sendsTo = some client) :
    place = .unlocked client ∨ ∃ pc message, place = .inside pc (.sendFrame message client) := by
  cases place with
  | unlocked other =>
      obtain rfl := Option.some.inj h
      exact Or.inl rfl
  | inside pc access =>
      cases access with
      | sendFrame message other =>
          obtain rfl := Option.some.inj h
          exact Or.inr ⟨pc, message, rfl⟩
      | _ => cases h
  | _ => cases h

theorem step_thread (hf : fine.fault = none) :
    machine.step fine (.thread thread input) = fine.threadStep thread input := by
  change fine.step (.thread thread input) = _
  simp [step, hf]

-- The two steps that call sendFrame end the process exactly if the client's
-- send_message() does not return.
theorem step_sends {place : ThreadPlace} {client : Nat} (hp : place.sendsTo = some client)
    (ht : fine.threads thread = place)
    (h : machine.step fine (.thread thread input) = some (next, events)) :
    next.fault = none ↔ (fine.memory.clients client).isSome = true ∧ input.throws = false := by
  have hf : fine.fault = none := (step_cases h).1
  rw [step_thread hf] at h
  unfold threadStep at h
  rcases sends_of_sendsTo hp with rfl | ⟨pc, message, rfl⟩
  · rw [ht] at h
    dsimp only at h
    split at h
    · cases h
    · next fault hsend =>
        obtain ⟨rfl, -⟩ := Prod.mk.inj (Option.some.inj h)
        rw [← Sockets.send_ok_iff hsend]
        refine iff_of_false (by simp) ?_
        rintro ⟨_, hv⟩
        cases hv
    · next sent sockets hsend =>
        obtain ⟨rfl, -⟩ := Prod.mk.inj (Option.some.inj h)
        rw [← Sockets.send_ok_iff hsend]
        exact iff_of_true hf ⟨_, rfl⟩
  · rw [ht] at h
    dsimp only [Sockets.access] at h
    cases hsend : fine.memory.send message client input with
    | none => simp [hsend] at h
    | some result =>
        rw [← Sockets.send_ok_iff hsend]
        cases result with
        | error fault =>
            simp only [hsend, Option.map_some] at h
            obtain ⟨rfl, -⟩ := Prod.mk.inj (Option.some.inj h)
            refine iff_of_false (by simp) ?_
            rintro ⟨_, hv⟩
            cases hv
        | ok value =>
            simp only [hsend, Option.map_some] at h
            obtain ⟨rfl, -⟩ := Prod.mk.inj (Option.some.inj h)
            exact iff_of_true hf ⟨_, rfl⟩

-- A call meets no freed client in a critical section, and stays in its own.
structure Calling (fine : FineSystem ι) : Prop where
  lifetimes : fine.Lifetimes
  blocks : ∀ thread, (fine.threads thread).InBlock

theorem blocks_update {place : ThreadPlace} (hb : ∀ thread, (fine.threads thread).InBlock)
    (hp : place.InBlock) (ht : next.threads = Function.update fine.threads thread place) :
    ∀ other, (next.threads other).InBlock := by
  intro other
  rw [ht]
  by_cases he : other = thread
  · subst he
    rw [Function.update_self]
    exact hp
  · rw [Function.update_of_ne he]
    exact hb other

theorem Calling.step (hi : fine.Calling) (h : Step fine action next events) : next.Calling := by
  refine ⟨hi.lifetimes.step h, ?_⟩
  cases h with
  | callStop ht | callSend ht | stopWrite ht | stopPointer ht _ | used ht _ | threadUnlock ht =>
      exact blocks_update hi.blocks (by trivial) rfl
  | @threadLock thread pc access ht hp _ =>
      have hplace : (ThreadPlace.inside pc access).InBlock := ⟨access, hp, rfl⟩
      exact blocks_update hi.blocks hplace rfl
  | @threadAccess thread pc access _ _ place ht _ h =>
      have hb := hi.blocks thread
      rw [ht] at hb
      obtain ⟨entry, hp, hblock⟩ := hb
      refine blocks_update hi.blocks ?_ rfl
      have heq := h.block_eq
      cases place with
      | inl other => exact ⟨entry, hp, Eq.trans heq hblock⟩
      | inr ending =>
          refine ⟨entry, hp, ?_⟩
          rw [← hblock]
          exact heq
  | _ => exact hi.blocks

omit [DecidableEq ι] in
theorem calling_start (onMessageReceived onConnected onDisconnected : Bool) :
    Calling (start onMessageReceived onConnected onDisconnected : FineSystem ι) :=
  ⟨lifetimes_start _ _ _, fun _ => trivial⟩

-- A step of a call does not end the process exactly if its use of m_websocket,
-- where it is one, meets the condition.
theorem fault_eq_none_iff (hi : fine.Calling)
    (h : machine.step fine (.thread thread input) = some (next, events)) :
    next.fault = none ↔ fine.Delivers (.thread thread input) := by
  obtain ⟨hf, hstep⟩ := step_cases h
  -- the client of a send under the lock is alive
  have halive : ∀ pc message client, fine.threads thread = .inside pc (.sendFrame message client) →
      (fine.memory.clients client).isSome = true := by
    intro pc message client ht
    exact hi.lifetimes.life.alive client (hi.lifetimes.points (some thread) _ (held_thread ht))
  have hsends : ∀ pc message client, fine.threads thread = .inside pc (.sendFrame message client) →
      (next.fault = none ↔ (!input.throws) = true) := by
    intro pc message client ht
    rw [step_sends rfl ht h, Bool.not_eq_true']
    exact and_iff_right (halive pc message client ht)
  cases hstep with
  | callStop ht | callSend ht | stopWrite ht =>
      simp only [Delivers, ThreadPlace.delivers, ht]
      exact iff_of_true hf trivial
  | stopPointer ht hw =>
      simp only [Delivers, ThreadPlace.delivers, ht, hw]
      exact iff_of_true hf rfl
  | stopNull ht hw =>
      simp only [Delivers, ThreadPlace.delivers, ht, hw]
      simp
  | used ht _ | useFault ht _ =>
      rw [step_sends rfl ht h]
      simp only [Delivers, ThreadPlace.delivers, ht, Bool.and_eq_true, Bool.not_eq_true']
  | @threadLock _ pc _ ht hp _ =>
      have hd : fine.Delivers (.thread thread .tau) := by
        simp only [Delivers, ThreadPlace.delivers, ht]
        cases pc with
        | stopSend => cases hp
        | _ => trivial
      exact iff_of_true hf hd
  | threadUnlock ht =>
      simp only [Delivers, ThreadPlace.delivers, ht]
      exact iff_of_true hf trivial
  | @threadAccess _ pc access _ _ _ ht _ haccess =>
      cases access with
      | sendFrame message client =>
          simp only [Delivers, ThreadPlace.delivers, ht]
          exact hsends pc message client ht
      | sendPointer message =>
          cases haccess with
          | sendPointer hw =>
              simp only [Delivers, ThreadPlace.delivers, ht, hw]
              exact iff_of_true hf rfl
      | _ =>
          simp only [Delivers, ThreadPlace.delivers, ht]
          exact iff_of_true hf trivial
  | @threadFault _ pc access _ fault ht haccess =>
      obtain ⟨hstop, hreconnect⟩ := hi.lifetimes.blocks thread access (held_thread ht)
      cases haccess with
      | @sendThrew message client _ _ hd hs =>
          simp only [Delivers, ThreadPlace.delivers, ht]
          exact hsends pc message client ht
      | @shutdownThrew site _ _ _ =>
          cases site with
          | stop => exact absurd rfl hstop
          | reconnect => exact absurd rfl hreconnect
      | null hl hw =>
          cases access with
          | sendPointer message =>
              simp only [Delivers, ThreadPlace.delivers, ht, hw]
              simp
          | setCredentials _ | openSocket => exact absurd rfl hreconnect
          | _ => cases hl
      | dangling hl hd =>
          have hpoints := hi.lifetimes.points (some thread) _ (held_thread ht)
          have hlife := hi.lifetimes.life_thread (held_thread ht)
          exact absurd rfl (Access.ne_dangling (.dangling hl hd) hlife hpoints)

-- The accesses of a call under the lock.
theorem reports_access {pc : ThreadPc} {access : Inside} {before after : Sockets}
    {place : Inside ⊕ Ending} (hb : (ThreadPlace.inside pc access).InBlock)
    (h : Access before access (.ok (after, place))) :
    (ThreadPlace.inside pc access).Reports before after (threadPlace pc place) [] := by
  obtain ⟨entry, hp, hblock⟩ := hb
  have hplace : threadPlace pc place ≠ .ready .outside := by
    cases place <;> simp [threadPlace]
  cases pc with
  | stopCheck | sendCheck _ =>
      obtain rfl := Option.some.inj hp
      rcases Inside.of_block_isConnected hblock with rfl | ⟨client, rfl⟩
      · cases h <;> exact ⟨hplace, rfl, rfl⟩
      · cases h
        exact ⟨hplace, rfl, rfl⟩
  | sendUse message =>
      obtain rfl := Option.some.inj hp
      rcases Inside.of_block_sendMessage hblock with rfl | ⟨client, rfl⟩
      · cases h
        exact ⟨hplace, rfl, rfl⟩
      · cases h with
        | notSent _ _ => exact ⟨false, rfl, rfl, (List.append_nil _).symm⟩
        | sent hd hs => exact ⟨true, rfl, rfl, Sockets.frames_sendMessage hd hs message⟩
  | _ => cases hp

theorem reports_unlock {pc : ThreadPc} {ending : Ending} {sockets : Sockets}
    (hb : (ThreadPlace.leaving pc ending).InBlock) :
    (pc.exit ending).1.stepsLeft < (ThreadPlace.leaving pc ending).stepsLeft ∧
      (ThreadPlace.leaving pc ending).Reports sockets sockets (.ready (pc.exit ending).1)
        (pc.exit ending).2 := by
  obtain ⟨entry, hp, hends⟩ := hb
  cases pc with
  | stopCheck | sendCheck _ =>
      obtain rfl := Option.some.inj hp
      cases ending with
      | tested connected =>
          cases connected
          · exact ⟨Nat.lt_add_right _ Nat.zero_lt_one, rfl, rfl, rfl⟩
          · exact ⟨by simp [ThreadPc.exit, ThreadPc.stepsLeft, ThreadPlace.stepsLeft,
              ThreadPc.stepsAfter], by simp [ThreadPc.exit], rfl, rfl⟩
      | _ => exact hends.elim
  | sendUse message =>
      obtain rfl := Option.some.inj hp
      cases ending with
      | sent sent => exact ⟨Nat.zero_lt_one, rfl, rfl, rfl⟩
      | _ => exact hends.elim
  | _ => cases hp

-- Every step of a call that does not end the process brings it nearer to its
-- return, and does what it should.
theorem Step.reports (h : Step fine (.thread thread input) next events)
    (hb : (fine.threads thread).InBlock) (hn : next.fault = none)
    (ho : fine.threads thread ≠ .ready .outside) :
    (next.threads thread).stepsLeft < (fine.threads thread).stepsLeft ∧
      ∃ more, events = more.map (.thread thread) ∧
        (fine.threads thread).Reports fine.memory.toSockets next.memory.toSockets
          (next.threads thread) more := by
  cases h with
  | callStop ht | callSend ht => exact absurd ht ho
  | stopWrite ht | stopPointer ht _ =>
      rw [ht]
      simp only [setThread, Function.update_self]
      exact ⟨Nat.lt_succ_self _, [], rfl, by simp, rfl, rfl⟩
  | stopNull _ _ | useFault _ _ | threadFault _ _ => cases hn
  | used ht h =>
      rw [ht]
      simp only [setThread, setSockets, Function.update_self]
      exact ⟨Nat.zero_lt_one, [_], rfl, _, rfl, rfl, h.frames⟩
  | @threadLock _ pc access ht hp _ =>
      rw [ht]
      simp only [setThread, Function.update_self]
      refine ⟨?_, [], rfl, by simp, rfl, rfl⟩
      cases pc <;> cases hp <;>
        simp [ThreadPlace.stepsLeft, ThreadPc.stepsLeft, ThreadPc.stepsAfter, Inside.stepsLeft]
  | @threadAccess _ pc access _ sockets place ht _ h =>
      rw [ht] at hb ⊢
      simp only [setThread, setSockets, Function.update_self]
      refine ⟨?_, [], rfl, reports_access hb h⟩
      have hlt := h.stepsLeft_lt
      cases place with
      | inl other =>
          simp only [stepsLeft] at hlt
          simp only [threadPlace, ThreadPlace.stepsLeft]
          omega
      | inr ending =>
          simp only [stepsLeft] at hlt
          simp only [threadPlace, ThreadPlace.stepsLeft]
          omega
  | threadUnlock ht =>
      rw [ht] at hb ⊢
      simp only [setThread, Function.update_self]
      obtain ⟨hlt, hreports⟩ := reports_unlock hb
      exact ⟨hlt, _, rfl, hreports⟩

theorem answers_iff_delivers (hi : fine.Calling)
    (h : machine.step fine action = some (next, events)) :
    fine.Answers action ↔ fine.Delivers action := by
  cases action with
  | loop input => exact Iff.rfl
  | thread thread input =>
      rw [← fault_eq_none_iff hi h]
      constructor
      · intro ha
        exact (ha next events h).1
      · intro hn next' events' h'
        obtain ⟨rfl, rfl⟩ := Machine.step_unique h h'
        exact ⟨hn, fun ho => (step_cases h).2.reports (hi.blocks thread) hn ho⟩

-- Before a critical section the thread locks the mutex, or another one has it.
theorem locks_or_waits {pc : ThreadPc} {access : Inside} (hx : fine.Exclusive)
    (hf : fine.fault = none) (ht : fine.threads thread = .ready pc)
    (hp : pc.entry = some access) :
    (∃ input next events, machine.step fine (.thread thread input) = some (next, events)) ∨
      ∃ pc holder, fine.threads thread = .ready pc ∧ pc.entry.isSome = true ∧
        fine.mutex = some holder ∧ holder ≠ some thread := by
  cases hm : fine.mutex with
  | none =>
      refine Or.inl ⟨.tau, ?_⟩
      rw [step_thread hf]
      simp only [threadStep, ht, hp, hm, if_true]
      exact ⟨_, _, rfl⟩
  | some holder =>
      refine Or.inr ⟨pc, holder, ht, by rw [hp]; rfl, rfl, ?_⟩
      rintro rfl
      have hheld := (hx (some thread)).mpr hm
      rw [held_thread ht] at hheld
      cases hheld

-- Every outcome of a sendFrame that is called is a step.
theorem step_sendFrame {client : Nat} {object : HttpsWebsocketClient} {socket : WebSocket}
    (hf : fine.fault = none) (hsends : (fine.threads thread).sendsTo = some client)
    (hd : fine.memory.clients client = some object) (hs : object.websocket = some socket)
    (result : Except TransportException Unit) : ∃ next events,
      machine.step fine (.thread thread (.transport result)) = some (next, events) := by
  have hsend : ∀ message, ∃ ended,
      fine.memory.send message client (.transport result) = some ended := by
    intro message
    cases result <;> simp [Sockets.send, hd, hs, HttpsWebsocketClient.sendMessage]
  rw [step_thread hf]
  generalize ht : fine.threads thread = place at hsends
  rcases sends_of_sendsTo hsends with rfl | ⟨pc, message, rfl⟩
  · obtain ⟨ended, he⟩ := hsend exitMessage
    simp only [threadStep, ht, he]
    cases ended <;> exact ⟨_, _, rfl⟩
  · obtain ⟨ended, he⟩ := hsend message
    simp only [threadStep, ht, Sockets.access, he, Option.map_some]
    cases ended <;> exact ⟨_, _, rfl⟩

-- A call under way never gets stuck by itself.
theorem goesOn (hx : fine.Exclusive) (hf : fine.fault = none)
    (ho : fine.threads thread ≠ .ready .outside) : fine.GoesOn thread := by
  have hinside : (fine.held (some thread)).isSome = true →
      ∃ input next events, machine.step fine (.thread thread input) = some (next, events) :=
    fun hheld => exists_step hx ((hx (some thread)).mp hheld) hf
  refine ⟨?_, fun client object hsends hd hs result => ?_⟩
  · cases ht : fine.threads thread with
    | ready pc =>
        cases pc with
        | outside => exact absurd ht ho
        | stopWrite | stopSend =>
            refine Or.inl ⟨.tau, ?_⟩
            rw [step_thread hf]
            simp only [threadStep, ht, ThreadPc.entry, plainThreadStep]
            exact ⟨_, _, rfl⟩
        | stopCheck | sendCheck _ | sendUse _ =>
            rw [← ht]
            exact locks_or_waits hx hf ht rfl
    | unlocked client =>
        obtain ⟨input, result, hsend⟩ := fine.memory.exists_send exitMessage client
        refine Or.inl ⟨input, ?_⟩
        rw [step_thread hf]
        simp only [threadStep, ht, hsend]
        cases result <;> exact ⟨_, _, rfl⟩
    | inside pc access => exact Or.inl (hinside (by rw [held_thread ht]; rfl))
    | leaving pc ending => exact Or.inl (hinside (by rw [held_thread ht]; rfl))
  · obtain ⟨socket, hsocket⟩ := Option.isSome_iff_exists.mp hs
    exact step_sendFrame hf hsends hd hsocket result

-- The loop connects.
def connectedLoop : List (PublicAction Unit) :=
  [.loop (.loop .run), .loop (.loop .tau), .loop (.loop .tau), .loop .tau, .loop .tau, .loop .tau,
    .loop (.loop .tau), .loop .tau, .loop .tau, .loop .tau, .loop (.scan (.ok ⟨"token", 51234⟩)),
    .loop (.ended (.ok ())), .loop (.ended (.ok ())), .loop (.transport (.ok ())),
    .loop (.transport (.ok ())), .loop .tau, .loop .tau,
    .loop (.loop (.callback .onConnected false))]

-- is_connected() and the way to sendFrame, of which each is three accesses
-- under the lock.
def comesToSend : List (PublicAction Unit) :=
  [.tau (), .tau (), .tau (), .tau (), .tau (), .tau ()]

-- The connection dies after is_connected() and before sendFrame.
def lostSubscription : List (PublicAction Unit) :=
  connectedLoop ++ .enter () (.subscribe "OnJsonApiEvent".toList) :: (comesToSend ++
    [.sendFrame () (.error (.other "Connection reset by peer"))])

theorem lostSubscription_runs : (machine.exec (start true true true)
    (lostSubscription.map PublicAction.toFine)).isSome = true := rfl

-- A call that is refused, one whose frame goes out, and a stop.
def servedCalls : List (PublicAction Unit) :=
  [.enter () (.callNoArguments ['1'] ['f']), .tau (), .tau (), .tau ()] ++ connectedLoop ++
    .enter () (.call ['2'] ['f'] ['x'] []) :: (comesToSend ++
      [.sendFrame () (.ok ()), .tau (), .enter () .stop, .tau ()] ++ comesToSend.take 5 ++
        [.sendFrame () (.ok ())])

theorem servedCalls_runs : (machine.exec (start true true true)
    (servedCalls.map PublicAction.toFine)).isSome = true := rfl

end FineSystem

end Rito

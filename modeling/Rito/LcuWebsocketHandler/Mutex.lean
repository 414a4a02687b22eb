import Rito.LcuWebsocketHandler.AccessStep
import Rito.Progress

namespace Rito

-- The blocks of code that run under m_socket_mutex.
inductive CriticalSection where
  | isConnected
  | sendMessage (message : Bytes)
  | stopReset
  | reconnect
  deriving DecidableEq, Repr

-- The block an access belongs to.
def Inside.block : Inside → CriticalSection
  | .testPointer | .testFlag _ => .isConnected
  | .sendPointer message | .sendFrame message _ => .sendMessage message
  | .release site | .destroyTest site _ | .clearConnected site _ | .shutdown site _
  | .free site _ =>
      match site with
      | .stop => .stopReset
      | .reconnect => .reconnect
  | _ => .reconnect

-- What each block can come to.
def Ending.Ends : Ending → CriticalSection → Prop
  | .tested _, .isConnected | .sent _, .sendMessage _ | .dropped, .stopReset
  | .reconnected _, .reconnect => True
  | _, _ => False

-- The most steps that are left until the mutex is free again, the unlock
-- included.
def ResetSite.stepsAfter : ResetSite → Nat
  | .stop => 1
  | .reconnect => 8

def Inside.stepsLeft : Inside → Nat
  | .testPointer | .sendPointer _ => 3
  | .testFlag _ | .sendFrame _ _ => 2
  | .release site => site.stepsAfter + 5
  | .destroyTest site _ => site.stepsAfter + 4
  | .clearConnected site _ => site.stepsAfter + 3
  | .shutdown site _ => site.stepsAfter + 2
  | .free site _ => site.stepsAfter + 1
  | .reconnectPointer => 15
  | .reconnectFlag _ => 14
  | .reconnectNull => 8
  | .scan => 7
  | .construct _ => 6
  | .setCredentials _ => 5
  | .openSocket => 4
  | .setMaxPayloadSize _ => 3
  | .setConnected _ => 2

-- A place in a critical section.
def stepsLeft : Inside ⊕ Ending → Nat
  | .inl access => access.stepsLeft
  | .inr _ => 1

-- What the holder of the mutex is about to do with it.
def LoopPlace.held : LoopPlace → Option (Inside ⊕ Ending)
  | .inside _ access => some (.inl access)
  | .leaving _ ending => some (.inr ending)
  | _ => none

def ThreadPlace.held : ThreadPlace → Option (Inside ⊕ Ending)
  | .inside _ access => some (.inl access)
  | .leaving _ ending => some (.inr ending)
  | _ => none

section Access

variable {sockets after : Sockets} {access : Inside} {next : Inside ⊕ Ending}

theorem ResetSite.stepsAfter_bounds (site : ResetSite) :
    0 < site.stepsAfter ∧ site.stepsAfter ≤ 8 := by
  cases site <;> decide

-- An unlock always follows.
theorem Inside.stepsLeft_bounds (access : Inside) : 1 < access.stepsLeft ∧ access.stepsLeft ≤ 15 := by
  have hsite := ResetSite.stepsAfter_bounds
  cases access with
  | release site | destroyTest site _ | clearConnected site _ | shutdown site _ | free site _ =>
      have hafter := hsite site
      simp only [stepsLeft]
      omega
  | _ => simp only [stepsLeft]; omega

theorem stepsLeft_bounds (place : Inside ⊕ Ending) : 0 < stepsLeft place ∧ stepsLeft place ≤ 15 := by
  cases place with
  | inl access =>
      have hbounds := access.stepsLeft_bounds
      simp only [stepsLeft]
      omega
  | inr ending => simp only [stepsLeft]; omega

theorem stepsLeft_afterReset (site : ResetSite) :
    stepsLeft (Sockets.afterReset site) = site.stepsAfter := by
  cases site <;> rfl

-- Every access brings a critical section nearer to its unlock.
theorem Access.stepsLeft_lt (h : Access sockets access (.ok (after, next))) :
    stepsLeft next < access.stepsLeft := by
  cases h with
  | releaseNull _ | free _ =>
      rw [stepsLeft_afterReset]
      simp only [Inside.stepsLeft]
      omega
  | _ =>
      simp only [stepsLeft, Inside.stepsLeft, ResetSite.stepsAfter]
      omega

-- An access stays in its block, which comes to what such a block can come to.
theorem Access.block_eq (h : Access sockets access (.ok (after, next))) :
    match next with
    | .inl other => other.block = access.block
    | .inr ending => ending.Ends access.block := by
  cases h with
  | @releaseNull site _ | @free site _ _ _ => cases site <;> trivial
  | _ => trivial

end Access

namespace Sockets

-- In a critical section there is always an access to make.
theorem exists_send (sockets : Sockets) (message : Bytes) (client : Nat) :
    ∃ input result, sockets.send message client input = some result := by
  cases hd : sockets.clients client with
  | none => exact ⟨.tau, .error .dangling, by simp only [send, hd]⟩
  | some object =>
      cases hs : object.websocket with
      | none =>
          refine ⟨.tau, .ok (false, sockets), ?_⟩
          simp only [send, hd, hs, Option.isNone_none, if_true]
      | some socket =>
          refine ⟨.transport (.ok ()),
            .ok (true, sockets.set client (some (object.sendMessage message (.ok ())).2)), ?_⟩
          simp only [send, hd, hs, Option.isSome_some, if_true, HttpsWebsocketClient.sendMessage]

theorem exists_access (sockets : Sockets) (access : Inside) :
    ∃ input result, sockets.access access input = some result := by
  cases access with
  | sendFrame message client =>
      obtain ⟨input, result, h⟩ := sockets.exists_send message client
      exact ⟨input, _, by simp only [Sockets.access, h, Option.map_some]; rfl⟩
  | testPointer | reconnectPointer | reconnectNull | release site =>
      cases hw : sockets.websocket <;> exact ⟨.tau, _, by simp only [Sockets.access, hw]; rfl⟩
  | shutdown | openSocket | setMaxPayloadSize => exact ⟨.transport (.ok ()), _, rfl⟩
  | scan => exact ⟨.scan (.error (.std "")), _, rfl⟩
  | construct | setCredentials => exact ⟨.ended (.ok ()), _, rfl⟩
  | _ => exact ⟨.tau, _, rfl⟩

end Sockets

-- The thread that takes a step.
def FineAction.party {ι : Type*} : FineAction ι → Option ι
  | .loop _ => none
  | .thread taker _ => some taker

def FineAction.of {ι : Type*} : Option ι → Input → FineAction ι
  | none, input => .loop input
  | some taker, input => .thread taker input

namespace FineSystem

variable {ι : Type*} [DecidableEq ι] {fine next : FineSystem ι} {action : FineAction ι}
  {events : List (SystemEvent ι)} {party : Option ι}

-- The place of a thread in a critical section.
def held (fine : FineSystem ι) : Option ι → Option (Inside ⊕ Ending)
  | none => fine.loop.held
  | some thread => (fine.threads thread).held

-- The mutex belongs to the thread that is in a critical section, and there is
-- at most one.
def Exclusive (fine : FineSystem ι) : Prop :=
  ∀ party, (fine.held party).isSome = true ↔ fine.mutex = some party

-- How a thread moves between the places that hold the mutex, and what becomes
-- of the mutex.
inductive Moves (mutex : Option (Option ι)) (party : Option ι) :
    Option (Inside ⊕ Ending) → Option (Inside ⊕ Ending) → Option (Option ι) → Prop
  | outside : Moves mutex party none none mutex
  | locks {access} (hm : mutex = none) : Moves mutex party none (some (.inl access)) (some party)
  | goesOn {access place} (h : stepsLeft place < access.stepsLeft) :
      Moves mutex party (some (.inl access)) (some place) mutex
  | unlocks {ending} : Moves mutex party (some (.inr ending)) none none

omit [DecidableEq ι] in
@[simp] theorem held_loopPlace (pc : LoopPc) (place : Inside ⊕ Ending) :
    (loopPlace pc place).held = some place := by
  cases place <;> rfl

omit [DecidableEq ι] in
@[simp] theorem held_threadPlace (pc : ThreadPc) (place : Inside ⊕ Ending) :
    (threadPlace pc place).held = some place := by
  cases place <;> rfl

theorem held_setLoop (fine : FineSystem ι) (hthreads : next.threads = fine.threads) :
    next.held = Function.update fine.held none next.loop.held := by
  funext party
  cases party with
  | none => simp [held]
  | some thread => simp [held, hthreads]

theorem held_setThread (fine : FineSystem ι) {thread : ι} {place : ThreadPlace}
    (hl : next.loop = fine.loop)
    (ht : next.threads = Function.update fine.threads thread place) :
    next.held = Function.update fine.held (some thread) place.held := by
  funext party
  cases party with
  | none => simp [held, hl]
  | some other =>
      by_cases he : other = thread
      · subst he
        simp [held, ht]
      · simp [held, ht, he]

omit [DecidableEq ι] in
theorem held_thread {thread : ι} {place : ThreadPlace} (ht : fine.threads thread = place) :
    fine.held (some thread) = place.held :=
  congrArg ThreadPlace.held ht

theorem FrameStep.held {client left : Nat} {messageBuffer : Bytes} {input : Input}
    {place : LoopPlace} {more : List LoopEvent}
    (h : FrameStep client left messageBuffer input place more) : place.held = none := by
  cases h <;> rfl

-- The loop goes from a place without the mutex to another.
theorem moves_loop {place : LoopPlace} {input : Input} (hl : fine.loop.held = none)
    (hn : next.loop = place) (hplace : place.held = none) (ht : next.threads = fine.threads)
    (hm : next.mutex = fine.mutex) :
    ∃ place, next.held = Function.update fine.held (FineAction.loop input : FineAction ι).party
        place ∧
      Moves fine.mutex (FineAction.loop input : FineAction ι).party
        (fine.held (FineAction.loop input : FineAction ι).party) place next.mutex := by
  refine ⟨none, ?_, ?_⟩
  · have hheld := held_setLoop fine ht
    rw [hn, hplace] at hheld
    exact hheld
  · rw [hm]
    change Moves _ _ fine.loop.held none _
    rw [hl]
    exact .outside

theorem moves_thread {thread : ι} {place : ThreadPlace} {input : Input}
    (hl : (fine.threads thread).held = none) (hplace : place.held = none)
    (hloop : next.loop = fine.loop)
    (ht : next.threads = Function.update fine.threads thread place)
    (hm : next.mutex = fine.mutex) :
    ∃ place, next.held = Function.update fine.held (FineAction.thread thread input).party place ∧
      Moves fine.mutex (FineAction.thread thread input).party
        (fine.held (FineAction.thread thread input).party) place next.mutex := by
  refine ⟨none, ?_, ?_⟩
  · rw [held_setThread fine hloop ht, hplace]
    rfl
  · rw [hm]
    change Moves _ _ (fine.threads thread).held none _
    rw [hl]
    exact .outside

-- A step ends the process where it is, or moves the thread that takes it.
theorem Step.moves (h : Step fine action next events) :
    (next.fault ≠ none ∧ next.held = fine.held ∧ next.mutex = fine.mutex) ∨
      ∃ place, next.held = Function.update fine.held action.party place ∧
        Moves fine.mutex action.party (fine.held action.party) place next.mutex := by
  cases h with
  | loopFault | receiveNull | receiveDangling | stopNull | useFault | threadFault =>
      exact Or.inl ⟨by simp, rfl, rfl⟩
  | plain hl _ _ _ => exact Or.inr (moves_loop (by rw [hl]; rfl) rfl rfl rfl rfl)
  | receivePointer hl _ | receiveTest hl _ _ | receiveNotStarted hl _ _ | receiveClear hl _ =>
      exact Or.inr (moves_loop (by rw [hl]; rfl) rfl rfl rfl rfl)
  | receiveFrame hl _ h =>
      exact Or.inr (moves_loop (by rw [hl]; rfl) rfl (FrameStep.held h) rfl rfl)
  | callStop ht | callSend ht | stopWrite ht | stopPointer ht _ | used ht _ =>
      exact Or.inr (moves_thread (by rw [ht]; rfl) rfl rfl rfl rfl)
  | loopLock hl _ hm =>
      refine Or.inr ⟨_, held_setLoop fine rfl, ?_⟩
      change Moves _ _ fine.loop.held _ _
      rw [hl]
      exact .locks hm
  | loopAccess hl _ h =>
      refine Or.inr ⟨_, held_setLoop fine rfl, ?_⟩
      change Moves _ _ fine.loop.held _ _
      rw [hl, held_loopPlace]
      exact .goesOn h.stepsLeft_lt
  | loopUnlock hl =>
      refine Or.inr ⟨_, held_setLoop fine rfl, ?_⟩
      change Moves _ _ fine.loop.held _ _
      rw [hl]
      exact .unlocks
  | threadLock ht _ hm =>
      refine Or.inr ⟨_, held_setThread fine rfl rfl, ?_⟩
      change Moves _ _ (fine.held (some _)) _ _
      rw [held_thread ht]
      exact .locks hm
  | threadAccess ht _ h =>
      refine Or.inr ⟨_, held_setThread fine rfl rfl, ?_⟩
      change Moves _ _ (fine.held (some _)) _ _
      rw [held_thread ht, held_threadPlace]
      exact .goesOn h.stepsLeft_lt
  | threadUnlock ht =>
      refine Or.inr ⟨_, held_setThread fine rfl rfl, ?_⟩
      change Moves _ _ (fine.held (some _)) _ _
      rw [held_thread ht]
      exact .unlocks

theorem Exclusive.step (hi : fine.Exclusive) (h : Step fine action next events) :
    next.Exclusive := by
  obtain ⟨-, hheld, hmutex⟩ | ⟨place, hheld, hmoves⟩ := h.moves
  · intro party
    rw [hheld, hmutex]
    exact hi party
  · intro party
    have hself := hi action.party
    have hother := hi party
    rw [hheld]
    generalize fine.held action.party = before at hmoves hself
    generalize next.mutex = mutex at hmoves
    by_cases he : party = action.party
    · subst he
      rw [Function.update_self]
      cases hmoves with
      | outside => exact hself
      | locks hm => simp
      | goesOn hlt => simpa using hself
      | unlocks => simp
    · rw [Function.update_of_ne he]
      have hne : action.party ≠ party := fun h => he h.symm
      cases hmoves with
      | outside | goesOn hlt => exact hother
      | locks hm =>
          rw [hm] at hother
          simpa [hne] using hother
      | unlocks =>
          rw [hself.mp rfl] at hother
          simpa [hne] using hother

omit [DecidableEq ι] in
theorem exclusive_start (onMessageReceived onConnected onDisconnected : Bool) :
    Exclusive (start onMessageReceived onConnected onDisconnected : FineSystem ι) := by
  intro party
  cases party <;> simp [held, start, LoopPlace.held, ThreadPlace.held]

theorem exclusive_of_exec {onMessageReceived onConnected onDisconnected : Bool}
    {actions : List (FineAction ι)}
    (h : machine.exec (start onMessageReceived onConnected onDisconnected) actions =
      some (fine, events)) : fine.Exclusive :=
  machine.invariant (exclusive_start _ _ _)
    (fun _ _ _ _ hi hs => hi.step (step_cases hs).2) h

-- The steps a thread has left in its critical section; none once the process
-- has ended.
def ownStepsLeft (party : Option ι) (fine : FineSystem ι) : Nat :=
  if fine.fault.isSome then 0 else ((fine.held party).map stepsLeft).getD 0

omit [DecidableEq ι] in
theorem ownStepsLeft_le (party : Option ι) (fine : FineSystem ι) :
    fine.ownStepsLeft party ≤ 15 := by
  unfold ownStepsLeft
  split
  · omega
  · cases fine.held party with
    | none => simp
    | some place => exact (stepsLeft_bounds place).2

-- While a thread has the mutex, its steps use up what it has left, and no
-- other thread adds to that.
theorem ownStepsLeft_step (hi : fine.Exclusive) (hm : fine.mutex = some party)
    (h : machine.step fine action = some (next, events)) :
    next.ownStepsLeft party + (if action.party = party then 1 else 0) ≤
      fine.ownStepsLeft party := by
  obtain ⟨hf, hstep⟩ := step_cases h
  obtain ⟨place, hplace⟩ := Option.isSome_iff_exists.mp ((hi party).mpr hm)
  have hbefore : fine.ownStepsLeft party = stepsLeft place := by
    simp [ownStepsLeft, hf, hplace]
  have hpos := (stepsLeft_bounds place).1
  rw [hbefore]
  obtain ⟨hfault, -, -⟩ | ⟨after, hheld, hmoves⟩ := hstep.moves
  · have hzero : next.ownStepsLeft party = 0 := by
      rw [ownStepsLeft, if_pos (Option.isSome_iff_ne_none.mpr hfault)]
    rw [hzero]
    split <;> omega
  · have hle : next.ownStepsLeft party ≤ ((next.held party).map stepsLeft).getD 0 := by
      unfold ownStepsLeft
      split <;> omega
    by_cases hp : action.party = party
    · subst hp
      rw [hheld, Function.update_self] at hle
      rw [hplace] at hmoves
      generalize next.mutex = mutex at hmoves
      rw [if_pos rfl]
      cases hmoves with
      | @goesOn access later hlt =>
          have hnext : next.ownStepsLeft action.party ≤ stepsLeft later := hle
          change _ ≤ access.stepsLeft
          omega
      | unlocks =>
          have hnext : next.ownStepsLeft action.party ≤ 0 := hle
          simp only [stepsLeft]
          omega
    · rw [hheld, Function.update_of_ne (Ne.symm hp), hplace] at hle
      rw [if_neg hp]
      exact hle

-- The holder of the mutex always has a step to take, whatever Poco answers.
theorem exists_step (hi : fine.Exclusive) (hm : fine.mutex = some party) (hf : fine.fault = none) :
    ∃ input next more, machine.step fine (.of party input) = some (next, more) := by
  have hstep : ∀ action, machine.step fine action =
      match action with
      | .loop input => fine.loopStep input
      | .thread thread input => fine.threadStep thread input := by
    intro action
    change fine.step action = _
    cases action <;> simp [step, hf]
  have hheld := (hi party).mpr hm
  cases party with
  | none =>
      simp only [FineAction.of, hstep]
      change fine.loop.held.isSome = true at hheld
      unfold loopStep
      cases hl : fine.loop with
      | inside pc access =>
          obtain ⟨input, result, ha⟩ := fine.memory.exists_access access
          refine ⟨input, ?_⟩
          cases result <;> simp [ha]
      | leaving pc ending => exact ⟨.tau, _, _, rfl⟩
      | _ =>
          rw [hl] at hheld
          cases hheld
  | some thread =>
      simp only [FineAction.of, hstep]
      change (fine.threads thread).held.isSome = true at hheld
      unfold threadStep
      cases ht : fine.threads thread with
      | inside pc access =>
          obtain ⟨input, result, ha⟩ := fine.memory.exists_access access
          refine ⟨input, ?_⟩
          cases result <;> simp [ha]
      | leaving pc ending => exact ⟨.tau, _, _, rfl⟩
      | _ =>
          rw [ht] at hheld
          cases hheld

-- The thread that has the mutex is in a critical section, and no other one ever
-- is. It can always go on, and gives the mutex back after fifteen steps of its
-- own at the most, however the steps of the other threads fall between them.
theorem mutex_released (onMessageReceived onConnected onDisconnected : Bool)
    {actions : List (FineAction ι)}
    (h : machine.exec (start onMessageReceived onConnected onDisconnected) actions =
      some (fine, events)) :
    (∀ party, (fine.held party).isSome = true ↔ fine.mutex = some party) ∧
      ∀ party, fine.mutex = some party →
        (fine.fault = none →
          ∃ input next more, machine.step fine (.of party input) = some (next, more)) ∧
        ∀ after last more, machine.exec fine after = some (last, more) →
          machine.Along (fun fine _ => fine.mutex = some party) fine after →
            after.countP (fun action => action.party = party) ≤ 15 := by
  have hi := exclusive_of_exec h
  refine ⟨hi, fun party hm => ⟨exists_step hi hm, fun after last more he ha => ?_⟩⟩
  have hcount := machine.exec_countP_le (I := Exclusive) (ownStepsLeft party)
    (fun action => action.party = party)
    (fun fine action next more hi hm hs => ⟨hi.step (step_cases hs).2, by
      simpa using ownStepsLeft_step hi hm hs⟩) hi ha he
  have hle := ownStepsLeft_le party fine
  omega

-- The loop at its first test of the connection.
def firstTest : List (FineAction Unit) :=
  [.loop (.loop .run), .loop (.loop .tau), .loop (.loop .tau), .loop .tau]

theorem firstTest_runs : (machine.exec (start true true true) firstTest).isSome = true := rfl

theorem mutex_released_firstTest : [FineAction.loop .tau, .thread () (.call .stop),
    .loop .tau].countP (fun action : FineAction Unit => action.party = none) ≤ 15 :=
  ((mutex_released true true true (Machine.exec_final firstTest_runs)).2 none rfl).2 _ _ _
    (Machine.exec_final rfl) ⟨rfl, rfl, rfl, trivial⟩

end FineSystem

end Rito

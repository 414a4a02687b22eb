import Rito.LcuWebsocketHandler.Atomicity
import Rito.LcuWebsocketHandler.Sections

namespace Rito

namespace FineSystem

open Relation

variable {ι : Type*} [DecidableEq ι] {fine next last : FineSystem ι} {system after : System ι}
  {events more : List (SystemEvent ι)} {thread : ι}

-- The process held to the steps without the overlap.
noncomputable def careful : Machine (FineSystem ι) (FineAction ι) (SystemEvent ι) :=
  machine.restrict fun fine action => ¬fine.Overlaps action

-- A run of it leads from the one to the other.
def Leads (fine : FineSystem ι) (next : FineSystem ι) (events : List (SystemEvent ι)) : Prop :=
  ∃ actions, careful.exec fine actions = some (next, events)

theorem Leads.refl (fine : FineSystem ι) : fine.Leads fine [] := ⟨[], rfl⟩

theorem Leads.trans (h : fine.Leads next events) (h' : next.Leads last more) :
    fine.Leads last (events ++ more) := by
  obtain ⟨actions, he⟩ := h
  obtain ⟨others, he'⟩ := h'
  exact ⟨actions ++ others, Machine.exec_append.mpr ⟨next, events, more, he, he', rfl⟩⟩

theorem Leads.of_step (action : FineAction ι) (ho : ¬fine.Overlaps action)
    (h : machine.step fine action = some (next, events)) : fine.Leads next events :=
  ⟨[action], Machine.exec_cons.mpr ⟨next, events, [], Machine.restrict_step.mpr ⟨ho, h⟩, rfl,
    (List.append_nil events).symm⟩⟩

-- No stop() has read m_websocket without the lock.
def Quiet (fine : FineSystem ι) : Prop := ∀ thread, (fine.threads thread).uses = none

theorem Quiet.setThread {place : ThreadPlace} (hq : fine.Quiet) (hp : place.uses = none) :
    (fine.setThread thread place).Quiet := by
  intro other
  unfold FineSystem.setThread
  by_cases he : other = thread
  · subst he
    simpa using hp
  · simpa [he] using hq other

theorem Leads.of_loop (input : Input) (hf : fine.fault = none) (hq : fine.Quiet)
    (h : fine.loopStep input = some (next, events)) : fine.Leads next events := by
  refine .of_step (.loop input) ?_ ?_
  · rintro ⟨⟨thread, hu⟩ | hu, -⟩
    · rw [hq thread] at hu
      cases hu
    · exact hu
  · change fine.step (.loop input) = _
    simp only [step, hf, Option.isSome_none, Bool.false_eq_true, if_false, h]

theorem Leads.of_thread (thread : ι) (input : Input) (hf : fine.fault = none) (hq : fine.Quiet)
    (ht : fine.threads thread ≠ .ready .stopSend)
    (h : fine.threadStep thread input = some (next, events)) : fine.Leads next events := by
  refine .of_step (.thread thread input) ?_ ?_
  · rintro ⟨⟨other, hu⟩ | hu, -⟩
    · rw [hq other] at hu
      cases hu
    · exact ht hu
  · change fine.step (.thread thread input) = _
    simp only [step, hf, Option.isSome_none, Bool.false_eq_true, if_false, h]

theorem Leads.of_unlocked (thread : ι) (input : Input) (hf : fine.fault = none) (hw : ¬fine.Writes)
    (h : fine.threadStep thread input = some (next, events)) : fine.Leads next events := by
  refine .of_step (.thread thread input) (fun ho => hw ho.2) ?_
  change fine.step (.thread thread input) = _
  simp only [step, hf, Option.isSome_none, Bool.false_eq_true, if_false, h]

-- A critical section of the loop, as far as no access ends the process.
theorem leads_loop {pc : LoopPc} {here there : Sockets × (Inside ⊕ Ending)}
    (hg : ReflTransGen Accesses here there) (hf : fine.fault = none) (hq : fine.Quiet)
    (hs : fine.memory.toSockets = here.1) (hl : fine.loop = loopPlace pc here.2) :
    fine.Leads { fine.setSockets there.1 with loop := loopPlace pc there.2 } [] := by
  induction hg using ReflTransGen.head_induction_on generalizing fine with
  | refl =>
      have hsame : ({ fine.setSockets there.1 with loop := loopPlace pc there.2 } : FineSystem ι) =
          fine := by
        rw [← hs, ← hl]
        rfl
      rw [hsame]
      exact .refl fine
  | @head here mid ha hg ih =>
      obtain ⟨access, hplace, ha⟩ := ha
      obtain ⟨input, ha⟩ := ha.exists_input
      have hstep : fine.loopStep input =
          some ({ fine.setSockets mid.1 with loop := loopPlace pc mid.2 }, []) := by
        rw [hplace] at hl
        unfold loopStep
        simp only [hl, loopPlace, hs, ha]
      have hrest : Leads { fine.setSockets mid.1 with loop := loopPlace pc mid.2 }
          { fine.setSockets there.1 with loop := loopPlace pc there.2 } [] := ih hf hq rfl rfl
      exact (Leads.of_loop input hf hq hstep).trans hrest

theorem leads_thread {pc : ThreadPc} {here there : Sockets × (Inside ⊕ Ending)}
    (hg : ReflTransGen Accesses here there) (hf : fine.fault = none) (hq : fine.Quiet)
    (hs : fine.memory.toSockets = here.1) (ht : fine.threads thread = threadPlace pc here.2) :
    fine.Leads ((fine.setThread thread (threadPlace pc there.2)).setSockets there.1) [] := by
  induction hg using ReflTransGen.head_induction_on generalizing fine with
  | refl =>
      have hsame : (fine.setThread thread (threadPlace pc there.2)).setSockets there.1 = fine := by
        rw [← hs, ← ht]
        simp only [setThread, setSockets, Function.update_eq_self]
      rw [hsame]
      exact .refl fine
  | @head here mid ha hg ih =>
      obtain ⟨access, hplace, ha⟩ := ha
      obtain ⟨input, ha⟩ := ha.exists_input
      rw [hplace] at ht
      have hstep : fine.threadStep thread input =
          some ((fine.setThread thread (threadPlace pc mid.2)).setSockets mid.1, []) := by
        unfold threadStep
        simp only [ht, threadPlace, hs, ha]
      have hstop : fine.threads thread ≠ .ready .stopSend := by
        rw [ht]
        simp [threadPlace]
      have hplace : ∀ place, (threadPlace pc place).uses = none := by
        intro place
        cases place <;> rfl
      have hmid : ((fine.setThread thread (threadPlace pc mid.2)).setSockets mid.1).Quiet :=
        hq.setThread (hplace mid.2)
      have hrest : Leads ((fine.setThread thread (threadPlace pc mid.2)).setSockets mid.1)
          ((((fine.setThread thread (threadPlace pc mid.2)).setSockets mid.1).setThread thread
            (threadPlace pc there.2)).setSockets there.1) [] :=
        ih hf hmid rfl (Function.update_self ..)
      have hlast : (((fine.setThread thread (threadPlace pc mid.2)).setSockets mid.1).setThread
          thread (threadPlace pc there.2)).setSockets there.1 =
            (fine.setThread thread (threadPlace pc there.2)).setSockets there.1 := by
        simp only [setThread, setSockets, Function.update_idem]
      rw [hlast] at hrest
      exact (Leads.of_thread thread input hf hq hstop hstep).trans hrest

-- Nobody is in the middle of a step, and the memory is as the process of atomic
-- steps has it.
structure Rests (fine : FineSystem ι) (loop : Loop) (threads : ι → ThreadPc) : Prop where
  lifetimes : fine.Lifetimes
  fault : fine.fault = none
  mutex : fine.mutex = none
  handler : fine.memory.handler = loop.handler
  loop : fine.loop = .ready loop.pc
  threads : ∀ thread, fine.threads thread = .ready (threads thread)

theorem Leads.lifetimes (h : fine.Leads next events) (hi : fine.Lifetimes) : next.Lifetimes := by
  obtain ⟨actions, he⟩ := h
  exact machine.invariant hi (fun _ _ _ _ hi hs => hi.step (step_cases hs).2)
    (Machine.exec_restrict.mp he).2

variable {loop done : Loop} {threads : ι → ThreadPc}

omit [DecidableEq ι] in
theorem Rests.quiet (hr : fine.Rests loop threads) : fine.Quiet := by
  intro thread
  rw [hr.threads]
  rfl

omit [DecidableEq ι] in
theorem Rests.life (hr : fine.Rests loop threads) : fine.memory.Life none := by
  have hlife := hr.lifetimes.life
  have hheld : fine.held none = none := by
    change fine.loop.held = none
    rw [hr.loop]
    rfl
  rw [hheld] at hlife
  exact hlife

omit [DecidableEq ι] in
theorem Rests.websocket (hr : fine.Rests loop threads) :
    loop.handler.websocket = fine.memory.object := by
  rw [← hr.handler]
  rfl

omit [DecidableEq ι] in
theorem Rests.not_writes (hr : fine.Rests loop threads) : ¬fine.Writes := by
  rintro ⟨party, hw⟩
  have hheld : fine.held party = none := by
    cases party with
    | none =>
        change fine.loop.held = none
        rw [hr.loop]
        rfl
    | some thread =>
        change (fine.threads thread).held = none
        rw [hr.threads]
        rfl
  rw [hheld] at hw
  cases hw

omit [DecidableEq ι] in
theorem Rests.websocket_none (hr : fine.Rests loop threads) (hw : loop.handler.websocket = none) :
    fine.memory.websocket = none := by
  cases hp : fine.memory.websocket with
  | none => rfl
  | some client =>
      obtain ⟨object, hd⟩ := Option.isSome_iff_exists.mp (hr.life.alive client hp)
      have hobject := hr.websocket
      rw [hw, Sockets.object_of_some hp, hd] at hobject
      cases hobject

omit [DecidableEq ι] in
theorem handler_setSockets (fine : FineSystem ι) (sockets : Sockets) :
    (fine.setSockets sockets).memory.handler =
      { fine.memory.handler with websocket := sockets.object } := rfl

-- What the process comes to when the loop has taken a step.
def Lands (fine : FineSystem ι) (loop : Loop) (threads : ι → ThreadPc) : Prop :=
  match loop.pc with
  | .crashed crash => fine.fault = some (.crash crash)
  | _ => fine.Rests loop threads

section LoopSteps

variable {pc : LoopPc} {access : Inside} {sockets : Sockets}

theorem Rests.lock (hr : fine.Rests loop threads) (hp : loop.pc.entry = some access) :
    fine.Leads { fine with mutex := some none, loop := .inside loop.pc access } [] := by
  apply Leads.of_loop .tau hr.fault hr.quiet
  unfold loopStep
  simp only [hr.loop, hp, hr.mutex, if_true]

-- A critical section of the loop, from its lock to its unlock.
theorem Rests.loopSection {ending : Ending} (hr : fine.Rests loop threads)
    (hp : loop.pc.entry = some access)
    (hg : ReflTransGen Accesses (fine.memory.toSockets, .inl access) (sockets, .inr ending)) :
    ∃ next, fine.Leads next [] ∧
      next.Rests ⟨{ loop.handler with websocket := sockets.object }, LoopPc.exit ending⟩
        threads := by
  have hin : Leads { fine with mutex := some none, loop := .inside loop.pc access }
      { fine.setSockets sockets with mutex := some none, loop := .leaving loop.pc ending } [] :=
    leads_loop hg hr.fault hr.quiet rfl rfl
  have hout : Leads
      { fine.setSockets sockets with mutex := some none, loop := .leaving loop.pc ending }
      { fine.setSockets sockets with mutex := none, loop := .ready (LoopPc.exit ending) } [] :=
    Leads.of_loop .tau hr.fault hr.quiet rfl
  have hleads := ((hr.lock hp).trans hin).trans hout
  refine ⟨_, hleads, hleads.lifetimes hr.lifetimes, hr.fault, rfl, ?_, rfl, hr.threads⟩
  change (fine.setSockets sockets).memory.handler = _
  rw [handler_setSockets, hr.handler]

theorem Rests.loopFault {last : Inside} {fault : Fault} (hr : fine.Rests loop threads)
    (hp : loop.pc.entry = some access)
    (hg : ReflTransGen Accesses (fine.memory.toSockets, .inl access) (sockets, .inl last))
    (ha : Access sockets last (.error fault)) :
    ∃ next, fine.Leads next [] ∧ next.fault = some fault := by
  have hin : Leads { fine with mutex := some none, loop := .inside loop.pc access }
      { fine.setSockets sockets with mutex := some none, loop := .inside loop.pc last } [] :=
    leads_loop hg hr.fault hr.quiet rfl rfl
  obtain ⟨input, ha⟩ := ha.exists_input
  have hout : Leads
      { fine.setSockets sockets with mutex := some none, loop := .inside loop.pc last }
      { fine.setSockets sockets with
        mutex := some none, loop := .inside loop.pc last, fault := some fault } [] := by
    refine Leads.of_loop input hr.fault hr.quiet ?_
    unfold loopStep setSockets
    simp only [ha]
  exact ⟨_, ((hr.lock hp).trans hin).trans hout, rfl⟩

omit [DecidableEq ι] in
theorem Rests.lands (hr : fine.Rests loop threads) (hn : ∀ crash, loop.pc ≠ .crashed crash) :
    fine.Lands loop threads := by
  unfold Lands
  split
  · next crash hpc => exact absurd hpc (hn crash)
  · exact hr

omit [DecidableEq ι] in
theorem lands_of_fault {crash : Crash} (hpc : loop.pc = .crashed crash)
    (hf : fine.fault = some (.crash crash)) : fine.Lands loop threads := by
  unfold Lands
  rw [hpc]
  exact hf

-- A step that is one at either grain.
theorem Rests.plain {action : LoopAction} {out : List LoopEvent} (hr : fine.Rests loop threads)
    (hp : loop.pc.entry = none) (hn : loop.pc ≠ .receive)
    (h : loop.threadStep action = some (done, out)) :
    ∃ next, fine.Leads next (out.map .loop) ∧ next.Lands done threads := by
  have hframe := Loop.threadStep_frame hp hn h loop.handler.websocket
  have hdone := (Prod.mk.inj (Option.some.inj (h.symm.trans hframe))).1
  have hstep : ∃ next, fine.loopStep (.loop action) = some (next, out.map .loop) ∧
      next.memory = fine.memory.keepSockets done.handler ∧ next.mutex = fine.mutex ∧
      next.loop = .ready done.pc ∧ next.threads = fine.threads ∧
      next.fault = match done.pc with
        | .crashed crash => some (.crash crash)
        | _ => none := by
    unfold loopStep
    simp only [hr.loop, hp, hn, if_false, plainStep, hr.handler, h]
    exact ⟨_, rfl, rfl, rfl, rfl, rfl, rfl⟩
  obtain ⟨next, hstep, hmemory, hmutex, hloop, hthreads, hfault⟩ := hstep
  have hleads := Leads.of_loop (.loop action) hr.fault hr.quiet hstep
  refine ⟨next, hleads, ?_⟩
  by_cases hcrash : ∃ crash, done.pc = .crashed crash
  · obtain ⟨crash, hcrash⟩ := hcrash
    apply lands_of_fault hcrash
    simp only [hfault, hcrash]
  · apply Rests.lands _ fun crash he => hcrash ⟨crash, he⟩
    refine ⟨hleads.lifetimes hr.lifetimes, ?_, hmutex.trans hr.mutex, ?_, hloop, fun thread => ?_⟩
    · rw [hfault]
      split
      · next he => exact absurd ⟨_, he⟩ hcrash
      · rfl
    · rw [hmemory, hdone, hr.websocket]
      rfl
    · rw [hthreads, hr.threads]

end LoopSteps

section Receive

-- Where the for loop of receive_message leaves the loop, by how it ends.
inductive FramesEnd (client : Nat) : Except Thrown Bytes → Bool → LoopPlace → List LoopEvent → Prop
  | returned {message disconnected} :
      FramesEnd client (.ok message) disconnected (.ready (.deliver message)) [.received message]
  | timedOut {what disconnected} :
      FramesEnd client (.error (.transport (.timeout what))) disconnected (.ready .head) []
  | tooLong {exception} : FramesEnd client (.error (.rito exception)) false (.ready .head) []
  | closed {exception} : FramesEnd client (.error (.rito exception)) true (.receiveClear client) []
  | failed {exception disconnected} (he : ∀ what, exception ≠ .timeout what) :
      FramesEnd client (.error (.transport exception)) disconnected (.receiveClear client) []

variable {client left : Nat} {object : HttpsWebsocketClient} {messageBuffer : Bytes}
  {transport : List FrameResult} {result : Except Thrown Bytes} {disconnected : Bool}

-- One iteration.
theorem leads_frame {place : LoopPlace} {out : List LoopEvent} (input : Input)
    (hf : fine.fault = none) (hq : fine.Quiet) (hd : fine.memory.clients client = some object)
    (hl : fine.loop = .receiveFrame client left messageBuffer)
    (h : LoopPlace.receiveStep client left messageBuffer input = some (place, out)) :
    fine.Leads { fine with loop := place } (out.map .loop) := by
  apply Leads.of_loop input hf hq
  unfold loopStep
  simp only [hl, Sockets.deref_of_some hd, h, Option.map_some]

theorem receiveStep_throws {exception : TransportException}
    (he : ∀ what, exception ≠ .timeout what) :
    LoopPlace.receiveStep client (left + 1) messageBuffer (.frame (.throws exception)) =
      some (.receiveClear client, []) := by
  cases exception with
  | timeout what => exact absurd rfl (he what)
  | _ => rfl

theorem leads_frames
    (h : HttpsWebsocketClient.receiveFrames left messageBuffer transport =
      some (result, disconnected, []))
    (hf : fine.fault = none) (hq : fine.Quiet) (hd : fine.memory.clients client = some object)
    (hl : fine.loop = .receiveFrame client left messageBuffer) :
    ∃ place out, FramesEnd client result disconnected place out ∧
      fine.Leads { fine with loop := place } (out.map .loop) := by
  induction transport generalizing left messageBuffer fine with
  | nil =>
      cases left with
      | zero =>
          obtain ⟨rfl, rfl, -⟩ := by
            simpa [HttpsWebsocketClient.receiveFrames] using h
          exact ⟨_, _, .tooLong, leads_frame .tau hf hq hd hl rfl⟩
      | succ left => cases h
  | cons frame rest ih =>
      cases left with
      | zero => simp [HttpsWebsocketClient.receiveFrames] at h
      | succ left =>
          cases frame with
          | throws exception =>
              simp only [HttpsWebsocketClient.receiveFrames, Option.some.injEq, Prod.mk.injEq] at h
              obtain ⟨rfl, rfl, -⟩ := h
              by_cases ht : ∃ what, exception = .timeout what
              · obtain ⟨what, rfl⟩ := ht
                exact ⟨_, _, .timedOut,
                  leads_frame (.frame (.throws (.timeout what))) hf hq hd hl rfl⟩
              · have he : ∀ what, exception ≠ .timeout what := fun what he => ht ⟨what, he⟩
                exact ⟨_, _, .failed he, leads_frame _ hf hq hd hl (receiveStep_throws he)⟩
          | frame flags payload =>
              rw [HttpsWebsocketClient.receiveFrames] at h
              by_cases hc : payload.length = 0 ∧ flags = 0
              · rw [if_pos hc] at h
                obtain ⟨rfl, rfl, -⟩ := by simpa using h
                exact ⟨_, _, .closed, leads_frame (.frame (.frame flags payload)) hf hq hd hl (by
                  simp only [LoopPlace.receiveStep, hc, and_self, if_true])⟩
              rw [if_neg hc] at h
              by_cases hfin : flags &&& frameFlagFin ≠ 0
              · rw [if_pos hfin] at h
                obtain ⟨rfl, rfl, -⟩ := by simpa using h
                exact ⟨_, _, .returned, leads_frame (.frame (.frame flags payload)) hf hq hd hl (by
                  simp only [LoopPlace.receiveStep, if_neg hc, if_pos hfin])⟩
              · rw [if_neg hfin] at h
                have hstep : LoopPlace.receiveStep client (left + 1) messageBuffer
                    (.frame (.frame flags payload)) =
                      some (.receiveFrame client left (messageBuffer ++ payload), []) := by
                  simp only [LoopPlace.receiveStep, if_neg hc, if_neg hfin]
                have hrest : ∃ place out, FramesEnd client result disconnected place out ∧
                    Leads { fine with loop := .receiveFrame client left (messageBuffer ++ payload) }
                      { fine with loop := place } (out.map .loop) := ih h hf hq hd rfl
                obtain ⟨place, out, hends, hleads⟩ := hrest
                exact ⟨place, out, hends, (leads_frame _ hf hq hd hl hstep).trans hleads⟩

-- The client of m_websocket, by its number.
omit [DecidableEq ι] in
theorem Rests.exists_client (hr : fine.Rests loop threads)
    (hw : loop.handler.websocket = some object) :
    ∃ client, fine.memory.websocket = some client ∧ fine.memory.clients client = some object := by
  rw [hr.websocket] at hw
  cases hp : fine.memory.websocket with
  | none =>
      rw [Sockets.object_of_none hp] at hw
      cases hw
  | some client =>
      rw [Sockets.object_of_some hp] at hw
      exact ⟨client, rfl, hw⟩

-- The loop goes on with the client as it was.
theorem Rests.goes (hr : fine.Rests loop threads) {pc : LoopPc}
    (hleads : fine.Leads { fine with loop := .ready pc } events) :
    Rests { fine with loop := .ready pc } ⟨loop.handler, pc⟩ threads :=
  ⟨hleads.lifetimes hr.lifetimes, hr.fault, hr.mutex, hr.handler, rfl, hr.threads⟩

-- m_connected = false, and then the top of the loop.
theorem Rests.cleared (hr : fine.Rests loop threads) (hw : fine.memory.websocket = some client)
    (hd : fine.memory.clients client = some object)
    (hleads : fine.Leads { fine with loop := .receiveClear client } events) :
    ∃ next, fine.Leads next events ∧
      next.Rests ⟨{ loop.handler with websocket := some { object with connected := false } }, .head⟩
        threads := by
  have hclear : Leads { fine with loop := .receiveClear client }
      { fine.setSockets (fine.memory.set client (some { object with connected := false })) with
        loop := .ready .head } [] := by
    refine Leads.of_loop .tau hr.fault hr.quiet ?_
    unfold loopStep
    simp only [Sockets.deref_of_some hd]
    rfl
  have hall := hleads.trans hclear
  rw [List.append_nil] at hall
  refine ⟨_, hall, hall.lifetimes hr.lifetimes, hr.fault, hr.mutex, ?_, rfl, hr.threads⟩
  have hobject : (fine.memory.set client (some { object with connected := false })).object =
      some { object with connected := false } := Sockets.object_set hw
  change (fine.setSockets _).memory.handler = _
  rw [handler_setSockets, hobject, hr.handler]

theorem receiveFrames_of_receiveMessage {after : HttpsWebsocketClient} {socket : WebSocket}
    {answer : Except Exception Bytes} (hs : object.websocket = some socket)
    (h : object.receiveMessage transport = some (answer, after, [])) :
    ∃ result disconnected, HttpsWebsocketClient.receiveFrames maxFramesPerMessage [] transport =
      some (result, disconnected, []) := by
  simp only [HttpsWebsocketClient.receiveMessage, hs] at h
  split at h
  · cases h
  all_goals
    next hframes =>
      obtain ⟨-, -, rfl⟩ := by simpa using h
      exact ⟨_, _, hframes⟩

-- receive_message() of the loop, on a client that there is.
theorem Rests.receive {after : HttpsWebsocketClient} {answer : Except Exception Bytes}
    (hr : fine.Rests loop threads) (hpc : loop.pc = .receive)
    (hw : loop.handler.websocket = some object)
    (h : object.receiveMessage transport = some (answer, after, [])) :
    ∃ next, fine.Leads next
        ((match answer with
          | .ok message => [LoopEvent.received message]
          | .error _ => []).map .loop) ∧
      next.Rests ⟨{ loop.handler with websocket := some after },
        match answer with
        | .ok message => .deliver message
        | .error _ => .head⟩ threads := by
  obtain ⟨client, hp, hd⟩ := hr.exists_client hw
  have hkeep : { loop.handler with websocket := some object } = loop.handler := by rw [← hw]
  have hpointer : fine.Leads { fine with loop := .receiveTest client } [] := by
    apply Leads.of_loop .tau hr.fault hr.quiet
    unfold loopStep
    simp only [hr.loop, hpc, LoopPc.entry, receivePointer, Sockets.pointer_of_some hp, if_true]
  cases hs : object.websocket with
  | none =>
      simp only [HttpsWebsocketClient.receiveMessage, hs, Option.some.injEq, Prod.mk.injEq] at h
      obtain ⟨rfl, rfl, -⟩ := h
      have htest : Leads { fine with loop := .receiveTest client }
          { fine with loop := .ready .head } [] := by
        refine Leads.of_loop .tau hr.fault hr.quiet ?_
        unfold loopStep
        simp only [Sockets.deref_of_some hd, hs, Option.isSome_none, Bool.false_eq_true, if_false]
      have hleads := hpointer.trans htest
      exact ⟨_, hleads, hkeep ▸ hr.goes hleads⟩
  | some socket =>
      have htest : Leads { fine with loop := .receiveTest client }
          { fine with loop := .receiveFrame client maxFramesPerMessage [] } [] := by
        refine Leads.of_loop .tau hr.fault hr.quiet ?_
        unfold loopStep
        simp only [Sockets.deref_of_some hd, hs, Option.isSome_some, if_true]
      obtain ⟨result, disconnected, hframes⟩ := receiveFrames_of_receiveMessage hs h
      have hloop : ∃ place out, FramesEnd client result disconnected place out ∧
          Leads { fine with loop := .receiveFrame client maxFramesPerMessage [] }
            { fine with loop := place } (out.map .loop) :=
        leads_frames hframes hr.fault hr.quiet hd rfl
      obtain ⟨place, out, hends, hleads⟩ := hloop
      have hall := (hpointer.trans htest).trans hleads
      cases hends with
      | @returned message =>
          have hm : object.receiveMessage transport = some (.ok message, object, []) := by
            simp only [HttpsWebsocketClient.receiveMessage, hs, hframes]
          obtain ⟨rfl, rfl, -⟩ := by simpa using hm.symm.trans h
          exact ⟨_, hall, hkeep ▸ hr.goes hall⟩
      | timedOut =>
          have hm : object.receiveMessage transport =
              some (.error HttpsWebsocketClient.notStarted, object, []) := by
            simp only [HttpsWebsocketClient.receiveMessage, hs, hframes]
          obtain ⟨rfl, rfl, -⟩ := by simpa using hm.symm.trans h
          exact ⟨_, hall, hkeep ▸ hr.goes hall⟩
      | @tooLong exception =>
          have hm : object.receiveMessage transport = some (.error exception, object, []) := by
            simp only [HttpsWebsocketClient.receiveMessage, hs, hframes, Bool.not_false,
              Bool.and_true]
            rw [← hs]
          obtain ⟨rfl, rfl, -⟩ := by simpa using hm.symm.trans h
          exact ⟨_, hall, hkeep ▸ hr.goes hall⟩
      | @closed exception =>
          have hm : object.receiveMessage transport =
              some (.error exception, { object with connected := false }, []) := by
            simp [HttpsWebsocketClient.receiveMessage, hs, hframes]
          obtain ⟨rfl, rfl, -⟩ := by simpa using hm.symm.trans h
          exact hr.cleared hp hd hall
      | @failed exception _ he =>
          have hm : object.receiveMessage transport =
              some (.error (.unknown exception.what), { object with connected := false }, []) := by
            cases exception with
            | timeout what => exact absurd rfl (he what)
            | _ => simp only [HttpsWebsocketClient.receiveMessage, hs, hframes]
          obtain ⟨rfl, rfl, -⟩ := by simpa using hm.symm.trans h
          exact hr.cleared hp hd hall

end Receive

section Expand

variable {handler : LcuWebsocketHandler}

-- The reset of the stop branch.
theorem Rests.stopReset (hr : fine.Rests ⟨handler, .stopReset⟩ threads) :
    ∃ next, fine.Leads next [] ∧
      next.Lands ⟨{ handler with websocket := none }, .stopNotify⟩ threads := by
  obtain ⟨sockets, hw, hg⟩ := goes_reset hr.life .stop
  obtain ⟨next, hleads, hnext⟩ := hr.loopSection rfl hg
  rw [Sockets.object_of_none hw] at hnext
  exact ⟨next, hleads, hnext.lands (fun crash hc => by cases hc)⟩

-- is_connected() in the loop.
theorem Rests.check (hr : fine.Rests ⟨handler, .check⟩ threads) :
    ∃ next, fine.Leads next [] ∧
      next.Lands ⟨handler, LoopPc.exit (.tested handler.isConnected)⟩ threads := by
  obtain ⟨next, hleads, hnext⟩ := hr.loopSection rfl (goes_tested hr.life hr.websocket)
  have hkeep : { handler with websocket := fine.memory.object } = handler := by
    rw [← hr.websocket]
  refine ⟨next, hleads, (hkeep ▸ hnext).lands fun crash hc => ?_⟩
  cases hconnected : handler.isConnected <;> simp [hconnected, LoopPc.exit] at hc

theorem Rests.reconnect (outcome : ReconnectOutcome)
    (hr : fine.Rests ⟨handler, .reconnect⟩ threads) :
    ∃ result after next, handler.reconnect outcome = (completion result, after) ∧
      fine.Leads next [] ∧ next.Lands ⟨after, LoopPc.exit (.reconnected result)⟩ threads := by
  obtain ⟨sockets, result, hg, hc⟩ := goes_reconnected outcome hr.life hr.websocket
  obtain ⟨next, hleads, hnext⟩ := hr.loopSection rfl hg
  refine ⟨result, _, next, hc, hleads, hnext.lands fun crash he => ?_⟩
  cases result <;> cases he

-- A step of the loop is a run of accesses.
theorem Rests.loopStep {action : LoopAction} {out : List LoopEvent} (hr : fine.Rests loop threads)
    (h : loop.threadStep action = some (done, out)) :
    ∃ next, fine.Leads next (out.map .loop) ∧ next.Lands done threads := by
  by_cases hplain : loop.pc.entry = none ∧ loop.pc ≠ .receive
  · exact hr.plain hplain.1 hplain.2 h
  cases Loop.threadStep_cases h with
  | reset _ | resetShutdown _ => exact hr.stopReset
  | shutdownThrows hs =>
      have hobject := hr.websocket
      dsimp only at hobject
      rw [hobject] at hs
      obtain ⟨sockets, access, hg, ha⟩ := goes_shutdown .stop hs
      obtain ⟨next, hleads, hfault⟩ := hr.loopFault rfl hg ha
      exact ⟨next, hleads, lands_of_fault rfl hfault⟩
  | connectionUp hc | connectionDown hc =>
      have hcheck := hr.check
      rw [hc] at hcheck
      exact hcheck
  | received hw hm | receiveFailed hw hm =>
      obtain ⟨next, hleads, hnext⟩ := hr.receive rfl hw hm
      exact ⟨next, hleads, hnext.lands fun crash hc => by cases hc⟩
  | receiveNull hw =>
      have hp := hr.websocket_none hw
      have hstep : fine.Leads { fine with fault := some (.crash .nullDereference) } [] := by
        apply Leads.of_loop .tau hr.fault hr.quiet
        unfold FineSystem.loopStep
        simp only [hr.loop, LoopPc.entry, receivePointer, Sockets.pointer_of_none hp, if_true]
      exact ⟨_, hstep, lands_of_fault rfl rfl⟩
  | @reconnectReturned handler outcome after hc =>
      obtain ⟨result, other, next, he, hleads, hnext⟩ := hr.reconnect outcome
      obtain ⟨hresult, rfl⟩ := Prod.mk.inj (hc.symm.trans he)
      cases result with
      | ok _ => exact ⟨next, hleads, hnext⟩
      | error exception => cases hresult
  | @reconnectThrew handler outcome after exception hc =>
      obtain ⟨result, other, next, he, hleads, hnext⟩ := hr.reconnect outcome
      obtain ⟨hresult, rfl⟩ := Prod.mk.inj (hc.symm.trans he)
      cases result with
      | ok _ => cases hresult
      | error exception => exact ⟨next, hleads, hnext⟩
  | @reconnectTerminated handler outcome after hc =>
      obtain ⟨result, other, next, he, -, -⟩ := hr.reconnect outcome
      obtain ⟨hresult, -⟩ := Prod.mk.inj (hc.symm.trans he)
      cases result <;> cases hresult
  | setStop =>
      rw [System.threadStep_setStop] at h
      cases h
  | sendFrame =>
      rw [System.threadStep_sendFrame] at h
      cases h
  | notifySilent site _ | notifyReturns site _ | notifyThrows site _ =>
      cases site <;> exact absurd ⟨rfl, by simp⟩ hplain
  | _ => exact absurd ⟨rfl, by simp⟩ hplain

end Expand

end FineSystem

end Rito

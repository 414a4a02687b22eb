import Rito.LcuWebsocketHandler.Expansion

namespace Rito

-- A thread ends the process where it uses m_websocket.
theorem LcuWebsocketHandler.useWebsocket_of_crash {handler : LcuWebsocketHandler} {pc : ThreadPc}
    {action : ThreadAction} {crash : Crash}
    (h : handler.threadStep pc action = some (.error crash)) :
    ∃ message, pc.uses = some message ∧
      handler.useWebsocket message action = some (.error crash) := by
  cases callStep h with
  | stopCrashed _ | sendCrashed _ =>
      obtain ⟨used, hu, he⟩ := Option.map_eq_some_iff.mp h
      cases used with
      | error other =>
          cases he
          exact ⟨_, rfl, hu⟩
      | ok _ => cases he

namespace FineSystem

open Relation

variable {ι : Type*} [DecidableEq ι] {fine next : FineSystem ι} {system after : System ι}
  {events : List (SystemEvent ι)} {thread : ι} {loop : Loop} {threads : ι → ThreadPc}

section ThreadSteps

variable {access : Inside} {sockets : Sockets}

-- Another thread has taken a step that left the loop where it was.
theorem Rests.update {place : ThreadPc} {handler : LcuWebsocketHandler}
    (hr : fine.Rests loop threads) (hleads : fine.Leads next events) (hf : next.fault = none)
    (hm : next.mutex = none) (hh : next.memory.handler = handler) (hl : next.loop = fine.loop)
    (ht : next.threads = Function.update fine.threads thread (.ready place)) :
    next.Rests ⟨handler, loop.pc⟩ (Function.update threads thread place) := by
  refine ⟨hleads.lifetimes hr.lifetimes, hf, hm, hh, hl.trans hr.loop, fun other => ?_⟩
  rw [ht]
  by_cases he : other = thread
  · subst he
    simp
  · simpa [he] using hr.threads other

theorem Rests.threadLock (hr : fine.Rests loop threads)
    (hp : (threads thread).entry = some access) :
    fine.Leads { fine.setThread thread (.inside (threads thread) access) with
      mutex := some (some thread) } [] := by
  apply Leads.of_thread thread .tau hr.fault hr.quiet
  · rw [hr.threads thread]
    intro he
    rw [ThreadPlace.ready.inj he] at hp
    cases hp
  · unfold threadStep
    simp only [hr.threads thread, hp, hr.mutex, if_true]

-- A thread goes on in its critical section.
theorem Rests.threadGoes {place : Inside ⊕ Ending} (hr : fine.Rests loop threads)
    (hp : (threads thread).entry = some access)
    (hg : ReflTransGen Accesses (fine.memory.toSockets, .inl access) (sockets, place)) :
    ∃ mid, fine.Leads mid [] ∧ mid.fault = none ∧ mid.memory.toSockets = sockets ∧
      mid.memory.handler = { loop.handler with websocket := sockets.object } ∧
      mid.loop = fine.loop ∧ mid.threads = Function.update fine.threads thread
        (threadPlace (threads thread) place) := by
  have hq : ({ fine.setThread thread (.inside (threads thread) access) with
      mutex := some (some thread) } : FineSystem ι).Quiet := hr.quiet.setThread rfl
  have hin : Leads { fine.setThread thread (.inside (threads thread) access) with
      mutex := some (some thread) } ((({ fine.setThread thread
        (.inside (threads thread) access) with mutex := some (some thread) } :
          FineSystem ι).setThread thread (threadPlace (threads thread) place)).setSockets sockets) [] :=
    leads_thread hg hr.fault hq rfl (Function.update_self ..)
  refine ⟨_, (hr.threadLock hp).trans hin, hr.fault, rfl, ?_, rfl, Function.update_idem ..⟩
  rw [handler_setSockets, ← hr.handler]
  rfl

theorem Quiet.of_update {place : ThreadPlace} (hq : fine.Quiet)
    (hp : place.uses = none) (ht : next.threads = Function.update fine.threads thread place) :
    next.Quiet := by
  intro other
  rw [ht]
  exact hq.setThread hp other

theorem Rests.threadSection {ending : Ending} (hr : fine.Rests loop threads)
    (hp : (threads thread).entry = some access)
    (hg : ReflTransGen Accesses (fine.memory.toSockets, .inl access) (sockets, .inr ending)) :
    ∃ next, fine.Leads next (((threads thread).exit ending).2.map (.thread thread)) ∧
      next.Rests ⟨{ loop.handler with websocket := sockets.object }, loop.pc⟩
        (Function.update threads thread ((threads thread).exit ending).1) := by
  obtain ⟨mid, hin, hf, -, hh, hl, ht⟩ := hr.threadGoes hp hg
  have hplace : mid.threads thread = .leaving (threads thread) ending := by
    rw [ht, Function.update_self]
    rfl
  have hout : mid.Leads
      { mid.setThread thread (.ready ((threads thread).exit ending).1) with mutex := none }
      (((threads thread).exit ending).2.map (.thread thread)) := by
    apply Leads.of_thread thread .tau hf (hr.quiet.of_update rfl ht)
    · rw [hplace]
      simp
    · unfold threadStep
      simp only [hplace]
  have hall := hin.trans hout
  refine ⟨_, hall, hr.update hall hf rfl hh hl ?_⟩
  simp only [setThread, ht, Function.update_idem]

theorem Rests.threadFault {last : Inside} {fault : Fault} (hr : fine.Rests loop threads)
    (hp : (threads thread).entry = some access)
    (hg : ReflTransGen Accesses (fine.memory.toSockets, .inl access) (sockets, .inl last))
    (ha : Access sockets last (.error fault)) :
    ∃ next, fine.Leads next [] ∧ next.fault = some fault := by
  obtain ⟨mid, hin, hf, hs, -, -, ht⟩ := hr.threadGoes hp hg
  obtain ⟨input, ha⟩ := ha.exists_input
  have hplace : mid.threads thread = .inside (threads thread) last := by
    rw [ht, Function.update_self]
    rfl
  have hout : mid.Leads { mid with fault := some fault } [] := by
    apply Leads.of_thread thread input hf (hr.quiet.of_update rfl ht)
    · rw [hplace]
      simp
    · unfold threadStep
      simp only [hplace, hs, ha]
  exact ⟨_, hin.trans hout, rfl⟩

-- The use of m_websocket in stop(), while no thread is in a critical section.
theorem Rests.stopPointer {client : Nat} (hr : fine.Rests loop threads)
    (ht : threads thread = .stopSend) (hp : fine.memory.websocket = some client) :
    fine.Leads (fine.setThread thread (.unlocked client)) [] := by
  apply Leads.of_unlocked thread .tau hr.fault hr.not_writes
  unfold FineSystem.threadStep
  simp only [hr.threads thread, ht, ThreadPc.entry, plainThreadStep, FineSystem.stopPointer,
    Sockets.pointer_of_some hp]

theorem Rests.not_writes_unlocked {client : Nat} (hr : fine.Rests loop threads) :
    ¬(fine.setThread thread (.unlocked client)).Writes := by
  rintro ⟨party, hw⟩
  refine hr.not_writes ⟨party, ?_⟩
  cases party with
  | none => exact hw
  | some other =>
      by_cases he : other = thread
      · subst he
        simp [held, setThread, ThreadPlace.held] at hw
      · simpa [held, setThread, he] using hw

theorem Rests.stopUsed {client : Nat} {input : Input} {sent : Bool}
    (hr : fine.Rests loop threads) (ht : threads thread = .stopSend)
    (hp : fine.memory.websocket = some client)
    (h : fine.memory.send exitMessage client input = some (.ok (sent, sockets))) :
    ∃ next, fine.Leads next [.thread thread .stopReturned] ∧
      next.Rests ⟨{ loop.handler with websocket := sockets.object }, loop.pc⟩
        (Function.update threads thread .outside) := by
  have hout : (fine.setThread thread (.unlocked client)).Leads
      (((fine.setThread thread (.unlocked client)).setThread thread (.ready .outside)).setSockets
        sockets) [.thread thread .stopReturned] := by
    refine Leads.of_unlocked thread input hr.fault hr.not_writes_unlocked ?_
    unfold FineSystem.threadStep
    simp only [setThread, Function.update_self, h]
  have hall := (hr.stopPointer ht hp).trans hout
  refine ⟨_, hall, hr.update hall hr.fault hr.mutex ?_ rfl (Function.update_idem ..)⟩
  rw [handler_setSockets, ← hr.handler]
  rfl

theorem Rests.stopFault {client : Nat} {input : Input} {fault : Fault}
    (hr : fine.Rests loop threads) (ht : threads thread = .stopSend)
    (hp : fine.memory.websocket = some client)
    (h : fine.memory.send exitMessage client input = some (.error fault)) :
    ∃ next, fine.Leads next [] ∧ next.fault = some fault := by
  have hout : (fine.setThread thread (.unlocked client)).Leads
      { fine.setThread thread (.unlocked client) with fault := some fault } [] := by
    refine Leads.of_unlocked thread input hr.fault hr.not_writes_unlocked ?_
    unfold FineSystem.threadStep
    simp only [setThread, Function.update_self, h]
  exact ⟨_, (hr.stopPointer ht hp).trans hout, rfl⟩

-- is_connected() in another thread.
theorem Rests.tested (hr : fine.Rests loop threads)
    (hp : (threads thread).entry = some .testPointer) :
    ∃ next, fine.Leads next
        (((threads thread).exit (.tested loop.handler.isConnected)).2.map (.thread thread)) ∧
      next.Rests loop (Function.update threads thread
        ((threads thread).exit (.tested loop.handler.isConnected)).1) := by
  obtain ⟨next, hleads, hnext⟩ := hr.threadSection hp (goes_tested hr.life hr.websocket)
  have hkeep : { loop.handler with websocket := fine.memory.object } = loop.handler := by
    rw [← hr.websocket]
  rw [hkeep] at hnext
  exact ⟨next, hleads, hnext⟩

-- A step of another thread that returns.
theorem Rests.threadStep {action : ThreadAction} {handler : LcuWebsocketHandler} {pc : ThreadPc}
    {out : List ThreadEvent} (hr : fine.Rests loop threads)
    (h : loop.handler.threadStep (threads thread) action = some (.ok (handler, pc, out))) :
    ∃ next, fine.Leads next (out.map (.thread thread)) ∧
      next.Rests ⟨handler, loop.pc⟩ (Function.update threads thread pc) := by
  generalize hplace : threads thread = place at h
  have hready : fine.threads thread = .ready place := by rw [hr.threads, hplace]
  cases LcuWebsocketHandler.callStep h with
  | callStop =>
      have hleads : fine.Leads (fine.setThread thread (.ready .stopWrite)) [] := by
        apply Leads.of_thread thread (.call .stop) hr.fault hr.quiet
        · simp [hready]
        · unfold FineSystem.threadStep
          simp only [hready, ThreadPc.entry, plainThreadStep]
      exact ⟨_, hleads, hr.update hleads hr.fault hr.mutex hr.handler rfl rfl⟩
  | callSend message =>
      have hleads : fine.Leads (fine.setThread thread (.ready (.sendCheck message))) [] := by
        apply Leads.of_thread thread (.call (.sendMessage message)) hr.fault hr.quiet
        · simp [hready]
        · unfold FineSystem.threadStep
          simp only [hready, ThreadPc.entry, plainThreadStep]
      exact ⟨_, hleads, hr.update hleads hr.fault hr.mutex hr.handler rfl rfl⟩
  | stopWrite =>
      have hleads : fine.Leads { fine.setThread thread (.ready .stopCheck) with
          memory := { fine.memory with stop := true } } [] := by
        apply Leads.of_thread thread .tau hr.fault hr.quiet
        · simp [hready]
        · unfold FineSystem.threadStep
          simp only [hready, ThreadPc.entry, plainThreadStep]
      refine ⟨_, hleads, hr.update hleads hr.fault hr.mutex ?_ rfl rfl⟩
      rw [← hr.handler]
      rfl
  | stopConnected hc | stopDisconnected hc | sendConnected message hc
  | sendDisconnected message hc =>
      have htest : (threads thread).entry = some .testPointer := by
        rw [hplace]
        rfl
      obtain ⟨next, hleads, hnext⟩ := hr.tested htest
      rw [hplace, hc] at hleads hnext
      exact ⟨next, hleads, hnext⟩
  | stopUsed hu =>
      cases hu with
      | noSocket hw hs =>
          obtain ⟨client, hp, hd⟩ := hr.exists_client hw
          have hsend : fine.memory.send exitMessage client .tau =
              some (.ok (false, fine.memory.toSockets)) := by
            simp only [Sockets.send, hd, hs, Option.isNone_none, if_true]
          obtain ⟨next, hleads, hnext⟩ := hr.stopUsed hplace hp hsend
          have hkeep : { loop.handler with websocket := fine.memory.object } = loop.handler := by
            rw [← hr.websocket]
          rw [hkeep] at hnext
          exact ⟨next, hleads, hnext⟩
      | @sent client socket hw hs =>
          obtain ⟨number, hp, hd⟩ := hr.exists_client hw
          have hsend : fine.memory.send exitMessage number (.transport (.ok ())) =
              some (.ok (true, fine.memory.set number
                (some (client.sendMessage exitMessage (.ok ())).2))) := by
            simp only [Sockets.send, hd, hs, Option.isSome_some, if_true,
              HttpsWebsocketClient.sendMessage]
          obtain ⟨next, hleads, hnext⟩ := hr.stopUsed hplace hp hsend
          rw [Sockets.object_set hp] at hnext
          exact ⟨next, hleads, hnext⟩
  | @sendUsed message action sent after hu =>
      obtain ⟨sockets, hg, rfl⟩ := goes_sent hr.life hr.websocket hu
      obtain ⟨next, hleads, hnext⟩ := hr.threadSection (by rw [hplace]; rfl) hg
      rw [hplace] at hleads hnext
      exact ⟨next, hleads, hnext⟩

theorem Rests.stopCrash {action : ThreadAction} {crash : Crash} (hr : fine.Rests loop threads)
    (ht : threads thread = .stopSend)
    (h : loop.handler.useWebsocket exitMessage action = some (.error crash)) :
    ∃ next, fine.Leads next [] ∧ next.fault = some (.crash crash) := by
  cases LcuWebsocketHandler.use_ends h with
  | null hw =>
      have hp := hr.websocket_none hw
      have hleads : fine.Leads { fine with fault := some (.crash .nullDereference) } [] := by
        apply Leads.of_unlocked thread .tau hr.fault hr.not_writes
        unfold FineSystem.threadStep
        simp only [hr.threads thread, ht, ThreadPc.entry, plainThreadStep,
          FineSystem.stopPointer, Sockets.pointer_of_none hp]
      exact ⟨_, hleads, rfl⟩
  | @threw client exception hw =>
      obtain ⟨number, hp, hd⟩ := hr.exists_client hw
      have hsocket : client.websocket.isSome = true := by
        by_contra hs
        simp [LcuWebsocketHandler.useWebsocket, hw, hs] at h
      obtain ⟨socket, hs⟩ := Option.isSome_iff_exists.mp hsocket
      have hsend : fine.memory.send exitMessage number (.transport (.error exception)) =
          some (.error (.crash .terminated)) := by
        simp only [Sockets.send, hd, hs, Option.isSome_some, if_true,
          HttpsWebsocketClient.sendMessage]
      exact hr.stopFault ht hp hsend

-- And one that ends the process.
theorem Rests.threadCrash {action : ThreadAction} {crash : Crash} (hr : fine.Rests loop threads)
    (h : loop.handler.threadStep (threads thread) action = some (.error crash)) :
    ∃ next, fine.Leads next [] ∧ next.fault = some (.crash crash) := by
  obtain ⟨message, hplace, huse⟩ := LcuWebsocketHandler.useWebsocket_of_crash h
  cases hpc : threads thread with
  | stopSend =>
      rw [hpc] at hplace
      obtain rfl := Option.some.inj hplace
      exact hr.stopCrash hpc huse
  | sendUse other =>
      rw [hpc] at hplace
      obtain rfl := Option.some.inj hplace
      obtain ⟨sockets, access, hg, ha⟩ := goes_crashed hr.life hr.websocket huse
      exact hr.threadFault (by rw [hpc]; rfl) hg ha
  | _ =>
      rw [hpc] at hplace
      cases hplace

end ThreadSteps

-- The process of accesses is at rest where the other one is.
def Realises (system : System ι) (fine : FineSystem ι) : Prop :=
  match system.crash with
  | none => fine.Rests system.loop system.threads
  | some crash => fine.fault = some (.crash crash)

omit [DecidableEq ι] in
theorem Realises.fault (h : fine.Realises system) :
    fine.fault = system.crash.map .crash := by
  unfold Realises at h
  split at h
  · next hc =>
      rw [hc]
      exact h.fault
  · next crash hc =>
      rw [hc]
      exact h

omit [DecidableEq ι] in
theorem Lands.realises (h : fine.Lands loop threads) (mark : Nat) :
    fine.Realises
      { loop := loop, threads := threads, mark := mark
        crash := match loop.pc with
          | .crashed crash => some crash
          | _ => none } := by
  obtain ⟨handler, pc⟩ := loop
  cases pc <;> exact h

-- One step of the other process, a run of this one.
theorem Realises.step {action : SystemAction ι} (hr : fine.Realises system)
    (h : System.machine.step system action = some (after, events)) :
    ∃ next, fine.Leads next events ∧ next.Realises after := by
  change system.step action = some (after, events) at h
  unfold System.step at h
  split at h
  · cases h
  · next hc =>
      have hcrash : system.crash = none := by simpa using hc
      have hrests : fine.Rests system.loop system.threads := by
        simpa only [Realises, hcrash] using hr
      cases action with
      | loop action =>
          simp only [System.loopStep] at h
          split at h
          · cases h
          · next loop out ht =>
              obtain ⟨rfl, rfl⟩ := Prod.mk.inj (Option.some.inj h)
              obtain ⟨next, hleads, hlands⟩ := hrests.loopStep ht
              exact ⟨next, hleads, hlands.realises _⟩
      | thread thread action =>
          simp only [System.otherStep] at h
          split at h
          · cases h
          · next crash ht =>
              obtain ⟨rfl, rfl⟩ := Prod.mk.inj (Option.some.inj h)
              exact hrests.threadCrash ht
          · next handler pc out ht =>
              obtain ⟨rfl, rfl⟩ := Prod.mk.inj (Option.some.inj h)
              obtain ⟨next, hleads, hnext⟩ := hrests.threadStep ht
              refine ⟨next, hleads, ?_⟩
              simpa only [Realises, hcrash] using hnext

def realisation : Simulation (System.machine (ι := ι)) careful fun _ _ => True where
  rel system fine := fine.Realises system
  matched system fine action next out hr _ h := by
    obtain ⟨after, ⟨actions, he⟩, hafter⟩ := Realises.step hr h
    exact ⟨actions, after, he, hafter⟩

omit [DecidableEq ι] in
theorem realises_start (onMessageReceived onConnected onDisconnected : Bool) :
    (start onMessageReceived onConnected onDisconnected : FineSystem ι).Realises
      (.start (.new onMessageReceived onConnected onDisconnected)) :=
  ⟨lifetimes_start _ _ _, rfl, rfl, rfl, rfl, fun _ => rfl⟩

-- The traces of the two processes are the same, down to the crash at their
-- end, when the one of accesses is held to the runs without the overlap: the
-- mutex leaves neither more nor fewer than those of atomic steps.
theorem traces_eq (onMessageReceived onConnected onDisconnected : Bool)
    (events : List (SystemEvent ι)) (crash : Option Crash) :
    (∃ steps system,
      System.machine.exec (.start (.new onMessageReceived onConnected onDisconnected)) steps =
        some (system, events) ∧ system.crash = crash) ↔
      ∃ actions fine,
        machine.exec (start onMessageReceived onConnected onDisconnected) actions =
          some (fine, events) ∧
        machine.Along (fun fine action => ¬fine.Overlaps action)
          (start onMessageReceived onConnected onDisconnected) actions ∧
        fine.fault = crash.map .crash := by
  constructor
  · rintro ⟨steps, system, hsteps, rfl⟩
    have hstart : realisation.rel (.start (.new onMessageReceived onConnected onDisconnected))
        (start onMessageReceived onConnected onDisconnected : FineSystem ι) := realises_start _ _ _
    obtain ⟨actions, fine, he, hr⟩ :=
      realisation.exec hstart (Machine.along_of_forall fun _ _ => trivial) hsteps
    obtain ⟨hcareful, he⟩ := Machine.exec_restrict.mp he
    exact ⟨actions, fine, he, hcareful, Realises.fault hr⟩
  · rintro ⟨actions, fine, he, hcareful, hf⟩
    have hstart : atomicity.rel
        (start onMessageReceived onConnected onDisconnected : FineSystem ι)
        (.start (.new onMessageReceived onConnected onDisconnected)) := matches_start _ _ _
    obtain ⟨steps, system, hsteps, hr⟩ := atomicity.exec hstart hcareful he
    refine ⟨steps, system, hsteps, ?_⟩
    change fine.Follows system at hr
    unfold Follows at hr
    cases crash with
    | none =>
        simp only [hf, Option.map_none] at hr
        exact hr.running
    | some crash =>
        simp only [hf, Option.map_some] at hr
        obtain ⟨other, hother, hcrash⟩ := hr
        rw [hcrash, Fault.crash.inj hother]

end FineSystem

end Rito

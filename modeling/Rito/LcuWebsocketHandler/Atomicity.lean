import Rito.LcuWebsocketHandler.Commits
import Rito.Simulation
import Mathlib.Data.Fintype.Option

namespace Rito

namespace LcuWebsocketHandler

variable {handler after : LcuWebsocketHandler}

theorem SameFlags.set_websocket (h : handler.SameFlags after)
    (websocket : Option HttpsWebsocketClient) :
    handler.SameFlags { after with websocket := websocket } := by
  unfold SameFlags at *
  rw [h]

end LcuWebsocketHandler

section Entry

variable {sockets after : Sockets} {access : Inside} {before : Option HttpsWebsocketClient}

-- What a critical section knows when it has just locked the mutex.
theorem LoopPc.entry_outline {pc : LoopPc} (hp : pc.entry = some access)
    (ho : sockets.object = before) : outline before sockets access.block (.inl access) := by
  cases pc with
  | check | reconnect =>
      obtain rfl := Option.some.inj hp
      exact ⟨rfl, ho⟩
  | stopReset =>
      obtain rfl := Option.some.inj hp
      exact ⟨rfl, ho, fun hs => by cases hs⟩
  | _ => cases hp

theorem ThreadPc.entry_outline {pc : ThreadPc} (hp : pc.entry = some access)
    (ho : sockets.object = before) : outline before sockets access.block (.inl access) := by
  cases pc with
  | stopCheck | sendCheck | sendUse =>
      obtain rfl := Option.some.inj hp
      exact ⟨rfl, ho⟩
  | _ => cases hp

-- Only is_connected() finds the connection up, and it does on the client that
-- the section found.
theorem Access.tested_true (h : Access sockets access (.ok (after, .inr (.tested true))))
    (hp : access.Points sockets) (ho : access.Outline before sockets) :
    access.block = .isConnected ∧ ∃ client, before = some client ∧ client.connected = true := by
  generalize he : (Sum.inr (Ending.tested true) : Inside ⊕ Ending) = next at h
  cases h with
  | @testFlag client object hd =>
      refine ⟨rfl, object, before_eq_some ho hp hd, ?_⟩
      exact (Ending.tested.inj (Sum.inr.inj he)).symm
  | @releaseNull site _ | @free site _ _ _ => cases site <;> cases he
  | testNull hw => cases Ending.tested.inj (Sum.inr.inj he)
  | _ => cases he

end Entry

-- A client that is behind by a frame has a socket where the other has one.
theorem hasSocket_iff {object before : Option HttpsWebsocketClient}
    (h : object = before ∨ ∃ message client, before = some client ∧
      client.websocket.isSome = true ∧
      object = some (client.sendMessage message (.ok ())).2) :
    HasSocket object ↔ HasSocket before := by
  obtain rfl | ⟨message, client, rfl, hs, rfl⟩ := h
  · exact Iff.rfl
  · refine iff_of_true ⟨_, rfl, ?_⟩ ⟨client, rfl, hs⟩
    rw [HttpsWebsocketClient.sendMessage_isSome]
    exact hs

namespace FineSystem

variable {ι : Type*} {fine next : FineSystem ι} {system after : System ι}
  {action : FineAction ι} {events : List (SystemEvent ι)} {thread : ι} {party : Option ι}

-- In this step or before it, a stop() has read m_websocket without the lock
-- and has not used it yet.
def Uses (fine : FineSystem ι) (action : FineAction ι) : Prop :=
  (∃ thread, (fine.threads thread).uses.isSome = true) ∨
    match action with
    | .loop _ => False
    | .thread thread _ => fine.threads thread = .ready .stopSend

-- Another thread is in a critical section that writes.
def Writes (fine : FineSystem ι) : Prop :=
  ∃ party, (fine.held party).any (fun place => !reads place) = true

-- The two at once: the one overlap that the mutex does not rule out.
def Overlaps (fine : FineSystem ι) (action : FineAction ι) : Prop :=
  fine.Uses action ∧ fine.Writes

instance [Fintype ι] (fine : FineSystem ι) : ∀ action, Decidable (fine.Uses action)
  | .loop _ => inferInstanceAs (Decidable (_ ∨ False))
  | .thread thread _ =>
      inferInstanceAs (Decidable (_ ∨ fine.threads thread = .ready .stopSend))

instance [Fintype ι] (fine : FineSystem ι) : Decidable fine.Writes :=
  inferInstanceAs (Decidable (∃ _, _))

instance [Fintype ι] (fine : FineSystem ι) (action : FineAction ι) :
    Decidable (fine.Overlaps action) :=
  inferInstanceAs (Decidable (_ ∧ _))

-- The process of atomic steps is where this one is, up to what a critical
-- section has done so far.
structure Matches (fine : FineSystem ι) (system : System ι) : Prop where
  lifetimes : fine.Lifetimes
  running : system.crash = none
  flags : fine.memory.handler.SameFlags system.loop.handler
  loop : fine.loop.Stands fine.memory.toSockets system.loop.handler.websocket system.loop.pc
  threads : ∀ thread, (fine.threads thread).Stands fine.memory.toSockets
    system.loop.handler.websocket (system.threads thread)
  free : fine.mutex = none → fine.memory.object = system.loop.handler.websocket

def Follows (fine : FineSystem ι) (system : System ι) : Prop :=
  match fine.fault with
  | none => fine.Matches system
  | some fault => ∃ crash, fault = .crash crash ∧ system.crash = some crash

-- After a step of the process of atomic steps, seen through what it became.
theorem Matches.of_becomes {loop : Loop} {threads : ι → ThreadPc}
    (hb : after.Becomes loop threads) (hlife : next.Lifetimes)
    (hflags : next.memory.handler.SameFlags loop.handler)
    (hloop : next.loop.Stands next.memory.toSockets loop.handler.websocket loop.pc)
    (hthreads : ∀ thread, (next.threads thread).Stands next.memory.toSockets
      loop.handler.websocket (threads thread))
    (hfree : next.mutex = none → next.memory.object = loop.handler.websocket) :
    next.Matches after := by
  obtain ⟨afterLoop, afterThreads, mark, crash⟩ := after
  obtain ⟨rfl, rfl, rfl⟩ := hb
  exact ⟨hlife, rfl, hflags, hloop, hthreads, hfree⟩

section Matches

variable {place : Inside ⊕ Ending} {client : Nat}

theorem reads_of_uses (ho : ¬fine.Overlaps action) (hu : fine.Uses action)
    (hp : fine.held party = some place) : reads place = true := by
  by_contra hr
  exact ho ⟨hu, party, by simpa [hp] using hr⟩

theorem uses_unlocked (ht : fine.threads thread = .unlocked client) : fine.Uses action :=
  Or.inl ⟨thread, by rw [ht]; rfl⟩

-- What the holder of the mutex knows.
theorem Matches.outline (hm : fine.Matches system) (hp : fine.held party = some place) :
    ∃ block, (party ≠ none → block ≠ .stopReset ∧ block ≠ .reconnect) ∧
      Rito.outline system.loop.handler.websocket fine.memory.toSockets block place := by
  cases party with
  | none =>
      obtain ⟨here, entry, -, ho⟩ := hm.loop.outline hp
      exact ⟨entry.block, fun h => absurd rfl h, ho⟩
  | some thread =>
      obtain ⟨here, entry, he, ho⟩ := (hm.threads thread).outline hp
      exact ⟨entry.block, fun _ => (ThreadPc.entry_points fine.memory.toSockets he).2.2, ho⟩

-- While the loop is not in a critical section, a frame at the most has been
-- sent that the other process has not sent yet.
theorem Matches.behind (hm : fine.Matches system) (hl : fine.loop.held = none) :
    fine.memory.object = system.loop.handler.websocket ∨
      ∃ message client, system.loop.handler.websocket = some client ∧
        client.websocket.isSome = true ∧
        fine.memory.object = some (client.sendMessage message (.ok ())).2 := by
  cases hmutex : fine.mutex with
  | none => exact Or.inl (hm.free hmutex)
  | some party =>
      have hheld := (hm.lifetimes.exclusive party).mpr hmutex
      obtain ⟨place, hplace⟩ := Option.isSome_iff_exists.mp hheld
      obtain ⟨block, hb, ho⟩ := hm.outline hplace
      refine outline_behind ho (hb fun he => ?_)
      subst he
      change fine.loop.held = some place at hplace
      rw [hl] at hplace
      cases hplace

-- Where every critical section only reads, not even that.
theorem Matches.websocket_eq (hm : fine.Matches system)
    (hr : ∀ party place, fine.held party = some place → reads place = true) :
    fine.memory.object = system.loop.handler.websocket := by
  cases hmutex : fine.mutex with
  | none => exact hm.free hmutex
  | some party =>
      have hheld := (hm.lifetimes.exclusive party).mpr hmutex
      obtain ⟨place, hplace⟩ := Option.isSome_iff_exists.mp hheld
      obtain ⟨block, -, ho⟩ := hm.outline hplace
      exact outline_reads ho (hr party place hplace)

theorem Matches.websocket_none (hm : fine.Matches system) (hl : fine.loop.held = none)
    (hw : fine.memory.websocket = none) : system.loop.handler.websocket = none := by
  obtain he | ⟨message, client, -, -, he⟩ := hm.behind hl
  · rw [← he, Sockets.object_of_none hw]
  · rw [Sockets.object_of_none hw] at he
    cases he

-- The client that the loop receives from.
theorem Matches.hasSocket (hm : fine.Matches system) (hl : fine.loop.held = none)
    (hs : HasSocket fine.memory.object) : ∃ object,
      system.loop.handler.websocket = some object ∧ object.websocket.isSome = true :=
  (hasSocket_iff (hm.behind hl)).mp hs

theorem Matches.received (hm : fine.Matches system) (hc : fine.loop.receives = some client) :
    fine.memory.websocket = some client ∧
      ∃ object, fine.memory.clients client = some object := by
  have hw := hm.lifetimes.receives client hc
  exact ⟨hw, Option.isSome_iff_exists.mp (hm.lifetimes.life.alive client hw)⟩

theorem Matches.thread_pc (hm : fine.Matches system) {pc : ThreadPc}
    (ht : fine.threads thread = .ready pc) :
    system.threads thread = pc := by
  have hstands := hm.threads thread
  rw [ht] at hstands
  exact hstands

theorem Matches.unlocked_client (hm : fine.Matches system)
    (ht : fine.threads thread = .unlocked client) :
    system.threads thread = .stopSend ∧ fine.memory.websocket = some client := by
  have hstands := hm.threads thread
  rw [ht] at hstands
  exact hstands

-- A place outside the critical sections, when another thread has taken a step
-- in one.
theorem Matches.loop_of_access (hm : fine.Matches system) (hl : fine.loop.held = none)
    {sockets : Sockets} {block : CriticalSection} (before : Option HttpsWebsocketClient)
    (hb : block ≠ .stopReset ∧ block ≠ .reconnect)
    (ho : Rito.outline system.loop.handler.websocket sockets block place) :
    fine.loop.Stands sockets before system.loop.pc := by
  refine hm.loop.of_not_held hl fun hs => ?_
  exact (hasSocket_iff (outline_behind ho hb)).mpr (hm.hasSocket hl hs)

-- The other threads, while one is in a critical section.
theorem Matches.threads_of_access (hm : fine.Matches system) (sockets : Sockets)
    (hmutex : fine.mutex = some party)
    (hw : ∀ other client, fine.threads other = .unlocked client →
      sockets.websocket = fine.memory.websocket) (before : Option HttpsWebsocketClient)
    (other : ι) (hne : some other ≠ party) :
    (fine.threads other).Stands sockets before (system.threads other) :=
  (hm.threads other).of_not_held
    (hm.lifetimes.exclusive.others party (Or.inr hmutex) (some other) hne)
    fun client ht => hw other client ht

-- A frame goes out on the client while the other places only read it.
theorem Matches.loop_of_send (hm : fine.Matches system) (message : Bytes)
    {object : HttpsWebsocketClient} (hsome : object.websocket.isSome = true)
    (hr : ∀ party place, fine.held party = some place → reads place = true)
    (hw : fine.memory.websocket = some client) (hd : fine.memory.clients client = some object) :
    fine.loop.Stands (fine.memory.set client (some (object.sendMessage message (.ok ())).2))
      (system.loop.handler.websocket.map fun object => (object.sendMessage message (.ok ())).2)
      system.loop.pc := by
  cases hheld : fine.loop.held with
  | none =>
      refine hm.loop.of_not_held hheld fun _ => ⟨_, Sockets.object_set hw, ?_⟩
      rw [HttpsWebsocketClient.sendMessage_isSome]
      exact hsome
  | some place =>
      exact hm.loop.of_held hheld fun block ho => outline_send message (hr none place hheld) hw hd ho

theorem Matches.thread_of_send (hm : fine.Matches system) (message : Bytes)
    {object : HttpsWebsocketClient}
    (hr : ∀ party place, fine.held party = some place → reads place = true)
    (hw : fine.memory.websocket = some client) (hd : fine.memory.clients client = some object)
    (other : ι) :
    (fine.threads other).Stands
      (fine.memory.set client (some (object.sendMessage message (.ok ())).2))
      (system.loop.handler.websocket.map fun object => (object.sendMessage message (.ok ())).2)
      (system.threads other) := by
  cases hheld : (fine.threads other).held with
  | none => exact (hm.threads other).of_not_held hheld fun _ _ => rfl
  | some place =>
      exact (hm.threads other).of_held hheld
        fun block _ ho => outline_send message (hr (some other) place hheld) hw hd ho

end Matches

theorem matches_start (onMessageReceived onConnected onDisconnected : Bool) :
    (start onMessageReceived onConnected onDisconnected : FineSystem ι).Matches
      (.start (.new onMessageReceived onConnected onDisconnected)) :=
  ⟨lifetimes_start _ _ _, rfl, rfl, rfl, fun _ => rfl, fun _ => rfl⟩

variable [DecidableEq ι]

-- What a step of this process is to the other: any number of steps.
def Answered (next : FineSystem ι) (system : System ι) (events : List (SystemEvent ι)) : Prop :=
  ∃ steps after, System.machine.exec system steps = some (after, events) ∧ next.Follows after

theorem Answered.stays (hf : next.fault = none) (hm : next.Matches system) :
    next.Answered system [] := by
  have hr : next.Follows system := by
    simp only [Follows, hf]
    exact hm
  exact Simulation.matched_nil hr

theorem Answered.moves {step : SystemAction ι} (hf : next.fault = none)
    (hs : System.machine.step system step = some (after, events)) (hm : next.Matches after) :
    next.Answered system events := by
  have hr : next.Follows after := by
    simp only [Follows, hf]
    exact hm
  exact Simulation.matched_step hs hr

theorem Answered.crashes {step : SystemAction ι} {crash : Crash}
    (hf : next.fault = some (.crash crash))
    (hs : System.machine.step system step = some (after, events))
    (hc : after.crash = some crash) : next.Answered system events := by
  have hr : next.Follows after := by
    simp only [Follows, hf]
    exact ⟨crash, rfl, hc⟩
  exact Simulation.matched_step hs hr

-- A thread whose step is the only one to move.
theorem threads_update {place : ThreadPlace} {pc : ThreadPc} {sockets : Sockets}
    {before : Option HttpsWebsocketClient} (hself : place.Stands sockets before pc)
    (hothers : ∀ other, other ≠ thread →
      (fine.threads other).Stands sockets before (system.threads other)) (other : ι) :
    (Function.update fine.threads thread place other).Stands sockets before
      (Function.update system.threads thread pc other) := by
  by_cases he : other = thread
  · subst he
    simpa using hself
  · simpa [he] using hothers other he

-- A thread that moves while the process of atomic steps does not.
theorem threads_moved {place : ThreadPlace} {sockets : Sockets}
    {before : Option HttpsWebsocketClient}
    (hself : place.Stands sockets before (system.threads thread))
    (hothers : ∀ other, other ≠ thread →
      (fine.threads other).Stands sockets before (system.threads other)) (other : ι) :
    (Function.update fine.threads thread place other).Stands sockets before
      (system.threads other) := by
  have hupdate := threads_update hself hothers other
  rw [Function.update_eq_self] at hupdate
  exact hupdate

section LoopSteps

variable {pc : LoopPc} {access : Inside} {place : Inside ⊕ Ending} {sockets : Sockets} {client : Nat}

theorem Matches.plain (hm : fine.Matches system) {act : LoopAction}
    {loop : Loop} {more : List LoopEvent} (hl : fine.loop = .ready pc) (hp : pc.entry = none)
    (hr : pc ≠ .receive)
    (h : Loop.threadStep { handler := fine.memory.handler, pc := pc } act = some (loop, more)) :
    ({ fine with
        memory := fine.memory.keepSockets loop.handler
        loop := .ready loop.pc
        fault := match loop.pc with
          | .crashed crash => some (.crash crash)
          | _ => none } : FineSystem ι).Answered system (more.map .loop) := by
  have hstep := Loop.threadStep_frame hp hr h system.loop.handler.websocket
  have hlife := hm.lifetimes.step (.plain hl hp hr h)
  have hpc : system.loop.pc = pc := by
    have hstands := hm.loop
    rw [hl] at hstands
    exact hstands
  rw [← hm.flags, ← hpc] at hstep
  by_cases hcrash : ∃ crash, loop.pc = .crashed crash
  · obtain ⟨crash, hcrash⟩ := hcrash
    obtain ⟨after, hs, hafter⟩ := System.step_of_crash hm.running hstep hcrash
    refine .crashes ?_ hs hafter
    simp only [hcrash]
  · obtain ⟨after, hs, hafter⟩ := System.step_of_loop hm.running hstep
      fun crash he => hcrash ⟨crash, he⟩
    refine .moves ?_ hs (.of_becomes hafter hlife rfl rfl hm.threads hm.free)
    split
    · next he => exact absurd ⟨_, he⟩ hcrash
    · rfl

theorem Matches.loopLock (hm : fine.Matches system) (hf : fine.fault = none)
    (hl : fine.loop = .ready pc) (hp : pc.entry = some access) (hmutex : fine.mutex = none) :
    ({ fine with mutex := some none, loop := .inside pc access } : FineSystem ι).Answered system
      [] := by
  have hlife := hm.lifetimes.step (.loopLock hl hp hmutex)
  have hstands := hm.loop
  rw [hl] at hstands
  exact .stays hf ⟨hlife, hm.running, hm.flags,
    ⟨hstands, access, hp, LoopPc.entry_outline hp (hm.free hmutex)⟩, hm.threads,
    fun h => by cases h⟩

theorem Matches.loopAccess (hm : fine.Matches system) (hf : fine.fault = none)
    (ho : ¬fine.Overlaps action) {input : Input} (hl : fine.loop = .inside pc access)
    (ha : fine.memory.access access input = some (.ok (sockets, place)))
    (h : Access fine.memory.toSockets access (.ok (sockets, place))) :
    ({ fine.setSockets sockets with loop := loopPlace pc place } : FineSystem ι).Answered system
      [] := by
  have hlife := hm.lifetimes.step (.loopAccess hl ha h)
  have hheld : fine.held none = some (.inl access) := congrArg LoopPlace.held hl
  have hmutex : fine.mutex = some none := (hm.lifetimes.exclusive none).mp (by rw [hheld]; rfl)
  have hpoints := hm.lifetimes.points none _ hheld
  have hstands := hm.loop
  rw [hl] at hstands
  obtain ⟨hpc, entry, hentry, hblock, hout⟩ := hstands
  have hnext := h.outline hpoints hout
  have hunlocked : ∀ other client, fine.threads other = .unlocked client →
      sockets.websocket = fine.memory.websocket := by
    intro other client ht
    have hr : access.block = .isConnected := by
      simpa [reads] using reads_of_uses ho (uses_unlocked ht) hheld
    exact (h.sameLife (by simp [hr])).websocket
  have hothers := fun before other => hm.threads_of_access sockets hmutex hunlocked before other (by simp)
  have hflags : ({ fine.setSockets sockets with loop := loopPlace pc place } :
      FineSystem ι).memory.handler.SameFlags system.loop.handler := hm.flags
  by_cases htested : place = .inr (.tested true)
  · subst htested
    obtain ⟨hconnected, object, hobject, hup⟩ := h.tested_true hpoints hout
    have hcheck : system.loop.pc = .check := by
      rw [hpc]
      cases pc with
      | check => rfl
      | stopReset | reconnect =>
          obtain rfl := Option.some.inj hentry
          rw [hconnected] at hblock
          cases hblock
      | _ => cases hentry
    obtain ⟨after, hs, hafter⟩ := loop_tested hm.running hcheck
      ((LcuWebsocketHandler.isConnected_of_some hobject).trans hup)
    refine .moves hf hs (.of_becomes hafter hlife hflags ?_ (hothers _) fun hfree => ?_)
    · exact ⟨rfl, entry, hentry, hblock ▸ hnext⟩
    · rw [show fine.mutex = none from hfree] at hmutex
      cases hmutex
  · refine .stays hf ⟨hlife, hm.running, hflags, ?_, hothers _, fun hfree => ?_⟩
    · cases place with
      | inl later => exact ⟨hpc, entry, hentry, hblock ▸ hnext⟩
      | inr ending =>
          have hending : ending ≠ .tested true := fun he => htested (congrArg Sum.inr he)
          exact ⟨hpc.trans (if_neg hending).symm, entry, hentry, hblock ▸ hnext⟩
    · rw [show fine.mutex = none from hfree] at hmutex
      cases hmutex

theorem Matches.loopUnlock (hm : fine.Matches system) (hf : fine.fault = none) {ending : Ending}
    (hl : fine.loop = .leaving pc ending) :
    ({ fine with mutex := none, loop := .ready (LoopPc.exit ending) } : FineSystem ι).Answered
      system [] := by
  have hlife := hm.lifetimes.step (.loopUnlock hl)
  have hheld : fine.held none = some (.inr ending) := congrArg LoopPlace.held hl
  have hmutex : fine.mutex = some none := (hm.lifetimes.exclusive none).mp (by rw [hheld]; rfl)
  have hothers := fun before other => hm.threads_of_access fine.memory.toSockets
    hmutex (fun _ _ _ => rfl) before other (by simp)
  have hstands := hm.loop
  rw [hl] at hstands
  obtain ⟨hpc, entry, hentry, hout⟩ := hstands
  by_cases htested : ending = .tested true
  · subst htested
    exact .stays hf ⟨hlife, hm.running, hm.flags, hpc, hothers _, fun _ => hout.2.1⟩
  · rw [if_neg htested] at hpc
    obtain ⟨act, after, hs, hafter⟩ := loop_commits hm.running hpc hentry hout htested
    exact .moves hf hs (.of_becomes hafter hlife (hm.flags.set_websocket _) rfl (hothers _)
      fun _ => rfl)

end LoopSteps

section ReceiveSteps

variable {client : Nat} {object : HttpsWebsocketClient}

theorem Matches.receivePointer (hm : fine.Matches system) (hf : fine.fault = none)
    (hl : fine.loop = .ready .receive) (hw : fine.memory.websocket = some client) :
    ({ fine with loop := .receiveTest client } : FineSystem ι).Answered system [] := by
  have hlife := hm.lifetimes.step (.receivePointer hl hw)
  have hstands := hm.loop
  rw [hl] at hstands
  exact .stays hf ⟨hlife, hm.running, hm.flags, hstands, hm.threads, hm.free⟩

theorem Matches.receiveNull (hm : fine.Matches system) (hl : fine.loop = .ready .receive)
    (hw : fine.memory.websocket = none) :
    ({ fine with fault := some (.crash .nullDereference) } : FineSystem ι).Answered system [] := by
  have hstands := hm.loop
  rw [hl] at hstands
  obtain ⟨after, hs, hafter⟩ := receive_null hm.running hstands
    (hm.websocket_none (by rw [hl]; rfl) hw)
  exact .crashes rfl hs hafter

theorem Matches.receiveTest (hm : fine.Matches system) (hf : fine.fault = none)
    (hl : fine.loop = .receiveTest client) (hd : fine.memory.clients client = some object)
    (hs : object.websocket.isSome = true) :
    ({ fine with loop := .receiveFrame client maxFramesPerMessage [] } :
      FineSystem ι).Answered system [] := by
  have hlife := hm.lifetimes.step (.receiveTest hl hd hs)
  have hw := hm.lifetimes.receives client (by rw [hl]; rfl)
  have hstands := hm.loop
  rw [hl] at hstands
  have hsocket : HasSocket fine.memory.object :=
    ⟨object, (Sockets.object_of_some hw).trans hd, hs⟩
  exact .stays hf ⟨hlife, hm.running, hm.flags, ⟨hstands, hsocket, [], fun _ => rfl⟩,
    hm.threads, hm.free⟩

theorem Matches.receiveNotStarted (hm : fine.Matches system) (hf : fine.fault = none)
    (hl : fine.loop = .receiveTest client) (hd : fine.memory.clients client = some object)
    (hs : object.websocket = none) :
    ({ fine with loop := .ready .head } : FineSystem ι).Answered system [] := by
  have hlife := hm.lifetimes.step (.receiveNotStarted hl hd hs)
  have hw := hm.lifetimes.receives client (by rw [hl]; rfl)
  have hobject : fine.memory.object = some object := (Sockets.object_of_some hw).trans hd
  have hstands := hm.loop
  rw [hl] at hstands
  have hwebsocket : system.loop.handler.websocket = some object := by
    obtain he | ⟨message, before, -, hsome, he⟩ := hm.behind (by rw [hl]; rfl)
    · rw [← he, hobject]
    · rw [hobject] at he
      have hafter := HttpsWebsocketClient.sendMessage_isSome before message (.ok ())
      rw [← Option.some.inj he, hs, hsome] at hafter
      cases hafter
  obtain ⟨after, hstep, hafter⟩ := receive_commits hm.running hstands hwebsocket
    (by simp only [HttpsWebsocketClient.receiveMessage, hs] :
      object.receiveMessage [] = some (.error HttpsWebsocketClient.notStarted, object, []))
  refine .moves hf hstep (.of_becomes hafter hlife (hm.flags.set_websocket _) rfl ?_ ?_)
  · rw [← hwebsocket]
    exact hm.threads
  · rw [← hwebsocket]
    exact hm.free

theorem Matches.receiveFrame (hm : fine.Matches system) (hf : fine.fault = none) {left : Nat}
    {messageBuffer : Bytes} {input : Input} {place : LoopPlace} {more : List LoopEvent}
    (hl : fine.loop = .receiveFrame client left messageBuffer)
    (hd : fine.memory.clients client = some object)
    (h : FrameStep client left messageBuffer input place more) :
    ({ fine with loop := place } : FineSystem ι).Answered system (more.map .loop) := by
  have hlife := hm.lifetimes.step (.receiveFrame hl hd h)
  have hstands := hm.loop
  rw [hl] at hstands
  obtain ⟨hpc, hsocket, seen, hc⟩ := hstands
  obtain ⟨before, hw, hs⟩ := hm.hasSocket (by rw [hl]; rfl) hsocket
  cases h.iterates hc with
  | goesOn later hc =>
      exact .stays hf ⟨hlife, hm.running, hm.flags, ⟨hpc, hsocket, later, hc⟩, hm.threads, hm.free⟩
  | loses later hloses =>
      exact .stays hf ⟨hlife, hm.running, hm.flags, ⟨hpc, hsocket, later, hloses⟩, hm.threads,
        hm.free⟩
  | fails later exception hfails =>
      obtain ⟨after, hstep, hafter⟩ := receive_commits hm.running hpc hw (hfails before hs)
      refine .moves hf hstep (.of_becomes hafter hlife (hm.flags.set_websocket _) rfl ?_ ?_)
      · rw [← hw]
        exact hm.threads
      · rw [← hw]
        exact hm.free
  | returns later hreturns =>
      obtain ⟨after, hstep, hafter⟩ := receive_commits hm.running hpc hw (hreturns before hs)
      refine .moves hf hstep (.of_becomes hafter hlife (hm.flags.set_websocket _) rfl ?_ ?_)
      · rw [← hw]
        exact hm.threads
      · rw [← hw]
        exact hm.free

-- The write that needs no lock: a thread in a critical section finds a client
-- that is no longer connected.
theorem Matches.receiveClear (hm : fine.Matches system) (hf : fine.fault = none)
    (hl : fine.loop = .receiveClear client) (hd : fine.memory.clients client = some object) :
    ({ fine.setSockets (fine.memory.set client (some { object with connected := false })) with
      loop := .ready .head } : FineSystem ι).Answered system [] := by
  have hlife := hm.lifetimes.step (.receiveClear hl hd)
  have hw := hm.lifetimes.receives client (by rw [hl]; rfl)
  have hnone : fine.loop.held = none := by rw [hl]; rfl
  have hstands := hm.loop
  rw [hl] at hstands
  obtain ⟨hpc, hsocket, seen, hloses⟩ := hstands
  obtain ⟨before, hbefore, hs⟩ := hm.hasSocket hnone hsocket
  obtain ⟨exception, hreceive⟩ := hloses before hs
  obtain ⟨after, hstep, hafter⟩ := receive_commits hm.running hpc hbefore hreceive
  have hmap : some (clearConnected before) =
      system.loop.handler.websocket.map clearConnected := by
    rw [hbefore]
    rfl
  refine .moves hf hstep (.of_becomes hafter hlife (hm.flags.set_websocket _) rfl ?_ ?_)
  · intro thread
    have hthread := hm.threads thread
    cases hheld : (fine.threads thread).held with
    | none => exact hthread.of_not_held hheld fun _ _ => rfl
    | some place =>
        refine hthread.of_held hheld fun block hb ho => ?_
        change Rito.outline (some (clearConnected before)) _ block place
        rw [hmap]
        exact outline_clear hb hw hd ho
  · intro hfree
    have he : fine.memory.object = some before := (hm.free hfree).trans hbefore
    rw [Sockets.object_of_some hw, hd] at he
    change (fine.memory.set client (some (clearConnected object))).object =
      some (clearConnected before)
    rw [Sockets.object_set hw, Option.some.inj he]

end ReceiveSteps

section ThreadSteps

variable {pc : ThreadPc} {access : Inside} {place : Inside ⊕ Ending} {sockets : Sockets}
  {client : Nat} {input : Input}

-- A step that neither locks nor uses m_websocket.
theorem Matches.threadPlain (hm : fine.Matches system) {next : FineSystem ι} {later : ThreadPc}
    {handler : LcuWebsocketHandler} {more : List ThreadEvent} (act : ThreadAction)
    (hlife : next.Lifetimes) (hf : next.fault = none) (ht : fine.threads thread = .ready pc)
    (hnext : next.threads = Function.update fine.threads thread (.ready later))
    (hloop : next.loop = fine.loop) (hs : next.memory.toSockets = fine.memory.toSockets)
    (hmutex : next.mutex = fine.mutex)
    (h : system.loop.handler.threadStep pc act = some (.ok (handler, later, more)))
    (hw : handler.websocket = system.loop.handler.websocket)
    (hflags : next.memory.handler.SameFlags handler) :
    next.Answered system (more.map (.thread thread)) := by
  rw [← hm.thread_pc ht] at h
  obtain ⟨after, hstep, hafter⟩ := System.step_of_thread hm.running h
  refine .moves hf hstep (.of_becomes hafter hlife hflags ?_ ?_ ?_)
  · rw [hloop, hs, hw]
    exact hm.loop
  · rw [hnext, hs, hw]
    exact threads_update rfl fun other _ => hm.threads other
  · rw [hmutex, hs, hw]
    exact hm.free

theorem Matches.stopPointer (hm : fine.Matches system) (hf : fine.fault = none)
    (ht : fine.threads thread = .ready .stopSend) (hw : fine.memory.websocket = some client) :
    (fine.setThread thread (.unlocked client)).Answered system [] := by
  have hlife := hm.lifetimes.step (.stopPointer ht hw)
  exact .stays hf ⟨hlife, hm.running, hm.flags, hm.loop,
    threads_moved ⟨hm.thread_pc ht, hw⟩ fun other _ => hm.threads other, hm.free⟩

theorem Matches.stopNull (hm : fine.Matches system) (ho : ¬fine.Overlaps (.thread thread input))
    (ht : fine.threads thread = .ready .stopSend) (hw : fine.memory.websocket = none) :
    ({ fine with fault := some (.crash .nullDereference) } : FineSystem ι).Answered system [] := by
  have hnone : system.loop.handler.websocket = none := by
    rw [← hm.websocket_eq fun party place => reads_of_uses ho (Or.inr ht),
      Sockets.object_of_none hw]
  have hstep : system.loop.handler.threadStep (system.threads thread) .tau =
      some (.error .nullDereference) := by
    rw [hm.thread_pc ht]
    simp only [LcuWebsocketHandler.threadStep, LcuWebsocketHandler.useWebsocket_none _ hnone]
    rfl
  exact .crashes rfl (System.step_of_thread_crash hm.running hstep) rfl

-- The send of a stop() on the client it has read.
theorem Matches.used (hm : fine.Matches system) (hf : fine.fault = none)
    (ho : ¬fine.Overlaps action) (ht : fine.threads thread = .unlocked client) {sent : Bool}
    (hlife : ((fine.setThread thread (.ready .outside)).setSockets sockets).Lifetimes)
    (h : Sockets.SendEnds fine.memory.toSockets exitMessage client (.ok (sent, sockets))) :
    ((fine.setThread thread (.ready .outside)).setSockets sockets).Answered system
      [.thread thread .stopReturned] := by
  obtain ⟨hpc, hw⟩ := hm.unlocked_client ht
  have hreads : ∀ party place, fine.held party = some place → reads place = true :=
    fun party place => reads_of_uses ho (uses_unlocked ht)
  have heq := hm.websocket_eq hreads
  rw [Sockets.object_of_some hw] at heq
  cases h with
  | @notSent object hd hs =>
      have huse := LcuWebsocketHandler.useWebsocket_not_sent exitMessage (heq.symm.trans hd) hs
      have hstep : system.loop.handler.threadStep (system.threads thread) .tau =
          some (.ok (system.loop.handler, .outside, [.stopReturned])) := by
        rw [hpc]
        simp only [LcuWebsocketHandler.threadStep, huse]
        rfl
      obtain ⟨after, hs, hafter⟩ := System.step_of_thread hm.running hstep
      exact .moves hf hs (.of_becomes hafter hlife hm.flags hm.loop
        (threads_update rfl fun other _ => hm.threads other) hm.free)
  | @sent object socket hd hs =>
      have hsome : object.websocket.isSome = true := by
        rw [hs]
        rfl
      have hobject : system.loop.handler.websocket = some object := heq.symm.trans hd
      have huse := LcuWebsocketHandler.useWebsocket_sent exitMessage hobject hsome
      have hstep : system.loop.handler.threadStep (system.threads thread) (.sendFrame (.ok ())) =
          some (.ok ({ system.loop.handler with
            websocket := some (object.sendMessage exitMessage (.ok ())).2 },
            .outside, [.stopReturned])) := by
        rw [hpc]
        simp only [LcuWebsocketHandler.threadStep, huse]
        rfl
      obtain ⟨after, hs, hafter⟩ := System.step_of_thread hm.running hstep
      have hloop := hm.loop_of_send exitMessage hsome hreads hw hd
      have hthreads := hm.thread_of_send exitMessage hreads hw hd
      rw [hobject] at hloop hthreads
      exact .moves hf hs (.of_becomes hafter hlife (hm.flags.set_websocket _) hloop
        (threads_update rfl fun other _ => hthreads other) fun _ => Sockets.object_set hw)

theorem Matches.useFault (hm : fine.Matches system) (hr : ¬fine.Overlaps action)
    (ht : fine.threads thread = .unlocked client) {fault : Fault}
    (h : Sockets.SendEnds fine.memory.toSockets exitMessage client (.error fault)) :
    ({ fine with fault := some fault } : FineSystem ι).Answered system [] := by
  obtain ⟨hpc, hw⟩ := hm.unlocked_client ht
  have heq := hm.websocket_eq fun party place => reads_of_uses hr (uses_unlocked ht)
  rw [Sockets.object_of_some hw] at heq
  cases h with
  | dangling hd =>
      have halive := hm.lifetimes.life.alive client hw
      rw [hd] at halive
      cases halive
  | @threw object socket hd hs =>
      have huse := LcuWebsocketHandler.useWebsocket_threw exitMessage (heq.symm.trans hd)
        (by rw [hs]; rfl) (.other "")
      have hstep : system.loop.handler.threadStep (system.threads thread)
          (.sendFrame (.error (.other ""))) = some (.error .terminated) := by
        rw [hpc]
        simp only [LcuWebsocketHandler.threadStep, huse]
        rfl
      exact .crashes rfl (System.step_of_thread_crash hm.running hstep) rfl

theorem Matches.threadLock (hm : fine.Matches system) (hf : fine.fault = none)
    (ht : fine.threads thread = .ready pc) (hp : pc.entry = some access)
    (hmutex : fine.mutex = none) :
    ({ fine.setThread thread (.inside pc access) with mutex := some (some thread) } :
      FineSystem ι).Answered system [] := by
  have hlife := hm.lifetimes.step (.threadLock ht hp hmutex)
  exact .stays hf ⟨hlife, hm.running, hm.flags, hm.loop,
    threads_moved ⟨hm.thread_pc ht, access, hp, ThreadPc.entry_outline hp (hm.free hmutex)⟩
      fun other _ => hm.threads other, fun hfree => by cases hfree⟩

theorem Matches.threadAccess (hm : fine.Matches system) (hf : fine.fault = none)
    (ht : fine.threads thread = .inside pc access)
    (ha : fine.memory.access access input = some (.ok (sockets, place)))
    (h : Access fine.memory.toSockets access (.ok (sockets, place))) :
    ((fine.setThread thread (threadPlace pc place)).setSockets sockets).Answered system [] := by
  have hlife := hm.lifetimes.step (.threadAccess ht ha h)
  have hheld : fine.held (some thread) = some (.inl access) := held_thread ht
  have hmutex : fine.mutex = some (some thread) :=
    (hm.lifetimes.exclusive (some thread)).mp (by rw [hheld]; rfl)
  have hpoints := hm.lifetimes.points (some thread) _ hheld
  have hblocks := hm.lifetimes.blocks thread access hheld
  have hstands := hm.threads thread
  rw [ht] at hstands
  obtain ⟨hpc, entry, hentry, hblock, hout⟩ := hstands
  have hnext := h.outline hpoints hout
  have hothers := fun before other (hne : other ≠ thread) =>
    hm.threads_of_access sockets hmutex (fun _ _ _ => (h.sameLife hblocks).websocket) before other
      (by simpa using hne)
  have hloop := fun before => hm.loop_of_access
    (hm.lifetimes.exclusive.others (some thread) (Or.inr hmutex) none (by simp)) before hblocks hnext
  by_cases htested : place = .inr (.tested true)
  · subst htested
    obtain ⟨hconnected, object, hobject, hup⟩ := h.tested_true hpoints hout
    obtain ⟨after, hs, hafter⟩ := thread_tested hm.running hpc hentry (hblock ▸ hconnected)
      ((LcuWebsocketHandler.isConnected_of_some hobject).trans hup)
    refine .moves hf hs (.of_becomes hafter hlife hm.flags (hloop _) ?_ fun hfree => ?_)
    · exact threads_update ⟨rfl, entry, hentry, hblock ▸ hnext⟩ (hothers _)
    · rw [show fine.mutex = none from hfree] at hmutex
      cases hmutex
  · refine .stays hf ⟨hlife, hm.running, hm.flags, hloop _, ?_, fun hfree => ?_⟩
    · refine threads_moved ?_ (hothers _)
      cases place with
      | inl later => exact ⟨hpc, entry, hentry, hblock ▸ hnext⟩
      | inr ending =>
          have hending : ending ≠ .tested true := fun he => htested (congrArg Sum.inr he)
          exact ⟨hpc.trans (if_neg hending).symm, entry, hentry, hblock ▸ hnext⟩
    · rw [show fine.mutex = none from hfree] at hmutex
      cases hmutex

theorem Matches.threadUnlock (hm : fine.Matches system) (hf : fine.fault = none)
    {ending : Ending} (ht : fine.threads thread = .leaving pc ending) :
    ({ fine.setThread thread (.ready (pc.exit ending).1) with mutex := none } :
      FineSystem ι).Answered system ((pc.exit ending).2.map (.thread thread)) := by
  have hlife := hm.lifetimes.step (.threadUnlock ht)
  have hheld : fine.held (some thread) = some (.inr ending) := held_thread ht
  have hmutex : fine.mutex = some (some thread) :=
    (hm.lifetimes.exclusive (some thread)).mp (by rw [hheld]; rfl)
  have hothers := fun before other (hne : other ≠ thread) =>
    hm.threads_of_access fine.memory.toSockets hmutex (fun _ _ _ => rfl) before other
      (by simpa using hne)
  have hstands := hm.threads thread
  rw [ht] at hstands
  obtain ⟨hpc, entry, hentry, hout⟩ := hstands
  have hblocks := (ThreadPc.entry_points fine.memory.toSockets hentry).2.2
  have hloop := fun before => hm.loop_of_access
    (hm.lifetimes.exclusive.others (some thread) (Or.inr hmutex) none (by simp)) before hblocks hout
  by_cases htested : ending = .tested true
  · subst htested
    have hsilent : (pc.exit (.tested true)).2 = [] := by
      cases pc with
      | stopCheck | sendCheck => rfl
      | sendUse =>
          obtain rfl := Option.some.inj hentry
          exact hout.1.elim
      | _ => cases hentry
    rw [hsilent]
    exact .stays hf ⟨hlife, hm.running, hm.flags, hloop _, threads_moved hpc (hothers _),
      fun _ => hout.2.1⟩
  · rw [if_neg htested] at hpc
    obtain ⟨act, after, hs, hafter⟩ := thread_commits hm.running hpc hentry hout htested
    exact .moves hf hs (.of_becomes hafter hlife (hm.flags.set_websocket _) (hloop _)
      (threads_update rfl (hothers _)) fun _ => rfl)

end ThreadSteps

section Faults

variable {access : Inside} {fault : Fault}

-- Where a call on the client ends the process, in a section of the loop: only
-- the shutdown() of the stop branch does.
theorem Matches.loopFault (hm : fine.Matches system) {pc : LoopPc}
    (hl : fine.loop = .inside pc access) (h : Access fine.memory.toSockets access (.error fault)) :
    ({ fine with fault := some fault } : FineSystem ι).Answered system [] := by
  have hheld : fine.held none = some (.inl access) := congrArg LoopPlace.held hl
  have hpoints := hm.lifetimes.points none _ hheld
  have hlife := hm.lifetimes.life
  rw [hheld] at hlife
  have hne := h.ne_dangling hlife hpoints
  have hstands := hm.loop
  rw [hl] at hstands
  obtain ⟨hpc, entry, hentry, hblock, hout⟩ := hstands
  have hsection : ∀ message, access.block ≠ .sendMessage message := by
    intro message he
    rw [hblock] at he
    cases pc with
    | check | stopReset | reconnect =>
        obtain rfl := Option.some.inj hentry
        cases he
    | _ => cases hentry
  cases h with
  | sendThrew => exact absurd rfl (hsection _)
  | dangling => exact absurd rfl hne
  | null hloads hw =>
      cases access with
      | sendPointer message => exact absurd rfl (hsection message)
      | setCredentials | openSocket =>
          have hsome : fine.memory.websocket.isSome = true := hpoints
          rw [hw] at hsome
          cases hsome
      | _ => cases hloads
  | @shutdownThrew site client object hd =>
      obtain ⟨hw, hshuts, hunconnected⟩ := hout
      obtain ⟨before, hbefore, hboth⟩ := (Option.any_eq_true _ _).mp hshuts
      cases site with
      | reconnect =>
          have hconnected := hunconnected rfl before hbefore
          rw [HttpsWebsocketClient.shutsDown, hconnected, Bool.and_false] at hboth
          cases hboth
      | stop =>
          have hstop : system.loop.pc = .stopReset := by
            rw [hpc]
            cases pc with
            | stopReset => rfl
            | check | reconnect =>
                obtain rfl := Option.some.inj hentry
                cases hblock
            | _ => cases hentry
          have hstep : system.loop.threadStep (.shutdown (.error (.other ""))) =
              some (system.loop.goto (.crashed .terminated), []) := by
            unfold Loop.threadStep
            simp only [hstop, Loop.stopReset, hshuts, if_true,
              LcuWebsocketHandler.resetWebsocket_shutsDown hbefore hboth]
            rfl
          obtain ⟨after, hs, hafter⟩ := System.step_of_crash hm.running hstep rfl
          exact .crashes rfl hs hafter

-- In a section of another thread, the use of m_websocket in send_message().
theorem Matches.threadFault (hm : fine.Matches system) {pc : ThreadPc}
    (ht : fine.threads thread = .inside pc access)
    (h : Access fine.memory.toSockets access (.error fault)) :
    ({ fine with fault := some fault } : FineSystem ι).Answered system [] := by
  have hheld : fine.held (some thread) = some (.inl access) := held_thread ht
  have hpoints := hm.lifetimes.points (some thread) _ hheld
  have hblocks := hm.lifetimes.blocks thread access hheld
  have hne := h.ne_dangling (hm.lifetimes.life_thread hheld) hpoints
  have hstands := hm.threads thread
  rw [ht] at hstands
  obtain ⟨hpc, entry, hentry, hblock, hout⟩ := hstands
  have hobject := (Inside.outline_iff hblocks).mp hout
  have huse : ∀ message, access.block = .sendMessage message →
      system.threads thread = .sendUse message := by
    intro message he
    rw [hpc]
    rw [hblock] at he
    cases pc with
    | stopCheck | sendCheck other =>
        obtain rfl := Option.some.inj hentry
        cases he
    | sendUse other =>
        obtain rfl := Option.some.inj hentry
        rw [CriticalSection.sendMessage.inj he]
    | _ => cases hentry
  cases h with
  | dangling => exact absurd rfl hne
  | @shutdownThrew site =>
      cases site with
      | stop => exact absurd rfl hblocks.1
      | reconnect => exact absurd rfl hblocks.2
  | @sendThrew message client object socket hd hs =>
      have hbefore : system.loop.handler.websocket = some object := by
        rw [← hobject, Sockets.object_of_some hpoints, hd]
      have hthrew := LcuWebsocketHandler.useWebsocket_threw message hbefore (by rw [hs]; rfl)
        (.other "")
      have hstep : system.loop.handler.threadStep (system.threads thread)
          (.sendFrame (.error (.other ""))) = some (.error .terminated) := by
        rw [huse message rfl]
        simp only [LcuWebsocketHandler.threadStep, hthrew]
        rfl
      exact .crashes rfl (System.step_of_thread_crash hm.running hstep) rfl
  | null hloads hw =>
      cases access with
      | sendPointer message =>
          rw [Sockets.object_of_none hw] at hobject
          have hstep : system.loop.handler.threadStep (system.threads thread) .tau =
              some (.error .nullDereference) := by
            rw [huse message rfl]
            simp only [LcuWebsocketHandler.threadStep,
              LcuWebsocketHandler.useWebsocket_none message hobject.symm]
            rfl
          exact .crashes rfl (System.step_of_thread_crash hm.running hstep) rfl
      | setCredentials | openSocket => exact absurd rfl hblocks.2
      | _ => cases hloads

end Faults

-- One step of this process, one or no step of the other.
theorem Matches.step (hm : fine.Matches system) (ho : ¬fine.Overlaps action)
    (hf : fine.fault = none) (h : Step fine action next events) : next.Answered system events := by
  have hlife := hm.lifetimes.step h
  cases h with
  | plain hl hp hr h => exact hm.plain hl hp hr h
  | loopLock hl hp hmutex => exact hm.loopLock hf hl hp hmutex
  | loopAccess hl ha h => exact hm.loopAccess hf ho hl ha h
  | loopFault hl h => exact hm.loopFault hl h
  | loopUnlock hl => exact hm.loopUnlock hf hl
  | receivePointer hl hw => exact hm.receivePointer hf hl hw
  | receiveNull hl hw => exact hm.receiveNull hl hw
  | receiveTest hl hd hs => exact hm.receiveTest hf hl hd hs
  | receiveNotStarted hl hd hs => exact hm.receiveNotStarted hf hl hd hs
  | receiveFrame hl hd h => exact hm.receiveFrame hf hl hd h
  | receiveClear hl hd => exact hm.receiveClear hf hl hd
  | receiveDangling hl hd =>
      obtain ⟨-, object, hobject⟩ := hm.received hl
      rw [hd] at hobject
      cases hobject
  | callStop ht =>
      exact hm.threadPlain (.call .stop) hlife hf ht rfl rfl rfl rfl rfl rfl hm.flags
  | callSend ht =>
      exact hm.threadPlain (.call (.sendMessage _)) hlife hf ht rfl rfl rfl rfl rfl rfl hm.flags
  | stopWrite ht =>
      refine hm.threadPlain .tau hlife hf ht rfl rfl rfl rfl rfl rfl ?_
      change _ = _
      rw [hm.flags]
      rfl
  | stopPointer ht hw => exact hm.stopPointer hf ht hw
  | stopNull ht hw => exact hm.stopNull ho ht hw
  | used ht h => exact hm.used hf ho ht hlife h
  | useFault ht h => exact hm.useFault ho ht h
  | threadLock ht hp hmutex => exact hm.threadLock hf ht hp hmutex
  | threadAccess ht ha h => exact hm.threadAccess hf ht ha h
  | threadFault ht h => exact hm.threadFault ht h
  | threadUnlock ht => exact hm.threadUnlock hf ht

def atomicity : Simulation (machine (ι := ι)) System.machine
    (fun fine action => ¬fine.Overlaps action) where
  rel := Follows
  matched fine system action next events hr ho h := by
    obtain ⟨hf, hstep⟩ := step_cases h
    have hm : fine.Matches system := by simpa only [Follows, hf] using hr
    exact hm.step ho hf hstep

-- The locks make the steps of the handler atomic, but for the one use of
-- m_websocket that no lock covers: a run in which no stop() is at that use while
-- another thread is in a critical section that writes looks like a run of the
-- process whose critical sections are single steps, to the same crash if any.
theorem accesses_refine (onMessageReceived onConnected onDisconnected : Bool)
    {actions : List (FineAction ι)}
    (h : machine.exec (start onMessageReceived onConnected onDisconnected) actions =
      some (fine, events))
    (ho : machine.Along (fun fine action => ¬fine.Overlaps action)
      (start onMessageReceived onConnected onDisconnected) actions) :
    ∃ steps system,
      System.machine.exec (.start (.new onMessageReceived onConnected onDisconnected)) steps =
        some (system, events) ∧
      fine.fault = system.crash.map .crash ∧
      (fine.fault = none →
        (fine.mutex = none → fine.memory.handler = system.loop.handler) ∧
        (∀ pc, fine.loop = .ready pc → system.loop.pc = pc) ∧
        ∀ thread pc, fine.threads thread = .ready pc → system.threads thread = pc) := by
  have hstart : atomicity.rel
      (start onMessageReceived onConnected onDisconnected : FineSystem ι)
      (.start (.new onMessageReceived onConnected onDisconnected)) := matches_start _ _ _
  obtain ⟨steps, system, hsteps, hr⟩ := atomicity.exec hstart ho h
  refine ⟨steps, system, hsteps, ?_⟩
  change fine.Follows system at hr
  unfold Follows at hr
  cases hf : fine.fault with
  | none =>
      simp only [hf] at hr
      refine ⟨by rw [hr.running]; rfl, fun _ => ⟨fun hmutex => ?_, fun pc hl => ?_,
        fun thread pc ht => hr.thread_pc ht⟩⟩
      · rw [hr.flags, ← hr.free hmutex]
        rfl
      · have hstands := hr.loop
        rw [hl] at hstands
        exact hstands
  | some fault =>
      simp only [hf] at hr
      obtain ⟨crash, rfl, hcrash⟩ := hr
      exact ⟨by rw [hcrash]; rfl, fun hnone => by cases hnone⟩

-- A frame of a message is received while a thread tests the connection, and the
-- message is handed on while that thread sends.
def interleavedRun : List (FineAction Unit) :=
  stopUnderWay.take 18 ++
    [.loop (.loop .tau), .loop .tau, .loop .tau, .loop .tau, .loop .tau, .loop .tau, .loop .tau,
      .loop (.frame (.frame 1 [65])), .thread () (.call (.sendMessage [88])), .thread () .tau,
      .thread () .tau, .loop (.frame (.frame 0x80 [66])), .thread () .tau, .thread () .tau,
      .thread () .tau, .thread () .tau, .loop (.loop (.callback (.onMessageReceived [65, 66]) false)),
      .thread () (.transport (.ok ())), .thread () .tau]

theorem interleavedRun_runs :
    (machine.exec (start true true true) interleavedRun).isSome = true := rfl

theorem accesses_refine_interleaved : ∃ steps system,
    System.machine.exec (.start (.new true true true)) steps = some (system,
      [.loop (.invoked .onConnected), .loop (.received [65, 66]),
        .loop (.invoked (.onMessageReceived [65, 66])),
        SystemEvent.thread () (.sendReturned true)]) ∧
      system.loop.pc = .head ∧ system.threads () = .outside := by
  obtain ⟨steps, system, hsteps, -, hplaces⟩ :=
    accesses_refine true true true (Machine.exec_final interleavedRun_runs) (by decide)
  obtain ⟨-, hloop, hthreads⟩ := hplaces rfl
  exact ⟨steps, system, hsteps, hloop .head rfl, hthreads () .outside rfl⟩

end FineSystem

end Rito

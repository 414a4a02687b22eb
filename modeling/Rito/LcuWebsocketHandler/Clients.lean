import Rito.LcuWebsocketHandler.Lifetimes
import Mathlib.Data.Finset.Card
import Mathlib.Data.Fintype.Defs

namespace Rito

-- What an access does with the clients.
def Inside.touches (sockets : Sockets) (input : Input) : Inside → List (HandleEvent Nat)
  | .free _ client => [.closed client]
  | .construct _ =>
      match input with
      | .ended (.ok ()) => [.opened sockets.made]
      | _ => []
  | access => ((access.leadsTo sockets).map HandleEvent.used).toList

-- The client a stop() uses without the lock.
def ThreadPlace.uses : ThreadPlace → Option Nat
  | .unlocked client => some client
  | _ => none

-- The client that the loop is about to free.
def LoopPlace.freeing : LoopPlace → Option Nat
  | .inside _ (.free _ client) => some client
  | _ => none

-- The books show the clients that are alive.
def Accounts (held : Finset Nat) (sockets : Sockets) : Prop :=
  ∀ client, client ∈ held ↔ (sockets.clients client).isSome = true

section Access

variable {sockets after : Sockets} {access : Inside} {next : Inside ⊕ Ending} {fault : Fault}
  {input : Input} {held : Finset Nat}

theorem Accounts.of_sameLife (hc : Accounts held sockets) (hs : sockets.SameLife after) :
    Accounts held after := by
  intro client
  rw [hs.clients]
  exact hc client

-- Any other access leaves the same clients alive.
theorem Access.clients_isSome (h : Access sockets access (.ok (after, next)))
    (hf : ∀ site client, access ≠ .free site client)
    (hm : ∀ parameters, access ≠ .construct parameters) (client : Nat) :
    (after.clients client).isSome = (sockets.clients client).isSome := by
  cases h with
  | free => exact absurd rfl (hf _ _)
  | constructed => exact absurd rfl (hm _)
  | sent hd _ | clearConnected hd | credentialsSet _ hd | opened _ hd _ | limited hd
  | setConnected hd => exact (Sockets.sameLife_set hd).clients client
  | _ => rfl

-- A client that is not freed stays alive.
theorem Access.keeps_alive (h : Access sockets access (.ok (after, next))) {client : Nat}
    (hf : ∀ site, access ≠ .free site client) (ha : (sockets.clients client).isSome = true) :
    (after.clients client).isSome = true := by
  cases h with
  | @free site other _ _ =>
      have hne : client ≠ other := fun he => hf site (he ▸ rfl)
      simpa [Sockets.set, hne] using ha
  | constructed =>
      by_cases he : client = sockets.made
      · subst he
        simp
      · simpa [he] using ha
  | sent hd _ | clearConnected hd | credentialsSet _ hd | opened _ hd _ | limited hd
  | setConnected hd =>
      rw [(Sockets.sameLife_set hd).clients client]
      exact ha
  | _ => exact ha

theorem exec_used (client : Option Nat) (hin : ∀ one, client = some one → one ∈ held) :
    (ledger Nat).exec held (client.map HandleEvent.used).toList = some (held, []) := by
  cases client with
  | none => rfl
  | some one =>
      exact exec_uses (hin one rfl) fun event he => by simpa using he

theorem accounts_free {client : Nat} (hc : Accounts held sockets)
    (halive : (sockets.clients client).isSome = true) :
    (ledger Nat).exec held [.closed client] = some (held.erase client, []) ∧
      Accounts (held.erase client) (sockets.set client none) := by
  have hm : client ∈ held := (hc client).mpr halive
  refine ⟨Machine.exec_cons.mpr ⟨held.erase client, [], [], ?_, rfl, rfl⟩, fun other => ?_⟩
  · simp only [ledger, hm, if_true]
  · rw [Finset.mem_erase, hc other]
    by_cases he : other = client
    · subst he
      simp [Sockets.set]
    · simp [Sockets.set, he]

theorem accounts_construct (hc : Accounts held sockets)
    (hfresh : sockets.clients sockets.made = none) (object : HttpsWebsocketClient) :
    (ledger Nat).exec held [.opened sockets.made] = some (insert sockets.made held, []) ∧
      Accounts (insert sockets.made held)
        { websocket := some sockets.made
          clients := Function.update sockets.clients sockets.made (some object)
          made := sockets.made + 1 } := by
  have hm : sockets.made ∉ held := by
    rw [hc, hfresh]
    simp
  refine ⟨Machine.exec_cons.mpr ⟨insert sockets.made held, [], [], ?_, rfl, rfl⟩, fun other => ?_⟩
  · simp only [ledger, hm, if_false]
  · rw [Finset.mem_insert, hc other]
    by_cases he : other = sockets.made
    · simp [he]
    · simp [he]

-- An access keeps the books, since what it uses or frees is alive.
theorem Access.accounts (h : Access sockets access (.ok (after, next)))
    (ha : sockets.access access input = some (.ok (after, next)))
    (hl : sockets.Life access.dying) (hp : access.Points sockets) (hc : Accounts held sockets) :
    ∃ later, (ledger Nat).exec held (access.touches sockets input) = some (later, []) ∧
      Accounts later after := by
  by_cases hf : ∃ site client, access = .free site client
  · obtain ⟨site, client, rfl⟩ := hf
    cases h with
    | free hd =>
        obtain ⟨hexec, hafter⟩ := accounts_free hc (hl.dies client rfl).2
        exact ⟨held.erase client, hexec, hafter⟩
  by_cases hm : ∃ parameters, access = .construct parameters
  · obtain ⟨parameters, rfl⟩ := hm
    cases input with
    | ended result =>
        cases result with
        | error exception =>
            obtain ⟨rfl, rfl⟩ := Prod.mk.inj (Except.ok.inj (Option.some.inj ha))
            exact ⟨held, rfl, hc⟩
        | ok _ =>
            obtain ⟨rfl, rfl⟩ := Prod.mk.inj (Except.ok.inj (Option.some.inj ha))
            obtain ⟨hexec, hafter⟩ := accounts_construct hc (hl.fresh _ (Nat.le_refl _))
              (.new "127.0.0.1" parameters.appPort)
            exact ⟨insert sockets.made held, hexec, hafter⟩
    | _ => cases ha
  · have htouches : access.touches sockets input =
        ((access.leadsTo sockets).map HandleEvent.used).toList := by
      unfold Inside.touches
      split
      · exact absurd ⟨_, _, rfl⟩ hf
      · exact absurd ⟨_, rfl⟩ hm
      · rfl
    refine ⟨held, ?_, fun client => ?_⟩
    · rw [htouches]
      exact exec_used _ fun one hone => (hc one).mpr (hp.alive hl hone)
    · rw [h.clients_isSome (fun site client he => hf ⟨site, client, he⟩)
        (fun parameters he => hm ⟨parameters, he⟩)]
      exact hc client

-- An access that ends the process, but not at a freed client, has used one
-- that is alive.
theorem Access.accounts_fault (h : Access sockets access (.error fault))
    (hl : sockets.Life access.dying) (hp : access.Points sockets) (hc : Accounts held sockets)
    (input : Input) :
    (ledger Nat).exec held (access.touches sockets input) = some (held, []) := by
  have huse : access.touches sockets input =
      ((access.leadsTo sockets).map HandleEvent.used).toList := by
    unfold Inside.touches
    split
    · cases h with
      | null hloads => cases hloads
      | dangling hlead hd => exact absurd rfl (Access.ne_dangling (.dangling hlead hd) hl hp)
    · cases h with
      | null hloads => cases hloads
      | dangling hlead => cases hlead
    · rfl
  rw [huse]
  exact exec_used _ fun one hone => (hc one).mpr (hp.alive hl hone)

end Access

namespace FineSystem

variable {ι : Type*} [DecidableEq ι] {fine next : FineSystem ι} {action : FineAction ι}
  {held : Finset Nat}

-- What a step does with the clients.
def touches (fine : FineSystem ι) : FineAction ι → List (HandleEvent Nat)
  | .loop input =>
      match fine.loop with
      | .inside _ access => access.touches fine.memory.toSockets input
      | place => (place.receives.map HandleEvent.used).toList
  | .thread thread input =>
      match fine.threads thread with
      | .inside _ access => access.touches fine.memory.toSockets input
      | place => (place.uses.map HandleEvent.used).toList

-- The loop frees the client that another thread is about to use.
def Frees (fine : FineSystem ι) (action : FineAction ι) : Prop :=
  action.party = none ∧ fine.loop.freeing.isSome = true ∧
    ∃ thread, (fine.threads thread).uses = fine.loop.freeing

instance [Fintype ι] (fine : FineSystem ι) (action : FineAction ι) :
    Decidable (fine.Frees action) :=
  inferInstanceAs (Decidable (_ ∧ _ ∧ _))

-- A use of a client that is alive.
theorem exec_used_alive {sockets : Sockets} {client : Nat} {object : HttpsWebsocketClient}
    (hc : Accounts held sockets) (hd : sockets.clients client = some object) :
    (ledger Nat).exec held [.used client] = some (held, []) := by
  have halive : (sockets.clients client).isSome = true := by rw [hd]; rfl
  exact exec_used (some client) fun one hone =>
    (hc one).mpr (Option.some.inj hone ▸ halive)

theorem Step.accounts {events : List (SystemEvent ι)} (h : Step fine action next events)
    (hi : fine.Lifetimes) (hf : next.fault ≠ some .dangling)
    (hc : Accounts held fine.memory.toSockets) :
    ∃ later, (ledger Nat).exec held (fine.touches action) = some (later, []) ∧
      Accounts later next.memory.toSockets := by
  cases h with
  | plain hl _ _ _ | loopLock hl _ _ | loopUnlock hl | receivePointer hl _ | receiveNull hl _ =>
      exact ⟨held, by simp only [touches, hl]; rfl, hc⟩
  | callStop ht | callSend ht | stopWrite ht | stopPointer ht _ | stopNull ht _
  | threadLock ht _ _ | threadUnlock ht =>
      exact ⟨held, by simp only [touches, ht]; rfl, hc⟩
  | receiveTest hl hd _ | receiveNotStarted hl hd _ | receiveFrame hl hd _ =>
      exact ⟨held, by simp only [touches, hl]; exact exec_used_alive hc hd, hc⟩
  | receiveClear hl hd =>
      exact ⟨held, by simp only [touches, hl]; exact exec_used_alive hc hd,
        hc.of_sameLife (Sockets.sameLife_set hd)⟩
  | receiveDangling _ _ => exact absurd rfl hf
  | used ht h =>
      refine ⟨held, ?_, hc.of_sameLife h.sameLife⟩
      simp only [touches, ht]
      cases h with
      | notSent hd _ | sent hd _ => exact exec_used_alive hc hd
  | useFault ht h =>
      refine ⟨held, ?_, hc⟩
      simp only [touches, ht]
      cases h with
      | dangling _ => exact absurd rfl hf
      | threw hd _ => exact exec_used_alive hc hd
  | @loopAccess pc access input sockets place hl ha h =>
      have hbefore : fine.held none = some (.inl access) := congrArg LoopPlace.held hl
      have hlife := hi.life
      rw [hbefore] at hlife
      simp only [touches, hl]
      exact h.accounts ha hlife (hi.points none _ hbefore) hc
  | @loopFault pc access input fault hl h =>
      have hbefore : fine.held none = some (.inl access) := congrArg LoopPlace.held hl
      have hlife := hi.life
      rw [hbefore] at hlife
      simp only [touches, hl]
      exact ⟨held, h.accounts_fault hlife (hi.points none _ hbefore) hc input, hc⟩
  | @threadAccess thread pc access input sockets place ht ha h =>
      have hbefore : fine.held (some thread) = some (.inl access) := held_thread ht
      simp only [touches, ht]
      exact h.accounts ha (hi.life_thread hbefore) (hi.points _ _ hbefore) hc
  | @threadFault thread pc access input fault ht h =>
      have hbefore : fine.held (some thread) = some (.inl access) := held_thread ht
      simp only [touches, ht]
      exact ⟨held, h.accounts_fault (hi.life_thread hbefore) (hi.points _ _ hbefore) hc input, hc⟩

theorem accounts_of_exec {onMessageReceived onConnected onDisconnected : Bool}
    {actions : List (FineAction ι)} {events : List (HandleEvent Nat)}
    (h : (machine.observe touches).exec (start onMessageReceived onConnected onDisconnected)
      actions = some (fine, events)) (hf : fine.fault ≠ some .dangling) :
    fine.Lifetimes ∧ ∃ held, (ledger Nat).exec ∅ events = some (held, []) ∧
      Accounts held fine.memory.toSockets := by
  have hi : fine.Lifetimes := by
    obtain ⟨_, he⟩ := Machine.exec_of_observe h
    exact lifetimes_of_exec he
  refine ⟨hi, ?_⟩
  have hall := (machine.observe touches).exec_induction
    (I := fun _ events fine => fine.Lifetimes ∧ (fine.fault ≠ some .dangling →
      ∃ held, (ledger Nat).exec ∅ events = some (held, []) ∧
        Accounts held fine.memory.toSockets)) ?_ ?_ h
  · exact hall.2 hf
  · exact ⟨lifetimes_start _ _ _, fun _ => ⟨∅, rfl, fun _ => by simp [start, Memory.new]⟩⟩
  · rintro actions events fine action next more ⟨hi, hbooks⟩ hs
    obtain ⟨rfl, _, hs⟩ := Machine.observe_step.mp hs
    obtain ⟨hnone, hstep⟩ := step_cases hs
    refine ⟨hi.step hstep, fun hf => ?_⟩
    obtain ⟨held, hexec, hc⟩ := hbooks (by simp [hnone])
    obtain ⟨later, hmore, hlater⟩ := hstep.accounts hi hf hc
    exact ⟨later, Machine.exec_append.mpr ⟨held, [], [], hexec, hmore, rfl⟩, hlater⟩

omit [DecidableEq ι] in
-- All clients that are alive are one.
theorem Lifetimes.alive_unique (hi : fine.Lifetimes) {client other : Nat}
    (h : (fine.memory.clients client).isSome = true)
    (h' : (fine.memory.clients other).isSome = true) : client = other := by
  obtain hw | hd := hi.life.owned client h <;> obtain hw' | hd' := hi.life.owned other h'
  · exact Option.some.inj (hw.symm.trans hw')
  · rw [(hi.life.dies other hd').1] at hw
    cases hw
  · rw [(hi.life.dies client hd).1] at hw'
    cases hw'
  · exact Option.some.inj (hd.symm.trans hd')

omit [DecidableEq ι] in
theorem Lifetimes.not_alive (hi : fine.Lifetimes) (hl : fine.loop = .ready .idle) (client : Nat) :
    (fine.memory.clients client).isSome = false := by
  have hw : fine.memory.websocket = none := hi.dropped (by rw [hl]; exact Or.inl rfl)
  have hheld : fine.held none = none := congrArg LoopPlace.held hl
  rw [← Bool.not_eq_true]
  intro ha
  obtain hsome | hdying := hi.life.owned client ha
  · rw [hw] at hsome
    cases hsome
  · rw [hheld] at hdying
    cases hdying

-- What becomes of the clients, over any interleaving at the grain of single
-- accesses. At any time at most one is alive, every use is of one that is, and
-- when run() has returned each of them has been freed, once.
theorem clients_freed_once (onMessageReceived onConnected onDisconnected : Bool)
    {actions : List (FineAction ι)} {events : List (HandleEvent Nat)}
    (h : (machine.observe touches).exec (start onMessageReceived onConnected onDisconnected)
      actions = some (fine, events)) (hf : fine.fault ≠ some .dangling) :
    (∃ held, (ledger Nat).exec ∅ events = some (held, []) ∧ held.card ≤ 1) ∧
      (fine.loop = .ready .idle → ClosedOnce events) := by
  obtain ⟨hi, held, hexec, hc⟩ := accounts_of_exec h hf
  refine ⟨⟨held, hexec, ?_⟩, fun hl => ?_⟩
  · rw [Finset.card_le_one]
    intro client hclient other hother
    exact hi.alive_unique ((hc client).mp hclient) ((hc other).mp hother)
  · have hempty : held = ∅ := by
      rw [Finset.eq_empty_iff_forall_notMem]
      intro client hclient
      have ha := (hc client).mp hclient
      rw [hi.not_alive hl client] at ha
      cases ha
    subst hempty
    exact Settles.closedOnce ⟨[], hexec⟩

-- Only a stop() that uses m_websocket without the lock can meet a client that
-- has been freed.
theorem Step.dangling {events : List (SystemEvent ι)} (h : Step fine action next events)
    (hi : fine.Lifetimes) (hn : fine.fault = none) (hf : next.fault = some .dangling) :
    ∃ thread client, action.party = some thread ∧ fine.threads thread = .unlocked client ∧
      fine.memory.clients client = none := by
  cases h with
  | plain =>
      simp only at hf
      split at hf <;> cases hf
  | @loopFault pc access _ fault hl h =>
      have hbefore : fine.held none = some (.inl access) := congrArg LoopPlace.held hl
      have hlife := hi.life
      rw [hbefore] at hlife
      exact absurd (Option.some.inj hf) (h.ne_dangling hlife (hi.points none _ hbefore))
  | receiveDangling hl hd =>
      have ha := hi.life.alive _ (hi.receives _ hl)
      rw [hd] at ha
      cases ha
  | useFault ht h =>
      cases h with
      | dangling hd => exact ⟨_, _, rfl, ht, hd⟩
      | threw => cases hf
  | @threadFault thread pc access _ fault ht h =>
      have hbefore : fine.held (some thread) = some (.inl access) := held_thread ht
      exact absurd (Option.some.inj hf)
        (h.ne_dangling (hi.life_thread hbefore) (hi.points _ _ hbefore))
  | receiveNull | stopNull => cases hf
  | _ =>
      have hf : fine.fault = some .dangling := hf
      rw [hn] at hf
      cases hf

-- The client a stop() has read from m_websocket is alive.
structure Safe (fine : FineSystem ι) : Prop where
  lifetimes : fine.Lifetimes
  fault : fine.fault ≠ some .dangling
  alive : ∀ thread client, fine.threads thread = .unlocked client →
    (fine.memory.clients client).isSome = true

-- A thread that comes to such a place has just read m_websocket.
theorem Safe.alive_of_update {thread other : ι} {place : ThreadPlace} {client : Nat}
    (hi : fine.Safe) (hp : ∀ one, place = .unlocked one → fine.memory.websocket = some one)
    (h : Function.update fine.threads thread place other = .unlocked client) :
    (fine.memory.clients client).isSome = true := by
  by_cases he : other = thread
  · subst he
    rw [Function.update_self] at h
    exact hi.lifetimes.life.alive client (hp client h)
  · rw [Function.update_of_ne he] at h
    exact hi.alive other client h

theorem Safe.step {events : List (SystemEvent ι)} (hi : fine.Safe) (hn : ¬fine.Frees action)
    (h : machine.step fine action = some (next, events)) : next.Safe := by
  obtain ⟨hnone, hstep⟩ := step_cases h
  refine ⟨hi.lifetimes.step hstep, fun hf => ?_, fun thread client hu => ?_⟩
  · obtain ⟨thread, client, -, ht, hd⟩ := hstep.dangling hi.lifetimes hnone hf
    have ha := hi.alive thread client ht
    rw [hd] at ha
    cases ha
  · cases hstep with
    | callStop | callSend | stopWrite | threadLock | threadUnlock =>
        exact hi.alive_of_update (fun one hone => by cases hone) hu
    | stopPointer ht hw =>
        exact hi.alive_of_update (fun one hone => ThreadPlace.unlocked.inj hone ▸ hw) hu
    | used ht hend =>
        exact (hend.sameLife.clients client).trans
          (hi.alive_of_update (fun one hone => by cases hone) hu)
    | @threadAccess taker pc access _ sockets place ht _ haccess =>
        have hbefore : fine.held (some taker) = some (.inl access) := held_thread ht
        have hsame := haccess.sameLife (hi.lifetimes.blocks _ _ hbefore)
        exact (hsame.clients client).trans
          (hi.alive_of_update (fun one hone => by cases place <;> cases hone) hu)
    | @loopAccess pc access _ sockets place hl _ haccess =>
        refine haccess.keeps_alive (fun site he => hn ⟨rfl, ?_⟩) (hi.alive thread client hu)
        subst he
        rw [hl]
        have hu : fine.threads thread = .unlocked client := hu
        exact ⟨rfl, thread, by rw [hu]; rfl⟩
    | receiveClear hl hd =>
        exact ((Sockets.sameLife_set hd).clients client).trans (hi.alive thread client hu)
    | _ => exact hi.alive thread client hu

omit [DecidableEq ι] in
theorem safe_start (onMessageReceived onConnected onDisconnected : Bool) :
    Safe (start onMessageReceived onConnected onDisconnected : FineSystem ι) :=
  ⟨lifetimes_start _ _ _, by simp [start], fun thread client hu => by cases hu⟩

theorem LoopPlace.freeing_eq_some {place : LoopPlace} {client : Nat}
    (h : place.freeing = some client) : ∃ pc site, place = .inside pc (.free site client) := by
  cases place with
  | inside pc access =>
      cases access with
      | free site other =>
          obtain rfl := Option.some.inj h
          exact ⟨pc, site, rfl⟩
      | _ => cases h
  | _ => cases h

theorem ThreadPlace.uses_eq_some {place : ThreadPlace} {client : Nat}
    (h : place.uses = some client) : place = .unlocked client := by
  cases place with
  | unlocked other =>
      obtain rfl := Option.some.inj h
      rfl
  | _ => cases h

theorem step_use_freed {thread : ι} {client : Nat} (hf : fine.fault = none)
    (ht : fine.threads thread = .unlocked client) (hd : fine.memory.clients client = none) :
    machine.step fine (.thread thread .tau) =
      some ({ fine with fault := some .dangling }, []) := by
  change fine.step (.thread thread .tau) = _
  simp [step, hf, threadStep, ht, Sockets.send, hd]

-- Once the loop has freed a client that a stop() is about to use, that use is
-- one of a freed client.
theorem frees_dangles {events : List (SystemEvent ι)} (hu : fine.Frees action)
    (hs : machine.step fine action = some (next, events)) (hi : fine.Lifetimes) {thread : ι}
    (huses : (fine.threads thread).uses = fine.loop.freeing) :
    machine.step next (.thread thread .tau) =
      some ({ next with fault := some .dangling }, []) := by
  obtain ⟨hparty, hsome, -⟩ := hu
  obtain ⟨client, hfreeing⟩ := Option.isSome_iff_exists.mp hsome
  obtain ⟨pc, site, hl⟩ := LoopPlace.freeing_eq_some hfreeing
  have ht := ThreadPlace.uses_eq_some (huses.trans hfreeing)
  obtain ⟨hnone, hstep⟩ := step_cases hs
  have hbefore : fine.held none = some (.inl (.free site client)) := congrArg LoopPlace.held hl
  have hlife := hi.life
  rw [hbefore] at hlife
  cases action with
  | thread taker input => cases hparty
  | loop input =>
      cases hstep with
      | loopAccess hin _ haccess =>
          rw [hl] at hin
          obtain ⟨rfl, rfl⟩ := LoopPlace.inside.inj hin
          cases haccess with
          | free hd => exact step_use_freed hnone ht (by simp [setSockets, Sockets.set])
      | loopFault hin haccess =>
          rw [hl] at hin
          obtain ⟨rfl, rfl⟩ := LoopPlace.inside.inj hin
          cases haccess with
          | dangling hlead hd =>
              exact absurd rfl (Access.ne_dangling (.dangling hlead hd) hlife trivial)
          | null hloads => cases hloads
      | plain hin | loopLock hin | loopUnlock hin | receivePointer hin | receiveNull hin
      | receiveTest hin | receiveNotStarted hin | receiveFrame hin | receiveClear hin
      | receiveDangling hin =>
          rw [hl] at hin
          cases hin

-- The clients that stop() meets without the lock. No freed client is used in a
-- run in which the loop frees none that a stop() has read, and no other code
-- ever comes to one. Where the loop does free such a client, the next step of
-- each stop() that has read it uses it.
theorem no_dangling (onMessageReceived onConnected onDisconnected : Bool)
    {actions : List (FineAction ι)} {events : List (SystemEvent ι)}
    (h : machine.exec (start onMessageReceived onConnected onDisconnected) actions =
      some (fine, events)) :
    (machine.Along (fun fine action => ¬fine.Frees action)
        (start onMessageReceived onConnected onDisconnected) actions →
      fine.fault ≠ some .dangling) ∧
      ∀ action next more, machine.step fine action = some (next, more) →
        (next.fault = some .dangling →
          ∃ thread client, action.party = some thread ∧ fine.threads thread = .unlocked client) ∧
        (fine.Frees action → ∀ thread, (fine.threads thread).uses = fine.loop.freeing →
          machine.step next (.thread thread .tau) =
            some ({ next with fault := some .dangling }, [])) := by
  have hi := lifetimes_of_exec h
  refine ⟨fun ha => ?_, fun action next more hs =>
    ⟨fun hf => ?_, fun hu thread huses => frees_dangles hu hs hi huses⟩⟩
  · exact (machine.invariant_along (safe_start _ _ _) (fun _ _ _ _ hi hn hs => hi.step hn hs)
      ha h).fault
  · obtain ⟨hnone, hstep⟩ := step_cases hs
    obtain ⟨thread, client, hparty, ht, -⟩ := hstep.dangling hi hnone hf
    exact ⟨thread, client, hparty, ht⟩

-- The loop connects, and a stop() comes as far as its use of m_websocket.
def stopUnderWay : List (FineAction Unit) :=
  [.loop (.loop .run), .loop (.loop .tau), .loop (.loop .tau), .loop .tau, .loop .tau, .loop .tau,
    .loop (.loop .tau), .loop .tau, .loop .tau, .loop .tau, .loop (.scan (.ok ⟨"token", 51234⟩)),
    .loop (.ended (.ok ())), .loop (.ended (.ok ())), .loop (.transport (.ok ())),
    .loop (.transport (.ok ())), .loop .tau, .loop .tau,
    .loop (.loop (.callback .onConnected false)), .thread () (.call .stop), .thread () .tau,
    .thread () .tau, .thread () .tau, .thread () .tau, .thread () .tau, .thread () .tau]

-- The loop drops the client, up to the step that frees it.
def reset : List (FineAction Unit) :=
  [.loop (.loop .tau), .loop .tau, .loop .tau, .loop .tau, .loop .tau, .loop (.transport (.ok ()))]

def stoppedRun : List (FineAction Unit) :=
  stopUnderWay ++ .thread () (.transport (.ok ())) :: (reset ++
    [.loop .tau, .loop .tau, .loop (.loop (.callback .onDisconnected false))])

theorem stoppedRun_runs :
    ((machine.observe touches).exec (start true true true) stoppedRun).isSome = true := rfl

theorem clients_freed_once_stopped :
    ClosedOnce (((machine.observe touches).exec (start true true true) stoppedRun).get
      stoppedRun_runs).2 :=
  (clients_freed_once true true true (Machine.exec_final stoppedRun_runs)
    (show (none : Option Fault) ≠ some .dangling by simp)).2 rfl

-- The same, but for the use, which is to come after the client has been freed.
def racedRun : List (FineAction Unit) := stopUnderWay ++ reset

theorem racedRun_runs : (machine.exec (start true true true) racedRun).isSome = true := rfl

theorem freedRun_runs :
    (machine.exec (start true true true) (racedRun ++ [.loop .tau])).isSome = true := rfl

theorem no_dangling_raced :
    machine.step (machine.final (start true true true) (racedRun ++ [.loop .tau]) freedRun_runs)
        (.thread () .tau) =
      some ({ machine.final (start true true true) (racedRun ++ [.loop .tau]) freedRun_runs with
        fault := some .dangling }, []) :=
  ((no_dangling true true true (Machine.exec_final racedRun_runs)).2 (.loop .tau) _ [] rfl).2
    ⟨rfl, rfl, (), rfl⟩ () rfl

end FineSystem

end Rito

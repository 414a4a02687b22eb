import Rito.LcuWebsocketHandler.Mutex
import Rito.LcuWebsocketHandler.Placed
import Rito.Ledger

namespace Rito

-- The client that a reset is destroying.
def Inside.dying : Inside → Option Nat
  | .destroyTest _ client | .clearConnected _ client | .shutdown _ client
  | .free _ client => some client
  | _ => none

def dying : Inside ⊕ Ending → Option Nat
  | .inl access => access.dying
  | .inr _ => none

-- What a place in a critical section says about m_websocket: the pointers read
-- before are still the ones there.
def Inside.Points (sockets : Sockets) : Inside → Prop
  | .testFlag client | .sendFrame _ client | .reconnectFlag client | .setMaxPayloadSize client
  | .setConnected client => sockets.websocket = some client
  | .setCredentials _ | .openSocket => sockets.websocket.isSome = true
  | .scan | .construct _ => sockets.websocket = none
  | _ => True

def pointsAt (sockets : Sockets) : Inside ⊕ Ending → Prop
  | .inl access => access.Points sockets
  | .inr _ => True

namespace Sockets

-- m_websocket leads to a client that is alive, and every other client but the
-- one being destroyed has been freed. A client in destruction is alive, and
-- m_websocket has been nulled.
structure Life (sockets : Sockets) (dying : Option Nat) : Prop where
  alive : ∀ client, sockets.websocket = some client → (sockets.clients client).isSome = true
  owned : ∀ client, (sockets.clients client).isSome = true →
    sockets.websocket = some client ∨ dying = some client
  fresh : ∀ client, sockets.made ≤ client → sockets.clients client = none
  dies : ∀ client, dying = some client →
    sockets.websocket = none ∧ (sockets.clients client).isSome = true

-- The same clients are alive, and m_websocket leads to the same one.
structure SameLife (sockets after : Sockets) : Prop where
  websocket : after.websocket = sockets.websocket
  clients : ∀ client, (after.clients client).isSome = (sockets.clients client).isSome
  made : after.made = sockets.made

variable {sockets after : Sockets} {client : Nat} {object other : HttpsWebsocketClient}
  {access : Inside} {next : Inside ⊕ Ending} {fault : Fault}

theorem SameLife.refl (sockets : Sockets) : sockets.SameLife sockets := ⟨rfl, fun _ => rfl, rfl⟩

-- A write to a client that is alive.
theorem sameLife_set (hd : sockets.clients client = some object) :
    sockets.SameLife (sockets.set client (some other)) := by
  refine ⟨rfl, fun one => ?_, rfl⟩
  by_cases he : one = client
  · subst he
    simp [set, hd]
  · simp [set, he]

theorem Life.of_sameLife {dying : Option Nat} (hl : sockets.Life dying)
    (hs : sockets.SameLife after) : after.Life dying where
  alive client hw := by
    rw [hs.clients]
    exact hl.alive client (hs.websocket ▸ hw)
  owned client ha := by
    rw [hs.websocket]
    exact hl.owned client (hs.clients client ▸ ha)
  fresh client hm := by
    have hnone := hl.fresh client (hs.made ▸ hm)
    have hsome := hs.clients client
    rw [hnone] at hsome
    simpa using hsome
  dies client hdying := by
    rw [hs.websocket, hs.clients]
    exact hl.dies client hdying

theorem SendEnds.sameLife {message : Bytes} {sent : Bool}
    (h : sockets.SendEnds message client (.ok (sent, after))) : sockets.SameLife after := by
  cases h with
  | notSent _ _ => exact SameLife.refl _
  | sent hd _ => exact sameLife_set hd

end Sockets

section Access

variable {sockets after : Sockets} {access : Inside} {next : Inside ⊕ Ending} {fault : Fault}

theorem Inside.Points.of_sameLife (hp : access.Points sockets) (hs : sockets.SameLife after) :
    access.Points after := by
  cases access <;> simp only [Points, hs.websocket] at hp ⊢ <;> exact hp

-- The accesses of a send_message() and of an is_connected() free no client and
-- make none.
theorem Access.sameLife (h : Access sockets access (.ok (after, next)))
    (hb : access.block ≠ .stopReset ∧ access.block ≠ .reconnect) : sockets.SameLife after := by
  cases h with
  | @release site _ hw | @free site _ _ hd =>
      cases site with
      | stop => exact absurd rfl hb.1
      | reconnect => exact absurd rfl hb.2
  | constructed => exact absurd rfl hb.2
  | sent hd _ | clearConnected hd | credentialsSet _ hd | opened _ hd _ | limited hd
  | setConnected hd => exact Sockets.sameLife_set hd
  | _ => exact Sockets.SameLife.refl _

theorem Sockets.Life.release {client : Nat} (hl : sockets.Life none)
    (hw : sockets.websocket = some client) :
    ({ sockets with websocket := none } : Sockets).Life (some client) where
  alive client hnone := by cases hnone
  owned other ha := by
    obtain hother | hother := hl.owned other ha
    · exact Or.inr (hw ▸ hother)
    · cases hother
  fresh := hl.fresh
  dies other hother := by
    obtain rfl := Option.some.inj hother
    exact ⟨rfl, hl.alive client hw⟩

theorem Sockets.Life.free {client : Nat} (hl : sockets.Life (some client)) :
    (sockets.set client none).Life none := by
  have hnone : sockets.websocket = none := (hl.dies client rfl).1
  refine ⟨fun other hw => ?_, fun other ha => ?_, fun other hm => ?_, fun other hother => ?_⟩
  · have hw : sockets.websocket = some other := hw
    rw [hnone] at hw
    cases hw
  · by_cases he : other = client
    · subst he
      simp [set] at ha
    · have hbefore : (sockets.clients other).isSome = true := by
        simpa [set, he] using ha
      obtain hw | hw := hl.owned other hbefore
      · rw [hnone] at hw
        cases hw
      · exact absurd (Option.some.inj hw).symm he
  · have hbefore := hl.fresh other hm
    by_cases he : other = client <;> simp [set, he, hbefore]
  · cases hother

theorem Sockets.Life.construct (hl : sockets.Life none) (hw : sockets.websocket = none)
    (object : HttpsWebsocketClient) :
    ({ websocket := some sockets.made
       clients := Function.update sockets.clients sockets.made (some object)
       made := sockets.made + 1 } : Sockets).Life none := by
  refine ⟨fun other hother => ?_, fun other ha => ?_, fun other hm => ?_, fun other hother => ?_⟩
  · obtain rfl := Option.some.inj hother
    simp
  · by_cases he : other = sockets.made
    · exact Or.inl (by rw [he])
    · have hbefore : (sockets.clients other).isSome = true := by
        simpa [he] using ha
      obtain hother | hother := hl.owned other hbefore
      · rw [hw] at hother
        cases hother
      · cases hother
  · have hm : sockets.made + 1 ≤ other := hm
    have hne : other ≠ sockets.made := by omega
    simpa [hne] using hl.fresh other (by omega)
  · cases hother

theorem Access.life (h : Access sockets access (.ok (after, next)))
    (hl : sockets.Life access.dying) (hp : access.Points sockets) :
    after.Life (dying next) ∧ pointsAt after next := by
  cases h with
  | @releaseNull site hw => cases site <;> exact ⟨hl, trivial⟩
  | @free site client _ hd =>
      have hfree : (sockets.set client none).Life none := hl.free
      cases site <;> exact ⟨hfree, trivial⟩
  | release hw => exact ⟨hl.release hw, trivial⟩
  | constructed => exact ⟨hl.construct hp _, rfl⟩
  | testPointer hw | sendPointer hw | reconnectPointer hw | reconnectNull hw => exact ⟨hl, hw⟩
  | scanned => exact ⟨hl, hp⟩
  | credentialsSet hw hd =>
      exact ⟨hl.of_sameLife (Sockets.sameLife_set hd), Option.isSome_iff_exists.mpr ⟨_, hw⟩⟩
  | opened hw hd _ => exact ⟨hl.of_sameLife (Sockets.sameLife_set hd), hw⟩
  | limited hd => exact ⟨hl.of_sameLife (Sockets.sameLife_set hd), hp⟩
  | clearConnected hd | sent hd _ | setConnected hd =>
      exact ⟨hl.of_sameLife (Sockets.sameLife_set hd), trivial⟩
  | _ => exact ⟨hl, trivial⟩

theorem Access.dropped (h : Access sockets access (.ok (after, next)))
    (hn : next = .inr .dropped) (hl : sockets.Life access.dying) : after.websocket = none := by
  cases h with
  | releaseNull hw => exact hw
  | free hd => exact (hl.dies _ rfl).1
  | _ => cases hn

-- Only the resets destroy a client.
theorem Inside.dying_eq_none (hb : access.block ≠ .stopReset ∧ access.block ≠ .reconnect) :
    access.dying = none := by
  cases access with
  | destroyTest site | clearConnected site | shutdown site | free site =>
      cases site with
      | stop => exact absurd rfl hb.1
      | reconnect => exact absurd rfl hb.2
  | _ => rfl

-- A critical section starts with no pointer of its own.
theorem LoopPc.entry_points (sockets : Sockets) {pc : LoopPc} (hp : pc.entry = some access) :
    access.dying = none ∧ access.Points sockets := by
  cases pc with
  | check | stopReset | reconnect =>
      obtain rfl := Option.some.inj hp
      exact ⟨rfl, trivial⟩
  | _ => cases hp

theorem ThreadPc.entry_points (sockets : Sockets) {pc : ThreadPc} (hp : pc.entry = some access) :
    access.dying = none ∧ access.Points sockets ∧
      access.block ≠ .stopReset ∧ access.block ≠ .reconnect := by
  cases pc with
  | stopCheck | sendCheck | sendUse =>
      obtain rfl := Option.some.inj hp
      exact ⟨rfl, trivial, by simp [Inside.block]⟩
  | _ => cases hp

-- A critical section never meets a client that has been freed.
theorem Inside.Points.alive {client : Nat} (hp : access.Points sockets)
    (hl : sockets.Life access.dying) (hc : access.leadsTo sockets = some client) :
    (sockets.clients client).isSome = true := by
  cases access with
  | destroyTest | clearConnected | shutdown | free => exact (hl.dies client hc).2
  | setCredentials | openSocket => exact hl.alive client hc
  | testFlag | sendFrame | reconnectFlag | setMaxPayloadSize | setConnected =>
      obtain rfl := Option.some.inj hc
      exact hl.alive _ hp
  | _ => cases hc

theorem Access.ne_dangling (h : Access sockets access (.error fault))
    (hl : sockets.Life access.dying) (hp : access.Points sockets) : fault ≠ .dangling := by
  cases h with
  | dangling hc hd =>
      have ha := hp.alive hl hc
      rw [hd] at ha
      cases ha
  | _ => simp

end Access

theorem pointsAt.of_sameLife {sockets after : Sockets} {place : Inside ⊕ Ending}
    (hp : pointsAt sockets place) (hs : sockets.SameLife after) : pointsAt after place := by
  cases place with
  | inl access => exact Inside.Points.of_sameLife hp hs
  | inr ending => trivial

-- The places of the loop that have dropped the client.
def LoopPlace.Dropped : LoopPlace → Prop
  | .ready pc => pc = .idle ∨ pc = .entered ∨ pc = .stopNotify
  | .leaving _ ending => ending = .dropped
  | _ => False

namespace FineSystem

variable {ι : Type*} [DecidableEq ι] {fine next : FineSystem ι} {action : FineAction ι}
  {events : List (SystemEvent ι)} {party : Option ι}

-- The pointers that threads hold, read from the places they stand at. It says
-- nothing about a stop() that uses m_websocket without the lock.
structure Lifetimes (fine : FineSystem ι) : Prop where
  exclusive : fine.Exclusive
  life : fine.memory.Life ((fine.held none).bind dying)
  points : ∀ party place, fine.held party = some place → pointsAt fine.memory.toSockets place
  blocks : ∀ thread access, fine.held (some thread) = some (.inl access) →
    access.block ≠ .stopReset ∧ access.block ≠ .reconnect
  receives : ∀ client, fine.loop.receives = some client → fine.memory.websocket = some client
  dropped : fine.loop.Dropped → fine.memory.websocket = none

omit [DecidableEq ι] in
-- A step that moves nobody in or out of a critical section, and leaves the
-- same clients alive.
theorem Lifetimes.of_sameLife (hi : fine.Lifetimes) (hx : next.Exclusive)
    (hs : fine.memory.SameLife next.memory.toSockets) (hheld : next.held = fine.held)
    (hreceives : ∀ client, next.loop.receives = some client →
      fine.memory.websocket = some client)
    (hdropped : next.loop.Dropped → fine.memory.websocket = none) : next.Lifetimes where
  exclusive := hx
  life := by
    rw [hheld]
    exact hi.life.of_sameLife hs
  points party place hplace := by
    rw [hheld] at hplace
    exact (hi.points party place hplace).of_sameLife hs
  blocks thread access hplace := by
    rw [hheld] at hplace
    exact hi.blocks thread access hplace
  receives client hc := by
    rw [hs.websocket]
    exact hreceives client hc
  dropped hd := by
    rw [hs.websocket]
    exact hdropped hd

-- A step of the one thread that is in a critical section, or is to enter one.
theorem Lifetimes.of_place {place : Option (Inside ⊕ Ending)}
    (hx : next.Exclusive) (hheld : next.held = Function.update fine.held party place)
    (hothers : ∀ other, other ≠ party → fine.held other = none)
    (hlife : next.memory.Life ((next.held none).bind dying))
    (hpoints : ∀ held, place = some held → pointsAt next.memory.toSockets held)
    (hblocks : ∀ thread access, party = some thread → place = some (.inl access) →
      access.block ≠ .stopReset ∧ access.block ≠ .reconnect)
    (hreceives : ∀ client, next.loop.receives = some client →
      next.memory.websocket = some client)
    (hdropped : next.loop.Dropped → next.memory.websocket = none) : next.Lifetimes where
  exclusive := hx
  life := hlife
  points other held hplace := by
    by_cases he : other = party
    · subst he
      rw [hheld, Function.update_self] at hplace
      exact hpoints held hplace
    · rw [hheld, Function.update_of_ne he, hothers other he] at hplace
      cases hplace
  blocks thread access hplace := by
    by_cases he : some thread = party
    · subst he
      rw [hheld, Function.update_self] at hplace
      exact hblocks thread access rfl hplace
    · rw [hheld, Function.update_of_ne he, hothers _ he] at hplace
      cases hplace
  receives := hreceives
  dropped := hdropped

omit [DecidableEq ι] in
theorem Exclusive.others (hx : fine.Exclusive) (party : Option ι)
    (h : fine.mutex = none ∨ fine.mutex = some party) (other : Option ι) (hne : other ≠ party) :
    fine.held other = none := by
  rw [← Option.not_isSome_iff_eq_none, hx other]
  rcases h with h | h <;> simp [h, Ne.symm hne]

theorem held_eq_of_loop (ht : next.threads = fine.threads) (hb : fine.loop.held = none)
    (ha : next.loop.held = none) : next.held = fine.held := by
  rw [held_setLoop fine ht, ha]
  exact Function.update_eq_self_iff.mpr hb.symm

theorem held_eq_of_thread {thread : ι} {before after : ThreadPlace}
    (hl : next.loop = fine.loop) (ht : next.threads = Function.update fine.threads thread after)
    (hthread : fine.threads thread = before) (hb : before.held = none) (ha : after.held = none) :
    next.held = fine.held := by
  rw [held_setThread fine hl ht, ha]
  exact Function.update_eq_self_iff.mpr ((held_thread hthread).trans hb).symm

-- The loop only comes to such a place from another, or from the reset.
theorem dropped_of_plain {handler : LcuWebsocketHandler} {pc : LoopPc} {action : LoopAction}
    {loop : Loop} {more : List LoopEvent} (hp : pc.entry = none)
    (h : Loop.threadStep { handler := handler, pc := pc } action = some (loop, more))
    (hd : (LoopPlace.ready loop.pc).Dropped) : (LoopPlace.ready pc).Dropped := by
  cases Loop.threadStep_cases h with
  | run => exact Or.inl rfl
  | notifySilent site _ | notifyReturns site _ | notifyThrows site _ =>
      cases site with
      | stop => exact Or.inr (Or.inr rfl)
      | disconnected | connected => simp [LoopPlace.Dropped] at hd
  | reset | resetShutdown => cases hp
  | setStop => exact hd
  | sendFrame => simpa using hd
  | _ => simp [LoopPlace.Dropped] at hd

theorem Lifetimes.lock (hi : fine.Lifetimes) (hx : next.Exclusive) (hm : fine.mutex = none)
    {access : Inside} {held : Option (Inside ⊕ Ending)}
    (hheld : next.held = Function.update fine.held party held) (hin : held = some (.inl access))
    (hs : next.memory = fine.memory) (hdying : access.dying = none)
    (hp : access.Points fine.memory.toSockets)
    (hb : party ≠ none → access.block ≠ .stopReset ∧ access.block ≠ .reconnect)
    (hreceives : ∀ client, next.loop.receives = some client →
      fine.memory.websocket = some client)
    (hdropped : next.loop.Dropped → fine.memory.websocket = none) : next.Lifetimes := by
  subst hin
  have hnobody : ∀ other, fine.held other = none := by
    intro other
    rw [← Option.not_isSome_iff_eq_none, hi.exclusive other, hm]
    simp
  have hlife := hi.life
  rw [hnobody none] at hlife
  refine .of_place hx hheld (fun other _ => hnobody other) ?_ ?_ ?_ (hs ▸ hreceives)
    (hs ▸ hdropped)
  · rw [hs, hheld]
    by_cases he : none = party
    · subst he
      rw [Function.update_self]
      change fine.memory.Life access.dying
      rw [hdying]
      exact hlife
    · rw [Function.update_of_ne he, hnobody none]
      exact hlife
  · intro held he
    obtain rfl := Option.some.inj he
    rw [hs]
    exact hp
  · intro thread other hthread he
    obtain rfl := Sum.inl.inj (Option.some.inj he)
    exact hb (by simp [hthread])

theorem Lifetimes.unlock (hi : fine.Lifetimes) (hx : next.Exclusive) {ending : Ending}
    (hbefore : fine.held party = some (.inr ending)) {held : Option (Inside ⊕ Ending)}
    (hheld : next.held = Function.update fine.held party held) (hout : held = none)
    (hs : next.memory = fine.memory)
    (hreceives : ∀ client, next.loop.receives = some client →
      fine.memory.websocket = some client)
    (hdropped : next.loop.Dropped → fine.memory.websocket = none) : next.Lifetimes := by
  subst hout
  have hothers := hi.exclusive.others party
    (Or.inr ((hi.exclusive party).mp (by rw [hbefore]; rfl)))
  refine .of_place hx hheld hothers ?_ (fun held he => by cases he) (fun _ _ _ he => by cases he)
    (hs ▸ hreceives) (hs ▸ hdropped)
  have hlife := hi.life
  rw [hs, hheld]
  by_cases he : none = party
  · subst he
    rw [Function.update_self]
    rw [hbefore] at hlife
    exact hlife
  · rw [Function.update_of_ne he]
    exact hlife

theorem Lifetimes.loopAccess (hi : fine.Lifetimes) (hx : next.Exclusive) {access : Inside}
    {place : Inside ⊕ Ending} (hbefore : fine.held none = some (.inl access))
    {held : Option (Inside ⊕ Ending)} (hheld : next.held = Function.update fine.held none held)
    (hin : held = some place)
    (h : Access fine.memory.toSockets access (.ok (next.memory.toSockets, place)))
    (hreceives : next.loop.receives = none)
    (hdropped : next.loop.Dropped → place = .inr .dropped) : next.Lifetimes := by
  subst hin
  have hothers := hi.exclusive.others none
    (Or.inr ((hi.exclusive none).mp (by rw [hbefore]; rfl)))
  have hlife := hi.life
  rw [hbefore] at hlife
  obtain ⟨hlife, hpoints⟩ := h.life hlife (hi.points none _ hbefore)
  refine .of_place hx hheld hothers ?_ ?_ (fun _ _ hnone => by cases hnone) ?_ ?_
  · rw [hheld, Function.update_self]
    exact hlife
  · intro held he
    exact Option.some.inj he ▸ hpoints
  · intro client hc
    rw [hreceives] at hc
    cases hc
  · intro hd
    have hbegun := hi.life
    rw [hbefore] at hbegun
    exact h.dropped (hdropped hd) hbegun

-- No client is being destroyed while a thread other than the loop has the
-- mutex.
omit [DecidableEq ι] in
theorem Lifetimes.life_thread (hi : fine.Lifetimes) {thread : ι} {access : Inside}
    (hbefore : fine.held (some thread) = some (.inl access)) :
    fine.memory.Life access.dying := by
  have hothers := hi.exclusive.others (some thread)
    (Or.inr ((hi.exclusive (some thread)).mp (by rw [hbefore]; rfl)))
  have hlife := hi.life
  rw [hothers none (by simp)] at hlife
  rw [Inside.dying_eq_none (hi.blocks thread access hbefore)]
  exact hlife

theorem Lifetimes.threadAccess (hi : fine.Lifetimes) (hx : next.Exclusive) {thread : ι}
    {access : Inside} {place : Inside ⊕ Ending}
    (hbefore : fine.held (some thread) = some (.inl access)) {held : Option (Inside ⊕ Ending)}
    (hheld : next.held = Function.update fine.held (some thread) held) (hin : held = some place)
    (h : Access fine.memory.toSockets access (.ok (next.memory.toSockets, place)))
    (hloop : next.loop = fine.loop) : next.Lifetimes := by
  subst hin
  have hothers := hi.exclusive.others (some thread)
    (Or.inr ((hi.exclusive (some thread)).mp (by rw [hbefore]; rfl)))
  have hblock := hi.blocks thread access hbefore
  have hs := h.sameLife hblock
  have hnone : fine.held none = none := hothers none (by simp)
  have hlife := hi.life
  rw [hnone] at hlife
  refine .of_place hx hheld hothers ?_ ?_ ?_ ?_ ?_
  · rw [hheld, Function.update_of_ne (by simp), hnone]
    exact hlife.of_sameLife hs
  · intro held he
    exact Option.some.inj he ▸ (h.life (hi.life_thread hbefore) (hi.points _ _ hbefore)).2
  · intro other later he hplace
    obtain rfl := Option.some.inj hplace
    have heq := h.block_eq
    simp only at heq
    rw [heq]
    exact hblock
  · rw [hloop, hs.websocket]
    exact hi.receives
  · rw [hloop, hs.websocket]
    exact hi.dropped

theorem Lifetimes.step (hi : fine.Lifetimes) (h : Step fine action next events) :
    next.Lifetimes := by
  have hx := hi.exclusive.step h
  cases h with
  | plain hl hp hr h =>
      refine hi.of_sameLife hx (Sockets.SameLife.refl _) (held_eq_of_loop rfl (by rw [hl]; rfl) rfl)
        (fun client hc => by cases hc) fun hd => hi.dropped ?_
      rw [hl]
      exact dropped_of_plain hp h hd
  | receivePointer hl hw =>
      refine hi.of_sameLife hx (Sockets.SameLife.refl _) (held_eq_of_loop rfl (by rw [hl]; rfl) rfl)
        (fun client hc => ?_) (fun hd => by cases hd)
      exact Option.some.inj hc ▸ hw
  | @receiveTest client object hl hd hs =>
      refine hi.of_sameLife hx (Sockets.SameLife.refl _) (held_eq_of_loop rfl (by rw [hl]; rfl) rfl)
        (fun client hc => hi.receives client ?_) (fun hd => by cases hd)
      rw [hl]
      exact hc
  | receiveNotStarted hl _ _ =>
      exact hi.of_sameLife hx (Sockets.SameLife.refl _)
        (held_eq_of_loop rfl (by rw [hl]; rfl) rfl) (fun client hc => by cases hc)
        (fun hd => by simp [LoopPlace.Dropped] at hd)
  | receiveFrame hl _ h =>
      refine hi.of_sameLife hx (Sockets.SameLife.refl _)
        (held_eq_of_loop rfl (by rw [hl]; rfl) (FrameStep.held h))
        (fun client hc => hi.receives client ?_) ?_
      · rw [hl]
        cases h <;> first | exact hc | cases hc
      · intro hd
        cases h <;> simp [LoopPlace.Dropped] at hd
  | receiveClear hl hd =>
      exact hi.of_sameLife hx (Sockets.sameLife_set hd)
        (held_eq_of_loop rfl (by rw [hl]; rfl) rfl) (fun client hc => by cases hc)
        (fun hd => by simp [LoopPlace.Dropped] at hd)
  | callStop ht | callSend ht | stopWrite ht | stopPointer ht _ =>
      exact hi.of_sameLife hx (Sockets.SameLife.refl _) (held_eq_of_thread rfl rfl ht rfl rfl)
        hi.receives hi.dropped
  | used ht h =>
      exact hi.of_sameLife hx h.sameLife (held_eq_of_thread rfl rfl ht rfl rfl) hi.receives
        hi.dropped
  | loopFault | receiveNull | receiveDangling | stopNull | useFault | threadFault =>
      exact hi.of_sameLife hx (Sockets.SameLife.refl _) rfl hi.receives hi.dropped
  | loopLock hl hp hm =>
      obtain ⟨hdying, hpoints⟩ := LoopPc.entry_points fine.memory.toSockets hp
      exact hi.lock hx hm (held_setLoop fine rfl) rfl rfl hdying hpoints
        (fun h => absurd rfl h) (fun client hc => by cases hc) (fun hd => hd.elim)
  | @loopAccess pc access _ sockets place hl _ h =>
      have hbefore : fine.held none = some (.inl access) := congrArg LoopPlace.held hl
      refine hi.loopAccess hx hbefore (held_setLoop fine rfl) (held_loopPlace pc place) h ?_ ?_
      · cases place <;> rfl
      · intro hd
        cases place with
        | inl later => exact hd.elim
        | inr ending => exact congrArg Sum.inr hd
  | @loopUnlock pc ending hl =>
      have hbefore : fine.held none = some (.inr ending) := congrArg LoopPlace.held hl
      refine hi.unlock hx hbefore (held_setLoop fine rfl) rfl rfl (fun client hc => by cases hc)
        fun hd => ?_
      apply hi.dropped
      rw [hl]
      cases ending with
      | dropped => rfl
      | tested connected => cases connected <;> simp [LoopPlace.Dropped, LoopPc.exit] at hd
      | reconnected result => cases result <;> simp [LoopPlace.Dropped, LoopPc.exit] at hd
      | sent _ => simp [LoopPlace.Dropped, LoopPc.exit] at hd
  | threadLock ht hp hm =>
      obtain ⟨hdying, hpoints, hblock⟩ := ThreadPc.entry_points fine.memory.toSockets hp
      exact hi.lock hx hm (held_setThread fine rfl rfl) rfl rfl hdying hpoints (fun _ => hblock)
        hi.receives hi.dropped
  | threadAccess ht _ h =>
      exact hi.threadAccess hx (held_thread ht) (held_setThread fine rfl rfl)
        (held_threadPlace _ _) h rfl
  | threadUnlock ht =>
      exact hi.unlock hx (held_thread ht) (held_setThread fine rfl rfl) rfl rfl hi.receives
        hi.dropped

omit [DecidableEq ι] in
theorem lifetimes_start (onMessageReceived onConnected onDisconnected : Bool) :
    Lifetimes (start onMessageReceived onConnected onDisconnected : FineSystem ι) := by
  have hnobody : ∀ party, (start onMessageReceived onConnected onDisconnected :
      FineSystem ι).held party = none := by
    intro party
    cases party <;> rfl
  refine ⟨exclusive_start _ _ _, ?_, fun party place hp => ?_, fun thread access hp => ?_,
    fun client hc => (by cases hc), fun _ => rfl⟩
  · rw [hnobody none]
    exact ⟨fun _ hw => (by cases hw), fun _ ha => (by cases ha), fun _ _ => rfl,
      fun _ hd => (by cases hd)⟩
  · rw [hnobody] at hp
    cases hp
  · rw [hnobody] at hp
    cases hp

theorem lifetimes_of_exec {onMessageReceived onConnected onDisconnected : Bool}
    {actions : List (FineAction ι)}
    (h : machine.exec (start onMessageReceived onConnected onDisconnected) actions =
      some (fine, events)) : fine.Lifetimes :=
  machine.invariant (lifetimes_start _ _ _) (fun _ _ _ _ hi hs => hi.step (step_cases hs).2) h

end FineSystem

end Rito

import Rito.LcuWebsocketHandler.CallbackTrace

namespace Rito.Loop

-- At a loop head the flag and the socket agree, or the connection was announced
-- and has been lost by now.
def Agrees (loop : Loop) : Prop :=
  loop.pc = .head →
    loop.handler.isStateConnected = loop.handler.isConnected ∨
      loop.handler.isStateConnected = true ∧ loop.handler.isConnected = false

-- They do at every loop head of the run.
def HeadsAgree (handler : LcuWebsocketHandler) (actions : List LoopAction) : Prop :=
  ∀ before after loop events, actions = before ++ after →
    machine.exec (start handler) before = some (loop, events) → loop.Agrees

-- Between two invocations of on_connected there is one of on_disconnected.
def DisconnectsBetween (events : List LoopEvent) : Prop :=
  ∀ before between after, events = before ++ .invoked .onConnected :: (between ++
    .invoked .onConnected :: after) → .invoked .onDisconnected ∈ between

def NoThrow (actions : List LoopAction) : Prop :=
  ∀ action ∈ actions, action ≠ .callback .onConnected true

variable {loop next : Loop} {action : LoopAction} {actions : List LoopAction}
  {events more : List LoopEvent} {onMessageReceived onConnected onDisconnected : Bool}

-- What holds in a run without a throwing on_connected. With both of them
-- registered the two callbacks take turns.
structure SwitchInvariant (handler : LcuWebsocketHandler) (events : List LoopEvent)
    (loop : Loop) : Prop where
  placed : loop.Placed
  callbacks : SameCallbacks handler loop.handler
  stated : loop.Stated
  toggled : handler.onConnected = true → handler.onDisconnected = true → Toggled events loop

theorem SwitchInvariant.step {handler : LcuWebsocketHandler}
    (hi : SwitchInvariant handler events loop) (ha : action ≠ .callback .onConnected true)
    (h : Step loop action next more) : SwitchInvariant handler (events ++ more) next := by
  have hcallbacks := h.sameCallbacks hi.placed
  exact {
    placed := hi.placed.step h
    callbacks := ⟨hcallbacks.1.trans hi.callbacks.1, hcallbacks.2.1.trans hi.callbacks.2.1,
      hcallbacks.2.2.trans hi.callbacks.2.2⟩
    stated := hi.stated.step hi.placed ha h
    toggled := fun hc hd => (hi.toggled hc hd).step hi.placed (hi.callbacks.2.1.trans hc)
      (hi.callbacks.2.2.trans hd) ha h }

theorem SwitchInvariant.of_exec
    (h : machine.exec (start (.new onMessageReceived onConnected onDisconnected)) actions =
      some (loop, events)) (ha : NoThrow actions) :
    SwitchInvariant (.new onMessageReceived onConnected onDisconnected) events loop := by
  refine machine.exec_induction (I := fun actions events loop => NoThrow actions →
    SwitchInvariant (.new onMessageReceived onConnected onDisconnected) events loop) ?_ ?_ h ha
  · intro _
    exact {
      placed := rfl
      callbacks := ⟨rfl, rfl, rfl⟩
      stated := rfl
      toggled := fun _ _ => ⟨false, .off, fun _ => rfl⟩ }
  · intro actions events loop action next more hi hs ha
    have hbefore : NoThrow actions := fun action hm => ha action (by simp [hm])
    exact (hi hbefore).step (ha action (by simp)) (step_cases hs)

theorem SwitchInvariant.agrees {handler : LcuWebsocketHandler}
    (hi : SwitchInvariant handler events loop) : loop.Agrees := by
  intro hpc
  have hstated := hi.stated
  unfold Stated at hstated
  rw [hpc] at hstated
  by_cases hc : loop.handler.isConnected = true
  · exact Or.inl ((hstated hc).trans hc.symm)
  · rw [Bool.not_eq_true] at hc
    cases hs : loop.handler.isStateConnected with
    | false => exact Or.inl hc.symm
    | true => exact Or.inr ⟨rfl, hc⟩

theorem connectionCallbacks_of_not_mem (h : .invoked .onDisconnected ∉ events) :
    ∀ setting ∈ connectionCallbacks events, setting = true := by
  intro setting hm
  obtain ⟨event, hin, he⟩ := List.mem_filterMap.mp hm
  cases event with
  | invoked callback =>
      cases callback with
      | onConnected => exact (Option.some.inj he).symm
      | onDisconnected => exact absurd hin h
      | onMessageReceived message => cases he
  | received message => cases he
  | runReturned => cases he

theorem disconnectsBetween_of_isChain (h : (connectionCallbacks events).IsChain (· ≠ ·)) :
    DisconnectsBetween events := by
  intro before between after he
  by_contra hno
  have hall := connectionCallbacks_of_not_mem hno
  have hup : ∀ later, connectionCallbacks (.invoked .onConnected :: later) =
      true :: connectionCallbacks later := fun _ => rfl
  rw [he, connectionCallbacks_append, hup, connectionCallbacks_append, hup] at h
  have htail := (List.isChain_append.mp h).2.1
  -- the callback right behind the first on_connected is another one
  cases hb : connectionCallbacks between with
  | nil =>
      rw [hb] at htail
      exact (List.isChain_cons_cons.mp htail).1 rfl
  | cons setting settings =>
      rw [hb] at htail hall
      have hsetting := hall setting List.mem_cons_self
      exact (List.isChain_cons_cons.mp htail).1 hsetting.symm

-- The socket is connected and the flag does not say so.
def HalfConnected (loop : Loop) : Prop :=
  loop.handler.isConnected = true ∧ loop.handler.isStateConnected = false

theorem HalfConnected.not_agrees (hh : loop.HalfConnected) (hpc : loop.pc = .head) :
    ¬loop.Agrees := by
  intro ha
  obtain ⟨hc, hs⟩ := hh
  rcases ha hpc with he | ⟨he, -⟩
  · rw [hc, hs] at he
    cases he
  · rw [hs] at he
    cases he

-- From the pause of the catch clause the loop comes back to its head with the
-- flag and the socket as they were.
theorem HalfConnected.exists_head (hh : loop.HalfConnected) (hpc : loop.pc = .sleep)
    (h : machine.exec loop actions = some (next, events)) (hn : next.pc ≠ .sleep) :
    ∃ before after mid out, actions = before ++ after ∧
      machine.exec loop before = some (mid, out) ∧ ¬mid.Agrees := by
  induction actions generalizing loop events with
  | nil =>
      obtain ⟨rfl, -⟩ := Machine.exec_nil_iff.mp h
      exact absurd hpc hn
  | cons action actions ih =>
      obtain ⟨middle, first, later, hs, he, -⟩ := Machine.exec_cons.mp h
      have hstep := step_cases hs
      obtain ⟨handler, pc⟩ := loop
      obtain rfl : pc = .sleep := hpc
      -- other threads leave the loop asleep, so it is woken later on
      have hlater : middle.pc = .sleep → middle.HalfConnected →
          ∃ before after mid out, action :: actions = before ++ after ∧
            machine.exec ⟨handler, .sleep⟩ before = some (mid, out) ∧ ¬mid.Agrees := by
        intro hsleep hhalf
        obtain ⟨before, after, mid, out, rfl, hb, ha⟩ := ih hhalf hsleep he
        exact ⟨action :: before, after, mid, _, rfl,
          Machine.exec_cons.mpr ⟨middle, first, out, hs, hb, rfl⟩, ha⟩
      cases hstep with
      | notifySilent site _ | notifyReturns site _ | notifyThrows site _ => cases site
      | wake =>
          have hhead : HalfConnected ⟨handler, .head⟩ := hh
          refine ⟨[_], actions, _, _, rfl,
            Machine.exec_cons.mpr ⟨_, _, [], hs, Machine.exec_nil, rfl⟩, hhead.not_agrees rfl⟩
      | setStop => exact hlater rfl hh
      | sendFrame =>
          apply hlater
          · rw [sendFrame_pc]
          · refine ⟨?_, ?_⟩
            · rw [sendFrame_isConnected]
              exact hh.1
            · rw [(sendFrame_sameFlags _ _).isStateConnected]
              exact hh.2

-- A throwing on_connected leaves its connection without the flag.
theorem Step.halfConnected (h : Step loop action next more) (hp : loop.Placed)
    (ha : action = .callback .onConnected true) : next.pc = .sleep ∧ next.HalfConnected := by
  cases h with
  | notifyThrows site hn =>
      obtain ⟨hs, hcallback⟩ := LcuWebsocketHandler.notification_eq_some hn
      cases site with
      | stop | disconnected =>
          rw [hcallback] at ha
          cases ha
      | connected => exact ⟨rfl, hp, hs⟩
  | notifyReturns _ _ => cases ha
  | deliver _ => cases ha
  | _ => cases ha

-- The flag follows the socket, and the callbacks alternate, in every run in
-- which no on_connected throws, and in no run that goes on after one did.
theorem half_connected_iff
    (h : machine.exec (start (.new onMessageReceived onConnected onDisconnected)) actions =
      some (loop, events)) :
    (NoThrow actions →
        HeadsAgree (.new onMessageReceived onConnected onDisconnected) actions ∧
          (onConnected = true → onDisconnected = true → DisconnectsBetween events)) ∧
      (loop.pc ≠ .sleep → HeadsAgree (.new onMessageReceived onConnected onDisconnected) actions →
        NoThrow actions) := by
  constructor
  · intro ha
    constructor
    · intro before after mid out he hb
      have hbefore : NoThrow before := fun action hm => ha action (by simp [he, hm])
      exact (SwitchInvariant.of_exec hb hbefore).agrees
    · rintro rfl rfl
      obtain ⟨on, ht, -⟩ := (SwitchInvariant.of_exec h ha).toggled rfl rfl
      exact disconnectsBetween_of_isChain ht.isChain
  · intro hpc hagree action hm hthrows
    obtain ⟨before, after, rfl⟩ := List.append_of_mem hm
    obtain ⟨mid, first, later, hb, hrest, -⟩ := Machine.exec_append.mp h
    obtain ⟨next, out, last, hs, hafter, -⟩ := Machine.exec_cons.mp hrest
    have hp : mid.Placed := placed_of_exec rfl hb
    obtain ⟨hsleep, hhalf⟩ := (step_cases hs).halfConnected hp hthrows
    obtain ⟨front, back, head, seen, rfl, hfront, hno⟩ := hhalf.exists_head hsleep hafter hpc
    apply hno
    apply hagree (before ++ action :: front) back head (first ++ (out ++ seen))
    · simp
    · exact Machine.exec_append.mpr ⟨mid, first, out ++ seen, hb,
        Machine.exec_cons.mpr ⟨next, out, seen, hs, hfront, rfl⟩, rfl⟩

-- The connection is lost and comes up again, and then the loop is stopped.
def regained : List LoopAction :=
  [.run, .tau, .tau, .tau, .tau,
    .reconnect ⟨.ok (), .ok ⟨"token", 51234⟩, .ok (), .ok (), ⟨.ok (), .ok ()⟩⟩,
    .callback .onConnected false, .tau, .tau, .receive [.frame 0 []], .tau, .tau,
    .callback .onDisconnected false,
    .reconnect ⟨.ok (), .ok ⟨"token", 51235⟩, .ok (), .ok (), ⟨.ok (), .ok ()⟩⟩,
    .callback .onConnected false, .setStop, .tau, .shutdown (.ok ()),
    .callback .onDisconnected false]

theorem regained_exec :
    machine.exec (start (.new true true true)) regained =
      some (⟨{ LcuWebsocketHandler.new true true true with stop := true }, .idle⟩,
        [.invoked .onConnected, .invoked .onDisconnected, .invoked .onConnected,
          .invoked .onDisconnected, .runReturned]) := rfl

theorem half_connected_iff_regained :
    HeadsAgree (.new true true true) regained ∧
      DisconnectsBetween [.invoked .onConnected, .invoked .onDisconnected, .invoked .onConnected,
        .invoked .onDisconnected, .runReturned] := by
  have hboth := (half_connected_iff regained_exec).1 (by simp [NoThrow, regained])
  exact ⟨hboth.1, hboth.2 rfl rfl⟩

-- on_connected throws; the connection is lost after that, and another one comes
-- up.
def halfSession : List LoopAction :=
  [.run, .tau, .tau, .tau, .tau,
    .reconnect ⟨.ok (), .ok ⟨"token", 51234⟩, .ok (), .ok (), ⟨.ok (), .ok ()⟩⟩,
    .callback .onConnected true, .tau, .tau, .tau, .receive [.frame 0 []], .tau, .tau, .tau,
    .reconnect ⟨.ok (), .ok ⟨"token", 51234⟩, .ok (), .ok (), ⟨.ok (), .ok ()⟩⟩,
    .callback .onConnected false]

theorem halfSession_unannounced :
    ∃ loop, machine.exec (start (.new true true true)) halfSession =
        some (loop, [.invoked .onConnected, .invoked .onConnected]) ∧
      ¬HeadsAgree (.new true true true) halfSession ∧
        ¬DisconnectsBetween [.invoked .onConnected, .invoked .onConnected] := by
  refine ⟨_, rfl, ?_, ?_⟩
  · intro h
    have hhead := h (halfSession.take 8) (halfSession.drop 8) _ _ rfl rfl rfl
    rcases hhead with he | ⟨he, -⟩
    · cases he
    · cases he
  · intro h
    have hm := h [] [] [] rfl
    cases hm

end Rito.Loop

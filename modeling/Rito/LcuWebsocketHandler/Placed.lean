import Rito.LcuWebsocketHandler.Step

namespace Rito

namespace LcuWebsocketHandler

@[simp] theorem isConnected_stop (handler : LcuWebsocketHandler) (stop : Bool) :
    ({ handler with stop := stop } : LcuWebsocketHandler).isConnected = handler.isConnected := rfl

end LcuWebsocketHandler

namespace Loop

variable {loop next : Loop} {action : LoopAction} {events : List LoopEvent}

@[simp] theorem sendFrame_pc (loop : Loop) (message : Bytes) :
    (loop.sendFrame message).pc = loop.pc := by
  unfold sendFrame
  split <;> rfl

@[simp] theorem sendFrame_isConnected (loop : Loop) (message : Bytes) :
    (loop.sendFrame message).handler.isConnected = loop.handler.isConnected := by
  unfold sendFrame
  split
  · rfl
  · rename_i client hw
    simp [LcuWebsocketHandler.isConnected, HttpsWebsocketClient.isConnected, hw]

theorem sendFrame_sameFlags (loop : Loop) (message : Bytes) :
    loop.handler.SameFlags (loop.sendFrame message).handler := by
  unfold sendFrame
  split <;> rfl

@[simp] theorem sendFrame_websocket_eq_none (loop : Loop) (message : Bytes) :
    (loop.sendFrame message).handler.websocket = none ↔ loop.handler.websocket = none := by
  unfold sendFrame
  split <;> simp [*]

-- What the place of the loop says about the socket, whatever the callbacks
-- and the transport did. The loop's own use of m_websocket is never null.
def Placed (loop : Loop) : Prop :=
  match loop.pc with
  | .idle | .entered | .stopNotify => loop.handler.websocket = none
  | .receive | .notifyConnected => loop.handler.isConnected = true
  | .notifyDisconnected | .reconnect => loop.handler.isConnected = false
  | .crashed crash => crash = .terminated
  | _ => True

theorem Placed.step (hp : loop.Placed) (h : Step loop action next events) : next.Placed := by
  cases h with
  | notifySilent site _ | notifyReturns site _ =>
      cases site with
      | stop | disconnected => exact hp
      | connected => trivial
  | notifyThrows site _ => cases site <;> trivial
  | connectionUp hc => exact hc
  | connectionDown hc => exact hc
  | receiveNull hw =>
      have hc : LcuWebsocketHandler.isConnected _ = true := hp
      rw [LcuWebsocketHandler.isConnected_of_none hw] at hc
      cases hc
  | reconnectReturned hr => exact (LcuWebsocketHandler.reconnect_returned hp hr).1
  | setStop => exact hp
  | @sendFrame _ message =>
      unfold Placed at hp ⊢
      simp only [sendFrame_pc]
      split <;> simp_all
  | _ => trivial

theorem placed_of_exec {handler : LcuWebsocketHandler} {actions : List LoopAction}
    (hw : handler.websocket = none) (h : machine.exec (start handler) actions = some (loop, events)) :
    loop.Placed :=
  machine.invariant (show (start handler).Placed from hw) (fun _ _ _ _ hp hs => hp.step (step_cases hs)) h

end Loop

end Rito

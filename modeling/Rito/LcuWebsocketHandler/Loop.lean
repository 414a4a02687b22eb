import Rito.LcuWebsocketHandler
import Rito.Machine

namespace Rito

-- What ends the process: a use of a null m_websocket, or std::terminate.
inductive Crash where
  | nullDereference
  | terminated
  deriving DecidableEq, Repr

-- Where the thread in run() stands: each constructor names the atomic step it
-- is about to take.
inductive LoopPc where
  -- not in run()
  | idle
  -- run(): m_stop = false
  | entered
  -- main_loop(): if (m_stop)
  | head
  -- main_loop(): m_websocket.reset() under the lock
  | stopReset
  -- main_loop(): notify_connection_state_changed(false), then break
  | stopNotify
  -- main_loop(): if (is_connected())
  | check
  -- receive_message(): m_websocket->receive_message(), or blocked in it
  | receive
  -- receive_message(): m_on_message_received(response)
  | deliver (response : Bytes)
  -- reconnect_and_notify(): notify_connection_state_changed(false)
  | notifyDisconnected
  -- reconnect_and_notify(): reconnect()
  | reconnect
  -- reconnect_and_notify(): notify_connection_state_changed(true)
  | notifyConnected
  -- reconnect_and_notify(): sleep_for in the catch clause
  | sleep
  | crashed (crash : Crash)
  deriving DecidableEq, Repr

-- The memory the loop works on, and where the loop stands.
structure Loop where
  handler : LcuWebsocketHandler
  pc : LoopPc
  deriving DecidableEq, Repr

-- What the environment decides in one step. The last two are steps of other
-- threads: one sets m_stop, one sends a frame on the present socket.
inductive LoopAction where
  | run
  | tau
  | callback (callback : Callback) (throws : Bool)
  | shutdown (result : Except TransportException Unit)
  | reconnect (outcome : ReconnectOutcome)
  | receive (transport : List FrameResult)
  | setStop
  | sendFrame (message : Bytes)

-- What can be observed: the callbacks invoked, the messages that
-- Https_websocket_client::receive_message returned, and the returns of run().
inductive LoopEvent where
  | invoked (callback : Callback)
  | received (message : Bytes)
  | runReturned
  deriving DecidableEq, Repr

namespace Loop

-- The thread moves on to `pc`.
def goto (loop : Loop) (pc : LoopPc) : Loop := { loop with pc := pc }

-- A call of notify_connection_state_changed(connected) that continues at
-- `next`, or at `failed` when the callback throws.
def notify (loop : Loop) (connected : Bool) (next failed : LoopPc) :
    LoopAction → Option (Loop × List LoopEvent)
  | .tau =>
      if loop.handler.notification connected = none then
        some ({ handler := loop.handler.setStateConnected connected, pc := next }, [])
      else none
  | .callback callback throws =>
      if loop.handler.notification connected = some callback then
        if throws then some (loop.goto failed, [.invoked callback])
        else some ({ handler := loop.handler.setStateConnected connected, pc := next },
          [.invoked callback])
      else none
  | _ => none

-- m_websocket.reset() in the stop branch.
def stopReset (loop : Loop) : LoopAction → Option (Loop × List LoopEvent)
  | .tau =>
      if loop.handler.websocket.any (·.shutsDown) then none
      else some ({ handler := { loop.handler with websocket := none }, pc := .stopNotify }, [])
  | .shutdown result =>
      if loop.handler.websocket.any (·.shutsDown) then
        match loop.handler.resetWebsocket result with
        | .error _ => some (loop.goto (.crashed .terminated), [])
        | .ok handler => some ({ handler := handler, pc := .stopNotify }, [])
      else none
  | _ => none

-- The call of m_websocket->receive_message(): it consumes exactly what the
-- action says the transport yielded.
def receive (loop : Loop) (transport : List FrameResult) : Option (Loop × List LoopEvent) :=
  match loop.handler.websocket with
  | none => some (loop.goto (.crashed .nullDereference), [])
  | some client =>
      match client.receiveMessage transport with
      | some (.ok message, client, []) =>
          some ({ handler := { loop.handler with websocket := some client },
                  pc := .deliver message }, [.received message])
      | some (.error _, client, []) =>
          some ({ handler := { loop.handler with websocket := some client }, pc := .head }, [])
      | _ => none

-- A reconnect() whose exception is caught by reconnect_and_notify().
def reconnect (loop : Loop) (outcome : ReconnectOutcome) : Loop :=
  match loop.handler.reconnect outcome with
  | (.returned, handler) => { handler := handler, pc := .notifyConnected }
  | (.threw _, handler) => { handler := handler, pc := .sleep }
  | (.terminated, handler) => { handler := handler, pc := .crashed .terminated }

-- Another thread's frame goes out on the present socket.
def sendFrame (loop : Loop) (message : Bytes) : Loop :=
  match loop.handler.websocket with
  | none => loop
  | some client =>
      { loop with handler :=
          { loop.handler with websocket := some (client.sendMessage message (.ok ())).2 } }

-- One step of the thread in run().
def threadStep (loop : Loop) (action : LoopAction) : Option (Loop × List LoopEvent) :=
  match loop.pc, action with
  | .idle, .run => some (loop.goto .entered, [])
  | .entered, .tau => some ({ handler := { loop.handler with stop := false }, pc := .head }, [])
  | .head, .tau => some (loop.goto (if loop.handler.stop then .stopReset else .check), [])
  | .stopReset, action => loop.stopReset action
  | .stopNotify, action =>
      (loop.notify false .idle (.crashed .terminated) action).map fun (next, events) =>
        (next, if next.pc = .idle then events ++ [.runReturned] else events)
  | .check, .tau =>
      some (loop.goto (if loop.handler.isConnected then .receive else .notifyDisconnected), [])
  | .receive, .receive transport => loop.receive transport
  | .deliver _, .tau =>
      if loop.handler.onMessageReceived then none else some (loop.goto .head, [])
  | .deliver response, .callback callback _ =>
      if loop.handler.onMessageReceived ∧ callback = .onMessageReceived response then
        -- catch (...) in receive_message: it makes no difference whether it throws
        some (loop.goto .head, [.invoked callback])
      else none
  | .notifyDisconnected, action => loop.notify false .reconnect (.crashed .terminated) action
  | .reconnect, .reconnect outcome => some (loop.reconnect outcome, [])
  | .notifyConnected, action => loop.notify true .head .sleep action
  | .sleep, .tau => some (loop.goto .head, [])
  | _, _ => none

-- One step of the process, as far as the loop can see it.
def step (loop : Loop) (action : LoopAction) : Option (Loop × List LoopEvent) :=
  match action with
  | .setStop => some ({ loop with handler := { loop.handler with stop := true } }, [])
  | .sendFrame message => some (loop.sendFrame message, [])
  | action => loop.threadStep action

def machine : Machine Loop LoopAction LoopEvent := ⟨step⟩

def start (handler : LcuWebsocketHandler) : Loop := { handler := handler, pc := .idle }

end Loop

end Rito

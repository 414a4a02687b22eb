import Rito.LcuWebsocketHandler.Loop

namespace Rito

-- The message stop() sends to get the loop out of receive_message.
def exitMessage : Bytes := utf8 "Exit".toList

-- Where a thread other than the one in run() stands: each constructor names
-- the atomic step it is about to take.
inductive ThreadPc where
  -- every call it made has returned
  | outside
  -- stop(): m_stop = true
  | stopWrite
  -- stop(): if (is_connected())
  | stopCheck
  -- stop(): m_websocket->send_message("Exit")
  | stopSend
  -- send_message(): if (is_connected())
  | sendCheck (message : Bytes)
  -- send_message(): m_websocket->send_message(message) under the lock
  | sendUse (message : Bytes)
  deriving DecidableEq, Repr

inductive Call where
  | stop
  | sendMessage (message : Bytes)
  deriving DecidableEq, Repr

-- What the environment decides in a step of such a thread.
inductive ThreadAction where
  | call (call : Call)
  | tau
  | sendFrame (result : Except TransportException Unit)

inductive ThreadEvent where
  | stopReturned
  | sendReturned (sent : Bool)
  deriving DecidableEq, Repr

namespace LcuWebsocketHandler

-- m_websocket->send_message(message), called from a noexcept function. The
-- result is what it returns, or how the process ends.
def useWebsocket (handler : LcuWebsocketHandler) (message : Bytes) (action : ThreadAction) :
    Option (Except Crash (Bool × LcuWebsocketHandler)) :=
  match handler.websocket, action with
  | none, .tau => some (.error .nullDereference)
  | some client, .tau =>
      if client.websocket.isNone then some (.ok (false, handler)) else none
  | some client, .sendFrame result =>
      if client.websocket.isSome then
        match client.sendMessage message result with
        | (.error _, _) => some (.error .terminated)
        | (.ok sent, client) => some (.ok (sent, { handler with websocket := some client }))
      else none
  | _, _ => none

def threadStep (handler : LcuWebsocketHandler) :
    ThreadPc → ThreadAction →
      Option (Except Crash (LcuWebsocketHandler × ThreadPc × List ThreadEvent))
  | .outside, .call .stop => some (.ok (handler, .stopWrite, []))
  | .outside, .call (.sendMessage message) => some (.ok (handler, .sendCheck message, []))
  | .stopWrite, .tau => some (.ok ({ handler with stop := true }, .stopCheck, []))
  | .stopCheck, .tau =>
      if handler.isConnected then some (.ok (handler, .stopSend, []))
      else some (.ok (handler, .outside, [.stopReturned]))
  | .stopSend, action =>
      (handler.useWebsocket exitMessage action).map fun result =>
        result.map fun (_, handler) => (handler, .outside, [.stopReturned])
  | .sendCheck message, .tau =>
      if handler.isConnected then some (.ok (handler, .sendUse message, []))
      else some (.ok (handler, .outside, [.sendReturned false]))
  | .sendUse message, action =>
      (handler.useWebsocket message action).map fun result =>
        result.map fun (sent, handler) => (handler, .outside, [.sendReturned sent])
  | _, _ => none

-- The frames sent so far on the present socket.
def sentFrames (handler : LcuWebsocketHandler) : List Bytes :=
  match handler.websocket with
  | none => []
  | some client =>
      match client.websocket with
      | none => []
      | some socket => socket.sent

end LcuWebsocketHandler

-- The process: the thread in run(), any other threads, and how it ended if it
-- did. `mark` only serves to state properties: it counts the frames that had
-- been sent on the present socket when the loop entered its current iteration.
structure System (ι : Type*) where
  loop : Loop
  threads : ι → ThreadPc
  mark : Nat
  crash : Option Crash

inductive SystemAction (ι : Type*) where
  | loop (action : LoopAction)
  | thread (thread : ι) (action : ThreadAction)

inductive SystemEvent (ι : Type*) where
  | loop (event : LoopEvent)
  | thread (thread : ι) (event : ThreadEvent)
  deriving DecidableEq

namespace System

variable {ι : Type*} [DecidableEq ι]

def loopStep (system : System ι) (action : LoopAction) :
    Option (System ι × List (SystemEvent ι)) :=
  match system.loop.threadStep action with
  | none => none
  | some (loop, events) =>
      some ({ system with
        loop := loop
        mark := if system.loop.pc = .head then loop.handler.sentFrames.length else system.mark
        crash := match loop.pc with
          | .crashed crash => some crash
          | _ => none }, events.map .loop)

def otherStep (system : System ι) (thread : ι) (action : ThreadAction) :
    Option (System ι × List (SystemEvent ι)) :=
  match system.loop.handler.threadStep (system.threads thread) action with
  | none => none
  | some (.error crash) => some ({ system with crash := some crash }, [])
  | some (.ok (handler, pc, events)) =>
      some ({ system with
        loop := { system.loop with handler := handler }
        threads := Function.update system.threads thread pc }, events.map (.thread thread))

-- A process that has ended takes no step.
def step (system : System ι) (action : SystemAction ι) :
    Option (System ι × List (SystemEvent ι)) :=
  if system.crash.isSome then none
  else
    match action with
    | .loop action => system.loopStep action
    | .thread thread action => system.otherStep thread action

def machine : Machine (System ι) (SystemAction ι) (SystemEvent ι) := ⟨step⟩

def start (handler : LcuWebsocketHandler) : System ι where
  loop := Loop.start handler
  threads _ := .outside
  mark := 0
  crash := none

end System

end Rito

import Rito.LcuWebsocketHandler.Threads

namespace Rito

-- How the process ends at this grain: as before, or by a pointer to a client
-- that has been freed.
inductive Fault where
  | crash (crash : Crash)
  | dangling
  deriving DecidableEq, Repr

-- m_websocket and the clients it may lead to. A number names one client for
-- good, so a pointer to a freed client leads nowhere even if its memory is
-- used again. `made` counts the clients made so far.
structure Sockets where
  websocket : Option Nat
  clients : Nat → Option HttpsWebsocketClient
  made : Nat

-- The two resets of m_websocket under the lock, by what follows them.
inductive ResetSite where
  | stop
  | reconnect
  deriving DecidableEq, Repr

-- Where a thread that holds m_socket_mutex stands: each constructor names the
-- access to m_websocket or to a client that it is about to make.
inductive Inside where
  -- is_connected(): m_websocket &&
  | testPointer
  -- is_connected(): m_websocket->is_connected()
  | testFlag (client : Nat)
  -- send_message(): m_websocket->
  | sendPointer (message : Bytes)
  -- Https_websocket_client::send_message, up to its sendFrame
  | sendFrame (message : Bytes) (client : Nat)
  -- m_websocket.reset(): m_websocket is nulled
  | release (site : ResetSite)
  -- ~Https_websocket_client, stop(): if (m_websocket && m_connected)
  | destroyTest (site : ResetSite) (client : Nat)
  -- stop(): m_connected = false
  | clearConnected (site : ResetSite) (client : Nat)
  -- stop(): m_websocket->shutdown()
  | shutdown (site : ResetSite) (client : Nat)
  -- stop(): m_websocket.reset(), and the client is freed
  | free (site : ResetSite) (client : Nat)
  -- reconnect(): if (m_websocket &&
  | reconnectPointer
  -- reconnect(): !m_websocket->is_connected())
  | reconnectFlag (client : Nat)
  -- reconnect(): if (!m_websocket)
  | reconnectNull
  -- reconnect(): get_lcu_process_parameters()
  | scan
  -- reconnect(): m_websocket = std::make_unique
  | construct (parameters : LcuParameters)
  -- reconnect(): m_websocket->set_credentials
  | setCredentials (parameters : LcuParameters)
  -- reconnect(): m_websocket->start(), up to the construction of the socket
  | openSocket
  -- start(): m_websocket->setMaxPayloadSize
  | setMaxPayloadSize (client : Nat)
  -- start(): m_connected = true
  | setConnected (client : Nat)
  deriving DecidableEq, Repr

-- What a critical section comes to, once all it still does is to unlock.
inductive Ending where
  | tested (connected : Bool)
  | sent (sent : Bool)
  | dropped
  | reconnected (result : Except Thrown Unit)
  deriving DecidableEq, Repr

-- What the environment decides in one access.
inductive Input where
  | tau
  | call (call : Call)
  | loop (action : LoopAction)
  | transport (result : Except TransportException Unit)
  | scan (result : Except Thrown LcuParameters)
  | ended (result : Except Thrown Unit)
  | frame (result : FrameResult)

namespace Sockets

-- The client m_websocket leads to.
def object (sockets : Sockets) : Option HttpsWebsocketClient :=
  sockets.websocket.bind sockets.clients

-- m_websocket->
def pointer (sockets : Sockets) : Except Fault Nat :=
  match sockets.websocket with
  | none => .error (.crash .nullDereference)
  | some client => .ok client

-- The object a pointer leads to.
def deref (sockets : Sockets) (client : Nat) : Except Fault HttpsWebsocketClient :=
  match sockets.clients client with
  | none => .error .dangling
  | some object => .ok object

def set (sockets : Sockets) (client : Nat) (object : Option HttpsWebsocketClient) : Sockets :=
  { sockets with clients := Function.update sockets.clients client object }

-- Https_websocket_client::send_message on the client a pointer leads to,
-- called from a noexcept function.
def send (sockets : Sockets) (message : Bytes) (client : Nat) (input : Input) :
    Option (Except Fault (Bool × Sockets)) :=
  match sockets.clients client, input with
  | none, .tau => some (.error .dangling)
  | some object, .tau => if object.websocket.isNone then some (.ok (false, sockets)) else none
  | some object, .transport result =>
      if object.websocket.isSome then
        match object.sendMessage message result with
        | (.error _, _) => some (.error (.crash .terminated))
        | (.ok sent, object) => some (.ok (sent, sockets.set client (some object)))
      else none
  | _, _ => none

-- Where a reset leads.
def afterReset : ResetSite → Inside ⊕ Ending
  | .stop => .inr .dropped
  | .reconnect => .inl .reconnectNull

-- One access in a critical section.
def access (sockets : Sockets) :
    Inside → Input → Option (Except Fault (Sockets × (Inside ⊕ Ending)))
  | .testPointer, .tau =>
      match sockets.websocket with
      | none => some (.ok (sockets, .inr (.tested false)))
      | some client => some (.ok (sockets, .inl (.testFlag client)))
  | .testFlag client, .tau =>
      some do
        let object ← sockets.deref client
        return (sockets, .inr (.tested object.isConnected))
  | .sendPointer message, .tau =>
      some do
        let client ← sockets.pointer
        return (sockets, .inl (.sendFrame message client))
  | .sendFrame message client, input =>
      (sockets.send message client input).map fun result => do
        let (sent, sockets) ← result
        return (sockets, .inr (.sent sent))
  | .release site, .tau =>
      match sockets.websocket with
      | none => some (.ok (sockets, afterReset site))
      | some client =>
          some (.ok ({ sockets with websocket := none }, .inl (.destroyTest site client)))
  | .destroyTest site client, .tau =>
      some do
        let object ← sockets.deref client
        return (sockets, .inl
          (if object.shutsDown then .clearConnected site client else .free site client))
  | .clearConnected site client, .tau =>
      some do
        let object ← sockets.deref client
        return (sockets.set client (some { object with connected := false }),
          .inl (.shutdown site client))
  | .shutdown site client, .transport result =>
      some do
        let _ ← sockets.deref client
        match result with
        -- ~Https_websocket_client is noexcept
        | .error _ => throw (.crash .terminated)
        | .ok () => return (sockets, .inl (.free site client))
  | .free site client, .tau =>
      some do
        let _ ← sockets.deref client
        return (sockets.set client none, afterReset site)
  | .reconnectPointer, .tau =>
      match sockets.websocket with
      | none => some (.ok (sockets, .inl .reconnectNull))
      | some client => some (.ok (sockets, .inl (.reconnectFlag client)))
  | .reconnectFlag client, .tau =>
      some do
        let object ← sockets.deref client
        return (sockets, .inl
          (if object.isConnected then .reconnectNull else .release .reconnect))
  | .reconnectNull, .tau =>
      match sockets.websocket with
      | none => some (.ok (sockets, .inl .scan))
      | some _ => some (.ok (sockets, .inr (.reconnected (.ok ()))))
  | .scan, .scan result =>
      match result with
      | .error exception => some (.ok (sockets, .inr (.reconnected (.error exception))))
      | .ok parameters => some (.ok (sockets, .inl (.construct parameters)))
  | .construct parameters, .ended result =>
      match result with
      | .error exception => some (.ok (sockets, .inr (.reconnected (.error exception))))
      | .ok () =>
          some (.ok ({ websocket := some sockets.made
                       clients := Function.update sockets.clients sockets.made
                         (some (.new "127.0.0.1" parameters.appPort))
                       made := sockets.made + 1 }, .inl (.setCredentials parameters)))
  | .setCredentials parameters, .ended result =>
      some do
        let client ← sockets.pointer
        let object ← sockets.deref client
        match result with
        | .error exception => return (sockets, .inr (.reconnected (.error exception)))
        | .ok () =>
            return (sockets.set client
              (some (object.setCredentials "riot" parameters.remotingAuthToken)), .inl .openSocket)
  | .openSocket, .transport result =>
      some do
        let client ← sockets.pointer
        let object ← sockets.deref client
        match object.websocket, result with
        | some _, _ => return (sockets, .inr (.reconnected (.ok ())))
        | none, .error exception =>
            return (sockets, .inr (.reconnected
              (.error (.rito (HttpsWebsocketClient.startException exception)))))
        | none, .ok () =>
            return (sockets.set client
              (some { object with websocket := some { maxPayloadSize := none, sent := [] } }),
              .inl (.setMaxPayloadSize client))
  | .setMaxPayloadSize client, .transport result =>
      some do
        let object ← sockets.deref client
        match result with
        | .error exception =>
            return (sockets, .inr (.reconnected
              (.error (.rito (HttpsWebsocketClient.startException exception)))))
        | .ok () =>
            let socket := object.websocket.map fun socket =>
              { socket with maxPayloadSize := some maxFrameSize }
            return (sockets.set client (some { object with websocket := socket }),
              .inl (.setConnected client))
  | .setConnected client, .tau =>
      some do
        let object ← sockets.deref client
        return (sockets.set client (some { object with connected := true }),
          .inr (.reconnected (.ok ())))
  | _, _ => none

end Sockets

-- All the memory of the handler.
structure Memory extends Sockets where
  isStateConnected : Bool
  stop : Bool
  onMessageReceived : Bool
  onConnected : Bool
  onDisconnected : Bool

namespace Memory

-- The handler as its functions see it.
def handler (memory : Memory) : LcuWebsocketHandler where
  websocket := memory.object
  isStateConnected := memory.isStateConnected
  stop := memory.stop
  onMessageReceived := memory.onMessageReceived
  onConnected := memory.onConnected
  onDisconnected := memory.onDisconnected

-- What a step that touches no client leaves in memory.
def keepSockets (memory : Memory) (handler : LcuWebsocketHandler) : Memory where
  toSockets := memory.toSockets
  isStateConnected := handler.isStateConnected
  stop := handler.stop
  onMessageReceived := handler.onMessageReceived
  onConnected := handler.onConnected
  onDisconnected := handler.onDisconnected

def new (onMessageReceived onConnected onDisconnected : Bool) : Memory where
  websocket := none
  clients _ := none
  made := 0
  isStateConnected := false
  stop := false
  onMessageReceived := onMessageReceived
  onConnected := onConnected
  onDisconnected := onDisconnected

end Memory

-- Where the thread in run() stands.
inductive LoopPlace where
  -- about to take the step that `pc` names, or to lock m_socket_mutex for it
  | ready (pc : LoopPc)
  | inside (pc : LoopPc) (access : Inside)
  -- about to unlock
  | leaving (pc : LoopPc) (ending : Ending)
  -- Https_websocket_client::receive_message: if (m_websocket)
  | receiveTest (client : Nat)
  -- its for loop with `left` iterations to go, or blocked in receiveFrame
  | receiveFrame (client left : Nat) (messageBuffer : Bytes)
  -- its m_connected = false
  | receiveClear (client : Nat)
  deriving DecidableEq, Repr

-- Where another thread stands.
inductive ThreadPlace where
  | ready (pc : ThreadPc)
  | inside (pc : ThreadPc) (access : Inside)
  | leaving (pc : ThreadPc) (ending : Ending)
  -- stop(): m_websocket has been read, without the lock, for the call of
  -- send_message("Exit") on its client
  | unlocked (client : Nat)
  deriving DecidableEq, Repr

namespace LoopPc

-- The critical section a place of the loop stands for.
def entry : LoopPc → Option Inside
  | .check => some .testPointer
  | .stopReset => some (.release .stop)
  | .reconnect => some .reconnectPointer
  | _ => none

-- Where the loop goes on after it.
def exit : Ending → LoopPc
  | .tested true => .receive
  | .tested false => .notifyDisconnected
  | .dropped => .stopNotify
  | .reconnected (.ok ()) => .notifyConnected
  | .reconnected (.error _) => .sleep
  | .sent _ => .head

end LoopPc

namespace ThreadPc

def entry : ThreadPc → Option Inside
  | .stopCheck | .sendCheck _ => some .testPointer
  | .sendUse message => some (.sendPointer message)
  | _ => none

def exit : ThreadPc → Ending → ThreadPc × List ThreadEvent
  | .stopCheck, .tested true => (.stopSend, [])
  | .stopCheck, _ => (.outside, [.stopReturned])
  | .sendCheck message, .tested true => (.sendUse message, [])
  | .sendUse _, .sent sent => (.outside, [.sendReturned sent])
  | _, _ => (.outside, [.sendReturned false])

end ThreadPc

-- The process at the grain of single accesses. The mutex holds the thread that
-- has locked it; `none` inside is the thread in run().
structure FineSystem (ι : Type*) where
  memory : Memory
  mutex : Option (Option ι)
  loop : LoopPlace
  threads : ι → ThreadPlace
  fault : Option Fault

inductive FineAction (ι : Type*) where
  | loop (input : Input)
  | thread (thread : ι) (input : Input)

-- One iteration of the for loop in receive_message.
def LoopPlace.receiveStep (client left : Nat) (messageBuffer : Bytes) :
    Input → Option (LoopPlace × List LoopEvent)
  | .tau =>
      -- "Message is longer than ..." is thrown after the last iteration
      if left = 0 then some (.ready .head, []) else none
  | .frame result =>
      match left, result with
      | 0, _ => none
      | _ + 1, .throws (.timeout _) => some (.ready .head, [])
      | _ + 1, .throws _ => some (.receiveClear client, [])
      | left + 1, .frame flags payload =>
          if payload.length = 0 ∧ flags = 0 then some (.receiveClear client, [])
          else if flags &&& frameFlagFin ≠ 0 then
            some (.ready (.deliver (messageBuffer ++ payload)),
              [.received (messageBuffer ++ payload)])
          else some (.receiveFrame client left (messageBuffer ++ payload), [])
  | _ => none

namespace FineSystem

variable {ι : Type*} [DecidableEq ι]

def setSockets (fine : FineSystem ι) (sockets : Sockets) : FineSystem ι :=
  { fine with memory := { fine.memory with toSockets := sockets } }

def setThread (fine : FineSystem ι) (thread : ι) (place : ThreadPlace) : FineSystem ι :=
  { fine with threads := Function.update fine.threads thread place }

-- The places that a critical section goes through.
def loopPlace (pc : LoopPc) : Inside ⊕ Ending → LoopPlace
  | .inl access => .inside pc access
  | .inr ending => .leaving pc ending

def threadPlace (pc : ThreadPc) : Inside ⊕ Ending → ThreadPlace
  | .inl access => .inside pc access
  | .inr ending => .leaving pc ending

-- A step of the loop that touches neither a client nor the mutex.
def plainStep (fine : FineSystem ι) (pc : LoopPc) (action : LoopAction) :
    Option (FineSystem ι × List (SystemEvent ι)) :=
  match Loop.threadStep { handler := fine.memory.handler, pc := pc } action with
  | none => none
  | some (loop, events) =>
      some ({ fine with
        memory := fine.memory.keepSockets loop.handler
        loop := .ready loop.pc
        fault := match loop.pc with
          | .crashed crash => some (.crash crash)
          | _ => none }, events.map .loop)

-- m_websocket-> in receive_message(), which does not lock.
def receivePointer (fine : FineSystem ι) : FineSystem ι :=
  match fine.memory.pointer with
  | .error fault => { fine with fault := some fault }
  | .ok client => { fine with loop := .receiveTest client }

def loopStep (fine : FineSystem ι) (input : Input) :
    Option (FineSystem ι × List (SystemEvent ι)) :=
  match fine.loop, input with
  | .ready pc, input =>
      match pc.entry, input with
      | some access, .tau =>
          if fine.mutex = none then
            some ({ fine with mutex := some none, loop := .inside pc access }, [])
          else none
      | none, .tau => if pc = .receive then some (fine.receivePointer, []) else none
      | none, .loop action => if pc = .receive then none else fine.plainStep pc action
      | _, _ => none
  | .inside pc access, input =>
      match fine.memory.access access input with
      | none => none
      | some (.error fault) => some ({ fine with fault := some fault }, [])
      | some (.ok (sockets, next)) =>
          some ({ fine.setSockets sockets with loop := loopPlace pc next }, [])
  | .leaving _ ending, .tau =>
      some ({ fine with mutex := none, loop := .ready (LoopPc.exit ending) }, [])
  | .receiveTest client, .tau =>
      match fine.memory.deref client with
      | .error fault => some ({ fine with fault := some fault }, [])
      | .ok object =>
          if object.websocket.isSome then
            some ({ fine with loop := .receiveFrame client maxFramesPerMessage [] }, [])
          else some ({ fine with loop := .ready .head }, [])
  | .receiveFrame client left messageBuffer, input =>
      match fine.memory.deref client with
      | .error fault => some ({ fine with fault := some fault }, [])
      | .ok _ =>
          (LoopPlace.receiveStep client left messageBuffer input).map fun (place, events) =>
            ({ fine with loop := place }, events.map .loop)
  | .receiveClear client, .tau =>
      match fine.memory.deref client with
      | .error fault => some ({ fine with fault := some fault }, [])
      | .ok object =>
          some ({ fine.setSockets
            (fine.memory.set client (some { object with connected := false })) with
            loop := .ready .head }, [])
  | _, _ => none

-- m_websocket-> in stop(), which does not lock.
def stopPointer (fine : FineSystem ι) (thread : ι) : FineSystem ι :=
  match fine.memory.pointer with
  | .error fault => { fine with fault := some fault }
  | .ok client => fine.setThread thread (.unlocked client)

def plainThreadStep (fine : FineSystem ι) (thread : ι) :
    ThreadPc → Input → Option (FineSystem ι × List (SystemEvent ι))
  | .outside, .call .stop => some (fine.setThread thread (.ready .stopWrite), [])
  | .outside, .call (.sendMessage message) =>
      some (fine.setThread thread (.ready (.sendCheck message)), [])
  | .stopWrite, .tau =>
      some ({ fine.setThread thread (.ready .stopCheck) with
        memory := { fine.memory with stop := true } }, [])
  | .stopSend, .tau => some (fine.stopPointer thread, [])
  | _, _ => none

def threadStep (fine : FineSystem ι) (thread : ι) (input : Input) :
    Option (FineSystem ι × List (SystemEvent ι)) :=
  match fine.threads thread, input with
  | .ready pc, input =>
      match pc.entry, input with
      | some access, .tau =>
          if fine.mutex = none then
            some ({ fine.setThread thread (.inside pc access) with
              mutex := some (some thread) }, [])
          else none
      | some _, _ => none
      | none, input => fine.plainThreadStep thread pc input
  | .unlocked client, input =>
      match fine.memory.send exitMessage client input with
      | none => none
      | some (.error fault) => some ({ fine with fault := some fault }, [])
      | some (.ok (_, sockets)) =>
          some ((fine.setThread thread (.ready .outside)).setSockets sockets,
            [.thread thread .stopReturned])
  | .inside pc access, input =>
      match fine.memory.access access input with
      | none => none
      | some (.error fault) => some ({ fine with fault := some fault }, [])
      | some (.ok (sockets, next)) =>
          some ((fine.setThread thread (threadPlace pc next)).setSockets sockets, [])
  | .leaving pc ending, .tau =>
      some ({ fine.setThread thread (.ready (pc.exit ending).1) with mutex := none },
        (pc.exit ending).2.map (.thread thread))
  | _, _ => none

-- A process that has ended takes no step.
def step (fine : FineSystem ι) (action : FineAction ι) :
    Option (FineSystem ι × List (SystemEvent ι)) :=
  if fine.fault.isSome then none
  else
    match action with
    | .loop input => fine.loopStep input
    | .thread thread input => fine.threadStep thread input

def machine : Machine (FineSystem ι) (FineAction ι) (SystemEvent ι) := ⟨step⟩

def start (onMessageReceived onConnected onDisconnected : Bool) : FineSystem ι where
  memory := .new onMessageReceived onConnected onDisconnected
  mutex := none
  loop := .ready .idle
  threads _ := .ready .outside
  fault := none

end FineSystem

end Rito

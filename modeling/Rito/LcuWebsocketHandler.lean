import Rito.HttpsWebsocketClient
import Rito.LcuProcessHandler

namespace Rito

-- A callback of the handler together with its argument.
inductive Callback where
  | onConnected
  | onDisconnected
  | onMessageReceived (message : Bytes)
  deriving DecidableEq, Repr

-- The callback fields are std::functions: true when one is registered.
structure LcuWebsocketHandler where
  websocket : Option HttpsWebsocketClient
  isStateConnected : Bool
  stop : Bool
  onMessageReceived : Bool
  onConnected : Bool
  onDisconnected : Bool
  deriving DecidableEq, Repr

-- How the calls in reconnect() end: the shutdown in the destructor of the old
-- client (if there is one), the process scan, the construction of the client,
-- set_credentials and the steps of start().
structure ReconnectOutcome where
  shutdown : Except TransportException Unit
  scan : Except Thrown LcuParameters
  construct : Except Thrown Unit
  setCredentials : Except Thrown Unit
  start : StartOutcome

-- A call returns, throws, or ends the process in std::terminate.
inductive Completion where
  | returned
  | threw (exception : Thrown)
  | terminated
  deriving DecidableEq, Repr

namespace LcuWebsocketHandler

-- The constructor, and the three register functions called before run().
def new (onMessageReceived onConnected onDisconnected : Bool) : LcuWebsocketHandler where
  websocket := none
  isStateConnected := false
  stop := false
  onMessageReceived := onMessageReceived
  onConnected := onConnected
  onDisconnected := onDisconnected

def isConnected (handler : LcuWebsocketHandler) : Bool :=
  match handler.websocket with
  | none => false
  | some client => client.isConnected

-- m_websocket.reset(). The error is the exception that reaches the destructor.
def resetWebsocket (handler : LcuWebsocketHandler) (shutdown : Except TransportException Unit) :
    Except TransportException LcuWebsocketHandler :=
  match handler.websocket with
  | none => .ok handler
  | some client => (client.destroy shutdown).map fun _ => { handler with websocket := none }

-- The second if statement of reconnect().
def connect (handler : LcuWebsocketHandler) (outcome : ReconnectOutcome) :
    Completion × LcuWebsocketHandler :=
  match handler.websocket with
  | some _ => (.returned, handler)
  | none =>
      match outcome.scan with
      | .error exception => (.threw exception, handler)
      | .ok parameters =>
          match outcome.construct with
          | .error exception => (.threw exception, handler)
          | .ok () =>
              let client := HttpsWebsocketClient.new "127.0.0.1" parameters.appPort
              match outcome.setCredentials with
              | .error exception => (.threw exception, { handler with websocket := some client })
              | .ok () =>
                  match (client.setCredentials "riot" parameters.remotingAuthToken).start
                    outcome.start with
                  | (.error exception, client) =>
                      (.threw (.rito exception), { handler with websocket := some client })
                  | (.ok (), client) => (.returned, { handler with websocket := some client })

def reconnect (handler : LcuWebsocketHandler) (outcome : ReconnectOutcome) :
    Completion × LcuWebsocketHandler :=
  if handler.websocket.isSome ∧ ¬handler.isConnected then
    match handler.resetWebsocket outcome.shutdown with
    | .error _ => (.terminated, handler)
    | .ok handler => handler.connect outcome
  else handler.connect outcome

-- The callback that notify_connection_state_changed(connected) invokes.
def notification (handler : LcuWebsocketHandler) (connected : Bool) : Option Callback :=
  if connected && !handler.isStateConnected then
    if handler.onConnected then some .onConnected else none
  else if !connected && handler.isStateConnected then
    if handler.onDisconnected then some .onDisconnected else none
  else none

-- The rest of it, after the callback returned.
def setStateConnected (handler : LcuWebsocketHandler) (connected : Bool) : LcuWebsocketHandler :=
  { handler with isStateConnected := connected }

end LcuWebsocketHandler

end Rito

import Rito.Exception

namespace Rito

abbrev Bytes := List UInt8

-- The bytes of a std::string that holds `text` in UTF-8.
def utf8 (text : List Char) : Bytes := text.flatMap String.utf8EncodeChar

def maxFrameSize : Nat := 65536

def maxFramesPerMessage : Nat := 255

-- WebSocket::FRAME_FLAG_FIN
def frameFlagFin : Nat := 0x80

-- Poco's socket: the payload limit set on it and the frames sent on it so far.
structure WebSocket where
  maxPayloadSize : Option Nat
  sent : List Bytes
  deriving DecidableEq, Repr

structure HttpsWebsocketClient where
  connected : Bool
  host : String
  port : UInt16
  credentials : Option (String × String)
  websocket : Option WebSocket
  deriving DecidableEq, Repr

-- One return of WebSocket::receiveFrame. The length it returns is that of the
-- payload it appends; a connection the peer closed is a frame of length 0 with
-- flags 0.
inductive FrameResult where
  | frame (flags : Nat) (payload : Bytes)
  | throws (exception : TransportException)
  deriving DecidableEq, Repr

-- How the two Poco calls in start() end.
structure StartOutcome where
  openSocket : Except TransportException Unit
  setMaxPayloadSize : Except TransportException Unit

namespace HttpsWebsocketClient

-- The constructor.
def new (host : String) (port : UInt16) : HttpsWebsocketClient where
  connected := false
  host := host
  port := port
  credentials := none
  websocket := none

def setCredentials (client : HttpsWebsocketClient) (username password : String) :
    HttpsWebsocketClient :=
  { client with credentials := some (username, password) }

def isConnected (client : HttpsWebsocketClient) : Bool := client.connected

-- The two catch clauses of start().
def startException : TransportException → Exception
  | .websocket what => .websocket ("Failed to connect to websocket: " ++ what)
  | exception => .unknown exception.what

def start (client : HttpsWebsocketClient) (outcome : StartOutcome) :
    Except Exception Unit × HttpsWebsocketClient :=
  match client.websocket with
  | some _ => (.ok (), client)
  | none =>
      match outcome.openSocket with
      | .error exception => (.error (startException exception), client)
      | .ok () =>
          match outcome.setMaxPayloadSize with
          | .error exception =>
              (.error (startException exception),
                { client with websocket := some { maxPayloadSize := none, sent := [] } })
          | .ok () =>
              (.ok (), { client with
                websocket := some { maxPayloadSize := some maxFrameSize, sent := [] }
                connected := true })

-- Whether stop() calls WebSocket::shutdown.
def shutsDown (client : HttpsWebsocketClient) : Bool :=
  client.websocket.isSome && client.connected

-- m_connected is cleared before shutdown() is called, and the socket is only
-- destroyed when shutdown() does not throw.
def stop (client : HttpsWebsocketClient) (shutdown : Except TransportException Unit) :
    Except TransportException Unit × HttpsWebsocketClient :=
  if client.shutsDown then
    match shutdown with
    | .error exception => (.error exception, { client with connected := false })
    | .ok () => (.ok (), { client with connected := false, websocket := none })
  else (.ok (), { client with websocket := none })

-- The destructor runs stop(); it is noexcept, so an error here is std::terminate.
def destroy (client : HttpsWebsocketClient) (shutdown : Except TransportException Unit) :
    Except TransportException Unit :=
  (client.stop shutdown).1

def sendMessage (client : HttpsWebsocketClient) (message : Bytes)
    (sendFrame : Except TransportException Unit) :
    Except TransportException Bool × HttpsWebsocketClient :=
  match client.websocket with
  | none => (.ok false, client)
  | some socket =>
      match sendFrame with
      | .error exception => (.error exception, client)
      | .ok () =>
          (.ok true, { client with websocket := some { socket with sent := socket.sent ++ [message] } })

-- "Message is longer than ..." is thrown after the loop.
def messageTooLong : Exception :=
  .message ("Message is longer than " ++ toString (maxFrameSize * maxFramesPerMessage))

-- The for loop in receive_message with `left` iterations to go, on what the
-- transport yields next. Besides what leaves the try block it returns whether
-- m_connected was cleared and what the transport yields after it. It is
-- undefined where the loop waits for a frame that never comes.
def receiveFrames : Nat → Bytes → List FrameResult →
    Option (Except Thrown Bytes × Bool × List FrameResult)
  | 0, _, rest => some (.error (.rito messageTooLong), false, rest)
  | _ + 1, _, [] => none
  | _ + 1, _, .throws exception :: rest => some (.error (.transport exception), false, rest)
  | left + 1, messageBuffer, .frame flags payload :: rest =>
      if payload.length = 0 ∧ flags = 0 then
        some (.error (.rito (.websocket "Websocket client is disconnected")), true, rest)
      else if flags &&& frameFlagFin ≠ 0 then
        some (.ok (messageBuffer ++ payload), false, rest)
      else receiveFrames left (messageBuffer ++ payload) rest

def notStarted : Exception := .websocket "Websocket client is not started"

-- A timeout leaves the try block without rethrowing, so it reaches the throw
-- at the end of the function with m_connected unchanged.
def receiveMessage (client : HttpsWebsocketClient) (transport : List FrameResult) :
    Option (Except Exception Bytes × HttpsWebsocketClient × List FrameResult) :=
  match client.websocket with
  | none => some (.error notStarted, client, transport)
  | some _ =>
      match receiveFrames maxFramesPerMessage [] transport with
      | none => none
      | some (.ok messageBuffer, _, rest) => some (.ok messageBuffer, client, rest)
      | some (.error (.transport (.timeout _)), _, rest) => some (.error notStarted, client, rest)
      | some (.error (.rito exception), disconnected, rest) =>
          some (.error exception, { client with connected := client.connected && !disconnected }, rest)
      | some (.error (.transport exception), _, rest) =>
          some (.error (.unknown exception.what), { client with connected := false }, rest)
      | some (.error (.std what), _, rest) =>
          some (.error (.unknown what), { client with connected := false }, rest)

end HttpsWebsocketClient

end Rito

import Rito.HttpsWebsocketClient

namespace Rito

inductive WampMessageType where
  | call
  | callResult
  | callError
  | subscribe
  | unsubscribe
  | event
  deriving DecidableEq, Repr

def WampMessageType.value : WampMessageType → Int
  | .call => 2
  | .callResult => 3
  | .callError => 4
  | .subscribe => 5
  | .unsubscribe => 6
  | .event => 8

-- What Lcu_wamp_handler uses of Poco's JSON: `Var` is Dynamic::Var, `ArrayPtr`
-- is JSON::Array::Ptr. An error is the what() of a Poco::Exception.
structure PocoJson (Var ArrayPtr : Type) where
  parse : Bytes → Except String Var
  extractArray : Var → Except String ArrayPtr
  get : ArrayPtr → Nat → Var
  toInt : Var → Except String Int
  toString : Var → Except String Bytes

-- One invocation of a WAMP callback, with its arguments.
inductive WampInvocation where
  | callResult (identifier jsonData : Bytes)
  | callError (identifier error errorDescription : Bytes)
  | event (event jsonData : Bytes)
  deriving DecidableEq, Repr

-- Which of the WAMP callbacks are registered.
structure LcuWampHandler where
  onCallResultCallback : Bool
  onCallErrorCallback : Bool
  onEventCallback : Bool
  deriving DecidableEq, Repr

namespace LcuWampHandler

-- std::to_string(static_cast<int>(type))
def typeText (type : WampMessageType) : List Char := (toString type.value).toList

-- The message subscribe() hands to send_message, as its characters.
def subscribe (event : List Char) : List Char :=
  "[".toList ++ typeText .subscribe ++ ", \"".toList ++ event ++ "\"".toList

def unsubscribe (event : List Char) : List Char :=
  "[".toList ++ typeText .unsubscribe ++ ", \"".toList ++ event ++ "\"".toList

-- ", \""s + args + "\""s
def argument (text : List Char) : List Char := ", \"".toList ++ text ++ "\"".toList

-- The fold expression of the variadic call(), which needs one argument at least.
def argumentList : List Char → List (List Char) → List Char
  | first, [] => argument first
  | first, next :: rest => argument first ++ argumentList next rest

-- The variadic call(), with the arguments `first` and `rest`.
def call (identifier function first : List Char) (rest : List (List Char)) : List Char :=
  "[".toList ++ typeText .call ++ ", \"".toList ++ identifier ++ "\", \"".toList ++ function ++
    "\"".toList ++ argumentList first rest ++ "]".toList

-- The call() without arguments.
def callNoArguments (identifier function : List Char) : List Char :=
  "[".toList ++ typeText .subscribe ++ ", \"".toList ++ identifier ++ "\", \"".toList ++ function ++
    "\"]".toList

section Dispatch

variable {Var ArrayPtr : Type} (poco : PocoJson Var ArrayPtr)

def parseCallResult (message : ArrayPtr) : Except String (Bytes × Bytes) := do
  let callId ← poco.toString (poco.get message 1)
  let callResult ← poco.toString (poco.get message 2)
  return (callId, callResult)

def parseCallError (message : ArrayPtr) : Except String (Bytes × Bytes × Bytes) := do
  let callId ← poco.toString (poco.get message 1)
  let error ← poco.toString (poco.get message 2)
  let errorDescription ← poco.toString (poco.get message 3)
  return (callId, error, errorDescription)

def parseEvent (message : ArrayPtr) : Except String (Bytes × Bytes) := do
  let eventName ← poco.toString (poco.get message 1)
  let eventData ← poco.toString (poco.get message 2)
  return (eventName, eventData)

def onCallResult (handler : LcuWampHandler) (identifier jsonData : Bytes) : List WampInvocation :=
  if handler.onCallResultCallback then [.callResult identifier jsonData] else []

def onCallError (handler : LcuWampHandler) (identifier error errorDescription : Bytes) :
    List WampInvocation :=
  if handler.onCallErrorCallback then [.callError identifier error errorDescription] else []

def onEvent (handler : LcuWampHandler) (event jsonData : Bytes) : List WampInvocation :=
  if handler.onEventCallback then [.event event jsonData] else []

-- The switch of dispatch_message().
def dispatchArray (handler : LcuWampHandler) (messageJsonArray : ArrayPtr) :
    Except String (List WampInvocation) := do
  let wampMessageId ← poco.toInt (poco.get messageJsonArray 0)
  if wampMessageId = WampMessageType.callResult.value then
    let (identifier, jsonData) ← parseCallResult poco messageJsonArray
    return handler.onCallResult identifier jsonData
  else if wampMessageId = WampMessageType.callError.value then
    let (identifier, error, errorDescription) ← parseCallError poco messageJsonArray
    return handler.onCallError identifier error errorDescription
  else if wampMessageId = WampMessageType.event.value then
    let (event, jsonData) ← parseEvent poco messageJsonArray
    return handler.onEvent event jsonData
  else return []

-- The try block of dispatch_message().
def dispatch (handler : LcuWampHandler) (message : Bytes) : Except String (List WampInvocation) := do
  let messageVar ← poco.parse message
  let messageJsonArray ← poco.extractArray messageVar
  handler.dispatchArray poco messageJsonArray

-- Every Poco exception is swallowed.
def dispatchMessage (handler : LcuWampHandler) (message : Bytes) : List WampInvocation :=
  match handler.dispatch poco message with
  | .ok invocations => invocations
  | .error _ => []

def onMessage (handler : LcuWampHandler) (message : Bytes) : List WampInvocation :=
  if message.isEmpty then [] else handler.dispatchMessage poco message

end Dispatch

end LcuWampHandler

end Rito

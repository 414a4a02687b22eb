import Rito.Exception

namespace Rito

-- Request_type. A value of the enumeration's underlying type that is none of
-- its enumerators is `unspecified`.
inductive RequestType where
  | httpConnect
  | httpDelete
  | httpGet
  | httpHead
  | httpOptions
  | httpPatch
  | httpPost
  | httpPut
  | httpTrace
  | unspecified (value : Int)
  deriving DecidableEq, Repr

-- The body is the sequence of bytes the server sent.
structure HttpResponse where
  status : Int32
  reason : String
  response : List UInt8
  deriving DecidableEq

def toPocoRequestType : RequestType → Except Exception String
  | .httpConnect => .ok "CONNECT"
  | .httpDelete => .ok "DELETE"
  | .httpGet => .ok "GET"
  | .httpHead => .ok "HEAD"
  | .httpOptions => .ok "OPTIONS"
  | .httpPatch => .ok "PATCH"
  | .httpPost => .ok "POST"
  | .httpPut => .ok "PUT"
  | .httpTrace => .ok "TRACE"
  | .unspecified _ => .error (.wrongEnumValue "Unknown RequestType enum value")

-- Request_type values that have a method.
def RequestType.isEnumerator : RequestType → Bool
  | .unspecified _ => false
  | _ => true

def httpsPort : UInt16 := 443

-- `serial` tells client objects apart; no function reads it.
structure HttpsRestClient where
  serial : Nat
  host : String
  port : UInt16
  credentials : Option (String × String)
  deriving DecidableEq, Repr

-- How the two halves of one request end: sendRequest of the session, and
-- receiveResponse of the session with the reading of the body.
structure Exchange where
  sending : Except TransportException Unit
  receiving : Except TransportException HttpResponse

-- One call of the session's sendRequest: the client object it is made on, the
-- request given to it, and whether it returned.
structure Transmission where
  client : Nat
  host : String
  port : UInt16
  credentials : Option (String × String)
  method : String
  pathAndQuery : String
  headers : List (String × String)
  sent : Bool
  deriving DecidableEq, Repr

namespace HttpsRestClient

-- The constructor.
def new (serial : Nat) (host : String) (port : UInt16) : HttpsRestClient where
  serial := serial
  host := host
  port := port
  credentials := none

def setCredentials (client : HttpsRestClient) (username password : String) : HttpsRestClient :=
  { client with credentials := some (username, password) }

def sendRequest (client : HttpsRestClient) (type pathAndQuery : String)
    (headers : List (String × String)) (sending : Except TransportException Unit) :
    Except Thrown Unit × Transmission :=
  let transmission : Transmission :=
    { client := client.serial, host := client.host, port := client.port,
      credentials := client.credentials, method := type, pathAndQuery, headers,
      sent := sending.isOk }
  match sending with
  | .ok () => (.ok (), transmission)
  | .error exception => (.error (.transport exception), transmission)

def receiveResponse : Except TransportException HttpResponse → Except Thrown HttpResponse
  | .ok response => .ok response
  | .error (.message what) =>
      .error (.rito (.message ("Unable to receive message from the server (" ++ what ++ ")")))
  | .error exception => .error (.transport exception)

-- The request type is converted before anything is sent.
def request (client : HttpsRestClient) (type : RequestType) (pathAndQuery : String)
    (headers : List (String × String)) (exchange : Exchange) :
    Except Thrown HttpResponse × List Transmission :=
  match toPocoRequestType type with
  | .error exception => (.error (.rito exception), [])
  | .ok method =>
      match client.sendRequest method pathAndQuery headers exchange.sending with
      | (.error thrown, transmission) => (.error thrown, [transmission])
      | (.ok (), transmission) => (receiveResponse exchange.receiving, [transmission])

variable {client : HttpsRestClient} {type : RequestType} {pathAndQuery : String}
  {headers : List (String × String)} {exchange : Exchange} {transmission : Transmission}

-- What is transmitted goes to the client's own host, with the headers given.
theorem request_transmission
    (h : transmission ∈ (client.request type pathAndQuery headers exchange).2) :
    transmission.client = client.serial ∧ transmission.host = client.host ∧
      transmission.port = client.port ∧ transmission.credentials = client.credentials ∧
      toPocoRequestType type = .ok transmission.method ∧
      transmission.pathAndQuery = pathAndQuery ∧ transmission.headers = headers := by
  unfold request at h
  cases hm : toPocoRequestType type with
  | error exception => simp [hm] at h
  | ok method =>
      have ht : transmission =
          (client.sendRequest method pathAndQuery headers exchange.sending).2 := by
        cases hs : exchange.sending <;> simpa [hm, sendRequest, hs] using h
      rw [ht]
      cases exchange.sending <;> simp [sendRequest]

-- A client transmits once for every request type that has a method.
theorem request_length : (client.request type pathAndQuery headers exchange).2.length =
    if type.isEnumerator then 1 else 0 := by
  cases hs : exchange.sending <;> cases type <;>
    simp [request, toPocoRequestType, sendRequest, hs, RequestType.isEnumerator]

theorem request_unspecified (h : type.isEnumerator = false) :
    client.request type pathAndQuery headers exchange =
      (.error (.rito (.wrongEnumValue "Unknown RequestType enum value")), []) := by
  cases type <;> first | rfl | cases h

end HttpsRestClient

end Rito

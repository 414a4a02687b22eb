import Rito.HttpsRestClient
import Rito.LcuProcessHandler
import Rito.Machine

namespace Rito

-- `created` counts the client objects made so far.
structure LcuRestHandler where
  client : Option HttpsRestClient
  created : Nat
  deriving DecidableEq, Repr

-- What the environment decides in one request(): the exchange on the client
-- already there, what get_lcu_process_parameters() comes to, whether a new
-- client can be constructed, and the exchange on it.
structure LcuRestOutcome where
  cached : Exchange
  parameters : Except Thrown LcuParameters
  construct : Except TransportException Unit
  fresh : Exchange

namespace LcuRestHandler

-- The constructor.
def new : LcuRestHandler where
  client := none
  created := 0

-- The new client, and the handler that holds it.
def attemptReconnect (handler : LcuRestHandler) (outcome : LcuRestOutcome) :
    Except Thrown (HttpsRestClient × LcuRestHandler) :=
  match outcome.parameters with
  | .error thrown => .error thrown
  | .ok lcuClientParameters =>
      match outcome.construct with
      | .error exception => .error (.transport exception)
      | .ok () =>
          let client := (HttpsRestClient.new handler.created "127.0.0.1"
            lcuClientParameters.appPort).setCredentials "riot" lcuClientParameters.remotingAuthToken
          .ok (client, { client := some client, created := handler.created + 1 })

-- m_client.reset()
def resetClient (handler : LcuRestHandler) : LcuRestHandler := { handler with client := none }

-- request() from its second if on.
def reconnectAndRequest (handler : LcuRestHandler) (type : RequestType) (message : String)
    (outcome : LcuRestOutcome) :
    Except Thrown HttpResponse × LcuRestHandler × List Transmission :=
  match handler.client with
  | some _ => (.error (.rito (.unknown "Unexpected error")), handler, [])
  | none =>
      match handler.attemptReconnect outcome with
      | .error thrown => (.error thrown, handler, [])
      | .ok (client, handler) =>
          let (result, transmissions) := client.request type message [] outcome.fresh
          (result, handler, transmissions)

def request (handler : LcuRestHandler) (type : RequestType) (message : String)
    (outcome : LcuRestOutcome) :
    Except Thrown HttpResponse × LcuRestHandler × List Transmission :=
  match handler.client with
  | none => handler.reconnectAndRequest type message outcome
  | some client =>
      match client.request type message [] outcome.cached with
      | (.ok response, transmissions) => (.ok response, handler, transmissions)
      | (.error _, transmissions) =>
          let (result, handler, later) :=
            handler.resetClient.reconnectAndRequest type message outcome
          (result, handler, transmissions ++ later)

end LcuRestHandler

-- A call of request() on a handler, and what its environment decides.
structure RestRequest (ω : Type*) where
  type : RequestType
  message : String
  outcome : ω

-- What a caller and the network see of it.
structure RestServed where
  result : Except Thrown HttpResponse
  transmissions : List Transmission

namespace LcuRestHandler

-- No call is ever refused.
def machine : Machine LcuRestHandler (RestRequest LcuRestOutcome) RestServed where
  step handler call :=
    let (result, handler, transmissions) := handler.request call.type call.message call.outcome
    some (handler, [{ result, transmissions }])

end LcuRestHandler

end Rito

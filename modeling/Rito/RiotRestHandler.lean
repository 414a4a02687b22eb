import Rito.HttpsRestClient
import Rito.Machine

namespace Rito

inductive Region where
  | none
  | br
  | eune
  | euw
  | jp
  | kr
  | lan
  | las
  | na
  | oce
  | tr
  | ru
  deriving DecidableEq, Repr

def getHostByRegion : Region → String
  | .none => ""
  | .br => "br1.api.riotgames.com"
  | .eune => "eun1.api.riotgames.com"
  | .euw => "euw1.api.riotgames.com"
  | .jp => "jp1.api.riotgames.com"
  | .kr => "kr.api.riotgames.com"
  | .lan => "la1.api.riotgames.com"
  | .las => "la2.api.riotgames.com"
  | .na => "na1.api.riotgames.com"
  | .oce => "oc1.api.riotgames.com"
  | .tr => "tr1.api.riotgames.com"
  | .ru => "ru.api.riotgames.com"

-- `created` counts the client objects made so far.
structure RiotRestHandler where
  region : Region
  apiKey : String
  client : Option HttpsRestClient
  created : Nat
  deriving DecidableEq, Repr

-- What the environment decides in one request(): the exchange on the client
-- already there, whether a new one can be constructed, and the exchange on it.
structure RequestOutcome where
  cached : Exchange
  construct : Except TransportException Unit
  fresh : Exchange

namespace RiotRestHandler

-- The constructor.
def new (apiKey : String) : RiotRestHandler where
  region := .none
  apiKey := apiKey
  client := none
  created := 0

def setRegion (handler : RiotRestHandler) (region : Region) : RiotRestHandler :=
  { handler with region }

-- Both calls of send_request are made with a client in m_client.
def sendRequest (handler : RiotRestHandler) (client : HttpsRestClient) (type : RequestType)
    (message : String) (exchange : Exchange) : Except Thrown HttpResponse × List Transmission :=
  client.request type message [("X-Riot-Token", handler.apiKey)] exchange

def noRegionSelected : Exception := .noRegionSelected "You have to select region first"

-- The new client, and the handler that holds it.
def attemptReconnect (handler : RiotRestHandler) (construct : Except TransportException Unit) :
    Except Thrown (HttpsRestClient × RiotRestHandler) :=
  if handler.region = .none then .error (.rito noRegionSelected)
  else
    match construct with
    | .error exception => .error (.transport exception)
    | .ok () =>
        let client := HttpsRestClient.new handler.created (getHostByRegion handler.region) httpsPort
        .ok (client, { handler with client := some client, created := handler.created + 1 })

-- m_client.reset()
def resetClient (handler : RiotRestHandler) : RiotRestHandler := { handler with client := none }

-- request() from its second if on.
def reconnectAndSend (handler : RiotRestHandler) (type : RequestType) (message : String)
    (outcome : RequestOutcome) :
    Except Thrown HttpResponse × RiotRestHandler × List Transmission :=
  match handler.client with
  | some _ => (.error (.rito (.unknown "Unexpected error")), handler, [])
  | none =>
      match handler.attemptReconnect outcome.construct with
      | .error thrown => (.error thrown, handler, [])
      | .ok (client, handler) =>
          let (result, transmissions) := handler.sendRequest client type message outcome.fresh
          (result, handler, transmissions)

-- Every exception is a std::exception, so the first attempt never throws out
-- of request().
def request (handler : RiotRestHandler) (type : RequestType) (message : String)
    (outcome : RequestOutcome) :
    Except Thrown HttpResponse × RiotRestHandler × List Transmission :=
  match handler.client with
  | none => handler.reconnectAndSend type message outcome
  | some client =>
      match handler.sendRequest client type message outcome.cached with
      | (.ok response, transmissions) => (.ok response, handler, transmissions)
      | (.error _, transmissions) =>
          let (result, handler, later) :=
            handler.resetClient.reconnectAndSend type message outcome
          (result, handler, transmissions ++ later)

end RiotRestHandler

-- One call made on a handler.
inductive RiotRestCall where
  | setRegion (region : Region)
  | request (type : RequestType) (message : String) (outcome : RequestOutcome)

-- What a caller and the network see of it.
inductive RiotRestEvent where
  | regionSet (region : Region)
  | served (result : Except Thrown HttpResponse) (transmissions : List Transmission)

namespace RiotRestHandler

def serve (handler : RiotRestHandler) : RiotRestCall → RiotRestHandler × RiotRestEvent
  | .setRegion region => (handler.setRegion region, .regionSet region)
  | .request type message outcome =>
      let (result, handler, transmissions) := handler.request type message outcome
      (handler, .served result transmissions)

-- No call is ever refused.
def machine : Machine RiotRestHandler RiotRestCall RiotRestEvent where
  step handler call := some ((handler.serve call).1, [(handler.serve call).2])

end RiotRestHandler

end Rito

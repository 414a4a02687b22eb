import Mathlib.Tactic.Common

namespace Rito

-- The classes deriving from rito::Exception, each with its what().
inductive Exception where
  | unknown (what : String)
  | lcuNotRunning (what : String)
  | lcuParameters (what : String)
  | pathNotFound (what : String)
  | noRegionSelected (what : String)
  | wrongEnumValue (what : String)
  | websocket (what : String)
  | message (what : String)
  deriving DecidableEq, Repr

-- What the Poco transport throws. The code tells apart Poco::TimeoutException,
-- Poco::Net::WebSocketException and Poco::Net::MessageException; every other
-- exception is one std::exception to it.
inductive TransportException where
  | timeout (what : String)
  | websocket (what : String)
  | message (what : String)
  | other (what : String)
  deriving DecidableEq, Repr

def TransportException.what : TransportException → String
  | timeout what | websocket what | message what | other what => what

-- Any exception that can be in flight: all of them are std::exceptions.
inductive Thrown where
  | rito (exception : Exception)
  | transport (exception : TransportException)
  | std (what : String)
  deriving DecidableEq, Repr

end Rito

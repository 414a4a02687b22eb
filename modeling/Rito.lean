import Rito.HttpsRestClient.Errors
import Rito.HttpsRestClient.Fresh
import Rito.HttpsRestClient.Resend
import Rito.HttpsRestClient.Reuse
import Rito.HttpsWebsocketClient.ControlFrames
import Rito.HttpsWebsocketClient.Disconnects
import Rito.HttpsWebsocketClient.Lifecycle
import Rito.HttpsWebsocketClient.Segments
import Rito.HttpsWebsocketClient.WholeMessages
import Rito.LcuProcessHandler.Arguments
import Rito.LcuProcessHandler.Entries
import Rito.LcuProcessHandler.Handles
import Rito.LcuProcessHandler.Leaks
import Rito.LcuProcessHandler.Leftmost
import Rito.LcuProcessHandler.Platforms
import Rito.LcuProcessHandler.ProcessMemory
import Rito.LcuWampHandler.Dispatch
import Rito.LcuWampHandler.Incoming
import Rito.LcuWampHandler.Outgoing
import Rito.LcuWampHandler.Session
import Rito.LcuWebsocketHandler.AccessStep
import Rito.LcuWebsocketHandler.Accesses
import Rito.LcuWebsocketHandler.Atomicity
import Rito.LcuWebsocketHandler.CallbackTrace
import Rito.LcuWebsocketHandler.Clients
import Rito.LcuWebsocketHandler.Commits
import Rito.LcuWebsocketHandler.Expansion
import Rito.LcuWebsocketHandler.HalfConnected
import Rito.LcuWebsocketHandler.Lifetimes
import Rito.LcuWebsocketHandler.LostStop
import Rito.LcuWebsocketHandler.Mutex
import Rito.LcuWebsocketHandler.Noexcept
import Rito.LcuWebsocketHandler.NullSocket
import Rito.LcuWebsocketHandler.Outline
import Rito.LcuWebsocketHandler.Reconnect
import Rito.LcuWebsocketHandler.Restart
import Rito.LcuWebsocketHandler.RunEnds
import Rito.LcuWebsocketHandler.Sections
import Rito.LcuWebsocketHandler.Sending
import Rito.LcuWebsocketHandler.Stands
import Rito.LcuWebsocketHandler.Traces
import Rito.LcuWebsocketHandler.WakeUp
import Rito.Progress
import Rito.RiotRestHandler.Region
import Rito.Simulation

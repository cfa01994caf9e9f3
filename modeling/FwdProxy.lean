import FwdProxy.Net
import FwdProxy.Relay
import FwdProxy.Tcp.Pair
import FwdProxy.Tcp.Accept
import FwdProxy.Tcp.Server
import FwdProxy.Udp.Mux
import FwdProxy.Udp.Demux
import FwdProxy.Udp.Errors
import FwdProxy.Udp.Echo
import FwdProxy.Udp.System
import FwdProxy.Registry
import FwdProxy.Process
import FwdProxy.Endpoint.Atoi
import FwdProxy.Endpoint.Validate
import FwdProxy.Signals

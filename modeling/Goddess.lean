import Goddess.Basic
import Goddess.Http
import Goddess.Control.Service
import Goddess.Control.Lock
import Goddess.Control.Release
import Goddess.Middleware.Stream
import Goddess.Middleware.Interleaving
import Goddess.Middleware.Namespace
import Goddess.Middleware.Jwt
import Goddess.Proxy.Build
import Goddess.Proxy.Handler
import Goddess.Proxy.Loop
import Goddess.Proxy.Breaker
import Goddess.Proxy.Observer
import Goddess.Proxy.Relay
import Goddess.Proxy.Serve
import Goddess.Proxy.Forwarded
import Goddess.Proxy.Update
import Goddess.Proxy.StreamBody

import EdgeGateway.Gateway.Conveyance
import EdgeGateway.Websocket.Handshake

/-!
# How a WebSocket backend is introduced to a client

The listener has written the identity of the client before the handshake copies it, and what only
the gateway may say of a connection has been dropped from the request by then.  A WebSocket backend
thus learns of its client what the gateway knows, what the route lets through, and nothing else.
-/

namespace EdgeGateway.Gateway

open Http HttpProxy Results Routes Routing Security Websocket

variable {Connector : Type} {client : Request} {address : ResolvedClientAddress} {route : Route}
  {copied : BackendHandshakeHeaders} {parseUri : UriParser} {key : HeaderValue}
  {endpoint : WebSocketBackendEndpoint} {metadata : BackendHandshakeMetadata} {sent : Request}
  {cookies origins : Option HeaderValue} {authority : String} {hostValue : HeaderValue}

/-! ## Headers by where they come from -/

end EdgeGateway.Gateway

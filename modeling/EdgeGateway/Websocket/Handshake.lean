import EdgeGateway.HttpProxy.Forwarding
import EdgeGateway.Routes.Table
import EdgeGateway.Websocket.Subprotocol

/-!
# The handshake with a WebSocket backend

The gateway does not forward the request of a client to a WebSocket backend: it makes a handshake
of its own, and copies into it what the route lets through.  A client that says a thing twice where
only once makes sense is turned away.
-/

namespace EdgeGateway.Websocket

open Http HttpProxy Results Routes Routing Security

/-! ## Headers -/

theorem isHeaderName_authorization : isHeaderName "authorization".toList = true := by
  decide

def authorization : HeaderName := ⟨"authorization", isHeaderName_authorization⟩
def origin : HeaderName := ⟨"origin", by decide⟩

def ingressTransportId : HeaderName := ⟨"x-edge-gateway-ingress-transport-id", by decide⟩
def websocketId : HeaderName := ⟨"x-edge-gateway-websocket-id", by decide⟩
def ingressPeer : HeaderName := ⟨"x-edge-gateway-ingress-peer", by decide⟩
def downstreamHttpVersion : HeaderName := ⟨"x-edge-gateway-downstream-http-version", by decide⟩
def downstreamHandshake : HeaderName := ⟨"x-edge-gateway-downstream-handshake", by decide⟩
def gatewayCfRay : HeaderName := ⟨"x-edge-gateway-cf-ray", by decide⟩

/-- The text of an address with its zone and its port. -/
def displayPeer (peer : SocketAddr) : String :=
  match peer.ip with
  | .v4 _ => IpAddress.display peer.ip ++ ":" ++ toString peer.port
  | .v6 _ =>
      let zone := if peer.scopeId = 0 then "" else "%" ++ toString peer.scopeId
      "[" ++ IpAddress.display peer.ip ++ zone ++ "]:" ++ toString peer.port

/-- What the gateway tells some backends of the connection. -/
structure BackendHandshakeMetadata where
  transportConnectionId : Nat
  connectionId : Nat
  peer : SocketAddr
  cfRay : Option String
  httpVersion : String
  handshake : String

/-- The headers that tell of the connection. -/
def BackendHandshakeMetadata.headers (metadata : BackendHandshakeMetadata) :
    List (HeaderName × String) :=
  [(ingressTransportId, toString metadata.transportConnectionId),
    (websocketId, toString metadata.connectionId), (ingressPeer, displayPeer metadata.peer),
    (downstreamHttpVersion, metadata.httpVersion), (downstreamHandshake, metadata.handshake)] ++
    (metadata.cfRay.map fun ray => (gatewayCfRay, ray)).toList

variable {request : Request} {route : Route} {copied : BackendHandshakeHeaders}

variable {parseUri : UriParser} {key : HeaderValue} {endpoint : WebSocketBackendEndpoint}
  {metadata : BackendHandshakeMetadata} {sent : Request}

end EdgeGateway.Websocket

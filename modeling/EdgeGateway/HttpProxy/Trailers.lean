import EdgeGateway.HttpProxy.Headers
import EdgeGateway.Library.Results
import EdgeGateway.Routing.Policy

/-!
# Frames of proxied bodies

A body is a stream of frames of data with trailers at its end.  Trailers are bounded and sanitized
on their way through the proxy, and must have been declared where the other side needs that.
-/

namespace EdgeGateway.HttpProxy

open Http Results

/-- A frame of a body. -/
inductive Frame
  | data (bytes : List UInt8)
  | trailers (headers : HeaderMap)
deriving DecidableEq

/-- Headers that carry the identity of a client. -/
def isIdentityHeader (name : HeaderName) : Bool :=
  name.startsWith "x-forwarded-" || name.startsWith "x-edge-gateway-" || name.startsWith "cf-"

/-- Routing, framing and identity cannot be redefined by late trailer fields. -/
def lateNames : List HeaderName :=
  [Routing.hostName, ⟨"content-length", by decide⟩, contentType, ⟨"content-encoding", by decide⟩,
    ⟨"trailer", by decide⟩, te, ⟨"authorization", by decide⟩, proxyAuthorization,
    ⟨"cookie", by decide⟩, ⟨"set-cookie", by decide⟩, Security.xRealIp, Security.forwarded,
    Security.trueClientIp, Security.xOriginalUrl, Security.xRewriteUrl]

/-- Sanitize trailers. -/
def sanitizeTrailers (headers : HeaderMap) : HeaderMap :=
  let headers := sanitizeHopHeaders headers false
  let headers := headers.removeAll (headers.keys.filter isIdentityHeader)
  headers.removeAll lateNames

/-- The size of trailers, with an allowance for each of them. -/
def trailerBytes (headers : HeaderMap) : Nat :=
  headerBytes headers

/-- Sanitize a frame; its trailers must be among the declared ones, if there is a declaration. -/
def sanitizeStreamFrame (frame : Frame) (declared : Option (List HeaderName)) :
    Except String Frame :=
  match frame with
  | .data _ => .ok frame
  | .trailers headers => do
      ensure (headers.length ≤ 100 ∧ trailerBytes headers ≤ 32768) "HTTP trailer limit exceeded"
      let sanitized := sanitizeTrailers headers
      ensure (∀ names ∈ declared, ∀ name ∈ sanitized.keys, name ∈ names)
        "H1 trailers require a prior Trailer header declaration"
      return .trailers sanitized

end EdgeGateway.HttpProxy

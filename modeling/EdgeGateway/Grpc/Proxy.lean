import EdgeGateway.Http.Request

/-!
# Requests to gRPC routes

Some responses report a failure of the protocol on top, under a status that stands for success.
-/

namespace EdgeGateway.Grpc

open Http

def grpcType : HeaderValue := ⟨Utf8.encode "application/grpc".toList, by decide⟩
def grpcStatus : HeaderName := ⟨"grpc-status", by decide⟩
def grpcMessage : HeaderName := ⟨"grpc-message", by decide⟩
def permissionDenied : HeaderValue := ⟨Utf8.encode "7".toList, by decide⟩
def permissionDeniedMessage : HeaderValue := ⟨Utf8.encode "permission%20denied".toList, by decide⟩
def resourceExhausted : HeaderValue := ⟨Utf8.encode "8".toList, by decide⟩

def capacityReachedMessage : HeaderValue :=
  ⟨Utf8.encode "gateway%20capacity%20reached".toList, by decide⟩

/-- A failure of the protocol on top. -/
def grpcFailureResponse (status message : HeaderValue) : Response where
  status := 200
  version := .http2
  headers := [(contentType, grpcType), (grpcStatus, status), (grpcMessage, message)]
  body := ""

/-- The response to a blocked client. -/
def blockedGrpcResponse : Response :=
  grpcFailureResponse permissionDenied permissionDeniedMessage

/-- The type of the body is that of the protocol, or one of its subtypes. -/
def isGrpcContentType (headers : HeaderMap) : Bool :=
  match (headers.get contentType).bind HeaderValue.toStr with
  | none => false
  | some value =>
      let mediaType := (Text.trim (value.toList.takeWhile (· ≠ ';'))).map Char.toLower
      mediaType == "application/grpc".toList ||
        (decide ("application/grpc+".toList.length < mediaType.length) &&
          "application/grpc+".toList.isPrefixOf mediaType)

/-- The response to a request that is none of the protocol. -/
def rejectInvalidGrpcRequest (request : Request) : Option Response :=
  if request.version ≠ .http2 then some (textResponse 505 "HTTP/2 required\n")
  else if request.method ≠ .post then some (textResponse 405 "POST required\n")
  else if request.uri.query.isSome then some (textResponse 400 "query string is not allowed\n")
  else if !isGrpcContentType request.headers then
    some (textResponse 415 "application/grpc content-type required\n")
  else none

end EdgeGateway.Grpc

import EdgeGateway.Http.HeaderMap
import EdgeGateway.Library.IpAddress

/-!
# Requests and responses

Targets are parsed outside of the gateway; here a target is what the parser found in it.
-/

namespace EdgeGateway.Http

/-! ## Targets -/

/-- The path of a target, with its query. -/
structure PathAndQuery where
  path : String
  query : Option String
deriving DecidableEq, Repr

/-- The text of a path with its query. -/
def PathAndQuery.asStr (target : PathAndQuery) : String :=
  match target.query with
  | none => target.path
  | some query => target.path ++ "?" ++ query

/-- A parsed target; host and port are parts of the authority. -/
structure Uri where
  scheme : Option String
  authority : Option String
  host : Option String
  port : Option Nat
  pathAndQuery : Option PathAndQuery
deriving DecidableEq, Repr

/-- The path of a target; one without a path has the empty one. -/
def Uri.path (uri : Uri) : String :=
  (uri.pathAndQuery.map PathAndQuery.path).getD ""

/-- The query of a target. -/
def Uri.query (uri : Uri) : Option String :=
  uri.pathAndQuery.bind PathAndQuery.query

/-- Everything behind the authority; a target without a path means the root. -/
def Uri.target (uri : Uri) : String :=
  (uri.pathAndQuery.map PathAndQuery.asStr).getD "/"

/-- A parser of targets, with the text of its error. -/
abbrev UriParser := String → Except String Uri

/-- The address that a host is written as, without the brackets of the longer family. -/
def literalHost (host : String) : Option IpAddress.IpAddr :=
  let opened := host.toList.dropWhile (· = '[')
  IpAddress.parse (String.ofList (opened.reverse.dropWhile (· = ']')).reverse)

/-! ## Requests -/

/-- The methods that the gateway tells apart. -/
inductive Method
  | get
  | head
  | post
  | connect
  | other (name : String)
deriving DecidableEq, Repr

/-- The versions of the protocol. -/
inductive Version
  | http09
  | http10
  | http11
  | http2
  | http3
deriving DecidableEq, Repr

/-- A request without its body. -/
structure Request where
  method : Method
  uri : Uri
  version : Version
  headers : HeaderMap

/-! ## Responses -/

/-- A response that the gateway writes itself. -/
structure Response where
  status : Nat
  version : Version := .http11
  headers : HeaderMap
  body : String
deriving DecidableEq

/-- The name of the header that names the type of a body. -/
def contentType : HeaderName := ⟨"content-type", by decide⟩

def plainText : HeaderValue := ⟨Utf8.encode "text/plain; charset=utf-8".toList, by decide⟩

/-- A response with a plain text. -/
def textResponse (status : Nat) (body : String) : Response where
  status := status
  headers := [(contentType, plainText)]
  body := body

end EdgeGateway.Http

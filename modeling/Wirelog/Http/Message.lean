import Wirelog.Http.Headers
import Wirelog.Http.Uri
/-!
Requests and responses with their bodies collected, as every stage of an exchange sees them.
-/
namespace Wirelog.Http

/-- The version of the protocol that a message is sent under. -/
inductive Version where
  | http09
  | http10
  | http11
  | http2
  | http3
deriving DecidableEq, Inhabited

/-- `format_http_version`: the version as records name it. The newest version has no name of its own
there and counts as the common one. -/
def Version.recordName : Version → String
  | .http09 => "HTTP/0.9"
  | .http10 => "HTTP/1.0"
  | .http2 => "HTTP/2.0"
  | .http11 | .http3 => "HTTP/1.1"

/-- A request with its whole body. -/
structure Request where
  /-- The method as written; methods are case-sensitive. -/
  method : String := "GET"
  /-- The request target. -/
  uri : Uri
  /-- The protocol version. -/
  version : Version := .http11
  /-- The header block. -/
  headers : Headers := .empty
  /-- The body. -/
  body : Bytes := .empty
deriving DecidableEq

/-- A response with its whole body. -/
structure Response where
  /-- The status code. -/
  status : Nat := 200
  /-- The protocol version. -/
  version : Version := .http11
  /-- The header block. -/
  headers : Headers := .empty
  /-- The body. -/
  body : Bytes := .empty
deriving DecidableEq

/-- The phrase that the registry of status codes gives to a code. -/
def reasonPhrase? : Nat → Option String
  | 100 => "Continue"
  | 101 => "Switching Protocols"
  | 102 => "Processing"
  | 103 => "Early Hints"
  | 200 => "OK"
  | 201 => "Created"
  | 202 => "Accepted"
  | 203 => "Non Authoritative Information"
  | 204 => "No Content"
  | 205 => "Reset Content"
  | 206 => "Partial Content"
  | 207 => "Multi-Status"
  | 208 => "Already Reported"
  | 226 => "IM Used"
  | 300 => "Multiple Choices"
  | 301 => "Moved Permanently"
  | 302 => "Found"
  | 303 => "See Other"
  | 304 => "Not Modified"
  | 305 => "Use Proxy"
  | 307 => "Temporary Redirect"
  | 308 => "Permanent Redirect"
  | 400 => "Bad Request"
  | 401 => "Unauthorized"
  | 402 => "Payment Required"
  | 403 => "Forbidden"
  | 404 => "Not Found"
  | 405 => "Method Not Allowed"
  | 406 => "Not Acceptable"
  | 407 => "Proxy Authentication Required"
  | 408 => "Request Timeout"
  | 409 => "Conflict"
  | 410 => "Gone"
  | 411 => "Length Required"
  | 412 => "Precondition Failed"
  | 413 => "Payload Too Large"
  | 414 => "URI Too Long"
  | 415 => "Unsupported Media Type"
  | 416 => "Range Not Satisfiable"
  | 417 => "Expectation Failed"
  | 418 => "I'm a teapot"
  | 421 => "Misdirected Request"
  | 422 => "Unprocessable Entity"
  | 423 => "Locked"
  | 424 => "Failed Dependency"
  | 425 => "Too Early"
  | 426 => "Upgrade Required"
  | 428 => "Precondition Required"
  | 429 => "Too Many Requests"
  | 431 => "Request Header Fields Too Large"
  | 451 => "Unavailable For Legal Reasons"
  | 500 => "Internal Server Error"
  | 501 => "Not Implemented"
  | 502 => "Bad Gateway"
  | 503 => "Service Unavailable"
  | 504 => "Gateway Timeout"
  | 505 => "HTTP Version Not Supported"
  | 506 => "Variant Also Negotiates"
  | 507 => "Insufficient Storage"
  | 508 => "Loop Detected"
  | 510 => "Not Extended"
  | 511 => "Network Authentication Required"
  | _ => none

namespace Response

/-- `synthetic_response`: a response that the proxy itself makes up. A number that is no status code
becomes 502. -/
def synthetic (status : Nat) (body : Bytes) : Response :=
  { status := if 100 ≤ status ∧ status ≤ 999 then status else 502, body }

/-- `is_redirect`: statuses whose `location` header sends the client elsewhere. -/
def isRedirect (status : Nat) : Bool :=
  [300, 301, 302, 303, 307, 308].contains status

/-- `redirect_url`: where a redirect leads: its first `location` as text. Empty for any other
response, and for a redirect whose location is missing or no text. -/
def redirectTarget (status : Nat) (headers : Headers) : String :=
  if isRedirect status then (headers.text? "location").getD "" else ""

end Response
end Wirelog.Http

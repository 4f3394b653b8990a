import Wirelog.Archive.Document
import Wirelog.Body.Record
import Wirelog.Cookie
import Wirelog.Http.Message
import Wirelog.Text.Utf8
import Wirelog.Url.Query
/-!
Messages as archive entries keep them. Without the flag for headers, neither headers nor cookies
appear, though the size of the header block still does.
-/
namespace Wirelog.Recording

/-- `CaptureSettings`: which parts of an exchange are kept. -/
structure Flags where
  /-- Headers and cookies. -/
  headers : Bool := false
  /-- Bodies of textual types. -/
  content : Bool := false
  /-- Bodies of other types. -/
  binary : Bool := false
deriving DecidableEq, Inhabited

/-- `CaptureSettings::body`: the flags that concern bodies. -/
def Flags.keep (f : Flags) : Body.Keep :=
  ⟨f.content, f.binary⟩

/-- `har_headers`: the headers of a block with values as text, ill-formed parts replaced. -/
def headerPairs (h : Http.Headers) : List Archive.Pair :=
  h.toList.map fun (name, value) => { name, value := Text.lossy value }

/-- The size of a block. -/
def headersSize (h : Http.Headers) : Int64 :=
  Int64.ofNat h.wireSize

/-- `query_string`: the parameters of a URL. -/
def queryPairs (url : String) : List Archive.Pair :=
  (Url.queryPairs url).map fun (name, value) => { name, value }

/-- `request_cookies`: the cookies of a request. -/
def cookiesSent (h : Http.Headers) : List Archive.CookieRecord :=
  (h.getAll "cookie").filterMap Http.valueText? |>.flatMap fun text =>
    (Cookie.ofRequest text).map fun (name, value) => { name, value }

/-- A flag that is written only when it is set. -/
def whenSet (b : Bool) : Option Bool :=
  if b then some true else none

/-- A cookie as an archive keeps it. -/
def cookieRecord (c : Cookie) : Archive.CookieRecord :=
  { name := c.name
    value := c.value
    path := c.path
    domain := c.domain
    expires := c.expires
    httpOnly := whenSet c.httpOnly
    secure := whenSet c.secure }

/-- `response_cookies`: the cookies that a response sets, one for each value that sets one. -/
def cookiesSet (h : Http.Headers) : List Archive.CookieRecord :=
  ((h.getAll "set-cookie").filterMap Http.valueText?).filterMap fun text =>
    (Cookie.ofResponse? text).map cookieRecord

/-- `har_request`: the record of a request. -/
def requestRecord (flags : Flags) (r : Http.Request) : Archive.RequestRecord :=
  let url := r.uri.text
  { method := r.method
    url
    httpVersion := r.version.recordName
    cookies := if flags.headers then cookiesSent r.headers else []
    headers := if flags.headers then headerPairs r.headers else []
    queryString := queryPairs url
    postData := Body.postData r.headers r.body flags.keep
    headersSize := headersSize r.headers
    bodySize := Body.sizeOf r.body }

/-- `har_response`: the record of a response. -/
def responseRecord (flags : Flags) (r : Http.Response) : Archive.ResponseRecord :=
  { status := UInt16.ofNat r.status
    statusText := (Http.reasonPhrase? r.status).getD ""
    httpVersion := r.version.recordName
    cookies := if flags.headers then cookiesSet r.headers else []
    headers := if flags.headers then headerPairs r.headers else []
    content := Body.content r.headers r.body flags.keep
    redirectUrl := Http.Response.redirectTarget r.status r.headers
    headersSize := headersSize r.headers
    bodySize := Body.sizeOf r.body }

end Wirelog.Recording

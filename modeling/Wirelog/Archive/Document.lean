import Wirelog.Time.Instant
import Wirelog.Text.Ascii
/-!
The archive document (HAR 1.2): a log of pages and entries, one entry for each exchange. Sizes and
times are 64-bit integers in which −1 means "not measured". Parts that a document may leave out are
options; every other part has the value that its absence stands for.
-/
namespace Wirelog.Archive

/-- `NOT_MEASURED`: the value of a size or a time that was not measured. -/
def unmeasured : Int64 := -1

/-- `HarCreator`: a program that had a part in the document. -/
structure Program where
  /-- Its name. -/
  name : String := "har-proxy"
  /-- Its version. -/
  version : String := "0.1.0"
  /-- Free text. -/
  comment : Option String := none
deriving DecidableEq

/-- `HarPageTimings`: when the parts of a page were ready, in milliseconds after its start. -/
structure PageTimings where
  /-- The content was loaded. -/
  onContentLoad : Option Int64 := none
  /-- Everything was loaded. -/
  onLoad : Option Int64 := none
  /-- Free text. -/
  comment : Option String := none
deriving DecidableEq

/-- `HarPage`: a page, which groups entries. -/
structure Page where
  /-- The identifier that entries refer to. -/
  id : String
  /-- When the page was opened. -/
  started : Time.Instant
  /-- What the page is called. -/
  title : String := ""
  /-- When its parts were ready. -/
  timings : PageTimings := {}
  /-- Free text. -/
  comment : Option String := none
deriving DecidableEq

/-- `HarCookie`: a cookie of a message. -/
structure CookieRecord where
  /-- The name. -/
  name : String
  /-- The value. -/
  value : String
  /-- The path that the cookie is for. -/
  path : Option String := none
  /-- The domain that it is for. -/
  domain : Option String := none
  /-- When it ends. -/
  expires : Option String := none
  /-- Scripts cannot see it. -/
  httpOnly : Option Bool := none
  /-- It is sent over secure connections only. -/
  secure : Option Bool := none
  /-- Free text. -/
  comment : Option String := none
deriving DecidableEq

/-- `HarNameValuePair`: a header or a parameter of a query. -/
structure Pair where
  /-- The name. -/
  name : String
  /-- The value. -/
  value : String
  /-- Free text. -/
  comment : Option String := none
deriving DecidableEq

/-- `HarPostParam`: a field of a submitted form. -/
structure Param where
  /-- The name. -/
  name : String
  /-- The value. -/
  value : Option String := none
  /-- The name of a submitted file. -/
  fileName : Option String := none
  /-- The media type of a submitted file. -/
  contentType : Option String := none
deriving DecidableEq

/-- `HarPostData`: the body of a request. -/
structure PostData where
  /-- Its media type. -/
  mimeType : String
  /-- The fields of a form. -/
  params : List Param := []
  /-- The body as text. -/
  text : String := ""
  /-- Free text. -/
  comment : Option String := none
deriving DecidableEq

/-- `HarRequest`: a request. -/
structure RequestRecord where
  /-- The method. -/
  method : String
  /-- The URL. -/
  url : String
  /-- The protocol version. -/
  httpVersion : String := ""
  /-- The cookies sent. -/
  cookies : List CookieRecord := []
  /-- The headers. -/
  headers : List Pair := []
  /-- The parameters of the URL. -/
  queryString : List Pair := []
  /-- The body, when it is recorded. -/
  postData : Option PostData := none
  /-- The size of the header block. -/
  headersSize : Int64 := unmeasured
  /-- The size of the body on the wire. -/
  bodySize : Int64 := unmeasured
  /-- Free text. -/
  comment : Option String := none
deriving DecidableEq

/-- `HarContent`: the body of a response. -/
structure Content where
  /-- Its size after its encoding was undone. -/
  size : Int64 := 0
  /-- The octets that the encoding saved. -/
  compression : Option Int64 := none
  /-- Its media type. -/
  mimeType : String := ""
  /-- The body, when it is recorded. -/
  text : Option String := none
  /-- How `text` is to be decoded. -/
  encoding : Option String := none
  /-- Free text. -/
  comment : Option String := none
deriving DecidableEq

/-- `HarResponse`: a response. Without one, the status is 0. -/
structure ResponseRecord where
  /-- The status code. -/
  status : UInt16 := 0
  /-- The phrase of the status code. -/
  statusText : String := ""
  /-- The protocol version. -/
  httpVersion : String := ""
  /-- The cookies set. -/
  cookies : List CookieRecord := []
  /-- The headers. -/
  headers : List Pair := []
  /-- The body. -/
  content : Content := {}
  /-- Where a redirect leads. -/
  redirectUrl : String := ""
  /-- The size of the header block. -/
  headersSize : Int64 := unmeasured
  /-- The size of the body on the wire. -/
  bodySize : Int64 := unmeasured
  /-- Free text. -/
  comment : Option String := none
  /-- Why there is no response. -/
  error : Option String := none
deriving DecidableEq

/-- `HarCache`: what caches did, of which nothing but a remark is kept. -/
structure CacheRecord where
  /-- Free text. -/
  comment : Option String := none
deriving DecidableEq

/-- `HarTimings`: the phases of an exchange in milliseconds. -/
structure Timings where
  /-- Waiting for a connection. -/
  blocked : Int64 := unmeasured
  /-- Looking up the host. -/
  dns : Int64 := unmeasured
  /-- Connecting, the TLS handshake included. -/
  connect : Int64 := unmeasured
  /-- Sending the request. -/
  send : Int64 := 0
  /-- Waiting for the response to start. -/
  wait : Int64 := 0
  /-- Receiving the response. -/
  receive : Int64 := 0
  /-- The TLS handshake alone. -/
  ssl : Int64 := unmeasured
  /-- Free text. -/
  comment : Option String := none
deriving DecidableEq

/-- The phases that make up the time of an exchange. The TLS handshake is part of connecting. -/
def Timings.phases (t : Timings) : List Int64 :=
  [t.blocked, t.dns, t.connect, t.send, t.wait, t.receive]

/-- The sum of two numbers; `none` when the addition overflows, which is a panic. -/
def add? (a b : Int64) : Option Int64 :=
  if (a + b).toInt = a.toInt + b.toInt then some (a + b) else none

/-- `HarTimings::total`: the sum of the measured phases, `none` when an addition overflows. -/
def Timings.total? (t : Timings) : Option Int64 :=
  (t.phases.filter (0 ≤ ·)).foldlM add? 0

/-- `HarEntry`: an exchange. -/
structure Entry where
  /-- The page that the exchange belongs to. -/
  pageref : Option String := none
  /-- When the exchange began. -/
  started : Time.Instant
  /-- How long it took in milliseconds. -/
  time : Int64 := 0
  /-- The request. -/
  request : RequestRecord
  /-- The response. -/
  response : ResponseRecord := {}
  /-- What caches did. -/
  cache : CacheRecord := {}
  /-- The phases of the exchange. -/
  timings : Timings := {}
  /-- The address that was connected to. -/
  serverAddress : Option String := none
  /-- The client connection that the request came over. -/
  connection : Option String := none
  /-- Free text. -/
  comment : Option String := none
deriving DecidableEq

/-- `HarLog`: a document. -/
structure Log where
  /-- The version of the format. -/
  version : String := "1.2"
  /-- The program that made the document. -/
  creator : Program := {}
  /-- The browser whose traffic it is. -/
  browser : Option Program := none
  /-- The pages in order of creation. -/
  pages : List Page := []
  /-- The entries in order of their beginning. -/
  entries : List Entry := []
  /-- Free text. -/
  comment : Option String := none
deriving DecidableEq

namespace Log

/-- The document without entries and pages. -/
def empty : Log := {}

instance : Inhabited Log := ⟨empty⟩

/-- `Har::filter_pages`: the document restricted to some pages. An entry stays when it names one of
the pages that stay. -/
def onPages (log : Log) (refs : List String) : Log :=
  let pages := log.pages.filter fun p => refs.contains p.id
  let stays (e : Entry) : Bool := match e.pageref with
    | some ref => refs.contains ref && pages.any (·.id == ref)
    | none => false
  { log with pages, entries := log.entries.filter stays }

end Log

end Wirelog.Archive

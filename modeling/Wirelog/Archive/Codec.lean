import Wirelog.Archive.Document
import Wirelog.Json.Parser
import Wirelog.Json.Printer
/-!
The JSON form of archive documents. Writing puts the members of each record in a fixed order and
leaves out options without a value. Reading takes the members of a record in any order, passes over
members that the record does not define, and refuses one that comes twice; a record may also be
given as an array of its parts in the order in which they are written. Only parts with a value for
their absence may be missing, and only options may be `null`.
-/
namespace Wirelog.Archive

open Json (member)

/-! ### Records in general -/

/-- The member of a name: `none` when it comes more than once, otherwise its value if it is
there. -/
def memberOf (name : String) (members : List (Spelling × Json)) : Option (Option Json) :=
  match members.filter fun m => m.1 == some name with
  | [] => some none
  | [m] => some (some m.2)
  | _ => none

/-- The parts of a record by the names that it defines, in their order. Every name in an object has
to be a proper one, and an array may not be longer than the record. -/
def partsOf (names : List String) : Json → Option (List (Option Json))
  | .obj members =>
    if members.all (·.1.isSome) then names.mapM fun name => memberOf name members else none
  | .arr items =>
    if items.length ≤ names.length then
      some (items.map some ++ List.replicate (names.length - items.length) none)
    else none
  | _ => none

/-- A part that has to be there. -/
def required {α : Type} (read : Json → Option α) : Option Json → Option α
  | some j => read j
  | none => none

/-- A part whose absence stands for a value. -/
def orElse {α : Type} (absent : α) (read : Json → Option α) : Option Json → Option α
  | some j => read j
  | none => some absent

/-- An option: absence and `null` are the same. -/
def optional {α : Type} (read : Json → Option α) : Option Json → Option (Option α)
  | some .null | none => some none
  | some j => (read j).map some

/-- The member of an option, if it has a value. -/
def whenSome {α : Type} (name : String) (write : α → Json) : Option α → List (Spelling × Json)
  | some a => [member name (write a)]
  | none => []

/-! ### Plain values -/

/-- Reads a string. -/
def readText : Json → Option String
  | .str s => s
  | _ => none

/-- Reads a truth value. -/
def readBool : Json → Option Bool
  | .bool b => some b
  | _ => none

/-- Reads a 64-bit integer. -/
def readInt : Json → Option Int64
  | .int i =>
    if Int64.minValue.toInt ≤ i ∧ i ≤ Int64.maxValue.toInt then some (Int64.ofInt i) else none
  | _ => none

/-- Reads a status code. -/
def readStatus : Json → Option UInt16
  | .int i => if 0 ≤ i ∧ i.toNat < UInt16.size then some (UInt16.ofNat i.toNat) else none
  | _ => none

/-- Reads a point in time. -/
def readInstant : Json → Option Time.Instant
  | .str (some s) => Time.Instant.parse? s
  | _ => none

/-- Reads an array of values. -/
def readList {α : Type} (read : Json → Option α) : Json → Option (List α)
  | .arr items => items.mapM read
  | _ => none

/-- Writes a 64-bit integer. -/
def writeInt (i : Int64) : Json :=
  .int i.toInt

/-- Writes an array of values. -/
def writeList {α : Type} (write : α → Json) (l : List α) : Json :=
  .arr (l.map write)

/-! ### The records of the document -/

/-- Writes a program. -/
def Program.toJson (p : Program) : Json :=
  .obj ([member "name" (.text p.name), member "version" (.text p.version)] ++
    whenSome "comment" .text p.comment)

/-- Reads a program. -/
def Program.ofJson? (j : Json) : Option Program := do
  match ← partsOf ["name", "version", "comment"] j with
  | [name, version, comment] =>
    some {
      name := ← required readText name
      version := ← required readText version
      comment := ← optional readText comment }
  | _ => none

/-- Writes the timings of a page. -/
def PageTimings.toJson (t : PageTimings) : Json :=
  .obj (whenSome "onContentLoad" writeInt t.onContentLoad ++ whenSome "onLoad" writeInt t.onLoad ++
    whenSome "comment" .text t.comment)

/-- Reads the timings of a page. -/
def PageTimings.ofJson? (j : Json) : Option PageTimings := do
  match ← partsOf ["onContentLoad", "onLoad", "comment"] j with
  | [onContentLoad, onLoad, comment] =>
    some {
      onContentLoad := ← optional readInt onContentLoad
      onLoad := ← optional readInt onLoad
      comment := ← optional readText comment }
  | _ => none

/-- Writes a page. -/
def Page.toJson (p : Page) : Json :=
  .obj ([member "id" (.text p.id), member "startedDateTime" (.text p.started.text),
    member "title" (.text p.title), member "pageTimings" p.timings.toJson] ++
    whenSome "comment" .text p.comment)

/-- Reads a page. -/
def Page.ofJson? (j : Json) : Option Page := do
  match ← partsOf ["id", "startedDateTime", "title", "pageTimings", "comment"] j with
  | [id, started, title, timings, comment] =>
    some {
      id := ← required readText id
      started := ← required readInstant started
      title := ← orElse "" readText title
      timings := ← orElse {} PageTimings.ofJson? timings
      comment := ← optional readText comment }
  | _ => none

/-- Writes a cookie. -/
def CookieRecord.toJson (c : CookieRecord) : Json :=
  .obj ([member "name" (.text c.name), member "value" (.text c.value)] ++
    whenSome "path" .text c.path ++ whenSome "domain" .text c.domain ++
    whenSome "expires" .text c.expires ++ whenSome "httpOnly" .bool c.httpOnly ++
    whenSome "secure" .bool c.secure ++ whenSome "comment" .text c.comment)

/-- Reads a cookie. -/
def CookieRecord.ofJson? (j : Json) : Option CookieRecord := do
  match ← partsOf ["name", "value", "path", "domain", "expires", "httpOnly", "secure",
      "comment"] j with
  | [name, value, path, domain, expires, httpOnly, secure, comment] =>
    some {
      name := ← required readText name
      value := ← required readText value
      path := ← optional readText path
      domain := ← optional readText domain
      expires := ← optional readText expires
      httpOnly := ← optional readBool httpOnly
      secure := ← optional readBool secure
      comment := ← optional readText comment }
  | _ => none

/-- Writes a pair. -/
def Pair.toJson (p : Pair) : Json :=
  .obj ([member "name" (.text p.name), member "value" (.text p.value)] ++
    whenSome "comment" .text p.comment)

/-- Reads a pair. -/
def Pair.ofJson? (j : Json) : Option Pair := do
  match ← partsOf ["name", "value", "comment"] j with
  | [name, value, comment] =>
    some {
      name := ← required readText name
      value := ← required readText value
      comment := ← optional readText comment }
  | _ => none

/-- Writes a field of a form. -/
def Param.toJson (p : Param) : Json :=
  .obj ([member "name" (.text p.name)] ++ whenSome "value" .text p.value ++
    whenSome "fileName" .text p.fileName ++ whenSome "contentType" .text p.contentType)

/-- Reads a field of a form. -/
def Param.ofJson? (j : Json) : Option Param := do
  match ← partsOf ["name", "value", "fileName", "contentType"] j with
  | [name, value, fileName, contentType] =>
    some {
      name := ← required readText name
      value := ← optional readText value
      fileName := ← optional readText fileName
      contentType := ← optional readText contentType }
  | _ => none

/-- Writes the body of a request. -/
def PostData.toJson (p : PostData) : Json :=
  .obj ([member "mimeType" (.text p.mimeType), member "params" (writeList Param.toJson p.params),
    member "text" (.text p.text)] ++ whenSome "comment" .text p.comment)

/-- Reads the body of a request. -/
def PostData.ofJson? (j : Json) : Option PostData := do
  match ← partsOf ["mimeType", "params", "text", "comment"] j with
  | [mimeType, params, text, comment] =>
    some {
      mimeType := ← required readText mimeType
      params := ← orElse [] (readList Param.ofJson?) params
      text := ← orElse "" readText text
      comment := ← optional readText comment }
  | _ => none

/-- Writes a request. -/
def RequestRecord.toJson (r : RequestRecord) : Json :=
  .obj ([member "method" (.text r.method), member "url" (.text r.url),
    member "httpVersion" (.text r.httpVersion),
    member "cookies" (writeList CookieRecord.toJson r.cookies),
    member "headers" (writeList Pair.toJson r.headers),
    member "queryString" (writeList Pair.toJson r.queryString)] ++
    whenSome "postData" PostData.toJson r.postData ++
    [member "headersSize" (writeInt r.headersSize), member "bodySize" (writeInt r.bodySize)] ++
    whenSome "comment" .text r.comment)

/-- Reads a request. -/
def RequestRecord.ofJson? (j : Json) : Option RequestRecord := do
  match ← partsOf ["method", "url", "httpVersion", "cookies", "headers", "queryString", "postData",
      "headersSize", "bodySize", "comment"] j with
  | [method, url, httpVersion, cookies, headers, queryString, postData, headersSize, bodySize,
      comment] =>
    some {
      method := ← required readText method
      url := ← required readText url
      httpVersion := ← orElse "" readText httpVersion
      cookies := ← orElse [] (readList CookieRecord.ofJson?) cookies
      headers := ← orElse [] (readList Pair.ofJson?) headers
      queryString := ← orElse [] (readList Pair.ofJson?) queryString
      postData := ← optional PostData.ofJson? postData
      headersSize := ← orElse unmeasured readInt headersSize
      bodySize := ← orElse unmeasured readInt bodySize
      comment := ← optional readText comment }
  | _ => none

/-- Writes the body of a response. -/
def Content.toJson (c : Content) : Json :=
  .obj ([member "size" (writeInt c.size)] ++ whenSome "compression" writeInt c.compression ++
    [member "mimeType" (.text c.mimeType)] ++ whenSome "text" .text c.text ++
    whenSome "encoding" .text c.encoding ++ whenSome "comment" .text c.comment)

/-- Reads the body of a response. -/
def Content.ofJson? (j : Json) : Option Content := do
  match ← partsOf ["size", "compression", "mimeType", "text", "encoding", "comment"] j with
  | [size, compression, mimeType, text, encoding, comment] =>
    some {
      size := ← orElse 0 readInt size
      compression := ← optional readInt compression
      mimeType := ← orElse "" readText mimeType
      text := ← optional readText text
      encoding := ← optional readText encoding
      comment := ← optional readText comment }
  | _ => none

/-- Writes a response. -/
def ResponseRecord.toJson (r : ResponseRecord) : Json :=
  .obj ([member "status" (.nat r.status.toNat), member "statusText" (.text r.statusText),
    member "httpVersion" (.text r.httpVersion),
    member "cookies" (writeList CookieRecord.toJson r.cookies),
    member "headers" (writeList Pair.toJson r.headers), member "content" r.content.toJson,
    member "redirectURL" (.text r.redirectUrl), member "headersSize" (writeInt r.headersSize),
    member "bodySize" (writeInt r.bodySize)] ++
    whenSome "comment" .text r.comment ++ whenSome "_error" .text r.error)

/-- Reads a response. -/
def ResponseRecord.ofJson? (j : Json) : Option ResponseRecord := do
  match ← partsOf ["status", "statusText", "httpVersion", "cookies", "headers", "content",
      "redirectURL", "headersSize", "bodySize", "comment", "_error"] j with
  | [status, statusText, httpVersion, cookies, headers, content, redirectUrl, headersSize, bodySize,
      comment, error] =>
    some {
      status := ← required readStatus status
      statusText := ← orElse "" readText statusText
      httpVersion := ← orElse "" readText httpVersion
      cookies := ← orElse [] (readList CookieRecord.ofJson?) cookies
      headers := ← orElse [] (readList Pair.ofJson?) headers
      content := ← orElse {} Content.ofJson? content
      redirectUrl := ← orElse "" readText redirectUrl
      headersSize := ← orElse unmeasured readInt headersSize
      bodySize := ← orElse unmeasured readInt bodySize
      comment := ← optional readText comment
      error := ← optional readText error }
  | _ => none

/-- Writes what caches did. -/
def CacheRecord.toJson (c : CacheRecord) : Json :=
  .obj (whenSome "comment" .text c.comment)

/-- Reads what caches did. -/
def CacheRecord.ofJson? (j : Json) : Option CacheRecord := do
  match ← partsOf ["comment"] j with
  | [comment] => some { comment := ← optional readText comment }
  | _ => none

/-- Writes the phases of an exchange. -/
def Timings.toJson (t : Timings) : Json :=
  .obj ([member "blocked" (writeInt t.blocked), member "dns" (writeInt t.dns),
    member "connect" (writeInt t.connect), member "send" (writeInt t.send),
    member "wait" (writeInt t.wait), member "receive" (writeInt t.receive),
    member "ssl" (writeInt t.ssl)] ++ whenSome "comment" .text t.comment)

/-- Reads the phases of an exchange. -/
def Timings.ofJson? (j : Json) : Option Timings := do
  match ← partsOf ["blocked", "dns", "connect", "send", "wait", "receive", "ssl", "comment"] j with
  | [blocked, dns, connect, send, wait, receive, ssl, comment] =>
    some {
      blocked := ← orElse unmeasured readInt blocked
      dns := ← orElse unmeasured readInt dns
      connect := ← orElse unmeasured readInt connect
      send := ← orElse 0 readInt send
      wait := ← orElse 0 readInt wait
      receive := ← orElse 0 readInt receive
      ssl := ← orElse unmeasured readInt ssl
      comment := ← optional readText comment }
  | _ => none

/-- Writes an exchange. -/
def Entry.toJson (e : Entry) : Json :=
  .obj (whenSome "pageref" .text e.pageref ++
    [member "startedDateTime" (.text e.started.text), member "time" (writeInt e.time),
      member "request" e.request.toJson, member "response" e.response.toJson,
      member "cache" e.cache.toJson, member "timings" e.timings.toJson] ++
    whenSome "serverIPAddress" .text e.serverAddress ++
    whenSome "connection" .text e.connection ++ whenSome "comment" .text e.comment)

/-- Reads an exchange. -/
def Entry.ofJson? (j : Json) : Option Entry := do
  match ← partsOf ["pageref", "startedDateTime", "time", "request", "response", "cache", "timings",
      "serverIPAddress", "connection", "comment"] j with
  | [pageref, started, time, request, response, cache, timings, serverAddress, connection,
      comment] =>
    some {
      pageref := ← optional readText pageref
      started := ← required readInstant started
      time := ← orElse 0 readInt time
      request := ← required RequestRecord.ofJson? request
      response := ← required ResponseRecord.ofJson? response
      cache := ← orElse {} CacheRecord.ofJson? cache
      timings := ← orElse {} Timings.ofJson? timings
      serverAddress := ← optional readText serverAddress
      connection := ← optional readText connection
      comment := ← optional readText comment }
  | _ => none

namespace Log

/-- Writes the log itself. -/
def toJson (log : Log) : Json :=
  .obj ([member "version" (.text log.version), member "creator" log.creator.toJson] ++
    whenSome "browser" Program.toJson log.browser ++
    [member "pages" (writeList Page.toJson log.pages),
      member "entries" (writeList Entry.toJson log.entries)] ++
    whenSome "comment" .text log.comment)

/-- Reads the log itself. -/
def ofJson? (j : Json) : Option Log := do
  match ← partsOf ["version", "creator", "browser", "pages", "entries", "comment"] j with
  | [version, creator, browser, pages, entries, comment] =>
    some {
      version := ← orElse "1.2" readText version
      creator := ← orElse {} Program.ofJson? creator
      browser := ← optional Program.ofJson? browser
      pages := ← orElse [] (readList Page.ofJson?) pages
      entries := ← orElse [] (readList Entry.ofJson?) entries
      comment := ← optional readText comment }
  | _ => none

/-- The whole document: a record whose only part is the log. -/
def document (log : Log) : Json :=
  .obj [member "log" log.toJson]

/-- Reads a whole document. -/
def ofDocument? (j : Json) : Option Log := do
  match ← partsOf ["log"] j with
  | [log] => required ofJson? log
  | _ => none

/-- `save_har`: the text of the document as it is saved. -/
def save (log : Log) : String :=
  log.document.pretty

/-- Reads the text of a document. -/
def load? (text : String) : Option Log :=
  (Json.parse? text).bind ofDocument?

end Log

/-- Why a file holds no document. -/
inductive LoadError where
  /-- The octets are no text. -/
  | unreadable
  /-- The text is no document. -/
  | malformed
deriving DecidableEq

/-- `load_har`: reads the octets of a file. -/
def Log.loadFile (octets : ByteArray) : Except LoadError Log :=
  match String.fromUTF8? octets with
  | none => .error .unreadable
  | some text =>
    match Log.load? text with
    | none => .error .malformed
    | some log => .ok log

end Wirelog.Archive

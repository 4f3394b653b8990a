import Wirelog.Handling.Basic
/-!
The URL of a request. Clients name only a path when they speak to a server itself, so the host has
to come from elsewhere: from the `host` header, the target, or the tunnel. All rules and records go
by the full URL.
-/
namespace Wirelog
namespace Handling

/-- The end of an authority that only repeats the default port. -/
def defaultPortText (secure : Bool) : String :=
  if secure then ":443" else ":80"

/-- `strip_default_port`: an authority without the default port of its scheme at its end. -/
def dropDefaultPort (secure : Bool) (authority : String) : String :=
  match Text.dropSuffix? (defaultPortText secure).toList authority.toList with
  | some rest => String.ofList rest
  | none => authority

/-- The authority that a request is for: what its first `host` header says if it is text, else the
authority of its target, else that of the tunnel. -/
def authorityFor (h : Handling) (r : Http.Request) : String :=
  ((r.headers.text? "host").or
    ((if r.uri.authority.isEmpty then none else some r.uri.authority).or h.tunnel)).getD "localhost"

/-- The text of the full URL of a request that names no scheme. -/
def fullUrlText (h : Handling) (r : Http.Request) : String :=
  h.scheme.text ++ "://" ++ dropDefaultPort h.secure (h.authorityFor r) ++
    r.uri.pathQueryText

/-- The full URL of a request; `none` when its parts do not make one. -/
def fullUrl? (h : Handling) (r : Http.Request) : Option Http.Uri :=
  if r.uri.scheme.isSome then some r.uri else Http.Uri.parse? (h.fullUrlText r)

/-- The answer to a request without a URL. -/
def badUrl : Http.Response :=
  .synthetic 400 (Bytes.ofText "invalid request URL")

end Handling

/-- `NormalizeUrl`: gives requests their full URLs. -/
def Stage.address : Stage where
  name := "normalize_url"
  onRequest _ p :=
    match p.handling.fullUrl? p.message with
    | some uri => ({ p with message := { p.message with uri } }, none)
    | none => (p, some Handling.badUrl)

end Wirelog

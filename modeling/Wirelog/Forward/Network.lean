import Wirelog.Forward.Clock
import Wirelog.Forward.Tunnel
import Wirelog.Http.Message
import Wirelog.Resolution.Book
/-!
What a request that is sent on needs from outside. A network answers each call and tells how long
the answer takes, so everything that is decided here can be computed from it.
-/
namespace Wirelog.Forward

/-- A connection to a host: the address, and what is spoken on the way to it. -/
structure Wire where
  /-- The address that was connected to. -/
  address : Net.Ip
  /-- The port. -/
  port : Nat
  /-- The host and port of the tunnel, when there is one. -/
  tunnel : Option (String × Nat) := none
  /-- The host of the TLS handshake, when there was one. -/
  secured : Option String := none
deriving DecidableEq

/-- The head of a response. -/
structure Head where
  /-- The status. -/
  status : Nat
  /-- The protocol version. -/
  version : Http.Version := .http11
  /-- The headers. -/
  headers : Http.Headers := .empty
  /-- The body that follows, or how it breaks off. -/
  body : Reply (Except String Bytes) := ⟨.ok .empty, some 0⟩

/-- A network. Errors are texts. -/
structure Network where
  /-- Looks up the addresses of a host. -/
  lookup : String → Reply Resolution.Lookup
  /-- Tries to connect to an address; attempts are counted from zero. -/
  connect : Net.Ip → Nat → Nat → Reply (Except String Unit)
  /-- What another proxy sends when it is asked for a tunnel, unless it cannot even be asked. -/
  tunnel : Wire → String → Except String (Reply Transcript)
  /-- A TLS handshake with a host, with or without checking its certificate. -/
  handshake : Wire → String → Bool → Reply (Except String Unit)
  /-- Starts to speak the protocol over a connection. -/
  greet : Wire → Except String Unit
  /-- Sends a request and waits for the head of the response. -/
  send : Wire → Http.Request → Reply (Except String Head)

/-- The network of a machine that is not connected to any: no host has an address, and no address
can be reached. -/
def Network.unplugged : Network where
  lookup _ := ⟨.failed "failed to lookup address information: Name or service not known", some 0⟩
  connect _ _ _ := ⟨.error "Network is unreachable (os error 101)", some 0⟩
  tunnel _ _ := .error "Broken pipe (os error 32)"
  handshake _ _ _ := ⟨.error "tls handshake eof", some 0⟩
  greet _ := .ok ()
  send _ _ := ⟨.error "connection closed before message completed", some 0⟩

end Wirelog.Forward

import Wirelog.Text.Ascii
/-!
How sending a request on can fail.
-/
namespace Wirelog.Forward

/-- What was waited for when the time was over. -/
inductive Wait where
  | request
  | connect
  | tls
  | tunnel
  | headers
  | body
deriving DecidableEq

/-- The wait in words. -/
def Wait.text : Wait → String
  | request => "request"
  | connect => "connect"
  | tls => "tls handshake"
  | tunnel => "upstream proxy tunnel"
  | headers => "response headers"
  | body => "response body"

/-- `UpstreamError`: a failure. -/
inductive Failure where
  /-- The host has no address. -/
  | unresolved (host reason : String)
  /-- No attempt to connect succeeded. -/
  | unreachable (target : String) (attempts : Nat) (reason : String)
  /-- The TLS handshake failed. -/
  | handshake (host reason : String)
  /-- A limit of time was passed. -/
  | timeout (wait : Wait)
  /-- The messages were not as the protocol demands. -/
  | protocol (reason : String)
  /-- Another proxy did not open a tunnel. -/
  | tunnelRefused (reason : String)
deriving DecidableEq

namespace Failure

/-- The failure in words. -/
def message : Failure → String
  | unresolved host reason => "dns resolution failed for " ++ host ++ ": " ++ reason
  | unreachable target attempts reason =>
    "connection to " ++ target ++ " failed after " ++ Text.natText attempts ++ " attempt(s): " ++
      reason
  | handshake host reason => "tls handshake with " ++ host ++ " failed: " ++ reason
  | timeout wait => "timed out waiting for " ++ wait.text
  | protocol reason => "upstream protocol error: " ++ reason
  | tunnelRefused reason => "upstream proxy refused tunnel: " ++ reason

/-- `UpstreamError::status_code`: the status of the answer to the client. -/
def status : Failure → Nat
  | timeout _ => 504
  | _ => 502

end Failure
end Wirelog.Forward

import Wirelog.Authority.Basic
import Wirelog.Forward.Options
import Wirelog.Handling.Interceptor
import Wirelog.Policy.Update
import Wirelog.Resolution.Book
import Wirelog.Pacing.Limits
/-!
A running proxy and its control calls. A control call that is refused changes nothing.
-/
namespace Wirelog

/-- `ProxyServer`: a running proxy. -/
structure Gateway where
  /-- What it records. -/
  recorder : Recording.Recorder := {}
  /-- Its policy. -/
  policy : Policy := {}
  /-- Limits of the traffic with servers. -/
  limits : Pacing.Limits := {}
  /-- How it sends requests on. -/
  options : Forward.Options := {}
  /-- The addresses that it remembers. -/
  book : Resolution.Book := {}
  /-- Its interceptors. -/
  interceptors : Interceptors := {}
  /-- The authority for intercepted hosts; without one nothing is intercepted. -/
  authority : Option Authority := none
  /-- Ends of host names, in lower case, whose tunnels are never decrypted. -/
  exempt : List String := []

namespace Gateway

/-- A control call. -/
inductive Control where
  /-- Change the policy. -/
  | policy (update : Policy.Update)
  /-- Change the limits. -/
  | limits (update : Pacing.Limits.Update)
  /-- Change how requests are sent on. -/
  | options (update : Forward.Options.Update)
  /-- Forget all addresses. -/
  | clearAddresses
  /-- Change how long addresses are remembered. -/
  | addressLifetime (ms : UInt64)
  /-- Change what is recorded. -/
  | flags (flags : Recording.Flags)
  /-- Add an interceptor. -/
  | interceptRequests (f : RequestInterceptor)
  | interceptResponses (f : ResponseInterceptor)
  /-- Remove all interceptors. -/
  | clearInterceptors

/-- What a change of the policy does to the remembered addresses: a host with a new stand-in is
forgotten. -/
def forgetFor (b : Resolution.Book) : Policy.Update → Resolution.Book
  | .remap host _ => b.forget host
  | _ => b

/-- The proxy after a control call. -/
def control (g : Gateway) : Control → Except Refusal Gateway
  | .policy update => do
    let policy ← g.policy.update update
    return { g with policy, book := forgetFor g.book update }
  | .limits update => do
    let limits ← g.limits.update update
    return { g with limits }
  | .options update => do
    let options ← g.options.update update
    return { g with options }
  | .clearAddresses => .ok { g with book := g.book.clear }
  | .addressLifetime ms =>
    .ok { g with book := g.book.setLifetime (Time.Span.ofMillis ms.toNat) }
  | .flags flags => .ok { g with recorder := { g.recorder with flags } }
  | .interceptRequests f =>
    .ok { g with
      interceptors := { g.interceptors with requests := g.interceptors.requests ++ [f] } }
  | .interceptResponses f =>
    .ok { g with
      interceptors := { g.interceptors with responses := g.interceptors.responses ++ [f] } }
  | .clearInterceptors => .ok { g with interceptors := {} }

/-- Several control calls; the first refusal ends them. -/
def controlAll (g : Gateway) (calls : List Control) : Except Refusal Gateway :=
  calls.foldlM control g

/-- `Shared::is_passthrough`: whether tunnels to a host are left alone by their names. -/
def isExempt (g : Gateway) (host : String) : Bool :=
  let name := (Text.asciiLower host).toList
  g.exempt.any fun tail => (Text.dropSuffix? tail.toList name).isSome

end Gateway
end Wirelog

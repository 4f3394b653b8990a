import Wirelog.Forward.Failure
import Wirelog.Text.Blank
import Wirelog.Text.Split
import Wirelog.Text.Utf8
/-!
Tunnels through other proxies. A tunnel is asked for by a head of two lines, and granted by a head
with a status of success. The answer is read octet by octet, so that nothing of what comes through
the tunnel is taken with it.
-/
namespace Wirelog.Forward

/-- `MAX_TUNNEL_RESPONSE`: the greatest number of octets of the answer. -/
def maxHead : Nat := 8192

/-- How the octets of the other side end. -/
inductive Ending where
  /-- It closes the connection. -/
  | closed
  /-- The connection breaks. -/
  | broken (reason : String)
deriving DecidableEq

/-- What the other side sends, all of it. -/
structure Transcript where
  /-- The octets in order. -/
  octets : List UInt8
  /-- What comes after them. -/
  ending : Ending := .closed
deriving DecidableEq

/-- The octets that end a head, last one first. -/
def headEnd : List UInt8 :=
  [10, 13, 10, 13]

/-- Whether octets end a head; they are given last one first. -/
def endsHead (back : List UInt8) : Bool :=
  headEnd.isPrefixOf back

/-- The failure at the end of the octets. -/
def Ending.failure : Ending → Failure
  | .closed => .tunnelRefused "connection closed during CONNECT"
  | .broken reason => .tunnelRefused reason

/-- `read_head`: reads a head, of which `back` has been read by now, last octet first: the head and
the octets after it. `room` is how many more octets it may have. -/
def takeHead (ending : Ending) (back : List UInt8) :
    Nat → List UInt8 → Except Failure (List UInt8) × List UInt8
  | room, octets =>
    if endsHead back then (.ok back.reverse, octets)
    else match room, octets with
      | 0, octets => (.error (.tunnelRefused "oversized CONNECT response"), octets)
      | _ + 1, [] => (.error ending.failure, [])
      | room + 1, b :: rest => takeHead ending (b :: back) room rest

/-- The first line of a head. -/
def firstLine (head : String) : String :=
  let line := head.toList.takeWhile (· != '\n')
  String.ofList (match line.reverse with
    | '\r' :: back => back.reverse
    | _ => line)

/-- The status in the first line of a head: its second word. -/
def statusOf (line : String) : Option Nat :=
  ((Text.words Text.isBlank line.toList)[1]?).bind (Text.word? 16)

/-- Whether a head grants a tunnel. -/
def grants (line : String) : Bool :=
  match statusOf line with
  | some s => 200 ≤ s && s < 300
  | none => false

/-- The head that asks for a tunnel. -/
def tunnelRequest (host : String) (port : Nat) : String :=
  let target := host ++ ":" ++ Text.natText port
  "CONNECT " ++ target ++ " HTTP/1.1\r\nHost: " ++ target ++ "\r\n\r\n"

/-- `open_tunnel`: what the answer of the other side comes to, and the octets that are left for the
tunnel. -/
def negotiate (t : Transcript) : Except Failure Unit × List UInt8 :=
  match takeHead t.ending [] maxHead t.octets with
  | (.error f, rest) => (.error f, rest)
  | (.ok head, rest) =>
    let line := firstLine (Text.lossy (Bytes.ofOctets head))
    if grants line then (.ok (), rest) else (.error (.tunnelRefused line), rest)

end Wirelog.Forward

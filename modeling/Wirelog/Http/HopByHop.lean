import Wirelog.Http.Headers
import Wirelog.Text.Split
/-!
Headers that concern one connection only. A proxy takes them out of everything it passes on: those
of a fixed list, and those that the `connection` header names.
-/
namespace Wirelog.Http

/-- The names that always concern one connection only. -/
def hopByHopNames : List String :=
  ["connection", "keep-alive", "proxy-authenticate", "proxy-authorization", "proxy-connection",
    "te", "trailer", "transfer-encoding", "upgrade"]

/-- The names in a list between commas, in lower case. Empty places count for nothing. -/
def namesIn (list : String) : List String :=
  ((Text.splitOn ',' list.toList).map fun part =>
    Text.asciiLower (String.ofList (Text.trimList part))).filter fun name => !name.isEmpty

namespace Headers

/-- `parse_connection_tokens`: the names that the `connection` header of a block gives: its first
value counts, if it is text. -/
def connectionNames (h : Headers) : List String :=
  match h.text? "connection" with
  | some list => namesIn list
  | none => []

/-- `is_hop_by_hop_header`: whether a name of a block concerns one connection only. -/
def isHopByHop (h : Headers) (name : String) : Bool :=
  h.connectionNames.contains name || hopByHopNames.contains name

/-- `strip_hop_by_hop`: the block without the headers that concern one connection only. They are
taken out one after another in the order of their slots. -/
def forwarded (h : Headers) : Headers :=
  (h.names.filter h.isHopByHop).foldl remove h

end Headers
end Wirelog.Http

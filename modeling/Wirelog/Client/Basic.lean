import Wirelog.Client.Identity
import Wirelog.Net.Endpoint
/-!
Connections of clients. All exchanges of a connection, those in a tunnel included, are counted
together and carry its identifier.
-/
namespace Wirelog

/-- `ConnectionMetadata`: a connection of a client. -/
structure Client where
  /-- Its identifier, which is also its label in archives. -/
  id : String
  /-- Where the client is. -/
  remote : Net.Endpoint
  /-- The number of its exchanges so far. -/
  exchanges : Nat := 0

namespace Client

/-- `ConnectionMetadata::next_exchange`: counts one more exchange: the connection and the position
of the exchange, from one on. -/
def countExchange (c : Client) : Client × Nat :=
  ({ c with exchanges := c.exchanges + 1 }, c.exchanges + 1)

/-- Counts several exchanges: the connection and their positions. -/
def count : Nat → Client → Client × List Nat
  | 0, c => (c, [])
  | n + 1, c =>
    let (c, first) := c.countExchange
    let (c, rest) := count n c
    (c, first :: rest)

end Client
end Wirelog

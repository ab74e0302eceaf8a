import SignOn.Connection.Basic
import SignOn.Table

/-!
# Connection cache

The cache keeps one connection for each user. A connection is given out until its time to live has
passed; reading does not prolong it. Connections that are out of date are dropped whenever one is
stored. A cached connection counts for a context only if it belongs to the same session.
-/

namespace SignOn

/-- A connection and when it was stored. -/
structure CachedConnection where
  connection : Connection
  storedAt : Int

/-- Connections by user id. -/
structure ConnectionCache where
  connections : Table CachedConnection := .empty
  /-- How long a connection is given out after it was stored. -/
  timeToLive : Int

namespace ConnectionCache

/-- The usual time to live, in minutes. -/
def defaultTimeToLiveMinutes : Nat := 120

/-- Whether a connection is out of date. -/
def isExpired (c : ConnectionCache) (now : Int) (cached : CachedConnection) : Bool :=
  c.timeToLive < now - cached.storedAt

/-- The number of connections held, those out of date included. -/
def size (c : ConnectionCache) : Nat := c.connections.size

/-- The cache without the connections that are out of date. -/
def sweep (c : ConnectionCache) (now : Int) : ConnectionCache :=
  { c with connections := c.connections.filter fun _ cached => !c.isExpired now cached }

/-- The number of connections that a sweep drops. -/
def expiredCount (c : ConnectionCache) (now : Int) : Nat := c.size - (c.sweep now).size

/-- The connection of a user. -/
def get? (c : ConnectionCache) (now : Int) (userId : String) : Option Connection :=
  ((c.connections.get? userId).filter fun cached => !c.isExpired now cached).map (·.connection)

/-- Store the connection of a context. -/
def put (c : ConnectionCache) (now : Int) (context : SecurityContext) : ConnectionCache :=
  { c with connections := (c.sweep now).connections.put context.userId ⟨.ofContext context, now⟩ }

/-- The connection for a context: the user's cached one if it belongs to the same session, else the
context's own. -/
def resolve (c : ConnectionCache) (now : Int) (context : SecurityContext) : Connection :=
  match c.get? now context.userId with
  | some connection =>
    if connection.sessionId = context.sessionId then connection else .ofContext context
  | none => .ofContext context

/-- The connection held for a user, whether out of date or not. -/
def connection? (c : ConnectionCache) (userId : String) : Option Connection :=
  (c.connections.get? userId).map (·.connection)

/-- Drop the connection of a user. -/
def erase (c : ConnectionCache) (userId : String) : ConnectionCache :=
  { c with connections := c.connections.erase userId }

/-- Drop all connections. -/
def clear (c : ConnectionCache) : ConnectionCache := { c with connections := .empty }

end ConnectionCache

end SignOn

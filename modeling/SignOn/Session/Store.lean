import SignOn.Context
import SignOn.Table

/-!
# Server sessions

The store holds a security context for each session key. A session expires when it has not been read
for longer than the store's window. An expired session is never given out; it is dropped when it is
asked for, and all of them are dropped when a session is stored at least one window after the last
such sweep. Times and windows are in milliseconds.
-/

namespace SignOn

/-- A session: its context and when it was stored or last read. -/
structure Session where
  context : SecurityContext
  lastAccess : Int

/-- Sessions by key. -/
structure SessionStore where
  sessions : Table Session := .empty
  /-- How long a session lives without being read. -/
  window : Int
  /-- When expired sessions were last swept out. -/
  lastSweep : Int

namespace SessionStore

/-- The usual window, in minutes. -/
def defaultWindowMinutes : Nat := 30

/-- A store without sessions, made at a time. -/
def create (window now : Int) : SessionStore := { window, lastSweep := now }

/-- Whether a session has expired. -/
def isExpired (s : SessionStore) (now : Int) (session : Session) : Bool :=
  s.window < now - session.lastAccess

/-- The number of sessions held, expired ones that were not dropped yet included. -/
def size (s : SessionStore) : Nat := s.sessions.size

/-- The store without its expired sessions. -/
def sweep (s : SessionStore) (now : Int) : SessionStore :=
  { s with sessions := s.sessions.filter fun _ session => !s.isExpired now session }

/-- The number of sessions that a sweep drops. -/
def expiredCount (s : SessionStore) (now : Int) : Nat := s.size - (s.sweep now).size

/-- Whether storing a session sweeps the store. -/
def sweepDue (s : SessionStore) (now : Int) : Bool := s.window ≤ now - s.lastSweep

/-- The context of a live session, whose life starts anew; an expired session is dropped. -/
def get (s : SessionStore) (now : Int) (key : String) : Option SecurityContext × SessionStore :=
  match s.sessions.get? key with
  | none => (none, s)
  | some session =>
    if s.isExpired now session then (none, { s with sessions := s.sessions.erase key })
    else
      (some session.context,
        { s with sessions := s.sessions.put key { session with lastAccess := now } })

/-- Store a context, after a sweep if one is due. -/
def put (s : SessionStore) (now : Int) (key : String) (context : SecurityContext) : SessionStore :=
  let s := if s.sweepDue now then { s.sweep now with lastSweep := now } else s
  { s with sessions := s.sessions.put key { context, lastAccess := now } }

/-- Drop a session. -/
def erase (s : SessionStore) (key : String) : SessionStore :=
  { s with sessions := s.sessions.erase key }

/-- The context held under a key, whether expired or not. -/
def context? (s : SessionStore) (key : String) : Option SecurityContext :=
  (s.sessions.get? key).map (·.context)

/-- The store as diagnostics show it. -/
def describe (s : SessionStore) : String :=
  Text.showRecord "MemorySessionStore" [
    ("sessions", toString s.size),
    ("max_inactive", Text.showRecord "TimeDelta" [
      ("secs", toString (s.window.fdiv 1000)),
      ("nanos", toString (s.window.fmod 1000 * 1000000))])]

end SessionStore

end SignOn

import SignOn.Error
import SignOn.Text.Split

/-!
# Storage methods

A security context is kept between requests in an encrypted cookie or in a session on the server.
-/

namespace SignOn

/-- Where security contexts are kept. -/
inductive StorageMethod where
  | cookie
  | session
  deriving DecidableEq

namespace StorageMethod

/-- The spelling of a method in configurations. -/
def text : StorageMethod → String
  | cookie => "cookie"
  | session => "session"

/-- The method as diagnostics show it. -/
def describe : StorageMethod → String
  | cookie => "Cookie"
  | session => "Session"

/-- The method that a text spells, in any letter case and with white space around it. -/
def ofText (s : String) : Except Error StorageMethod :=
  let spelling := Text.lower (Text.trim s)
  if spelling = "cookie" then .ok .cookie
  else if spelling = "session" then .ok .session
  else .error { kind := .config ("unknown security context storage method '" ++ spelling ++
    "' (expected 'cookie' or 'session')") }

end StorageMethod

end SignOn

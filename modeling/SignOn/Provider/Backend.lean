import SignOn.Provider.Answers

/-!
# Identity backends

An identity backend ends sessions, gives tokens for authorization codes and user records for tokens.
The rest of the library knows the provider only through a backend, and keeps a list of the calls it
makes.
-/

namespace SignOn

/-- The remote half of signing in and out. -/
structure IdentityBackend where
  /-- End the session of a connection. -/
  logout : Connection → Except Error Unit
  /-- Exchange an authorization code, with the redirect URI it was asked for with. -/
  exchangeCode : (code redirectUri : String) → Except Error Token
  /-- Look up the user that a token belongs to. -/
  userRecord : Token → Except Error UserRecord

/-- A call of an identity backend. -/
inductive BackendCall where
  | logout (connection : Connection)
  | exchangeCode (code redirectUri : String)
  | userRecord (token : Token)
  deriving DecidableEq

end SignOn

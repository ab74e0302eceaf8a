/-!
# Errors

An error names its cause; `Error.message` is the text shown for it. An error that another one set
off keeps the text of that one as its source. No cause carries a session id, a token or a key.
-/

namespace SignOn

/-- What went wrong. -/
inductive ErrorKind where
  /-- The identity provider could not be reached. -/
  | connectionFailure (detail : String)
  /-- A stored security context could not be read. -/
  | contextUnreadable (detail : String)
  /-- The identity provider answered with an OAuth error. -/
  | oauth (error description : String)
  /-- The identity provider answered with something unexpected. -/
  | http (detail : String)
  /-- A JSON text could not be decoded. -/
  | json (detail : String)
  /-- A value could not be encoded. -/
  | serialization (detail : String)
  /-- A text is no URL, or not one that is fit for its use. -/
  | invalidUrl (detail : String)
  /-- An environment variable is missing. -/
  | envVar (detail : String)
  /-- A configuration value is wrong. -/
  | config (detail : String)
  /-- A value cannot be used where it is given. -/
  | invalidInput (detail : String)
  /-- Anything else. -/
  | other (detail : String)
  deriving DecidableEq

/-- The text shown for a cause. -/
def ErrorKind.message : ErrorKind → String
  | connectionFailure detail => "Connection failure: " ++ detail
  | contextUnreadable detail => "Security context unreadable: " ++ detail
  | oauth error description => "OAuth error: " ++ error ++ " - " ++ description
  | http detail => "HTTP error: " ++ detail
  | json detail => "JSON error: " ++ detail
  | serialization detail => "Serialization error: " ++ detail
  | invalidUrl detail => "Invalid URL: " ++ detail
  | envVar detail => "Environment variable not set: " ++ detail
  | config detail => "Configuration error: " ++ detail
  | invalidInput detail => "Invalid input: " ++ detail
  | other detail => detail

/-- An error: its cause and the text of the error that set it off, if there was one. -/
structure Error where
  kind : ErrorKind
  source : Option String := none
  deriving DecidableEq

namespace Error

/-- The text shown for an error. -/
def message (e : Error) : String := e.kind.message

/-- Whether a stored security context was found but could not be read. -/
def isContextUnreadable (e : Error) : Bool := e.kind matches .contextUnreadable _

/-- Whether the identity provider could not be reached. -/
def isConnectionFailure (e : Error) : Bool := e.kind matches .connectionFailure _

/-- An environment variable without a value. -/
def notPresent : Error where
  kind := .envVar "environment variable not found"
  source := some "environment variable not found"

end Error

end SignOn

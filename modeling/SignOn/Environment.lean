import SignOn.Octets

/-!
# Environment variables

An environment gives octets to names. A variable whose octets are no UTF-8 counts as unset.
-/

namespace SignOn

/-- Variables with their octets; of several entries of one name the last counts. -/
structure Environment where
  entries : List (String × Octets) := []

namespace Environment

/-- The text of a variable. -/
def text? (env : Environment) (name : String) : Option String :=
  (env.entries.reverse.lookup name).bind Octets.text?

/-- The texts of those variables of a list of names that are set, under other names. -/
def renamed (env : Environment) (names : List (String × String)) : List (String × String) :=
  names.filterMap fun (source, name) => (env.text? source).map (name, ·)

end Environment

end SignOn

import DatastoreAccess.Settings.Path
/-!
# Settings.Environment — settings in environment variables

A variable whose name starts with `DATASTORE_AUTH_`, in any case, sets the key that the rest of its name is in lower
case, with a double underscore for the point between nested names.  Its value is a text.
-/
namespace DatastoreAccess.Settings.Environment

def start : List Char := "datastore_auth_".toList

/-- Lower case.  The Kelvin sign is the one character beyond ASCII whose lower case is an ASCII letter. -/
def lower (c : Char) : Char := if c = '\u212A' then 'k' else c.toLower

/-- Points in place of double underscores. -/
def pointed : List Char → List Char
  | '_' :: '_' :: cs => '.' :: pointed cs
  | c :: cs => c :: pointed cs
  | [] => []

/-- The key that a variable sets. -/
def key? (name : String) : Option String :=
  let cs := name.toList.map lower
  if start.isPrefixOf cs then some (String.ofList (pointed (cs.drop start.length))) else none

/-- The keys that the variables set. -/
def keys (env : List (String × String)) : List (String × Value) :=
  env.filterMap fun v => (key? v.1).map fun k => (k, .text v.2)

end DatastoreAccess.Settings.Environment

import DatastoreAccess.Access.Allowlist
import DatastoreAccess.Access.Mode
/-!
# Access.Configuration — how a deployment is set

A configuration has been checked: what the mode needs is there.  Spans of time are whole seconds.
-/
namespace DatastoreAccess

/-- The audience that a token must name, for each purpose. -/
structure Audiences where
  data : String
  jobs : String
  provisioning : String
  deriving DecidableEq, Repr

structure Configuration where
  mode : Mode
  jwksUrl : Option String
  audiences : Audiences
  provisionerRole : String
  provisioners : Allowlist
  serviceKey : String
  keyLifetime : UInt64
  fetchTimeout : UInt64
  leeway : UInt64
  deriving DecidableEq, Repr

namespace Configuration

/-- The role of those who administer data. -/
def dataAdministrator : String := "role/dataadministrator"

def defaultKeyLifetime : UInt64 := 3000

def defaultFetchTimeout : UInt64 := 10

/-- A configuration with the defaults for all but the essentials. -/
def make (mode : Mode) (jwksUrl : Option String) (audiences : Audiences) (serviceKey : String) : Configuration where
  mode := mode
  jwksUrl := jwksUrl
  audiences := audiences
  provisionerRole := dataAdministrator
  provisioners := Allowlist.ofList []
  serviceKey := serviceKey
  keyLifetime := defaultKeyLifetime
  fetchTimeout := defaultFetchTimeout
  leeway := 0

end Configuration
end DatastoreAccess

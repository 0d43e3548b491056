import DatastoreAccess.Settings.AccessFile
import DatastoreAccess.Settings.Raw
import DatastoreAccess.Url.Check
/-!
# Settings.Check — from settings to a configuration

The mode decides what must be there.  The checks come in a fixed order, since of several faults the first one shows.
-/
namespace DatastoreAccess.Settings

def checkMode (text : String) : Except SettingsError Mode :=
  let name := String.ofList (Text.trim text.toList)
  match Mode.ofName? name with
  | some m => .ok m
  | none => .error (.mode name)

/-- The endpoint of the keys must be a URL, whatever the mode, and be there when signatures are checked. -/
def checkJwksUrl (mode : Mode) : Option String → Except SettingsError (Option String)
  | some url =>
    match Url.check url with
    | .ok _ => .ok (some url)
    | .error fault => .error (.jwksUrl fault)
  | none => if mode = .full then .error (.missing "jwks_url") else .ok none

def checkAudiences (mode : Mode) : Option Audiences → Except SettingsError Audiences
  | some a => .ok a
  | none => if mode ≠ .off then .error (.missing "audiences") else .ok ⟨"", "", ""⟩

/-- The service key itself goes before a file with it. -/
def checkServiceKey (look : String → Found) (mode : Mode) (key file : Option String) :
    Except SettingsError String := do
  let key ← match key, file with
    | some key, _ => pure key
    | none, some path => readKeyFile look path
    | none, none => if mode ≠ .off then throw (.missing "api_service_key") else pure ""
  if mode ≠ .off && key.isEmpty then throw .emptyServiceKey
  return key

/-- The users of the list and of the access file together. -/
def checkProvisioners (look : String → Found) (users : List String) (file : Option String) :
    Except SettingsError Allowlist := do
  match file with
  | none => return Allowlist.ofList users
  | some path => return Allowlist.ofList (users ++ (← readAccessFile look path))

def check (look : String → Found) (r : Raw) : Except SettingsError Configuration := do
  let mode ← checkMode r.mode
  let jwksUrl ← checkJwksUrl mode r.jwksUrl
  let audiences ← checkAudiences mode r.audiences
  let serviceKey ← checkServiceKey look mode r.serviceKey r.serviceKeyFile
  let provisioners ← checkProvisioners look r.provisioners r.accessFile
  return {
    mode, jwksUrl, audiences, serviceKey, provisioners
    provisionerRole := r.provisionerRole.getD Configuration.dataAdministrator
    keyLifetime := r.keyLifetime.getD Configuration.defaultKeyLifetime
    fetchTimeout := r.fetchTimeout.getD Configuration.defaultFetchTimeout
    leeway := r.leeway }

end DatastoreAccess.Settings

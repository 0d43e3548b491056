import DatastoreAccess.Access.Configuration
import DatastoreAccess.Settings.Path
import DatastoreAccess.Text.Blank
import DatastoreAccess.Text.Split
/-!
# Settings.Raw — settings before they are checked

Each setting is read as what it should be.  A setting that is missing or nothing is absent, where it may be; a value
that cannot be read spoils all of them.
-/
namespace DatastoreAccess.Settings

structure Raw where
  mode : String
  jwksUrl : Option String
  audiences : Option Audiences
  provisionerRole : Option String
  accessFile : Option String
  provisioners : List String
  serviceKey : Option String
  serviceKeyFile : Option String
  keyLifetime : Option UInt64
  fetchTimeout : Option UInt64
  leeway : UInt64
  deriving DecidableEq, Repr

namespace Raw

/-- A setting that may be absent: `none` when it is there and cannot be read. -/
def optional? {α : Type} (read : Value → Option α) : Option Value → Option (Option α)
  | none => some none
  | some .nothing => some none
  | some v => (read v).map some

/-- A setting that has a default when it is missing, but may not be nothing. -/
def defaulted? {α : Type} (default : α) (read : Value → Option α) : Option Value → Option α
  | none => some default
  | some v => read v

/-- The audiences by name, or in order. -/
def audiences? : Value → Option Audiences
  | .table fs => do
    let slot (name : String) : Option String := (fs.lookup name).bind Value.text?
    some ⟨← slot "data", ← slot "jobs", ← slot "provisioning"⟩
  | .list (a :: b :: c :: _) => do some ⟨← a.text?, ← b.text?, ← c.text?⟩
  | _ => none

/-- The entries of a list in one text: between commas, without white space around them, none of them empty. -/
def entries (s : String) : List String :=
  (((Text.splitAll ',' s.toList).map Text.trim).filter fun cs => !cs.isEmpty).map String.ofList

def string? : Value → Option String
  | .text s => some s
  | _ => none

/-- Users in a list, or in one text. -/
def users? : Value → Option (List String)
  | .list vs => vs.mapM string?
  | .text s => some (entries s)
  | _ => none

def defaultMode : String := "FULL"

/-- The settings that all sources together give. -/
def ofValue? (v : Value) : Option Raw := do
  some {
    mode := ← defaulted? defaultMode Value.text? (v.get? "mode")
    jwksUrl := ← optional? Value.text? (v.get? "jwks_url")
    audiences := ← optional? audiences? (v.get? "audiences")
    provisionerRole := ← optional? Value.text? (v.get? "provisioner_role")
    accessFile := ← optional? Value.text? (v.get? "access_control_file")
    provisioners := ← defaulted? [] users? (v.get? "provisioner_allowlist")
    serviceKey := ← optional? Value.text? (v.get? "api_service_key")
    serviceKeyFile := ← optional? Value.text? (v.get? "api_service_key_file")
    keyLifetime := ← optional? Value.natural? (v.get? "jwks_cache_ttl_secs")
    fetchTimeout := ← optional? Value.natural? (v.get? "jwks_timeout_secs")
    leeway := ← defaulted? 0 Value.natural? (v.get? "leeway_secs") }

/-- The files that the settings refer to and that are read. -/
def files (r : Raw) : List String :=
  (if r.serviceKey.isNone then r.serviceKeyFile.toList else []) ++ r.accessFile.toList

end Raw
end DatastoreAccess.Settings

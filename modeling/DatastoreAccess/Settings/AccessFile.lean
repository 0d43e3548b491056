import DatastoreAccess.Json.Record
import DatastoreAccess.Settings.Directory
import DatastoreAccess.Settings.Error
import DatastoreAccess.Text.Blank
/-!
# Settings.AccessFile — files that settings name

An access file lists the users who may provision datastores.  A key file holds the service key, with white space around
it that does not count.
-/
namespace DatastoreAccess.Settings

/-- The text of a file. -/
def readText (look : String → Found) (path : String) : Except SettingsError (List Char) :=
  match look path with
  | .file bytes =>
    match Text.decode? bytes with
    | some cs => .ok cs
    | none => .error (.unreadable path)
  | _ => .error (.unreadable path)

/-- The users listed in a document. -/
def allowedUsers? (cs : List Char) : Option (List String) := do
  match ← (← Json.Tree.ofBytes? (Text.encode cs)).slots? ["allowed_users"] with
  | [some t] => t.strings?
  | _ => none

def readAccessFile (look : String → Found) (path : String) : Except SettingsError (List String) := do
  match allowedUsers? (← readText look path) with
  | some users => return users
  | none => throw (.accessFile path)

def readKeyFile (look : String → Found) (path : String) : Except SettingsError String := do
  return String.ofList (Text.trim (← readText look path))

end DatastoreAccess.Settings

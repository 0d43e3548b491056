import DatastoreAccess.Settings.Check
import DatastoreAccess.Settings.Environment
import DatastoreAccess.Toml.Document
import DatastoreAccess.Yaml.Value
/-!
# Settings.Load — settings from a file and the environment

A file gives settings in the format that its extension names; environment variables go over it key by key.  Without a
file the environment gives all.
-/
namespace DatastoreAccess.Settings

inductive Format where
  | toml
  | yaml
  | json
  deriving DecidableEq, Repr

namespace Format

def ofExtension? : String → Option Format
  | "toml" => some .toml
  | "yaml" => some .yaml
  | "yml" => some .yaml
  | "json" => some .json
  | _ => none

def extensions : Format → List String
  | .toml => ["toml"]
  | .yaml => ["yaml", "yml"]
  | .json => ["json"]

/-- The keys of a text in a format. -/
def keys? : Format → String → Option (List (String × Value))
  | .toml, s => Toml.ofString? s
  | .yaml, s => Yaml.ofString? s
  | .json, s =>
    match Json.ofString? s with
    | some (.object fs) => some (Value.ofJsonFields fs)
    | _ => none

end Format

/-- The text of bytes, without the mark that may start it; bytes that are no text do not stop the reading. -/
def lenientText (bytes : List UInt8) : String :=
  match bytes with
  | 0xEF :: 0xBB :: 0xBF :: rest => String.ofList (Text.decodeLenient rest)
  | bytes => String.ofList (Text.decodeLenient bytes)

/-- A path without slashes at its end. -/
def withoutSlashes (path : String) : String := String.ofList (path.toList.reverse.dropWhile (· = '/')).reverse

/-- The paths that are tried for a file, until one leads to a file. -/
def candidates (path : String) (f : Format) : List String :=
  path :: f.extensions.map fun e => withoutSlashes path ++ "." ++ e

def firstFile? (look : String → Found) : List String → Option (List UInt8)
  | [] => none
  | p :: ps =>
    match look p with
    | .file bytes => some bytes
    | _ => firstFile? look ps

/-- The keys of a settings file. -/
def fileKeys (look : String → Found) (path : String) : Except SettingsError (List (String × Value)) :=
  if look path = .missing then .error (.noFile path)
  else
    match (Directory.extension? path).bind Format.ofExtension? with
    | none => .error .unsupportedFormat
    | some f =>
      match (firstFile? look (candidates path f)).bind fun bytes => f.keys? (lenientText bytes) with
      | some keys => .ok keys
      | none => .error .unparsable

/-- The settings before any check. -/
def raw (look : String → Found) (env : List (String × String)) (path : Option String) :
    Except SettingsError Raw := do
  let keys ← match path with
    | some p => fileKeys look p
    | none => pure []
  let value := Value.setAll (Environment.keys env) (Value.setAll keys (.table []))
  match Raw.ofValue? value with
  | some r => return r
  | none => throw .unparsable

/-- The configuration of a deployment. -/
def load (look : String → Found) (env : List (String × String)) (path : Option String) :
    Except SettingsError Configuration := do
  check look (← raw look env path)

/-- The paths that are looked up, as far as they are known before their files are read. -/
def paths (path : Option String) : List String :=
  match path with
  | none => []
  | some p => (((Directory.extension? p).bind Format.ofExtension?).map (candidates p)).getD [p]

end DatastoreAccess.Settings

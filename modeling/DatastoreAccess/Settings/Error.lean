import DatastoreAccess.Url.Host
/-!
# Settings.Error — why settings cannot be used

Every fault found in the settings keeps the service from starting.  What a parser or the system says about it is not
part of the message.
-/
namespace DatastoreAccess

inductive SettingsError where
  | mode (found : String)
  | missing (setting : String)
  | jwksUrl (fault : Url.Fault)
  | emptyServiceKey
  | noFile (path : String)
  | unsupportedFormat
  | unparsable
  | unreadable (path : String)
  | accessFile (path : String)
  deriving DecidableEq, Repr

namespace SettingsError

def message : SettingsError → String
  | .mode found => "Invalid value for mode: " ++ found ++ " (expected FULL, SKIP_SIGNATURE or OFF)"
  | .missing setting => "Missing required setting: " ++ setting
  | .jwksUrl fault => "Invalid value for jwks_url: " ++ fault.message
  | .emptyServiceKey => "Invalid value for api_service_key: must not be empty"
  | .noFile path => "Configuration file not found: " ++ path
  | .unsupportedFormat => "Unsupported configuration file format. Use .toml, .yaml, .yml, or .json"
  | .unparsable => "Failed to parse configuration"
  | .unreadable path => "Failed to read " ++ path
  | .accessFile path => "Invalid access control file " ++ path

def kind : SettingsError → String
  | .mode _ => "InvalidMode"
  | .missing _ => "MissingValue"
  | .jwksUrl _ => "InvalidValue"
  | .emptyServiceKey => "InvalidValue"
  | .noFile _ => "FileNotFound"
  | .unsupportedFormat => "UnsupportedFormat"
  | .unparsable => "ParseError"
  | .unreadable _ => "Io"
  | .accessFile _ => "AccessControl"

end SettingsError
end DatastoreAccess

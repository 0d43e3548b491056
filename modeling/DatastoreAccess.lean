import DatastoreAccess.Keys.Calls
import DatastoreAccess.Keys.Interleaving
import DatastoreAccess.Main
import DatastoreAccess.Request.Credentials
import DatastoreAccess.Proofs.Answers
import DatastoreAccess.Proofs.Text.Split
import DatastoreAccess.Proofs.Text.Encoding
import DatastoreAccess.Proofs.Json.RoundTrip
import DatastoreAccess.Proofs.Token.Verdict
import DatastoreAccess.Proofs.Token.Views
import DatastoreAccess.Proofs.Access.Decoding
import DatastoreAccess.Proofs.Access.Granting
import DatastoreAccess.Access.Calls
import DatastoreAccess.Proofs.Access.Correlation
import DatastoreAccess.Proofs.Settings.Provisioners
import DatastoreAccess.Proofs.Keys.Lookup
import DatastoreAccess.Proofs.Keys.Trace
import DatastoreAccess.Proofs.Keys.Mirror
import DatastoreAccess.Proofs.Keys.Transparency
import DatastoreAccess.Proofs.Keys.Pacing
import DatastoreAccess.Proofs.Access.Separation
import DatastoreAccess.Proofs.Token.Readings
import DatastoreAccess.Proofs.Access.Unsigned
import DatastoreAccess.Proofs.Access.Agreement
import DatastoreAccess.Proofs.Keys.Serial
import DatastoreAccess.Proofs.Settings.Startup
import DatastoreAccess.Proofs.Keys.Staleness
import DatastoreAccess.Proofs.Keys.Clearing
import DatastoreAccess.Proofs.Settings.ServiceKey
import DatastoreAccess.Proofs.Settings.Spread
import DatastoreAccess.Proofs.Access.Coverage
import DatastoreAccess.Proofs.Access.Leeway
import DatastoreAccess.Proofs.Keys.Isolation
import DatastoreAccess.Proofs.Request.Fields
import DatastoreAccess.Proofs.Request.WireForms
import DatastoreAccess.Proofs.Request.Bystanders
import DatastoreAccess.Proofs.Request.RawTokens
import DatastoreAccess.Proofs.Access.Audiences
import DatastoreAccess.Proofs.CommandLine.Reports

import DatastoreAccess.CommandLine.Decision
import Std.Time.DateTime.Timestamp
/-!
# Main — the program

Reads the environment, the files that the settings refer to and the clock, and prints one decision.  There is no
transport for keys here: a request to the endpoint stays without an answer.

Nothing is written to the error stream: log lines are left out, as is the reason why settings do not load, which stays
in the `SettingsError`.  Help gives no texts on single options.  Arithmetic is checked, so that a subtraction without a
result ends the program; a build that wraps around instead is not followed.
-/
namespace DatastoreAccess

/-- What a path leads to. -/
def lookUp (path : String) : IO Found := do
  try
    return .file (← IO.FS.readBinFile path).toList
  catch
    | .noFileOrDirectory .. => return .missing
    | _ => return .directory

/-- What the paths lead to; all other paths count as missing. -/
def lookUpAll (paths : List String) : IO (List (String × Found)) := paths.mapM fun p => return (p, ← lookUp p)

def lookIn (known : List (String × Found)) (path : String) : Found := (known.lookup path).getD .missing

/-- The variables of the environment, each `name=value` and ended by a zero byte. -/
def environment : IO (List (String × String)) := do
  let bytes ← IO.FS.readBinFile "/proc/self/environ"
  let cs := Text.decodeLenient bytes.toList
  return (Text.splitAll '\x00' cs).filterMap fun l =>
    (Text.splitFirst '=' l).map fun (n, v) => (String.ofList n, String.ofList v)

def occasion : IO Occasion := do
  let seconds := (← Std.Time.Timestamp.now).toSecondsSinceUnixEpoch.val.toNat
  return ⟨fun _ => .unanswered, Resolver.Moments.still (← IO.monoMsNow), UInt64.ofNat seconds⟩

/-- The files that a run reads. -/
def neededFiles (env : List (String × String)) (words : List String) : IO (List (String × Found)) := do
  match CommandLine.read env words with
  | .error _ => return []
  | .ok i =>
    let first ← lookUpAll (Settings.paths i.config)
    match Settings.raw (lookIn first) env i.config with
    | .error _ => return first
    | .ok r => return first ++ (← lookUpAll r.files)

end DatastoreAccess

open DatastoreAccess in
def main (words : List String) : IO UInt32 := do
  let env ← environment
  let known ← neededFiles env words
  let result := CommandLine.outcome (lookIn known) env (← occasion) words
  IO.print result.stdout
  return UInt32.ofNat result.exit

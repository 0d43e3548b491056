import DatastoreAccess.Access.Authorizer
import DatastoreAccess.CommandLine.Arguments
import DatastoreAccess.Settings.Load
/-!
# CommandLine.Decision — one decision from the command line

A run loads the settings, makes one decision and prints it.  A grant is printed with what it grants; a refusal shows its
kind and nothing else.  A decision that breaks off takes the run with it.
-/
namespace DatastoreAccess.CommandLine

/-- What a run leaves behind. -/
structure Outcome where
  exit : Nat
  stdout : String
  deriving DecidableEq, Repr

/-- The identity behind a user-info token, if one is given. -/
def identityOf (a : Authorizer) (now : UInt64) (g : Grant) : Option String → Except Failure (Option Identity)
  | none => .ok none
  | some userInfo => (a.identity now g (some userInfo)).map some

def grantFields (g : Grant) (rdn : Option String) (identity : Option Identity) : Json :=
  .object (("authorized", .bool true) :: ("user_id", .string g.userId) ::
    (rdn.map fun rdn => ("rdn", Json.string rdn)).toList ++ [("identity", (identity.map Identity.toJson).getD .null)])

/-- The grant that a command asks for, as it is printed. -/
def decide (a : Authorizer) (o : Occasion) : Command → Except Failure Json
  | .user token => do
    let user ← (a.user o token Resolver.State.initial).1
    return .object [("authorized", .bool true), ("user_id", .string user)]
  | .dataAdmin rdn token userInfo => do
    let g ← (a.dataAdministrator o rdn token Resolver.State.initial).1
    return grantFields g (some rdn) (← identityOf a o.now g userInfo)
  | .provisioner token userInfo => do
    let g ← (a.provisioner o token Resolver.State.initial).1
    return grantFields g none (← identityOf a o.now g userInfo)
  | .apiKey key => do
    (a.serviceKey key).mapError .refused
    return .object [("authorized", .bool true)]

def refusal (k : ErrorKind) : Json :=
  .object [("authorized", .bool false), ("status", .number (.integer k.status)), ("detail", .string k.publicMessage)]

/-- The printed decision, which ends the line.  A run that breaks off prints none. -/
def Outcome.ofDecision : Except Failure Json → Outcome
  | .ok j => ⟨0, j.pretty ++ "\n"⟩
  | .error (.refused e) => ⟨1, (refusal e.kind).pretty ++ "\n"⟩
  | .error .overflow => ⟨101, ""⟩

def versionLine : String := "datastore-auth-demo 0.1.0\n"

def helpText : String :=
  "Run a datastore authorization decision against the configured identity provider\n\n" ++
  "Usage: datastore-auth-demo [OPTIONS] <COMMAND>\n\n" ++
  "Commands: user, data-admin, provisioner, api-key, help\n"

def Outcome.ofStop : Stop → Outcome
  | .misuse => ⟨2, ""⟩
  | .help => ⟨0, helpText⟩
  | .version => ⟨0, versionLine⟩

/-- The decision of a run, if its settings give an authorizer; else nothing is printed. -/
def perform (look : String → Found) (env : List (String × String)) (o : Occasion) (i : Invocation) : Outcome :=
  match Settings.load look env i.config with
  | .error _ => ⟨1, ""⟩
  | .ok c =>
    match Authorizer.ofConfiguration c with
    | .error _ => ⟨1, ""⟩
    | .ok a => Outcome.ofDecision (decide a o i.command)

/-- What a command line leads to. -/
def outcome (look : String → Found) (env : List (String × String)) (o : Occasion) (words : List String) : Outcome :=
  match read env words with
  | .error stop => Outcome.ofStop stop
  | .ok i => perform look env o i

end DatastoreAccess.CommandLine

import DatastoreAccess.Access.Checks
import DatastoreAccess.Access.Configuration
import DatastoreAccess.Access.ServiceKey
import DatastoreAccess.Keys.Resolver
/-!
# Access.Strategy — what one mode checks

All modes answer the same three questions: is this token good for a purpose, whose is this user-info token, is this the
service key.  The checks of a token come in a fixed order: the token itself, the role, the datastore, the user.
-/
namespace DatastoreAccess

/-- What a token has to satisfy for a purpose. -/
structure Demand where
  token : Option String
  audience : String
  policy : Policy
  role : Option String
  rdn : Option String
  deriving DecidableEq, Repr

/-- What a call meets: the endpoint, the clock of the keys, and the time of day in seconds. -/
structure Occasion where
  endpoint : Nat → KeyEndpoint.Response
  moments : Resolver.Moments
  now : UInt64

inductive Strategy where
  | full (resolver : Resolver) (decoder : Decoder) (serviceKey : ServiceKey)
  | skipSignature (decoder : Decoder) (serviceKey : ServiceKey)
  | off
  deriving DecidableEq, Repr

namespace Strategy

def mode : Strategy → Mode
  | .full .. => .full
  | .skipSignature .. => .skipSignature
  | .off => .off

/-- The strategy that a configuration asks for. -/
def ofConfiguration (c : Configuration) : Except AccessError Strategy :=
  let decoder : Decoder := ⟨c.leeway⟩
  let serviceKey := ServiceKey.ofString c.serviceKey
  match c.mode with
  | .full =>
    match c.jwksUrl with
    | none => .error (.configuration (.settingMissing "jwks_url"))
    | some url => .ok (.full ⟨url, c.keyLifetime.toNat * 1000, Resolver.defaultRefreshFloor⟩ decoder serviceKey)
  | .skipSignature => .ok (.skipSignature decoder serviceKey)
  | .off => .ok .off

/-- A text that is given and not empty. -/
def given (absent : AccessError.Credential) : Option String → Except AccessError String
  | some s => if s = "" then .error (.unauthenticated absent) else .ok s
  | none => .error (.unauthenticated absent)

/-- The checks of a token once its key is known. -/
def grant (d : Decoder) (now : UInt64) (demand : Demand) (key : Option SigningKey) (verifySignature : Bool)
    (token : String) : Except Failure Grant := do
  let c ← d.decode now demand.policy key (some demand.audience) verifySignature token
  match demand.role with
  | some r => (Checks.role c r).mapError .refused
  | none => pure ()
  match demand.rdn with
  | some rdn => (Checks.coversDatastore c rdn).mapError .refused
  | none => pure ()
  let user ← (Checks.subject c demand.policy.subject).mapError .refused
  return ⟨user, c, key⟩

def authorize (s : Strategy) (o : Occasion) (demand : Demand) (st : Resolver.State) :
    Except Failure Grant × Resolver.State :=
  match s with
  | .off => (.ok Grant.development, st)
  | .skipSignature d _ => (do grant d o.now demand none false (← (given .noToken demand.token).mapError .refused), st)
  | .full r d _ =>
    match given .noToken demand.token with
    | .error e => (.error (.refused e), st)
    | .ok token =>
      match r.resolve o.endpoint o.moments token st with
      | (.error e, st) => (.error (.refused e), st)
      | (.ok key, st) => (grant d o.now demand (some key) true token, st)

/-- The identity in a user-info token, held against a grant. -/
def identity (s : Strategy) (now : UInt64) (g : Grant) (userInfo : Option String) : Except Failure Identity :=
  match s with
  | .off => .ok Identity.development
  | .skipSignature d _ => do
    Checks.correlate d now g.claims none false (← (given .noUserInfo userInfo).mapError .refused)
  | .full _ d _ => do
    Checks.correlate d now g.claims g.key true (← (given .noUserInfo userInfo).mapError .refused)

def serviceKey (s : Strategy) (candidate : Option String) : Except AccessError Unit :=
  match s with
  | .off => .ok ()
  | .skipSignature _ k => k.check candidate
  | .full _ _ k => k.check candidate

end Strategy
end DatastoreAccess

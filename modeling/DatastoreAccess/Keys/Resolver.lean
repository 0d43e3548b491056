import DatastoreAccess.Access.Error
import DatastoreAccess.Keys.Cache
import DatastoreAccess.Text.Duration
/-!
# Keys.Resolver — the key for a key id

A lookup takes the key from the cache while it is fresh.  Else it fetches the key set, unless the last attempt is too
recent: then an expired key still serves, and an unknown id is refused.  So nobody can force fetches by naming unknown
keys.  The endpoint is a script, one response for each request; the clock is read at every step of its own.
-/
namespace DatastoreAccess

structure Resolver where
  uri : String
  /-- How long a key is fresh. -/
  lifetime : Nat
  /-- The least time between two attempts to fetch. -/
  refreshFloor : Nat
  deriving DecidableEq, Repr

namespace Resolver

def defaultLifetime : Nat := 3000000

def defaultRefreshFloor : Nat := 5000

/-- The readings of the clock during one lookup, in the order taken. -/
structure Moments where
  first : Nat
  again : Nat
  floor : Nat
  start : Nat
  finish : Nat
  deriving DecidableEq, Repr

/-- A lookup during which the clock stands still. -/
def Moments.still (now : Nat) : Moments := ⟨now, now, now, now, now⟩

/-- The cache and how many requests the endpoint has had. -/
structure State where
  cache : KeyCache
  requests : Nat
  deriving DecidableEq, Repr

def State.initial : State := ⟨KeyCache.empty, 0⟩

/-- One request, begun at `start` and answered at `finish`, and the key that the cache then holds for an id. -/
def fetch (m : Moments) (response : KeyEndpoint.Response) (id : String) (s : State) :
    Except KeyFailure SigningKey × State :=
  let noted := s.cache.noteFetch m.start
  match response.keys with
  | .error e => (.error e, ⟨noted, s.requests + 1⟩)
  | .ok keys =>
    let filled := noted.replace keys m.finish
    ((filled.stale? id).elim (.error (.unknownKey id)) .ok, ⟨filled, s.requests + 1⟩)

/-- Looks a key up by its id. -/
def keyFor (r : Resolver) (endpoint : Nat → KeyEndpoint.Response) (m : Moments) (id : String) (s : State) :
    Except KeyFailure SigningKey × State :=
  match s.cache.fresh? r.lifetime m.first id with
  | some k => (.ok k, s)
  | none =>
    match s.cache.fresh? r.lifetime m.again id with
    | some k => (.ok k, s)
    | none =>
      if s.cache.floorActive r.refreshFloor m.floor then
        ((s.cache.stale? id).elim (.error (.unknownKey id)) .ok, s)
      else fetch m (endpoint s.requests) id s

/-- Looks up the key that a token names. -/
def resolve (r : Resolver) (endpoint : Nat → KeyEndpoint.Response) (m : Moments) (token : String) (s : State) :
    Except AccessError SigningKey × State :=
  match Token.keyId? token with
  | none => (.error .invalidToken, s)
  | some id =>
    let (answer, s) := r.keyFor endpoint m id s
    (answer.mapError .keyResolution, s)

def clear (s : State) : State := { s with cache := s.cache.clear }

/-- How a resolver shows itself, without the keys. -/
def shown (r : Resolver) : String :=
  "SigningKeyResolver \x7b jwks_uri: " ++ Text.quoted r.uri ++ ", cache_ttl: " ++ Text.spanOfMillis r.lifetime ++
    ", min_refresh_interval: " ++ Text.spanOfMillis r.refreshFloor ++ ", cache: \"<cached keys>\" \x7d"

end Resolver
end DatastoreAccess

import DatastoreAccess.Keys.Resolver
/-!
# Keys.Calls — sequences of lookups

A run is calls one after the other on one resolver.  Each call has its own readings of the clock, so that nothing hangs
on how long a call takes.
-/
namespace DatastoreAccess.Resolver

inductive Request where
  | resolve (token : String)
  | keyFor (id : String)
  | clear
  deriving DecidableEq, Repr

structure Call where
  request : Request
  moments : Moments
  deriving DecidableEq, Repr

/-- The readings of a call in the order taken. -/
def Moments.toList (m : Moments) : List Nat := [m.first, m.again, m.floor, m.start, m.finish]

/-- The id that a request looks up, if it looks one up. -/
def Request.id? : Request → Option String
  | .resolve token => Token.keyId? token
  | .keyFor id => some id
  | .clear => none

/-- What a call answers: a clearing answers nothing. -/
abbrev Answer := Option (Except AccessError SigningKey)

def perform (r : Resolver) (endpoint : Nat → KeyEndpoint.Response) (c : Call) (s : State) : Answer × State :=
  match c.request with
  | .resolve token =>
    let (k, s) := r.resolve endpoint c.moments token s
    (some k, s)
  | .keyFor id =>
    let (k, s) := r.keyFor endpoint c.moments id s
    (some (k.mapError .keyResolution), s)
  | .clear => (none, clear s)

/-- The answers of calls in order, and the state they leave. -/
def run (r : Resolver) (endpoint : Nat → KeyEndpoint.Response) : List Call → State → List Answer × State
  | [], s => ([], s)
  | c :: cs, s =>
    let (a, s) := r.perform endpoint c s
    let (as, s) := run r endpoint cs s
    (a :: as, s)

theorem run_append (r : Resolver) (endpoint : Nat → KeyEndpoint.Response) (as bs : List Call) (s : State) :
    r.run endpoint (as ++ bs) s =
      ((r.run endpoint as s).1 ++ (r.run endpoint bs (r.run endpoint as s).2).1,
        (r.run endpoint bs (r.run endpoint as s).2).2) := by
  induction as generalizing s with
  | nil => rfl
  | cons a as ih => simp [run, ih]

end DatastoreAccess.Resolver

import DatastoreAccess.Access.Authorizer
import DatastoreAccess.Keys.Calls
/-!
# Access.Calls — sequences of calls on one service

A run is calls one after the other on one authorizer.  Each call has its own occasion: time passes between calls, and
the endpoint answers as it likes.  The keys can be asked for and cleared apart from any token.
-/
namespace DatastoreAccess.Authorizer

inductive Request where
  | user (token : Option String)
  | dataAdministrator (rdn : String) (token : Option String)
  | provisioner (token : Option String)
  | identity (g : Grant) (userInfo : Option String)
  | serviceKey (candidate : Option String)
  | keys (request : Resolver.Request)
  deriving Repr

structure Call where
  request : Request
  occasion : Occasion

inductive Answer where
  | user (answer : Except Failure String)
  | grant (answer : Except Failure Grant)
  | identity (answer : Except Failure Identity)
  | serviceKey (answer : Except AccessError Unit)
  | keys (answer : Resolver.Answer)
  deriving Repr

/-- One call.  Only where signatures are checked are there keys to ask for. -/
def perform (a : Authorizer) (c : Call) (st : Resolver.State) : Answer × Resolver.State :=
  match c.request with
  | .user token =>
    let (r, st) := a.user c.occasion token st
    (.user r, st)
  | .dataAdministrator rdn token =>
    let (r, st) := a.dataAdministrator c.occasion rdn token st
    (.grant r, st)
  | .provisioner token =>
    let (r, st) := a.provisioner c.occasion token st
    (.grant r, st)
  | .identity g userInfo => (.identity (a.identity c.occasion.now g userInfo), st)
  | .serviceKey candidate => (.serviceKey (a.serviceKey candidate), st)
  | .keys request =>
    match a.strategy with
    | .full r _ _ =>
      let (k, st) := r.perform c.occasion.endpoint ⟨request, c.occasion.moments⟩ st
      (.keys k, st)
    | _ => (.keys none, st)

/-- The answers of calls in order, and the state they leave. -/
def run (a : Authorizer) : List Call → Resolver.State → List Answer × Resolver.State
  | [], st => ([], st)
  | c :: cs, st =>
    let (r, st) := a.perform c st
    let (rs, st) := run a cs st
    (r :: rs, st)

theorem run_append (a : Authorizer) (cs ds : List Call) (st : Resolver.State) :
    a.run (cs ++ ds) st =
      ((a.run cs st).1 ++ (a.run ds (a.run cs st).2).1, (a.run ds (a.run cs st).2).2) := by
  induction cs generalizing st with
  | nil => rfl
  | cons c cs ih => simp [run, ih]

end DatastoreAccess.Authorizer

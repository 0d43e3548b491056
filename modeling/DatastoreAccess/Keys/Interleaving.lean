import DatastoreAccess.Keys.Resolver
/-!
# Keys.Interleaving — lookups side by side

Lookups and clearings of one resolver may run side by side.  Each is a sequence of steps that nothing can come between;
the lock on fetching is held from the second look at the cache until the lookup leaves.  A schedule says which task moves
and what the clock shows then; a task that waits for a lock held by another does not move.
-/
namespace DatastoreAccess.Interleaving

open KeyEndpoint (Response)

/-- Where a lookup stands; `leaving` and what comes before it back to `rechecking` hold the lock. -/
inductive LookupStage where
  | starting
  | waiting
  | rechecking
  | deciding
  | asking (request : Nat)
  | filling (keys : List SigningKey)
  | leaving (answer : Except KeyFailure SigningKey)
  | done (answer : Except KeyFailure SigningKey)

inductive ClearStage where
  | starting
  | waiting
  | resetting
  | done
  deriving DecidableEq, Repr

inductive Task where
  | lookup (id : String) (stage : LookupStage)
  | clearing (stage : ClearStage)

/-- What all tasks share: the cache, the requests so far, and who holds the lock. -/
structure Shared where
  state : Resolver.State
  holder : Option Nat
  deriving DecidableEq, Repr

structure World where
  shared : Shared
  tasks : List Task

/-- The answer of a key that may be missing. -/
def answerOf (id : String) (k : Option SigningKey) : Except KeyFailure SigningKey := k.elim (.error (.unknownKey id)) .ok

namespace Shared

def cache (s : Shared) : KeyCache := s.state.cache

def withCache (s : Shared) (c : KeyCache) : Shared := { s with state := { s.state with cache := c } }

/-- Takes the lock for a task if nobody holds it. -/
def lock? (s : Shared) (task : Nat) : Option Shared := if s.holder = none then some { s with holder := some task } else none

def release (s : Shared) : Shared := { s with holder := none }

end Shared

/-- The next step of a lookup, `none` if it cannot move. -/
def lookupStep (r : Resolver) (endpoint : Nat → Response) (now task : Nat) (id : String) (s : Shared) :
    LookupStage → Option (LookupStage × Shared)
  | .starting =>
    match s.cache.fresh? r.lifetime now id with
    | some k => some (.done (.ok k), s)
    | none => some (.waiting, s)
  | .waiting => (s.lock? task).map fun s => (.rechecking, s)
  | .rechecking =>
    match s.cache.fresh? r.lifetime now id with
    | some k => some (.leaving (.ok k), s)
    | none => some (.deciding, s)
  | .deciding =>
    if s.cache.floorActive r.refreshFloor now then some (.leaving (answerOf id (s.cache.stale? id)), s)
    else
      some (.asking s.state.requests, { s with state := ⟨s.cache.noteFetch now, s.state.requests + 1⟩ })
  | .asking request =>
    match (endpoint request).keys with
    | .ok keys => some (.filling keys, s)
    | .error e => some (.leaving (.error e), s)
  | .filling keys =>
    let filled := s.cache.replace keys now
    some (.leaving (answerOf id (filled.stale? id)), s.withCache filled)
  | .leaving answer => some (.done answer, s.release)
  | .done _ => none

/-- The next step of a clearing. -/
def clearStep (task : Nat) (s : Shared) : ClearStage → Option (ClearStage × Shared)
  | .starting => some (.waiting, s.withCache { s.cache with entries := [] })
  | .waiting => (s.lock? task).map fun s => (.resetting, s)
  | .resetting => some (.done, (s.withCache { s.cache with lastFetch := none }).release)
  | .done => none

def taskStep (r : Resolver) (endpoint : Nat → Response) (now task : Nat) (s : Shared) : Task → Option (Task × Shared)
  | .lookup id stage => (lookupStep r endpoint now task id s stage).map fun (stage, s) => (.lookup id stage, s)
  | .clearing stage => (clearStep task s stage).map fun (stage, s) => (.clearing stage, s)

/-- Lets one task move; a task that cannot move leaves all as it is. -/
def step (r : Resolver) (endpoint : Nat → Response) (now task : Nat) (w : World) : World :=
  match w.tasks[task]? with
  | none => w
  | some t =>
    match taskStep r endpoint now task w.shared t with
    | some (t, s) => ⟨s, w.tasks.set task t⟩
    | none => w

/-- Lets tasks move in the order of a schedule, each at its own instant. -/
def run (r : Resolver) (endpoint : Nat → Response) (schedule : List (Nat × Nat)) (w : World) : World :=
  schedule.foldl (fun w turn => step r endpoint turn.2 turn.1 w) w

/-- The answer of a lookup that is done. -/
def Task.answer? : Task → Option (Except KeyFailure SigningKey)
  | .lookup _ (.done a) => some a
  | _ => none

def Task.isDone : Task → Bool
  | .lookup _ (.done _) => true
  | .clearing .done => true
  | _ => false

/-- Lookups that have not begun, on a state that nobody holds. -/
def World.ofIds (state : Resolver.State) (ids : List String) : World :=
  ⟨⟨state, none⟩, ids.map fun id => .lookup id .starting⟩

end DatastoreAccess.Interleaving

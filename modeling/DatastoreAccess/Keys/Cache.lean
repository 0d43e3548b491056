import DatastoreAccess.Keys.Endpoint
/-!
# Keys.Cache — keys kept between requests

The cache holds the keys of one fetch and the instant of the last attempt to fetch.  A lookup reads it in small steps,
each of them atomic: `fresh?`, `floorActive`, `stale?`, then `noteFetch` before a fetch and `replace` after it.
Instants and durations are milliseconds.
-/
namespace DatastoreAccess

structure KeyCache.Entry where
  key : SigningKey
  fetchedAt : Nat
  deriving DecidableEq, Repr

structure KeyCache where
  /-- In the order published; of two entries with one id the later counts. -/
  entries : List KeyCache.Entry
  lastFetch : Option Nat
  deriving DecidableEq, Repr

namespace KeyCache

def empty : KeyCache := ⟨[], none⟩

/-- The entry that counts for an id. -/
def held? (c : KeyCache) (id : String) : Option Entry := c.entries.reverse.find? fun e => e.key.id = id

/-- Whether an entry has been kept as long as it may be. -/
def Entry.expired (e : Entry) (lifetime now : Nat) : Bool := lifetime ≤ now - e.fetchedAt

/-- The key of an id, unless it is expired. -/
def fresh? (c : KeyCache) (lifetime now : Nat) (id : String) : Option SigningKey :=
  ((c.held? id).filter fun e => !e.expired lifetime now).map Entry.key

/-- The key of an id, expired or not. -/
def stale? (c : KeyCache) (id : String) : Option SigningKey := (c.held? id).map Entry.key

/-- Whether the last attempt is too recent for another one. -/
def floorActive (c : KeyCache) (floor now : Nat) : Bool := c.lastFetch.any fun last => now - last < floor

/-- Records an attempt, whatever comes of it. -/
def noteFetch (c : KeyCache) (now : Nat) : KeyCache := { c with lastFetch := some now }

/-- Puts the keys of a fetch in place of all others. -/
def replace (c : KeyCache) (keys : List SigningKey) (now : Nat) : KeyCache :=
  { c with entries := keys.map fun k => ⟨k, now⟩ }

/-- Drops all keys and forgets the last attempt. -/
def clear (_ : KeyCache) : KeyCache := empty

/-! ## What a lookup sees -/

theorem held?_replace (c : KeyCache) (keys : List SigningKey) (now : Nat) (id : String) :
    (c.replace keys now).held? id = (keys.reverse.find? fun k => k.id = id).map fun k => ⟨k, now⟩ := by
  simp only [held?, replace, ← List.map_reverse, List.find?_map]
  rfl

theorem id_of_stale? {c : KeyCache} {id : String} {k : SigningKey} (h : c.stale? id = some k) : k.id = id := by
  obtain ⟨e, he, rfl⟩ := Option.map_eq_some_iff.1 h
  simpa using List.find?_some he

theorem stale?_of_fresh? {c : KeyCache} {lifetime now : Nat} {id : String} {k : SigningKey}
    (h : c.fresh? lifetime now id = some k) : c.stale? id = some k := by
  obtain ⟨e, he, rfl⟩ := Option.map_eq_some_iff.1 h
  simp [stale?, (Option.filter_eq_some_iff.1 he).1]

end KeyCache
end DatastoreAccess

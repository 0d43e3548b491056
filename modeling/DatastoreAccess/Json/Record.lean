import DatastoreAccess.Json.Value
/-!
# Json.Record — records with named slots

A record is written as an object, in which each slot stands at most once and other names are passed over unread, or as
a list with exactly one item per slot.
-/
namespace DatastoreAccess.Json

/-- What stands under a name: nothing, or one tree.  A repeated name is refused. -/
def once? (ms : List (Option String × Tree)) (name : String) : Option (Option Tree) :=
  match ms.filter fun m => m.1 = some name with
  | [] => some none
  | [m] => some (some m.2)
  | _ => none

/-- The slots of a record in the order of `names`. -/
def Tree.slots? (names : List String) : Tree → Option (List (Option Tree))
  | .list ts => if ts.length = names.length then some (ts.map some) else none
  | .object ms => if ms.all fun m => m.1.isSome then names.mapM (once? ms) else none
  | _ => none

def Tree.string? : Tree → Option String
  | .text s => s
  | _ => none

def Tree.list? : Tree → Option (List Tree)
  | .list ts => some ts
  | _ => none

/-- A list of texts and of nothing else. -/
def Tree.strings? (t : Tree) : Option (List String) := t.list?.bind fun ts => ts.mapM Tree.string?

end DatastoreAccess.Json

import DatastoreAccess.Json.Tree
/-!
# Json.Value — values

A value has no repeated names: the first place and the last value of a name count.  Reading a tree as a value refuses
what has no value: texts without a reading, numbers beyond a double, and nesting beyond `depthLimit`.
-/
namespace DatastoreAccess

inductive Json where
  | null
  | bool (b : Bool)
  | number (n : Json.Number)
  | string (s : String)
  | array (items : List Json)
  | object (fields : List (String × Json))
  deriving Repr

namespace Json

/-- How deep lists and objects may be nested. -/
def depthLimit : Nat := 127

/-- Sets a field: in place if the name is there, else at the end. -/
def put (name : String) (v : Json) : List (String × Json) → List (String × Json)
  | [] => [(name, v)]
  | (n, w) :: l => if n = name then (n, v) :: l else (n, w) :: put name v l

/-- The fields that members in order give. -/
def ofMembers (ms : List (String × Json)) : List (String × Json) :=
  ms.foldl (fun fs m => put m.1 m.2 fs) []

mutual

/-- The value of a tree, with `room` levels of nesting left. -/
def Tree.value? : (room : Nat) → Tree → Option Json
  | _, .null => some .null
  | _, .bool b => some (.bool b)
  | _, .number n => n.number?.map .number
  | _, .text s => s.map .string
  | 0, .list _ => none
  | room + 1, .list ts => (listValues? room ts).map .array
  | 0, .object _ => none
  | room + 1, .object ms => (memberValues? room ms).map fun ms => .object (ofMembers ms)

def listValues? : (room : Nat) → List Tree → Option (List Json)
  | _, [] => some []
  | room, t :: ts =>
    match t.value? room, listValues? room ts with
    | some v, some vs => some (v :: vs)
    | _, _ => none

/-- Members as read, repeated names included. -/
def memberValues? : (room : Nat) → List (Option String × Tree) → Option (List (String × Json))
  | _, [] => some []
  | room, (some name, t) :: ms =>
    match t.value? room, memberValues? room ms with
    | some v, some vs => some ((name, v) :: vs)
    | _, _ => none
  | _, (none, _) :: _ => none

end

/-- The members of a tree that is an object, all of them with a value. -/
def Tree.members? : Tree → Option (List (String × Json))
  | .object ms => memberValues? (depthLimit - 1) ms
  | _ => none

/-- The value that bytes hold. -/
def ofBytes? (bs : List UInt8) : Option Json := (Tree.ofBytes? bs).bind (Tree.value? depthLimit)

def ofString? (s : String) : Option Json := ofBytes? (Text.encodeString s)

def string? : Json → Option String
  | .string s => some s
  | _ => none

def isNull : Json → Bool
  | .null => true
  | _ => false

/-! ## Fields -/

@[simp] theorem lookup_put_self (name : String) (v : Json) (fs : List (String × Json)) :
    (put name v fs).lookup name = some v := by
  induction fs with
  | nil => simp [put]
  | cons f fs ih =>
    obtain ⟨n, w⟩ := f
    by_cases h : n = name
    · simp [put, h]
    · have h' : (name == n) = false := by simp [Ne.symm h]
      simp [put, h, List.lookup_cons, h', ih]

theorem lookup_put_of_ne {name other : String} (h : other ≠ name) (v : Json) (fs : List (String × Json)) :
    (put name v fs).lookup other = fs.lookup other := by
  have h' : (other == name) = false := by simpa using h
  induction fs with
  | nil => simp [put, List.lookup_cons, h']
  | cons f fs ih =>
    obtain ⟨n, w⟩ := f
    by_cases hn : n = name
    · subst hn
      simp [put, List.lookup_cons, h']
    · simp only [put, hn, if_false, List.lookup_cons, ih]

end Json
end DatastoreAccess

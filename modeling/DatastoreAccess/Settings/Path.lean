import DatastoreAccess.Settings.Value
/-!
# Settings.Path — where a setting stands

A key such as `audiences.data` or `users[0]` leads into tables and lists.  Setting a value makes what is missing on the
way; a table is merged into a table field by field, every other value takes the place of what was there.
-/
namespace DatastoreAccess.Settings

inductive Step where
  | field (name : String)
  /-- Counted from the end if negative. -/
  | index (n : Int)
  deriving DecidableEq, Repr

namespace Step

def isNameChar (c : Char) : Bool := c.isAlphanum || c = '_' || c = '-'

/-- A number in brackets and what follows them. -/
def index? (cs : List Char) : Option (Int × List Char) :=
  let (negative, cs) : Bool × List Char := match cs with
    | '-' :: cs => (true, cs)
    | cs => (false, cs)
  let ds := cs.takeWhile Char.isDigit
  match ds, cs.dropWhile Char.isDigit with
  | [], _ => none
  | _, ']' :: rest =>
    let n : Nat := ds.foldl (fun n c => n * 10 + (c.toNat - 48)) 0
    if Number.signedLimit ≤ n then none else some (if negative then -(n : Int) else n, rest)
  | _, _ => none

/-- The further steps of a path; every round takes one. -/
def more : (rounds : Nat) → List Char → Option (List Step)
  | _, [] => some []
  | 0, _ => none
  | rounds + 1, '.' :: cs =>
    match cs.takeWhile isNameChar with
    | [] => none
    | name => (more rounds (cs.dropWhile isNameChar)).map (.field (String.ofList name) :: ·)
  | rounds + 1, '[' :: cs =>
    match index? cs with
    | some (n, rest) => (more rounds rest).map (.index n :: ·)
    | none => none
  | _, _ => none

def ofChars? (cs : List Char) : Option (List Step) :=
  match cs.takeWhile isNameChar with
  | [] => none
  | name => (more cs.length (cs.dropWhile isNameChar)).map (.field (String.ofList name) :: ·)

/-- The steps of a key; a key that is no path is a name as it stands. -/
def ofKey (key : String) : List Step := (ofChars? key.toList).getD [.field key]

end Step

namespace Value

/-- Changes the field of a name, nothing if it is not there. -/
def alter (name : String) (f : Value → Value) : List (String × Value) → List (String × Value)
  | [] => [(name, f .nothing)]
  | (n, v) :: fs => if n = name then (n, f v) :: fs else (n, v) :: alter name f fs

/-- Changes the item at a place, with nothing on the way to it. -/
def alterAt (f : Value → Value) : Nat → List Value → List Value
  | 0, [] => [f .nothing]
  | 0, v :: vs => f v :: vs
  | n + 1, [] => .nothing :: alterAt f n []
  | n + 1, v :: vs => v :: alterAt f n vs

/-- Changes an item counted from the front, or from the end; before the front there is nothing. -/
def alterIndex (f : Value → Value) (n : Int) (vs : List Value) : List Value :=
  match n with
  | .ofNat k => alterAt f k vs
  | .negSucc k =>
    if k < vs.length then alterAt f (vs.length - 1 - k) vs
    else alterAt f 0 (List.replicate (k + 1 - vs.length) .nothing ++ vs)

/-- Changes what a path leads to. -/
def alterPath (f : Value → Value) : List Step → Value → Value
  | [], v => f v
  | .field name :: p, v => .table (alter name (alterPath f p) v.fields)
  | .index n :: p, v => .list (alterIndex (alterPath f p) n v.items)

mutual

/-- Puts a value in place of another, or merges it into a table. -/
def overlay : (incoming present : Value) → Value
  | .table ms, present => .table (overlayFields ms present.fields)
  | .nothing, _ => .nothing
  | .bool b, _ => .bool b
  | .integer n, _ => .integer n
  | .float f, _ => .float f
  | .text s, _ => .text s
  | .list vs, _ => .list vs

def overlayFields : (incoming present : List (String × Value)) → List (String × Value)
  | [], present => present
  | (name, v) :: ms, present => overlayFields ms (alter name (overlay v) present)

end

/-- Sets the keys of one source over what earlier sources gave. -/
def setAll (keys : List (String × Value)) (v : Value) : Value :=
  keys.foldl (fun v m => alterPath (overlay m.2) (Step.ofKey m.1) v) v

/-! ## Fields after a change -/

@[simp] theorem lookup_alter_self (name : String) (f : Value → Value) (fs : List (String × Value)) :
    (alter name f fs).lookup name = some (f ((fs.lookup name).getD .nothing)) := by
  induction fs with
  | nil => simp [alter]
  | cons m fs ih =>
    obtain ⟨n, v⟩ := m
    by_cases h : n = name
    · simp [alter, h]
    · have h' : (name == n) = false := by simp [Ne.symm h]
      simp [alter, h, List.lookup_cons, h', ih]

theorem lookup_alter_of_ne {name other : String} (h : other ≠ name) (f : Value → Value)
    (fs : List (String × Value)) : (alter name f fs).lookup other = fs.lookup other := by
  have h' : (other == name) = false := by simpa using h
  induction fs with
  | nil => simp [alter, List.lookup_cons, h']
  | cons m fs ih =>
    obtain ⟨n, v⟩ := m
    by_cases hn : n = name
    · subst hn
      simp [alter, List.lookup_cons, h']
    · simp only [alter, hn, if_false, List.lookup_cons, ih]

end Value
end DatastoreAccess.Settings

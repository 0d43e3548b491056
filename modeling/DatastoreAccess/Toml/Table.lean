import DatastoreAccess.Settings.Value
/-!
# Toml.Table — tables while a document is read

A table remembers how it came about, since that decides what may still be added to it: a header may define a table that
other headers only passed through, dotted keys may add to any table without a header of its own, and nothing may be given
twice.
-/
namespace DatastoreAccess.Toml

open Settings (Value)

inductive Origin where
  | passed
  | header
  | dotted
  deriving DecidableEq, Repr

inductive Node where
  | leaf (v : Value)
  | table (origin : Origin) (fields : List (String × Node))
  | tables (items : List (List (String × Node)))

abbrev Fields := List (String × Node)

namespace Fields

/-- Changes the node of a name, which may be missing, unless the change is refused. -/
def change (name : String) (f : Option Node → Option Node) : Fields → Option Fields
  | [] => (f none).map fun n => [(name, n)]
  | (k, n) :: fs =>
    if k = name then (f (some n)).map fun n => (k, n) :: fs else (change name f fs).map ((k, n) :: ·)

/-- Changes the last item. -/
def changeLast (f : Fields → Option Fields) : List Fields → Option (List Fields)
  | [] => none
  | [fs] => (f fs).map fun fs => [fs]
  | fs :: l => (changeLast f l).map (fs :: ·)

/-- Changes the table that a header's path leads to. -/
def within (g : Fields → Option Fields) : (path : List String) → Fields → Option Fields
  | [], fs => g fs
  | k :: p, fs => change k (fun
    | none => (within g p []).map (.table .passed)
    | some (.leaf _) => none
    | some (.table o fs) => (within g p fs).map (.table o)
    | some (.tables items) => (changeLast (within g p) items).map .tables) fs

/-- Changes the table that the path of a dotted key leads to; no table on it may have a header of its own. -/
def withinDotted (g : Fields → Option Fields) : (path : List String) → Fields → Option Fields
  | [], fs => g fs
  | k :: p, fs => change k (fun
    | none => (withinDotted g p []).map (.table .dotted)
    | some (.leaf _) => none
    | some (.table o fs) =>
      if o = .header then none else (withinDotted g p fs).map (.table o)
    | some (.tables items) => if p = [] then none else (changeLast (withinDotted g p) items).map .tables) fs

/-- Adds a node under a new name. -/
def add (name : String) (n : Node) : Fields → Option Fields :=
  change name fun
    | none => some n
    | some _ => none

/-- Adds a value under a dotted key. -/
def addDotted (path : List String) (name : String) (v : Value) : Fields → Option Fields :=
  withinDotted (add name (.leaf v)) path

/-- Defines the table of a header. -/
def define (path : List String) (name : String) : Fields → Option Fields :=
  within (change name fun
    | none => some (.table .header [])
    | some (.table .passed fs) => some (.table .header fs)
    | some _ => none) path

/-- Starts a further table of a list. -/
def append (path : List String) (name : String) : Fields → Option Fields :=
  within (change name fun
    | none => some (.tables [[]])
    | some (.tables items) => some (.tables (items ++ [[]]))
    | some _ => none) path

end Fields

mutual

def Node.value : Node → Value
  | .leaf v => v
  | .table _ fs => .table (fieldValues fs)
  | .tables items => .list (itemValues items)

def fieldValues : List (String × Node) → List (String × Value)
  | [] => []
  | (k, n) :: fs => (k, n.value) :: fieldValues fs

def itemValues : List (List (String × Node)) → List Value
  | [] => []
  | fs :: l => .table (fieldValues fs) :: itemValues l

end

end DatastoreAccess.Toml

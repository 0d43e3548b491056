import DatastoreAccess.Text.Split
/-!
# Settings.Directory — the files that settings refer to

A path is looked up from the working directory step by step.  What lies outside the working directory is not known and
counts as missing.
-/
namespace DatastoreAccess

/-- What a path leads to. -/
inductive Found where
  | missing
  | directory
  | file (bytes : List UInt8)
  deriving DecidableEq, Repr

/-- The files of the working directory and the directories in it, each with the names that lead to it. -/
structure Directory where
  files : List (List String × List UInt8)
  directories : List (List String)
  deriving Repr

namespace Directory

/-- The steps of a path, without those that stay in place. -/
def steps (path : String) : List String :=
  ((Text.splitAll '/' path.toList).map String.ofList).filter fun s => s ≠ "" && s ≠ "."

/-- Adds a file, or a directory if the name ends in a slash. -/
def add (d : Directory) (name : String) (bytes : List UInt8) : Directory :=
  if name.toList.getLast? = some '/' then { d with directories := steps name :: d.directories }
  else { d with files := (steps name, bytes) :: d.files }

def ofList (entries : List (String × List UInt8)) : Directory :=
  entries.foldl (fun d e => d.add e.1 e.2) ⟨[], []⟩

/-- What names from the working directory lead to. -/
def entry (d : Directory) (names : List String) : Found :=
  match d.files.lookup names with
  | some bytes => .file bytes
  | none =>
    if names.isEmpty || d.directories.any names.isPrefixOf || d.files.any (fun f => names.isPrefixOf f.1) then .directory
    else .missing

/-- Where steps lead from a directory, `none` being outside the working directory. -/
def walk (d : Directory) : (place : Option (List String)) → List String → Found
  | none, [] => .directory
  | some names, [] => d.entry names
  | none, s :: l => if s = ".." then d.walk none l else .missing
  | some names, s :: l =>
    if s = ".." then d.walk (if names.isEmpty then none else some names.dropLast) l
    else
      match d.entry (names ++ [s]), l with
      | .missing, _ => .missing
      | .file bytes, [] => .file bytes
      | .file _, _ :: _ => .missing
      | .directory, l => d.walk (some (names ++ [s])) l

/-- Whether a path can only lead to a directory. -/
def namesDirectory (path : String) : Bool :=
  match (Text.splitAll '/' path.toList).getLast? with
  | some s => s = [] || s = ['.']
  | none => false

def look (d : Directory) (path : String) : Found :=
  if path.isEmpty || path.contains '\x00' then .missing
  else
    let found := d.walk (if path.toList.head? = some '/' then none else some []) (steps path)
    match found with
    | .file bytes => if namesDirectory path then .missing else .file bytes
    | found => found

/-! ## Names of files -/

/-- The last step of a path, unless that goes up. -/
def fileName? (path : String) : Option String := (steps path).getLast?.filter (· ≠ "..")

/-- What stands behind the last point of a file's name, unless the point starts the name. -/
def extension? (path : String) : Option String :=
  match (fileName? path).bind fun n => Text.splitLast '.' n.toList with
  | some (before, after) => if before.isEmpty then none else some (String.ofList after)
  | none => none

end Directory
end DatastoreAccess

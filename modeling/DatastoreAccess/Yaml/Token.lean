/-!
# Yaml.Token — the signs and texts of a YAML document

Signs that only indentation shows, such as the start and end of a block, are tokens like those that are written.
-/
namespace DatastoreAccess.Yaml

inductive Token where
  | documentStart
  | documentEnd
  | version
  /-- A directive that says what the handle of a tag stands for. -/
  | handle (name lead : List Char)
  | sequenceStart
  | mappingStart
  | blockEnd
  | item
  | key
  | value
  | bracketOpen
  | bracketClose
  | braceOpen
  | braceClose
  | comma
  | alias (name : List Char)
  | anchor (name : List Char)
  | tag (handle suffix : List Char)
  | text (plain : Bool) (s : List Char)
  deriving DecidableEq, Repr

end DatastoreAccess.Yaml

import DatastoreAccess.Settings.Path
import DatastoreAccess.Yaml.Datum
import DatastoreAccess.Yaml.Layout
/-!
# Yaml.Value — the settings that a YAML document gives

Keys are single values and are named by their text.  Infinities are no settings.
-/
namespace DatastoreAccess.Yaml

open Settings (Value)

/-- The name that a datum is as a key. -/
def Datum.name? : Datum → Option String
  | .bool b => some (if b then "true" else "false")
  | .integer n => some (toString n)
  | .fraction cs => some (String.ofList cs)
  | .text s => some (String.ofList s)
  | _ => none

mutual

/-- The setting that a datum is. -/
def Datum.value? : Datum → Option Value
  | .unfit => some .nothing
  | .nothing => some .nothing
  | .bool b => some (.bool b)
  | .integer n => some (.integer n)
  | .fraction cs => (decimal? cs).map .float
  | .text s => some (.text (String.ofList s))
  | .list ds => (itemValues? ds).map .list
  | .table ps => (fieldValues? [] ps).map .table

def itemValues? : List Datum → Option (List Value)
  | [] => some []
  | d :: ds => do return (← d.value?) :: (← itemValues? ds)

/-- The fields of a table after those before it; of two keys with one name the later counts. -/
def fieldValues? (fields : List (String × Value)) : List (Datum × Datum) → Option (List (String × Value))
  | [] => some fields
  | (k, d) :: ps => do
    let name ← k.name?
    let v ← d.value?
    fieldValues? (Value.alter name (fun _ => v) fields) ps

end

/-- The fields of a document whose node is a mapping.  A text without a document has none. -/
def ofString? (s : String) : Option (List (String × Value)) := do
  match ← document? (← tokens? s) with
  | none => return []
  | some n =>
    let (d, _) ← n.datum? #[]
    match ← d.value? with
    | .table fields => return fields
    | _ => none

end DatastoreAccess.Yaml

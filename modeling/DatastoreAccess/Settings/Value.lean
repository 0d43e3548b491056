import DatastoreAccess.Json.Value
import DatastoreAccess.Number.Binary64
import DatastoreAccess.Number.Layout
import DatastoreAccess.Number.Word
/-!
# Settings.Value — settings as a source gives them

Sources of several formats give values of one kind.  What a setting should be is only known when it is read: then a
number may serve as text and a text as number.
-/
namespace DatastoreAccess.Settings

inductive Value where
  | nothing
  | bool (b : Bool)
  | integer (n : Int)
  | float (f : Float)
  | text (s : String)
  | list (items : List Value)
  | table (fields : List (String × Value))
  deriving Repr

namespace Value

def fields : Value → List (String × Value)
  | .table fs => fs
  | _ => []

def items : Value → List Value
  | .list vs => vs
  | _ => []

def get? (v : Value) (name : String) : Option Value := v.fields.lookup name

/-! ## Values of a JSON document -/

mutual

/-- Integers beyond 63 bits are read as doubles. -/
def ofJson : Json → Value
  | .null => .nothing
  | .bool b => .bool b
  | .number (.integer n) => if n < Number.signedLimit then .integer n else .float (UInt64.ofNat n.toNat).toFloat
  | .number (.float f) => .float f
  | .string s => .text s
  | .array vs => .list (ofJsonItems vs)
  | .object fs => .table (ofJsonFields fs)

def ofJsonItems : List Json → List Value
  | [] => []
  | v :: vs => ofJson v :: ofJsonItems vs

def ofJsonFields : List (String × Json) → List (String × Value)
  | [] => []
  | (n, v) :: fs => (n, ofJson v) :: ofJsonFields fs

end

/-! ## Conversions -/

/-- Doubles as text are written out in full and need no point. -/
def layout : Number.Layout := ⟨-1000, 1000, false⟩

def floatText (f : Float) : String :=
  match Number.Binary64.ofFloat? f with
  | some b => String.ofList (layout.write b)
  | none => if f.isNaN then "NaN" else if f < 0 then "-inf" else "inf"

/-- A value as text: any single value but nothing. -/
def text? : Value → Option String
  | .text s => some s
  | .bool b => some (if b then "true" else "false")
  | .integer n => some (toString n)
  | .float f => some (floatText f)
  | _ => none

/-- The number that digits stand for, with a sign allowed in front, if it fits 64 bits. -/
def word? (s : String) : Option UInt64 :=
  let ds := match s.toList with
    | '+' :: ds => ds
    | ds => ds
  if ds.isEmpty || !ds.all Char.isDigit then none
  else
    let n := ds.foldl (fun n c => n * 10 + (c.toNat - 48)) 0
    if n < Number.wordLimit then some (UInt64.ofNat n) else none

/-- The nearest whole number of 64 bits. -/
def nearestWord (f : Float) : UInt64 :=
  match Number.Binary64.ofFloat? f with
  | some b => if b.negative then 0 else UInt64.ofNat (min b.rounded (Number.wordLimit - 1))
  | none => if f.isNaN ∨ f < 0 then 0 else UInt64.ofNat (Number.wordLimit - 1)

/-- A value as a whole number: also words for yes and no, and doubles at their nearest whole number. -/
def natural? : Value → Option UInt64
  | .integer n => if 0 ≤ n then some (UInt64.ofNat n.toNat) else none
  | .bool b => some (if b then 1 else 0)
  | .float f => some (nearestWord f)
  | .text s =>
    let word := s.toLower
    if word ∈ ["true", "on", "yes"] then some 1
    else if word ∈ ["false", "off", "no"] then some 0
    else word? s
  | _ => none

end Value
end DatastoreAccess.Settings

import DatastoreAccess.Number.Decimal
import DatastoreAccess.Number.Word
import DatastoreAccess.Text.Table
import DatastoreAccess.Yaml.Node
/-!
# Yaml.Datum — what the nodes of a YAML document stand for

A plain text may be a number, a truth value or nothing, by its form or by its tag; a quoted text is a text.  An alias
stands for the node of its anchor.  No key may stand twice in a mapping.
-/
namespace DatastoreAccess.Yaml

inductive Datum where
  /-- A text that does not fit its tag, or a node that contains its own alias. -/
  | unfit
  | nothing
  | bool (b : Bool)
  | integer (n : Int)
  /-- A fraction in its written form, by which fractions are told apart as keys. -/
  | fraction (written : List Char)
  | text (s : List Char)
  | list (items : List Datum)
  | table (pairs : List (Datum × Datum))

mutual

/-- Whether two data are the same, pair by pair and in the same order. -/
def Datum.isSame : Datum → Datum → Bool
  | .unfit, .unfit => true
  | .nothing, .nothing => true
  | .bool a, .bool b => a = b
  | .integer m, .integer n => m = n
  | .fraction s, .fraction t => s = t
  | .text s, .text t => s = t
  | .list as, .list bs => areSameItems as bs
  | .table as, .table bs => areSamePairs as bs
  | _, _ => false

def areSameItems : List Datum → List Datum → Bool
  | [], [] => true
  | a :: as, b :: bs => a.isSame b && areSameItems as bs
  | _, _ => false

def areSamePairs : List (Datum × Datum) → List (Datum × Datum) → Bool
  | [], [] => true
  | (k, a) :: as, (l, b) :: bs => k.isSame l && a.isSame b && areSamePairs as bs
  | _, _ => false

end

/-! ## Numbers -/

/-- A sign and what follows it. -/
def sign : List Char → Bool × List Char
  | '-' :: cs => (true, cs)
  | '+' :: cs => (false, cs)
  | cs => (false, cs)

/-- The integer that digits with or without a sign stand for, if it fits 64 bits. -/
def integer? (base : Nat) (cs : List Char) : Option Int := do
  let (negative, ds) := sign cs
  if ds.isEmpty then none
  let n : Nat ← ds.foldlM (fun n c => ((Text.hexDigit? c).filter (· < base)).map (n * base + ·)) 0
  let n : Int := if negative then -n else n
  if Number.fitsSigned n then some n else none

/-- The double that a decimal stands for; digits may be missing on one side of the point. -/
def decimal? (cs : List Char) : Option Float := do
  let (negative, cs) := sign cs
  let whole := cs.takeWhile Char.isDigit
  let (fraction, cs) : List Char × List Char := match cs.dropWhile Char.isDigit with
    | '.' :: r => (r.takeWhile Char.isDigit, r.dropWhile Char.isDigit)
    | r => ([], r)
  if whole.isEmpty && fraction.isEmpty then none
  let power : Int ← match cs with
    | [] => some 0
    | c :: r =>
      if c = 'e' || c = 'E' then
        let (down, ds) := sign r
        if ds.isEmpty || !ds.all Char.isDigit then none
        else some (if down then -Number.digitsValue ds else Number.digitsValue ds)
      else none
  some (Number.nearestDouble negative whole fraction power)

def infinities : List (List Char) :=
  [".inf", ".Inf", ".INF", "+.inf", "+.Inf", "+.INF", "-.inf", "-.Inf", "-.INF", ".nan", ".NaN", ".NAN"].map
    String.toList

def isFraction (cs : List Char) : Bool := infinities.contains cs || (decimal? cs).isSome

/-! ## Plain texts -/

def bool? (cs : List Char) : Option Bool :=
  if ["true", "True", "TRUE"].contains (String.ofList cs) then some true
  else if ["false", "False", "FALSE"].contains (String.ofList cs) then some false
  else none

def isNothing (cs : List Char) : Bool := cs = ['~'] || cs = "null".toList

/-- An integer that its start marks as one. -/
def markedInteger? : List Char → Option Int
  | '0' :: 'x' :: ds => integer? 16 ds
  | '0' :: 'o' :: ds => integer? 8 ds
  | '+' :: ds => integer? 10 ds
  | _ => none

namespace Datum

/-- What a plain text without a tag stands for. -/
def ofPlain (cs : List Char) : Datum :=
  if cs.isEmpty || isNothing cs then nothing
  else
    match markedInteger? cs <|> integer? 10 cs, bool? cs with
    | some n, _ => integer n
    | none, some b => bool b
    | none, none => if isFraction cs then fraction cs else text cs

/-- What a plain text with a tag stands for.  Only the tags of the standard types change it. -/
def ofTagged (t : Tag) (cs : List Char) : Datum :=
  if t.lead ≠ standardLead then text cs
  else
    match String.ofList t.suffix with
    | "bool" => ((bool? cs).map bool).getD unfit
    | "int" => ((integer? 10 cs).map integer).getD unfit
    | "float" => if isFraction cs then fraction cs else unfit
    | "null" => if isNothing cs then nothing else unfit
    | _ => text cs

def ofText (plain : Bool) (tag : Option Tag) (cs : List Char) : Datum :=
  match plain, tag with
  | false, _ => text cs
  | true, some t => ofTagged t cs
  | true, none => ofPlain cs

/-- The pairs that keys and values in turn make.  An unfit key gives way to what follows it, and a key with nothing
behind it is left out. -/
def pairs? : (key : Option Datum) → (pairs : List (Datum × Datum)) → List Datum → Option (List (Datum × Datum))
  | _, ps, [] => some ps
  | none, ps, unfit :: ds => pairs? none ps ds
  | none, ps, k :: ds => pairs? (some k) ps ds
  | some k, ps, d :: ds => if ps.any (·.1.isSame k) then none else pairs? none (ps ++ [(k, d)]) ds

end Datum

/-! ## Nodes -/

/-- The anchors so far, the latest last.  An anchor counts from its sign on, but its node is unfit until it is read. -/
abbrev Anchors := Array (List Char × Datum)

def Anchors.find? (known : Anchors) (name : List Char) : Option Datum := known.toList.reverse.lookup name

mutual

/-- What a node stands for, and the anchors after it. -/
def Node.datum? (known : Anchors) : Node → Option (Datum × Anchors)
  | .text plain tag s => some (.ofText plain tag s, known)
  | .sequence items => (itemData? known items).map fun (ds, known) => (.list ds, known)
  | .mapping pairs => do
    let (ds, known) ← pairData? known pairs
    (Datum.pairs? none [] ds).map fun ps => (.table ps, known)
  | .anchored name n => do
    let place := known.size
    let (d, known) ← n.datum? (known.push (name, .unfit))
    some (d, known.setIfInBounds place (name, d))
  | .alias name => (known.find? name).map (·, known)

def itemData? (known : Anchors) : List Node → Option (List Datum × Anchors)
  | [] => some ([], known)
  | n :: ns => do
    let (d, known) ← n.datum? known
    (itemData? known ns).map fun (ds, known) => (d :: ds, known)

/-- Keys and values in turn. -/
def pairData? (known : Anchors) : List (Node × Node) → Option (List Datum × Anchors)
  | [] => some ([], known)
  | (k, v) :: ps => do
    let (dk, known) ← k.datum? known
    let (dv, known) ← v.datum? known
    (pairData? known ps).map fun (ds, known) => (dk :: dv :: ds, known)

end

end DatastoreAccess.Yaml

import DatastoreAccess.Json.Record
import DatastoreAccess.Keys.SigningKey
import DatastoreAccess.Text.Base64Url
/-!
# Keys.Jwk — published keys and key sets

A published key is an object: common fields, and the parameters of one family, told by `kty`.  A field of a wrong kind
makes the object no key at all, and a set with such an entry no key set.  A key whose parameters cannot be decoded, or
that has no id, is a key that cannot be used; it is passed over.
-/
namespace DatastoreAccess

inductive Jwk.Parameters where
  | rsa (n e : String)
  | elliptic (x y : String)
  | octets (k : String)
  | edwards (x : String)
  deriving DecidableEq, Repr

structure Jwk where
  id : Option String
  parameters : Jwk.Parameters
  deriving DecidableEq, Repr

namespace Json

/-- A slot that may be missing or null. -/
def optional? {α : Type} (read : Tree → Option α) : Option Tree → Option (Option α)
  | none => some none
  | some .null => some none
  | some t => (read t).map some

/-- A slot that must be there. -/
def required? {α : Type} (read : Tree → Option α) : Option Tree → Option α
  | none => none
  | some t => read t

/-- The name of a choice, written as text or as an object from the name to null. -/
def Tree.choice? : Tree → Option String
  | .text s => s
  | .object [(name, .null)] => name
  | _ => none

end Json

namespace Jwk

open Json (Tree once? optional? required?)

def curves : List String := ["P-256", "P-384", "P-521", "Ed25519"]

/-- One of the choices named. -/
def oneOf? (names : List String) (t : Tree) : Option String := t.choice?.filter names.contains

/-- The parameters of one family.  Slots of other families are not looked at. -/
def parameters? (ms : List (Option String × Tree)) : Option Parameters := do
  let slot {α : Type} (name : String) (read : Tree → Option α) : Option α := do required? read (← once? ms name)
  match ← slot "kty" (oneOf? ["EC", "RSA", "oct", "OKP"]) with
  | "EC" =>
    let _ ← slot "crv" (oneOf? curves)
    some (.elliptic (← slot "x" Tree.string?) (← slot "y" Tree.string?))
  | "RSA" => some (.rsa (← slot "n" Tree.string?) (← slot "e" Tree.string?))
  | "oct" => some (.octets (← slot "k" Tree.string?))
  | _ =>
    let _ ← slot "crv" (oneOf? curves)
    some (.edwards (← slot "x" Tree.string?))

/-- The key that an object is; its members may nest `room` levels. -/
def ofTree? (room : Nat) : Tree → Option Jwk
  | .object ms => do
    let _ ← Json.memberValues? room ms
    let slot {α : Type} (name : String) (read : Tree → Option α) : Option (Option α) := do
      optional? read (← once? ms name)
    let _ ← slot "use" Tree.string?
    let _ ← slot "key_ops" Tree.strings?
    let _ ← slot "alg" Tree.choice?
    let id ← slot "kid" Tree.string?
    let _ ← slot "x5u" Tree.string?
    let _ ← slot "x5c" Tree.strings?
    let _ ← slot "x5t" Tree.string?
    let _ ← slot "x5t#S256" Tree.string?
    some ⟨id, ← parameters? ms⟩
  | _ => none

def ofString? (s : String) : Option Jwk :=
  (Tree.ofBytes? (Text.encodeString s)).bind (ofTree? (Json.depthLimit - 1))

def Parameters.material? : Parameters → Option KeyMaterial
  | .rsa n e => do some (.rsa ⟨← Text.Base64Url.decode? n.toList, ← Text.Base64Url.decode? e.toList⟩)
  | .elliptic x y => do some (.elliptic (← Text.Base64Url.decode? x.toList) (← Text.Base64Url.decode? y.toList))
  | .octets k => (Text.Base64Url.decode? k.toList).map .secret
  | .edwards x => (Text.Base64Url.decode? x.toList).map .edwards

/-- The signing key, if the entry has an id and its parameters decode. -/
def signingKey? (j : Jwk) : Option SigningKey := do some ⟨← j.id, ← j.parameters.material?⟩

end Jwk

/-! ## Key sets -/

/-- A key set: its entries in the order published. -/
structure KeySet where
  entries : List Jwk
  deriving DecidableEq, Repr

namespace KeySet

/-- The keys of a list of trees, which stand three levels deep. -/
def ofTrees? (ts : List Json.Tree) : Option KeySet := (ts.mapM (Jwk.ofTree? (Json.depthLimit - 3))).map KeySet.mk

/-- The key set that a document is. -/
def ofTree? (t : Json.Tree) : Option KeySet :=
  match t.slots? ["keys"] with
  | some [some (.list ts)] => ofTrees? ts
  | _ => none

/-- The key set that a response body is. -/
def ofBody? (body : List UInt8) : Option KeySet := (Json.Tree.ofBytes? body).bind ofTree?

/-- The keys that can be used, in the order published. -/
def usable (s : KeySet) : List SigningKey := s.entries.filterMap Jwk.signingKey?

/-- The last usable key with an id. -/
def find? (s : KeySet) (id : String) : Option SigningKey := s.usable.reverse.find? fun k => k.id = id

end KeySet
end DatastoreAccess

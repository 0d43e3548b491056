import DatastoreAccess.Keys.Jwk
import DatastoreAccess.Token.Compact
/-!
# Token.Header — how a token is signed and under which key

A header is an object.  The registered members stand at most once and have their own kinds; every other member has to be
a text.  Only the algorithm and the key id are kept.
-/
namespace DatastoreAccess.Token

inductive Algorithm where
  | hs256 | hs384 | hs512
  | es256 | es384
  | rs256 | rs384 | rs512
  | ps256 | ps384 | ps512
  | edDsa
  deriving DecidableEq, Repr

def Algorithm.ofName? : String → Option Algorithm
  | "HS256" => some .hs256 | "HS384" => some .hs384 | "HS512" => some .hs512
  | "ES256" => some .es256 | "ES384" => some .es384
  | "RS256" => some .rs256 | "RS384" => some .rs384 | "RS512" => some .rs512
  | "PS256" => some .ps256 | "PS384" => some .ps384 | "PS512" => some .ps512
  | "EdDSA" => some .edDsa
  | _ => none

/-- The digest of an accepted algorithm; the other algorithms are known but not accepted. -/
def Algorithm.accepted? : Algorithm → Option Rsa.Hash
  | .rs256 => some .sha256
  | .rs512 => some .sha512
  | _ => none

structure Header where
  algorithm : Algorithm
  keyId : Option String
  deriving DecidableEq, Repr

namespace Header

open Json (Tree once? optional? required?)

/-- Registered members that hold one text. -/
def textMembers : List String :=
  ["typ", "cty", "jku", "x5u", "x5t", "x5t#S256", "enc", "zip", "url", "nonce"]

/-- Registered members that hold a list of texts. -/
def listMembers : List String := ["x5c", "crit"]

def registered : List String := "alg" :: "jwk" :: "kid" :: textMembers ++ listMembers

/-- A key in a header stands two levels deep. -/
def ofTree? : Tree → Option Header
  | .object ms => do
    let _ ← Json.memberValues? (Json.depthLimit - 1) ms
    let slot {α : Type} (read : Tree → Option α) (name : String) : Option (Option α) := do
      optional? read (← once? ms name)
    let _ ← textMembers.mapM (slot Tree.string?)
    let _ ← listMembers.mapM (slot Tree.strings?)
    let _ ← slot (Jwk.ofTree? (Json.depthLimit - 2)) "jwk"
    let keyId ← slot Tree.string? "kid"
    let algorithm ← required? Tree.choice? (← once? ms "alg")
    let extra := ms.filter fun m => m.1.all fun name => !registered.contains name
    let _ ← extra.mapM fun m => m.2.string?
    some ⟨← Algorithm.ofName? algorithm, keyId⟩
  | _ => none

def ofSegment? (segment : List Char) : Option Header := do
  ofTree? (← Tree.ofBytes? (← Text.Base64Url.decode? segment))

end Header

/-- The header of a token, read before anything is checked. -/
def header? (token : String) : Option Header := do Header.ofSegment? (← Compact.ofString? token).header

/-- The id of the key that a token says it is signed with. -/
def keyId? (token : String) : Option String := (header? token).bind Header.keyId

end DatastoreAccess.Token

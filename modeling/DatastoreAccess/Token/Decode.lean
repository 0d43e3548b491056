import DatastoreAccess.Token.Expiry
import DatastoreAccess.Token.Header
/-!
# Token.Decode — from a token to its claims

`signed` checks the signature and reads the payload; `plain` reads the payload only.  Both end with the expiry.  The
order of the checks is fixed, since a token with several faults shows the first one.
-/
namespace DatastoreAccess.Token

/-- Why a token has no claims to offer. -/
inductive Fault where
  | malformed
  | algorithm
  | keyFamily
  | signature
  | expired
  | expiryFormat
  /-- No verdict at all: the leeway cannot be taken from the time. -/
  | overflow
  deriving DecidableEq, Repr

/-- Whether a tree is a list or object that holds something. -/
def holdsItems : Json.Tree → Bool
  | .list (_ :: _) => true
  | .object (_ :: _) => true
  | _ => false

def isContainer : Json.Tree → Bool
  | .list _ => true
  | .object _ => true
  | _ => false

/-- The slots that are read apart from the claims: none may be repeated, the subject may not be a list or object, and the
two instants may not be lists or objects that hold something. -/
def slotsReadable (members : List (Option String × Json.Tree)) : Bool :=
  let once (name : String) (bad : Json.Tree → Bool) : Bool :=
    match Json.once? members name with
    | none => false
    | some none => true
    | some (some t) => !bad t
  once Claims.expiration holdsItems && once Claims.notBefore holdsItems && once Claims.subject isContainer &&
    once Claims.issuer (fun _ => false) && once Claims.audience (fun _ => false)

/-- The tree of a payload segment. -/
def payloadTree? (segment : List Char) : Option Json.Tree :=
  (Text.Base64Url.decode? segment).bind Json.Tree.ofBytes?

def payload? (segment : List Char) : Option Claims := (payloadTree? segment).bind Claims.ofTree?

/-- Whether a key verifies the signature of a token: `none` when the key is of another family. -/
def signatureHolds? (c : Compact) (h : Rsa.Hash) : KeyMaterial → Option Bool
  | .rsa key =>
    some <| match Text.Base64Url.decode? c.signature with
      | some sig => key.verifies h (Text.encode c.message) sig
      | none => false
  | _ => none

/-- The claims of a payload whose slots can be read, and the slot of the expiry. -/
def signedPayload? (segment : List Char) : Option Claims := do
  let t ← payloadTree? segment
  let c ← Claims.ofTree? t
  match t with
  | .object ms => if slotsReadable ms then some c else none
  | _ => none

/-- Refuses an expiry before `floor`, and with `odd` one that is no instant.  Only an instant is held against the floor. -/
def checkExpiry (odd : Fault) (floor : Option Nat) : Stamp → Except Fault Unit
  | .absent => .ok ()
  | .unreadable => .error odd
  | .at t =>
    match floor with
    | none => .error .overflow
    | some floor => if t < floor then .error .expired else .ok ()

/-- The claims of a token whose signature holds under a key. -/
def signed (token : String) (key : KeyMaterial) (now leeway : UInt64) : Except Fault Claims := do
  let some c := Compact.ofString? token | throw .malformed
  let some header := Header.ofSegment? c.header | throw .malformed
  let some hash := header.algorithm.accepted? | throw .algorithm
  match signatureHolds? c hash key with
  | none => throw .keyFamily
  | some false => throw .signature
  | some true => pure ()
  let some claims := signedPayload? c.payload | throw .malformed
  checkExpiry .expiryFormat (signedFloor? now leeway) (Stamp.signed (claims.get? Claims.expiration))
  return claims

/-- The claims of a token, whoever signed it. -/
def plain (token : String) (now leeway : UInt64) : Except Fault Claims := do
  let some c := Compact.ofString? token | throw .malformed
  let some _ := Header.ofSegment? c.header | throw .malformed
  let some claims := payload? c.payload | throw .malformed
  checkExpiry .malformed (some (plainFloor now leeway)) (Stamp.plain claims)
  return claims

end DatastoreAccess.Token

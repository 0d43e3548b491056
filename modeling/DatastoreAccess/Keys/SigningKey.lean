import DatastoreAccess.Keys.Rsa
import DatastoreAccess.Text.Quoted
/-!
# Keys.SigningKey — keys that tokens are verified with

A key set may publish keys of four families.  Only RSA keys can verify an accepted token; the others are kept, so that
a token under one of them is told apart from a token under an unknown key.
-/
namespace DatastoreAccess

inductive KeyMaterial where
  | rsa (key : Rsa.PublicKey)
  | elliptic (x y : List UInt8)
  | edwards (x : List UInt8)
  | secret (bytes : List UInt8)
  deriving DecidableEq, Repr

/-- A key under the id it was published with. -/
structure SigningKey where
  id : String
  material : KeyMaterial
  deriving DecidableEq, Repr

/-- How a key shows itself: its id and nothing of the material. -/
def SigningKey.shown (k : SigningKey) : String :=
  "SigningKey \x7b key_id: " ++ Text.quoted k.id ++ ", .. \x7d"

end DatastoreAccess

import DatastoreAccess.Text.Base64Url
import DatastoreAccess.Text.Split
import DatastoreAccess.Text.Utf8
/-!
# Token.Compact — the three segments of a token

A token is `header.payload.signature`.  It is cut at its last point, and what is before that at its last point again, so
only the header segment can hold further points.  What is signed is the text before the last point.
-/
namespace DatastoreAccess.Token

structure Compact where
  header : List Char
  payload : List Char
  signature : List Char
  deriving DecidableEq, Repr

namespace Compact

def ofChars? (cs : List Char) : Option Compact := do
  let (message, signature) ← Text.splitLast '.' cs
  let (header, payload) ← Text.splitLast '.' message
  some ⟨header, payload, signature⟩

def ofString? (s : String) : Option Compact := ofChars? s.toList

/-- The text that the signature is over. -/
def message (c : Compact) : List Char := c.header ++ '.' :: c.payload

def toChars (c : Compact) : List Char := c.message ++ '.' :: c.signature

theorem toChars_of_ofChars? {cs : List Char} {c : Compact} (h : ofChars? cs = some c) : c.toChars = cs := by
  have last {d : Char} {l a b : List Char} (h : Text.splitLast d l = some (a, b)) : l = a ++ d :: b := by
    obtain ⟨⟨x, y⟩, hxy, he⟩ := Option.map_eq_some_iff.1 h
    cases he
    rw [← List.reverse_reverse l, (Text.splitFirst_eq_some hxy).1]
    simp
  simp only [ofChars?, Option.bind_eq_bind, Option.bind_eq_some_iff] at h
  obtain ⟨⟨m, s⟩, hm, ⟨x, p⟩, hx, hc⟩ := h
  cases hc
  have hx : m = x ++ '.' :: p := last hx
  rw [last hm, hx]
  rfl

end Compact
end DatastoreAccess.Token

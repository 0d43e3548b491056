import DatastoreAccess.Text.Visible
/-!
# Text.Quoted — a text between quotes, on one line

Quotes and backslashes get a backslash, the common control characters their letter, and every other character that is
not visible its number: `\u{7f}`.  So a quoted text shows exactly which characters it has.
-/
namespace DatastoreAccess.Text

/-- How a character stands between quotes. -/
def shown (c : Char) : List Char :=
  if c = '\x00' then ['\\', '0']
  else if c = '\t' then ['\\', 't']
  else if c = '\r' then ['\\', 'r']
  else if c = '\n' then ['\\', 'n']
  else if c = '"' then ['\\', '"']
  else if c = '\\' then ['\\', '\\']
  else if isVisible c then [c]
  else '\\' :: 'u' :: '\x7b' :: Nat.toDigits 16 c.toNat ++ ['\x7d']

def quoted (s : String) : String := String.ofList ('"' :: s.toList.flatMap shown ++ ['"'])

end DatastoreAccess.Text

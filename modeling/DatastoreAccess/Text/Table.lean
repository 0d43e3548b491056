import DatastoreAccess.Text.Split
/-!
# Text.Table — tables of characters

Tables of the character standard are kept as rows of words with spaces between them, all numbers in hexadecimal.  A
word is a character or a range of characters, `41` or `41-5A`, and may go on with what the table says about it.
-/
namespace DatastoreAccess.Text

/-- The value of a hexadecimal digit in either case. -/
def hexDigit? (c : Char) : Option Nat :=
  if '0' ≤ c ∧ c ≤ '9' then some (c.toNat - 48)
  else if 'a' ≤ c ∧ c ≤ 'f' then some (c.toNat - 87)
  else if 'A' ≤ c ∧ c ≤ 'F' then some (c.toNat - 55)
  else none

/-- The character whose number hexadecimal digits give. -/
def charOfHex? (ds : List Char) : Option Char := do
  let n ← ds.foldlM (fun n c => (hexDigit? c).map (n * 16 + ·)) 0
  if h : n.isValidChar then some (Char.ofNatAux n h) else none

namespace Table

/-- The number of a word of digits. -/
def number (ds : List Char) : Nat := ds.foldl (fun n c => n * 16 + (hexDigit? c).getD 0) 0

def words (rows : List String) : List (List Char) := rows.flatMap fun r => splitAll ' ' r.toList

/-- A range of characters by their numbers, both ends included. -/
structure Span where
  first : Nat
  last : Nat
  deriving DecidableEq, Repr

def Span.holds (s : Span) (c : Char) : Bool := s.first ≤ c.toNat && c.toNat ≤ s.last

def span (word : List Char) : Span :=
  match splitFirst '-' word with
  | some (a, b) => ⟨number a, number b⟩
  | none => ⟨number word, number word⟩

def spans (rows : List String) : List Span := (words rows).map span

def within (ss : List Span) (c : Char) : Bool := ss.any fun s => s.holds c

/-- Ranges with a number each, as in `300-314=E6`. -/
def valued (rows : List String) : List (Span × Nat) :=
  (words rows).filterMap fun w => (splitFirst '=' w).map fun (a, b) => (span a, number b)

/-- The number that a table gives a character. -/
def value? (t : List (Span × Nat)) (c : Char) : Option Nat := (t.find? fun e => e.1.holds c).map Prod.snd

end Table
end DatastoreAccess.Text

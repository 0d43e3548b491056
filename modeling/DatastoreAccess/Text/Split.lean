/-!
# Text.Split — cutting a text at a character

`splitAll` cuts at every occurrence, `splitFirst` at the first and `splitLast` at the last.  The cut character is in
no piece, so joining the pieces with it gives the text back.
-/
namespace DatastoreAccess.Text

def splitAll (c : Char) : List Char → List (List Char)
  | [] => [[]]
  | d :: l =>
    if d = c then [] :: splitAll c l
    else match splitAll c l with
      | [] => [[d]]
      | p :: ps => (d :: p) :: ps

/-- What is before and after the first `c`. -/
def splitFirst (c : Char) : List Char → Option (List Char × List Char)
  | [] => none
  | d :: l => if d = c then some ([], l) else (splitFirst c l).map fun (a, b) => (d :: a, b)

/-- What is before and after the last `c`. -/
def splitLast (c : Char) (l : List Char) : Option (List Char × List Char) :=
  (splitFirst c l.reverse).map fun (a, b) => (b.reverse, a.reverse)

/-- The text behind `p`, if the text starts with `p`. -/
def after? : (p : List Char) → List Char → Option (List Char)
  | [], l => some l
  | _ :: _, [] => none
  | c :: p, d :: l => if c = d then after? p l else none

theorem splitAll_ne_nil (c : Char) (l : List Char) : splitAll c l ≠ [] := by
  cases l with
  | nil => simp [splitAll]
  | cons d l =>
    unfold splitAll
    split
    · simp
    · split <;> simp

theorem splitFirst_eq_some {c : Char} {l a b : List Char} (h : splitFirst c l = some (a, b)) :
    l = a ++ c :: b ∧ c ∉ a := by
  induction l generalizing a b with
  | nil => simp [splitFirst] at h
  | cons d l ih =>
    unfold splitFirst at h
    split at h
    · next hd => cases h; simp [hd]
    · next hd =>
      obtain ⟨⟨a', b'⟩, hab, he⟩ := Option.map_eq_some_iff.1 h
      cases he
      obtain ⟨rfl, hc⟩ := ih hab
      exact ⟨rfl, by simp [hc, Ne.symm hd]⟩

end DatastoreAccess.Text

/-!
# Text.Names — sets of names

A set of names is a list in order without repetition, so that two sets with the same names are equal.  Names are ordered
by code points.
-/
namespace DatastoreAccess.Text

def insertName (name : String) : List String → List String
  | [] => [name]
  | n :: l => if name = n then n :: l else if name < n then name :: n :: l else n :: insertName name l

/-- The names of a list, each once, in order. -/
def names (l : List String) : List String := l.foldl (fun s n => insertName n s) []

theorem mem_insertName {x name : String} {l : List String} : x ∈ insertName name l ↔ x = name ∨ x ∈ l := by
  induction l with
  | nil => simp [insertName]
  | cons n l ih =>
    unfold insertName
    split
    · next h => subst h; simp
    · split
      · simp
      · simp only [List.mem_cons, ih]
        constructor
        · rintro (h | h | h) <;> simp [h]
        · rintro (h | h | h) <;> simp [h]

@[simp] theorem mem_names {x : String} {l : List String} : x ∈ names l ↔ x ∈ l := by
  have go (l acc : List String) : x ∈ l.foldl (fun s n => insertName n s) acc ↔ x ∈ acc ∨ x ∈ l := by
    induction l generalizing acc with
    | nil => simp
    | cons n l ih =>
      simp only [List.foldl_cons, ih, mem_insertName, List.mem_cons]
      constructor
      · rintro ((h | h) | h) <;> simp [h]
      · rintro (h | h | h) <;> simp [h]
  simp [names, go]

theorem pairwise_insertName {name : String} {l : List String} (h : l.Pairwise (· < ·)) :
    (insertName name l).Pairwise (· < ·) := by
  induction l with
  | nil => simp [insertName]
  | cons n l ih =>
    obtain ⟨hn, hl⟩ := List.pairwise_cons.1 h
    unfold insertName
    split
    · exact h
    · next hne =>
      split
      · next hlt =>
        refine List.pairwise_cons.2 ⟨fun x hx => ?_, h⟩
        rcases List.mem_cons.1 hx with rfl | hx
        · exact hlt
        · exact String.lt_trans hlt (hn x hx)
      · next hnlt =>
        refine List.pairwise_cons.2 ⟨fun x hx => ?_, ih hl⟩
        rcases mem_insertName.1 hx with rfl | hx
        · exact Std.lt_of_le_of_ne (String.not_lt.1 hnlt) (Ne.symm hne)
        · exact hn x hx

theorem pairwise_names (l : List String) : (names l).Pairwise (· < ·) := by
  have go (l acc : List String) (h : acc.Pairwise (· < ·)) :
      (l.foldl (fun s n => insertName n s) acc).Pairwise (· < ·) := by
    induction l generalizing acc with
    | nil => exact h
    | cons n l ih => exact ih _ (pairwise_insertName h)
  exact go l [] .nil

end DatastoreAccess.Text

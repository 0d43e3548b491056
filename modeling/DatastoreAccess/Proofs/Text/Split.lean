import DatastoreAccess.Text.Blank
import DatastoreAccess.Text.Split
import Mathlib.Data.List.TakeWhile
/-!
# Proofs.Text.Split — what cutting and trimming give

The pieces of a text at a character are its longest stretches without that character (`mem_splitAll`), and joining them
gives the text back (`intercalate_splitAll`).  Trimming a text gives the stretch of it that neither begins nor ends with
white space and has nothing but white space around it (`trim_eq_iff`).  Both are said of the text itself, without the
functions that cut.
-/
namespace DatastoreAccess.Text

/-! ## Pieces -/

/-- A stretch without `c` that reaches on both sides to a `c` or to the end of the text. -/
def IsPiece (c : Char) (l piece : List Char) : Prop :=
  ∃ front back, l = front ++ piece ++ back ∧ c ∉ piece ∧ (front = [] ∨ ∃ f, front = f ++ [c]) ∧
    (back = [] ∨ ∃ b, back = c :: b)

theorem splitAll_of_not_mem {c : Char} : ∀ {l : List Char}, c ∉ l → splitAll c l = [l]
  | [], _ => rfl
  | d :: l, h => by
    rw [List.mem_cons, not_or] at h
    rw [splitAll, if_neg (Ne.symm h.1), splitAll_of_not_mem h.2]

theorem splitAll_append_cons (c : Char) : ∀ a b : List Char,
    splitAll c (a ++ c :: b) = splitAll c a ++ splitAll c b
  | [], b => by
    rw [List.nil_append, splitAll.eq_2, if_pos rfl]
    rfl
  | d :: a, b => by
    rw [List.cons_append, splitAll, splitAll, splitAll_append_cons c a b]
    by_cases h : d = c
    · rw [if_pos h, if_pos h, List.cons_append]
    · rw [if_neg h, if_neg h]
      cases hs : splitAll c a with
      | nil => exact absurd hs (splitAll_ne_nil c a)
      | cons p ps => rfl

theorem splitFirst_append_cons {c : Char} : ∀ {a b : List Char}, c ∉ a → splitFirst c (a ++ c :: b) = some (a, b)
  | [], b, _ => by rw [List.nil_append, splitFirst, if_pos rfl]
  | d :: a, b, h => by
    rw [List.mem_cons, not_or] at h
    rw [List.cons_append, splitFirst, if_neg (Ne.symm h.1), splitFirst_append_cons h.2]
    rfl

theorem isPiece_of_mem_splitAll {c : Char} {p : List Char} (l : List Char) (h : p ∈ splitAll c l) : IsPiece c l p := by
  by_cases hc : c ∈ l
  · -- the first piece ends at the first `c`; the others are pieces of what follows it
    obtain ⟨a, b, rfl, ha⟩ := List.eq_append_cons_of_mem hc
    rw [splitAll_append_cons, splitAll_of_not_mem ha, List.singleton_append, List.mem_cons] at h
    rcases h with rfl | h
    · exact ⟨[], c :: b, by simp, ha, .inl rfl, .inr ⟨b, rfl⟩⟩
    · obtain ⟨front, back, rfl, hp, hf, hb⟩ := isPiece_of_mem_splitAll b h
      refine ⟨a ++ c :: front, back, by simp, hp, .inr ?_, hb⟩
      rcases hf with rfl | ⟨f, rfl⟩
      · exact ⟨a, rfl⟩
      · exact ⟨a ++ c :: f, by simp⟩
  · rw [splitAll_of_not_mem hc, List.mem_singleton] at h
    subst h
    exact ⟨[], [], by simp, hc, .inl rfl, .inl rfl⟩
termination_by l.length

theorem mem_splitAll {c : Char} {l p : List Char} : p ∈ splitAll c l ↔ IsPiece c l p := by
  constructor
  · exact isPiece_of_mem_splitAll l
  · rintro ⟨front, back, rfl, hp, hf, hb⟩
    have tail : p ∈ splitAll c (p ++ back) := by
      rcases hb with rfl | ⟨b, rfl⟩
      · rw [List.append_nil, splitAll_of_not_mem hp]
        exact List.mem_singleton_self p
      · rw [splitAll_append_cons, splitAll_of_not_mem hp]
        exact List.mem_append_left _ (List.mem_singleton_self p)
    rcases hf with rfl | ⟨f, rfl⟩
    · exact tail
    · rw [List.append_assoc, List.append_assoc, List.singleton_append, splitAll_append_cons]
      exact List.mem_append_right _ tail

/-! ## Joining -/

theorem intercalate_append (c : Char) : ∀ {ps qs : List (List Char)}, ps ≠ [] → qs ≠ [] →
    [c].intercalate (ps ++ qs) = [c].intercalate ps ++ c :: [c].intercalate qs
  | [], _, h, _ => absurd rfl h
  | [p], q :: qs, _, _ => by
    rw [List.singleton_append, List.intercalate_cons_cons, List.intercalate_singleton, List.append_assoc,
      List.singleton_append]
  | p :: p' :: ps, qs, _, h => by
    rw [List.cons_append, List.cons_append, List.intercalate_cons_cons, ← List.cons_append,
      intercalate_append c (List.cons_ne_nil p' ps) h, List.intercalate_cons_cons]
    simp only [List.append_assoc]

/-- The pieces of a text, joined again. -/
theorem intercalate_splitAll (c : Char) (l : List Char) : [c].intercalate (splitAll c l) = l := by
  by_cases hc : c ∈ l
  · obtain ⟨a, b, rfl, ha⟩ := List.eq_append_cons_of_mem hc
    rw [splitAll_append_cons, intercalate_append c (splitAll_ne_nil c a) (splitAll_ne_nil c b),
      splitAll_of_not_mem ha, List.intercalate_singleton, intercalate_splitAll c b]
  · rw [splitAll_of_not_mem hc, List.intercalate_singleton]
termination_by l.length

theorem splitAll_intercalate {c : Char} : ∀ {ps : List (List Char)}, ps ≠ [] → (∀ p ∈ ps, c ∉ p) →
    splitAll c ([c].intercalate ps) = ps
  | [], h, _ => absurd rfl h
  | [p], _, h => by
    rw [List.intercalate_singleton]
    exact splitAll_of_not_mem (h p (List.mem_singleton_self p))
  | p :: q :: ps, _, h => by
    obtain ⟨hp, hps⟩ := List.forall_mem_cons.1 h
    rw [List.intercalate_cons_cons, List.append_assoc, List.singleton_append, splitAll_append_cons,
      splitAll_of_not_mem hp, splitAll_intercalate (List.cons_ne_nil q ps) hps]
    rfl

/-- The pieces of one text begin those of another when the other goes on with `c`, or does not go on. -/
theorem splitAll_prefix_iff {c : Char} {a l : List Char} :
    splitAll c a <+: splitAll c l ↔ l = a ∨ ∃ rest, l = a ++ c :: rest := by
  constructor
  · rintro ⟨t, ht⟩
    have hl : l = [c].intercalate (splitAll c a ++ t) := by rw [ht, intercalate_splitAll]
    cases t with
    | nil =>
      rw [List.append_nil, intercalate_splitAll] at hl
      exact .inl hl
    | cons p ps =>
      rw [intercalate_append c (splitAll_ne_nil c a) (List.cons_ne_nil p ps), intercalate_splitAll] at hl
      exact .inr ⟨_, hl⟩
  · rintro (rfl | ⟨rest, rfl⟩)
    · exact List.prefix_rfl
    · rw [splitAll_append_cons]
      exact List.prefix_append _ _

/-! ## Trimming -/

/-- `core` is what stands in `l` between its outer white space. -/
structure TrimsTo (l core : List Char) : Prop where
  within : ∃ a b, l = a ++ core ++ b ∧ (∀ c ∈ a, isBlank c = true) ∧ ∀ c ∈ b, isBlank c = true
  starts : ∀ c, core.head? = some c → isBlank c = false
  ends : ∀ c, core.getLast? = some c → isBlank c = false

theorem head?_dropWhile_isBlank {l : List Char} {c : Char} (h : (l.dropWhile isBlank).head? = some c) :
    isBlank c = false := by
  have hn := List.head?_dropWhile_not isBlank l
  rw [h] at hn
  simpa using hn

theorem dropWhile_of_starts {p : Char → Bool} {l : List Char} (h : ∀ c, l.head? = some c → p c = false) :
    l.dropWhile p = l := by
  cases l with
  | nil => rfl
  | cons c l => exact List.dropWhile_cons_of_neg (by simp [h c rfl])

/-- What is trimmed off is what stands around a core that neither begins nor ends with such a character. -/
theorem trimWhile_append {p : Char → Bool} {a core b : List Char} (ha : ∀ c ∈ a, p c = true) (hb : ∀ c ∈ b, p c = true)
    (hs : ∀ c, core.head? = some c → p c = false) (he : ∀ c, core.getLast? = some c → p c = false) :
    trimWhile p (a ++ core ++ b) = core := by
  rw [trimWhile, List.append_assoc, List.dropWhile_append_of_pos ha]
  cases core with
  | nil => rw [List.nil_append, List.dropWhile_eq_nil_iff.2 hb]; rfl
  | cons c core =>
    have hfront : (c :: core ++ b).dropWhile p = c :: core ++ b := dropWhile_of_starts hs
    have hback : (c :: core).reverse.dropWhile p = (c :: core).reverse := by
      apply dropWhile_of_starts
      intro d hd
      rw [List.head?_reverse] at hd
      exact he d hd
    rw [hfront, List.reverse_append, List.dropWhile_append_of_pos fun d hd => hb d (List.mem_reverse.1 hd), hback,
      List.reverse_reverse]

theorem trimsTo_trim (l : List Char) : TrimsTo l (trim l) := by
  have hfront : l = l.takeWhile isBlank ++ l.dropWhile isBlank := List.takeWhile_append_dropWhile.symm
  have hback : l.dropWhile isBlank = trim l ++ ((l.dropWhile isBlank).reverse.takeWhile isBlank).reverse := by
    rw [trim, trimWhile, ← List.reverse_append, List.takeWhile_append_dropWhile, List.reverse_reverse]
  refine ⟨⟨l.takeWhile isBlank, ((l.dropWhile isBlank).reverse.takeWhile isBlank).reverse, ?_,
    fun c hc => List.mem_takeWhile_imp hc, fun c hc => List.mem_takeWhile_imp (List.mem_reverse.1 hc)⟩, ?_, ?_⟩
  · rw [List.append_assoc, ← hback]
    exact hfront
  · intro c hc
    have hd : (l.dropWhile isBlank).head? = some c := by
      rw [hback, List.head?_append, hc]
      rfl
    exact head?_dropWhile_isBlank hd
  · intro c hc
    rw [trim, trimWhile, List.getLast?_reverse] at hc
    exact head?_dropWhile_isBlank hc

theorem trim_eq_iff {l core : List Char} : trim l = core ↔ TrimsTo l core := by
  constructor
  · rintro rfl
    exact trimsTo_trim l
  · rintro ⟨⟨a, b, rfl, ha, hb⟩, hs, he⟩
    exact trimWhile_append ha hb hs he

/-! ## Beginnings -/

theorem after?_eq_some_iff : ∀ {p l r : List Char}, after? p l = some r ↔ l = p ++ r
  | [], l, r => by rw [after?, Option.some.injEq, List.nil_append]
  | c :: p, [], r => by simp [after?]
  | c :: p, d :: l, r => by
    rw [after?, List.cons_append, List.cons.injEq]
    by_cases h : c = d
    · rw [if_pos h, after?_eq_some_iff]
      simp [h]
    · rw [if_neg h]
      simp [Ne.symm h]

end DatastoreAccess.Text

import DatastoreAccess.Access.Error
/-!
# Proofs.Answers — answers taken apart

Checks answer with a value or with an error, and a check is only made when the ones before it have answered with a
value.  So a chain of checks answers with a value when each of them does, and with an error when the first one that
fails gives it.  Two chains with the same errors answer alike when each step keeps their values related (`Related`).
-/
namespace DatastoreAccess.Answers

variable {ε φ α β : Type}

theorem bind_ok {x : Except ε α} {f : α → Except ε β} {b : β} :
    (do f (← x)) = .ok b ↔ ∃ a, x = .ok a ∧ f a = .ok b := by
  cases x with
  | error e =>
    constructor
    · intro h
      cases h
    · rintro ⟨_, h, _⟩
      cases h
  | ok a =>
    constructor
    · intro h
      exact ⟨a, rfl, h⟩
    · rintro ⟨_, h, hb⟩
      cases h; exact hb

theorem bind_error {x : Except ε α} {f : α → Except ε β} {e : ε} :
    (do f (← x)) = .error e ↔ x = .error e ∨ ∃ a, x = .ok a ∧ f a = .error e := by
  cases x with
  | error e' =>
    constructor
    · intro h
      cases h
      exact .inl rfl
    · rintro (h | ⟨_, h, _⟩)
      · cases h; rfl
      · cases h
  | ok a =>
    constructor
    · intro h
      exact .inr ⟨a, rfl, h⟩
    · rintro (h | ⟨_, h, he⟩)
      · cases h
      · cases h; exact he

theorem map_ok {x : Except ε α} {f : α → β} {b : β} : x.map f = .ok b ↔ ∃ a, x = .ok a ∧ f a = b := by
  cases x <;> simp [Except.map]

theorem map_eq_bind {x : Except ε α} {f : α → β} : x.map f = x.bind fun a => .ok (f a) := by
  cases x <;> rfl

theorem mapError_ok {x : Except ε α} {f : ε → φ} {a : α} : x.mapError f = .ok a ↔ x = .ok a := by
  cases x with
  | error e =>
    constructor
    · intro h
      cases h
    · intro h
      cases h
  | ok b =>
    constructor
    · intro h
      cases h; rfl
    · intro h
      cases h; rfl

theorem mapError_error {x : Except ε α} {f : ε → φ} {e : φ} :
    x.mapError f = .error e ↔ ∃ c, x = .error c ∧ f c = e := by
  cases x with
  | error e' =>
    constructor
    · intro h
      cases h
      exact ⟨e', rfl, rfl⟩
    · rintro ⟨c, hc, rfl⟩
      cases hc; rfl
  | ok a =>
    constructor
    · intro h
      cases h
    · rintro ⟨c, hc, -⟩
      cases hc

theorem refused_error {x : Except AccessError α} {e : AccessError} :
    x.mapError Failure.refused = .error (.refused e) ↔ x = .error e := by
  rw [mapError_error]
  constructor
  · rintro ⟨c, hx, hc⟩
    rw [hx, Failure.refused.inj hc]
  · intro hx
    exact ⟨e, hx, rfl⟩

/-- A check that can only refuse breaks nothing off. -/
theorem refused_ne_overflow {x : Except AccessError α} : x.mapError Failure.refused ≠ .error .overflow := by
  intro h
  obtain ⟨c, -, hc⟩ := mapError_error.1 h
  cases hc

/-- A refusal in front of further checks. -/
theorem refuse_ok {b : Bool} {e : ε} {f : Unit → Except ε α} {a : α} :
    (if b then do f (← (throw e : Except ε Unit)) else f ()) = .ok a ↔ b = false ∧ f () = .ok a := by
  cases b with
  | true =>
    constructor
    · intro h
      cases h
    · rintro ⟨h, -⟩
      cases h
  | false => exact ⟨fun h => ⟨rfl, h⟩, fun h => h.2⟩

theorem refuse_error {b : Bool} {e e' : ε} {f : Unit → Except ε α} :
    (if b then do f (← (throw e : Except ε Unit)) else f ()) = .error e' ↔
      b = true ∧ e' = e ∨ b = false ∧ f () = .error e' := by
  cases b with
  | true =>
    constructor
    · intro h
      cases h
      exact .inl ⟨rfl, rfl⟩
    · rintro (⟨-, rfl⟩ | ⟨h, -⟩)
      · rfl
      · cases h
  | false =>
    constructor
    · intro h
      exact .inr ⟨rfl, h⟩
    · rintro (⟨h, -⟩ | ⟨-, h⟩)
      · cases h
      · exact h

/-- A check that is one test. -/
theorem test_ok {p : Prop} [Decidable p] {e : ε} :
    (if p then .ok () else .error e : Except ε Unit) = .ok () ↔ p := by
  by_cases h : p
  · simp [h]
  · simp [h]

theorem test_error {p : Prop} [Decidable p] {e e' : ε} :
    (if p then .ok () else .error e : Except ε Unit) = .error e' ↔ ¬ p ∧ e' = e := by
  by_cases h : p
  · simp [h]
  · simp [h, eq_comm]

/-- A text that must not be empty. -/
theorem nonempty_ok {s t : String} {e : ε} :
    (if s = "" then .error e else .ok s : Except ε String) = .ok t ↔ s = t ∧ t ≠ "" := by
  by_cases h : s = ""
  · subst h
    rw [if_pos rfl]
    constructor
    · intro h
      cases h
    · rintro ⟨rfl, hne⟩
      exact absurd rfl hne
  · rw [if_neg h, Except.ok.injEq]
    constructor
    · rintro rfl
      exact ⟨rfl, h⟩
    · exact And.left

theorem nonempty_error {s : String} {e e' : ε} :
    (if s = "" then .error e else .ok s : Except ε String) = .error e' ↔ s = "" ∧ e' = e := by
  by_cases h : s = ""
  · simp [h, eq_comm]
  · simp [h]

/-- Two answers that are the same error, or two values in a relation. -/
inductive Related (R : α → β → Prop) : Except ε α → Except ε β → Prop where
  | error (e : ε) : Related R (.error e) (.error e)
  | ok {a : α} {b : β} (values : R a b) : Related R (.ok a) (.ok b)

namespace Related

variable {γ δ : Type} {R : α → β → Prop} {S : γ → δ → Prop} {x : Except ε α} {y : Except ε β}

/-- Related answers stay related behind steps that keep values related. -/
theorem bind {f : α → Except ε γ} {g : β → Except ε δ} (h : Related R x y)
    (step : ∀ a b, R a b → Related S (f a) (g b)) : Related S (do f (← x)) (do g (← y)) := by
  cases h with
  | error e => exact .error e
  | ok values => exact step _ _ values

theorem mapError (h : Related R x y) (f : ε → φ) : Related R (x.mapError f) (y.mapError f) := by
  cases h with
  | error e => exact .error (f e)
  | ok values => exact .ok values

theorem of_ok (h : Related R x y) {a : α} (hx : x = .ok a) : ∃ b, y = .ok b ∧ R a b := by
  subst hx
  cases h with
  | ok values => exact ⟨_, rfl, values⟩

theorem map_eq {f : α → γ} {g : β → γ} (h : Related R x y) (values : ∀ a b, R a b → f a = g b) :
    x.map f = y.map g := by
  cases h with
  | error e => rfl
  | ok h => exact congrArg Except.ok (values _ _ h)

theorem of_eq {x y : Except ε α} (h : x = y) : Related (· = ·) x y := by
  subst h
  cases x with
  | error e => exact .error e
  | ok a => exact .ok rfl

theorem refuse {b : Bool} {e : ε} {f : Unit → Except ε α} {g : Unit → Except ε β} (h : Related R (f ()) (g ())) :
    Related R (if b then do f (← (throw e : Except ε Unit)) else f ())
      (if b then do g (← (throw e : Except ε Unit)) else g ()) := by
  cases b with
  | true => exact .error e
  | false => exact h

end Related

/-- The results of reading every item of a list. -/
theorem mem_of_mapM {f : α → Option β} : ∀ {l : List α} {bs : List β}, l.mapM f = some bs →
    ∀ {b : β}, b ∈ bs ↔ ∃ a ∈ l, f a = some b
  | [], bs, h, b => by
    cases h
    simp
  | a :: l, bs, h, b => by
    rw [List.mapM_cons] at h
    obtain ⟨b₀, hb, h⟩ := Option.bind_eq_some_iff.1 h
    obtain ⟨bs₀, hbs, h⟩ := Option.bind_eq_some_iff.1 h
    cases h
    simp only [List.mem_cons, exists_eq_or_imp, hb, Option.some.injEq, mem_of_mapM hbs]
    exact or_congr_left eq_comm

/-- Reading every item of a list gives a result when each of them can be read. -/
theorem exists_mapM {f : α → Option β} : ∀ {l : List α}, (∃ bs, l.mapM f = some bs) ↔ ∀ a ∈ l, ∃ b, f a = some b
  | [] => by simp
  | a :: l => by
    have ih := exists_mapM (f := f) (l := l)
    rw [List.forall_mem_cons, ← ih, List.mapM_cons]
    constructor
    · rintro ⟨bs, h⟩
      obtain ⟨b, hb, h⟩ := Option.bind_eq_some_iff.1 h
      obtain ⟨bs', hbs, -⟩ := Option.bind_eq_some_iff.1 h
      exact ⟨⟨b, hb⟩, bs', hbs⟩
    · rintro ⟨⟨b, hb⟩, bs, hbs⟩
      exact ⟨b :: bs, by simp [hb, hbs]⟩

end DatastoreAccess.Answers

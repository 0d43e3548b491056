import DatastoreAccess.Token.Policy
/-!
# Proofs.Token.Views — what the views of claims say

Each view of a claim set is put back to the fields: which text a claim holds (`string?_eq_some`), whether it is there
and not null (`contains_iff`), which audiences are named (`mem_audiences`), and what a policy demands
(`satisfiedBy_make`).
-/
namespace DatastoreAccess.Claims

/-- The claim is there and not null. -/
def Gives (c : Claims) (name : String) : Prop := ∃ v, c.get? name = some v ∧ v ≠ .null

/-- The audience is the text `a`, or a list with the text `a` in it. -/
def Names (c : Claims) (a : String) : Prop :=
  c.get? audience = some (.string a) ∨ ∃ vs, c.get? audience = some (.array vs) ∧ Json.string a ∈ vs

theorem json_string?_eq_some {v : Json} {s : String} : v.string? = some s ↔ v = .string s := by
  cases v <;> simp [Json.string?]

theorem string?_eq_some {c : Claims} {name s : String} : c.string? name = some s ↔ c.get? name = some (.string s) := by
  unfold string?
  rw [Option.bind_eq_some_iff]
  constructor
  · rintro ⟨v, hv, hs⟩
    rw [hv, json_string?_eq_some.1 hs]
  · intro h
    exact ⟨_, h, rfl⟩

theorem isNull_eq_false {v : Json} : v.isNull = false ↔ v ≠ .null := by
  cases v <;> simp [Json.isNull]

theorem contains_iff {c : Claims} {name : String} : c.contains name = true ↔ c.Gives name := by
  unfold contains Gives
  cases c.get? name with
  | none => simp
  | some v => simp [isNull_eq_false]

theorem gives_of_string {c : Claims} {name s : String} (h : c.get? name = some (.string s)) : c.Gives name :=
  ⟨_, h, fun hn => nomatch hn⟩

theorem mem_audiences {c : Claims} {a : String} : a ∈ c.audiences ↔ c.Names a := by
  unfold audiences Names
  cases hv : c.get? audience with
  | none => simp
  | some v =>
    cases v with
    | string s => simp [audiencesOf, eq_comm]
    | array vs => simp [audiencesOf, json_string?_eq_some]
    | _ => simp [audiencesOf]

end DatastoreAccess.Claims

namespace DatastoreAccess.Policy

theorem satisfiedBy_iff {p : Policy} {c : Claims} :
    p.satisfiedBy c = true ↔ ∀ name ∈ p.required.getD [], c.Gives name := by
  simp only [satisfiedBy, List.all_eq_true, Claims.contains_iff]

/-- Where an audience is expected, it must be named, if the policy looks at audiences at all. -/
theorem acceptsAudience_iff {p : Policy} {a : String} {c : Claims} :
    p.acceptsAudience (some a) c = true ↔ (p.verifiesAudience = true → c.Names a) := by
  unfold acceptsAudience
  split
  · rename_i h
    simp [h, Claims.mem_audiences]
  · rename_i h
    simp [h]

/-- A policy that requires claims is satisfied when these are given, and the claim of the user. -/
theorem satisfiedBy_make {subject : String} {names : List String} {audience : Bool} {c : Claims} :
    (make subject (some names) audience).satisfiedBy c = true ↔ ∀ name ∈ subject :: names, c.Gives name := by
  simp only [make, satisfiedBy, Option.map_some, Option.getD_some, List.all_eq_true, Text.mem_insertName,
    Text.mem_names, Claims.contains_iff, List.mem_cons]

theorem acceptsAudience_make {subject : String} {names : Option (List String)} {a : String} {c : Claims} :
    (make subject names true).acceptsAudience (some a) c = true ↔ c.Names a := by
  simp only [make, acceptsAudience, if_true, List.contains_iff_mem, Claims.mem_audiences]

end DatastoreAccess.Policy

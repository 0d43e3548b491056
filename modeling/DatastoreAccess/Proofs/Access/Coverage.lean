import Mathlib
import DatastoreAccess.Proofs.Access.Separation
/-!
# Proofs.Access.Coverage — which datastores an audience covers

Datastores have dotted names, and an audience stands for the datastore of its name and for those below it (`Above`).
What is compared is characters, though, and not labels.  So an audience covers what it stands above, and also every name
that goes on inside its last label (`Overruns`): `no.ssb` covers `no.ssb.fdb`, and `no.ssbank.x` as well
(`sibling_covered`).  Nothing else is covered, and what is not covered is forbidden (`coversDatastore_by_characters`).
-/
namespace DatastoreAccess

namespace Checks

/-- The labels of a dotted name. -/
def labels (name : String) : List (List Char) := Text.splitAll '.' name.toList

/-- The audience is the name of the datastore or of one above it: its labels begin those of the datastore. -/
def Above (audience rdn : String) : Prop := labels audience <+: labels rdn

instance (audience rdn : String) : Decidable (Above audience rdn) := inferInstanceAs (Decidable (_ <+: _))

/-- The name of the datastore goes on behind the audience, but not with a dot. -/
def Overruns (audience rdn : String) : Prop := ∃ c rest, c ≠ '.' ∧ rdn.toList = audience.toList ++ c :: rest

/-- Some audience that is not empty stands above the datastore, or is overrun by its name. -/
def Reached (c : Claims) (rdn : String) : Prop := ∃ a, c.Names a ∧ a ≠ "" ∧ (Above a rdn ∨ Overruns a rdn)

theorem above_iff {audience rdn : String} :
    Above audience rdn ↔ rdn = audience ∨ ∃ rest, rdn.toList = audience.toList ++ '.' :: rest := by
  rw [Above, labels, labels, Text.splitAll_prefix_iff, String.toList_inj]

/-- How a name goes on behind one that it starts with: not at all, with a dot, or with anything else. -/
theorem prefix_iff {audience rdn : String} :
    audience.toList <+: rdn.toList ↔ Above audience rdn ∨ Overruns audience rdn := by
  rw [above_iff]
  constructor
  · rintro ⟨r, hr⟩
    cases r with
    | nil => exact .inl (.inl (String.toList_inj.1 (by simpa using hr.symm)))
    | cons c rest =>
      by_cases hc : c = '.'
      · exact .inl (.inr ⟨rest, by rw [← hr, hc]⟩)
      · exact .inr ⟨c, rest, hc, hr.symm⟩
  · rintro ((rfl | ⟨rest, hr⟩) | ⟨c, rest, -, hr⟩)
    · exact List.prefix_rfl
    · exact ⟨_, hr.symm⟩
    · exact ⟨_, hr.symm⟩

/-- What an audience is overrun by stands beside it. -/
theorem not_above_of_overruns {audience rdn : String} (h : Overruns audience rdn) : ¬ Above audience rdn := by
  obtain ⟨c, rest, hc, hr⟩ := h
  rw [above_iff]
  rintro (rfl | ⟨rest', hr'⟩)
  · simp at hr
  · rw [hr] at hr'
    exact hc (List.cons.inj (List.append_cancel_left hr')).1

theorem coversDatastore_iff_reached {c : Claims} {rdn : String} : coversDatastore c rdn = .ok () ↔ Reached c rdn := by
  simp only [coversDatastore_eq_ok, prefix_iff, Reached]

theorem coversDatastore_of_not_reached {c : Claims} {rdn : String} (h : ¬ Reached c rdn) :
    ∃ cause, coversDatastore c rdn = .error (.forbidden cause) := by
  rw [← coversDatastore_iff_reached] at h
  cases hc : coversDatastore c rdn with
  | ok u => exact absurd hc h
  | error e =>
    rcases coversDatastore_eq_error.1 hc with ⟨-, rfl⟩ | ⟨-, -, rfl⟩
    · exact ⟨_, rfl⟩
    · exact ⟨_, rfl⟩

end Checks

theorem Strategy.reached_of_authorize {s : Strategy} {o : Occasion} {demand : Demand} {st : Resolver.State} {g : Grant}
    {rdn : String} (hm : s.mode ≠ .off) (hd : demand.rdn = some rdn) (h : (s.authorize o demand st).1 = .ok g) :
    Checks.Reached g.claims rdn := by
  rw [← Checks.coversDatastore_iff_reached]
  cases s with
  | off => exact absurd rfl hm
  | skipSignature d k =>
    obtain ⟨t, -, -, hg⟩ := authorize_skipSignature_eq_ok.1 h
    exact (grant_eq_ok.1 hg).2.2.1 rdn hd
  | full r d k =>
    obtain ⟨t, key, -, -, -, hg⟩ := authorize_full_eq_ok.1 h
    exact (grant_eq_ok.1 hg).2.2.1 rdn hd

namespace Checks

/-- **Audiences cover what starts with their characters.**  That is what they stand above and what overruns them; all else
is forbidden, and no token with other claims administers the datastore where claims are looked at. -/
theorem coversDatastore_by_characters (c : Claims) (rdn : String) :
    (coversDatastore c rdn = .ok () ↔ Reached c rdn) ∧
    (∀ a, c.Names a → a ≠ "" → Above a rdn → coversDatastore c rdn = .ok ()) ∧
    (∀ a, Overruns a rdn → ¬ Above a rdn) ∧
    (¬ Reached c rdn → ∃ cause, coversDatastore c rdn = .error (.forbidden cause)) ∧
    ((∀ a, c.Names a → a = "") → coversDatastore c rdn = .error (.forbidden .noAudience)) ∧
    ∀ (a : Authorizer) (o : Occasion) (token : Option String) (st : Resolver.State) (g : Grant), a.mode ≠ .off →
      (a.dataAdministrator o rdn token st).1 = .ok g → g.claims = c → Reached c rdn := by
  refine ⟨coversDatastore_iff_reached, fun a ha hne hab => ?_, fun _ => not_above_of_overruns,
    coversDatastore_of_not_reached, fun hn => ?_, ?_⟩
  · exact coversDatastore_iff_reached.2 ⟨a, ha, hne, .inl hab⟩
  · exact coversDatastore_eq_error.2 (.inl ⟨hn, rfl⟩)
  · rintro a o token st g hm hg rfl
    exact Strategy.reached_of_authorize hm rfl hg

/-- Claims of an administrator of everything below `no.ssb`. -/
def tenantClaims : Claims := ⟨[("aud", .array [.string "j", .string "no.ssb"]), ("sub", .string "s"),
  ("accreditation/role", .string "role/dataadministrator"), ("user/uuid", .string "u")]⟩

theorem names_tenantClaims {a : String} : tenantClaims.Names a ↔ a = "j" ∨ a = "no.ssb" := by
  rw [← Claims.mem_audiences]
  exact List.mem_pair

/-- A datastore that only continues the name of a tenant is covered by it, though no audience stands above it; and where
signatures are not checked, anybody can bring the token. -/
theorem sibling_covered : (∀ a, tenantClaims.Names a → ¬ Above a "no.ssbank.x") ∧
    coversDatastore tenantClaims "no.ssbank.x" = .ok () ∧
    ((Authorizer.mk (.skipSignature ⟨0⟩ ⟨[]⟩) ⟨"d", "j", "p"⟩ "r" ⟨[]⟩).dataAdministrator
      ⟨fun _ => .unanswered, .still 0, 0⟩ "no.ssbank.x" (some ("eyJhbGciOiJSUzI1NiJ9.eyJhdWQiOlsiaiIsIm5vLnNzYiJdLCJzdWI" ++
        "iOiJzIiwiYWNjcmVkaXRhdGlvbi9yb2xlIjoicm9sZS9kYXRhYWRtaW5pc3RyYXRvciIsInVzZXIvdXVpZCI6InUifQ.")) .initial).1 =
      .ok ⟨"u", tenantClaims, none⟩ := by
  have hc : coversDatastore tenantClaims "no.ssbank.x" = .ok () :=
    coversDatastore_iff_reached.2 ⟨"no.ssb", names_tenantClaims.2 (.inr rfl), by decide,
      .inr ⟨'a', "nk.x".toList, by decide, by decide⟩⟩
  refine ⟨fun a ha => ?_, hc, ?_⟩
  · rcases names_tenantClaims.1 ha with rfl | rfl <;> decide
  · refine Strategy.authorize_skipSignature_eq_ok.2 ⟨_, rfl, by decide, Strategy.grant_eq_ok.2
      ⟨Decoder.decode_eq_ok.2 ⟨?_, ?_, ?_⟩, ?_, ?_, ?_, rfl⟩⟩
    · set_option maxRecDepth 8192 in cbv
    · exact Policy.acceptsAudience_make.2 (names_tenantClaims.2 (.inl rfl))
    · refine Policy.satisfiedBy_accreditation.2 fun name hn => ?_
      simp only [List.mem_cons, List.not_mem_nil, or_false] at hn
      rcases hn with rfl | rfl | rfl | rfl
      · exact ⟨_, rfl, by simp⟩
      all_goals exact Claims.gives_of_string rfl
    · rintro _ ⟨⟩
      exact role_eq_ok.2 rfl
    · rintro _ ⟨⟩
      exact hc
    · exact subject_eq_ok.2 ⟨rfl, by decide⟩

end Checks
end DatastoreAccess

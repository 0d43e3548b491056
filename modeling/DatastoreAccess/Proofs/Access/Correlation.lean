import Mathlib
import DatastoreAccess.Access.Calls
import DatastoreAccess.Proofs.Access.Granting
/-!
# Proofs.Access.Correlation — the second token of a request

A grant names its user three times: in itself, in its claims, and in the user-info token that is held against it.  The
first two agree in every grant of a reading strategy (`userId_of_authorize`), so the third agrees with both.  What the
user-info token is held against stands in the grant, key and all: nothing that happens to the keys later changes the
answer (`identity_of_issued`).
-/
namespace DatastoreAccess

/-! ## The user-info token -/

namespace Checks

/-- The names of a user in the claims of a user-info token. -/
def named (user : String) (c : Claims) : Identity :=
  ⟨user, claimText c Claims.firstName, claimText c Claims.lastName⟩

theorem correlate_of_decode_error {d : Decoder} {now : UInt64} {primary : Claims} {key : Option SigningKey}
    {verify : Bool} {token : String} {e : Failure}
    (h : d.decode now Policy.userInfo key none verify token = .error e) :
    correlate d now primary key verify token = .error e := by
  unfold correlate
  rw [h]
  rfl

/-- What a user-info token is held against only refuses. -/
theorem correlate_eq_overflow {d : Decoder} {now : UInt64} {primary : Claims} {key : Option SigningKey} {verify : Bool}
    {token : String} : correlate d now primary key verify token = .error .overflow ↔ d.BreaksOff now key verify token := by
  rw [← Decoder.decode_eq_overflow]
  constructor
  · intro h
    rcases Answers.bind_error.1 h with hd | ⟨c, -, h⟩
    · exact hd
    · rcases Answers.refuse_error.1 h with ⟨-, he⟩ | ⟨-, h⟩
      · cases he
      · cases h
  · exact correlate_of_decode_error

theorem correlate_of_decode {d : Decoder} {now : UInt64} {primary c : Claims} {key : Option SigningKey}
    {verify : Bool} {token user : String} (hp : primary.get? Claims.userId = some (.string user))
    (h : d.decode now Policy.userInfo key none verify token = .ok c) :
    correlate d now primary key verify token =
      if c.string? Claims.userId = some user then .ok (named user c) else .error (.refused .tokenMismatch) := by
  have hu : primary.string? Claims.userId = some user := Claims.string?_eq_some.2 hp
  have differs : ((c.string? Claims.userId).isNone || decide (some user ≠ c.string? Claims.userId)) =
      !decide (c.string? Claims.userId = some user) := by
    cases c.string? Claims.userId with
    | none => rfl
    | some s => simp [eq_comm]
  unfold correlate
  rw [h, hu]
  change (if ((c.string? Claims.userId).isNone || decide (some user ≠ c.string? Claims.userId)) = true then
    Except.error (Failure.refused .tokenMismatch) else .ok (named (claimText c Claims.userId) c)) = _
  rw [differs]
  by_cases hc : c.string? Claims.userId = some user
  · have ht : claimText c Claims.userId = user := by rw [claimText, Claims.string?_eq_some.1 hc]
    simp [hc, ht]
  · simp [hc]

end Checks

/-- How a user-info token answers to a grant: it is read under `key`, or with no signature checked. -/
structure Correlates (d : Decoder) (now : UInt64) (key : Option SigningKey) (verify : Bool) (g : Grant)
    (userInfo : Option String) (answer : Except Failure Identity) : Prop where
  ok_iff : ∀ i, answer = .ok i ↔ ∃ t c, userInfo = some t ∧ t ≠ "" ∧
    d.decode now Policy.userInfo key none verify t = .ok c ∧
    c.get? "user/uuid" = some (.string g.userId) ∧ i = Checks.named g.userId c
  mismatch : ∀ t c, userInfo = some t → t ≠ "" → d.decode now Policy.userInfo key none verify t = .ok c →
    c.get? "user/uuid" ≠ some (.string g.userId) → answer = .error (.refused .tokenMismatch)

/-- Any grant whose claims name its user. -/
theorem correlates {g : Grant} (hu : g.claims.get? Claims.userId = some (.string g.userId)) (d : Decoder)
    (now : UInt64) (key : Option SigningKey) (verify : Bool) (userInfo : Option String) :
    Correlates d now key verify g userInfo (do
      Checks.correlate d now g.claims key verify (← (Strategy.given .noUserInfo userInfo).mapError .refused)) := by
  constructor
  · intro i
    rw [Answers.bind_ok]
    simp only [Answers.mapError_ok, Strategy.given_eq_ok]
    constructor
    · rintro ⟨t, ⟨ht, hne⟩, h⟩
      cases hd : d.decode now Policy.userInfo key none verify t with
      | error e =>
        rw [Checks.correlate_of_decode_error hd] at h
        cases h
      | ok c =>
        rw [Checks.correlate_of_decode hu hd] at h
        split at h
        · rename_i hc
          cases h
          exact ⟨t, c, ht, hne, hd, Claims.string?_eq_some.1 hc, rfl⟩
        · cases h
    · rintro ⟨t, c, ht, hne, hd, hc, rfl⟩
      have hs : c.string? Claims.userId = some g.userId := Claims.string?_eq_some.2 hc
      refine ⟨t, ⟨ht, hne⟩, ?_⟩
      rw [Checks.correlate_of_decode hu hd, if_pos hs]
  · intro t c ht hne hd hc
    have hs : ¬ c.string? Claims.userId = some g.userId := fun h => hc (Claims.string?_eq_some.1 h)
    rw [Strategy.given_eq_ok.2 ⟨ht, hne⟩]
    change Checks.correlate d now g.claims key verify t = _
    rw [Checks.correlate_of_decode hu hd, if_neg hs]

namespace Strategy

/-- An identity is not told because the user-info token breaks off: the strategy checks signatures, and the reading under
the key of the grant breaks off. -/
theorem identity_eq_overflow {s : Strategy} {now : UInt64} {g : Grant} {userInfo : Option String} :
    s.identity now g userInfo = .error .overflow ↔ ∃ r d k t, s = .full r d k ∧ userInfo = some t ∧ t ≠ "" ∧
      d.BreaksOff now g.key true t := by
  have given {d : Decoder} {verify : Bool} {key : Option SigningKey} : (do
      Checks.correlate d now g.claims key verify (← (Strategy.given .noUserInfo userInfo).mapError Failure.refused)) =
        .error .overflow ↔ ∃ t, userInfo = some t ∧ t ≠ "" ∧ d.BreaksOff now key verify t := by
    rw [Answers.bind_error, or_iff_right Answers.refused_ne_overflow]
    simp only [Answers.mapError_ok, given_eq_ok, Checks.correlate_eq_overflow, and_assoc]
  cases s with
  | off => exact iff_of_false nofun fun ⟨_, _, _, _, h, _⟩ => nomatch h
  | skipSignature d k =>
    refine iff_of_false (fun h => ?_) fun ⟨_, _, _, _, h, _⟩ => nomatch h
    obtain ⟨t, -, -, hb⟩ := given.1 h
    exact absurd hb.verified Bool.false_ne_true
  | full r d k =>
    refine Iff.trans given ⟨fun ⟨t, h⟩ => ⟨r, d, k, t, rfl, h⟩, ?_⟩
    rintro ⟨_, _, _, t, ⟨⟩, h⟩
    exact ⟨t, h⟩

end Strategy

/-! ## What a grant carries -/

/-- The stand-in user where nothing is read.  Else the user that the claims name, and where signatures are checked, a
key. -/
def Strategy.Carries : Strategy → Grant → Prop
  | .off, g => g = Grant.development
  | .skipSignature .., g => g.claims.get? Claims.userId = some (.string g.userId)
  | .full .., g => g.claims.get? Claims.userId = some (.string g.userId) ∧ ∃ key, g.key = some key

theorem Strategy.carries_of_authorize {s : Strategy} {o : Occasion} {demand : Demand} {st : Resolver.State} {g : Grant}
    (hs : demand.policy.subject = Claims.userId) (h : (s.authorize o demand st).1 = .ok g) : s.Carries g := by
  cases s with
  | off =>
    cases h
    rfl
  | skipSignature d k =>
    obtain ⟨t, -, -, hg⟩ := authorize_skipSignature_eq_ok.1 h
    obtain ⟨-, -, -, hu, -⟩ := grant_eq_ok.1 hg
    rw [hs] at hu
    exact (Checks.subject_eq_ok.1 hu).1
  | full r d k =>
    obtain ⟨t, key, -, -, -, hg⟩ := authorize_full_eq_ok.1 h
    obtain ⟨-, -, -, hu, hk⟩ := grant_eq_ok.1 hg
    rw [hs] at hu
    exact ⟨(Checks.subject_eq_ok.1 hu).1, key, hk⟩

namespace Authorizer

/-- A grant that the authorizer has given for an accreditation token, in any state of its keys. -/
def Issues (a : Authorizer) (g : Grant) : Prop := ∃ o st token,
  (∃ rdn, (a.dataAdministrator o rdn token st).1 = .ok g) ∨ (a.provisioner o token st).1 = .ok g

theorem Issues.carries {a : Authorizer} {g : Grant} (h : a.Issues g) : a.strategy.Carries g := by
  obtain ⟨o, st, token, ⟨rdn, h⟩ | h⟩ := h
  · exact Strategy.carries_of_authorize rfl h
  · exact Strategy.carries_of_authorize rfl (provisioner_eq_ok.1 h).1

theorem keyless_identity {r : Resolver} {d : Decoder} {k : ServiceKey} {now : UInt64} {g : Grant}
    {userInfo : Option String} {i : Identity} (hk : g.key = none) :
    (Strategy.full r d k).identity now g userInfo ≠ .ok i := by
  intro h
  obtain ⟨t, -, h⟩ := Answers.bind_ok.1 h
  have hd : d.decode now Policy.userInfo g.key none true t = .error (.refused (.configuration .keyMissing)) := by
    rw [hk]
    rfl
  rw [Checks.correlate_of_decode_error hd] at h
  cases h

/-- **The second token names the user of the first.** -/
theorem identity_of_issued (a : Authorizer) (g : Grant) (h : a.Issues g) :
    (∀ now userInfo i, a.identity now g userInfo = .ok i → i.userId = g.userId) ∧
    (∀ r d k, a.strategy = .full r d k → ∃ key, g.key = some key ∧ ∀ now userInfo,
      Correlates d now (some key) true g userInfo (a.identity now g userInfo)) ∧
    (∀ d k, a.strategy = .skipSignature d k → ∀ now userInfo,
      Correlates d now none false g userInfo (a.identity now g userInfo)) ∧
    (∀ calls st o userInfo, (a.run (calls ++ [⟨.identity g userInfo, o⟩]) st).1.getLast? =
      some (.identity (a.identity o.now g userInfo))) ∧
    (∀ r d k, a.strategy = .full r d k → ∀ keyless, keyless.key = none → ∀ now userInfo i,
      a.identity now keyless userInfo ≠ .ok i) := by
  obtain ⟨s, audiences, role, provisioners⟩ := a
  have hc : s.Carries g := h.carries
  refine ⟨?_, ?_, ?_, ?_, ?_⟩
  · intro now userInfo i hi
    cases s with
    | off =>
      cases hi
      rw [show g = Grant.development from hc]
      rfl
    | skipSignature d k =>
      obtain ⟨t, c, -, -, -, -, rfl⟩ := ((correlates hc d now none false userInfo).ok_iff i).1 hi
      rfl
    | full r d k =>
      obtain ⟨t, c, -, -, -, -, rfl⟩ := ((correlates hc.1 d now g.key true userInfo).ok_iff i).1 hi
      rfl
  · rintro r d k rfl
    obtain ⟨hu, key, hk⟩ := hc
    refine ⟨key, hk, fun now userInfo => ?_⟩
    rw [← hk]
    exact correlates hu d now g.key true userInfo
  · rintro d k rfl now userInfo
    exact correlates hc d now none false userInfo
  · intro calls st o userInfo
    rw [run_append, List.getLast?_append]
    rfl
  · rintro r d k rfl keyless hk now userInfo i
    exact keyless_identity hk

theorem issues_unsigned : Issues ⟨.skipSignature ⟨0⟩ ⟨[]⟩, ⟨"d", "j", "p"⟩, "r", Allowlist.ofList ["u"]⟩
    ⟨"u", ⟨[("aud", .string "p"), ("sub", .string "s"), ("accreditation/role", .string "r"),
      ("user/uuid", .string "u")]⟩, none⟩ := by
  refine ⟨⟨fun _ => .unanswered, .still 0, 0⟩, .initial, some
    "eyJhbGciOiJSUzI1NiJ9.eyJhdWQiOiJwIiwic3ViIjoicyIsImFjY3JlZGl0YXRpb24vcm9sZSI6InIiLCJ1c2VyL3V1aWQiOiJ1In0.",
    .inr (provisioner_eq_ok.2 ⟨?_, .inr (Allowlist.contains_ofList.2 (List.mem_singleton_self _))⟩)⟩
  refine Strategy.authorize_skipSignature_eq_ok.2 ⟨_, rfl, by decide, Strategy.grant_eq_ok.2
    ⟨Decoder.decode_eq_ok.2 ⟨?_, ?_, ?_⟩, ?_, ?_, ?_, rfl⟩⟩
  · set_option maxRecDepth 4096 in cbv
  · exact Policy.acceptsAudience_make.2 (.inl rfl)
  · refine Policy.satisfiedBy_accreditation.2 fun name hn => ?_
    simp only [List.mem_cons, List.not_mem_nil, or_false] at hn
    rcases hn with rfl | rfl | rfl | rfl <;> exact Claims.gives_of_string rfl
  · rintro _ ⟨⟩
    exact Checks.role_eq_ok.2 rfl
  · rintro _ ⟨⟩
  · exact Checks.subject_eq_ok.2 ⟨rfl, by decide⟩

/-- Such grants are given, here for a token that nobody signed. -/
theorem identity_of_unsigned : ∃ (a : Authorizer) (g : Grant), a.mode = .skipSignature ∧ a.Issues g ∧ g.userId = "u" ∧
    ∀ now userInfo i, a.identity now g userInfo = .ok i → i.userId = "u" :=
  ⟨_, _, rfl, issues_unsigned, rfl, (identity_of_issued _ _ issues_unsigned).1⟩

end Authorizer
end DatastoreAccess

import DatastoreAccess.Access.Authorizer
import DatastoreAccess.Proofs.Access.Decoding
import DatastoreAccess.Proofs.Keys.Lookup
import DatastoreAccess.Proofs.Text.Split
/-!
# Proofs.Access.Granting — when a token is granted what it asks for

A grant is given when every check passes, each in its own sense of being present: a given token is not empty, a required
claim is not null, a role and a user are texts, an audience that covers a datastore is not empty.  One fact per check
says what it lets through; the facts add up to the exact conditions of a grant (`grant_eq_ok`), of the right to
administer a datastore (`dataAdministrator_eq_ok`) and of the right to provision (`provisioner_eq_ok`).
-/
namespace DatastoreAccess

/-! ## Checks of claims -/

namespace Checks

theorem role_eq_ok {c : Claims} {wanted : String} :
    role c wanted = .ok () ↔ c.get? Claims.role = some (.string wanted) := by
  rw [← Claims.string?_eq_some]
  exact Answers.test_ok

theorem covers_iff {audience rdn : String} : covers audience rdn = true ↔ audience.toList <+: rdn.toList := by
  rw [covers, Option.isSome_iff_exists]
  constructor
  · rintro ⟨r, h⟩
    exact ⟨r, (Text.after?_eq_some_iff.1 h).symm⟩
  · rintro ⟨r, h⟩
    exact ⟨r, Text.after?_eq_some_iff.2 h.symm⟩

theorem mem_scopes {c : Claims} {a : String} : a ∈ scopes c ↔ c.Names a ∧ a ≠ "" := by
  simp [scopes, Claims.mem_audiences]

theorem coversDatastore_eq_ok {c : Claims} {rdn : String} :
    coversDatastore c rdn = .ok () ↔ ∃ a, c.Names a ∧ a ≠ "" ∧ a.toList <+: rdn.toList := by
  have hany : ((scopes c).any fun a => covers a rdn) = true ↔ ∃ a, c.Names a ∧ a ≠ "" ∧ a.toList <+: rdn.toList := by
    simp only [List.any_eq_true, mem_scopes, covers_iff, and_assoc]
  rw [← hany]
  unfold coversDatastore
  by_cases he : (scopes c).isEmpty = true
  · rw [if_pos he, List.isEmpty_iff.1 he]
    simp
  · rw [if_neg he]
    exact Answers.test_ok

theorem subject_eq_ok {c : Claims} {name user : String} :
    subject c name = .ok user ↔ c.get? name = some (.string user) ∧ user ≠ "" := by
  rw [← Claims.string?_eq_some]
  unfold subject
  cases c.string? name with
  | none => simp
  | some s => rw [Option.some.injEq]; exact Answers.nonempty_ok

end Checks

/-! ## Keys -/

namespace Resolver

/-- A key is found under its own id. -/
theorem id_of_keyFor {r : Resolver} {endpoint : Nat → KeyEndpoint.Response} {m : Moments} {id : String} {st : State}
    {key : SigningKey} (h : (r.keyFor endpoint m id st).1 = .ok key) : key.id = id := by
  obtain ⟨_, look⟩ := keyFor_lookup r endpoint m id st
  rw [h] at look
  exact KeyCache.id_of_stale? look.stale?_of_ok

theorem resolve_eq_ok {r : Resolver} {endpoint : Nat → KeyEndpoint.Response} {m : Moments} {token : String} {st : State}
    {key : SigningKey} : (r.resolve endpoint m token st).1 = .ok key ↔
      ∃ id, Token.keyId? token = some id ∧ (r.keyFor endpoint m id st).1 = .ok key := by
  unfold resolve
  cases Token.keyId? token with
  | none => simp
  | some id => simp [Answers.mapError_ok]

end Resolver

/-! ## Grants -/

namespace Strategy

theorem given_eq_ok {absent : AccessError.Credential} {text : Option String} {s : String} :
    given absent text = .ok s ↔ text = some s ∧ s ≠ "" := by
  cases text with
  | none => simp [given]
  | some t => rw [Option.some.injEq]; exact Answers.nonempty_ok

/-- A check that is only made on what is there. -/
def ifGiven {α : Type} (o : Option α) (check : α → Except AccessError Unit) : Except AccessError Unit :=
  o.elim (.ok ()) check

theorem ifGiven_eq_ok {α : Type} {o : Option α} {check : α → Except AccessError Unit} :
    ifGiven o check = .ok () ↔ ∀ a, o = some a → check a = .ok () := by
  cases o <;> simp [ifGiven]

theorem grant_eq (d : Decoder) (now : UInt64) (demand : Demand) (key : Option SigningKey) (verify : Bool)
    (token : String) : grant d now demand key verify token = (do
      let c ← d.decode now demand.policy key (some demand.audience) verify token
      let _ ← (ifGiven demand.role (Checks.role c)).mapError Failure.refused
      let _ ← (ifGiven demand.rdn (Checks.coversDatastore c)).mapError Failure.refused
      let user ← (Checks.subject c demand.policy.subject).mapError Failure.refused
      return ⟨user, c, key⟩) := by
  obtain ⟨_, _, _, role, rdn⟩ := demand
  cases role <;> cases rdn <;> rfl

/-- **All checks of a grant.** -/
theorem grant_eq_ok {d : Decoder} {now : UInt64} {demand : Demand} {key : Option SigningKey} {verify : Bool}
    {token : String} {g : Grant} : grant d now demand key verify token = .ok g ↔
      d.decode now demand.policy key (some demand.audience) verify token = .ok g.claims ∧
      (∀ role, demand.role = some role → Checks.role g.claims role = .ok ()) ∧
      (∀ rdn, demand.rdn = some rdn → Checks.coversDatastore g.claims rdn = .ok ()) ∧
      Checks.subject g.claims demand.policy.subject = .ok g.userId ∧ g.key = key := by
  rw [grant_eq]
  simp only [Answers.bind_ok, Answers.mapError_ok, ← ifGiven_eq_ok]
  constructor
  · rintro ⟨c, hc, ⟨⟩, hr, ⟨⟩, hd, user, hs, h⟩
    cases h
    exact ⟨hc, hr, hd, hs, rfl⟩
  · rintro ⟨hc, hr, hd, hs, rfl⟩
    exact ⟨g.claims, hc, (), hr, (), hd, g.userId, hs, rfl⟩

theorem given_cases (token : Option String) : (token = none ∨ token = some "") ∨ ∃ t, token = some t ∧ t ≠ "" := by
  cases token with
  | none => exact .inl (.inl rfl)
  | some t =>
    by_cases ht : t = ""
    · exact .inl (.inr (congrArg some ht))
    · exact .inr ⟨t, rfl, ht⟩

section Stages

variable {r : Resolver} {d : Decoder} {k : ServiceKey} {o : Occasion} {demand : Demand} {st : Resolver.State}

theorem authorize_of_absent (h : demand.token = none ∨ demand.token = some "") :
    (full r d k).authorize o demand st = (.error (.refused (.unauthenticated .noToken)), st) := by
  unfold authorize
  rcases h with h | h
  · rw [h]
    rfl
  · rw [h]
    rfl

theorem authorize_of_given {t : String} (ht : demand.token = some t) (hne : t ≠ "") :
    (full r d k).authorize o demand st =
      ((r.resolve o.endpoint o.moments t st).1.mapError .refused >>= fun key => grant d o.now demand (some key) true t,
        (r.resolve o.endpoint o.moments t st).2) := by
  unfold authorize
  rw [given_eq_ok.2 ⟨ht, hne⟩]
  dsimp only
  cases r.resolve o.endpoint o.moments t st with
  | mk answer st' => cases answer <;> rfl

theorem authorize_full_eq_ok {g : Grant} : ((full r d k).authorize o demand st).1 = .ok g ↔
    ∃ t key, demand.token = some t ∧ t ≠ "" ∧ (r.resolve o.endpoint o.moments t st).1 = .ok key ∧
      grant d o.now demand (some key) true t = .ok g := by
  constructor
  · intro h
    rcases given_cases demand.token with hn | ⟨t, ht, hne⟩
    · rw [authorize_of_absent hn] at h
      cases h
    · rw [authorize_of_given ht hne] at h
      obtain ⟨key, hr, hg⟩ := Answers.bind_ok.1 h
      exact ⟨t, key, ht, hne, Answers.mapError_ok.1 hr, hg⟩
  · rintro ⟨t, key, ht, hne, hr, hg⟩
    rw [authorize_of_given ht hne]
    exact Answers.bind_ok.2 ⟨key, Answers.mapError_ok.2 hr, hg⟩

end Stages

theorem authorize_skipSignature_eq_ok {d : Decoder} {k : ServiceKey} {o : Occasion} {demand : Demand}
    {st : Resolver.State} {g : Grant} : ((skipSignature d k).authorize o demand st).1 = .ok g ↔
      ∃ t, demand.token = some t ∧ t ≠ "" ∧ grant d o.now demand none false t = .ok g := by
  unfold authorize
  rw [Answers.bind_ok]
  simp only [Answers.mapError_ok, given_eq_ok, and_assoc]

end Strategy

/-! ## Administering a datastore -/

/-- What a token has to hold to administer the datastore `rdn`, and what the grant then says. -/
structure Administers (r : Resolver) (d : Decoder) (jobs : String) (o : Occasion) (st : Resolver.State) (rdn : String)
    (token : Option String) (g : Grant) : Prop where
  /-- The key found under the id that the token names verifies it, and is the key of the grant. -/
  verified : ∃ t header kid key, token = some t ∧ t ≠ "" ∧ Token.header? t = some header ∧ header.keyId = some kid ∧
    (r.keyFor o.endpoint o.moments kid st).1 = .ok key ∧ key.id = kid ∧
    Token.signed t key.material o.now d.leeway = .ok g.claims ∧ g.key = some key
  audience : g.claims.Names jobs
  complete : ∀ name ∈ ["aud", "sub", "accreditation/role", "user/uuid"], g.claims.Gives name
  role : g.claims.get? "accreditation/role" = some (.string "role/dataadministrator")
  covered : ∃ a, g.claims.Names a ∧ a ≠ "" ∧ a.toList <+: rdn.toList
  user : g.claims.get? "user/uuid" = some (.string g.userId) ∧ g.userId ≠ ""

theorem Policy.satisfiedBy_accreditation {c : Claims} : Policy.accreditation.satisfiedBy c = true ↔
    ∀ name ∈ ["aud", "sub", "accreditation/role", "user/uuid"], c.Gives name := by
  rw [Policy.accreditation, Policy.satisfiedBy_make]
  have order (name : String) : name ∈ ["user/uuid"] ++ ["aud", "sub", "accreditation/role"] ↔
      name ∈ ["aud", "sub", "accreditation/role"] ++ ["user/uuid"] := List.perm_append_comm.mem_iff
  exact forall_congr' fun name => imp_congr_left (order name)

namespace Authorizer

/-- **The right to administer a datastore, with every signature checked.**  Whatever the state of the keys. -/
theorem dataAdministrator_eq_ok (r : Resolver) (d : Decoder) (k : ServiceKey) (audiences : Audiences)
    (role : String) (provisioners : Allowlist) (o : Occasion) (st : Resolver.State) (rdn : String)
    (token : Option String) (g : Grant) :
    ((Authorizer.mk (.full r d k) audiences role provisioners).dataAdministrator o rdn token st).1 = .ok g ↔
      Administers r d audiences.jobs o st rdn token g := by
  unfold dataAdministrator dataAdministratorDemand
  rw [Strategy.authorize_full_eq_ok]
  simp only [Resolver.resolve_eq_ok, Strategy.grant_eq_ok, Decoder.decode_eq_ok, Option.some.injEq, forall_eq']
  constructor
  · rintro ⟨t, key, ht, hne, ⟨kid, hid, hk⟩, ⟨hc, ha, hs⟩, hr, hd, hu, hg⟩
    obtain ⟨header, hh, hkid⟩ := Option.bind_eq_some_iff.1 hid
    exact ⟨⟨t, header, kid, key, ht, hne, hh, hkid, hk, Resolver.id_of_keyFor hk, Decoder.claims_signed_eq_ok.1 hc, hg⟩,
      Policy.acceptsAudience_make.1 ha, Policy.satisfiedBy_accreditation.1 hs, Checks.role_eq_ok.1 hr,
      Checks.coversDatastore_eq_ok.1 hd, Checks.subject_eq_ok.1 hu⟩
  · rintro ⟨⟨t, header, kid, key, ht, hne, hh, hkid, hk, -, hc, hg⟩, ha, hs, hr, hd, hu⟩
    exact ⟨t, key, ht, hne, ⟨kid, Option.bind_eq_some_iff.2 ⟨header, hh, hkid⟩, hk⟩,
      ⟨Decoder.claims_signed_eq_ok.2 hc, Policy.acceptsAudience_make.2 ha, Policy.satisfiedBy_accreditation.2 hs⟩,
      Checks.role_eq_ok.2 hr, Checks.coversDatastore_eq_ok.2 hd, Checks.subject_eq_ok.2 hu, hg⟩

end Authorizer

/-! ## Provisioning -/

theorem Allowlist.check_eq_ok {l : Allowlist} {user : String} : l.check user = .ok () ↔ l.contains user = true :=
  Answers.test_ok

namespace Authorizer

theorem admitted_eq_ok {a : Authorizer} {g g' : Grant} :
    a.admitted g = .ok g' ↔ g = g' ∧ (a.mode = .off ∨ a.provisioners.contains g.userId = true) := by
  unfold admitted
  by_cases hm : a.mode = .off
  · rw [if_neg (not_not_intro hm)]
    simp [hm, pure, Except.pure]
  · rw [if_pos hm, Answers.bind_ok, or_iff_right hm]
    constructor
    · rintro ⟨⟨⟩, hc, h⟩
      cases h
      exact ⟨rfl, Allowlist.check_eq_ok.1 (Answers.mapError_ok.1 hc)⟩
    · rintro ⟨rfl, hc⟩
      exact ⟨(), Answers.mapError_ok.2 (Allowlist.check_eq_ok.2 hc), rfl⟩

/-- Where something is checked, the list has the last word. -/
theorem admitted_of_unlisted {a : Authorizer} {g : Grant} (hm : a.mode ≠ .off)
    (hu : ¬ a.provisioners.contains g.userId = true) :
    a.admitted g = .error (.refused (.forbidden (.provisioning g.userId))) := by
  unfold admitted
  rw [if_pos hm, Allowlist.check, if_neg hu]
  rfl

theorem provisioner_eq_ok {a : Authorizer} {o : Occasion} {token : Option String} {st : Resolver.State} {g : Grant} :
    (a.provisioner o token st).1 = .ok g ↔ (a.strategy.authorize o (a.provisionerDemand token) st).1 = .ok g ∧
      (a.mode = .off ∨ a.provisioners.contains g.userId = true) := by
  refine Answers.bind_ok.trans ?_
  simp only [admitted_eq_ok]
  constructor
  · rintro ⟨g', hg, rfl, hl⟩
    exact ⟨hg, hl⟩
  · rintro ⟨hg, hl⟩
    exact ⟨g, hg, rfl, hl⟩

end Authorizer
end DatastoreAccess

import DatastoreAccess.Proofs.Access.Granting
/-!
# Proofs.Access.Separation — which error a call ends with

A token goes through three stages: it is given, a key is found for it, it is read under that key.  What a token entitles
to is only looked at behind the third (`Refused`), and there the checks stand in order: role, datastore, user, list.  So
each error tells how far a token got (`Fails`), and no verdict on rights is told of a token that does not hold up
(`errors_separated`).
-/
namespace DatastoreAccess

/-! ## The error of one check -/

namespace Checks

variable {c : Claims} {e : AccessError}

theorem role_eq_error {wanted : String} : role c wanted = .error e ↔
    c.get? Claims.role ≠ some (.string wanted) ∧ e = .forbidden (.role (c.string? Claims.role)) := by
  rw [ne_eq, ← Claims.string?_eq_some]
  exact Answers.test_error

theorem coversDatastore_eq_error {rdn : String} : coversDatastore c rdn = .error e ↔
    (∀ a, c.Names a → a = "") ∧ e = .forbidden .noAudience ∨
    (∃ a, c.Names a ∧ a ≠ "") ∧ (∀ a, c.Names a → a ≠ "" → ¬ a.toList <+: rdn.toList) ∧
      e = .forbidden (.datastore rdn) := by
  have hnone : (scopes c).isEmpty = true ↔ ∀ a, c.Names a → a = "" := by
    rw [List.isEmpty_iff, List.eq_nil_iff_forall_not_mem]
    simp only [mem_scopes, not_and, not_not, ne_eq]
  have hsome : ¬ (scopes c).isEmpty = true ↔ ∃ a, c.Names a ∧ a ≠ "" := by
    rw [hnone]
    simp only [not_forall, exists_prop, ne_eq]
  have hany : ¬ ((scopes c).any fun a => covers a rdn) = true ↔
      ∀ a, c.Names a → a ≠ "" → ¬ a.toList <+: rdn.toList := by
    simp only [List.any_eq_true, mem_scopes, covers_iff, not_exists, not_and, and_imp]
  rw [← hsome, ← hany, ← hnone]
  unfold coversDatastore
  by_cases he : (scopes c).isEmpty = true
  · rw [if_pos he, Except.error.injEq]
    simp only [he, not_true_eq_false, true_and, false_and, or_false]
    exact eq_comm
  · rw [if_neg he, Answers.test_error]
    simp only [he, false_and, false_or, not_false_eq_true, true_and, Bool.false_eq_true]

theorem subject_eq_error {name : String} : subject c name = .error e ↔
    (∀ user, c.get? name = some (.string user) → user = "") ∧ e = .invalidToken := by
  simp only [← Claims.string?_eq_some]
  unfold subject
  cases c.string? name with
  | none => simp [eq_comm]
  | some s => simp [Answers.nonempty_error]

end Checks

/-! ## Refusals of a token that holds up -/

namespace Demand

/-- If a role is asked for, it is the role of the claims. -/
def HoldsRole (demand : Demand) (c : Claims) : Prop :=
  ∀ role, demand.role = some role → c.get? "accreditation/role" = some (.string role)

/-- If a datastore is asked for, an audience that is not empty covers it. -/
def Covers (demand : Demand) (c : Claims) : Prop :=
  ∀ rdn, demand.rdn = some rdn → ∃ a, c.Names a ∧ a ≠ "" ∧ a.toList <+: rdn.toList

/-- Why claims are refused.  Every refusal but the first says that the checks before it have passed; `admits` is what is
asked of the user at the very end. -/
inductive Refused (demand : Demand) (admits : String → Prop) (c : Claims) : AccessError → Prop where
  | role {wanted : String} (asked : demand.role = some wanted)
      (other : c.get? "accreditation/role" ≠ some (.string wanted)) :
      Refused demand admits c (.forbidden (.role (c.string? "accreditation/role")))
  | unscoped {rdn : String} (role : demand.HoldsRole c) (asked : demand.rdn = some rdn)
      (nothing : ∀ a, c.Names a → a = "") : Refused demand admits c (.forbidden .noAudience)
  | uncovered {rdn : String} (role : demand.HoldsRole c) (asked : demand.rdn = some rdn)
      (scope : ∃ a, c.Names a ∧ a ≠ "") (elsewhere : ∀ a, c.Names a → a ≠ "" → ¬ a.toList <+: rdn.toList) :
      Refused demand admits c (.forbidden (.datastore rdn))
  | nobody (role : demand.HoldsRole c) (covered : demand.Covers c)
      (unnamed : ∀ user, c.get? demand.policy.subject = some (.string user) → user = "") :
      Refused demand admits c .invalidToken
  | unlisted {user : String} (role : demand.HoldsRole c) (covered : demand.Covers c)
      (named : c.get? demand.policy.subject = some (.string user)) (given : user ≠ "") (barred : ¬ admits user) :
      Refused demand admits c (.forbidden (.provisioning user))

end Demand

namespace Strategy

theorem ifGiven_eq_error {α : Type} {o : Option α} {check : α → Except AccessError Unit} {e : AccessError} :
    ifGiven o check = .error e ↔ ∃ a, o = some a ∧ check a = .error e := by
  cases o <;> simp [ifGiven]

theorem role_passes {demand : Demand} {c : Claims} :
    ifGiven demand.role (Checks.role c) = .ok () ↔ demand.HoldsRole c := by
  simp only [ifGiven_eq_ok, Checks.role_eq_ok]
  rfl

theorem datastore_passes {demand : Demand} {c : Claims} :
    ifGiven demand.rdn (Checks.coversDatastore c) = .ok () ↔ demand.Covers c := by
  simp only [ifGiven_eq_ok, Checks.coversDatastore_eq_ok]
  rfl

/-- A step behind a grant that asks no more than whether its user is admitted. -/
def Closes {α : Type} (admits : String → Prop) (finish : Grant → Except Failure α) : Prop :=
  ∀ g e, finish g = .error e ↔ ¬ admits g.userId ∧ e = .refused (.forbidden (.provisioning g.userId))

theorem closes_ok {α : Type} {f : Grant → α} : Closes (fun _ => True) fun g => .ok (f g) := by
  intro g e
  constructor
  · intro h
    cases h
  · rintro ⟨h, -⟩
    exact absurd trivial h

theorem closes_unless_off {a : Authorizer} :
    Closes (fun user => a.mode = .off ∨ a.provisioners.contains user = true) a.admitted := by
  intro g e
  by_cases hu : a.mode = .off ∨ a.provisioners.contains g.userId = true
  · rw [Authorizer.admitted_eq_ok.2 ⟨rfl, hu⟩]
    exact iff_of_false nofun fun h => h.1 hu
  · obtain ⟨hm, hl⟩ := not_or.1 hu
    rw [Authorizer.admitted_of_unlisted hm hl, Except.error.injEq, and_iff_right hu]
    exact eq_comm

theorem closes_admitted {a : Authorizer} (hm : a.mode ≠ .off) :
    Closes (fun user => a.provisioners.contains user = true) a.admitted := by
  have h := closes_unless_off (a := a)
  simp only [hm, false_or] at h
  exact h

theorem grant_bind_of_decode {α : Type} {d : Decoder} {now : UInt64} {demand : Demand} {key : Option SigningKey}
    {verify : Bool} {token : String} {c : Claims}
    (h : d.decode now demand.policy key (some demand.audience) verify token = .ok c)
    (finish : Grant → Except Failure α) : (grant d now demand key verify token).bind finish = (do
      let _ ← (ifGiven demand.role (Checks.role c)).mapError Failure.refused
      let _ ← (ifGiven demand.rdn (Checks.coversDatastore c)).mapError Failure.refused
      let user ← (Checks.subject c demand.policy.subject).mapError Failure.refused
      finish ⟨user, c, key⟩) := by
  rw [grant_eq, h]
  change (_ >>= finish) = _
  simp only [bind_assoc, pure_bind]
  rfl

/-- **The error of a decoded token.**  The first check that fails gives it, the one on the user of the grant being the
last. -/
theorem grant_bind_eq_error {α : Type} {d : Decoder} {now : UInt64} {demand : Demand} {key : Option SigningKey}
    {verify : Bool} {token : String} {c : Claims} {e : AccessError} {admits : String → Prop}
    {finish : Grant → Except Failure α} (hf : Closes admits finish)
    (h : d.decode now demand.policy key (some demand.audience) verify token = .ok c) :
    (grant d now demand key verify token).bind finish = .error (.refused e) ↔ demand.Refused admits c e := by
  rw [grant_bind_of_decode h]
  constructor
  -- Each check that passes is a premise of all refusals behind it.
  · intro he
    rcases Answers.bind_error.1 he with hr | ⟨⟨⟩, hr, he⟩
    · obtain ⟨wanted, asked, hr⟩ := ifGiven_eq_error.1 (Answers.refused_error.1 hr)
      obtain ⟨other, rfl⟩ := Checks.role_eq_error.1 hr
      exact .role asked other
    have role := role_passes.1 (Answers.mapError_ok.1 hr)
    rcases Answers.bind_error.1 he with hd | ⟨⟨⟩, hd, he⟩
    · obtain ⟨rdn, asked, hd⟩ := ifGiven_eq_error.1 (Answers.refused_error.1 hd)
      rcases Checks.coversDatastore_eq_error.1 hd with ⟨nothing, rfl⟩ | ⟨scope, elsewhere, rfl⟩
      · exact .unscoped role asked nothing
      · exact .uncovered role asked scope elsewhere
    have covered := datastore_passes.1 (Answers.mapError_ok.1 hd)
    rcases Answers.bind_error.1 he with hs | ⟨user, hs, he⟩
    · obtain ⟨unnamed, rfl⟩ := Checks.subject_eq_error.1 (Answers.refused_error.1 hs)
      exact .nobody role covered unnamed
    · obtain ⟨named, given⟩ := Checks.subject_eq_ok.1 (Answers.mapError_ok.1 hs)
      obtain ⟨barred, hu⟩ := (hf _ _).1 he
      cases hu
      exact .unlisted role covered named given barred
  · intro he
    have passed {x : Except AccessError Unit} (hx : x = .ok ()) : x.mapError Failure.refused = .ok () :=
      Answers.mapError_ok.2 hx
    have failed {β : Type} {x : Except AccessError β} {cause : AccessError} (hx : x = .error cause) :
        x.mapError Failure.refused = .error (.refused cause) := Answers.refused_error.2 hx
    refine Answers.bind_error.2 ?_
    cases he with
    | role asked other => exact .inl (failed (ifGiven_eq_error.2 ⟨_, asked, Checks.role_eq_error.2 ⟨other, rfl⟩⟩))
    | @unscoped rdn role asked nothing =>
      have hd : Checks.coversDatastore c rdn = _ := Checks.coversDatastore_eq_error.2 (.inl ⟨nothing, rfl⟩)
      exact .inr ⟨(), passed (role_passes.2 role), Answers.bind_error.2
        (.inl (failed (ifGiven_eq_error.2 ⟨_, asked, hd⟩)))⟩
    | uncovered role asked scope elsewhere =>
      have hd := Checks.coversDatastore_eq_error.2 (.inr ⟨scope, elsewhere, rfl⟩)
      exact .inr ⟨(), passed (role_passes.2 role), Answers.bind_error.2
        (.inl (failed (ifGiven_eq_error.2 ⟨_, asked, hd⟩)))⟩
    | nobody role covered unnamed =>
      have hs := Checks.subject_eq_error.2 ⟨unnamed, rfl⟩
      exact .inr ⟨(), passed (role_passes.2 role), Answers.bind_error.2 (.inr ⟨(), passed (datastore_passes.2 covered),
        Answers.bind_error.2 (.inl (failed hs))⟩)⟩
    | unlisted role covered named given barred =>
      have hs := Checks.subject_eq_ok.2 ⟨named, given⟩
      have he := (hf ⟨_, c, key⟩ _).2 ⟨barred, rfl⟩
      exact .inr ⟨(), passed (role_passes.2 role), Answers.bind_error.2 (.inr ⟨(), passed (datastore_passes.2 covered),
        Answers.bind_error.2 (.inr ⟨_, Answers.mapError_ok.2 hs, he⟩)⟩)⟩

theorem grant_bind_ne_overflow {α : Type} {d : Decoder} {now : UInt64} {demand : Demand} {key : Option SigningKey}
    {verify : Bool} {token : String} {c : Claims} {admits : String → Prop} {finish : Grant → Except Failure α}
    (hf : Closes admits finish) (h : d.decode now demand.policy key (some demand.audience) verify token = .ok c) :
    (grant d now demand key verify token).bind finish ≠ .error .overflow := by
  rw [grant_bind_of_decode h]
  intro he
  rcases Answers.bind_error.1 he with he | ⟨-, -, he⟩
  · exact Answers.refused_ne_overflow he
  rcases Answers.bind_error.1 he with he | ⟨-, -, he⟩
  · exact Answers.refused_ne_overflow he
  rcases Answers.bind_error.1 he with he | ⟨user, -, he⟩
  · exact Answers.refused_ne_overflow he
  · cases ((hf _ _).1 he).2

theorem grant_bind_eq_overflow {α : Type} {d : Decoder} {now : UInt64} {demand : Demand} {key : Option SigningKey}
    {verify : Bool} {token : String} {admits : String → Prop} {finish : Grant → Except Failure α}
    (hf : Closes admits finish) : (grant d now demand key verify token).bind finish = .error .overflow ↔
      d.BreaksOff now key verify token := by
  constructor
  · intro h
    cases hc : d.decode now demand.policy key (some demand.audience) verify token with
    | error e =>
      rw [grant_eq, hc] at h
      cases h
      exact Decoder.decode_eq_overflow.1 hc
    | ok c => exact absurd h (grant_bind_ne_overflow hf hc)
  · intro hb
    rw [grant_eq, Decoder.decode_eq_overflow.2 hb]
    rfl

end Strategy

/-! ## The stages of a call -/

/-- `t` is the given token, and `key` is found for the id in its header. -/
structure Keyed (r : Resolver) (o : Occasion) (st : Resolver.State) (token : Option String) (t : String)
    (key : SigningKey) : Prop where
  given : token = some t
  found : ∃ header id, Token.header? t = some header ∧ header.keyId = some id ∧
    (r.keyFor o.endpoint o.moments id st).1 = .ok key

/-- The refusals of a call, one way for each stage to go wrong. -/
inductive Fails (r : Resolver) (d : Decoder) (o : Occasion) (st : Resolver.State) (demand : Demand)
    (admits : String → Prop) : AccessError → Prop where
  | absent (missing : demand.token = none ∨ demand.token = some "") :
      Fails r d o st demand admits (.unauthenticated .noToken)
  | unreadable {t : String} (given : demand.token = some t) (nonempty : t ≠ "") (nameless : Token.keyId? t = none) :
      Fails r d o st demand admits .invalidToken
  | keyless {t id : String} {cause : KeyFailure} (given : demand.token = some t) (named : Token.keyId? t = some id)
      (failure : (r.keyFor o.endpoint o.moments id st).1 = .error cause) :
      Fails r d o st demand admits (.keyResolution cause)
  | invalid {t : String} {key : SigningKey} (keyed : Keyed r o st demand.token t key)
      (fault : d.decode o.now demand.policy (some key) (some demand.audience) true t = .error (.refused .invalidToken)) :
      Fails r d o st demand admits .invalidToken
  | broken {t : String} {key : SigningKey} {cause : AccessError.Internal} (keyed : Keyed r o st demand.token t key)
      (fault : d.decode o.now demand.policy (some key) (some demand.audience) true t =
        .error (.refused (.internal cause))) :
      Fails r d o st demand admits (.internal cause)
  | refused {t : String} {key : SigningKey} {c : Claims} {e : AccessError} (keyed : Keyed r o st demand.token t key)
      (good : d.Accepts o.now demand.policy key demand.audience t c) (refusal : demand.Refused admits c e) :
      Fails r d o st demand admits e

theorem keyId?_empty : Token.keyId? "" = none := by decide

theorem ne_of_keyId? {t id : String} (h : Token.keyId? t = some id) : t ≠ "" := by
  rintro rfl
  rw [keyId?_empty] at h
  cases h

section Stages

variable {r : Resolver} {d : Decoder} {k : ServiceKey} {o : Occasion} {st : Resolver.State} {demand : Demand}
  {t : String} {key : SigningKey}

theorem keyed_iff : Keyed r o st demand.token t key ↔ demand.token = some t ∧ ∃ id, Token.keyId? t = some id ∧
    (r.keyFor o.endpoint o.moments id st).1 = .ok key := by
  constructor
  · rintro ⟨given, header, id, hh, hid, hk⟩
    exact ⟨given, id, Option.bind_eq_some_iff.2 ⟨header, hh, hid⟩, hk⟩
  · rintro ⟨given, id, hid, hk⟩
    obtain ⟨header, hh, hid⟩ := Option.bind_eq_some_iff.1 hid
    exact ⟨given, header, id, hh, hid, hk⟩

theorem authorize_of_nameless (ht : demand.token = some t) (hne : t ≠ "") (h : Token.keyId? t = none) :
    (Strategy.full r d k).authorize o demand st = (.error (.refused .invalidToken), st) := by
  rw [Strategy.authorize_of_given ht hne, Resolver.resolve, h]
  rfl

theorem authorize_of_named {id : String} (ht : demand.token = some t) (h : Token.keyId? t = some id) :
    (Strategy.full r d k).authorize o demand st =
      (((r.keyFor o.endpoint o.moments id st).1.mapError .keyResolution).mapError .refused >>= fun key =>
        Strategy.grant d o.now demand (some key) true t, (r.keyFor o.endpoint o.moments id st).2) := by
  rw [Strategy.authorize_of_given ht (ne_of_keyId? h), Resolver.resolve, h]

theorem authorize_of_keyed (h : Keyed r o st demand.token t key) :
    ((Strategy.full r d k).authorize o demand st).1 = Strategy.grant d o.now demand (some key) true t := by
  obtain ⟨ht, id, hid, hk⟩ := keyed_iff.1 h
  rw [authorize_of_named ht hid, hk]
  rfl

variable {α : Type} {admits : String → Prop} {finish : Grant → Except Failure α} {e : AccessError}

/-- A call fails for want of a token or of a key for it, or it gets as far as the key. -/
theorem fails_or_keyed (r : Resolver) (d : Decoder) (k : ServiceKey) (o : Occasion) (st : Resolver.State) (demand : Demand)
    (admits : String → Prop) :
    (∃ e, Fails r d o st demand admits e ∧ ((Strategy.full r d k).authorize o demand st).1 = .error (.refused e)) ∨
      ∃ t key, Keyed r o st demand.token t key := by
  -- Down the stages: the first that goes wrong is the one that answers.
  rcases Strategy.given_cases demand.token with missing | ⟨t, ht, hne⟩
  · refine .inl ⟨_, .absent missing, ?_⟩
    rw [Strategy.authorize_of_absent missing]
  cases hid : Token.keyId? t with
  | none =>
    refine .inl ⟨_, .unreadable ht hne hid, ?_⟩
    rw [authorize_of_nameless ht hne hid]
  | some id =>
    cases hk : (r.keyFor o.endpoint o.moments id st).1 with
    | error cause =>
      refine .inl ⟨_, .keyless ht hid hk, ?_⟩
      rw [authorize_of_named ht hid, hk]
      rfl
    | ok key => exact .inr ⟨t, key, keyed_iff.2 ⟨ht, id, hid, hk⟩⟩

/-- **When a call breaks off**: its token has a key, and the reading under that key breaks off. -/
theorem authorize_bind_eq_overflow (hf : Strategy.Closes admits finish) :
    ((Strategy.full r d k).authorize o demand st).1.bind finish = .error .overflow ↔
      ∃ t key, Keyed r o st demand.token t key ∧ d.BreaksOff o.now (some key) true t := by
  constructor
  · intro h
    rcases fails_or_keyed r d k o st demand admits with ⟨e, -, he⟩ | ⟨t, key, keyed⟩
    · rw [he] at h
      cases h
    · rw [authorize_of_keyed keyed] at h
      exact ⟨t, key, keyed, (Strategy.grant_bind_eq_overflow hf).1 h⟩
  · rintro ⟨t, key, keyed, hb⟩
    rw [authorize_of_keyed keyed]
    exact (Strategy.grant_bind_eq_overflow hf).2 hb

/-- **All refusals of a call.** -/
theorem authorize_bind_eq_error (hf : Strategy.Closes admits finish) :
    ((Strategy.full r d k).authorize o demand st).1.bind finish = .error (.refused e) ↔
      Fails r d o st demand admits e := by
  constructor
  · intro h
    rcases fails_or_keyed r d k o st demand admits with ⟨e', hfails, he⟩ | ⟨t, key, keyed⟩
    · rw [he] at h
      cases h
      exact hfails
    · rw [authorize_of_keyed keyed] at h
      cases hc : d.decode o.now demand.policy (some key) (some demand.audience) true t with
      | error e' =>
        rw [Strategy.grant_eq, hc] at h
        cases h
        rcases Decoder.invalid_or_internal hc with rfl | ⟨cause, rfl⟩
        · exact .invalid keyed hc
        · exact .broken keyed hc
      | ok c =>
        exact .refused keyed (Decoder.decode_signed_eq_ok.1 hc) ((Strategy.grant_bind_eq_error hf hc).1 h)
  · intro h
    cases h with
    | absent missing =>
      rw [Strategy.authorize_of_absent missing]
      rfl
    | unreadable given nonempty nameless =>
      rw [authorize_of_nameless given nonempty nameless]
      rfl
    | keyless given named failure =>
      rw [authorize_of_named given named, failure]
      rfl
    | invalid keyed fault =>
      rw [authorize_of_keyed keyed, Strategy.grant_eq, fault]
      rfl
    | broken keyed fault =>
      rw [authorize_of_keyed keyed, Strategy.grant_eq, fault]
      rfl
    | refused keyed good refusal =>
      rw [authorize_of_keyed keyed]
      exact (Strategy.grant_bind_eq_error hf (Decoder.decode_signed_eq_ok.2 good)).2 refusal

end Stages

/-! ## Breaking off -/

/-- A call on a token breaks off: signatures are checked, the token has a key, and the reading under that key breaks
off. -/
def Strategy.BreaksOff (s : Strategy) (o : Occasion) (st : Resolver.State) (token : Option String) : Prop :=
  ∃ r d k t key, s = .full r d k ∧ Keyed r o st token t key ∧ d.BreaksOff o.now (some key) true t

theorem Strategy.authorize_eq_overflow (s : Strategy) (o : Occasion) (st : Resolver.State) (demand : Demand) {α : Type}
    {admits : String → Prop} {finish : Grant → Except Failure α} (hf : Closes admits finish) :
    (s.authorize o demand st).1.bind finish = .error .overflow ↔ s.BreaksOff o st demand.token := by
  cases s with
  | full r d k =>
    rw [authorize_bind_eq_overflow hf]
    constructor
    · rintro ⟨t, key, h⟩
      exact ⟨r, d, k, t, key, rfl, h⟩
    · rintro ⟨_, _, _, t, key, ⟨⟩, h⟩
      exact ⟨t, key, h⟩
  | off =>
    refine iff_of_false (fun h => ?_) fun ⟨_, _, _, _, _, h, _⟩ => nomatch h
    cases ((hf _ _).1 h).2
  | skipSignature d k =>
    refine iff_of_false (fun h => ?_) fun ⟨_, _, _, _, _, h, _⟩ => nomatch h
    unfold authorize at h
    cases hg : given .noToken demand.token with
    | error e =>
      rw [hg] at h
      cases h
    | ok t =>
      rw [hg] at h
      exact Bool.false_ne_true ((grant_bind_eq_overflow hf).1 h).verified

namespace Authorizer

variable {a : Authorizer} {o : Occasion} {st : Resolver.State} {token : Option String}

theorem user_eq_overflow : (a.user o token st).1 = .error .overflow ↔ a.strategy.BreaksOff o st token := by
  have h := a.strategy.authorize_eq_overflow o st (a.userDemand token) (Strategy.closes_ok (f := Grant.userId))
  rwa [← Answers.map_eq_bind] at h

theorem dataAdministrator_eq_overflow {rdn : String} :
    (a.dataAdministrator o rdn token st).1 = .error .overflow ↔ a.strategy.BreaksOff o st token := by
  have h := a.strategy.authorize_eq_overflow o st (a.dataAdministratorDemand rdn token) (Strategy.closes_ok (f := id))
  rwa [← Answers.map_eq_bind, Except.map_id] at h

theorem provisioner_eq_overflow : (a.provisioner o token st).1 = .error .overflow ↔ a.strategy.BreaksOff o st token :=
  a.strategy.authorize_eq_overflow o st (a.provisionerDemand token) Strategy.closes_unless_off

end Authorizer

/-! ## Separation -/

/-- How the errors of a call for a demand are kept apart. -/
structure Separates {α : Type} (r : Resolver) (d : Decoder) (o : Occasion) (st : Resolver.State) (demand : Demand)
    (admits : String → Prop) (outcome : Except Failure α × Resolver.State) : Prop where
  unauthenticated : ∀ cause, outcome.1 = .error (.refused (.unauthenticated cause)) ↔
    (demand.token = none ∨ demand.token = some "") ∧ cause = .noToken
  /-- Nothing is asked of the endpoint, and nothing is noted. -/
  unreadable : ∀ t, demand.token = some t → t ≠ "" →
    (∀ header, Token.header? t = some header → header.keyId = none) → outcome = (.error (.refused .invalidToken), st)
  /-- Whatever else is wrong with the token. -/
  keyResolution : ∀ cause, outcome.1 = .error (.refused (.keyResolution cause)) ↔ ∃ t header id, demand.token = some t ∧
    Token.header? t = some header ∧ header.keyId = some id ∧
    (r.keyFor o.endpoint o.moments id st).1 = .error cause
  /-- Rights are spoken of only where the token holds up under its key. -/
  forbidden : ∀ cause, outcome.1 = .error (.refused (.forbidden cause)) → ∃ t key c, Keyed r o st demand.token t key ∧
    d.Accepts o.now demand.policy key demand.audience t c
  ordered : ∀ t key c, Keyed r o st demand.token t key → d.Accepts o.now demand.policy key demand.audience t c →
    ∀ e, outcome.1 = .error e ↔ ∃ cause, e = .refused cause ∧ demand.Refused admits c cause
  settings : ∀ cause, outcome.1 ≠ .error (.refused (.configuration cause))
  mismatch : outcome.1 ≠ .error (.refused .tokenMismatch)
  /-- The call breaks off just where the reading of its token does. -/
  overflow : outcome.1 = .error .overflow ↔
    ∃ t key, Keyed r o st demand.token t key ∧ d.BreaksOff o.now (some key) true t

/-- A call with a last word on the user, which may be no word at all. -/
theorem separates {α : Type} {admits : String → Prop} {finish : Grant → Except Failure α}
    (hf : Strategy.Closes admits finish) (r : Resolver) (d : Decoder) (k : ServiceKey) (o : Occasion)
    (st : Resolver.State) (demand : Demand) :
    Separates r d o st demand admits (((Strategy.full r d k).authorize o demand st).1.bind finish,
      ((Strategy.full r d k).authorize o demand st).2) := by
  have fails (e : AccessError) : ((Strategy.full r d k).authorize o demand st).1.bind finish = .error (.refused e) ↔
      Fails r d o st demand admits e := authorize_bind_eq_error hf
  constructor
  case unauthenticated =>
    intro cause
    rw [fails]
    constructor
    · intro h
      cases h with
      | absent missing => exact ⟨missing, rfl⟩
      | refused keyed good refusal => cases refusal
    · rintro ⟨missing, rfl⟩
      exact .absent missing
  case unreadable =>
    intro t given nonempty nameless
    have hid : Token.keyId? t = none := Option.bind_eq_none_iff.2 nameless
    rw [authorize_of_nameless given nonempty hid]
    rfl
  case keyResolution =>
    intro cause
    rw [fails]
    constructor
    · intro h
      cases h with
      | keyless given named failure =>
        obtain ⟨header, hh, hid⟩ := Option.bind_eq_some_iff.1 named
        exact ⟨_, header, _, given, hh, hid, failure⟩
      | refused keyed good refusal => cases refusal
    · rintro ⟨t, header, id, given, hh, hid, failure⟩
      exact .keyless given (Option.bind_eq_some_iff.2 ⟨header, hh, hid⟩) failure
  case forbidden =>
    intro cause h
    cases (fails _).1 h with
    | refused keyed good refusal => exact ⟨_, _, _, keyed, good⟩
  case ordered =>
    intro t key c keyed good e
    have hc := Decoder.decode_signed_eq_ok.2 good
    rw [authorize_of_keyed keyed]
    constructor
    · intro he
      cases e with
      | refused cause => exact ⟨cause, rfl, (Strategy.grant_bind_eq_error hf hc).1 he⟩
      | overflow => exact absurd he (Strategy.grant_bind_ne_overflow hf hc)
    · rintro ⟨cause, rfl, hr⟩
      exact (Strategy.grant_bind_eq_error hf hc).2 hr
  case settings =>
    intro cause h
    cases (fails _).1 h with
    | refused keyed good refusal => cases refusal
  case mismatch =>
    intro h
    cases (fails _).1 h with
    | refused keyed good refusal => cases refusal
  case overflow => exact authorize_bind_eq_overflow hf

/-- **Errors tell how far a token got, with every signature checked.**  For any demand, and for each decision of the
service; where provisioning is decided, the list has the last word. -/
theorem errors_separated (r : Resolver) (d : Decoder) (k : ServiceKey) (audiences : Audiences) (role : String)
    (provisioners : Allowlist) (o : Occasion) (st : Resolver.State) :
    (∀ demand, Separates r d o st demand (fun _ => True) ((Strategy.full r d k).authorize o demand st)) ∧
    (∀ token, Separates r d o st ⟨token, audiences.data, Policy.user, none, none⟩ (fun _ => True)
      ((Authorizer.mk (.full r d k) audiences role provisioners).user o token st)) ∧
    (∀ rdn token, Separates r d o st
      ⟨token, audiences.jobs, Policy.accreditation, some "role/dataadministrator", some rdn⟩ (fun _ => True)
      ((Authorizer.mk (.full r d k) audiences role provisioners).dataAdministrator o rdn token st)) ∧
    (∀ token, Separates r d o st ⟨token, audiences.provisioning, Policy.accreditation, some role, none⟩
      (fun user => provisioners.contains user = true)
      ((Authorizer.mk (.full r d k) audiences role provisioners).provisioner o token st)) := by
  have asked (demand : Demand) :
      Separates r d o st demand (fun _ => True) ((Strategy.full r d k).authorize o demand st) := by
    have h := separates (Strategy.closes_ok (f := id)) r d k o st demand
    rwa [← Answers.map_eq_bind, Except.map_id] at h
  refine ⟨asked, ?_, ?_, ?_⟩
  · intro token
    have h := separates (Strategy.closes_ok (f := Grant.userId)) r d k o st
      ⟨token, audiences.data, Policy.user, none, none⟩
    rwa [← Answers.map_eq_bind] at h
  · intro rdn token
    exact asked _
  · intro token
    have hm : (Authorizer.mk (.full r d k) audiences role provisioners).mode ≠ .off := by
      intro h
      cases h
    exact separates (Strategy.closes_admitted hm) r d k o st _

end DatastoreAccess

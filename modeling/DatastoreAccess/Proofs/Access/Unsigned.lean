import DatastoreAccess.Proofs.Access.Granting
import DatastoreAccess.Proofs.Token.Readings
/-!
# Proofs.Access.Unsigned — what checking signatures adds

Two authorizers made from one configuration, one checking signatures and one not, share every check but those of the
signature, the key and the expiry.  A token that states its expiry in whole seconds, if it states one, and that is
decoded with its signature is decoded without it to the same claims (`decode_unsigned`), and from there on the checks are
the same.  So whatever is granted with signatures is granted without them, to the same user (`granted_unsigned`).
-/
namespace DatastoreAccess

/-- The tokens of a request that are there state no fraction of a second. -/
def WholeExpiry (token : Option String) : Prop := ∀ t, token = some t → Token.StatesWholeExpiry t

/-! ## Checks -/

theorem Decoder.decode_unsigned {d : Decoder} {now : UInt64} {p : Policy} {key unused : Option SigningKey}
    {audience : Option String} {token : String} {c : Claims} (h : d.decode now p key audience true token = .ok c)
    (hw : Token.StatesWholeExpiry token) : d.decode now p unused audience false token = .ok c := by
  obtain ⟨hc, ha, hs⟩ := decode_eq_ok.1 h
  cases key with
  | none => cases hc
  | some key =>
    exact decode_eq_ok.2 ⟨Answers.mapError_ok.2 (Token.plain_of_signed (claims_signed_eq_ok.1 hc) hw), ha, hs⟩

theorem Checks.correlate_unsigned {d : Decoder} {now : UInt64} {primary : Claims} {key unused : Option SigningKey}
    {token : String} {i : Identity} (h : correlate d now primary key true token = .ok i)
    (hw : Token.StatesWholeExpiry token) : correlate d now primary unused false token = .ok i := by
  obtain ⟨c, hc, h⟩ := Answers.bind_ok.1 h
  exact Answers.bind_ok.2 ⟨c, Decoder.decode_unsigned hc hw, h⟩

/-- A grant as it is given where no key is known. -/
def Grant.withoutKey (g : Grant) : Grant := { g with key := none }

namespace Strategy

theorem grant_unsigned {d : Decoder} {now : UInt64} {demand : Demand} {key : Option SigningKey} {token : String}
    {g : Grant} (h : grant d now demand key true token = .ok g) (hw : Token.StatesWholeExpiry token) :
    grant d now demand none false token = .ok g.withoutKey := by
  obtain ⟨hc, hr, hd, hs, -⟩ := grant_eq_ok.1 h
  exact grant_eq_ok.2 ⟨Decoder.decode_unsigned hc hw, hr, hd, hs, rfl⟩

variable {r : Resolver} {d : Decoder} {k : ServiceKey}

theorem authorize_unsigned {o o' : Occasion} {demand : Demand} {st st' : Resolver.State} {g : Grant}
    (ho : o'.now = o.now) (hw : WholeExpiry demand.token) (h : ((full r d k).authorize o demand st).1 = .ok g) :
    ((skipSignature d k).authorize o' demand st').1 = .ok g.withoutKey := by
  obtain ⟨t, key, ht, hne, -, hg⟩ := authorize_full_eq_ok.1 h
  rw [← ho] at hg
  exact authorize_skipSignature_eq_ok.2 ⟨t, ht, hne, grant_unsigned hg (hw t ht)⟩

theorem identity_unsigned {now : UInt64} {g g' : Grant} {userInfo : Option String} {i : Identity}
    (hg : g'.claims = g.claims) (hw : WholeExpiry userInfo) (h : (full r d k).identity now g userInfo = .ok i) :
    (skipSignature d k).identity now g' userInfo = .ok i := by
  obtain ⟨t, ht, h⟩ := Answers.bind_ok.1 h
  refine Answers.bind_ok.2 ⟨t, ht, ?_⟩
  rw [hg]
  exact Checks.correlate_unsigned h (hw t (given_eq_ok.1 (Answers.mapError_ok.1 ht)).1)

end Strategy

/-! ## Decisions -/

namespace Authorizer

theorem ofConfiguration_full {c : Configuration} {a : Authorizer} (h : ofConfiguration { c with mode := .full } = .ok a) :
    ∃ r, a = ⟨.full r ⟨c.leeway⟩ (ServiceKey.ofString c.serviceKey), c.audiences, c.provisionerRole, c.provisioners⟩ := by
  obtain ⟨s, hs, rfl⟩ := Answers.map_ok.1 h
  unfold Strategy.ofConfiguration at hs
  dsimp only at hs
  split at hs
  · cases hs
  · cases hs
    exact ⟨_, rfl⟩

theorem ofConfiguration_skipSignature {c : Configuration} {a : Authorizer}
    (h : ofConfiguration { c with mode := .skipSignature } = .ok a) :
    a = ⟨.skipSignature ⟨c.leeway⟩ (ServiceKey.ofString c.serviceKey), c.audiences, c.provisionerRole,
      c.provisioners⟩ := by
  cases h
  rfl

theorem user_eq_ok {a : Authorizer} {o : Occasion} {token : Option String} {st : Resolver.State} {user : String} :
    (a.user o token st).1 = .ok user ↔
      ∃ g, (a.strategy.authorize o (a.userDemand token) st).1 = .ok g ∧ g.userId = user := Answers.map_ok

/-- **Whatever is granted with signatures is granted without them**, at the same instant, to the same user and with the
same claims; and a user-info token that is accepted with its signature is accepted without it, for the same identity. -/
theorem granted_unsigned (c : Configuration) (a b : Authorizer) (ha : ofConfiguration { c with mode := .full } = .ok a)
    (hb : ofConfiguration { c with mode := .skipSignature } = .ok b) (o o' : Occasion) (ho : o'.now = o.now)
    (st st' : Resolver.State) :
    (∀ token, WholeExpiry token →
      (∀ user, (a.user o token st).1 = .ok user → (b.user o' token st').1 = .ok user) ∧
      (∀ rdn g, (a.dataAdministrator o rdn token st).1 = .ok g →
        (b.dataAdministrator o' rdn token st').1 = .ok g.withoutKey) ∧
      (∀ g, (a.provisioner o token st).1 = .ok g → (b.provisioner o' token st').1 = .ok g.withoutKey)) ∧
    (∀ demand g, WholeExpiry demand.token → (a.strategy.authorize o demand st).1 = .ok g →
      (b.strategy.authorize o' demand st').1 = .ok g.withoutKey) ∧
    (∀ g g' userInfo i, WholeExpiry userInfo → g'.claims = g.claims → a.identity o.now g userInfo = .ok i →
      b.identity o'.now g' userInfo = .ok i) := by
  obtain ⟨r, rfl⟩ := ofConfiguration_full ha
  obtain rfl := ofConfiguration_skipSignature hb
  refine ⟨fun token hw => ⟨fun user h => ?_, fun rdn g h => ?_, fun g h => ?_⟩, fun demand g hw h => ?_,
    fun g g' userInfo i hw hg h => ?_⟩
  · obtain ⟨g, hg, rfl⟩ := user_eq_ok.1 h
    exact user_eq_ok.2 ⟨g.withoutKey, Strategy.authorize_unsigned ho hw hg, rfl⟩
  · exact Strategy.authorize_unsigned ho hw h
  · obtain ⟨hg, hl⟩ := provisioner_eq_ok.1 h
    refine provisioner_eq_ok.2 ⟨Strategy.authorize_unsigned ho hw hg, ?_⟩
    exact .inr (hl.resolve_left fun hm => nomatch hm)
  · exact Strategy.authorize_unsigned ho hw h
  · rw [ho]
    exact Strategy.identity_unsigned hg hw h

/-- A configuration for which the sample token is meant. -/
def sampleConfiguration : Configuration := .make .full (some "https://id/keys") ⟨"d", "j", "p"⟩ "k"

/-- The key of the sample token, fetched just now. -/
def sampleState : Resolver.State := ⟨⟨[⟨⟨"k", .rsa Token.Sample.key⟩, 0⟩], some 0⟩, 1⟩

theorem user_of_sample {a : Authorizer} (h : ofConfiguration sampleConfiguration = .ok a) :
    (a.user ⟨fun _ => .unanswered, .still 0, 0⟩ (some Token.Sample.token) sampleState).1 = .ok "u" := by
  have hne : Token.Sample.token ≠ "" := Token.Sample.opened.ne_empty
  have hid : Token.keyId? Token.Sample.token = some "k" := Token.Sample.opened.keyId?_eq
  cases h
  refine user_eq_ok.2 ⟨⟨"u", Token.Sample.claims, some ⟨"k", .rsa Token.Sample.key⟩⟩,
    Strategy.authorize_full_eq_ok.2 ⟨_, _, rfl, hne, Resolver.resolve_eq_ok.2 ⟨"k", hid, rfl⟩, Strategy.grant_eq_ok.2
      ⟨Decoder.decode_signed_eq_ok.2 ⟨Token.Sample.vouched, ?_, fun _ => .inl rfl, ?_⟩, nofun, nofun, ?_, rfl⟩⟩, rfl⟩
  · intro v hv
    cases Token.Sample.expiry.symm.trans hv
  · intro name hn
    obtain rfl : name = "sub" := List.mem_singleton.1 hn
    exact Claims.gives_of_string rfl
  · exact Checks.subject_eq_ok.2 ⟨rfl, by decide⟩

/-- Such grants are given, here for a token that a key has signed. -/
theorem granted_unsigned_sample : ∃ a b o st,
    ofConfiguration { sampleConfiguration with mode := .full } = .ok a ∧
    ofConfiguration { sampleConfiguration with mode := .skipSignature } = .ok b ∧
    WholeExpiry (some Token.Sample.token) ∧ (a.user o (some Token.Sample.token) st).1 = .ok "u" ∧
    (b.user o (some Token.Sample.token) .initial).1 = .ok "u" := by
  have hw : WholeExpiry (some Token.Sample.token) := by
    intro t ht
    rw [← Option.some.inj ht]
    exact Token.Sample.statesWholeExpiry
  refine ⟨_, _, _, _, rfl, rfl, hw, user_of_sample rfl, ?_⟩
  exact ((granted_unsigned sampleConfiguration _ _ rfl rfl _ _ rfl _ .initial).1 _ hw).1 "u" (user_of_sample rfl)

end Authorizer
end DatastoreAccess

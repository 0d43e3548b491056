import DatastoreAccess.Proofs.Access.Agreement
/-!
# Proofs.Access.Leeway — what the leeway changes

The leeway enters a decoding at one place only: the first second that still counts (`firstSecond?`).  So a token under a
policy has its fate before any clock is read: an answer for good, or one that stands up to a last second
(`exists_fate`).  Without a signature check the first second is the time less the leeway, never below zero, and more
leeway never takes a token away.  With one the subtraction has no result when the leeway exceeds the time, and the
decoding breaks off, whatever it would have come to with less (`overflow_beyond_now`).  There is no other exception
(`decode_by_leeway`).
-/
namespace DatastoreAccess

namespace Token

/-- The second that a reading takes a number for. -/
def secondOf (verify : Bool) (n : Json.Number) : Option Nat :=
  if verify then Stamp.nearestSecond? n else Claims.secondsOf n

/-- The first second that still counts in a reading, if there is any. -/
def firstSecond? (verify : Bool) (now leeway : UInt64) : Option Nat :=
  if verify then signedFloor? now leeway else some (plainFloor now leeway)

/-- The payload of a token reads as claims. -/
def Carries (token : String) (c : Claims) : Prop :=
  ∃ parts, Compact.ofString? token = some parts ∧ payload? parts.payload = some c

/-- A token states its expiry as a number, which a reading takes for a second. -/
def Expires (verify : Bool) (token : String) (last : Nat) : Prop :=
  ∃ c n, Carries token c ∧ c.get? "exp" = some (.number n) ∧ secondOf verify n = some last

/-- A token states no expiry before now. -/
def Standing (now : UInt64) (token : String) : Prop :=
  ∀ c n s, Carries token c → c.get? "exp" = some (.number n) → Claims.secondsOf n = some s → now.toNat ≤ s

theorem Carries.unique {token : String} {c c' : Claims} (h : Carries token c) (h' : Carries token c') : c = c' := by
  obtain ⟨parts, hp, hc⟩ := h
  obtain ⟨parts', hp', hc'⟩ := h'
  obtain rfl : parts = parts' := Option.some.inj (hp.symm.trans hp')
  exact Option.some.inj (hc.symm.trans hc')

/-! ## Stamps -/

/-- What a reading takes for the expiry of claims. -/
def stamp (verify : Bool) (c : Claims) : Stamp := if verify then .signed (c.get? Claims.expiration) else .plain c

theorem plain_eq_at {c : Claims} {last : Nat} :
    Stamp.plain c = .at last ↔ ∃ n, c.get? "exp" = some (.number n) ∧ Claims.secondsOf n = some last := by
  unfold Stamp.plain Claims.contains Claims.expiresAt
  cases hv : c.get? Claims.expiration with
  | none =>
    have hv : c.get? "exp" = none := hv
    simp [hv]
  | some v =>
    have hv : c.get? "exp" = some v := hv
    cases v with
    | number n => cases hs : Claims.secondsOf n <;> simp [hv, hs, Json.isNull]
    | _ => simp [hv, Json.isNull]

theorem stamp_eq_at {verify : Bool} {token : String} {c : Claims} {last : Nat} (hc : Carries token c) :
    stamp verify c = .at last ↔ Expires verify token last := by
  have hn : stamp verify c = .at last ↔ ∃ n, c.get? "exp" = some (.number n) ∧ secondOf verify n = some last := by
    cases verify with
    | false => exact plain_eq_at
    | true => exact signed_stamp_at
  rw [hn]
  constructor
  · rintro ⟨n, h⟩
    exact ⟨c, n, hc, h⟩
  · rintro ⟨c', n, hc', h⟩
    obtain rfl := hc.unique hc'
    exact ⟨n, h⟩

theorem Vouched.carries {token : String} {key : KeyMaterial} {c : Claims} (h : Vouched token key c) :
    Carries token c := by
  obtain ⟨parts, header, hash, ho, -, -, hc⟩ := h
  exact ⟨parts, ho.parts, (signedPayload?_eq_some.1 hc).1⟩

theorem plain_of_opened {token : String} {parts : Compact} {header : Header} {c : Claims}
    (h : Opened token parts header) (hc : payload? parts.payload = some c) (now leeway : UInt64) :
    plain token now leeway =
      (checkExpiry .malformed (some (plainFloor now leeway)) (Stamp.plain c)).map fun _ => c := by
  unfold plain
  rw [h.parts]
  simp only [h.header, hc]
  cases checkExpiry .malformed (some (plainFloor now leeway)) (Stamp.plain c) <;> rfl

/-- A token has claims whose expiry is left to be checked, or it is malformed at any time. -/
theorem plain_cases (token : String) :
    (∃ c, Carries token c ∧ ∀ now leeway, plain token now leeway =
      (checkExpiry .malformed (some (plainFloor now leeway)) (Stamp.plain c)).map fun _ => c) ∨
    ∀ now leeway, plain token now leeway = .error .malformed := by
  cases hp : Compact.ofString? token with
  | none => exact .inr fun now leeway => by unfold plain; rw [hp]; rfl
  | some parts =>
    cases hh : Header.ofSegment? parts.header with
    | none => exact .inr fun now leeway => by unfold plain; rw [hp]; simp only [hh]; rfl
    | some header =>
      cases hc : payload? parts.payload with
      | none => exact .inr fun now leeway => by unfold plain; rw [hp]; simp only [hh, hc]; rfl
      | some c => exact .inl ⟨c, ⟨parts, hp, hc⟩, plain_of_opened ⟨hp, hh⟩ hc⟩

/-! ## First seconds -/

/-- The first second is the time less the leeway, or there is none, as the leeway exceeds the time. -/
theorem firstSecond?_cases (verify : Bool) (now leeway : UInt64) :
    (verify = true → leeway ≤ now) ∧ firstSecond? verify now leeway = some (now.toNat - leeway.toNat) ∨
      verify = true ∧ now < leeway ∧ firstSecond? verify now leeway = none := by
  cases verify with
  | false => exact .inl ⟨nofun, rfl⟩
  | true =>
    by_cases h : leeway ≤ now
    · exact .inl ⟨fun _ => h, signedFloor?_of_le h⟩
    · have hlt : now < leeway := UInt64.not_le.1 h
      exact .inr ⟨rfl, hlt, signedFloor?_of_lt hlt⟩

theorem firstSecond?_eq_some_iff {verify : Bool} {now leeway : UInt64} :
    firstSecond? verify now leeway = some (now.toNat - leeway.toNat) ↔ (verify = true → leeway ≤ now) := by
  rcases firstSecond?_cases verify now leeway with ⟨hl, hf⟩ | ⟨hv, hl, hf⟩
  · exact iff_of_true hf hl
  · rw [hf]
    exact iff_of_false nofun fun h => UInt64.not_le.2 hl (h hv)

/-- With less leeway there still is a first second, and it is no earlier. -/
theorem firstSecond?_antitone {verify : Bool} {now less more : UInt64} (hle : less ≤ more) {first : Nat}
    (h : firstSecond? verify now more = some first) :
    ∃ later, firstSecond? verify now less = some later ∧ first ≤ later := by
  rcases firstSecond?_cases verify now more with ⟨hm, hf⟩ | ⟨-, -, hf⟩
  · cases h.symm.trans hf
    refine ⟨_, firstSecond?_eq_some_iff.2 fun hv => UInt64.le_trans hle (hm hv), ?_⟩
    exact Nat.sub_le_sub_left (UInt64.le_iff_toNat_le.1 hle) _
  · cases h.symm.trans hf

theorem firstSecond?_le_now {verify : Bool} {now leeway : UInt64} {first : Nat}
    (h : firstSecond? verify now leeway = some first) : first ≤ now.toNat := by
  rcases firstSecond?_cases verify now leeway with ⟨-, hf⟩ | ⟨-, -, hf⟩
  · cases h.symm.trans hf
    exact Nat.sub_le _ _
  · cases h.symm.trans hf

theorem Standing.le {verify : Bool} {token : String} {last : Nat} {now : UInt64} (h : Standing now token)
    (he : Expires verify token last) : now.toNat ≤ last := by
  obtain ⟨c, n, hc, hn, hs⟩ := he
  cases verify with
  | false => exact h c n last hc hn hs
  | true =>
    have hs : Stamp.nearestSecond? n = some last := hs
    rcases seconds_cases n with ⟨hnone, -⟩ | hb | ⟨s, t, hs', ht, hle, -, -⟩
    · cases hs.symm.trans hnone
    · cases hs.symm.trans (seconds_of_beyond hb).1
    · cases hs.symm.trans ht
      exact Nat.le_trans (h c n s hc hn hs') hle

end Token

namespace Decoder

/-! ## Fates -/

/-- What a decoding comes to, before any clock is read: an answer for good, or one up to a last second. -/
inductive Fate where
  | settled (answer : Except AccessError Claims)
  | ending (answer : Except AccessError Claims) (last : Nat)

namespace Fate

/-- The answer when `first` is the first second that still counts. -/
def answer (first : Option Nat) : Fate → Except Failure Claims
  | settled a => a.mapError .refused
  | ending a last =>
    match first with
    | none => .error .overflow
    | some first => if last < first then .error (.refused .invalidToken) else a.mapError .refused

/-- Claims that a look at them may still refuse. -/
def sieve (admits : Claims → Bool) (a : Except AccessError Claims) : Except AccessError Claims :=
  a.bind fun c => if admits c then .ok c else .error .invalidToken

def sift (admits : Claims → Bool) : Fate → Fate
  | settled a => settled (sieve admits a)
  | ending a last => ending (sieve admits a) last

/-- A fate that agrees with what the token says. -/
def Fits (verify : Bool) (token : String) : Fate → Prop
  | settled _ => True
  | ending _ last => Token.Expires verify token last

theorem sieve_refused (admits : Claims → Bool) (a : Except AccessError Claims) :
    (sieve admits a).mapError Failure.refused =
      (a.mapError .refused).bind fun c => if admits c then .ok c else .error (.refused .invalidToken) := by
  cases a with
  | error e => rfl
  | ok c => cases h : admits c <;> simp [sieve, h, Except.bind, Except.mapError]

theorem answer_sift (admits : Claims → Bool) (first : Option Nat) (f : Fate) :
    (f.sift admits).answer first =
      (f.answer first).bind fun c => if admits c then .ok c else .error (.refused .invalidToken) := by
  cases f with
  | settled a => exact sieve_refused admits a
  | ending a last =>
    cases first with
    | none => rfl
    | some first =>
      by_cases h : last < first
      · simp [sift, answer, h, Except.bind]
      · simpa [sift, answer, h] using sieve_refused admits a

theorem Fits.sift {verify : Bool} {token : String} {f : Fate} (h : f.Fits verify token) (admits : Claims → Bool) :
    (f.sift admits).Fits verify token := by
  cases f with
  | settled a => trivial
  | ending a last => exact h

/-- The fate of claims that stand as they are but for their expiry. -/
def ofStamp (odd : AccessError) (c : Claims) : Token.Stamp → Fate
  | .absent => settled (.ok c)
  | .unreadable => settled (.error odd)
  | .at last => ending (.ok c) last

theorem answer_ofStamp (odd : Token.Fault) {e : AccessError} (he : Failure.ofFault odd = .refused e) (c : Claims)
    (first : Option Nat) (s : Token.Stamp) : (ofStamp e c s).answer first =
      ((Token.checkExpiry odd first s).map fun _ => c).mapError Failure.ofFault := by
  cases s with
  | absent => rfl
  | unreadable => exact congrArg Except.error he.symm
  | «at» last =>
    cases first with
    | none => rfl
    | some first => by_cases h : last < first <;> simp [ofStamp, answer, Token.checkExpiry, h, Except.map,
        Except.mapError, Failure.ofFault]

theorem fits_ofStamp {verify : Bool} {token : String} {c : Claims} (hc : Token.Carries token c) (odd : AccessError) :
    (ofStamp odd c (Token.stamp verify c)).Fits verify token := by
  cases hs : Token.stamp verify c with
  | absent => trivial
  | unreadable => trivial
  | «at» last => exact (Token.stamp_eq_at hc).1 hs

/-- An answer stands when the first second moves back, and only breaks off when there is none any more. -/
theorem answer_of_earlier {f : Fate} {first? first'? : Option Nat} {c : Claims} (h : f.answer first? = .ok c)
    (hle : ∀ first, first'? = some first → ∃ later, first? = some later ∧ first ≤ later) :
    f.answer first'? = .ok c ↔ ¬ f.answer first'? = .error .overflow := by
  cases f with
  | settled a =>
    change a.mapError Failure.refused = .ok c at h
    exact iff_of_true h Answers.refused_ne_overflow
  | ending a last =>
    cases first'? with
    | none => exact iff_of_false nofun fun hne => hne rfl
    | some first =>
      obtain ⟨later, rfl, hfirst⟩ := hle first rfl
      have hlater : ¬ last < later := by
        intro hlt
        rw [answer, if_pos hlt] at h
        cases h
      rw [answer, if_neg hlater] at h
      rw [answer, if_neg (by omega), h]
      exact iff_of_true rfl nofun

/-- Up to its last second a fate has one answer. -/
theorem answer_of_le {f : Fate} {now : Nat} (hlast : ∀ a last, f = ending a last → now ≤ last) {first? : Option Nat}
    (hle : ∀ first, first? = some first → first ≤ now) :
    f.answer first? = f.answer (some now) ↔ ¬ f.answer first? = .error .overflow := by
  cases f with
  | settled a => exact iff_of_true rfl Answers.refused_ne_overflow
  | ending a last =>
    have stands {first : Nat} (h : first ≤ now) : (ending a last).answer (some first) = a.mapError .refused :=
      if_neg (Nat.not_lt.2 (Nat.le_trans h (hlast a last rfl)))
    rw [stands (Nat.le_refl now)]
    cases first? with
    | none => exact iff_of_false (fun h => Answers.refused_ne_overflow h.symm) fun hne => hne rfl
    | some first =>
      rw [stands (hle first rfl)]
      exact iff_of_true rfl Answers.refused_ne_overflow

end Fate

theorem exists_fate_plain (key : Option SigningKey) (token : String) : ∃ f : Fate, f.Fits false token ∧
    ∀ now leeway, (Decoder.mk leeway).claims now key false token = f.answer (Token.firstSecond? false now leeway) := by
  rcases Token.plain_cases token with ⟨c, hc, hp⟩ | hp
  · refine ⟨.ofStamp .invalidToken c (.plain c), Fate.fits_ofStamp hc _, fun now leeway => ?_⟩
    refine Eq.trans ?_ (Fate.answer_ofStamp .malformed rfl c _ _).symm
    exact congrArg (Except.mapError Failure.ofFault) (hp now leeway)
  · exact ⟨.settled (.error .invalidToken), trivial, fun now leeway =>
      congrArg (Except.mapError Failure.ofFault) (hp now leeway)⟩

theorem exists_fate_signed (key : SigningKey) (token : String) : ∃ f : Fate, f.Fits true token ∧ ∀ now leeway,
    (Decoder.mk leeway).claims now (some key) true token = f.answer (Token.firstSecond? true now leeway) := by
  by_cases hf : Token.ForeignKey token key.material
  · exact ⟨.settled (.error (.internal .keyFamily)), trivial, fun now leeway =>
      congrArg (Except.mapError Failure.ofFault) (Token.signed_of_foreignKey hf now leeway)⟩
  by_cases hv : ∃ c, Token.Vouched token key.material c
  · obtain ⟨c, hv⟩ := hv
    refine ⟨.ofStamp (.internal .expiryFormat) c (.signed (c.get? Claims.expiration)),
      Fate.fits_ofStamp hv.carries _, fun now leeway => ?_⟩
    refine Eq.trans ?_ (Fate.answer_ofStamp .expiryFormat rfl c _ _).symm
    exact congrArg (Except.mapError Failure.ofFault) (Token.signed_of_vouched hv now leeway)
  · refine ⟨.settled (.error .invalidToken), trivial, fun now leeway => ?_⟩
    obtain ⟨f, hs, hk⟩ := ((Token.signed_cases token key.material now leeway).resolve_left hf).resolve_left hv
    refine (congrArg (Except.mapError Failure.ofFault) hs).trans ?_
    rcases hk with rfl | rfl | rfl <;> rfl

theorem decode_eq_sift (d : Decoder) (now : UInt64) (p : Policy) (key : Option SigningKey) (audience : Option String)
    (verify : Bool) (token : String) : d.decode now p key audience verify token =
      (d.claims now key verify token).bind fun c =>
        if p.acceptsAudience audience c && p.satisfiedBy c then .ok c else .error (.refused .invalidToken) := by
  unfold decode
  cases d.claims now key verify token with
  | error e => rfl
  | ok c =>
    cases ha : p.acceptsAudience audience c <;> cases hs : p.satisfiedBy c <;>
      simp [ha, hs, bind, Except.bind, pure, Except.pure, throw, throwThe, MonadExceptOf.throw]

/-- **The fate of a token under a policy**: clock and leeway only decide about it together, and only about its end. -/
theorem exists_fate (p : Policy) (key : Option SigningKey) (audience : Option String) (verify : Bool) (token : String) :
    ∃ f : Fate, f.Fits verify token ∧ ∀ now leeway,
      (Decoder.mk leeway).decode now p key audience verify token = f.answer (Token.firstSecond? verify now leeway) := by
  have hclaims : ∃ f : Fate, f.Fits verify token ∧ ∀ now leeway,
      (Decoder.mk leeway).claims now key verify token = f.answer (Token.firstSecond? verify now leeway) := by
    cases verify with
    | false => exact exists_fate_plain key token
    | true =>
      cases key with
      | none => exact ⟨.settled (.error (.configuration .keyMissing)), trivial, fun now leeway => rfl⟩
      | some key => exact exists_fate_signed key token
  obtain ⟨f, hf, ha⟩ := hclaims
  refine ⟨f.sift fun c => p.acceptsAudience audience c && p.satisfiedBy c, hf.sift _, fun now leeway => ?_⟩
  rw [decode_eq_sift, ha, Fate.answer_sift]

/-- **More leeway keeps what less leeway lets through**, and a token that does not expire before now is decoded alike
with any leeway, but for what breaks off; and this is where the subtraction of the leeway has no result. -/
theorem decode_by_leeway (now : UInt64) (p : Policy) (key : Option SigningKey) (audience : Option String) (verify : Bool)
    (token : String) :
    (∀ less more c, less ≤ more → (Decoder.mk less).decode now p key audience verify token = .ok c →
      ((Decoder.mk more).decode now p key audience verify token = .ok c ↔
        ¬ (Decoder.mk more).BreaksOff now key verify token)) ∧
    (Token.Standing now token → ∀ leeway,
      ((Decoder.mk leeway).decode now p key audience verify token =
          (Decoder.mk 0).decode now p key audience verify token ↔
        ¬ (Decoder.mk leeway).BreaksOff now key verify token)) ∧
    (∀ leeway, (Decoder.mk leeway).decode now p key audience verify token = .error .overflow ↔
      (Decoder.mk leeway).BreaksOff now key verify token) ∧
    ∀ leeway, Token.firstSecond? verify now leeway = some (now.toNat - leeway.toNat) ↔ (verify = true → leeway ≤ now) := by
  obtain ⟨f, hf, ha⟩ := exists_fate p key audience verify token
  have breaks (leeway : UInt64) : (Decoder.mk leeway).BreaksOff now key verify token ↔
      f.answer (Token.firstSecond? verify now leeway) = .error .overflow := by
    rw [← ha]
    exact decode_eq_overflow.symm
  have hzero : Token.firstSecond? verify now 0 = some now.toNat :=
    Token.firstSecond?_eq_some_iff.2 fun _ => UInt64.le_iff_toNat_le.2 (Nat.zero_le _)
  refine ⟨fun less more c hle hless => ?_, fun hs leeway => ?_, fun leeway => decode_eq_overflow,
    fun leeway => Token.firstSecond?_eq_some_iff⟩
  · rw [ha] at hless
    rw [ha, breaks]
    exact Fate.answer_of_earlier hless fun _ => Token.firstSecond?_antitone hle
  · rw [ha, ha, breaks, hzero]
    refine Fate.answer_of_le (fun a last he => ?_) fun _ => Token.firstSecond?_le_now
    subst he
    exact hs.le hf

/-! ## A leeway beyond the time -/

/-- A token with nothing but an expiry in the year 2100, signed with the sample key. -/
def farParts : Token.Compact := ⟨"eyJhbGciOiJSUzI1NiJ9".toList, "eyJleHAiOjQxMDI0NDQ4MDB9".toList,
  Text.Base64Url.encode (Token.ofGroups
  [0xdc8d7928dc453169c1da4c46cb3b3ada54faae326fce7c9efae519977a8b7f38,
   0x65d04c5ab5a9cb53e74598a7af8c7fee5b54de10faca26bce498f0796703b045,
   0xd39bfc61d428200a90789cfa26f45cf0de15b3eb1fbbb733e7ec31b7aa637577,
   0xbb7ed07f43b82981bed40b72d89293a57f6e4c4e1862604dc308277bdf3b920d,
   0x8da83a0bdf8c9cc8c317c03c8f57c137af7aacb2e38247c762c05ecc3fdd268a,
   0x5682fa9208d7cd9ff9679f7a8baa568304d467e647d35a30dfb3210b1ba439af,
   0xe290e38de34b280dbf467c959ab6e34e64037beca95191b980c6257efbc687a8,
   0xe0aba27e5c9f24593a68de5a9fd863c1fe074cba0af527fadf960a3abfea2203])⟩

def farToken : String := String.ofList farParts.toChars

def farClaims : Claims := ⟨[("exp", .number (.integer 4102444800))]⟩

theorem far_opened : Token.Opened farToken farParts ⟨.rs256, none⟩ := by
  refine ⟨?_, by decide +kernel⟩
  rw [Token.Compact.ofString?, farToken, String.toList_ofList]
  decide +kernel

theorem far_signatureHolds : Token.signatureHolds? farParts .sha256 (.rsa Token.Sample.key) = some true := by
  decide +kernel

set_option maxRecDepth 8192 in
theorem far_tree : Token.payloadTree? farParts.payload =
    some (.object [(some "exp", .number ⟨false, [4, 1, 0, 2, 4, 4, 4, 8, 0, 0], [], none⟩)]) := by cbv

theorem far_payload : Token.signedPayload? farParts.payload = some farClaims := by
  refine Token.signedPayload?_eq_some.2 ⟨?_, _, far_tree, Token.slotsReadable_iff.1 (by decide)⟩
  rw [Token.payload?, far_tree]
  rfl

theorem far_vouched : Token.Vouched farToken (.rsa Token.Sample.key) farClaims :=
  ⟨farParts, _, .sha256, far_opened, rfl, far_signatureHolds, far_payload⟩

/-- In 2027, with no leeway at all the token is decoded, and with a leeway of 95 years the decoding breaks off. -/
theorem overflow_beyond_now : (0 : UInt64) ≤ 3000000000 ∧
    (Decoder.mk 0).decode 1800000000 (lenient "sub") (some ⟨"k", .rsa Token.Sample.key⟩) none true farToken =
      .ok farClaims ∧
    (Decoder.mk 3000000000).decode 1800000000 (lenient "sub") (some ⟨"k", .rsa Token.Sample.key⟩) none true farToken =
      .error .overflow := by
  refine ⟨by decide, ?_, ?_⟩
  · refine decode_lenient.2 (claims_signed_eq_ok.2 ((Token.signed_of_vouched far_vouched _ _).trans ?_))
    rfl
  · exact decode_eq_overflow.2 ⟨rfl, by decide, _, rfl, _, _, _, far_vouched, rfl, rfl⟩

end Decoder
end DatastoreAccess

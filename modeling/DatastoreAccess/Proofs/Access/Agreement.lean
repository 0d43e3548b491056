import DatastoreAccess.Proofs.Access.Decoding
import DatastoreAccess.Proofs.Token.Readings
/-!
# Proofs.Access.Agreement — decoding one token with its signature and without

Under a policy that asks for nothing, a token whose signature holds should be decoded with the signature as it is without.
It is, unless its payload shows one of the disparities of the two readings; which these are, and that there are no
others, is said exactly (`decodings_agree_iff`).  A null expiry is one (`decodings_differ_on_null`).
-/
namespace DatastoreAccess.Decoder

/-- A policy that asks for no claim and no audience. -/
def lenient (subject : String) : Policy := .make subject none false

theorem decode_lenient {d : Decoder} {now : UInt64} {subject : String} {key : Option SigningKey}
    {audience : Option String} {verify : Bool} {token : String} {c : Claims} :
    d.decode now (lenient subject) key audience verify token = .ok c ↔ d.claims now key verify token = .ok c := by
  rw [decode_eq_ok]
  exact and_iff_left ⟨rfl, rfl⟩

theorem claims_plain_eq_ok {d : Decoder} {now : UInt64} {unused : Option SigningKey} {token : String} {c : Claims} :
    d.claims now unused false token = .ok c ↔ Token.plain token now d.leeway = .ok c := Answers.mapError_ok

/-- **When a token is decoded with its signature as it is without**: both or neither give claims, and the same. -/
theorem decodings_agree_iff (d : Decoder) (now : UInt64) (subject : String) (audience : Option String)
    (key : SigningKey) (token : String) (parts : Token.Compact) (h : Token.SealedBy token key.material parts) :
    (∀ c, d.decode now (lenient subject) (some key) audience true token = .ok c ↔
        d.decode now (lenient subject) none audience false token = .ok c) ↔
      ∀ c, Token.payload? parts.payload = some c → ¬ Token.Disparity parts.payload c now d.leeway := by
  simp only [decode_lenient, claims_signed_eq_ok, claims_plain_eq_ok]
  exact Token.agree_iff h

/-- A token that the sample key has signed and that states no expiry is decoded alike. -/
theorem decodings_agree_on_sample : Token.SealedBy Token.Sample.token (.rsa Token.Sample.key) Token.Sample.parts ∧
    ∀ c, (Decoder.mk 0).decode 1800000000 (lenient "sub") (some ⟨"k", .rsa Token.Sample.key⟩) none true
        Token.Sample.token = .ok c ↔
      (Decoder.mk 0).decode 1800000000 (lenient "sub") none none false Token.Sample.token = .ok c := by
  refine ⟨Token.Sample.sealedBy, ?_⟩
  refine (decodings_agree_iff ⟨0⟩ _ _ _ ⟨"k", .rsa Token.Sample.key⟩ _ _ Token.Sample.sealedBy).2 fun c hc => ?_
  obtain ⟨hp, hs⟩ := Token.signedPayload?_eq_some.1 Token.Sample.payload
  obtain rfl : c = Token.Sample.claims := Option.some.inj (hc.symm.trans hp)
  rintro (⟨ho, -⟩ | ⟨-, he⟩ | ⟨-, he, -⟩)
  · exact ho hs
  · cases Token.Sample.expiry.symm.trans he
  · cases Token.Sample.expiry.symm.trans he

/-! ## A null expiry -/

/-- A token with nothing but a null expiry, signed with the sample key. -/
def nullParts : Token.Compact := ⟨"eyJhbGciOiJSUzI1NiJ9".toList, "eyJleHAiOm51bGx9".toList, Text.Base64Url.encode (Token.ofGroups
  [0x52b49658de23ebe5d7e72d5dd40fc53b7cfff4a6643f0ac8f0b226b3e0e8c35c,
   0x3586902f1ccc001c431af60cc14766f7c9c219cc1e16d795873f8e2613aeafb9,
   0x024464c281632d29e3c403b784001ee533666be4bb2326625bd4273f648fd761,
   0x4b384049108f6a219fcfe7141d8be4b14a7f58d5fd07334ba2beadf388a5f54d,
   0x8f46feeb61123e8af122abaef5ee3d08d9af66ab62fecd8cf73dcdd65f18babb,
   0xd0fc8cc11bc31fa93539057d2b7a5260673625f294919313de23ccf5bc8c8cb1,
   0x2db8b047ca8ad529dcfd0e9234c394a3a9a36aa59661090b90d66ae2e01ee5fd,
   0x91bdaa9e4e2bd67cf056020cc193fec6e40319f6e06c12847ebe7ed888d22334])⟩

def nullToken : String := String.ofList nullParts.toChars

theorem null_opened : Token.Opened nullToken nullParts ⟨.rs256, none⟩ := by
  refine ⟨?_, by decide +kernel⟩
  rw [Token.Compact.ofString?, nullToken, String.toList_ofList]
  decide +kernel

theorem null_signatureHolds : Token.signatureHolds? nullParts .sha256 (.rsa Token.Sample.key) = some true := by
  decide +kernel

set_option maxRecDepth 8192 in
theorem null_payload : Token.signedPayload? nullParts.payload = some ⟨[("exp", .null)]⟩ := by cbv

/-- With its signature a null expiry is a fault of the service; without it the expiry is absent. -/
theorem decodings_differ_on_null : Token.SealedBy nullToken (.rsa Token.Sample.key) nullParts ∧
    (Decoder.mk 0).decode 1800000000 (lenient "sub") (some ⟨"k", .rsa Token.Sample.key⟩) none true nullToken =
      .error (.refused (.internal .expiryFormat)) ∧
    (Decoder.mk 0).decode 1800000000 (lenient "sub") none none false nullToken = .ok ⟨[("exp", .null)]⟩ := by
  refine ⟨⟨_, .sha256, null_opened, rfl, null_signatureHolds⟩, ?_, ?_⟩
  · refine decode_of_signed_error (Token.signed_eq_expiryFormat.2 ⟨⟨[("exp", .null)]⟩, .null, ?_, rfl, nofun⟩)
    exact ⟨nullParts, _, .sha256, null_opened, rfl, null_signatureHolds, null_payload⟩
  · refine decode_lenient.2 (claims_plain_eq_ok.2 ((Token.plain_eq_ok null_opened).2
      ⟨(Token.signedPayload?_eq_some.1 null_payload).1, fun v hv hn => ?_⟩))
    exact absurd (Option.some.inj hv).symm hn

end DatastoreAccess.Decoder

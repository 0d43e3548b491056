import DatastoreAccess.Proofs.Answers
import DatastoreAccess.Token.Decode
/-!
# Proofs.Token.Verdict — what the two readings of a token can end with

A token under a key is in one of three situations (`signed_cases`).  It asks for an accepted algorithm under a key that
is no RSA key (`ForeignKey`): that is a fault of its own.  Its signature holds and its payload can be read
(`Vouched`): then only the expiry is left (`signed_eq_ok`), and if it is an instant, a leeway beyond the time cannot be
taken from the time (`signed_eq_overflow`).  Or one of the faults of the token itself shows.  The reading without a
signature knows no key and has a floor for every leeway (`plain_error`).
-/
namespace DatastoreAccess.Token

/-- A token falls into its segments and its header can be read. -/
structure Opened (token : String) (p : Compact) (h : Header) : Prop where
  parts : Compact.ofString? token = some p
  header : Header.ofSegment? p.header = some h

/-- A token asks for an accepted algorithm, and the key is of another family. -/
def ForeignKey (token : String) (key : KeyMaterial) : Prop :=
  (∃ parts header, Opened token parts header ∧ (header.algorithm = .rs256 ∨ header.algorithm = .rs512)) ∧
    ∀ k, key ≠ .rsa k

/-- The signature of a token holds under a key, and its payload reads as claims. -/
def Vouched (token : String) (key : KeyMaterial) (c : Claims) : Prop :=
  ∃ parts header hash, Opened token parts header ∧ header.algorithm.accepted? = some hash ∧
    signatureHolds? parts hash key = some true ∧ signedPayload? parts.payload = some c

/-- A value that is no instant: no number, or one below zero or beyond 64 bits. -/
def NoInstant (v : Json) : Prop := ∀ n, v = .number n → Stamp.nearestSecond? n = none

/-- The signature of a token holds under a key, and its expiry is no instant. -/
def OddExpiry (token : String) (key : KeyMaterial) : Prop :=
  ∃ c v, Vouched token key c ∧ c.get? Claims.expiration = some v ∧ NoInstant v

/-- The signature of a token holds under a key, and its expiry is an instant. -/
def Dated (token : String) (key : KeyMaterial) : Prop := ∃ c n t, Vouched token key c ∧
  c.get? Claims.expiration = some (.number n) ∧ Stamp.nearestSecond? n = some t

/-! ## Parts -/

theorem accepted?_isSome {a : Algorithm} : a.accepted?.isSome = true ↔ a = .rs256 ∨ a = .rs512 := by
  cases a <;> decide

theorem signatureHolds?_eq_none {parts : Compact} {h : Rsa.Hash} {key : KeyMaterial} :
    signatureHolds? parts h key = none ↔ ∀ k, key ≠ .rsa k := by
  cases key <;> simp [signatureHolds?]

/-! ## Expiry -/

theorem checkExpiry_error {odd f : Fault} {floor : Option Nat} {s : Stamp} (h : checkExpiry odd floor s = .error f) :
    f = .expired ∨ f = odd ∧ s = .unreadable ∨ f = .overflow ∧ floor = none ∧ ∃ t, s = .at t := by
  cases s with
  | absent => cases h
  | unreadable =>
    cases h
    exact .inr (.inl ⟨rfl, rfl⟩)
  | «at» t =>
    cases floor with
    | none =>
      cases h
      exact .inr (.inr ⟨rfl, rfl, t, rfl⟩)
    | some first =>
      change (if t < first then Except.error Fault.expired else .ok ()) = .error f at h
      split at h
      · cases h
        exact .inl rfl
      · cases h

theorem signed_stamp_unreadable {v : Option Json} :
    Stamp.signed v = .unreadable ↔ ∃ w, v = some w ∧ NoInstant w := by
  cases v with
  | none => simp [Stamp.signed]
  | some v =>
    cases v with
    | number n =>
      cases hn : Stamp.nearestSecond? n with
      | none => simp [Stamp.signed, NoInstant, hn]
      | some t => simp [Stamp.signed, NoInstant, hn]
    | _ => simp [Stamp.signed, NoInstant]

theorem signed_stamp_at {v : Option Json} {t : Nat} :
    Stamp.signed v = .at t ↔ ∃ n, v = some (.number n) ∧ Stamp.nearestSecond? n = some t := by
  cases v with
  | none => simp [Stamp.signed]
  | some v =>
    cases v with
    | number n => cases hn : Stamp.nearestSecond? n <;> simp [Stamp.signed, hn]
    | _ => simp [Stamp.signed]

/-- What is left of the expiry in the signed reading: there is none, or it is a number, and its second still counts by a
leeway up to the time. -/
theorem checkExpiry_signed_eq_ok {odd : Fault} {now leeway : UInt64} {v : Option Json} :
    checkExpiry odd (signedFloor? now leeway) (Stamp.signed v) = .ok () ↔
      ∀ w, v = some w → ∃ n t, w = .number n ∧ Stamp.nearestSecond? n = some t ∧ leeway ≤ now ∧
        plainFloor now leeway ≤ t := by
  have floor {t : Nat} : checkExpiry odd (signedFloor? now leeway) (.at t) = .ok () ↔
      leeway ≤ now ∧ plainFloor now leeway ≤ t := by
    by_cases h : leeway ≤ now
    · simp [checkExpiry, signedFloor?_of_le h, h]
    · simp [checkExpiry, signedFloor?_of_lt (UInt64.not_le.1 h), h]
  cases v with
  | none => simp [Stamp.signed, checkExpiry]
  | some v =>
    cases v with
    | number n =>
      cases hn : Stamp.nearestSecond? n with
      | none => simp [Stamp.signed, checkExpiry, hn]
      | some t => simpa [Stamp.signed, hn] using floor
    | _ => simp [Stamp.signed, checkExpiry]

/-! ## The signed reading -/

theorem signed_of_foreignKey {token : String} {key : KeyMaterial} (h : ForeignKey token key) (now leeway : UInt64) :
    signed token key now leeway = .error .keyFamily := by
  obtain ⟨⟨p, hd, ho, ha⟩, hk⟩ := h
  obtain ⟨hash, hh⟩ := Option.isSome_iff_exists.1 (accepted?_isSome.2 ha)
  unfold signed
  rw [ho.parts]
  simp only [ho.header, hh, signatureHolds?_eq_none.2 hk]
  rfl

theorem signed_of_vouched {token : String} {key : KeyMaterial} {c : Claims} (h : Vouched token key c)
    (now leeway : UInt64) : signed token key now leeway =
      (checkExpiry .expiryFormat (signedFloor? now leeway) (Stamp.signed (c.get? Claims.expiration))).map fun _ => c := by
  obtain ⟨p, hd, hash, ho, hh, hs, hc⟩ := h
  unfold signed
  rw [ho.parts]
  simp only [ho.header, hh, hs, hc]
  cases checkExpiry .expiryFormat (signedFloor? now leeway) (Stamp.signed (c.get? Claims.expiration)) <;> rfl

/-- **The three situations of a token under a key.** -/
theorem signed_cases (token : String) (key : KeyMaterial) (now leeway : UInt64) :
    ForeignKey token key ∨ (∃ c, Vouched token key c) ∨
      ∃ f, signed token key now leeway = .error f ∧ (f = .malformed ∨ f = .algorithm ∨ f = .signature) := by
  unfold signed
  cases hp : Compact.ofString? token with
  | none => exact .inr (.inr ⟨.malformed, rfl, .inl rfl⟩)
  | some p =>
    dsimp only
    cases hh : Header.ofSegment? p.header with
    | none => exact .inr (.inr ⟨.malformed, rfl, .inl rfl⟩)
    | some h =>
      dsimp only
      cases ha : h.algorithm.accepted? with
      | none => exact .inr (.inr ⟨.algorithm, rfl, .inr (.inl rfl)⟩)
      | some hash =>
        dsimp only
        cases hs : signatureHolds? p hash key with
        | none =>
          have hr : h.algorithm = .rs256 ∨ h.algorithm = .rs512 := accepted?_isSome.1 (by rw [ha]; rfl)
          exact .inl ⟨⟨p, h, ⟨hp, hh⟩, hr⟩, signatureHolds?_eq_none.1 hs⟩
        | some b =>
          cases b with
          | false => exact .inr (.inr ⟨.signature, rfl, .inr (.inr rfl)⟩)
          | true =>
            dsimp only
            cases hc : signedPayload? p.payload with
            | none => exact .inr (.inr ⟨.malformed, rfl, .inl rfl⟩)
            | some c => exact .inr (.inl ⟨c, p, h, hash, ⟨hp, hh⟩, ha, hs, hc⟩)

theorem signed_eq_ok {token : String} {key : KeyMaterial} {now leeway : UInt64} {c : Claims} :
    signed token key now leeway = .ok c ↔ Vouched token key c ∧
      checkExpiry .expiryFormat (signedFloor? now leeway) (Stamp.signed (c.get? Claims.expiration)) = .ok () := by
  constructor
  · intro h
    rcases signed_cases token key now leeway with hf | ⟨c', hv⟩ | ⟨f, hf, -⟩
    · rw [signed_of_foreignKey hf] at h
      cases h
    · rw [signed_of_vouched hv] at h
      obtain ⟨⟨⟩, hx, rfl⟩ := Answers.map_ok.1 h
      exact ⟨hv, hx⟩
    · rw [hf] at h
      cases h
  · rintro ⟨hv, hx⟩
    rw [signed_of_vouched hv, hx]
    rfl

/-- What is left to go wrong with a token that is vouched for. -/
theorem Vouched.error {token : String} {key : KeyMaterial} {c : Claims} {now leeway : UInt64} {f : Fault}
    (hv : Vouched token key c) (h : signed token key now leeway = .error f) :
    f = .expired ∨ f = .expiryFormat ∧ OddExpiry token key ∨ f = .overflow ∧ now < leeway ∧ Dated token key := by
  rw [signed_of_vouched hv] at h
  cases hx : checkExpiry .expiryFormat (signedFloor? now leeway) (Stamp.signed (c.get? Claims.expiration)) with
  | ok u => rw [hx] at h; cases h
  | error e =>
    rw [hx] at h
    cases h
    rcases checkExpiry_error hx with he | ⟨he, hu⟩ | ⟨he, hf, t, ht⟩
    · exact .inl he
    · obtain ⟨v, hg, hn⟩ := signed_stamp_unreadable.1 hu
      exact .inr (.inl ⟨he, c, v, hv, hg, hn⟩)
    · obtain ⟨n, hg, hn⟩ := signed_stamp_at.1 ht
      refine .inr (.inr ⟨he, UInt64.not_le.1 fun hle => ?_, c, n, t, hv, hg, hn⟩)
      cases hf.symm.trans (signedFloor?_of_le hle)

/-- A fault that no other check than that of the expiry reports. -/
theorem vouched_of_late_fault {token : String} {key : KeyMaterial} {now leeway : UInt64} {f : Fault}
    (h : signed token key now leeway = .error f) (hf : f = .expiryFormat ∨ f = .overflow) :
    ∃ c, Vouched token key c := by
  rcases signed_cases token key now leeway with hk | hv | ⟨f', hf', he⟩
  · cases h.symm.trans (signed_of_foreignKey hk now leeway)
    rcases hf with hf | hf <;> cases hf
  · exact hv
  · cases h.symm.trans hf'
    rcases hf with rfl | rfl <;> rcases he with he | he | he <;> cases he

theorem signed_eq_expiryFormat {token : String} {key : KeyMaterial} {now leeway : UInt64} :
    signed token key now leeway = .error .expiryFormat ↔ OddExpiry token key := by
  constructor
  · intro h
    obtain ⟨c, hv⟩ := vouched_of_late_fault h (.inl rfl)
    rcases hv.error h with he | ⟨-, ho⟩ | ⟨he, -⟩
    · cases he
    · exact ho
    · cases he
  · rintro ⟨c, v, hv, hg, hn⟩
    rw [signed_of_vouched hv, signed_stamp_unreadable.2 ⟨v, hg, hn⟩]
    rfl

/-- **The expiry is an instant and the leeway exceeds the time**: just then there is no verdict. -/
theorem signed_eq_overflow {token : String} {key : KeyMaterial} {now leeway : UInt64} :
    signed token key now leeway = .error .overflow ↔ now < leeway ∧ Dated token key := by
  constructor
  · intro h
    obtain ⟨c, hv⟩ := vouched_of_late_fault h (.inr rfl)
    rcases hv.error h with he | ⟨he, -⟩ | ⟨-, ho⟩
    · cases he
    · cases he
    · exact ho
  · rintro ⟨hl, c, n, t, hv, hg, hn⟩
    rw [signed_of_vouched hv, signed_stamp_at.2 ⟨n, hg, hn⟩, signedFloor?_of_lt hl]
    rfl

/-! ## The reading without a signature -/

theorem plain_error {token : String} {now leeway : UInt64} {f : Fault} (h : plain token now leeway = .error f) :
    f = .malformed ∨ f = .expired := by
  unfold plain at h
  split at h
  · split at h
    · split at h
      · rcases Answers.bind_error.1 h with hx | ⟨-, -, hp⟩
        · rcases checkExpiry_error hx with he | ⟨he, -⟩ | ⟨-, hn, -⟩
          · exact .inr he
          · exact .inl he
          · cases hn
        · cases hp
      · cases h; exact .inl rfl
    · cases h; exact .inl rfl
  · cases h; exact .inl rfl

end DatastoreAccess.Token

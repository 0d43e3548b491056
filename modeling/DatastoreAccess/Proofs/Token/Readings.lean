import Mathlib
import DatastoreAccess.Proofs.Token.Verdict
import DatastoreAccess.Proofs.Token.Views
/-!
# Proofs.Token.Readings — where the two readings of a token differ

A token whose signature holds can be read with it and without it, and the two readings look at the payload in their own
ways.  They differ in the members that the signed reading takes apart (`SlotsInOrder`), in an expiry that is null, in the
second that a number is taken for, and in whether that second can be judged at all by a leeway beyond the time
(`OddSecond`).  These are all the differences there are (`agree_iff`).  Where the expiry is a whole number only the signed reading adds conditions (`plain_of_signed`).
-/
namespace DatastoreAccess

/-! ## Numbers -/

namespace Number.Binary64

theorem truncated_le_rounded (b : Binary64) : b.truncated ≤ b.rounded := by
  unfold truncated rounded
  split
  · exact Nat.le_refl _
  · exact Nat.div_le_div_right (Nat.le_add_right _ _)

theorem rounded_le_succ_truncated (b : Binary64) : b.rounded ≤ b.truncated + 1 := by
  unfold truncated rounded
  split
  · exact Nat.le_succ _
  · next k _ =>
    have hpos : 0 < Nat.pow 2 (k + 1) := Nat.two_pow_pos _
    have hlt : Nat.pow 2 k ≤ Nat.pow 2 (k + 1) := Nat.pow_le_pow_right (by decide) (Nat.le_succ k)
    calc (b.mantissa + Nat.pow 2 k) / Nat.pow 2 (k + 1)
        ≤ (b.mantissa + Nat.pow 2 (k + 1)) / Nat.pow 2 (k + 1) := Nat.div_le_div_right (Nat.add_le_add_left hlt _)
      _ = b.mantissa / Nat.pow 2 (k + 1) + 1 := Nat.add_div_right _ hpos

end Number.Binary64

namespace Json.Number

/-- A number without a fraction. -/
def IsWhole : Json.Number → Prop
  | .integer _ => True
  | .float f => ∀ b, Number.Binary64.ofFloat? f = some b → b.IsWhole

/-- A double that is not negative and beyond 64 bits. -/
def Beyond : Json.Number → Prop
  | .integer _ => False
  | .float f => ∃ b, Number.Binary64.ofFloat? f = some b ∧ ¬ (b.negative = true ∧ ¬ b.isZero = true) ∧
    Number.wordLimit ≤ b.truncated

end Json.Number

namespace Token

open Json (Tree)

/-! ## Seconds -/

theorem seconds_of_beyond {n : Json.Number} (h : n.Beyond) :
    Stamp.nearestSecond? n = none ∧ Claims.secondsOf n = some Claims.lastInstant := by
  cases n with
  | integer n => cases h
  | float f =>
    obtain ⟨b, hb, hs, hw⟩ := h
    have hlast : Claims.lastInstant ≤ b.truncated := Nat.le_trans (Nat.sub_le _ _) hw
    simp only [Stamp.nearestSecond?, Claims.secondsOf, hb]
    rw [if_pos (.inr hw), if_neg hs, Nat.min_eq_right hlast]
    exact ⟨rfl, rfl⟩

/-- **The two seconds of a number.**  It has none, or only the truncated one, or the nearest one is the truncated one or
the next. -/
theorem seconds_cases (n : Json.Number) :
    (Stamp.nearestSecond? n = none ∧ Claims.secondsOf n = none) ∨ n.Beyond ∨
      ∃ s t, Claims.secondsOf n = some s ∧ Stamp.nearestSecond? n = some t ∧ s ≤ t ∧ t ≤ s + 1 ∧ (n.IsWhole → s = t) := by
  cases n with
  | integer n =>
    by_cases hn : 0 ≤ n
    · exact .inr (.inr ⟨n.toNat, n.toNat, if_pos hn, if_pos hn, Nat.le_refl _, Nat.le_succ _, fun _ => rfl⟩)
    · exact .inl ⟨if_neg hn, if_neg hn⟩
  | float f =>
    cases hb : Number.Binary64.ofFloat? f with
    | none => simp [Stamp.nearestSecond?, Claims.secondsOf, hb]
    | some b =>
      by_cases hs : b.negative = true ∧ ¬ b.isZero = true
      · simp [Stamp.nearestSecond?, Claims.secondsOf, hb, hs]
      · by_cases hw : Number.wordLimit ≤ b.truncated
        · exact .inr (.inl ⟨b, hb, hs, hw⟩)
        · have hlast : b.truncated ≤ Claims.lastInstant := Nat.le_pred_of_lt (Nat.not_le.1 hw)
          have hle := b.truncated_le_rounded
          have hsucc := b.rounded_le_succ_truncated
          refine .inr (.inr ⟨b.truncated, min b.rounded Claims.lastInstant, ?_, ?_, Nat.le_min.2 ⟨hle, hlast⟩,
            Nat.le_trans (Nat.min_le_left _ _) hsucc, fun hwhole => ?_⟩)
          · simp only [Claims.secondsOf, hb]
            rw [if_neg hs, Nat.min_eq_left hlast]
          · simp only [Stamp.nearestSecond?, hb]
            rw [if_neg (not_or.2 ⟨hs, hw⟩)]
          · rw [Number.Binary64.rounded_eq_truncated (hwhole b hb), Nat.min_eq_left hlast]

/-! ## Floors -/

theorem plainFloor_le_lastInstant (now leeway : UInt64) : plainFloor now leeway ≤ Claims.lastInstant :=
  Nat.le_trans (Nat.sub_le _ _) (Nat.le_pred_of_lt now.toNat_lt)

/-- Beyond now, the plain floor is zero. -/
theorem plainFloor_of_lt {now leeway : UInt64} (h : now < leeway) : plainFloor now leeway = 0 :=
  Nat.sub_eq_zero_of_le (Nat.le_of_lt (UInt64.lt_iff_toNat_lt.1 h))

/-! ## Expiry -/

/-- Without a signature, null is no expiry, and of a number the truncated second counts. -/
def PlainCurrent (c : Claims) (now leeway : UInt64) : Prop := ∀ v, c.get? "exp" = some v → v ≠ .null →
  ∃ n s, v = .number n ∧ Claims.secondsOf n = some s ∧ plainFloor now leeway ≤ s

/-- With a signature, every expiry counts, of a number the nearest second, and no leeway beyond the time will do. -/
def SignedCurrent (c : Claims) (now leeway : UInt64) : Prop := ∀ v, c.get? "exp" = some v →
  ∃ n t, v = .number n ∧ Stamp.nearestSecond? n = some t ∧ leeway ≤ now ∧ plainFloor now leeway ≤ t

theorem checkExpiry_plain_eq_ok {odd : Fault} {now leeway : UInt64} {c : Claims} :
    checkExpiry odd (some (plainFloor now leeway)) (Stamp.plain c) = .ok () ↔ PlainCurrent c now leeway := by
  unfold PlainCurrent Stamp.plain Claims.contains Claims.expiresAt
  cases hv : c.get? Claims.expiration with
  | none =>
    have hv : c.get? "exp" = none := hv
    simp [checkExpiry, hv]
  | some v =>
    have hv : c.get? "exp" = some v := hv
    cases v with
    | null => simp [checkExpiry, hv, Json.isNull]
    | number n => cases hs : Claims.secondsOf n <;> simp [checkExpiry, hv, hs, Json.isNull]
    | _ => simp [checkExpiry, hv, Json.isNull]

/-- A number is not the same second for the two readings, on either side of what still counts, or only one of them can
say what still counts. -/
inductive OddSecond (n : Json.Number) (now leeway : UInt64) : Prop where
  /-- Beyond 64 bits: only the plain reading takes it. -/
  | beyond (h : n.Beyond)
  /-- Half a second or more short of the first second that counts: only the signed reading takes it. -/
  | rounded {s : Nat} (truncated : Claims.secondsOf n = some s) (nearest : Stamp.nearestSecond? n = some (s + 1))
      (first : s + 1 + leeway.toNat = now.toNat)
  /-- The leeway exceeds the time: every second counts for the plain reading, and the signed one breaks off. -/
  | overflow {t : Nat} (nearest : Stamp.nearestSecond? n = some t) (excess : now < leeway)

theorem number_current_iff {n : Json.Number} {now leeway : UInt64} :
    ((∃ t, Stamp.nearestSecond? n = some t ∧ leeway ≤ now ∧ plainFloor now leeway ≤ t) ↔
      ∃ s, Claims.secondsOf n = some s ∧ plainFloor now leeway ≤ s) ↔ ¬ OddSecond n now leeway := by
  rcases seconds_cases n with ⟨hn, hs⟩ | hb | ⟨s, t, hs, ht, hle, hsucc, -⟩
  · refine iff_of_true (by simp [hn, hs]) ?_
    rintro (h | ⟨-, h, -⟩ | ⟨h, -⟩)
    · cases hs.symm.trans (seconds_of_beyond h).2
    · cases hn.symm.trans h
    · cases hn.symm.trans h
  · obtain ⟨hn, hs⟩ := seconds_of_beyond hb
    refine iff_of_false ?_ (not_not_intro (.beyond hb))
    simp [hn, hs, plainFloor_le_lastInstant]
  · simp only [hs, ht, Option.some.injEq, exists_eq_left']
    by_cases hl : leeway ≤ now
    · -- one floor, and only the second that rounding adds can reach it alone
      have hfloor : plainFloor now leeway = now.toNat - leeway.toNat := rfl
      have hln : leeway.toNat ≤ now.toNat := UInt64.le_iff_toNat_le.1 hl
      rw [and_iff_right hl]
      constructor
      · rintro h (hb | ⟨hs', ht', hfirst⟩ | ⟨-, hex⟩)
        · cases ht.symm.trans (seconds_of_beyond hb).1
        · cases hs.symm.trans hs'
          cases ht.symm.trans ht'
          omega
        · exact absurd hl (UInt64.not_le.2 hex)
      · intro h
        refine ⟨fun hf => Nat.not_lt.1 fun hlt => ?_, fun hf => Nat.le_trans hf hle⟩
        have hts : t = s + 1 := by omega
        exact h (.rounded hs (hts ▸ ht) (by omega))
    · -- the plain reading takes every second, the signed one none
      have hex : now < leeway := UInt64.not_le.1 hl
      refine iff_of_false (fun h => hl (h.2 ?_).1) (not_not_intro (.overflow ht hex))
      rw [plainFloor_of_lt hex]
      exact Nat.zero_le s

/-! ## Payloads -/

/-- A name stands at most once in an object, and nothing bad stands there. -/
def Slot (ms : List (Option String × Tree)) (name : String) (bad : Tree → Bool) : Prop :=
  (ms.filter fun m => m.1 = some name).length ≤ 1 ∧ ∀ t, (some name, t) ∈ ms → bad t = false

/-- The members that the signed reading takes apart: none is repeated, the two instants hold no list or object with
something in it, and the subject is no list or object. -/
structure Slots (ms : List (Option String × Tree)) : Prop where
  expiration : Slot ms "exp" holdsItems
  notBefore : Slot ms "nbf" holdsItems
  subject : Slot ms "sub" isContainer
  issuer : Slot ms "iss" fun _ => false
  audience : Slot ms "aud" fun _ => false

def SlotsInOrder (payload : List Char) : Prop := ∃ ms, payloadTree? payload = some (.object ms) ∧ Slots ms

theorem slot_iff {ms : List (Option String × Tree)} {name : String} {bad : Tree → Bool} :
    (match Json.once? ms name with
      | none => false
      | some none => true
      | some (some t) => !bad t) = true ↔ Slot ms name bad := by
  have hm (t : Tree) : (some name, t) ∈ ms ↔ (some name, t) ∈ ms.filter fun m => m.1 = some name := by simp
  unfold Slot Json.once?
  simp only [hm]
  generalize hl : (ms.filter fun m => m.1 = some name) = l
  match l with
  | [] => simp
  | [(other, t)] =>
    have ho : other = some name := by
      have : (other, t) ∈ ms.filter fun m => m.1 = some name := by rw [hl]; exact List.mem_singleton_self _
      simpa using (List.mem_filter.1 this).2
    simp [ho]
  | _ :: _ :: _ => simp

theorem slotsReadable_iff {ms : List (Option String × Tree)} : slotsReadable ms = true ↔ Slots ms := by
  simp only [slotsReadable, Bool.and_eq_true]
  constructor
  · rintro ⟨⟨⟨⟨he, hn⟩, hs⟩, hi⟩, ha⟩
    exact ⟨slot_iff.1 he, slot_iff.1 hn, slot_iff.1 hs, slot_iff.1 hi, slot_iff.1 ha⟩
  · rintro ⟨he, hn, hs, hi, ha⟩
    exact ⟨⟨⟨⟨slot_iff.2 he, slot_iff.2 hn⟩, slot_iff.2 hs⟩, slot_iff.2 hi⟩, slot_iff.2 ha⟩

theorem signedPayload?_eq_some {payload : List Char} {c : Claims} :
    signedPayload? payload = some c ↔ payload? payload = some c ∧ SlotsInOrder payload := by
  unfold signedPayload? payload? SlotsInOrder
  cases payloadTree? payload with
  | none => simp
  | some t =>
    cases t with
    | object ms =>
      cases hc : Claims.ofTree? (.object ms) with
      | none => simp [hc]
      | some c' => simp [hc, slotsReadable_iff, and_comm]
    | _ => simp [Claims.ofTree?, Tree.members?]

/-! ## Two readings of one token -/

/-- The signature of a token holds under a key, whatever its payload is. -/
def SealedBy (token : String) (key : KeyMaterial) (parts : Compact) : Prop := ∃ header hash,
  Opened token parts header ∧ header.algorithm.accepted? = some hash ∧ signatureHolds? parts hash key = some true

theorem signed_eq_ok_of_sealed {token : String} {key : KeyMaterial} {parts : Compact} {now leeway : UInt64} {c : Claims}
    (h : SealedBy token key parts) : signed token key now leeway = .ok c ↔
      payload? parts.payload = some c ∧ SlotsInOrder parts.payload ∧ SignedCurrent c now leeway := by
  obtain ⟨header, hash, ho, ha, hs⟩ := h
  rw [signed_eq_ok, checkExpiry_signed_eq_ok, ← and_assoc, ← signedPayload?_eq_some]
  refine and_congr_left fun _ => ⟨?_, ?_⟩
  · rintro ⟨parts', _, _, ho', _, _, hc⟩
    obtain rfl : parts' = parts := Option.some.inj (ho'.parts.symm.trans ho.parts)
    exact hc
  · intro hc
    exact ⟨parts, header, hash, ho, ha, hs, hc⟩

theorem plain_eq_ok {token : String} {parts : Compact} {header : Header} {now leeway : UInt64} {c : Claims}
    (h : Opened token parts header) : plain token now leeway = .ok c ↔
      payload? parts.payload = some c ∧ PlainCurrent c now leeway := by
  unfold plain
  rw [h.parts]
  simp only [h.header]
  cases payload? parts.payload with
  | none => simp [throw, throwThe, MonadExceptOf.throw]
  | some c' =>
    dsimp only
    rw [Answers.bind_ok]
    constructor
    · rintro ⟨⟨⟩, hc, h⟩
      cases h
      exact ⟨rfl, checkExpiry_plain_eq_ok.1 hc⟩
    · rintro ⟨h, hc⟩
      cases h
      exact ⟨(), checkExpiry_plain_eq_ok.2 hc, rfl⟩

theorem Opened.keyId?_eq {token : String} {parts : Compact} {header : Header} (h : Opened token parts header) :
    keyId? token = header.keyId := by
  simp [keyId?, header?, h.parts, h.header]

theorem Opened.ne_empty {token : String} {parts : Compact} {header : Header} (h : Opened token parts header) :
    token ≠ "" := by
  have he : Compact.ofString? "" = none := by decide
  rintro rfl
  exact Option.some_ne_none _ (h.parts.symm.trans he)

/-- What the two readings see differently in a payload with the claims `c`. -/
inductive Disparity (payload : List Char) (c : Claims) (now leeway : UInt64) : Prop where
  /-- Members that only the signed reading takes apart are not in order. -/
  | slots (odd : ¬ SlotsInOrder payload) (current : PlainCurrent c now leeway)
  /-- An expiry that only the plain reading takes for absent. -/
  | null (slots : SlotsInOrder payload) (expiry : c.get? "exp" = some .null)
  | second {n : Json.Number} (slots : SlotsInOrder payload) (expiry : c.get? "exp" = some (.number n))
    (odd : OddSecond n now leeway)

theorem current_iff {payload : List Char} {c : Claims} {now leeway : UInt64} :
    ((SlotsInOrder payload ∧ SignedCurrent c now leeway) ↔ PlainCurrent c now leeway) ↔
      ¬ Disparity payload c now leeway := by
  by_cases hs : SlotsInOrder payload
  · have hd : Disparity payload c now leeway ↔
        c.get? "exp" = some .null ∨ ∃ n, c.get? "exp" = some (.number n) ∧ OddSecond n now leeway := by
      constructor
      · rintro (⟨ho, -⟩ | ⟨-, he⟩ | ⟨-, he, ho⟩)
        · exact absurd hs ho
        · exact .inl he
        · exact .inr ⟨_, he, ho⟩
      · rintro (he | ⟨n, he, ho⟩)
        · exact .null hs he
        · exact .second hs he ho
    rw [hd, and_iff_right hs]
    unfold SignedCurrent PlainCurrent
    cases hv : c.get? "exp" with
    | none => simp
    | some v =>
      cases v with
      | number n => simpa using number_current_iff (n := n)
      | _ => simp
  · constructor
    · rintro h (⟨-, hc⟩ | ⟨hs', -⟩ | ⟨hs', -, -⟩)
      · exact hs (h.2 hc).1
      · exact hs hs'
      · exact hs hs'
    · intro h
      exact iff_of_false (fun hc => hs hc.1) fun hc => h (.slots hs hc)

theorem agree_iff {token : String} {key : KeyMaterial} {parts : Compact} {now leeway : UInt64}
    (h : SealedBy token key parts) :
    (∀ c, signed token key now leeway = .ok c ↔ plain token now leeway = .ok c) ↔
      ∀ c, payload? parts.payload = some c → ¬ Disparity parts.payload c now leeway := by
  obtain ⟨header, -, ho, -, -⟩ := id h
  simp only [signed_eq_ok_of_sealed h, plain_eq_ok ho, and_congr_right_iff, current_iff]

/-- If a token states its expiry as a number, the number has no fraction. -/
def StatesWholeExpiry (token : String) : Prop := ∀ parts c n, Compact.ofString? token = some parts →
  payload? parts.payload = some c → c.get? "exp" = some (.number n) → n.IsWhole

/-- **Where the expiry is a whole number, the signed reading is the stricter one.** -/
theorem plain_of_signed {token : String} {key : KeyMaterial} {now leeway : UInt64} {c : Claims}
    (h : signed token key now leeway = .ok c) (hw : StatesWholeExpiry token) : plain token now leeway = .ok c := by
  obtain ⟨⟨parts, header, hash, ho, ha, hs, -⟩, -⟩ := signed_eq_ok.1 h
  obtain ⟨hp, -, hc⟩ := (signed_eq_ok_of_sealed ⟨header, hash, ho, ha, hs⟩).1 h
  refine (plain_eq_ok ho).2 ⟨hp, fun v hv _ => ?_⟩
  obtain ⟨n, t, rfl, ht, -, hle⟩ := hc v hv
  rcases seconds_cases n with ⟨hn, -⟩ | hb | ⟨s, t', hs, ht', -, -, hst⟩
  · cases ht.symm.trans hn
  · cases ht.symm.trans (seconds_of_beyond hb).1
  · cases ht.symm.trans ht'
    obtain rfl : s = t := hst (hw parts c n ho.parts hp hv)
    exact ⟨n, s, rfl, hs, hle⟩

/-! ## A signed token -/

/-- Bytes in groups of 32, each group written as one number. -/
def ofGroups (groups : List Nat) : List UInt8 :=
  groups.flatMap fun g => (List.range 32).map fun i => UInt8.ofNat (g >>> (8 * (31 - i)))

namespace Sample

/-- A key of 2048 bits. -/
def key : Rsa.PublicKey := ⟨ofGroups
  [0xfd62074b85403c313f781e79e9dac51f4c278a8d5adfa1c64fbd3fef9b22afbf,
   0x6908fa3c7f9d71f6dab6948e7d4cc6048986d6fd666503666a303c82cae06b9c,
   0xcf50ca70bd52568f3adf9cd6233025f261fe9847b8ea9eb720d3b5f8d369fff5,
   0x0bafadc36c9b40c89dbef9a9a47d93b1c0843428ebf9f89bf3b421165d655985,
   0x62f833cd9f489e4370067f2625ef506a908337c3243418e71633d86b9680bc7c,
   0x154cec7eba2ad2f87510608c0793d968859a10abf94887b18fe8f77b641e9d06,
   0x57132e73ff55fb1d85d4c535f207fe2dad57668e00a83837a2d94e27cf35f97f,
   0x483548df6b659ab0ff13dcedae72164c242bb2c384a0b144fe8d46cf328e7e4f], [1, 0, 1]⟩

/-- A token of the user `u` for the audience `d`, signed with the key under the id `k`; it has no expiry. -/
def parts : Compact := ⟨"eyJhbGciOiJSUzI1NiIsImtpZCI6ImsifQ".toList, "eyJhdWQiOiJkIiwic3ViIjoidSJ9".toList,
  Text.Base64Url.encode (ofGroups
  [0x83328b48d0e162ac290116952c7c8debafeb819fcac05b875973840ec0ed38fd,
   0x3cc279e0f377d097d666f9d659aa71eba345504bc400dcad8e9227f9d50200bf,
   0x9d63be436203cc4345430b8c86e7653bb6e344c2beb28474429c5c8a5b4cbe25,
   0x5abd9216ca905d756d8b26d76d5c2922c7ef52b53268d6d47c3c3086ccc0a855,
   0xfe0b315c48fcd16bc6d751e2f1ce68b4ec8c73534e81f74aa617bfc19e6d3c19,
   0xca569548e849769d393fd3cf1c4193edbf7bfc947129bb098c6ab24d7fd10f74,
   0xa1dc8421b73420c24a8f06c655df54f4ae165cb997ec0ec38044792737c686fe,
   0x50e4fccb8535ad8f7f709059737f9cf1768f9ccab7da15888269b565bffbeeb3])⟩

def token : String := String.ofList parts.toChars

def claims : Claims := ⟨[("aud", .string "d"), ("sub", .string "u")]⟩

theorem opened : Opened token parts ⟨.rs256, some "k"⟩ := by
  refine ⟨?_, by decide +kernel⟩
  rw [Compact.ofString?, token, String.toList_ofList]
  decide +kernel

theorem signatureHolds : signatureHolds? parts .sha256 (.rsa key) = some true := by decide +kernel

set_option maxRecDepth 8192 in
theorem payload : signedPayload? parts.payload = some claims := by cbv

theorem expiry : claims.get? "exp" = none := rfl

theorem vouched : Vouched token (.rsa key) claims :=
  ⟨parts, _, .sha256, opened, rfl, signatureHolds, payload⟩

theorem sealedBy : SealedBy token (.rsa key) parts := ⟨_, .sha256, opened, rfl, signatureHolds⟩

theorem statesWholeExpiry : StatesWholeExpiry token := by
  intro parts' c n hp hc hn
  obtain rfl : parts' = parts := Option.some.inj (hp.symm.trans opened.parts)
  obtain rfl : c = claims := Option.some.inj (hc.symm.trans (signedPayload?_eq_some.1 payload).1)
  cases expiry.symm.trans hn

end Sample

end Token
end DatastoreAccess

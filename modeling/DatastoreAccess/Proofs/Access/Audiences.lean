import Mathlib
import DatastoreAccess.Proofs.Access.Unsigned
/-!
# Proofs.Access.Audiences — only the texts of an audience count

The audience of a token is looked at in three places: it has to name whom the token is for, it may have to be there, and
it covers datastores.  All three ask for the texts in it and for no more than whether they are there, so an audience may
be written as one text or as a list, in any order, with repetitions and with members that are no texts.  Where no
signature is checked, that makes no difference to any answer (`answers_of_readdressed`).
-/
namespace DatastoreAccess

open Answers (Related)

/-- Claims that differ in the audience alone: it is given in both, with the same texts. -/
structure Claims.Readdressed (c c' : Claims) : Prop where
  others : ∀ name, name ≠ "aud" → c.get? name = c'.get? name
  given : c.Gives "aud" ∧ c'.Gives "aud"
  named : ∀ a, c.Names a ↔ c'.Names a

/-- Two tokens with such claims.  Their headers read alike; what stands as signature does not matter. -/
structure Token.Readdressed (t t' : String) (c c' : Claims) : Prop where
  parts : ∃ p p', Compact.ofString? t = some p ∧ Compact.ofString? t' = some p' ∧
    Header.ofSegment? p.header = Header.ofSegment? p'.header ∧
    payload? p.payload = some c ∧ payload? p'.payload = some c'
  claims : c.Readdressed c'

/-- The first of a pair is `a` and the second is `b`. -/
def Exactly {α : Type} (a b : α) (x y : α) : Prop := a = x ∧ b = y

/-- Grants to the same user, each with its own claims. -/
structure Grant.SameUser (c c' : Claims) (g g' : Grant) : Prop where
  user : g.userId = g'.userId
  key : g.key = g'.key
  claims : g.claims = c ∧ g'.claims = c'

/-- The same demand, on another token. -/
def Demand.on (demand : Demand) (t : String) : Demand := { demand with token := some t }

/-! ## Audiences of one payload -/

namespace Claims

/-- Claims with another value for the audience they give. -/
def readdress (c : Claims) (v : Json) : Claims := ⟨c.fields.map fun f => (f.1, if f.1 = "aud" then v else f.2)⟩

theorem get?_readdress {c : Claims} {v : Json} {name : String} :
    (c.readdress v).get? name = (c.get? name).map fun w => if name = "aud" then v else w := by
  unfold get? readdress
  induction c.fields with
  | nil => rfl
  | cons f fields ih =>
    rw [List.map_cons, List.lookup_cons, List.lookup_cons]
    by_cases hf : name = f.1
    · subst hf
      simp
    · simp only [beq_false_of_ne hf, ih]

/-- Any two values that are not null and hold the same texts. -/
theorem readdressed_of_values {c : Claims} (hc : c.Gives "aud") {v v' : Json} (hv : v ≠ .null) (hv' : v' ≠ .null)
    (same : ∀ a, a ∈ audiencesOf v ↔ a ∈ audiencesOf v') : (c.readdress v).Readdressed (c.readdress v') := by
  have stands (v : Json) : (c.readdress v).get? "aud" = some v := by
    obtain ⟨w, hw, -⟩ := hc
    rw [get?_readdress, hw]
    rfl
  constructor
  case others =>
    intro name hn
    simp only [get?_readdress, if_neg hn]
  case given => exact ⟨⟨v, stands v, hv⟩, ⟨v', stands v', hv'⟩⟩
  case named =>
    have names (v : Json) (a : String) : (c.readdress v).Names a ↔ a ∈ audiencesOf v := by
      rw [← mem_audiences, audiences, show (c.readdress v).get? audience = some v from stands v]
      rfl
    intro a
    rw [names, names, same]

end Claims

/-! ## Checks of claims -/

namespace Claims.Readdressed

variable {c c' : Claims}

theorem string? (h : c.Readdressed c') {name : String} (hn : name ≠ "aud") : c.string? name = c'.string? name := by
  unfold Claims.string?
  rw [h.others name hn]

theorem gives_iff (h : c.Readdressed c') (name : String) : c.Gives name ↔ c'.Gives name := by
  by_cases hn : name = "aud"
  · subst hn
    exact iff_of_true h.given.1 h.given.2
  · unfold Gives
    rw [h.others name hn]

theorem stamp (h : c.Readdressed c') : Token.Stamp.plain c = Token.Stamp.plain c' := by
  have he : c.get? expiration = c'.get? expiration := h.others expiration (by decide)
  unfold Token.Stamp.plain contains expiresAt
  rw [he]

theorem acceptsAudience (h : c.Readdressed c') (p : Policy) (a : String) :
    p.acceptsAudience (some a) c = p.acceptsAudience (some a) c' := by
  rw [Bool.eq_iff_iff, Policy.acceptsAudience_iff, Policy.acceptsAudience_iff, h.named a]

theorem satisfiedBy (h : c.Readdressed c') (p : Policy) : p.satisfiedBy c = p.satisfiedBy c' := by
  rw [Bool.eq_iff_iff, Policy.satisfiedBy_iff, Policy.satisfiedBy_iff]
  simp only [h.gives_iff]

/-- A role is refused with the role that is found, which is the same. -/
theorem role (h : c.Readdressed c') (wanted : String) : Checks.role c wanted = Checks.role c' wanted := by
  unfold Checks.role
  rw [h.string? (by decide)]

theorem mem_scopes_iff (h : c.Readdressed c') (a : String) : a ∈ Checks.scopes c ↔ a ∈ Checks.scopes c' := by
  rw [Checks.mem_scopes, Checks.mem_scopes, h.named a]

theorem coversDatastore (h : c.Readdressed c') (rdn : String) :
    Checks.coversDatastore c rdn = Checks.coversDatastore c' rdn := by
  have hempty : (Checks.scopes c).isEmpty = (Checks.scopes c').isEmpty := by
    rw [Bool.eq_iff_iff, List.isEmpty_iff, List.isEmpty_iff, List.eq_nil_iff_forall_not_mem,
      List.eq_nil_iff_forall_not_mem]
    simp only [h.mem_scopes_iff]
  have hany : ((Checks.scopes c).any fun a => Checks.covers a rdn) =
      (Checks.scopes c').any fun a => Checks.covers a rdn := by
    rw [Bool.eq_iff_iff, List.any_eq_true, List.any_eq_true]
    simp only [h.mem_scopes_iff]
  unfold Checks.coversDatastore
  rw [hempty, hany]

theorem subject (h : c.Readdressed c') {name : String} (hn : name ≠ "aud") :
    Checks.subject c name = Checks.subject c' name := by
  unfold Checks.subject
  rw [h.string? hn]

end Claims.Readdressed

/-! ## Reading -/

section Tokens

variable {t t' : String} {c c' : Claims}

theorem Token.Readdressed.ne_empty (h : Token.Readdressed t t' c c') : t ≠ "" ∧ t' ≠ "" := by
  have he : Token.Compact.ofString? "" = none := by decide
  obtain ⟨p, p', hp, hp', -⟩ := h.parts
  constructor
  · rintro rfl
    cases hp.symm.trans he
  · rintro rfl
    cases hp'.symm.trans he

theorem Token.Readdressed.plain (h : Token.Readdressed t t' c c') (now leeway : UInt64) :
    Related (Exactly c c') (Token.plain t now leeway) (Token.plain t' now leeway) := by
  obtain ⟨p, p', hp, hp', hheader, hc, hc'⟩ := h.parts
  unfold Token.plain
  simp only [hp, hp', hheader, hc, hc', h.claims.stamp]
  cases Header.ofSegment? p'.header with
  | none => exact .error _
  | some header => exact (Related.of_eq rfl).bind fun _ _ _ => .ok ⟨rfl, rfl⟩

theorem Decoder.decode_of_readdressed (h : Token.Readdressed t t' c c') (d : Decoder) (now : UInt64) (p : Policy)
    (audience : String) : Related (Exactly c c') (d.decode now p none (some audience) false t)
      (d.decode now p none (some audience) false t') := by
  unfold decode
  refine ((h.plain now d.leeway).mapError Failure.ofFault).bind ?_
  rintro _ _ ⟨rfl, rfl⟩
  rw [h.claims.acceptsAudience, h.claims.satisfiedBy]
  exact .refuse (.refuse (.ok ⟨rfl, rfl⟩))

/-! ## Answers -/

namespace Strategy

theorem grant_of_readdressed (h : Token.Readdressed t t' c c') (d : Decoder) (now : UInt64) {demand : Demand}
    (hs : demand.policy.subject ≠ "aud") :
    Related (Grant.SameUser c c') (grant d now (demand.on t) none false t) (grant d now (demand.on t') none false t') := by
  rw [grant_eq, grant_eq]
  refine (Decoder.decode_of_readdressed h d now demand.policy demand.audience).bind ?_
  rintro _ _ ⟨rfl, rfl⟩
  have hrole : Checks.role c = Checks.role c' := funext h.claims.role
  have hcovers : Checks.coversDatastore c = Checks.coversDatastore c' := funext h.claims.coversDatastore
  rw [hrole, hcovers]
  refine (Related.of_eq rfl).bind fun _ _ _ => (Related.of_eq rfl).bind fun _ _ _ => ?_
  refine ((Related.of_eq (h.claims.subject hs)).mapError Failure.refused).bind ?_
  rintro user _ rfl
  exact .ok ⟨rfl, rfl, rfl, rfl⟩

theorem authorize_of_readdressed (h : Token.Readdressed t t' c c') (d : Decoder) (k : ServiceKey) {o o' : Occasion}
    (ho : o'.now = o.now) {demand : Demand} (hs : demand.policy.subject ≠ "aud") (st st' : Resolver.State) :
    Related (Grant.SameUser c c') ((skipSignature d k).authorize o (demand.on t) st).1
      ((skipSignature d k).authorize o' (demand.on t') st').1 := by
  unfold authorize
  have hgiven : given .noToken (demand.on t).token = .ok t := given_eq_ok.2 ⟨rfl, h.ne_empty.1⟩
  have hgiven' : given .noToken (demand.on t').token = .ok t' := given_eq_ok.2 ⟨rfl, h.ne_empty.2⟩
  rw [hgiven, hgiven', ho]
  exact grant_of_readdressed h d o.now hs

end Strategy

namespace Authorizer

theorem admitted_of_sameUser {a : Authorizer} {g g' : Grant} (h : Grant.SameUser c c' g g') :
    Related (Grant.SameUser c c') (a.admitted g) (a.admitted g') := by
  unfold admitted
  rw [h.user]
  by_cases hm : a.mode ≠ .off
  · rw [if_pos hm, if_pos hm]
    exact (Related.of_eq rfl).bind fun _ _ _ => .ok h
  · rw [if_neg hm, if_neg hm]
    exact .ok h

theorem strategy_of_skipSignature {a : Authorizer} (h : a.mode = .skipSignature) :
    ∃ d k, a.strategy = .skipSignature d k := by
  unfold mode at h
  cases hs : a.strategy with
  | skipSignature d k => exact ⟨d, k, rfl⟩
  | full r d k => rw [hs] at h; cases h
  | off => rw [hs] at h; cases h

/-- **Only the texts of an audience count where no signature is checked.**  Two tokens whose claims differ in nothing but
how the same texts stand in the audience are answered alike at the same instant: with the same error, or with a grant to
the same user. -/
theorem answers_of_readdressed (a : Authorizer) (ha : a.mode = .skipSignature) (t t' : String) (c c' : Claims)
    (h : Token.Readdressed t t' c c') (o o' : Occasion) (ho : o'.now = o.now) (st st' : Resolver.State) :
    (∀ demand : Demand, demand.policy.subject ≠ "aud" → Related (Grant.SameUser c c')
      (a.strategy.authorize o (demand.on t) st).1 (a.strategy.authorize o' (demand.on t') st').1) ∧
    (a.user o (some t) st).1 = (a.user o' (some t') st').1 ∧
    (∀ rdn, Related (Grant.SameUser c c') (a.dataAdministrator o rdn (some t) st).1
      (a.dataAdministrator o' rdn (some t') st').1) ∧
    Related (Grant.SameUser c c') (a.provisioner o (some t) st).1 (a.provisioner o' (some t') st').1 := by
  have asked (demand : Demand) (hs : demand.policy.subject ≠ "aud") : Related (Grant.SameUser c c')
      (a.strategy.authorize o (demand.on t) st).1 (a.strategy.authorize o' (demand.on t') st').1 := by
    obtain ⟨d, k, hk⟩ := strategy_of_skipSignature ha
    rw [hk]
    exact Strategy.authorize_of_readdressed h d k ho hs st st'
  have hs : Policy.user.subject ≠ "aud" ∧ Policy.accreditation.subject ≠ "aud" := by decide
  refine ⟨asked, ?_, fun rdn => asked (a.dataAdministratorDemand rdn none) hs.2, ?_⟩
  · exact (asked (a.userDemand none) hs.1).map_eq fun g g' hg => hg.user
  · exact (asked (a.provisionerDemand none) hs.2).bind fun _ _ => admitted_of_sameUser

/-- Claims of a provisioner. -/
def provisionerClaims : Claims :=
  ⟨[("aud", .string "p"), ("sub", .string "s"), ("accreditation/role", .string "r"), ("user/uuid", .string "u")]⟩

/-- An audience in a list, twice and among a null and an object. -/
def crowded : Json := .array [.null, .string "p", .object [("p", .bool true)], .string "p"]

theorem readdressed_crowded : provisionerClaims.Readdressed (provisionerClaims.readdress crowded) := by
  have same (a : String) : a ∈ Claims.audiencesOf (.string "p") ↔ a ∈ Claims.audiencesOf crowded := by
    simp [crowded, Claims.audiencesOf, Json.string?, eq_comm]
  have hgives : provisionerClaims.Gives "aud" := Claims.gives_of_string rfl
  exact Claims.readdressed_of_values hgives (Claims.isNull_eq_false.1 rfl) (Claims.isNull_eq_false.1 rfl) same

def plainParts : Token.Compact := ⟨"eyJhbGciOiJSUzI1NiJ9".toList,
  "eyJhdWQiOiJwIiwic3ViIjoicyIsImFjY3JlZGl0YXRpb24vcm9sZSI6InIiLCJ1c2VyL3V1aWQiOiJ1In0".toList, []⟩

def crowdedParts : Token.Compact := ⟨"eyJhbGciOiJSUzI1NiJ9".toList,
  "eyJhdWQiOltudWxsLCJwIix7InAiOnRydWV9LCJwIl0sInN1YiI6InMiLCJhY2NyZWRpdGF0aW9uL3JvbGUiOiJyIiwidXNlci91dWlkIjoidSJ9".toList, []⟩

set_option maxRecDepth 4096 in
theorem plain_payload : Token.payload? plainParts.payload = some provisionerClaims := by cbv

set_option maxRecDepth 8192 in
theorem crowded_payload : Token.payload? crowdedParts.payload = some (provisionerClaims.readdress crowded) := by cbv

theorem plain_opened : Token.Opened (String.ofList plainParts.toChars) plainParts ⟨.rs256, none⟩ where
  parts := by
    rw [Token.Compact.ofString?, String.toList_ofList]
    decide +kernel
  header := by decide +kernel

theorem crowded_opened : Token.Opened (String.ofList crowdedParts.toChars) crowdedParts ⟨.rs256, none⟩ where
  parts := by
    rw [Token.Compact.ofString?, String.toList_ofList]
    decide +kernel
  header := plain_opened.header

theorem tokens_readdressed_crowded : Token.Readdressed (String.ofList plainParts.toChars)
    (String.ofList crowdedParts.toChars) provisionerClaims
    (provisionerClaims.readdress crowded) where
  parts := ⟨plainParts, crowdedParts, plain_opened.parts, crowded_opened.parts, rfl, plain_payload, crowded_payload⟩
  claims := readdressed_crowded

/-- A service that checks no signatures and lets the user `u` provision. -/
def unsignedService : Authorizer := ⟨.skipSignature ⟨0⟩ ⟨[]⟩, ⟨"d", "j", "p"⟩, "r", Allowlist.ofList ["u"]⟩

theorem provisioner_of_claims {t : String} {p : Token.Compact} {header : Token.Header} (h : Token.Opened t p header)
    (hc : Token.payload? p.payload = some provisionerClaims) (o : Occasion) (st : Resolver.State) :
    (unsignedService.provisioner o (some t) st).1 = .ok ⟨"u", provisionerClaims, none⟩ := by
  refine provisioner_eq_ok.2 ⟨?_, .inr (Allowlist.contains_ofList.2 (List.mem_singleton_self _))⟩
  refine Strategy.authorize_skipSignature_eq_ok.2 ⟨t, rfl, h.ne_empty, Strategy.grant_eq_ok.2
    ⟨Decoder.decode_eq_ok.2 ⟨Answers.mapError_ok.2 ((Token.plain_eq_ok h).2 ⟨hc, ?_⟩), ?_, ?_⟩, ?_, ?_, ?_, rfl⟩⟩
  · intro v hv
    cases hv
  · exact Policy.acceptsAudience_make.2 (.inl rfl)
  · refine Policy.satisfiedBy_accreditation.2 fun name hn => ?_
    simp only [List.mem_cons, List.not_mem_nil, or_false] at hn
    rcases hn with rfl | rfl | rfl | rfl <;> exact Claims.gives_of_string rfl
  · rintro _ ⟨⟩
    exact Checks.role_eq_ok.2 rfl
  · rintro _ ⟨⟩
  · exact Checks.subject_eq_ok.2 ⟨rfl, by decide⟩

/-- A provisioner with the plain audience is granted the right, and so is the same one with the crowded audience. -/
theorem answers_of_readdressed_crowded : ∃ t t' c c' o g, unsignedService.mode = .skipSignature ∧
    Token.Readdressed t t' c c' ∧ c.get? "aud" ≠ c'.get? "aud" ∧
    (unsignedService.provisioner o (some t) .initial).1 = .ok ⟨"u", c, none⟩ ∧
    (unsignedService.provisioner o (some t') .initial).1 = .ok g ∧ g.userId = "u" := by
  have h := (answers_of_readdressed unsignedService rfl _ _ _ _ tokens_readdressed_crowded
    ⟨fun _ => .unanswered, .still 0, 0⟩ _ rfl .initial .initial).2.2.2
  have hplain := provisioner_of_claims plain_opened plain_payload ⟨fun _ => .unanswered, .still 0, 0⟩ .initial
  obtain ⟨g, hg, same⟩ := h.of_ok hplain
  exact ⟨_, _, _, _, _, g, rfl, tokens_readdressed_crowded, nofun, hplain, hg, same.user.symm⟩

end Authorizer

end Tokens

end DatastoreAccess

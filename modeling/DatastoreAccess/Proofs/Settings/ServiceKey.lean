import DatastoreAccess.Proofs.Request.Fields
import DatastoreAccess.Proofs.Settings.Startup
/-!
# Proofs.Settings.ServiceKey — whether the service key that is set can be used

A request brings its service key in a header field, and white space around it does not count.  A key file is read in the
same way, but a key that stands in the settings is taken as it is.  So a request that brings the key of the settings
passes exactly when white space neither begins nor ends the key (`serviceKey_round_trip`); no request at all has a key
with white space around it (`locked_out`).
-/
namespace DatastoreAccess

theorem ServiceKey.check_eq_ok {k : ServiceKey} {candidate : Option String} :
    k.check candidate = .ok () ↔ ∃ s, candidate = some s ∧ ofString s = k := by
  cases candidate with
  | none => simp [check]
  | some s => by_cases h : ofString s = k <;> simp [check, h]

theorem ServiceKey.check_cases (k : ServiceKey) (candidate : Option String) :
    k.check candidate = .ok () ∨ ∃ cause, k.check candidate = .error (.unauthenticated cause) := by
  cases candidate with
  | none => exact .inr ⟨_, rfl⟩
  | some s => by_cases h : ofString s = k <;> simp [check, h]

theorem Strategy.Armed.serviceKey_eq {c : Configuration} {s : Strategy} (h : s.Armed c) (hm : s.mode ≠ .off)
    (candidate : Option String) : s.serviceKey candidate = (ServiceKey.ofString c.serviceKey).check candidate := by
  cases h with
  | full named parsed asked keyed => rfl
  | skipSignature keyed => rfl
  | off => exact absurd rfl hm

/-! ## From the settings to the decision -/

namespace Settings

/-- The first field for service keys has a text, and all of it can be read. -/
def Brings (hs : Headers) (key : String) : Prop :=
  Text.Readable key.toList ∧
    ∃ f, (Headers.all hs Credentials.serviceKeyField).head? = some f ∧ f.value = Text.encodeString key

/-- The digest tells what a request brings from the key. -/
def Told (hs : Headers) (key : String) : Prop :=
  ∀ s, (Credentials.ofHeaders hs).serviceKey = some s → ServiceKey.ofString s = ServiceKey.ofString key → s = key

theorem Brings.first? {hs : Headers} {key : String} (h : Brings hs key) :
    Headers.first? hs Credentials.serviceKeyField = some key.toList := by
  obtain ⟨hr, f, hf, hv⟩ := h
  rw [Headers.first?, hf]
  exact HeaderField.text?_of_readable hr hv

theorem unpadded_of_file {look : String → Found} {r : Raw} {c : Configuration} (h : check look r = .ok c)
    (hm : c.mode ≠ .off) (hr : r.serviceKey = none) : Text.Unpadded c.serviceKey.toList := by
  obtain ⟨hk, hne⟩ := keyOf_of_check h
  generalize c.serviceKey = key at hk hne
  cases hk with
  | inline given => cases hr.symm.trans given
  | inFile absent named reads trimmed => exact trimmed.unpadded
  | unneeded absent unnamed off => exact absurd rfl (hne hm)

/-- **Which requests have the service key.**  A request passes when the first field for service keys has the configured
key and white space around it, and no other request does; all others are unauthenticated. -/
theorem serviceKey_round_trip {look : String → Found} {env : List (String × String)} {path : Option String}
    {c : Configuration} (hc : load look env path = .ok c) (hm : c.mode ≠ .off) :
    ∃ a, Authorizer.ofConfiguration c = .ok a ∧
      (∀ hs, Told hs c.serviceKey →
        (a.serviceKey (Credentials.ofHeaders hs).serviceKey = .ok () ↔
          ∃ cs, Headers.first? hs Credentials.serviceKeyField = some cs ∧ Text.TrimsTo cs c.serviceKey.toList) ∧
        (a.serviceKey (Credentials.ofHeaders hs).serviceKey = .ok () ∨
          ∃ cause, a.serviceKey (Credentials.ofHeaders hs).serviceKey = .error (.unauthenticated cause)) ∧
        (Brings hs c.serviceKey → (a.serviceKey (Credentials.ofHeaders hs).serviceKey = .ok () ↔
          Text.Unpadded c.serviceKey.toList))) ∧
      ∀ r, raw look env path = .ok r → r.serviceKey = none → Text.Unpadded c.serviceKey.toList := by
  obtain ⟨v, r, hv, hr, hcheck⟩ := load_eq_ok.1 hc
  obtain ⟨a, ha, hmode, harmed⟩ := armed_of_check hcheck
  have hkey := harmed.serviceKey_eq fun ho => hm (hmode.symm.trans ho)
  have hne : c.serviceKey ≠ "" := (keyOf_of_check hcheck).2 hm
  have hpasses (hs : Headers) (ht : Told hs c.serviceKey) :
      a.serviceKey (Credentials.ofHeaders hs).serviceKey = .ok () ↔
        ∃ cs, Headers.first? hs Credentials.serviceKeyField = some cs ∧ Text.TrimsTo cs c.serviceKey.toList := by
    rw [Authorizer.serviceKey, hkey, ServiceKey.check_eq_ok]
    constructor
    · rintro ⟨s, hs, hd⟩
      rw [ht s hs hd] at hs
      exact (Credentials.serviceKey_eq_some.1 hs).2
    · intro h
      exact ⟨c.serviceKey, Credentials.serviceKey_eq_some.2 ⟨hne, h⟩, rfl⟩
  refine ⟨a, ha, fun hs ht => ⟨hpasses hs ht, ?_, fun hb => ?_⟩, fun r' hr' habsent => ?_⟩
  · rw [Authorizer.serviceKey, hkey]
    exact ServiceKey.check_cases _ _
  · rw [hpasses hs ht, hb.first?]
    simp only [Option.some.injEq, exists_eq_left', Text.trimsTo_self_iff]
  · obtain rfl : r' = r := Except.ok.inj (hr'.symm.trans (raw_eq_ok.2 ⟨v, hv, hr⟩))
    exact unpadded_of_file hcheck hm habsent

/-- Variables for a deployment that does not check signatures. -/
def keyVariables (key : String) : List (String × String) :=
  [("DATASTORE_AUTH_MODE", "SKIP_SIGNATURE"), ("DATASTORE_AUTH_AUDIENCES__DATA", "d"),
    ("DATASTORE_AUTH_AUDIENCES__JOBS", "j"), ("DATASTORE_AUTH_AUDIENCES__PROVISIONING", "p"),
    ("DATASTORE_AUTH_API_SERVICE_KEY", key)]

theorem load_of_keyVariables {key : String} (h : key ≠ "") : load (fun _ => .missing) (keyVariables key) none =
    .ok ⟨.skipSignature, none, ⟨"d", "j", "p"⟩, "role/dataadministrator", ⟨[]⟩, key, 3000, 10, 0⟩ := by
  refine load_eq_ok.2 ⟨.table [("mode", .text "SKIP_SIGNATURE"),
    ("audiences", .table [("data", .text "d"), ("jobs", .text "j"), ("provisioning", .text "p")]),
    ("api_service_key", .text key)],
    ⟨"SKIP_SIGNATURE", none, some ⟨"d", "j", "p"⟩, none, none, [], some key, none, none, none, 0⟩, ?_, ?_, ?_⟩
  · cbv
  · cbv
  · refine check_eq_ok.2 ⟨by cbv, by cbv, by cbv, ?_, by cbv, rfl, rfl, rfl, rfl⟩
    rw [checkServiceKey_eq]
    exact filled_eq_ok.2 ⟨rfl, fun _ => h⟩

/-- A request with one field, which is for service keys. -/
def keyHeaders (value : String) : Headers := [⟨Credentials.serviceKeyField, Text.encodeString value⟩]

theorem serviceKey_of_keyHeaders : (Credentials.ofHeaders (keyHeaders " k ")).serviceKey = some "k" := by cbv

/-- The key `k` may be brought with a blank on either side. -/
theorem serviceKey_round_trip_of_blanks : ∃ c a, load (fun _ => .missing) (keyVariables "k") none = .ok c ∧
    Authorizer.ofConfiguration c = .ok a ∧
    a.serviceKey (Credentials.ofHeaders (keyHeaders " k ")).serviceKey = .ok () := by
  have hc := load_of_keyVariables (by decide : "k" ≠ "")
  obtain ⟨a, ha, h, -⟩ := serviceKey_round_trip hc (by decide)
  have ht : Told (keyHeaders " k ") "k" := by
    intro s hs _
    exact (Option.some.inj (serviceKey_of_keyHeaders.symm.trans hs)).symm
  exact ⟨_, a, hc, ha, (h _ ht).1.2 ⟨" k ".toList, by cbv, Text.trim_eq_iff.1 (by cbv)⟩⟩

/-- A key with a blank on either side is loaded, and the request that brings it is turned away. -/
theorem locked_out : ∃ c a, load (fun _ => .missing) (keyVariables " k ") none = .ok c ∧ c.mode = .skipSignature ∧
    c.serviceKey = " k " ∧ Authorizer.ofConfiguration c = .ok a ∧ Brings (keyHeaders " k ") " k " ∧
    a.serviceKey (Credentials.ofHeaders (keyHeaders " k ")).serviceKey =
      .error (.unauthenticated .wrongServiceKey) := by
  have hc := load_of_keyVariables (by decide : " k " ≠ "")
  have hreadable : Text.Readable " k ".toList := by
    intro c hc
    obtain rfl | rfl | rfl : c = ' ' ∨ c = 'k' ∨ c = ' ' := by simpa using hc
    all_goals exact .inl (by decide)
  have hdigest : ServiceKey.ofString "k" ≠ ServiceKey.ofString " k " := by decide +kernel
  refine ⟨_, _, hc, rfl, rfl, rfl, ⟨hreadable, _, rfl, rfl⟩, ?_⟩
  rw [serviceKey_of_keyHeaders]
  change (ServiceKey.ofString " k ").check (some "k") = _
  rw [ServiceKey.check, if_neg hdigest]

end Settings
end DatastoreAccess

import DatastoreAccess.Proofs.Answers
import DatastoreAccess.Settings.Load
/-!
# Proofs.Settings.Loading — what is loaded

Loading takes three steps: the sources are merged into one value (`sources`), the settings are read from it, and they
are checked.  Each step is put as what its result has to be (`load_eq_ok`, `check_eq_ok`), so that a fact on a loaded
configuration is a fact on the value of the sources.
-/
namespace DatastoreAccess.Settings

/-! ## Sources -/

/-- The keys of the file, if there is one, and over them those of the environment. -/
def sources (look : String → Found) (env : List (String × String)) (path : Option String) :
    Except SettingsError Value :=
  (path.elim (.ok []) (fileKeys look)).map fun keys => Value.setAll (Environment.keys env) (Value.setAll keys (.table []))

theorem raw_eq_bind (look : String → Found) (env : List (String × String)) (path : Option String) :
    raw look env path = (do (Raw.ofValue? (← sources look env path)).elim (.error .unparsable) .ok) := by
  unfold raw sources
  cases path with
  | none =>
    dsimp only [Option.elim, Except.map, bind, Except.bind, pure, Except.pure]
    cases Raw.ofValue? (Value.setAll (Environment.keys env) (Value.setAll [] (.table []))) <;> rfl
  | some p =>
    dsimp only [Option.elim]
    cases fileKeys look p with
    | error e => rfl
    | ok keys =>
      dsimp only [Except.map, bind, Except.bind, pure, Except.pure]
      cases Raw.ofValue? (Value.setAll (Environment.keys env) (Value.setAll keys (.table []))) <;> rfl

theorem raw_eq_ok {look : String → Found} {env : List (String × String)} {path : Option String} {r : Raw} :
    raw look env path = .ok r ↔ ∃ v, sources look env path = .ok v ∧ Raw.ofValue? v = some r := by
  rw [raw_eq_bind, Answers.bind_ok]
  refine exists_congr fun v => and_congr_right fun _ => ?_
  cases Raw.ofValue? v with
  | none => simp
  | some r' => simp

theorem load_eq_ok {look : String → Found} {env : List (String × String)} {path : Option String} {c : Configuration} :
    load look env path = .ok c ↔
      ∃ v r, sources look env path = .ok v ∧ Raw.ofValue? v = some r ∧ check look r = .ok c := by
  unfold load
  rw [Answers.bind_ok]
  simp only [raw_eq_ok]
  constructor
  · rintro ⟨r, ⟨v, hv, hr⟩, hc⟩
    exact ⟨v, r, hv, hr, hc⟩
  · rintro ⟨v, r, hv, hr, hc⟩
    exact ⟨r, ⟨v, hv, hr⟩, hc⟩

/-! ## Settings -/

/-- A setting that was read stands there. -/
theorem Raw.given_of_optional? {α : Type} {read : Value → Option α} {v : Option Value} {a : α}
    (h : Raw.optional? read v = some (some a)) : ∃ w, v = some w ∧ read w = some a := by
  unfold Raw.optional? at h
  split at h
  · cases h
  · cases h
  · rename_i w _
    obtain ⟨b, hb, h⟩ := Option.map_eq_some_iff.1 h
    cases h
    exact ⟨w, rfl, hb⟩

/-! ## Checks -/

/-- What a configuration has of the settings it comes from. -/
structure Checked (look : String → Found) (r : Raw) (c : Configuration) : Prop where
  mode : checkMode r.mode = .ok c.mode
  jwksUrl : checkJwksUrl c.mode r.jwksUrl = .ok c.jwksUrl
  audiences : checkAudiences c.mode r.audiences = .ok c.audiences
  serviceKey : checkServiceKey look c.mode r.serviceKey r.serviceKeyFile = .ok c.serviceKey
  provisioners : checkProvisioners look r.provisioners r.accessFile = .ok c.provisioners
  provisionerRole : c.provisionerRole = r.provisionerRole.getD Configuration.dataAdministrator
  keyLifetime : c.keyLifetime = r.keyLifetime.getD Configuration.defaultKeyLifetime
  fetchTimeout : c.fetchTimeout = r.fetchTimeout.getD Configuration.defaultFetchTimeout
  leeway : c.leeway = r.leeway

theorem check_eq_ok {look : String → Found} {r : Raw} {c : Configuration} :
    check look r = .ok c ↔ Checked look r c := by
  unfold check
  constructor
  · intro h
    obtain ⟨mode, hm, h⟩ := Answers.bind_ok.1 h
    obtain ⟨url, hu, h⟩ := Answers.bind_ok.1 h
    obtain ⟨audiences, ha, h⟩ := Answers.bind_ok.1 h
    obtain ⟨key, hk, h⟩ := Answers.bind_ok.1 h
    obtain ⟨users, hp, h⟩ := Answers.bind_ok.1 h
    cases h
    exact ⟨hm, hu, ha, hk, hp, rfl, rfl, rfl, rfl⟩
  · rintro ⟨hm, hu, ha, hk, hp, hr, hl, ht, hw⟩
    refine Answers.bind_ok.2 ⟨_, hm, Answers.bind_ok.2 ⟨_, hu, Answers.bind_ok.2 ⟨_, ha, ?_⟩⟩⟩
    refine Answers.bind_ok.2 ⟨_, hk, Answers.bind_ok.2 ⟨_, hp, ?_⟩⟩
    rw [← hr, ← hl, ← ht, ← hw]
    rfl

theorem isSome_of_checkJwksUrl {url url' : Option String} (h : checkJwksUrl .full url = .ok url') :
    ∃ u, url' = some u := by
  cases url with
  | none => cases h
  | some u =>
    unfold checkJwksUrl at h
    dsimp only at h
    split at h
    · cases h
      exact ⟨u, rfl⟩
    · cases h

end DatastoreAccess.Settings

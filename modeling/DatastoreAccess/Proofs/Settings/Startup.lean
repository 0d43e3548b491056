import DatastoreAccess.Proofs.Settings.Provisioners
/-!
# Proofs.Settings.Startup — with which settings the service starts

Six conditions are asked of the settings (`Condition`, `Meets`), and the first one that is not met shows as the error
(`Shows`, `FirstFault`).  Loading follows them (`Follows`), with one exception: an access file may also be a list whose
one item is the list of users, a form that is written down nowhere (`Loophole`, `startup`).  Whatever is loaded makes an
authorizer of the same mode, and one that checks anything has a service key, and an endpoint for keys if it checks
signatures (`Armed`).
-/
namespace DatastoreAccess

namespace Settings

/-! ## What is asked of settings -/

/-- A text names a mode, white space around it apart. -/
def Names (text : String) (m : Mode) : Prop := Text.TrimsTo text.toList m.name.toList

/-- A path leads to a file with a text. -/
def Reads (look : String → Found) (path : String) (cs : List Char) : Prop :=
  ∃ bytes, look path = .file bytes ∧ Text.decode? bytes = some cs

/-- The service key that settings give: the key itself goes before a file with it, which is then not read. -/
inductive KeyOf (look : String → Found) (r : Raw) : String → Prop where
  | inline {key : String} (given : r.serviceKey = some key) : KeyOf look r key
  | inFile {path key : String} {cs : List Char} (absent : r.serviceKey = none) (named : r.serviceKeyFile = some path)
      (reads : Reads look path cs) (trimmed : Text.TrimsTo cs key.toList) : KeyOf look r key
  | unneeded (absent : r.serviceKey = none) (unnamed : r.serviceKeyFile = none) (off : Names r.mode .off) :
      KeyOf look r ""

/-- A list of texts. -/
def Texts (t : Json.Tree) : Prop := ∃ ts, t = .list ts ∧ ∀ x ∈ ts, ∃ s, x = .text (some s)

/-- An object in which `allowed_users` stands once, with a list of texts; other names are passed over. -/
def Documented (t : Json.Tree) : Prop := ∃ ms x, t = .object ms ∧ (∀ m ∈ ms, m.1.isSome = true) ∧
  (ms.filter fun m => m.1 = some "allowed_users") = [(some "allowed_users", x)] ∧ Texts x

/-- A list with one item, which is a list of texts. -/
def Bare (t : Json.Tree) : Prop := ∃ x, t = .list [x] ∧ Texts x

inductive Condition where
  | mode
  | jwksUrl
  | audiences
  | serviceKey
  | filledKey
  | accessFile
  deriving DecidableEq, Repr

/-- The order in which the conditions are looked at. -/
def Condition.order : List Condition := [.mode, .jwksUrl, .audiences, .serviceKey, .filledKey, .accessFile]

/-- Settings meet a condition; `form` is what an access file has to be. -/
def Meets (form : Json.Tree → Prop) (look : String → Found) (r : Raw) : Condition → Prop
  | .mode => ∃ m, Names r.mode m
  | .jwksUrl =>
    (∀ url, r.jwksUrl = some url → Url.check url = .ok ()) ∧ (Names r.mode .full → r.jwksUrl ≠ none)
  | .audiences => ¬ Names r.mode .off → r.audiences ≠ none
  | .serviceKey => ∃ key, KeyOf look r key
  | .filledKey => ¬ Names r.mode .off → ∀ key, KeyOf look r key → key ≠ ""
  | .accessFile => ∀ path, r.accessFile = some path →
    ∃ cs t, Reads look path cs ∧ Json.Tree.ofBytes? (Text.encode cs) = some t ∧ form t

/-- The error that says that a condition is not met. -/
def Shows (look : String → Found) (r : Raw) : Condition → SettingsError → Prop
  | .mode, e => ∃ name, Text.TrimsTo r.mode.toList name.toList ∧ e = .mode name
  | .jwksUrl, e => (∃ url fault, r.jwksUrl = some url ∧ Url.check url = .error fault ∧ e = .jwksUrl fault) ∨
    r.jwksUrl = none ∧ e = .missing "jwks_url"
  | .audiences, e => e = .missing "audiences"
  | .serviceKey, e => (∃ path, r.serviceKeyFile = some path ∧ e = .unreadable path) ∨
    r.serviceKeyFile = none ∧ e = .missing "api_service_key"
  | .filledKey, e => e = .emptyServiceKey
  | .accessFile, e => ∃ path, r.accessFile = some path ∧
    ((¬ ∃ cs, Reads look path cs) ∧ e = .unreadable path ∨ (∃ cs, Reads look path cs) ∧ e = .accessFile path)

/-- The first condition of a list that is not met shows as an error. -/
def FirstFault (form : Json.Tree → Prop) (look : String → Found) (r : Raw) : List Condition → SettingsError → Prop
  | [], _ => False
  | k :: ks, e => ¬ Meets form look r k ∧ Shows look r k e ∨ Meets form look r k ∧ FirstFault form look r ks e

/-- An answer is a value when all conditions are met, and else the error of the first one that is not. -/
structure Follows (form : Json.Tree → Prop) (look : String → Found) (r : Raw) (ks : List Condition) {α : Type}
    (x : Except SettingsError α) : Prop where
  ok_iff : (∃ a, x = .ok a) ↔ ∀ k ∈ ks, Meets form look r k
  error_iff : ∀ e, x = .error e ↔ FirstFault form look r ks e

variable {form : Json.Tree → Prop} {look : String → Found} {r : Raw} {ks ks' : List Condition} {m : Mode}
  {e : SettingsError} {α β : Type}

/-! ## Chains of checks -/

theorem firstFault_append : FirstFault form look r (ks ++ ks') e ↔
    FirstFault form look r ks e ∨ (∀ k ∈ ks, Meets form look r k) ∧ FirstFault form look r ks' e := by
  induction ks with
  | nil => simp [FirstFault]
  | cons k ks ih =>
    simp only [List.cons_append, FirstFault, List.forall_mem_cons, ih]
    tauto

theorem Shows.unique {k : Condition} {e' : SettingsError} (h : Shows look r k e) (h' : Shows look r k e') : e = e' := by
  cases k with
  | mode =>
    obtain ⟨name, hn, rfl⟩ := h
    obtain ⟨name', hn', rfl⟩ := h'
    rw [String.toList_inj.1 ((Text.trim_eq_iff.2 hn).symm.trans (Text.trim_eq_iff.2 hn'))]
  | jwksUrl =>
    rcases h with ⟨url, fault, hu, hf, rfl⟩ | ⟨hu, rfl⟩
    · rcases h' with ⟨url', fault', hu', hf', rfl⟩ | ⟨hu', rfl⟩
      · cases hu.symm.trans hu'
        cases hf.symm.trans hf'
        rfl
      · cases hu.symm.trans hu'
    · rcases h' with ⟨url', fault', hu', hf', rfl⟩ | ⟨hu', rfl⟩
      · cases hu.symm.trans hu'
      · rfl
  | audiences => exact Eq.trans h (Eq.symm h')
  | serviceKey =>
    rcases h with ⟨path, hp, rfl⟩ | ⟨hp, rfl⟩
    · rcases h' with ⟨path', hp', rfl⟩ | ⟨hp', rfl⟩
      · cases hp.symm.trans hp'
        rfl
      · cases hp.symm.trans hp'
    · rcases h' with ⟨path', hp', rfl⟩ | ⟨hp', rfl⟩
      · cases hp.symm.trans hp'
      · rfl
  | filledKey => exact Eq.trans h (Eq.symm h')
  | accessFile =>
    obtain ⟨path, hp, h⟩ := h
    obtain ⟨path', hp', h'⟩ := h'
    cases hp.symm.trans hp'
    rcases h with ⟨hr, rfl⟩ | ⟨hr, rfl⟩
    · rcases h' with ⟨-, rfl⟩ | ⟨hr', -⟩
      · rfl
      · exact absurd hr' hr
    · rcases h' with ⟨hr', -⟩ | ⟨-, rfl⟩
      · exact absurd hr hr'
      · rfl

/-- One check follows its condition when it passes exactly then, and fails with the error that says so. -/
theorem Follows.of_check {k : Condition} {x : Except SettingsError α} (hok : (∃ a, x = .ok a) ↔ Meets form look r k)
    (herror : ∀ e, x = .error e → Shows look r k e) : Follows form look r [k] x := by
  refine ⟨by simpa using hok, fun e => ?_⟩
  simp only [FirstFault, and_false, or_false, ← hok]
  cases x with
  | ok a => simp
  | error e' =>
    have hs := herror e' rfl
    constructor
    · rintro ⟨⟩
      exact ⟨by simp, hs⟩
    · rintro ⟨-, he⟩
      rw [hs.unique he]

theorem Follows.ok (a : α) : Follows form look r [] (.ok a : Except SettingsError α) :=
  ⟨iff_of_true ⟨a, rfl⟩ nofun, fun _ => iff_of_false nofun fun h => h⟩

theorem Follows.bind {x : Except SettingsError α} {f : α → Except SettingsError β} (hx : Follows form look r ks x)
    (hf : ∀ a, x = .ok a → Follows form look r ks' (f a)) : Follows form look r (ks ++ ks') (do f (← x)) := by
  constructor
  · simp only [Answers.bind_ok, List.forall_mem_append, ← hx.ok_iff]
    constructor
    · rintro ⟨b, a, ha, hb⟩
      exact ⟨⟨a, ha⟩, (hf a ha).ok_iff.1 ⟨b, hb⟩⟩
    · rintro ⟨⟨a, ha⟩, h⟩
      obtain ⟨b, hb⟩ := (hf a ha).ok_iff.2 h
      exact ⟨b, a, ha, hb⟩
  · intro e
    rw [Answers.bind_error, firstFault_append, hx.error_iff, ← hx.ok_iff]
    refine or_congr_right ⟨?_, ?_⟩
    · rintro ⟨a, ha, he⟩
      exact ⟨⟨a, ha⟩, ((hf a ha).error_iff e).1 he⟩
    · rintro ⟨⟨a, ha⟩, he⟩
      exact ⟨a, ha, ((hf a ha).error_iff e).2 he⟩

/-! ## One check after the other -/

theorem checkMode_eq_ok {text : String} : checkMode text = .ok m ↔ Names text m := by
  have hn : String.ofList (Text.trim text.toList) = m.name ↔ Names text m := by
    rw [Names, ← Text.trim_eq_iff, ← String.toList_inj, String.toList_ofList]
  unfold checkMode
  dsimp only
  split
  · rename_i m' hm
    rw [← hn, ← Mode.ofName?_eq_some, hm]
    simp
  · rename_i hm
    rw [← hn, ← Mode.ofName?_eq_some, hm]
    simp

theorem Names.iff {text : String} {m' : Mode} (h : Names text m) : Names text m' ↔ m = m' := by
  rw [← checkMode_eq_ok, checkMode_eq_ok.2 h, Except.ok.injEq]

theorem follows_checkMode : Follows form look r [.mode] (checkMode r.mode) := by
  refine .of_check (exists_congr fun _ => checkMode_eq_ok) fun e he => ?_
  unfold checkMode at he
  dsimp only at he
  split at he
  · cases he
  · cases he
    exact ⟨_, by rw [String.toList_ofList]; exact Text.trimsTo_trim _, rfl⟩

theorem checkJwksUrl_eq_ok {url? checked? : Option String} : checkJwksUrl m url? = .ok checked? ↔
    url? = checked? ∧ (∀ url, url? = some url → Url.check url = .ok ()) ∧ (m = .full → url? ≠ none) := by
  unfold checkJwksUrl
  cases url? with
  | none => by_cases hf : m = .full <;> simp [hf]
  | some url => cases hc : Url.check url <;> simp [hc]

theorem checkJwksUrl_error {url? : Option String} (h : checkJwksUrl m url? = .error e) :
    (∃ url fault, url? = some url ∧ Url.check url = .error fault ∧ e = .jwksUrl fault) ∨
      url? = none ∧ e = .missing "jwks_url" := by
  unfold checkJwksUrl at h
  split at h
  · rename_i url
    split at h
    · cases h
    · rename_i fault hc
      cases h
      exact .inl ⟨url, fault, rfl, hc, rfl⟩
  · split at h
    · cases h
      exact .inr ⟨rfl, rfl⟩
    · cases h

theorem follows_checkJwksUrl (hm : Names r.mode m) : Follows form look r [.jwksUrl] (checkJwksUrl m r.jwksUrl) := by
  refine .of_check ?_ fun e he => checkJwksUrl_error he
  simp only [Meets, checkJwksUrl_eq_ok, hm.iff, exists_eq_left']

theorem follows_checkAudiences (hm : Names r.mode m) :
    Follows form look r [.audiences] (checkAudiences m r.audiences) := by
  refine .of_check ?_ fun e he => ?_
  · unfold Meets checkAudiences
    cases r.audiences with
    | none => by_cases ho : m = .off <;> simp [hm.iff, ho]
    | some a => simp
  · unfold checkAudiences at he
    split at he
    · cases he
    · split at he
      · cases he
        rfl
      · cases he

theorem readText_eq_error {path : String} :
    readText look path = .error e ↔ (¬ ∃ cs, Reads look path cs) ∧ e = .unreadable path := by
  have hr : (∃ cs, Reads look path cs) ↔ ∃ cs, readText look path = .ok cs :=
    exists_congr fun _ => readText_eq_ok.symm
  rw [hr]
  unfold readText
  cases look path with
  | file bytes => cases hd : Text.decode? bytes <;> simp [hd, eq_comm]
  | missing => simp [eq_comm]
  | directory => simp [eq_comm]

/-- Where the service key comes from. -/
def keySource (look : String → Found) (mode : Mode) : (key file : Option String) → Except SettingsError String
  | some key, _ => .ok key
  | none, some path => readKeyFile look path
  | none, none => if mode ≠ .off then .error (.missing "api_service_key") else .ok ""

/-- Refuses an empty key where a key is needed. -/
def filled (mode : Mode) (key : String) : Except SettingsError String :=
  if mode ≠ .off && key.isEmpty then .error .emptyServiceKey else .ok key

theorem checkServiceKey_eq {key file : Option String} :
    checkServiceKey look m key file = (do filled m (← keySource look m key file)) := by
  have hrefuse (k : String) : (do
      if m ≠ .off && k.isEmpty then throw .emptyServiceKey
      return k : Except SettingsError String) = filled m k := by
    unfold filled
    split <;> rfl
  unfold checkServiceKey keySource
  cases key with
  | some k => exact hrefuse k
  | none =>
    cases file with
    | some path => exact congrArg (readKeyFile look path >>= ·) (funext hrefuse)
    | none =>
      dsimp only
      split
      · rfl
      · exact hrefuse ""

theorem keySource_eq_ok (hm : Names r.mode m) {key : String} :
    keySource look m r.serviceKey r.serviceKeyFile = .ok key ↔ KeyOf look r key := by
  constructor
  · intro h
    unfold keySource at h
    split at h
    · rename_i k file hk
      cases h
      exact .inline hk
    · rename_i path hk hf
      obtain ⟨cs, hr, h⟩ := Answers.bind_ok.1 h
      cases h
      exact .inFile hk hf (readText_eq_ok.1 hr) (by rw [String.toList_ofList]; exact Text.trimsTo_trim cs)
    · rename_i hk hf
      split at h
      · cases h
      · rename_i ho
        cases h
        exact .unneeded hk hf (hm.iff.2 (not_not.1 ho))
  · rintro (hk | ⟨hk, hf, hr, ht⟩ | ⟨hk, hf, ho⟩)
    · rw [hk]
      rfl
    · rw [hk, hf]
      refine Answers.bind_ok.2 ⟨_, readText_eq_ok.2 hr, ?_⟩
      rw [Text.trim_eq_iff.2 ht, String.ofList_toList]
      rfl
    · rw [hk, hf]
      exact if_neg (not_not.2 (hm.iff.1 ho))

theorem KeyOf.unique (hm : Names r.mode m) {key key' : String} (h : KeyOf look r key) (h' : KeyOf look r key') :
    key = key' :=
  Except.ok.inj (((keySource_eq_ok hm).2 h).symm.trans ((keySource_eq_ok hm).2 h'))

theorem follows_keySource (hm : Names r.mode m) :
    Follows form look r [.serviceKey] (keySource look m r.serviceKey r.serviceKeyFile) := by
  refine .of_check (exists_congr fun _ => keySource_eq_ok hm) fun e he => ?_
  unfold keySource at he
  split at he
  · cases he
  · rename_i path hk hf
    rcases Answers.bind_error.1 he with he | ⟨cs, -, he⟩
    · exact .inl ⟨path, hf, (readText_eq_error.1 he).2⟩
    · cases he
  · rename_i hk hf
    split at he
    · cases he
      exact .inr ⟨hf, rfl⟩
    · cases he

theorem filled_eq_ok {key key' : String} : filled m key = .ok key' ↔ key = key' ∧ (m ≠ .off → key ≠ "") := by
  unfold filled
  by_cases ho : m = .off
  · simp [ho]
  · by_cases hk : key = ""
    · simp [ho, hk]
    · simp [ho, hk]

theorem follows_filled (hm : Names r.mode m) {key : String} (hk : KeyOf look r key) :
    Follows form look r [.filledKey] (filled m key) := by
  refine .of_check ?_ fun e he => ?_
  · have hkeys : (∀ key', KeyOf look r key' → key' ≠ "") ↔ key ≠ "" :=
      ⟨fun h => h key hk, fun h key' hk' => hk.unique hm hk' ▸ h⟩
    simp only [Meets, filled_eq_ok, hm.iff, hkeys, exists_eq_left', ne_eq]
  · unfold filled at he
    split at he
    · cases he
      rfl
    · cases he

/-! ## Access files -/

/-- What is accepted as an access file. -/
def Accepted (t : Json.Tree) : Prop := Documented t ∨ Bare t

theorem texts_iff {t : Json.Tree} : Texts t ↔ ∃ users, t.strings? = some users := by
  have hs {x : Json.Tree} : (∃ s, x.string? = some s) ↔ ∃ s, x = .text (some s) := by
    cases x <;> simp [Json.Tree.string?]
  cases t with
  | list ts =>
    simp only [Texts, Json.Tree.strings?, Json.Tree.list?, Option.bind_some, Answers.exists_mapM, hs]
    simp
  | _ => simp [Texts, Json.Tree.strings?, Json.Tree.list?]

theorem accepted_iff {t : Json.Tree} :
    Accepted t ↔ ∃ x users, t.slots? ["allowed_users"] = some [some x] ∧ x.strings? = some users := by
  simp only [slots?_eq_some, once?_eq_some, Accepted, Documented, Bare, texts_iff]
  constructor
  · rintro (⟨ms, x, rfl, hn, ho, users, hu⟩ | ⟨x, rfl, users, hu⟩)
    · exact ⟨x, users, .inr ⟨ms, rfl, hn, ho⟩, hu⟩
    · exact ⟨x, users, .inl rfl, hu⟩
  · rintro ⟨x, users, rfl | ⟨ms, rfl, hn, ho⟩, hu⟩
    · exact .inr ⟨x, rfl, users, hu⟩
    · exact .inl ⟨ms, x, rfl, hn, ho, users, hu⟩

theorem exists_allowedUsers? {cs : List Char} :
    (∃ users, allowedUsers? cs = some users) ↔ ∃ t, Json.Tree.ofBytes? (Text.encode cs) = some t ∧ Accepted t := by
  simp only [accepted_iff]
  constructor
  · rintro ⟨users, h⟩
    obtain ⟨t, ht, h⟩ := Option.bind_eq_some_iff.1 h
    obtain ⟨slots, hs, h⟩ := Option.bind_eq_some_iff.1 h
    split at h
    · exact ⟨t, ht, _, users, hs, h⟩
    · cases h
  · rintro ⟨t, ht, x, users, hs, hu⟩
    exact ⟨users, Option.bind_eq_some_iff.2 ⟨t, ht, Option.bind_eq_some_iff.2 ⟨_, hs, hu⟩⟩⟩

theorem exists_readAccessFile {path : String} : (∃ users, readAccessFile look path = .ok users) ↔
    ∃ cs t, Reads look path cs ∧ Json.Tree.ofBytes? (Text.encode cs) = some t ∧ Accepted t := by
  constructor
  · rintro ⟨users, h⟩
    obtain ⟨cs, hr, h⟩ := Answers.bind_ok.1 h
    have hu : ∃ users, allowedUsers? cs = some users := by
      cases hu : allowedUsers? cs with
      | some users => exact ⟨users, rfl⟩
      | none =>
        rw [hu] at h
        cases h
    obtain ⟨t, ht, ha⟩ := exists_allowedUsers?.1 hu
    exact ⟨cs, t, readText_eq_ok.1 hr, ht, ha⟩
  · rintro ⟨cs, t, hr, ht, ha⟩
    obtain ⟨users, hu⟩ := exists_allowedUsers?.2 ⟨t, ht, ha⟩
    refine ⟨users, Answers.bind_ok.2 ⟨cs, readText_eq_ok.2 hr, ?_⟩⟩
    rw [hu]
    rfl

theorem readAccessFile_error {path : String} (h : readAccessFile look path = .error e) :
    (¬ ∃ cs, Reads look path cs) ∧ e = .unreadable path ∨ (∃ cs, Reads look path cs) ∧ e = .accessFile path := by
  rcases Answers.bind_error.1 h with h | ⟨cs, hr, h⟩
  · exact .inl (readText_eq_error.1 h)
  · refine .inr ⟨⟨cs, readText_eq_ok.1 hr⟩, ?_⟩
    cases hu : allowedUsers? cs with
    | some users =>
      rw [hu] at h
      cases h
    | none =>
      rw [hu] at h
      cases h
      rfl

theorem follows_checkProvisioners {users : List String} :
    Follows Accepted look r [.accessFile] (checkProvisioners look users r.accessFile) := by
  refine .of_check ?_ fun e he => ?_
  · unfold Meets
    cases hf : r.accessFile with
    | none => exact iff_of_true ⟨_, rfl⟩ nofun
    | some path =>
      simp only [Option.some.injEq, forall_eq', ← exists_readAccessFile]
      constructor
      · rintro ⟨l, h⟩
        obtain ⟨more, hm, -⟩ := Answers.bind_ok.1 h
        exact ⟨more, hm⟩
      · rintro ⟨more, hm⟩
        exact ⟨_, Answers.bind_ok.2 ⟨more, hm, rfl⟩⟩
  · cases hf : r.accessFile with
    | none =>
      rw [hf] at he
      cases he
    | some path =>
      rw [hf] at he
      rcases Answers.bind_error.1 he with he | ⟨more, -, he⟩
      · exact ⟨path, hf, readAccessFile_error he⟩
      · cases he

/-! ## All checks -/

/-- **Loading looks at the conditions in their order**, with the two forms of access files. -/
theorem follows_check : Follows Accepted look r Condition.order (check look r) := by
  have horder : Condition.order = [Condition.mode] ++ ([Condition.jwksUrl] ++ ([Condition.audiences] ++
      (([Condition.serviceKey] ++ [Condition.filledKey]) ++ ([Condition.accessFile] ++ [])))) := rfl
  rw [horder]
  refine follows_checkMode.bind fun m hm => ?_
  have hm := checkMode_eq_ok.1 hm
  refine (follows_checkJwksUrl hm).bind fun url _ => ?_
  refine (follows_checkAudiences hm).bind fun audiences _ => ?_
  refine Follows.bind ?_ fun key _ => follows_checkProvisioners.bind fun provisioners _ => .ok _
  rw [checkServiceKey_eq]
  exact (follows_keySource hm).bind fun key hk => follows_filled hm ((keySource_eq_ok hm).1 hk)

/-- Nothing is amiss but the form of the access file, which is a bare list of users. -/
def Loophole (look : String → Found) (r : Raw) : Prop :=
  (∀ k ∈ Condition.order, k ≠ .accessFile → Meets Documented look r k) ∧
    ∃ path cs t, r.accessFile = some path ∧ Reads look path cs ∧
      Json.Tree.ofBytes? (Text.encode cs) = some t ∧ Bare t

/-- The form of access files matters to no other condition. -/
theorem meets_form {form' : Json.Tree → Prop} {k : Condition} (hk : k ≠ .accessFile) :
    Meets form look r k ↔ Meets form' look r k := by
  cases k with
  | accessFile => exact absurd rfl hk
  | _ => exact Iff.rfl

theorem not_documented_of_bare {t : Json.Tree} (h : Bare t) : ¬ Documented t := by
  obtain ⟨x, rfl, -⟩ := h
  rintro ⟨ms, y, h, -⟩
  cases h

theorem reads_unique {path : String} {cs cs' : List Char} (h : Reads look path cs) (h' : Reads look path cs') :
    cs = cs' :=
  Except.ok.inj ((readText_eq_ok.2 h).symm.trans (readText_eq_ok.2 h'))

theorem loophole_iff : Loophole look r ↔
    (∀ k ∈ Condition.order, Meets Accepted look r k) ∧ ¬ Meets Documented look r .accessFile := by
  constructor
  · rintro ⟨hothers, path, cs, t, hf, hr, ht, hb⟩
    constructor
    · intro k hk
      by_cases ha : k = .accessFile
      · subst ha
        intro path' hf'
        cases hf.symm.trans hf'
        exact ⟨cs, t, hr, ht, .inr hb⟩
      · exact (meets_form ha).1 (hothers k hk ha)
    · intro hd
      obtain ⟨cs', t', hr', ht', hd⟩ := hd path hf
      cases reads_unique hr hr'
      cases ht.symm.trans ht'
      exact not_documented_of_bare hb hd
  · rintro ⟨hall, hn⟩
    refine ⟨fun k hk ha => (meets_form ha).1 (hall k hk), ?_⟩
    simp only [Meets, not_forall] at hn
    obtain ⟨path, hf, hn⟩ := hn
    obtain ⟨cs, t, hr, ht, hd | hb⟩ := hall .accessFile (by decide) path hf
    · exact absurd ⟨cs, t, hr, ht, hd⟩ hn
    · exact ⟨path, cs, t, hf, hr, ht, hb⟩

theorem firstFault_congr {form' : Json.Tree → Prop} (h : ∀ k ∈ ks, Meets form look r k ↔ Meets form' look r k) :
    FirstFault form look r ks e ↔ FirstFault form' look r ks e := by
  induction ks with
  | nil => exact Iff.rfl
  | cons k ks ih =>
    obtain ⟨hk, hks⟩ := List.forall_mem_cons.1 h
    rw [FirstFault, FirstFault, hk, ih hks]

/-- Outside the loophole the two forms of access files come to the same. -/
theorem Follows.documented {x : Except SettingsError α} (h : Follows Accepted look r Condition.order x)
    (hl : ¬ Loophole look r) : Follows Documented look r Condition.order x := by
  -- The access file is looked at last, so its form matters when all else is met.
  have horder : Condition.order =
      [Condition.mode, .jwksUrl, .audiences, .serviceKey, .filledKey] ++ [Condition.accessFile] := rfl
  have hothers : ∀ k ∈ [Condition.mode, .jwksUrl, .audiences, .serviceKey, .filledKey],
      Meets Accepted look r k ↔ Meets Documented look r k :=
    fun k hk => meets_form (by rintro rfl; simp at hk)
  have hfile : Meets Documented look r .accessFile → Meets Accepted look r .accessFile := by
    intro hd path hf
    obtain ⟨cs, t, hr, ht, hd⟩ := hd path hf
    exact ⟨cs, t, hr, ht, .inl hd⟩
  rw [loophole_iff, not_and_not_right] at hl
  rw [horder] at h hl ⊢
  simp only [List.forall_mem_append, List.forall_mem_singleton, and_imp, forall₂_congr hothers] at hl
  constructor
  · rw [h.ok_iff]
    simp only [List.forall_mem_append, List.forall_mem_singleton, forall₂_congr hothers]
    exact and_congr_right fun ho => ⟨hl ho, hfile⟩
  · intro e
    rw [h.error_iff]
    rw [firstFault_append, firstFault_append, firstFault_congr hothers, forall₂_congr hothers]
    simp only [FirstFault, and_false, or_false]
    exact or_congr_right (and_congr_right fun ho => and_congr_left fun _ => not_congr ⟨hl ho, hfile⟩)

theorem follows_documented_iff {x : Except SettingsError α} (h : Follows Accepted look r Condition.order x) :
    Follows Documented look r Condition.order x ↔ ¬ Loophole look r := by
  refine ⟨fun hd hl => ?_, h.documented⟩
  obtain ⟨hall, hn⟩ := loophole_iff.1 hl
  exact hn (hd.ok_iff.1 (h.ok_iff.2 hall) .accessFile (by decide))

end Settings

/-! ## What is loaded -/

/-- What checks anything has a service key, and an endpoint for keys if it checks signatures. -/
inductive Strategy.Armed (c : Configuration) : Strategy → Prop where
  | full {url : String} {resolver : Resolver} {decoder : Decoder} (named : c.jwksUrl = some url)
      (parsed : Url.check url = .ok ()) (asked : resolver.uri = url) (keyed : c.serviceKey ≠ "") :
      Armed c (.full resolver decoder (.ofString c.serviceKey))
  | skipSignature {decoder : Decoder} (keyed : c.serviceKey ≠ "") :
      Armed c (.skipSignature decoder (.ofString c.serviceKey))
  | off : Armed c .off

namespace Settings

variable {look : String → Found} {r : Raw} {c : Configuration}

theorem keyOf_of_check (h : check look r = .ok c) : KeyOf look r c.serviceKey ∧ (c.mode ≠ .off → c.serviceKey ≠ "") := by
  have hc := check_eq_ok.1 h
  have hk := hc.serviceKey
  rw [checkServiceKey_eq] at hk
  obtain ⟨key, hs, hf⟩ := Answers.bind_ok.1 hk
  obtain ⟨rfl, hne⟩ := filled_eq_ok.1 hf
  exact ⟨(keySource_eq_ok (checkMode_eq_ok.1 hc.mode)).1 hs, hne⟩

/-- **Checked settings make an authorizer of their mode, and one that is armed for it.** -/
theorem armed_of_check (h : check look r = .ok c) :
    ∃ a, Authorizer.ofConfiguration c = .ok a ∧ a.mode = c.mode ∧ a.strategy.Armed c := by
  obtain ⟨-, hkeyed⟩ := keyOf_of_check h
  unfold Authorizer.ofConfiguration Strategy.ofConfiguration
  dsimp only
  cases hm : c.mode with
  | full =>
    have hc := (check_eq_ok.1 h).jwksUrl
    rw [hm] at hc
    obtain ⟨url, hu⟩ := isSome_of_checkJwksUrl hc
    obtain ⟨hr, hparsed, -⟩ := checkJwksUrl_eq_ok.1 hc
    rw [hu]
    exact ⟨_, rfl, rfl, .full hu (hparsed url (hr.trans hu)) rfl (hkeyed (by simp [hm]))⟩
  | skipSignature => exact ⟨_, rfl, rfl, .skipSignature (hkeyed (by simp [hm]))⟩
  | off => exact ⟨_, rfl, rfl, .off⟩

/-- **With which settings the service starts**: as written, save for the loophole, in which it starts all the same.
Whatever is loaded has the mode and the service key that the settings give, and makes an authorizer of that mode that
is armed for it. -/
theorem startup (look : String → Found) (env : List (String × String)) (path : Option String) (r : Raw)
    (hr : raw look env path = .ok r) :
    (Follows Documented look r Condition.order (load look env path) ↔ ¬ Loophole look r) ∧
    (Loophole look r → ∃ c, load look env path = .ok c) ∧
    ∀ c, load look env path = .ok c → Names r.mode c.mode ∧ KeyOf look r c.serviceKey ∧
      ∃ a, Authorizer.ofConfiguration c = .ok a ∧ a.mode = c.mode ∧ a.strategy.Armed c := by
  have hload : load look env path = check look r := by simp only [load, hr, bind, Except.bind]
  rw [hload]
  refine ⟨follows_documented_iff follows_check, fun hl => follows_check.ok_iff.2 (loophole_iff.1 hl).1, fun c hc => ?_⟩
  exact ⟨checkMode_eq_ok.1 (check_eq_ok.1 hc).mode, (keyOf_of_check hc).1, armed_of_check hc⟩

/-! ## The two forms of access files -/

/-- Variables that switch all checks off and name an access file. -/
def offVariables : List (String × String) :=
  [("DATASTORE_AUTH_MODE", "OFF"), ("DATASTORE_AUTH_ACCESS_CONTROL_FILE", "acl.json")]

def offSettings : Raw := ⟨"OFF", none, none, none, some "acl.json", [], none, none, none, none, 0⟩

/-- A working directory with nothing but an access file. -/
def onlyAccessFile (bytes : List UInt8) (path : String) : Found := if path = "acl.json" then .file bytes else .missing

def objectForm : List UInt8 := Text.encodeString "\x7b\"allowed_users\":[\"u\"]\x7d"

def bareForm : List UInt8 := Text.encodeString "[[\"u\"]]"

theorem raw_of_offVariables (bytes : List UInt8) :
    raw (onlyAccessFile bytes) offVariables none = .ok offSettings :=
  raw_eq_ok.2 ⟨.table [("mode", .text "OFF"), ("access_control_file", .text "acl.json")], by cbv, by cbv⟩

/-- The form that is written down. -/
theorem startup_of_object : raw (onlyAccessFile objectForm) offVariables none = .ok offSettings ∧
    Follows Documented (onlyAccessFile objectForm) offSettings Condition.order
      (load (onlyAccessFile objectForm) offVariables none) := by
  have hr := raw_of_offVariables objectForm
  refine ⟨hr, (startup _ _ _ _ hr).1.2 fun hl => (loophole_iff.1 hl).2 fun path hf => ?_⟩
  cases hf
  refine ⟨"\x7b\"allowed_users\":[\"u\"]\x7d".toList,
    .object [(some "allowed_users", .list [.text (some "u")])], ⟨objectForm, rfl, by decide +kernel⟩, by cbv, ?_⟩
  exact ⟨_, _, rfl, by simp, by simp, [.text (some "u")], rfl, by simp⟩

/-- The other form: loading accepts it although it is not the documented one. -/
theorem load_of_bare_list : raw (onlyAccessFile bareForm) offVariables none = .ok offSettings ∧
    ¬ Meets Documented (onlyAccessFile bareForm) offSettings .accessFile ∧
    load (onlyAccessFile bareForm) offVariables none =
      .ok ⟨.off, none, ⟨"", "", ""⟩, "role/dataadministrator", ⟨["u"]⟩, "", 3000, 10, 0⟩ := by
  have hr := raw_of_offVariables bareForm
  have hcs : Reads (onlyAccessFile bareForm) "acl.json" "[[\"u\"]]".toList := ⟨bareForm, rfl, by decide +kernel⟩
  have ht : Json.Tree.ofBytes? (Text.encode "[[\"u\"]]".toList) = some (.list [.list [.text (some "u")]]) := by cbv
  refine ⟨hr, fun hd => ?_, ?_⟩
  · obtain ⟨cs, t, hcs', ht', hd⟩ := hd "acl.json" rfl
    obtain rfl := reads_unique hcs hcs'
    obtain rfl := Option.some.inj (ht.symm.trans ht')
    exact not_documented_of_bare ⟨_, rfl, _, rfl, by simp⟩ hd
  · simp only [load, hr, bind, Except.bind]
    cbv

end Settings
end DatastoreAccess

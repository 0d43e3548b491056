import Mathlib
import DatastoreAccess.Proofs.Access.Granting
import DatastoreAccess.Proofs.Settings.Loading
/-!
# Proofs.Settings.Provisioners — who may provision, from the settings to the decision

Two sources list those who may provision: a setting, which is a list or one text with commas (`ListedInline`), and a
file that another setting names (`ListedInFile`).  Both are said of the values and trees themselves.  A configuration
that is loaded has exactly the users of both (`listed_iff`), and the authorizer made from it lets exactly these through
once their token is good (`provisioner_of_load`).
-/
namespace DatastoreAccess

namespace Settings

/-! ## Users in the settings -/

theorem Raw.mem_entries {s user : String} : user ∈ Raw.entries s ↔
    ∃ piece, Text.IsPiece ',' s.toList piece ∧ Text.TrimsTo piece user.toList ∧ user ≠ "" := by
  simp only [Raw.entries, List.mem_map, List.mem_filter, Text.mem_splitAll]
  constructor
  · rintro ⟨core, ⟨⟨piece, hp, ht⟩, hne⟩, rfl⟩
    refine ⟨piece, hp, ?_, ?_⟩
    · rw [String.toList_ofList]
      exact Text.trim_eq_iff.1 ht
    · rintro h
      rw [← String.toList_inj, String.toList_ofList] at h
      subst h
      cases hne
  · rintro ⟨piece, hp, ht, hne⟩
    refine ⟨user.toList, ⟨⟨piece, hp, Text.trim_eq_iff.2 ht⟩, ?_⟩, String.ofList_toList⟩
    simpa using hne

/-- A user stands in the list, or between the commas of the one text, without the white space around it. -/
def ListedInline (v : Option Value) (user : String) : Prop :=
  (∃ vs, v = some (.list vs) ∧ Value.text user ∈ vs) ∨
    ∃ s piece, v = some (.text s) ∧ Text.IsPiece ',' s.toList piece ∧ Text.TrimsTo piece user.toList ∧ user ≠ ""

theorem Raw.string?_eq_some {v : Value} {s : String} : Raw.string? v = some s ↔ v = .text s := by
  cases v <;> simp [Raw.string?]

theorem listedInline_iff {v : Option Value} {users : List String} {user : String}
    (h : Raw.defaulted? [] Raw.users? v = some users) : ListedInline v user ↔ user ∈ users := by
  unfold ListedInline
  cases v with
  | none =>
    cases h
    simp
  | some v =>
    cases v with
    | list vs =>
      rw [Answers.mem_of_mapM (show vs.mapM Raw.string? = some users from h)]
      simp [Raw.string?_eq_some]
    | text s =>
      cases h
      simp [Raw.mem_entries]
    | _ => cases h

/-! ## Users in an access file -/

/-- A tree lists users: as the `allowed_users` of an object, or as the one item of a list. -/
def Lists (t : Json.Tree) (user : String) : Prop := ∃ ts, Json.Tree.text (some user) ∈ ts ∧
  (t = .list [.list ts] ∨ ∃ ms, t = .object ms ∧ (some "allowed_users", .list ts) ∈ ms)

theorem once?_eq_some {ms : List (Option String × Json.Tree)} {name : String} {x : Json.Tree} :
    Json.once? ms name = some (some x) ↔ (ms.filter fun m => m.1 = some name) = [(some name, x)] := by
  unfold Json.once?
  split
  · rename_i h
    simp [h]
  · rename_i m h
    have hm : m.1 = some name := by
      have : m ∈ ms.filter fun m => m.1 = some name := by simp [h]
      simpa using (List.mem_filter.1 this).2
    rw [h]
    constructor
    · rintro ⟨⟩
      rw [← hm]
    · intro he
      cases he
      rfl
  · rename_i hmore
    constructor
    · rintro ⟨⟩
    · intro he
      exact absurd he (hmore _)

theorem mem_of_once? {ms : List (Option String × Json.Tree)} {name : String} {t : Json.Tree}
    (h : Json.once? ms name = some (some t)) {x : Json.Tree} : (some name, x) ∈ ms ↔ x = t := by
  have hx : (some name, x) ∈ ms ↔ (some name, x) ∈ ms.filter fun m => m.1 = some name := by simp
  rw [hx, once?_eq_some.1 h]
  simp

/-- A record with one slot. -/
theorem slots?_eq_some {t x : Json.Tree} {name : String} : t.slots? [name] = some [some x] ↔
    t = .list [x] ∨ ∃ ms, t = .object ms ∧ (∀ m ∈ ms, m.1.isSome = true) ∧ Json.once? ms name = some (some x) := by
  cases t with
  | list ts =>
    simp only [Json.Tree.slots?, Json.Tree.list.injEq, reduceCtorEq, false_and, exists_false, or_false]
    constructor
    · intro h
      split at h
      · rw [Option.some.injEq, List.map_eq_singleton_iff] at h
        obtain ⟨y, rfl, hy⟩ := h
        rw [Option.some.inj hy]
      · cases h
    · rintro rfl
      rfl
  | object ms =>
    simp only [Json.Tree.slots?, List.all_eq_true, reduceCtorEq, false_or, Json.Tree.object.injEq, exists_eq_left']
    constructor
    · intro h
      split at h
      · rename_i hn
        obtain ⟨y, hy, h⟩ := Option.bind_eq_some_iff.1 h
        cases h
        exact ⟨hn, hy⟩
      · cases h
    · rintro ⟨hn, hx⟩
      rw [if_pos hn, List.mapM_cons, hx]
      rfl
  | _ => simp [Json.Tree.slots?]

theorem mem_of_strings? {t : Json.Tree} {users : List String} (h : t.strings? = some users) {user : String} :
    user ∈ users ↔ ∃ ts, t = .list ts ∧ Json.Tree.text (some user) ∈ ts := by
  obtain ⟨ts, ht, h⟩ := Option.bind_eq_some_iff.1 h
  have hs {x : Json.Tree} : x.string? = some user ↔ x = .text (some user) := by
    cases x <;> simp [Json.Tree.string?]
  cases t with
  | list ts' =>
    cases ht
    rw [Answers.mem_of_mapM h]
    simp [hs]
  | _ => cases ht

theorem lists_of_allowedUsers? {cs : List Char} {users : List String} (h : allowedUsers? cs = some users) :
    ∃ t, Json.Tree.ofBytes? (Text.encode cs) = some t ∧ ∀ user, Lists t user ↔ user ∈ users := by
  obtain ⟨t, ht, h⟩ := Option.bind_eq_some_iff.1 h
  obtain ⟨slots, hs, h⟩ := Option.bind_eq_some_iff.1 h
  refine ⟨t, ht, fun user => ?_⟩
  split at h
  · rename_i u
    rw [mem_of_strings? h]
    rcases slots?_eq_some.1 hs with rfl | ⟨ms, rfl, -, hm⟩
    · simp [Lists, and_comm]
    · simp [Lists, mem_of_once? hm, and_comm, eq_comm]
  · cases h

theorem readText_eq_ok {look : String → Found} {path : String} {cs : List Char} :
    readText look path = .ok cs ↔ ∃ bytes, look path = .file bytes ∧ Text.decode? bytes = some cs := by
  unfold readText
  cases look path with
  | file bytes =>
    dsimp only
    cases hd : Text.decode? bytes with
    | none => simp [hd]
    | some cs' => simp [hd]
  | _ => simp

/-- A user stands in the file that the value names. -/
def ListedInFile (look : String → Found) (v : Option Value) (user : String) : Prop := ∃ w path bytes cs t,
  v = some w ∧ w.text? = some path ∧ look path = .file bytes ∧ Text.decode? bytes = some cs ∧
    Json.Tree.ofBytes? (Text.encode cs) = some t ∧ Lists t user

theorem lists_of_readAccessFile {look : String → Found} {path : String} {users : List String}
    (h : readAccessFile look path = .ok users) : ∃ bytes cs t, look path = .file bytes ∧ Text.decode? bytes = some cs ∧
      Json.Tree.ofBytes? (Text.encode cs) = some t ∧ ∀ user, Lists t user ↔ user ∈ users := by
  obtain ⟨cs, hr, h⟩ := Answers.bind_ok.1 h
  obtain ⟨bytes, hl, hd⟩ := readText_eq_ok.1 hr
  cases hu : allowedUsers? cs with
  | none =>
    rw [hu] at h
    cases h
  | some users' =>
    rw [hu] at h
    cases h
    obtain ⟨t, ht, hs⟩ := lists_of_allowedUsers? hu
    exact ⟨bytes, cs, t, hl, hd, ht, hs⟩

theorem listedInFile_iff {look : String → Found} {v : Option Value} {path : String} {users : List String} {user : String}
    (hv : Raw.optional? Value.text? v = some (some path)) (h : readAccessFile look path = .ok users) :
    ListedInFile look v user ↔ user ∈ users := by
  obtain ⟨w, rfl, hp⟩ := Raw.given_of_optional? hv
  obtain ⟨bytes, cs, t, hl, hd, ht, hs⟩ := lists_of_readAccessFile h
  simp [ListedInFile, hp, hl, hd, ht, hs]

theorem not_listedInFile {look : String → Found} {v : Option Value} {user : String}
    (hv : Raw.optional? Value.text? v = some none) : ¬ ListedInFile look v user := by
  rintro ⟨w, path, -, -, -, rfl, hp, -⟩
  cases w <;> simp_all [Raw.optional?, Value.text?]

theorem contains_of_checkProvisioners {look : String → Found} {users : List String} {v : Option Value}
    {file : Option String} {l : Allowlist} {user : String} (hv : Raw.optional? Value.text? v = some file)
    (h : checkProvisioners look users file = .ok l) :
    l.contains user = true ↔ user ∈ users ∨ ListedInFile look v user := by
  cases file with
  | none =>
    cases h
    simp [not_listedInFile hv]
  | some path =>
    obtain ⟨more, hm, h⟩ := Answers.bind_ok.1 h
    cases h
    simp [listedInFile_iff hv hm]

/-! ## From the sources to the gate -/

theorem Raw.users_of_ofValue? {v : Value} {r : Raw} (h : Raw.ofValue? v = some r) :
    Raw.defaulted? [] Raw.users? (v.get? "provisioner_allowlist") = some r.provisioners ∧
      Raw.optional? Value.text? (v.get? "access_control_file") = some r.accessFile := by
  unfold Raw.ofValue? at h
  simp only [bind, Option.bind_eq_some_iff] at h
  obtain ⟨_, -, _, -, _, -, _, -, file, hf, users, hu, _, -, _, -, _, -, _, -, _, -, h⟩ := h
  cases h
  exact ⟨hu, hf⟩

/-- A user stands in the list of the sources, or in the access file that they name. -/
def Listed (look : String → Found) (v : Value) (user : String) : Prop :=
  ListedInline (v.get? "provisioner_allowlist") user ∨ ListedInFile look (v.get? "access_control_file") user

theorem listed_iff {look : String → Found} {v : Value} {r : Raw} {c : Configuration} {user : String}
    (hr : Raw.ofValue? v = some r) (hc : check look r = .ok c) :
    Listed look v user ↔ c.provisioners.contains user = true := by
  obtain ⟨hu, hf⟩ := Raw.users_of_ofValue? hr
  rw [contains_of_checkProvisioners hf (check_eq_ok.1 hc).provisioners, ← listedInline_iff hu]
  rfl

end Settings

namespace Authorizer

/-- Checked settings make an authorizer. -/
theorem ofConfiguration_of_check {look : String → Found} {r : Settings.Raw} {c : Configuration}
    (h : Settings.check look r = .ok c) : ∃ s, s.mode = c.mode ∧
      ofConfiguration c = .ok ⟨s, c.audiences, c.provisionerRole, c.provisioners⟩ := by
  have hu := (Settings.check_eq_ok.1 h).jwksUrl
  unfold ofConfiguration Strategy.ofConfiguration
  dsimp only
  cases hm : c.mode with
  | full =>
    rw [hm] at hu
    obtain ⟨u, hu⟩ := Settings.isSome_of_checkJwksUrl hu
    rw [hu]
    exact ⟨_, rfl, rfl⟩
  | skipSignature => exact ⟨_, rfl, rfl⟩
  | off => exact ⟨_, rfl, rfl⟩

/-- How the answer to a provisioner follows from the answer to the token. -/
structure Gated (listed : String → Prop) (passed answer : Except Failure Grant) : Prop where
  ok_iff : ∀ g, answer = .ok g ↔ passed = .ok g ∧ listed g.userId
  unlisted : ∀ g, passed = .ok g → ¬ listed g.userId → answer = .error (.refused (.forbidden (.provisioning g.userId)))
  failed : ∀ e, passed = .error e → answer = .error e

theorem gated {a : Authorizer} (hm : a.mode ≠ .off) {listed : String → Prop}
    (hl : ∀ user, a.provisioners.contains user = true ↔ listed user) (o : Occasion) (token : Option String)
    (st : Resolver.State) :
    Gated listed (a.strategy.authorize o (a.provisionerDemand token) st).1 (a.provisioner o token st).1 := by
  refine ⟨fun g => ?_, fun g hg hn => ?_, fun e he => ?_⟩
  · rw [provisioner_eq_ok, or_iff_right hm, hl]
  · change Except.bind (a.strategy.authorize o (a.provisionerDemand token) st).1 a.admitted = _
    rw [hg]
    exact admitted_of_unlisted hm fun h => hn ((hl _).1 h)
  · change Except.bind (a.strategy.authorize o (a.provisionerDemand token) st).1 a.admitted = _
    rw [he]
    rfl

/-- **Who may provision, from the settings to the decision.** -/
theorem provisioner_of_load (look : String → Found) (env : List (String × String)) (path : Option String)
    (c : Configuration) (h : Settings.load look env path = .ok c) (hm : c.mode = .full ∨ c.mode = .skipSignature) :
    ∃ a v, ofConfiguration c = .ok a ∧ Settings.sources look env path = .ok v ∧ ∀ o token st,
      Gated (Settings.Listed look v)
        (a.strategy.authorize o
          ⟨token, c.audiences.provisioning, Policy.accreditation, some c.provisionerRole, none⟩ st).1
        (a.provisioner o token st).1 := by
  obtain ⟨v, r, hv, hr, hc⟩ := Settings.load_eq_ok.1 h
  obtain ⟨s, hs, ha⟩ := ofConfiguration_of_check hc
  have hon : (Authorizer.mk s c.audiences c.provisionerRole c.provisioners).mode ≠ .off := by
    intro ho
    rw [← hs, show s.mode = .off from ho] at hm
    rcases hm with hm | hm <;> cases hm
  exact ⟨_, v, ha, hv, gated hon fun user => (Settings.listed_iff hr hc).symm⟩

theorem load_of_variables : Settings.load (fun _ => .missing)
    [("DATASTORE_AUTH_MODE", "SKIP_SIGNATURE"), ("DATASTORE_AUTH_AUDIENCES__DATA", "d"),
      ("DATASTORE_AUTH_AUDIENCES__JOBS", "j"), ("DATASTORE_AUTH_AUDIENCES__PROVISIONING", "p"),
      ("DATASTORE_AUTH_API_SERVICE_KEY", "k"), ("DATASTORE_AUTH_PROVISIONER_ALLOWLIST", " u,, v ")] none =
    .ok ⟨.skipSignature, none, ⟨"d", "j", "p"⟩, "role/dataadministrator", ⟨["u", "v"]⟩, "k", 3000, 10, 0⟩ := by
  refine Settings.load_eq_ok.2 ⟨.table [("mode", .text "SKIP_SIGNATURE"),
    ("audiences", .table [("data", .text "d"), ("jobs", .text "j"), ("provisioning", .text "p")]),
    ("api_service_key", .text "k"), ("provisioner_allowlist", .text " u,, v ")],
    ⟨"SKIP_SIGNATURE", none, some ⟨"d", "j", "p"⟩, none, none, ["u", "v"], some "k", none, none, none, 0⟩, ?_, ?_, ?_⟩
  · cbv
  · cbv
  · cbv

/-- Such a configuration is loaded, here from variables alone. -/
theorem provisioner_of_variables : ∃ look env c a v, Settings.load look env none = .ok c ∧ c.mode = .skipSignature ∧
    ofConfiguration c = .ok a ∧ Settings.sources look env none = .ok v ∧ ∀ o token st,
      Gated (Settings.Listed look v)
        (a.strategy.authorize o
          ⟨token, c.audiences.provisioning, Policy.accreditation, some c.provisionerRole, none⟩ st).1
        (a.provisioner o token st).1 :=
  have ⟨a, v, ha, hv, hg⟩ := provisioner_of_load _ _ _ _ load_of_variables (.inr rfl)
  ⟨_, _, _, a, v, load_of_variables, rfl, ha, hv, hg⟩

end Authorizer
end DatastoreAccess

import DatastoreAccess.Proofs.Settings.Startup
import DatastoreAccess.Proofs.Text.Encoding
import Mathlib.Data.List.Induction
/-!
# Proofs.Settings.Spread — settings spread over the file and the environment

Settings have a meaning (`Assignment`), and each may stand in the file or in a variable: a number as such or in digits,
users as a list or in one text with commas (`Writes`).  Variables go over the file at the place of their setting and
leave all other settings alone (`at?_setAll_of_apart`, `at?_setAll_of_hit`).  So the settings that are read are those of
the assignment, however they are spread (`ofValue?_of_written`), and loading does the same (`load_of_spread`).
-/
namespace DatastoreAccess.Settings

/-! ## Settings and their meaning -/

inductive Kind where
  | text
  | number
  | users
  deriving DecidableEq, Repr

/-- Users by ids that can stand between commas. -/
structure Users where
  ids : List String
  nonempty : ids ≠ []
  plain : ∀ id ∈ ids, id ≠ "" ∧ ',' ∉ id.toList ∧ Text.TrimsTo id.toList id.toList

/-- What a setting of a kind says. -/
def Kind.Meaning : Kind → Type
  | .text => String
  | .number => { n : Nat // n < Number.signedLimit }
  | .users => Users

inductive Setting where
  | mode
  | jwksUrl
  | dataAudience
  | jobsAudience
  | provisioningAudience
  | provisionerRole
  | accessFile
  | provisioners
  | serviceKey
  | serviceKeyFile
  | keyLifetime
  | fetchTimeout
  | leeway
  deriving DecidableEq, Repr

namespace Setting

def kind : Setting → Kind
  | .provisioners => .users
  | .keyLifetime | .fetchTimeout | .leeway => .number
  | _ => .text

/-- The names that lead to a setting. -/
def path : Setting → List String
  | .mode => ["mode"]
  | .jwksUrl => ["jwks_url"]
  | .dataAudience => ["audiences", "data"]
  | .jobsAudience => ["audiences", "jobs"]
  | .provisioningAudience => ["audiences", "provisioning"]
  | .provisionerRole => ["provisioner_role"]
  | .accessFile => ["access_control_file"]
  | .provisioners => ["provisioner_allowlist"]
  | .serviceKey => ["api_service_key"]
  | .serviceKeyFile => ["api_service_key_file"]
  | .keyLifetime => ["jwks_cache_ttl_secs"]
  | .fetchTimeout => ["jwks_timeout_secs"]
  | .leeway => ["leeway_secs"]

def key (k : Setting) : String := ".".intercalate k.path

def audiences : List Setting := [.dataAudience, .jobsAudience, .provisioningAudience]

end Setting

/-- What each setting says, for the settings that say anything. -/
def Assignment := (k : Setting) → Option k.kind.Meaning

/-- The text that says the same. -/
def Kind.Meaning.asText : {kind : Kind} → kind.Meaning → String
  | .text, (s : String) => s
  | .number, n => toString n.val
  | .users, l => ",".intercalate l.ids

/-- A value that says the same: the text, a number, or a list. -/
def Writes : {kind : Kind} → Value → kind.Meaning → Prop
  | .text, v, (s : String) => v = .text s
  | .number, v, n => v = .integer n.val ∨ v = .text (toString n.val)
  | .users, v, l => v = .list (l.ids.map .text) ∨ v = .text (",".intercalate l.ids)

theorem writes_asText {kind : Kind} (m : kind.Meaning) : Writes (.text m.asText) m := by
  cases kind with
  | text => rfl
  | number => exact .inr rfl
  | users => exact .inr rfl

/-- A setting that says something is written, and one that says nothing is not there. -/
def Written {kind : Kind} : Option Value → Option kind.Meaning → Prop
  | none, none => True
  | some v, some m => Writes v m
  | _, _ => False

theorem Written.cases {kind : Kind} {v? : Option Value} {m? : Option kind.Meaning} (h : Written v? m?) :
    (v? = none ∧ m? = none) ∨ ∃ v m, v? = some v ∧ m? = some m ∧ Writes v m := by
  cases v? with
  | none =>
    cases m? with
    | none => exact .inl ⟨rfl, rfl⟩
    | some m => cases h
  | some v =>
    cases m? with
    | none => cases h
    | some m => exact .inr ⟨v, m, rfl, rfl, h⟩

/-! ## Places in a value -/

/-- What names lead to. -/
def Value.at? : List String → Value → Option Value
  | [], v => some v
  | name :: p, v => (v.get? name).bind (at? p)

/-- Two ways part at a name. -/
def Apart : List String → List Step → Prop
  | name :: p, .field other :: q => name ≠ other ∨ Apart p q
  | _, _ => False

theorem get?_table (fs : List (String × Value)) (name : String) : (Value.table fs).get? name = fs.lookup name := rfl

theorem at?_alterPath_self (s : String) : ∀ (p : List String) (v : Value),
    (Value.alterPath (Value.overlay (.text s)) (p.map .field) v).at? p = some (.text s)
  | [], _ => rfl
  | name :: p, v => by
    rw [List.map_cons, Value.alterPath, Value.at?, get?_table, Value.lookup_alter_self, Option.bind_some]
    exact at?_alterPath_self s p _

theorem at?_alterPath_of_apart (f : Value → Value) : ∀ {p : List String} {q : List Step} (v : Value), Apart p q →
    (Value.alterPath f q v).at? p = v.at? p
  | name :: p, .field other :: q, v, h => by
    rw [Value.alterPath, Value.at?, Value.at?, get?_table, Value.get?]
    by_cases hn : name = other
    · subst hn
      have h : Apart p q := h.resolve_left fun hne => hne rfl
      rw [Value.lookup_alter_self, Option.bind_some, at?_alterPath_of_apart f _ h]
      cases v.fields.lookup name with
      | some w => rfl
      | none =>
        cases p with
        | nil => cases h
        | cons _ _ => rfl
    · rw [Value.lookup_alter_of_ne hn]

theorem not_apart_self : ∀ {p : List String}, ¬ Apart p (p.map .field)
  | [], h => h
  | _ :: _, h => not_apart_self (h.resolve_left fun hne => hne rfl)

theorem Apart.append : ∀ {p p' : List String} {q : List Step}, Apart p q → Apart (p ++ p') q
  | _ :: _, _, .field _ :: _, h => h.imp_right Apart.append

variable {keys : List (String × Value)} {p : List String} {s : String}

/-- Keys leave alone what they part from. -/
theorem at?_setAll_of_apart (h : ∀ m ∈ keys, Apart p (Step.ofKey m.1)) (v : Value) :
    (Value.setAll keys v).at? p = v.at? p := by
  induction keys generalizing v with
  | nil => rfl
  | cons m keys ih =>
    obtain ⟨hm, h⟩ := List.forall_mem_cons.1 h
    exact (ih h _).trans (at?_alterPath_of_apart _ v hm)

/-- A text that is set stands there, if nothing else is set at its place. -/
theorem at?_setAll_of_hit (h : ∀ m ∈ keys, (Step.ofKey m.1 = p.map .field ∧ m.2 = .text s) ∨ Apart p (Step.ofKey m.1))
    (hit : ∃ m ∈ keys, Step.ofKey m.1 = p.map .field) (v : Value) :
    (Value.setAll keys v).at? p = some (.text s) := by
  -- From the back: the last key writes the text, or it leaves alone what stands there.
  induction keys using List.reverseRecOn with
  | nil =>
    obtain ⟨m, hm, -⟩ := hit
    cases hm
  | append_singleton keys m ih =>
    have hset : Value.setAll (keys ++ [m]) v =
        Value.alterPath (Value.overlay m.2) (Step.ofKey m.1) (Value.setAll keys v) := by
      rw [Value.setAll, List.foldl_append]
      rfl
    rw [hset]
    rcases h m (List.mem_append_right _ (List.mem_singleton_self m)) with ⟨hkey, htext⟩ | hapart
    · rw [hkey, htext]
      exact at?_alterPath_self s p _
    · rw [at?_alterPath_of_apart _ _ hapart]
      refine ih (fun m' hm' => h m' (List.mem_append_left _ hm')) ?_
      obtain ⟨m', hm', hkey⟩ := hit
      rcases List.mem_append.1 hm' with hm' | hm'
      · exact ⟨m', hm', hkey⟩
      · rw [List.mem_singleton.1 hm'] at hkey
        rw [hkey] at hapart
        exact absurd hapart not_apart_self

/-! ## Keys of settings -/

namespace Setting

theorem ofKey_key (k : Setting) : Step.ofKey k.key = k.path.map .field := by
  cases k <;> cbv

theorem apart {k k' : Setting} (h : k ≠ k') : Apart k.path (k'.path.map .field) := by
  cases k <;> cases k' <;> first | exact absurd rfl h | simp [Apart, path]

theorem apart_audiences {k : Setting} (h : k ∉ audiences) : Apart ["audiences"] (k.path.map .field) := by
  cases k <;> simp [audiences] at h <;> simp [Apart, path]

theorem key_injective {k k' : Setting} (h : k.key = k'.key) : k = k' := by
  by_contra hne
  have hpath : k.path.map Step.field = k'.path.map .field := by rw [← ofKey_key, h, ofKey_key]
  exact not_apart_self (hpath ▸ apart hne)

end Setting

/-- A key whose first name is that of no setting. -/
def Foreign (key : String) : Prop := ∀ k : Setting, Apart (k.path.take 1) (Step.ofKey key)

/-- Some variable gives the setting. -/
def Given (env : List (String × String)) (k : Setting) : Prop := ∃ v ∈ env, Environment.key? v.1 = some k.key

/-- An assignment is spread over variables and a file.  Variables have the texts of their settings, the file has the
other settings, and what it has for settings that variables give does not matter. -/
structure Spread (A : Assignment) (env : List (String × String)) (file : Value) : Prop where
  given : ∀ v ∈ env, ∀ key, Environment.key? v.1 = some key →
    (∃ k m, key = k.key ∧ A k = some m ∧ v.2 = m.asText) ∨ Foreign key
  others : ∀ k, ¬ Given env k → Written (file.at? k.path) (A k)
  /-- The file has no table of audiences without an audience. -/
  audiences : file.at? ["audiences"] ≠ none → ∃ k ∈ Setting.audiences, file.at? k.path ≠ none

variable {A : Assignment} {env : List (String × String)} {file v : Value}

theorem mem_keys {m : String × Value} : m ∈ Environment.keys env ↔
    ∃ v ∈ env, Environment.key? v.1 = some m.1 ∧ m.2 = .text v.2 := by
  obtain ⟨key, value⟩ := m
  simp only [Environment.keys, List.mem_filterMap, Option.map_eq_some_iff, Prod.mk.injEq]
  constructor
  · rintro ⟨v, hv, key', hk, rfl, rfl⟩
    exact ⟨v, hv, hk, rfl⟩
  · rintro ⟨v, hv, hk, rfl⟩
    exact ⟨v, hv, key, hk, rfl, rfl⟩

theorem Foreign.apart {key : String} (h : Foreign key) (k : Setting) : Apart k.path (Step.ofKey key) := by
  rw [← List.take_append_drop 1 k.path]
  exact (h k).append

theorem Foreign.ne_key {key : String} (h : Foreign key) (k : Setting) : key ≠ k.key := by
  rintro rfl
  have ha := h.apart k
  rw [k.ofKey_key] at ha
  exact not_apart_self ha

/-- A key in the environment sets a setting to its text, or parts from all settings. -/
theorem Spread.key_cases (h : Spread A env file) {m : String × Value} (hm : m ∈ Environment.keys env) :
    (∃ k a, m.1 = k.key ∧ A k = some a ∧ m.2 = .text a.asText) ∨ Foreign m.1 := by
  obtain ⟨v, hv, hk, hm⟩ := mem_keys.1 hm
  rcases h.given v hv m.1 hk with ⟨k, a, hkey, ha, ht⟩ | hf
  · exact .inl ⟨k, a, hkey, ha, by rw [hm, ht]⟩
  · exact .inr hf

theorem Spread.at?_of_not_given (h : Spread A env file) {k : Setting} (hk : ¬ Given env k) :
    (Value.setAll (Environment.keys env) file).at? k.path = file.at? k.path := by
  refine at?_setAll_of_apart (fun m hm => ?_) file
  rcases h.key_cases hm with ⟨k', a, hkey, -, -⟩ | hf
  · rw [hkey, k'.ofKey_key]
    refine Setting.apart ?_
    rintro rfl
    obtain ⟨v, hv, hkv, -⟩ := mem_keys.1 hm
    exact hk ⟨v, hv, hkv.trans (congrArg some hkey)⟩
  · exact hf.apart k

theorem Spread.at?_of_given (h : Spread A env file) {k : Setting} (hk : Given env k) :
    ∃ a, A k = some a ∧ (Value.setAll (Environment.keys env) file).at? k.path = some (.text a.asText) := by
  obtain ⟨v, hv, hkv⟩ := hk
  have hm : (k.key, Value.text v.2) ∈ Environment.keys env := mem_keys.2 ⟨v, hv, hkv, rfl⟩
  obtain ⟨a, ha⟩ : ∃ a, A k = some a := by
    rcases h.key_cases hm with ⟨k', a, hkey, ha, -⟩ | hf
    · cases Setting.key_injective hkey
      exact ⟨a, ha⟩
    · exact absurd rfl (hf.ne_key k)
  refine ⟨a, ha, at?_setAll_of_hit (fun m hm => ?_) ⟨_, hm, k.ofKey_key⟩ file⟩
  rcases h.key_cases hm with ⟨k', a', hkey, ha', ht⟩ | hf
  · by_cases hkk : k = k'
    · subst hkk
      obtain rfl : a' = a := Option.some.inj (ha'.symm.trans ha)
      exact .inl ⟨by rw [hkey, k.ofKey_key], ht⟩
    · right
      rw [hkey, k'.ofKey_key]
      exact Setting.apart hkk
  · exact .inr (hf.apart k)

/-- **Both sources together have what the assignment says.** -/
theorem Spread.written (h : Spread A env file) (k : Setting) :
    Written ((Value.setAll (Environment.keys env) file).at? k.path) (A k) := by
  by_cases hk : Given env k
  · obtain ⟨a, ha, hat⟩ := h.at?_of_given hk
    rw [ha, hat]
    exact writes_asText a
  · rw [h.at?_of_not_given hk]
    exact h.others k hk

theorem Spread.exists_audience (h : Spread A env file)
    (ha : (Value.setAll (Environment.keys env) file).at? ["audiences"] ≠ none) :
    ∃ k ∈ Setting.audiences, (Value.setAll (Environment.keys env) file).at? k.path ≠ none := by
  by_cases hg : ∃ k ∈ Setting.audiences, Given env k
  · obtain ⟨k, hk, hg⟩ := hg
    obtain ⟨a, -, hat⟩ := h.at?_of_given hg
    exact ⟨k, hk, by rw [hat]; exact Option.some_ne_none _⟩
  · have hfile : (Value.setAll (Environment.keys env) file).at? ["audiences"] = file.at? ["audiences"] := by
      refine at?_setAll_of_apart (fun m hm => ?_) file
      rcases h.key_cases hm with ⟨k, a, hkey, -, -⟩ | hf
      · obtain ⟨v, hv, hkv, -⟩ := mem_keys.1 hm
        rw [hkey, k.ofKey_key]
        exact Setting.apart_audiences fun hk => hg ⟨k, hk, v, hv, hkv.trans (congrArg some hkey)⟩
      · exact hf .dataAudience
    rw [hfile] at ha
    obtain ⟨k, hk, hat⟩ := h.audiences ha
    refine ⟨k, hk, ?_⟩
    rw [h.at?_of_not_given fun hgiven => hg ⟨k, hk, hgiven⟩]
    exact hat

/-! ## Variables for some settings -/

def Setting.all : List Setting := [.mode, .jwksUrl, .dataAudience, .jobsAudience, .provisioningAudience,
  .provisionerRole, .accessFile, .provisioners, .serviceKey, .serviceKeyFile, .keyLifetime, .fetchTimeout, .leeway]

theorem Setting.mem_all (k : Setting) : k ∈ all := by
  cases k <;> decide

/-- The name of the variable for a setting. -/
def Setting.name (k : Setting) : String := "DATASTORE_AUTH_" ++ "__".intercalate (k.path.map String.toUpper)

theorem Setting.key?_name (k : Setting) : Environment.key? k.name = some k.key := by
  cases k <;> decide +kernel

/-- Variables for the chosen settings, as far as these say something. -/
def Assignment.environment (A : Assignment) (chosen : Setting → Bool) : List (String × String) :=
  Setting.all.filterMap fun k => if chosen k then (A k).map fun m => (k.name, m.asText) else none

variable {chosen : Setting → Bool}

theorem Assignment.mem_environment {v : String × String} :
    v ∈ A.environment chosen ↔ ∃ k m, chosen k = true ∧ A k = some m ∧ v = (k.name, m.asText) := by
  simp only [environment, List.mem_filterMap]
  constructor
  · rintro ⟨k, -, h⟩
    split at h
    · rename_i hc
      obtain ⟨m, hm, rfl⟩ := Option.map_eq_some_iff.1 h
      exact ⟨k, m, hc, hm, rfl⟩
    · cases h
  · rintro ⟨k, m, hc, hm, rfl⟩
    exact ⟨k, k.mem_all, by rw [if_pos hc, hm, Option.map_some]⟩

/-- **Any choice of settings can stand in variables**, with the others in the file. -/
theorem spread_environment (hfile : ∀ k, (chosen k = true → A k = none) → Written (file.at? k.path) (A k))
    (ha : file.at? ["audiences"] ≠ none → ∃ k ∈ Setting.audiences, file.at? k.path ≠ none) :
    Spread A (A.environment chosen) file where
  given v hv key hk := by
    obtain ⟨k, m, -, hm, rfl⟩ := Assignment.mem_environment.1 hv
    exact .inl ⟨k, m, Option.some.inj (hk.symm.trans k.key?_name), hm, rfl⟩
  others k hk := by
    refine hfile k fun hc => ?_
    by_contra hne
    obtain ⟨m, hm⟩ := Option.ne_none_iff_exists'.1 hne
    exact hk ⟨_, Assignment.mem_environment.2 ⟨k, m, hc, hm, rfl⟩, k.key?_name⟩
  audiences := ha

/-! ## Values read back -/

theorem toLower_of_isDigit {c : Char} (h : c.isDigit = true) : c.toLower = c := by
  have hle : c.toNat ≤ 57 := by
    simp only [Char.isDigit, Bool.and_eq_true, decide_eq_true_eq, UInt32.le_iff_toNat_le] at h
    exact h.2
  refine dif_neg fun hA => ?_
  have hge : 65 ≤ c.toNat := UInt32.le_iff_toNat_le.1 hA.1
  omega

theorem word?_toString {n : Nat} (h : n < Number.wordLimit) : Value.word? (toString n) = some (UInt64.ofNat n) := by
  have hdigits : ((toString n).toList.isEmpty || !(toString n).toList.all Char.isDigit) = false := by
    have hne : (toString n).toList ≠ [] := fun he => Nat.toDigits_ne_nil (Nat.toList_repr.symm.trans he)
    rw [List.all_eq_true.2 fun c hc => Text.isDigit_of_mem_toString hc, List.isEmpty_eq_false_iff.2 hne]
    rfl
  unfold Value.word?
  split
  · rename_i ds he
    have hplus : Char.isDigit '+' = true := Text.isDigit_of_mem_toString (he ▸ List.mem_cons_self)
    cases hplus
  · simp only [hdigits, Bool.false_eq_true, if_false, Text.foldl_toString, h, if_true]

theorem natural?_toString {n : Nat} (h : n < Number.wordLimit) :
    Value.natural? (.text (toString n)) = some (UInt64.ofNat n) := by
  have hdigits : (toString n).toLower.toList.all Char.isDigit = true := by
    rw [String.toLower, String.toList_map, List.all_eq_true]
    intro c hc
    obtain ⟨d, hd, rfl⟩ := List.mem_map.1 hc
    have hd := Text.isDigit_of_mem_toString hd
    rw [toLower_of_isDigit hd, hd]
  have hword {ws : List String} (hws : ∀ w ∈ ws, w.toList.all Char.isDigit = false) : (toString n).toLower ∉ ws := by
    intro hm
    cases (hws _ hm).symm.trans hdigits
  have hyes : (toString n).toLower ∉ ["true", "on", "yes"] := hword (by decide)
  have hno : (toString n).toLower ∉ ["false", "off", "no"] := hword (by decide)
  simp only [Value.natural?, hyes, hno, if_false, word?_toString h]

theorem splitAll_commas {ids : List String} (hne : ids ≠ []) (hplain : ∀ id ∈ ids, ',' ∉ id.toList) :
    Text.splitAll ',' (",".intercalate ids).toList = ids.map String.toList := by
  have hcomma : ",".toList = [','] := rfl
  rw [String.toList_intercalate, hcomma]
  exact Text.splitAll_intercalate (mt List.map_eq_nil_iff.1 hne) (List.forall_mem_map.2 hplain)

/-- Users come out of the one text as they went in. -/
theorem entries_intercalate (l : Users) : Raw.entries (",".intercalate l.ids) = l.ids := by
  have htrim : (l.ids.map String.toList).map Text.trim = l.ids.map String.toList := by
    rw [List.map_map]
    exact List.map_congr_left fun id hid => Text.trim_eq_iff.2 (l.plain id hid).2.2
  have hfilled : (l.ids.map String.toList).filter (fun cs => !cs.isEmpty) = l.ids.map String.toList := by
    refine List.filter_eq_self.2 fun cs hcs => ?_
    obtain ⟨id, hid, rfl⟩ := List.mem_map.1 hcs
    simpa using (l.plain id hid).1
  rw [Raw.entries, splitAll_commas l.nonempty fun id hid => (l.plain id hid).2.1, htrim, hfilled, List.map_map]
  exact (List.map_congr_left fun id _ => String.ofList_toList).trans (List.map_id _)

/-- The word of 64 bits that a number is. -/
def word (n : Kind.number.Meaning) : UInt64 := UInt64.ofNat n.val

theorem text?_of_writes {v : Value} {s : Kind.text.Meaning} (h : Writes v s) : v.text? = some s := by
  obtain rfl : v = .text s := h
  rfl

theorem natural?_of_writes {v : Value} {n : Kind.number.Meaning} (h : Writes v n) : v.natural? = some (word n) := by
  rcases h with rfl | rfl
  · simp only [Value.natural?, Int.natCast_nonneg, if_true, Int.toNat_natCast]
    rfl
  · exact natural?_toString (Nat.lt_trans n.property (by decide))

theorem users?_of_writes {v : Value} {l : Kind.users.Meaning} (h : Writes v l) : Raw.users? v = some (Users.ids l) := by
  rcases h with rfl | rfl
  · have hmap : ∀ ids : List String, (ids.map Value.text).mapM Raw.string? = some ids := by
      intro ids
      induction ids with
      | nil => rfl
      | cons id ids ih => simp [Raw.string?, ih]
    exact hmap _
  · exact congrArg some (entries_intercalate l)

theorem Writes.ne_nothing {kind : Kind} {v : Value} {m : kind.Meaning} (h : Writes v m) : v ≠ .nothing := by
  rintro rfl
  cases kind with
  | text => cases h
  | number => rcases h with h | h <;> cases h
  | users => rcases h with h | h <;> cases h

theorem Raw.optional?_some {α : Type} {read : Value → Option α} {v : Value} (h : v ≠ .nothing) :
    Raw.optional? read (some v) = (read v).map some := by
  cases v with
  | nothing => exact absurd rfl h
  | _ => rfl

section
variable {kind : Kind} {v? : Option Value} {m? : Option kind.Meaning} {α : Type} {read : Value → Option α}
  {f : kind.Meaning → α}

/-- A setting that may be absent is read as what it says. -/
theorem optional?_of_written (h : Written v? m?) (hread : ∀ v m, Writes v m → read v = some (f m)) :
    Raw.optional? read v? = some (m?.map f) := by
  rcases h.cases with ⟨rfl, rfl⟩ | ⟨v, m, rfl, rfl, hw⟩
  · rfl
  · rw [Raw.optional?_some hw.ne_nothing, hread v m hw, Option.map_some, Option.map_some]

theorem defaulted?_of_written (h : Written v? m?) (hread : ∀ v m, Writes v m → read v = some (f m)) (d : α) :
    Raw.defaulted? d read v? = some (m?.elim d f) := by
  rcases h.cases with ⟨rfl, rfl⟩ | ⟨v, m, rfl, rfl, hw⟩
  · rfl
  · exact hread v m hw

end

/-! ## The settings of an assignment -/

/-- All audiences or none; some without the others are not readable. -/
def allOrNone : (data jobs provisioning : Option String) → Option (Option Audiences)
  | none, none, none => some none
  | some d, some j, some p => some (some ⟨d, j, p⟩)
  | _, _, _ => none

namespace Assignment

def audiences? (A : Assignment) : Option (Option Audiences) :=
  allOrNone (A .dataAudience) (A .jobsAudience) (A .provisioningAudience)

/-- The settings that an assignment comes to. -/
def raw? (A : Assignment) : Option Raw :=
  A.audiences?.map fun audiences => {
    mode := (A .mode).getD Raw.defaultMode
    jwksUrl := A .jwksUrl
    audiences
    provisionerRole := A .provisionerRole
    accessFile := A .accessFile
    provisioners := (A .provisioners).elim [] Users.ids
    serviceKey := A .serviceKey
    serviceKeyFile := A .serviceKeyFile
    keyLifetime := (A .keyLifetime).map word
    fetchTimeout := (A .fetchTimeout).map word
    leeway := (A .leeway).elim 0 word }

/-- What loading comes to. -/
def outcome (A : Assignment) (look : String → Found) : Except SettingsError Configuration :=
  A.raw?.elim (.error .unparsable) (check look)

end Assignment

theorem optional?_text {v? : Option Value} {s? : Option Kind.text.Meaning} (h : Written v? s?) :
    Raw.optional? Value.text? v? = some s? := by
  rw [optional?_of_written h fun _ _ => text?_of_writes]
  exact congrArg some Option.map_id'

theorem defaulted?_text {v? : Option Value} {s? : Option Kind.text.Meaning} (h : Written v? s?) (d : String) :
    Raw.defaulted? d Value.text? v? = some (s?.getD d) := by
  rw [defaulted?_of_written h (fun _ _ => text?_of_writes) d]
  cases s? <;> rfl

theorem at?_singleton (name : String) (v : Value) : v.at? [name] = v.get? name := by
  simp only [Value.at?]
  cases v.get? name <;> rfl

theorem bind_text? {v? : Option Value} {s? : Option Kind.text.Meaning} (h : Written v? s?) :
    v?.bind Value.text? = s? := by
  rcases h.cases with ⟨rfl, rfl⟩ | ⟨v, s, rfl, rfl, hw⟩
  · rfl
  · exact text?_of_writes hw

theorem audiences?_table {fs : List (String × Value)} {data? jobs? provisioning? : Option String}
    (hd : (fs.lookup "data").bind Value.text? = data?) (hj : (fs.lookup "jobs").bind Value.text? = jobs?)
    (hp : (fs.lookup "provisioning").bind Value.text? = provisioning?)
    (h : ¬ (data? = none ∧ jobs? = none ∧ provisioning? = none)) :
    Raw.optional? Raw.audiences? (some (.table fs)) = allOrNone data? jobs? provisioning? := by
  have htable : Value.table fs ≠ .nothing := nofun
  rw [Raw.optional?_some htable, Raw.audiences?]
  dsimp only
  rw [hd, hj, hp]
  cases data? <;> cases jobs? <;> cases provisioning? <;> first | rfl | exact absurd ⟨rfl, rfl, rfl⟩ h

/-- Audiences are read when all are there, and none are when there is no table of them. -/
theorem audiences?_of_written (hw : ∀ k : Setting, Written (v.at? k.path) (A k))
    (ha : v.at? ["audiences"] ≠ none → ∃ k ∈ Setting.audiences, v.at? k.path ≠ none) :
    Raw.optional? Raw.audiences? (v.get? "audiences") = A.audiences? := by
  have hat (name : String) : v.at? ["audiences", name] = (v.get? "audiences").bind fun w => w.get? name := by
    rw [Value.at?]
    exact congrArg _ (funext (at?_singleton name))
  have hd := bind_text? (hw .dataAudience)
  have hj := bind_text? (hw .jobsAudience)
  have hp := bind_text? (hw .provisioningAudience)
  simp only [Setting.path, hat] at hd hj hp
  rw [at?_singleton] at ha
  cases hg : v.get? "audiences" with
  | none =>
    rw [hg] at hd hj hp
    rw [Assignment.audiences?, ← hd, ← hj, ← hp]
    rfl
  | some w =>
    -- An audience is there, so this is a table.
    obtain ⟨k, hk, hne⟩ := ha (by rw [hg]; exact Option.some_ne_none w)
    have hsaid : A k ≠ none := by
      rcases (hw k).cases with ⟨hn, -⟩ | ⟨u, m, -, hm, -⟩
      · exact absurd hn hne
      · rw [hm]
        exact Option.some_ne_none m
    obtain ⟨name, hname⟩ : ∃ name, w.get? name ≠ none := by
      simp only [Setting.audiences, List.mem_cons, List.not_mem_nil, or_false] at hk
      rcases hk with rfl | rfl | rfl <;> exact ⟨_, by simpa only [Setting.path, hat, hg, Option.bind_some] using hne⟩
    obtain ⟨fs, rfl⟩ : ∃ fs, w = .table fs := by
      cases w with
      | table fs => exact ⟨fs, rfl⟩
      | _ => exact absurd rfl hname
    rw [hg, Option.bind_some, get?_table] at hd hj hp
    refine audiences?_table hd hj hp fun hnone => ?_
    simp only [Setting.audiences, List.mem_cons, List.not_mem_nil, or_false] at hk
    rcases hk with rfl | rfl | rfl
    · exact hsaid hnone.1
    · exact hsaid hnone.2.1
    · exact hsaid hnone.2.2

theorem ofValue?_of_written (hw : ∀ k : Setting, Written (v.at? k.path) (A k))
    (ha : v.at? ["audiences"] ≠ none → ∃ k ∈ Setting.audiences, v.at? k.path ≠ none) : Raw.ofValue? v = A.raw? := by
  have hmode := defaulted?_text (hw .mode) Raw.defaultMode
  have hurl := optional?_text (hw .jwksUrl)
  have hrole := optional?_text (hw .provisionerRole)
  have hfile := optional?_text (hw .accessFile)
  have hkey := optional?_text (hw .serviceKey)
  have hkeyFile := optional?_text (hw .serviceKeyFile)
  have husers := defaulted?_of_written (hw .provisioners) (fun _ _ => users?_of_writes) []
  have hlifetime := optional?_of_written (hw .keyLifetime) fun _ _ => natural?_of_writes
  have htimeout := optional?_of_written (hw .fetchTimeout) fun _ _ => natural?_of_writes
  have hleeway := defaulted?_of_written (hw .leeway) (fun _ _ => natural?_of_writes) 0
  simp only [Setting.path, at?_singleton] at hmode hurl hrole hfile hkey hkeyFile husers hlifetime htimeout hleeway
  rw [Raw.ofValue?, hmode, hurl, audiences?_of_written hw ha, hrole, hfile, husers, hkey, hkeyFile, hlifetime, htimeout,
    hleeway, Assignment.raw?]
  cases A.audiences? <;> rfl

/-! ## Loading -/

/-- The value that a file gives, empty without a file. -/
def fileValue (look : String → Found) (path : Option String) : Except SettingsError Value :=
  (path.elim (.ok []) (fileKeys look)).map fun keys => Value.setAll keys (.table [])

variable {look look' : String → Found} {env' : List (String × String)} {path path' : Option String} {file' : Value}

theorem fileValue_of_file {p : String} {bytes : List UInt8} {f : Format} {keys : List (String × Value)}
    (hlook : look p = .file bytes) (hformat : (Directory.extension? p).bind Format.ofExtension? = some f)
    (hkeys : f.keys? (lenientText bytes) = some keys) :
    fileValue look (some p) = .ok (Value.setAll keys (.table [])) := by
  have hmissing : look p ≠ .missing := by rw [hlook]; nofun
  have hfirst : firstFile? look (candidates p f) = some bytes := by rw [candidates, firstFile?, hlook]
  have hread : fileKeys look p = .ok keys := by
    simp only [fileKeys, hmissing, if_false, hformat, hfirst, Option.bind_some, hkeys]
  rw [fileValue, Option.elim_some, hread]
  rfl

theorem raw_of_fileValue (h : fileValue look path = .ok file) : raw look env path =
    (Raw.ofValue? (Value.setAll (Environment.keys env) file)).elim (.error .unparsable) .ok := by
  have hsources : sources look env path = (fileValue look path).map (Value.setAll (Environment.keys env)) := by
    unfold sources fileValue
    cases path.elim (.ok []) (fileKeys look) <;> rfl
  rw [raw_eq_bind, hsources, h]
  rfl

/-- **Loading does what the assignment says**, wherever its settings stand. -/
theorem load_of_spread (hfile : fileValue look path = .ok file) (h : Spread A env file) :
    load look env path = A.outcome look := by
  rw [load, raw_of_fileValue hfile, ofValue?_of_written h.written h.exists_audience, Assignment.outcome]
  cases A.raw? with
  | none => rfl
  | some r => simp only [Option.elim_some, bind, Except.bind]

/-- Checks look up the files that the settings name, and no others. -/
theorem check_congr {r : Raw} (hkey : ∀ p, r.serviceKeyFile = some p → look p = look' p)
    (haccess : ∀ p, r.accessFile = some p → look p = look' p) : check look r = check look' r := by
  have hk (mode : Mode) : checkServiceKey look mode r.serviceKey r.serviceKeyFile =
      checkServiceKey look' mode r.serviceKey r.serviceKeyFile := by
    cases hf : r.serviceKeyFile with
    | none => cases r.serviceKey <;> rfl
    | some p =>
      have hread : readKeyFile look p = readKeyFile look' p := by simp only [readKeyFile, readText, hkey p hf]
      cases r.serviceKey with
      | some key => rfl
      | none => simp only [checkServiceKey, hread]
  have ha : checkProvisioners look r.provisioners r.accessFile =
      checkProvisioners look' r.provisioners r.accessFile := by
    cases hf : r.accessFile with
    | none => rfl
    | some p =>
      have hread : readAccessFile look p = readAccessFile look' p := by
        simp only [readAccessFile, readText, haccess p hf]
      simp only [checkProvisioners, hread]
  simp only [check, hk, ha]

theorem Assignment.outcome_congr (hkey : ∀ p, A .serviceKeyFile = some p → look p = look' p)
    (haccess : ∀ p, A .accessFile = some p → look p = look' p) : A.outcome look = A.outcome look' := by
  unfold outcome raw?
  cases A.audiences? with
  | none => rfl
  | some audiences => exact check_congr hkey haccess

/-- **Where settings stand does not matter**: one assignment loads to the same configuration, or the same error. -/
theorem load_eq_of_spread (hfile : fileValue look path = .ok file) (h : Spread A env file)
    (hfile' : fileValue look' path' = .ok file') (h' : Spread A env' file')
    (hkey : ∀ p, A .serviceKeyFile = some p → look p = look' p)
    (haccess : ∀ p, A .accessFile = some p → look p = look' p) : load look env path = load look' env' path' := by
  rw [load_of_spread hfile h, load_of_spread hfile' h', Assignment.outcome_congr hkey haccess]

/-! ### One assignment in two ways -/

def twoUsers : Users := ⟨["u", "v"], by decide, by
  intro id hid
  simp only [List.mem_cons, List.not_mem_nil, or_false] at hid
  rcases hid with rfl | rfl <;> exact ⟨by decide, by decide, Text.trim_eq_iff.1 (by decide)⟩⟩

def offAssignment : Assignment
  | .mode => some "OFF"
  | .dataAudience => some "d"
  | .jobsAudience => some "j"
  | .provisioningAudience => some "p"
  | .provisioners => some twoUsers
  | .leeway => some ⟨60, by decide⟩
  | _ => none

/-- A file with some settings of the assignment, and with another mode, another audience and another user. -/
def partText : String := "\x7b\"mode\":\"FULL\",\"audiences\":\x7b\"data\":\"x\",\"jobs\":\"j\"\x7d," ++
  "\"provisioner_allowlist\":[\"w\"],\"leeway_secs\":60\x7d"

def partTree : Json.Tree := .object [(some "mode", .text (some "FULL")),
  (some "audiences", .object [(some "data", .text (some "x")), (some "jobs", .text (some "j"))]),
  (some "provisioner_allowlist", .list [.text (some "w")]), (some "leeway_secs", .number ⟨false, [6, 0], [], none⟩)]

def partKeys : List (String × Value) := [("mode", .text "FULL"),
  ("audiences", .table [("data", .text "x"), ("jobs", .text "j")]),
  ("provisioner_allowlist", .list [.text "w"]), ("leeway_secs", .integer 60)]

def onlyPartFile (path : String) : Found := if path = "auth.json" then .file (Text.encodeString partText) else .missing

theorem fileValue_onlyPartFile : fileValue onlyPartFile (some "auth.json") = .ok (.table partKeys) := by
  have htext : lenientText (Text.encodeString partText) = partText := by decide +kernel
  have htree : Json.Tree.ofBytes? (Text.encodeString partText) = some partTree := by cbv
  have hjson : Json.ofString? partText = some (.object [("mode", .string "FULL"),
      ("audiences", .object [("data", .string "x"), ("jobs", .string "j")]),
      ("provisioner_allowlist", .array [.string "w"]), ("leeway_secs", .number (.integer 60))]) := by
    have hsixty : Json.Numeral.number? ⟨false, [6, 0], [], none⟩ = some (.integer 60) := by decide
    rw [Json.ofString?, Json.ofBytes?, htree]
    simp [partTree, Json.depthLimit, Json.Tree.value?, Json.memberValues?, Json.listValues?, hsixty, Json.ofMembers,
      Json.put]
  have hkeys : Format.keys? .json partText = some partKeys := by
    simp only [Format.keys?, hjson]
    rfl
  have hfile : Value.setAll partKeys (.table []) = .table partKeys := by cbv
  rw [fileValue_of_file (if_pos rfl) (f := .json) (by decide +kernel) (htext.symm ▸ hkeys), hfile]

/-- The variables that go with the file. -/
def partVariables : List (String × String) :=
  [("DATASTORE_AUTH_MODE", "OFF"), ("DATASTORE_AUTH_AUDIENCES__DATA", "d"),
    ("DATASTORE_AUTH_AUDIENCES__PROVISIONING", "p"), ("DATASTORE_AUTH_PROVISIONER_ALLOWLIST", "u,v")]

/-- Variables with all settings. -/
def wholeVariables : List (String × String) :=
  [("DATASTORE_AUTH_MODE", "OFF"), ("DATASTORE_AUTH_AUDIENCES__DATA", "d"), ("DATASTORE_AUTH_AUDIENCES__JOBS", "j"),
    ("DATASTORE_AUTH_AUDIENCES__PROVISIONING", "p"), ("DATASTORE_AUTH_PROVISIONER_ALLOWLIST", "u,v"),
    ("DATASTORE_AUTH_LEEWAY_SECS", "60")]

theorem spread_partKeys : Spread offAssignment partVariables (.table partKeys) := by
  have henv : partVariables = offAssignment.environment fun k =>
      k ∈ [.mode, .dataAudience, .provisioningAudience, .provisioners] := by decide +kernel
  rw [henv]
  refine spread_environment (fun k hk => ?_) fun _ => ⟨.dataAudience, by decide, nofun⟩
  cases k with
  | mode => exact absurd (hk (by decide)) nofun
  | dataAudience => exact absurd (hk (by decide)) nofun
  | provisioningAudience => exact absurd (hk (by decide)) nofun
  | provisioners => exact absurd (hk (by decide)) nofun
  | jobsAudience => rfl
  | leeway => exact .inl rfl
  | _ => trivial

theorem spread_nothing : Spread offAssignment wholeVariables (.table []) := by
  have henv : wholeVariables = offAssignment.environment fun _ => true := by decide +kernel
  rw [henv]
  refine spread_environment (fun k hk => ?_) fun h => absurd rfl h
  rw [hk rfl]
  cases k <;> trivial

/-- A file that variables go over, and variables alone. -/
theorem load_partFile_eq : load onlyPartFile partVariables (some "auth.json") =
      load (fun _ => .missing) wholeVariables none ∧
    load (fun _ => .missing) wholeVariables none =
      .ok ⟨.off, none, ⟨"d", "j", "p"⟩, "role/dataadministrator", ⟨["u", "v"]⟩, "", 3000, 10, 60⟩ := by
  refine ⟨load_eq_of_spread fileValue_onlyPartFile spread_partKeys rfl spread_nothing nofun nofun, ?_⟩
  rw [load_of_spread rfl spread_nothing]
  rfl

end DatastoreAccess.Settings

import Mathlib
import DatastoreAccess.Proofs.Request.WireForms
/-!
# Proofs.Request.RawTokens — what of a credential reaches the checks

Behind the reading of a request nothing is taken off a token again.  So a token should be raw there: not empty, without
white space around it, and not behind the scheme any more (`Raw`).  A token is, unless the scheme stood twice in front of
it.  A user-info token is what its cookie has inside the quotes, whatever that is; it is raw only when that is.
Together these are all exceptions (`onlyRaw_iff`), and there are some (`userInfo_not_raw`).
-/
namespace DatastoreAccess.Credentials

open Text (Unpadded TrimsTo)

/-- A text that begins with the scheme and a space. -/
def Schemed (cs : List Char) : Prop := ∃ scheme rest, IsBearer scheme ∧ cs = scheme ++ ' ' :: rest

/-- A token as the checks expect it. -/
structure Raw (cs : List Char) : Prop where
  nonempty : cs ≠ []
  unpadded : Unpadded cs
  schemeless : ¬ Schemed cs

/-- The text that the token of a request is taken from: the field for it, or else the cookie. -/
def TokenSource (hs : Headers) (l : List Char) : Prop :=
  (Headers.first? hs authorizationField = some l ∧ token? l ≠ none) ∨
    ((Headers.first? hs authorizationField).bind token? = none ∧ cookie? hs authorizationCookie = some l)

/-- A text in which the scheme stands twice in front. -/
def Doubled (l : List Char) : Prop :=
  ∃ scheme rest inner, IsBearer scheme ∧ TrimsTo l (scheme ++ ' ' :: rest) ∧ TrimsTo (' ' :: rest) inner ∧ Schemed inner

/-! ## Tokens -/

theorem afterScheme?_eq_some {v rest : List Char} : afterScheme? v = some rest ↔
    ∃ scheme, IsBearer scheme ∧ v = scheme ++ rest ∧ (rest = [] ∨ rest.head? = some ' ') := by
  constructor
  · intro h
    rw [afterScheme?, Option.ite_none_right_eq_some, Option.some.injEq, Bool.and_eq_true, Bool.or_eq_true,
      List.isEmpty_iff, decide_eq_true_eq] at h
    obtain ⟨⟨hscheme, hrest⟩, rfl⟩ := h
    exact ⟨v.take 6, of_decide_eq_true hscheme, (List.take_append_drop 6 v).symm, hrest⟩
  · rintro ⟨scheme, hscheme, rfl, hrest⟩
    exact afterScheme?_of_scheme hscheme hrest

theorem afterScheme?_eq_none {v : List Char} : afterScheme? v = none ↔ ¬ IsBearer v ∧ ¬ Schemed v := by
  rw [Option.eq_none_iff_forall_ne_some]
  constructor
  · intro h
    refine ⟨fun hv => h [] (afterScheme?_eq_some.2 ⟨v, hv, by simp, .inl rfl⟩), ?_⟩
    rintro ⟨scheme, rest, hscheme, rfl⟩
    exact h (' ' :: rest) (afterScheme?_eq_some.2 ⟨scheme, hscheme, rfl, .inr rfl⟩)
  · rintro ⟨hbare, hschemed⟩ rest h
    obtain ⟨scheme, hscheme, rfl, rfl | hhead⟩ := afterScheme?_eq_some.1 h
    · rw [List.append_nil] at hbare
      exact hbare hscheme
    · obtain ⟨tail, rfl⟩ := List.head?_eq_some_iff.1 hhead
      exact hschemed ⟨scheme, tail, hscheme, rfl⟩

theorem nonempty?_eq_some {cs t : List Char} : nonempty? cs = some t ↔ t ≠ [] ∧ cs = t := by
  unfold nonempty?
  cases cs with
  | nil => simp [eq_comm]
  | cons c cs =>
    rw [if_neg (by simp), Option.some.injEq]
    constructor
    · rintro rfl
      exact ⟨List.cons_ne_nil c cs, rfl⟩
    · exact And.right

/-- **What is read as a token**: a text without the scheme, or what stands behind it. -/
theorem token?_eq_some {l t : List Char} : token? l = some t ↔ t ≠ [] ∧
    (TrimsTo l t ∧ ¬ IsBearer t ∧ ¬ Schemed t ∨
      ∃ scheme rest, IsBearer scheme ∧ TrimsTo l (scheme ++ ' ' :: rest) ∧ TrimsTo (' ' :: rest) t) := by
  unfold token?
  rw [nonempty?_eq_some, and_congr_right_iff]
  intro hne
  simp only [← Text.trim_eq_iff]
  cases hafter : afterScheme? (Text.trim l) with
  | none =>
    obtain ⟨hbare, hschemed⟩ := afterScheme?_eq_none.1 hafter
    constructor
    · rintro rfl
      exact .inl ⟨rfl, hbare, hschemed⟩
    · rintro (⟨h, -⟩ | ⟨scheme, rest, hscheme, h, -⟩)
      · exact h
      · exact absurd ⟨scheme, rest, hscheme, h⟩ hschemed
  | some rest =>
    constructor
    · rintro rfl
      obtain ⟨scheme, hscheme, hl, rfl | hhead⟩ := afterScheme?_eq_some.1 hafter
      · exact absurd rfl hne
      · obtain ⟨tail, rfl⟩ := List.head?_eq_some_iff.1 hhead
        exact .inr ⟨scheme, tail, hscheme, hl, rfl⟩
    · rintro (⟨rfl, hbare, hschemed⟩ | ⟨scheme, tail, hscheme, hl, rfl⟩)
      · cases hafter.symm.trans (afterScheme?_eq_none.2 ⟨hbare, hschemed⟩)
      · have hagain := afterScheme?_eq_some.2 ⟨scheme, hscheme, hl, .inr rfl⟩
        rw [Option.some.inj (hafter.symm.trans hagain)]
        rfl

theorem unpadded_of_token? {l t : List Char} (h : token? l = some t) : t ≠ [] ∧ Unpadded t := by
  obtain ⟨hne, ⟨htrim, -⟩ | ⟨scheme, rest, -, -, htrim⟩⟩ := token?_eq_some.1 h
  · exact ⟨hne, htrim.unpadded⟩
  · exact ⟨hne, htrim.unpadded⟩

theorem token?_of_doubled {l : List Char} (h : Doubled l) : ∃ t, token? l = some t ∧ Schemed t := by
  obtain ⟨scheme, rest, inner, hscheme, hl, htrim, hs⟩ := h
  have hne : inner ≠ [] := by
    obtain ⟨scheme, rest, -, rfl⟩ := hs
    simp
  exact ⟨inner, token?_eq_some.2 ⟨hne, .inr ⟨scheme, rest, hscheme, hl, htrim⟩⟩, hs⟩

/-- A token is raw unless the scheme stood twice in front of it. -/
theorem raw_of_token? {l t : List Char} (h : token? l = some t) (once : ¬ Doubled l) : Raw t where
  nonempty := (unpadded_of_token? h).1
  unpadded := (unpadded_of_token? h).2
  schemeless := by
    intro hs
    obtain ⟨-, ⟨-, -, hschemed⟩ | ⟨scheme, rest, hscheme, hl, htrim⟩⟩ := token?_eq_some.1 h
    · exact hschemed hs
    · exact once ⟨scheme, rest, t, hscheme, hl, htrim, hs⟩

theorem map_ofList_eq_some {o : Option (List Char)} {t : String} : o.map String.ofList = some t ↔ o = some t.toList := by
  rw [Option.map_eq_some_iff]
  constructor
  · rintro ⟨cs, rfl, rfl⟩
    rw [String.toList_ofList]
  · rintro rfl
    exact ⟨t.toList, rfl, String.ofList_toList⟩

theorem token_eq_some {hs : Headers} {t : String} :
    (ofHeaders hs).token = some t ↔ ∃ l, TokenSource hs l ∧ token? l = some t.toList := by
  refine map_ofList_eq_some.trans ?_
  cases hfield : (Headers.first? hs authorizationField).bind token? with
  | some cs =>
    obtain ⟨l, hl, hcs⟩ := Option.bind_eq_some_iff.1 hfield
    have hsource (l' : List Char) : TokenSource hs l' ↔ l' = l := by
      constructor
      · rintro (⟨hl', -⟩ | ⟨hnone, -⟩)
        · exact Option.some.inj (hl'.symm.trans hl)
        · cases hfield.symm.trans hnone
      · rintro rfl
        exact .inl ⟨hl, by simp [hcs]⟩
    simp only [hsource, exists_eq_left, hcs, Option.some_or]
  | none =>
    rw [Option.none_or, Option.bind_eq_some_iff]
    refine exists_congr fun l => and_congr_left fun htoken => ?_
    constructor
    · intro hcookie
      exact .inr ⟨hfield, hcookie⟩
    · rintro (⟨hl, hsome⟩ | ⟨-, hcookie⟩)
      · rw [hl, Option.bind_some] at hfield
        exact absurd hfield hsome
      · exact hcookie

/-! ## User-info tokens -/

theorem userInfo_eq_some {hs : Headers} {u : String} :
    (ofHeaders hs).userInfo = some u ↔ u ≠ "" ∧ cookie? hs userInfoCookie = some u.toList := by
  refine map_ofList_eq_some.trans ?_
  simp only [Option.bind_eq_some_iff, nonempty?_eq_some, ne_eq, String.toList_eq_nil_iff]
  constructor
  · rintro ⟨v, hv, hne, rfl⟩
    exact ⟨hne, hv⟩
  · rintro ⟨hne, hv⟩
    exact ⟨_, hv, hne, rfl⟩

/-! ## Both -/

/-- Only raw tokens come out of a request: every credential that is there is raw, a user-info cookie of blanks gives none,
and one with the scheme gives what stands behind it. -/
structure OnlyRaw (hs : Headers) : Prop where
  token : ∀ t, (ofHeaders hs).token = some t → Raw t.toList
  userInfo : ∀ u, (ofHeaders hs).userInfo = some u → Raw u.toList
  blank : ∀ v, cookie? hs userInfoCookie = some v → (∀ c ∈ v, Text.isBlank c = true) → (ofHeaders hs).userInfo = none
  schemed : ∀ v scheme rest, cookie? hs userInfoCookie = some v → IsBearer scheme →
    TrimsTo v (scheme ++ ' ' :: rest) → ∃ u, (ofHeaders hs).userInfo = some u ∧ TrimsTo (' ' :: rest) u.toList

theorem Raw.not_blank {v : List Char} (h : Raw v) : ¬ ∀ c ∈ v, Text.isBlank c = true := by
  intro hall
  cases v with
  | nil => exact h.nonempty rfl
  | cons c v =>
    have hc := hall c List.mem_cons_self
    rw [h.unpadded.starts c rfl] at hc
    cases hc

theorem Raw.not_trimsTo {v scheme rest : List Char} (h : Raw v) (hscheme : IsBearer scheme) :
    ¬ TrimsTo v (scheme ++ ' ' :: rest) := by
  intro htrim
  have hself : TrimsTo v v := Text.trimsTo_self_iff.2 h.unpadded
  rw [← Text.trim_eq_iff] at htrim hself
  exact h.schemeless ⟨scheme, rest, hscheme, hself.symm.trans htrim⟩

theorem OnlyRaw.not_doubled {hs : Headers} (h : OnlyRaw hs) {l : List Char} (hl : TokenSource hs l) : ¬ Doubled l := by
  intro hd
  obtain ⟨t, ht, hschemed⟩ := token?_of_doubled hd
  have htoken : (ofHeaders hs).token = some (String.ofList t) :=
    token_eq_some.2 ⟨l, hl, by rw [String.toList_ofList, ht]⟩
  have hraw := h.token _ htoken
  rw [String.toList_ofList] at hraw
  exact hraw.schemeless hschemed

theorem OnlyRaw.value {hs : Headers} (h : OnlyRaw hs) {v : List Char} (hv : cookie? hs userInfoCookie = some v) :
    v = [] ∨ Raw v := by
  by_cases hne : v = []
  · exact .inl hne
  · have hu : (ofHeaders hs).userInfo = some (String.ofList v) :=
      userInfo_eq_some.2 ⟨by simpa using hne, by rw [String.toList_ofList, hv]⟩
    have hraw := h.userInfo _ hu
    rw [String.toList_ofList] at hraw
    exact .inr hraw

theorem onlyRaw_of {hs : Headers} (once : ∀ l, TokenSource hs l → ¬ Doubled l)
    (value : ∀ v, cookie? hs userInfoCookie = some v → v = [] ∨ Raw v) : OnlyRaw hs where
  token t ht := by
    obtain ⟨l, hl, ht⟩ := token_eq_some.1 ht
    exact raw_of_token? ht (once l hl)
  userInfo u hu := by
    obtain ⟨hne, hv⟩ := userInfo_eq_some.1 hu
    exact (value _ hv).resolve_left (by simpa using hne)
  blank v hv hblank := by
    rcases value v hv with rfl | hraw
    · refine Option.eq_none_iff_forall_ne_some.2 fun u hu => ?_
      obtain ⟨hne, hu⟩ := userInfo_eq_some.1 hu
      rw [hv, Option.some.injEq, eq_comm, String.toList_eq_nil_iff] at hu
      exact hne hu
    · exact absurd hblank hraw.not_blank
  schemed v scheme rest hv hscheme htrim := by
    rcases value v hv with rfl | hraw
    · obtain ⟨⟨a, b, hab, -, -⟩, -, -⟩ := htrim
      simp at hab
    · exact absurd htrim (hraw.not_trimsTo hscheme)

/-- **When only raw tokens come out of a request**: the scheme does not stand twice in front of the token, and the value of
the user-info cookie is raw or empty.  In every case a token is not empty and has no white space around it, and a user-info
token is the value of its cookie, as it stands inside the quotes. -/
theorem onlyRaw_iff (hs : Headers) :
    (OnlyRaw hs ↔ (∀ l, TokenSource hs l → ¬ Doubled l) ∧
      ∀ v, cookie? hs userInfoCookie = some v → v = [] ∨ Raw v) ∧
    (∀ t, (ofHeaders hs).token = some t → t ≠ "" ∧ Unpadded t.toList) ∧
    ∀ u, (ofHeaders hs).userInfo = some u ↔ u ≠ "" ∧ cookie? hs userInfoCookie = some u.toList := by
  refine ⟨⟨fun h => ⟨fun l hl => h.not_doubled hl, fun v hv => h.value hv⟩, fun ⟨once, value⟩ => onlyRaw_of once value⟩,
    fun t ht => ?_, fun u => userInfo_eq_some⟩
  obtain ⟨l, -, ht⟩ := token_eq_some.1 ht
  obtain ⟨hne, hunpadded⟩ := unpadded_of_token? ht
  exact ⟨by simpa using hne, hunpadded⟩

/-- A request whose user-info cookie has this value. -/
def userInfoHeaders (value : String) : Headers := [⟨cookieField, Text.encodeString ("user-info=" ++ value)⟩]

/-- A user-info token keeps its scheme and the blanks inside its quotes, and a token the second of two schemes. -/
theorem userInfo_not_raw :
    (ofHeaders (userInfoHeaders "Bearer abc")).userInfo = some "Bearer abc" ∧
    (ofHeaders (userInfoHeaders "\" \"")).userInfo = some " " ∧
    (ofHeaders [⟨authorizationField, Text.encodeString "Bearer Bearer abc"⟩]).token = some "Bearer abc" ∧
    ¬ OnlyRaw (userInfoHeaders "Bearer abc") ∧ ¬ OnlyRaw (userInfoHeaders "\" \"") ∧
    ¬ OnlyRaw [⟨authorizationField, Text.encodeString "Bearer Bearer abc"⟩] := by
  have hscheme : (ofHeaders (userInfoHeaders "Bearer abc")).userInfo = some "Bearer abc" := by cbv
  have hblank : (ofHeaders (userInfoHeaders "\" \"")).userInfo = some " " := by cbv
  have htwice : (ofHeaders [⟨authorizationField, Text.encodeString "Bearer Bearer abc"⟩]).token = some "Bearer abc" := by cbv
  have hschemed : Schemed "Bearer abc".toList := ⟨"Bearer".toList, "abc".toList, by decide, by decide⟩
  refine ⟨hscheme, hblank, htwice, fun h => ?_, fun h => ?_, fun h => ?_⟩
  · exact (h.userInfo _ hscheme).schemeless hschemed
  · exact (h.userInfo _ hblank).not_blank (by simp [Text.isBlank])
  · exact (h.token _ htwice).schemeless hschemed

end DatastoreAccess.Credentials

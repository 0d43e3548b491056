import Mathlib
import DatastoreAccess.Proofs.Request.Fields
/-!
# Proofs.Request.WireForms — every way to bring a token is read back

A token comes bare or behind the scheme, in any case, with spaces and tabs around it; as a cookie it may be quoted, and
stand anywhere among others in any of several fields.  All of these forms are read back as the token (`read_back`).  The
cookies beside it in its field have to be readable: one other byte there and the token is lost
(`lost_beside_unreadable`).
-/
namespace DatastoreAccess

namespace Text

/-! ## Texts with space around them -/

/-- Visible ASCII. -/
def Plain (c : Char) : Prop := 0x21 ≤ c.toNat ∧ c.toNat ≤ 0x7E

instance (c : Char) : Decidable (Plain c) := inferInstanceAs (Decidable (_ ∧ _))

/-- Spaces and tabs. -/
def Spacing (cs : List Char) : Prop := ∀ c ∈ cs, c = ' ' ∨ c = '\t'

instance (cs : List Char) : Decidable (Spacing cs) := List.decidableBAll _ _

/-- A text with spaces and tabs around it. -/
def Padded (core l : List Char) : Prop := ∃ a b, Spacing a ∧ Spacing b ∧ l = a ++ core ++ b

theorem Plain.isBlank_eq {c : Char} (h : Plain c) : isBlank c = false := by
  obtain ⟨hl, hr⟩ := h
  simp only [isBlank, Bool.or_eq_false_iff, Bool.and_eq_false_iff, decide_eq_false_iff_not]
  omega

theorem readable_of_plain {cs : List Char} (h : ∀ c ∈ cs, Plain c) : Readable cs := by
  intro c hc
  obtain ⟨hl, hr⟩ := h c hc
  omega

theorem Readable.append {a b : List Char} (ha : Readable a) (hb : Readable b) : Readable (a ++ b) :=
  List.forall_mem_append.2 ⟨ha, hb⟩

theorem Spacing.readable {cs : List Char} (h : Spacing cs) : Readable cs := by
  intro c hc
  rcases h c hc with rfl | rfl
  · exact .inl (by decide)
  · exact .inr (by decide)

theorem Spacing.not_mem {cs : List Char} (h : Spacing cs) {c : Char} (hc : Plain c) : c ∉ cs := by
  intro hmem
  rcases h c hmem with rfl | rfl <;> exact absurd hc (by decide)

theorem Spacing.isBlank {cs : List Char} (h : Spacing cs) : ∀ c ∈ cs, isBlank c = true := by
  intro c hc
  rcases h c hc with rfl | rfl <;> decide

theorem Readable.intercalate {c : Char} (hc : Readable [c]) :
    ∀ {ps : List (List Char)}, (∀ p ∈ ps, Readable p) → Readable ([c].intercalate ps)
  | [], _ => nofun
  | [p], h => by
    rw [List.intercalate_singleton]
    exact h p (List.mem_singleton_self p)
  | p :: q :: ps, h => by
    obtain ⟨hp, hps⟩ := List.forall_mem_cons.1 h
    rw [List.intercalate_cons_cons]
    exact (hp.append hc).append (Readable.intercalate hc hps)

/-- White space neither begins the front part nor ends the back part. -/
theorem unpadded_append {a m b : List Char} (ha : a ≠ []) (hb : b ≠ []) (hs : ∀ c, a.head? = some c → isBlank c = false)
    (he : ∀ c, b.getLast? = some c → isBlank c = false) : Unpadded (a ++ m ++ b) where
  starts c hc := by
    rw [List.append_assoc, List.head?_append_of_ne_nil _ ha] at hc
    exact hs c hc
  ends c hc := by
    rw [List.getLast?_append_of_ne_nil _ hb] at hc
    exact he c hc

theorem Padded.self (core : List Char) : Padded core core := ⟨[], [], nofun, nofun, by simp⟩

theorem Padded.trim_eq {core l : List Char} (h : Padded core l) (hc : Unpadded core) : trim l = core := by
  obtain ⟨a, b, ha, hb, rfl⟩ := h
  exact trimWhile_append ha.isBlank hb.isBlank hc.starts hc.ends

theorem Padded.readable {core l : List Char} (h : Padded core l) (hc : Readable core) : Readable l := by
  obtain ⟨a, b, ha, hb, rfl⟩ := h
  exact (ha.readable.append hc).append hb.readable

theorem Padded.not_mem {core l : List Char} {q : Char} (h : Padded core l) (hq : Plain q) (hc : q ∉ core) : q ∉ l := by
  obtain ⟨a, b, ha, hb, rfl⟩ := h
  simp [ha.not_mem hq, hb.not_mem hq, hc]

/-- A character that is no space begins or ends a text only when it begins or ends what stands in it. -/
theorem Padded.edges_ne {core l : List Char} {q : Char} (h : Padded core l) (hq : Plain q) (hs : core.head? ≠ some q)
    (he : core.getLast? ≠ some q) : l.head? ≠ some q ∧ l.getLast? ≠ some q := by
  obtain ⟨a, b, ha, hb, rfl⟩ := h
  have hhead {cs : List Char} (hcs : Spacing cs) : cs.head? ≠ some q := fun h =>
    hcs.not_mem hq (List.mem_of_mem_head? h)
  have hlast {cs : List Char} (hcs : Spacing cs) : cs.getLast? ≠ some q := fun h =>
    hcs.not_mem hq (List.mem_of_mem_getLast? h)
  constructor
  · rw [List.head?_append, List.head?_append]
    simp [Option.or_eq_some_iff, hhead ha, hhead hb, hs]
  · rw [List.getLast?_append, List.getLast?_append]
    simp [Option.or_eq_some_iff, hlast ha, hlast hb, he]

theorem unpadded_of_plain {cs : List Char} (h : ∀ c ∈ cs, Plain c) : Unpadded cs :=
  ⟨fun c hc => (h c (List.mem_of_mem_head? hc)).isBlank_eq, fun c hc => (h c (List.mem_of_mem_getLast? hc)).isBlank_eq⟩

end Text

open Text (Plain Spacing Padded Readable Unpadded)

namespace Credentials

/-! ## Tokens and their forms -/

/-- The scheme, in any case. -/
def IsBearer (cs : List Char) : Prop := cs.map Char.toLower = "bearer".toList

instance (cs : List Char) : Decidable (IsBearer cs) := inferInstanceAs (Decidable (_ = _))

/-- A token that can be told from the scheme. -/
structure Wireable (t : List Char) : Prop where
  nonempty : t ≠ []
  plain : ∀ c ∈ t, Plain c
  other : ¬ IsBearer t

/-- A token as it stands, or behind the scheme, a space, and perhaps further space. -/
inductive Form (t : List Char) : List Char → Prop where
  | bare : Form t t
  | schemed {scheme gap : List Char} (named : IsBearer scheme) (space : Spacing gap) :
      Form t (scheme ++ ' ' :: gap ++ t)

/-- A form with spaces and tabs around it. -/
def Wire (t l : List Char) : Prop := ∃ form, Form t form ∧ Padded form l

theorem toLower_of_not_upper {c : Char} (h : ¬ (65 ≤ c.toNat ∧ c.toNat ≤ 90)) : c.toLower = c := by
  unfold Char.toLower
  split
  · rename_i hupper
    simp only [ge_iff_le, UInt32.le_iff_toNat_le] at hupper
    exact absurd hupper h
  · rfl

/-- The letters of the scheme, in any case. -/
theorem plain_of_scheme {scheme : List Char} (h : IsBearer scheme) :
    ∀ c ∈ scheme, Plain c ∧ c ≠ ';' ∧ c ≠ '"' := by
  intro c hc
  have hlower : c.toLower ∈ "bearer".toList := by
    rw [← show scheme.map Char.toLower = "bearer".toList from h]
    exact List.mem_map_of_mem hc
  by_cases hupper : 65 ≤ c.toNat ∧ c.toNat ≤ 90
  · refine ⟨⟨by omega, by omega⟩, ?_, ?_⟩
    all_goals
      rintro rfl
      exact absurd hupper (by decide)
  · rw [toLower_of_not_upper hupper] at hlower
    have hall : ∀ d ∈ "bearer".toList, Plain d ∧ d ≠ ';' ∧ d ≠ '"' := by simp [Plain]
    exact hall c hlower

theorem length_of_scheme {scheme : List Char} (h : IsBearer scheme) : scheme.length = 6 := by
  simpa using congrArg List.length h

variable {t form l : List Char}

theorem Form.getLast?_eq (h : Form t form) (ht : Wireable t) : form.getLast? = t.getLast? := by
  cases h with
  | bare => rfl
  | schemed named space =>
    obtain ⟨c, hc⟩ := Option.ne_none_iff_exists'.1 fun hn => ht.nonempty (List.getLast?_eq_none_iff.1 hn)
    rw [List.getLast?_append, hc]
    rfl

theorem Form.of_head? (h : Form t form) {c : Char} (hc : form.head? = some c) :
    t.head? = some c ∨ Plain c ∧ c ≠ '"' := by
  cases h with
  | bare => exact .inl hc
  | @schemed scheme gap named space =>
    obtain ⟨d, hd⟩ : ∃ d, scheme.head? = some d := by
      cases scheme with
      | nil => cases named
      | cons d ds => exact ⟨d, rfl⟩
    rw [List.head?_append, List.head?_append, hd] at hc
    cases hc
    obtain ⟨hplain, -, hquote⟩ := plain_of_scheme named c (List.mem_of_mem_head? hd)
    exact .inr ⟨hplain, hquote⟩

theorem Form.unpadded (h : Form t form) (ht : Wireable t) : Unpadded form where
  starts c hc := by
    rcases h.of_head? hc with hc | ⟨hc, -⟩
    · exact (ht.plain c (List.mem_of_mem_head? hc)).isBlank_eq
    · exact hc.isBlank_eq
  ends c hc := by
    rw [h.getLast?_eq ht] at hc
    exact (ht.plain c (List.mem_of_mem_getLast? hc)).isBlank_eq

theorem afterScheme?_of_wireable (ht : Wireable t) : afterScheme? t = none := by
  refine if_neg fun h => ?_
  obtain ⟨hscheme, hrest⟩ := Bool.and_eq_true_iff.1 h
  have hjoin : t.take 6 ++ t.drop 6 = t := List.take_append_drop 6 t
  rcases Bool.or_eq_true_iff.1 hrest with hnil | hspace
  · -- Nothing but the scheme.
    rw [List.isEmpty_iff.1 hnil, List.append_nil] at hjoin
    rw [hjoin] at hscheme
    exact ht.other (of_decide_eq_true hscheme)
  · have hmem : ' ' ∈ t := List.mem_of_mem_drop (List.mem_of_mem_head? (of_decide_eq_true hspace))
    exact absurd (ht.plain ' ' hmem) (by decide)

theorem afterScheme?_of_scheme {scheme rest : List Char} (h : IsBearer scheme)
    (hrest : rest = [] ∨ rest.head? = some ' ') : afterScheme? (scheme ++ rest) = some rest := by
  have hlength := length_of_scheme h
  have htake : (scheme ++ rest).take 6 = scheme := List.take_left' hlength
  have hdrop : (scheme ++ rest).drop 6 = rest := List.drop_left' hlength
  unfold afterScheme?
  simp only [htake, hdrop]
  refine if_pos (Bool.and_eq_true_iff.2 ⟨decide_eq_true h, ?_⟩)
  rcases hrest with rfl | hrest
  · rfl
  · simp [hrest]

theorem token?_of_trim {v : List Char} (h : Text.trim l = v) :
    token? l = nonempty? (((afterScheme? v).map Text.trim).getD v) := by
  subst h
  rfl

theorem nonempty?_eq (h : t ≠ []) : nonempty? t = some t := if_neg fun hn => h (List.isEmpty_iff.1 hn)

/-- Every form of a token reads as the token. -/
theorem token?_of_wire (ht : Wireable t) (h : Wire t l) : token? l = some t := by
  obtain ⟨form, hform, hpadded⟩ := h
  rw [token?_of_trim (hpadded.trim_eq (hform.unpadded ht))]
  cases hform with
  | bare => rw [afterScheme?_of_wireable ht, Option.map_none, Option.getD_none, nonempty?_eq ht.nonempty]
  | @schemed scheme gap named space =>
    have hgap : Padded t (' ' :: gap ++ t) :=
      ⟨' ' :: gap, [], List.forall_mem_cons.2 ⟨.inl rfl, space⟩, nofun, by simp⟩
    rw [List.append_assoc, afterScheme?_of_scheme named (.inr rfl), Option.map_some, Option.getD_some,
      hgap.trim_eq (Text.unpadded_of_plain ht.plain), nonempty?_eq ht.nonempty]

/-- A value without a token: nothing but space, or the scheme alone. -/
def Idle (l : List Char) : Prop :=
  Spacing l ∨ ∃ scheme, IsBearer scheme ∧ Padded scheme l

theorem token?_of_idle (h : Idle l) : token? l = none := by
  rcases h with h | ⟨scheme, hscheme, hpadded⟩
  · have hblank : Padded [] l := ⟨l, [], h, nofun, by simp⟩
    rw [token?_of_trim (hblank.trim_eq ⟨nofun, nofun⟩)]
    rfl
  · have hplain := Text.unpadded_of_plain fun c hc => (plain_of_scheme hscheme c hc).1
    have hafter := afterScheme?_of_scheme hscheme (.inl rfl)
    rw [List.append_nil] at hafter
    rw [token?_of_trim (hpadded.trim_eq hplain), hafter]
    rfl

/-! ## Cookies -/

/-- A cookie of a name: but for white space in front it begins with the name and the sign. -/
def Named (name cookie : List Char) : Prop := name ++ ['='] <+: cookie.dropWhile Text.isBlank

instance (name cookie : List Char) : Decidable (Named name cookie) := inferInstanceAs (Decidable (_ <+: _))

/-- Among the fields for cookies, the first cookie of a name is this one.  What else its field has is readable; of a field
in front of it nothing is asked but that it has no cookie of the name. -/
inductive FirstCookie (hs : Headers) (name : String) (value : List Char) : Prop where
  | mk {before after : List HeaderField} {field : HeaderField} {earlier later : List (List Char)} {pad : List Char}
    (fields : Headers.all hs cookieField = before ++ field :: after)
    (text : field.value =
      Text.encode ([';'].intercalate (earlier ++ (pad ++ name.toList ++ '=' :: value) :: later)))
    (space : Spacing pad)
    (others : ∀ cookie ∈ earlier ++ later, Readable cookie ∧ ';' ∉ cookie)
    (first : ∀ cookie ∈ earlier, ¬ Named name.toList cookie)
    (unnamed : ∀ g ∈ before, ∀ cs, g.value = Text.encode cs → ∀ cookie, Text.IsPiece ';' cs cookie →
      ¬ Named name.toList cookie)

theorem named_of_cookiePair? {cookie name value : List Char} (h : cookiePair? cookie = some (name, value)) :
    Named name cookie := by
  obtain ⟨htrim, -⟩ := Text.splitFirst_eq_some h
  obtain ⟨⟨a, b, hab, ha, -⟩, hstarts, -⟩ := Text.trimsTo_trim cookie
  have hne : Text.trim cookie ≠ [] := by simp [htrim]
  have hcore : (Text.trim cookie ++ b).dropWhile Text.isBlank = Text.trim cookie ++ b := by
    refine Text.dropWhile_of_starts fun c hc => hstarts c ?_
    rwa [List.head?_append_of_ne_nil _ hne] at hc
  rw [Named, hab, List.append_assoc, List.dropWhile_append_of_pos ha, hcore, htrim]
  exact ⟨value ++ b, by simp⟩

theorem lookup_of_unnamed {name : List Char} {pairs : List (List Char × List Char)}
    (h : ∀ pair ∈ pairs, ∃ cookie, cookiePair? cookie = some pair ∧ ¬ Named name cookie) : pairs.lookup name = none := by
  refine List.lookup_eq_none_iff.2 fun pair hpair => ?_
  obtain ⟨cookie, hread, hn⟩ := h pair hpair
  rw [bne_iff_ne]
  rintro rfl
  exact hn (named_of_cookiePair? hread)

/-- Fields without a cookie of a name do not hide one that comes later. -/
theorem lookup_before {name : List Char} {before : List HeaderField}
    (h : ∀ g ∈ before, ∀ cs, g.value = Text.encode cs → ∀ cookie, Text.IsPiece ';' cs cookie → ¬ Named name cookie) :
    ((before.filterMap HeaderField.text?).flatMap fun cs => (Text.splitAll ';' cs).filterMap cookiePair?).lookup name =
      none := by
  refine lookup_of_unnamed fun pair hpair => ?_
  obtain ⟨cs, hcs, hpair⟩ := List.mem_flatMap.1 hpair
  obtain ⟨g, hg, hgtext⟩ := List.mem_filterMap.1 hcs
  obtain ⟨p, hp, hread⟩ := List.mem_filterMap.1 hpair
  exact ⟨p, hread, h g hg cs (HeaderField.value_of_text? hgtext) p (Text.mem_splitAll.1 hp)⟩

/-- A name that a cookie may have. -/
structure CookieName (name : List Char) : Prop where
  nonempty : name ≠ []
  plain : ∀ c ∈ name, Plain c ∧ c ≠ '=' ∧ c ≠ ';'

theorem cookieName_authorization : CookieName authorizationCookie.toList :=
  ⟨by decide, by simp [authorizationCookie, Plain]⟩

theorem cookieName_userInfo : CookieName userInfoCookie.toList := ⟨by decide, by simp [userInfoCookie, Plain]⟩

/-- A text that may be the value of a cookie. -/
structure Solid (core : List Char) : Prop where
  nonempty : core ≠ []
  unpadded : Unpadded core
  readable : Readable core
  uncut : ';' ∉ core

variable {hs : Headers} {name : String} {core v pad : List Char}

theorem cookiePair?_of_padded {name : List Char} (hn : CookieName name) (hpad : Spacing pad) (hv : Padded core v)
    (hc : Solid core) :
    ∃ v', cookiePair? (pad ++ name ++ '=' :: v) = some (name, v') ∧ Text.trim v' = core := by
  obtain ⟨a, b, ha, hb, rfl⟩ := hv
  have hunpadded : Unpadded (name ++ '=' :: a ++ core) :=
    Text.unpadded_append hn.nonempty hc.nonempty
      (fun c hc => (hn.plain c (List.mem_of_mem_head? hc)).1.isBlank_eq) hc.unpadded.ends
  have hpadded : Padded (name ++ '=' :: a ++ core) (pad ++ name ++ '=' :: (a ++ core ++ b)) :=
    ⟨pad, b, hpad, hb, by simp⟩
  have hno : '=' ∉ name := fun hmem => (hn.plain '=' hmem).2.1 rfl
  refine ⟨a ++ core, ?_, ?_⟩
  · rw [cookiePair?, hpadded.trim_eq hunpadded, List.append_assoc, List.cons_append, Text.splitFirst_append_cons hno]
  · have hback : Padded core (a ++ core) := ⟨a, [], ha, nofun, by simp⟩
    exact hback.trim_eq hc.unpadded

/-- A cookie whose value is in order does not spoil the field that it stands in. -/
theorem whole_of_padded {name : List Char} (hn : CookieName name) (hpad : Spacing pad) (hv : Padded core v)
    (hc : Solid core) : Readable (pad ++ name ++ '=' :: v) ∧ ';' ∉ pad ++ name ++ '=' :: v := by
  obtain ⟨a, b, ha, hb, rfl⟩ := hv
  have huncut {cs : List Char} (h : Spacing cs) : ';' ∉ cs := h.not_mem (by decide)
  have hname : Readable name := Text.readable_of_plain fun c hc => (hn.plain c hc).1
  have hsign : Readable ['='] := by decide
  have hnot : ';' ∉ name := fun hmem => (hn.plain ';' hmem).2.2 rfl
  constructor
  · have hvalue := (ha.readable.append hc.readable).append hb.readable
    exact (hpad.readable.append hname).append (hsign.append hvalue)
  · simp [huncut hpad, huncut ha, huncut hb, hnot, hc.uncut]

/-- The first cookie of a name is the one that counts. -/
theorem cookie?_of_first (hn : CookieName name.toList) (h : FirstCookie hs name v) (hv : Padded core v)
    (hc : Solid core) : cookie? hs name = some (Text.trimWhile (· = '"') core) := by
  cases h with
  | @mk before after field earlier later pad fields text space others first unnamed =>
    obtain ⟨v', hpair, htrim⟩ := cookiePair?_of_padded hn space hv hc
    generalize hcookie : pad ++ name.toList ++ '=' :: v = cookie at text hpair
    have hall : ∀ p ∈ earlier ++ cookie :: later, Readable p ∧ ';' ∉ p := by
      intro p hp
      rcases List.mem_append.1 hp with hp | hp
      · exact others p (List.mem_append_left _ hp)
      · rcases List.mem_cons.1 hp with rfl | hp
        · exact hcookie ▸ whole_of_padded hn space hv hc
        · exact others p (List.mem_append_right _ hp)
    have htext : field.text? = some ([';'].intercalate (earlier ++ cookie :: later)) := by
      exact HeaderField.text?_of_readable (Readable.intercalate (by decide) fun p hp => (hall p hp).1) text
    have hcut : Text.splitAll ';' ([';'].intercalate (earlier ++ cookie :: later)) = earlier ++ cookie :: later :=
      Text.splitAll_intercalate (by simp) fun p hp => (hall p hp).2
    have hearlier : (earlier.filterMap cookiePair?).lookup name.toList = none := by
      refine lookup_of_unnamed fun pair hpair => ?_
      obtain ⟨p, hp, hread⟩ := List.mem_filterMap.1 hpair
      exact ⟨p, hread, first p hp⟩
    -- The list of all cookies, with this one between those before it and those behind it.
    rw [cookie?, cookies, fields, List.filterMap_append, List.filterMap_cons_some htext, List.flatMap_append,
      List.flatMap_cons, hcut, List.filterMap_append, List.filterMap_cons_some hpair]
    rw [List.lookup_append, lookup_before unnamed, List.lookup_append, List.lookup_append, hearlier,
      List.lookup_cons_self, Option.none_or, Option.none_or, Option.some_or, Option.map_some, htrim]

/-! ## Forms in cookies -/

/-- A token that a cookie can carry: nothing in it ends the cookie, and no quote at its ends would be taken off. -/
structure CookieSafe (t : List Char) : Prop where
  uncut : ';' ∉ t
  starts : t.head? ≠ some '"'
  ends : t.getLast? ≠ some '"'

def inQuotes (l : List Char) : List Char := ['"'] ++ l ++ ['"']

/-- The value of a cookie that carries a token: one of its forms, perhaps in quotes. -/
inductive CookieForm (t v : List Char) : Prop where
  | plain (h : Wire t v)
  | quoted {l : List Char} (h : Wire t l) (around : Padded (inQuotes l) v)

theorem Form.readable (h : Form t form) (ht : Wireable t) : Readable form := by
  have hreadable := Text.readable_of_plain ht.plain
  cases h with
  | bare => exact hreadable
  | schemed named space =>
    have hscheme := Text.readable_of_plain fun c hc => (plain_of_scheme named c hc).1
    have hgap : Spacing (' ' :: _) := List.forall_mem_cons.2 ⟨.inl rfl, space⟩
    exact (hscheme.append hgap.readable).append hreadable

theorem Form.solid (h : Form t form) (ht : Wireable t) (hsafe : CookieSafe t) : Solid form where
  nonempty := by
    cases h with
    | bare => exact ht.nonempty
    | schemed named space => simp
  unpadded := h.unpadded ht
  readable := h.readable ht
  uncut := by
    cases h with
    | bare => exact hsafe.uncut
    | @schemed scheme gap named space =>
      have hscheme : ';' ∉ scheme := fun hmem => (plain_of_scheme named ';' hmem).2.1 rfl
      have hgap : ';' ∉ gap := space.not_mem (by decide)
      simp [hscheme, hgap, hsafe.uncut]

theorem Form.edges_ne (h : Form t form) (ht : Wireable t) (hsafe : CookieSafe t) :
    form.head? ≠ some '"' ∧ form.getLast? ≠ some '"' := by
  constructor
  · intro hc
    rcases h.of_head? hc with hc | ⟨-, hc⟩
    · exact hsafe.starts hc
    · exact hc rfl
  · rw [h.getLast?_eq ht]
    exact hsafe.ends

theorem solid_inQuotes (hr : Readable l) (hu : ';' ∉ l) : Solid (inQuotes l) where
  nonempty := by simp [inQuotes]
  unpadded := Text.unpadded_append (by simp) (by simp) (by simp [Text.isBlank]) (by simp [Text.isBlank])
  readable :=
    have hquote : Readable ['"'] := by decide
    (hquote.append hr).append hquote
  uncut := by simp [inQuotes, hu]

/-- Quotes come off a text that has none at its ends. -/
theorem trimWhile_quotes (quotes : List Char) (hq : ∀ c ∈ quotes, c = '"')
    (h : l.head? ≠ some '"' ∧ l.getLast? ≠ some '"') : Text.trimWhile (· = '"') (quotes ++ l ++ quotes) = l := by
  have hquotes (c : Char) (hc : c ∈ quotes) : decide (c = '"') = true := decide_eq_true (hq c hc)
  refine Text.trimWhile_append hquotes hquotes (fun c hc => ?_) (fun c hc => ?_)
  · rw [decide_eq_false_iff_not]
    rintro rfl
    exact h.1 hc
  · rw [decide_eq_false_iff_not]
    rintro rfl
    exact h.2 hc

theorem trimWhile_inQuotes (h : l.head? ≠ some '"' ∧ l.getLast? ≠ some '"') :
    Text.trimWhile (· = '"') (inQuotes l) = l := trimWhile_quotes ['"'] (by simp) h

theorem trimWhile_unquoted (h : l.head? ≠ some '"' ∧ l.getLast? ≠ some '"') : Text.trimWhile (· = '"') l = l := by
  simpa using trimWhile_quotes [] nofun h

theorem token?_of_cookie (hn : CookieName name.toList) (ht : Wireable t) (hsafe : CookieSafe t)
    (h : FirstCookie hs name v) (hv : CookieForm t v) : (cookie? hs name).bind token? = some t := by
  cases hv with
  | plain hwire =>
    obtain ⟨form, hform, hpadded⟩ := hwire
    rw [cookie?_of_first hn h hpadded (hform.solid ht hsafe), Option.bind_some,
      trimWhile_unquoted (hform.edges_ne ht hsafe)]
    exact token?_of_wire ht ⟨form, hform, .self form⟩
  | @quoted l hwire around =>
    obtain ⟨form, hform, hpadded⟩ := id hwire
    have hsolid := hform.solid ht hsafe
    have huncut : ';' ∉ l := hpadded.not_mem (by decide) hsolid.uncut
    obtain ⟨hs', he'⟩ := hform.edges_ne ht hsafe
    have hedges := hpadded.edges_ne (by decide) hs' he'
    rw [cookie?_of_first hn h around (solid_inQuotes (hpadded.readable hsolid.readable) huncut), Option.bind_some,
      trimWhile_inQuotes hedges]
    exact token?_of_wire ht hwire

theorem userInfo_of_cookie (hn : CookieName name.toList) (ht : Wireable t) (hsafe : CookieSafe t)
    (h : FirstCookie hs name v) (hv : Padded t v ∨ Padded (inQuotes t) v) :
    (cookie? hs name).bind nonempty? = some t := by
  have hsolid := Form.bare.solid ht hsafe
  have hedges := Form.bare.edges_ne ht hsafe
  rcases hv with hv | hv
  · rw [cookie?_of_first hn h hv hsolid, Option.bind_some, trimWhile_unquoted hedges, nonempty?_eq ht.nonempty]
  · rw [cookie?_of_first hn h hv (solid_inQuotes hsolid.readable hsolid.uncut), Option.bind_some,
      trimWhile_inQuotes hedges, nonempty?_eq ht.nonempty]

/-! ## Fields -/

/-- The first field of a name has this text. -/
def FirstField (hs : Headers) (name : String) (l : List Char) : Prop :=
  ∃ f, (Headers.all hs name).head? = some f ∧ f.value = Text.encode l

/-- No token comes as a field: there is none for it, or the first one cannot be read or has no token. -/
def Silent (hs : Headers) : Prop :=
  ∀ f, (Headers.all hs authorizationField).head? = some f → f.text? = none ∨ ∃ l, f.value = Text.encode l ∧ Idle l

theorem FirstField.first?_eq (h : FirstField hs name l) (hr : Readable l) : Headers.first? hs name = some l := by
  obtain ⟨f, hf, hv⟩ := h
  rw [Headers.first?, hf]
  exact HeaderField.text?_of_readable hr hv

theorem Idle.readable (h : Idle l) : Readable l := by
  rcases h with h | ⟨scheme, hscheme, hpadded⟩
  · exact h.readable
  · exact hpadded.readable (Text.readable_of_plain fun c hc => (plain_of_scheme hscheme c hc).1)

theorem Silent.token?_eq (h : Silent hs) : (Headers.first? hs authorizationField).bind token? = none := by
  unfold Headers.first?
  cases hf : (Headers.all hs authorizationField).head? with
  | none => rfl
  | some f =>
    rcases h f hf with hnone | ⟨l, hv, hl⟩
    · rw [Option.bind_some, hnone, Option.bind_none]
    · rw [Option.bind_some, HeaderField.text?_of_readable hl.readable hv, Option.bind_some, token?_of_idle hl]

theorem Wire.readable (h : Wire t l) (ht : Wireable t) : Readable l := by
  obtain ⟨form, hform, hpadded⟩ := h
  exact hpadded.readable (hform.readable ht)

/-- **Every form of a token is read back.**  In the field for it, in cookies when that field is silent, as the user-info
cookie and as the service key, the token is what went in. -/
theorem read_back {t : String} (ht : Wireable t.toList) (hs : Headers) :
    (∀ l, FirstField hs authorizationField l → Wire t.toList l → (ofHeaders hs).token = some t) ∧
    (CookieSafe t.toList → Silent hs → ∀ v, FirstCookie hs authorizationCookie v → CookieForm t.toList v →
      (ofHeaders hs).token = some t) ∧
    (CookieSafe t.toList → ∀ v, FirstCookie hs userInfoCookie v →
      Padded t.toList v ∨ Padded (inQuotes t.toList) v → (ofHeaders hs).userInfo = some t) ∧
    ∀ l, FirstField hs serviceKeyField l → Padded t.toList l → (ofHeaders hs).serviceKey = some t := by
  have hplain := Text.unpadded_of_plain ht.plain
  refine ⟨fun l hl hwire => ?_, fun hsafe hsilent v hv hform => ?_, fun hsafe v hv hform => ?_, fun l hl hpadded => ?_⟩
  · have htoken : (Headers.first? hs authorizationField).bind token? = some t.toList := by
      rw [hl.first?_eq (hwire.readable ht), Option.bind_some, token?_of_wire ht hwire]
    simp [ofHeaders, htoken]
  · have htoken := token?_of_cookie cookieName_authorization ht hsafe hv hform
    simp [ofHeaders, hsilent.token?_eq, htoken]
  · have hinfo := userInfo_of_cookie cookieName_userInfo ht hsafe hv hform
    simp [ofHeaders, hinfo]
  · have hkey := hl.first?_eq (hpadded.readable (Text.readable_of_plain ht.plain))
    simp [ofHeaders, hkey, hpadded.trim_eq hplain, nonempty?_eq ht.nonempty]

/-! ## Requests with other cookies -/

/-- A request whose field for tokens has the scheme alone, and which has a quoted token among other cookies. -/
def crowdedHeaders : Headers :=
  [⟨authorizationField, Text.encodeString " BEARER\t"⟩, ⟨cookieField, Text.encodeString "theme=dark; session"⟩,
    ⟨cookieField, Text.encodeString "a=1; authorization= \"bEaReR \ta=b\"c\" ;authorization=z"⟩]

theorem crowdedHeaders_first : FirstCookie crowdedHeaders authorizationCookie " \"bEaReR \ta=b\"c\" ".toList := by
  refine @FirstCookie.mk _ _ _ [⟨cookieField, Text.encodeString "theme=dark; session"⟩] []
    ⟨cookieField, Text.encodeString "a=1; authorization= \"bEaReR \ta=b\"c\" ;authorization=z"⟩
    ["a=1".toList] ["authorization=z".toList] [' '] ?_ ?_ ?_ ?_ ?_ ?_
  · rfl
  · rfl
  · decide
  · decide
  · decide
  · intro g hg cs hcs cookie hpiece
    obtain rfl := List.mem_singleton.1 hg
    obtain rfl := Text.encode_injective hcs
    have hall : ∀ cookie ∈ Text.splitAll ';' "theme=dark; session".toList, ¬ Named authorizationCookie.toList cookie := by
      decide
    exact hall cookie (Text.mem_splitAll.2 hpiece)

/-- The token has the sign and a quote inside. -/
theorem read_back_crowded :
    Wireable "a=b\"c".toList ∧ CookieSafe "a=b\"c".toList ∧ Silent crowdedHeaders ∧
    CookieForm "a=b\"c".toList " \"bEaReR \ta=b\"c\" ".toList ∧ (ofHeaders crowdedHeaders).token = some "a=b\"c" := by
  have ht : Wireable "a=b\"c".toList := ⟨by decide, by simp [Plain], by decide⟩
  have hsafe : CookieSafe "a=b\"c".toList := ⟨by decide, by decide, by decide⟩
  have hsilent : Silent crowdedHeaders := by
    intro f hf
    obtain rfl : ⟨authorizationField, Text.encodeString " BEARER\t"⟩ = f := Option.some.inj hf
    exact .inr ⟨" BEARER\t".toList, rfl, .inr ⟨"BEARER".toList, by decide, [' '], ['\t'], by decide, by decide, rfl⟩⟩
  have hform : CookieForm "a=b\"c".toList " \"bEaReR \ta=b\"c\" ".toList :=
    .quoted ⟨_, @Form.schemed _ "bEaReR".toList ['\t'] (by decide) (by decide), .self _⟩
      ⟨[' '], [' '], by decide, by decide, rfl⟩
  exact ⟨ht, hsafe, hsilent, hform, (read_back ht crowdedHeaders).2.1 hsafe hsilent _ crowdedHeaders_first hform⟩

/-- A request with a cookie for a token, behind another cookie. -/
def besideHeaders (other : List UInt8) : Headers :=
  [⟨cookieField, Text.encodeString "theme=" ++ other ++ Text.encodeString "; authorization=t"⟩]

/-- One byte in another cookie that cannot be read, and the token behind it is lost. -/
theorem lost_beside_unreadable :
    Wireable "t".toList ∧ CookieSafe "t".toList ∧ (∀ other, Silent (besideHeaders other)) ∧
    (ofHeaders (besideHeaders (Text.encodeString "e"))).token = some "t" ∧
    (∀ f ∈ besideHeaders [0xE9], HeaderField.make? f.name f.value = some f) ∧
    (ofHeaders (besideHeaders [0xE9])).token = none := by
  refine ⟨⟨by decide, by simp [Plain], by decide⟩, ⟨by decide, by decide, by decide⟩, fun other f hf => ?_, ?_, ?_, ?_⟩
  · cases hf
  · cbv
  · intro f hf
    obtain rfl := List.mem_singleton.1 hf
    cbv
  · cbv

end Credentials
end DatastoreAccess

import Mathlib
import DatastoreAccess.Proofs.Request.WireForms
/-!
# Proofs.Request.Bystanders — what else stands in a request

Credentials are taken from four places: the first field for tokens, the first field for service keys, and the first
cookie of each of two names.  A request may hold anything else, and hold it in many orders and spellings.  The changes
that leave the four places alone are listed (`Change`), and no chain of them changes a credential
(`credentials_unmoved`).
-/
namespace DatastoreAccess

/-! ## Requests as they are sent -/

/-- The fields of a request as they are sent: a name in any case, and the bytes of a value. -/
abbrev Sent := List (String × List UInt8)

namespace Sent

/-- The fields as they are read; none when a name or a value may not stand in a header. -/
def headers? (sent : Sent) : Option Headers := sent.mapM fun f => HeaderField.make? f.1 f.2

def credentials? (sent : Sent) : Option Credentials := sent.headers?.map Credentials.ofHeaders

/-- A name and a value that may stand in a header. -/
def Legal (f : String × List UInt8) : Prop := HeaderField.isName f.1 = true ∧ f.2.all HeaderField.isValueByte = true

instance (f : String × List UInt8) : Decidable (Legal f) := inferInstanceAs (Decidable (_ ∧ _))

/-- A field as it is read. -/
def made (f : String × List UInt8) : HeaderField := ⟨f.1.toLower, f.2⟩

theorem make?_eq (f : String × List UInt8) :
    HeaderField.make? f.1 f.2 = if Legal f then some (made f) else none := by
  unfold HeaderField.make? Legal
  simp only [Bool.and_eq_true]
  rfl

theorem headers?_cons (f : String × List UInt8) (sent : Sent) :
    headers? (f :: sent) = (HeaderField.make? f.1 f.2).bind fun g => (headers? sent).map (g :: ·) := by
  unfold headers?
  rw [List.mapM_cons]
  cases HeaderField.make? f.1 f.2 with
  | none => rfl
  | some g => cases List.mapM (fun f => HeaderField.make? f.1 f.2) sent <;> rfl

theorem headers?_eq (sent : Sent) : headers? sent = if ∀ f ∈ sent, Legal f then some (sent.map made) else none := by
  induction sent with
  | nil => rfl
  | cons f sent ih =>
    rw [headers?_cons, ih, make?_eq]
    by_cases hf : Legal f
    · by_cases hs : ∀ g ∈ sent, Legal g
      · rw [if_pos hf, if_pos hs, if_pos (List.forall_mem_cons.2 ⟨hf, hs⟩)]
        rfl
      · rw [if_pos hf, if_neg hs, if_neg fun h => hs (List.forall_mem_cons.1 h).2]
        rfl
    · rw [if_neg hf, if_neg fun h => hf (List.forall_mem_cons.1 h).1]
      rfl

/-! ## Names and their case -/

theorem isNameChar_toLower (c : Char) : HeaderField.isNameChar c.toLower = HeaderField.isNameChar c := by
  by_cases hupper : 65 ≤ c.toNat ∧ c.toNat ≤ 90
  · obtain ⟨hl, hr⟩ := hupper
    rw [← Char.ofNat_toNat c]
    generalize c.toNat = n at hl hr
    interval_cases n <;> decide
  · rw [Credentials.toLower_of_not_upper hupper]

/-- Whether a text may be a name does not depend on its case. -/
theorem isName_toLower (name : String) : HeaderField.isName name.toLower = HeaderField.isName name := by
  have hlist : name.toLower.toList = name.toList.map Char.toLower := String.toList_map
  have hall : (name.toList.map Char.toLower).all HeaderField.isNameChar = name.toList.all HeaderField.isNameChar := by
    rw [List.all_map]
    exact congrArg (name.toList.all ·) (funext isNameChar_toLower)
  simp only [HeaderField.isName, hlist, hall, List.isEmpty_map, List.length_map]

end Sent

open Text (Readable TrimsTo)

namespace Credentials

/-! ## Cookies -/

/-- A value that can be read, and what stands between its semicolons. -/
def Segments (value : List UInt8) (segments : List (List Char)) : Prop :=
  ∃ text, Readable text ∧ value = Text.encode text ∧ Text.splitAll ';' text = segments

/-- A segment that is a cookie of a name: but for white space around it, it is the name, the sign and a value. -/
def IsCookie (name segment : List Char) : Prop := '=' ∉ name ∧ ∃ value, TrimsTo segment (name ++ '=' :: value)

/-- A segment that is no cookie, or a cookie of a name that does not count. -/
inductive Bystander (segment : List Char) : Prop where
  | unsigned (h : '=' ∉ segment)
  | named {name : List Char} (h : IsCookie name segment)
      (other : name ∉ [authorizationCookie.toList, userInfoCookie.toList])

/-- A field in which a cookie of a name can be read. -/
def Holds (name : List Char) (f : String × List UInt8) : Prop :=
  f.1.toLower = cookieField ∧ ∃ segments, Segments f.2 segments ∧ ∃ s ∈ segments, IsCookie name s

/-- A segment that does not count behind these fields and segments: a bystander, or not the first cookie of its name. -/
inductive Passed (front : Sent) (before : List (List Char)) (segment : List Char) : Prop where
  | bystander (h : Bystander segment)
  | again {name : List Char} (h : IsCookie name segment)
      (earlier : (∃ f ∈ front, Holds name f) ∨ ∃ s ∈ before, IsCookie name s)

/-! ## Changes -/

/-- What may come in the place of fields behind `front`, in either direction, without touching a credential. -/
inductive Harmless (front : Sent) : Sent → Sent → Prop where
  /-- Nothing, and a field of a name that does not count. -/
  | foreign {f : String × List UInt8} (legal : Sent.Legal f)
      (other : f.1.toLower ∉ [authorizationField, cookieField, serviceKeyField]) : Harmless front [] [f]
  /-- Two fields of different names, and the same two in the other order. -/
  | exchange {f g : String × List UInt8} (apart : f.1.toLower ≠ g.1.toLower) : Harmless front [f, g] [g, f]
  /-- A name, and the same name with letters in another case. -/
  | spelling {name name' : String} {value : List UInt8} (same : name.toLower = name'.toLower) :
      Harmless front [(name, value)] [(name', value)]
  /-- Nothing, and a field for tokens or service keys that is not the first of its name. -/
  | again {f g : String × List UInt8} (legal : Sent.Legal g) (first : f ∈ front) (same : g.1.toLower = f.1.toLower)
      (single : g.1.toLower ∈ [authorizationField, serviceKeyField]) : Harmless front [] [g]
  /-- Nothing, and a field for cookies that cannot be read. -/
  | dark {f : String × List UInt8} (legal : Sent.Legal f) (named : f.1.toLower = cookieField)
      (unread : ∃ b ∈ f.2, HeaderField.isReadable b = false) : Harmless front [] [f]
  /-- A readable field for cookies, and the same with a segment that does not count. -/
  | segment {name : String} {value value' : List UInt8} {before after : List (List Char)} {s : List Char}
      (named : name.toLower = cookieField) (old : Segments value (before ++ after))
      (new : Segments value' (before ++ s :: after)) (passed : Passed front before s) :
      Harmless front [(name, value)] [(name, value')]
  /-- Nothing, and a segment that does not count as a field of its own. -/
  | alone {name : String} {value : List UInt8} {s : List Char} (named : name.toLower = cookieField)
      (new : Segments value [s]) (passed : Passed front [] s) : Harmless front [] [(name, value)]
  /-- A readable field for cookies, and two that it gives when it is cut at a semicolon. -/
  | cut {name : String} {value left right : List UInt8} {before after : List (List Char)}
      (named : name.toLower = cookieField) (old : Segments value (before ++ after)) (first : Segments left before)
      (second : Segments right after) : Harmless front [(name, value)] [(name, left), (name, right)]

/-- A harmless change at one place of a request. -/
inductive Change : Sent → Sent → Prop where
  | mk {front back m m' : Sent} (h : Harmless front m m') : Change (front ++ m ++ back) (front ++ m' ++ back)

/-! ## Cookies by name -/

theorem cookiePair?_eq_some {s name value : List Char} :
    cookiePair? s = some (name, value) ↔ '=' ∉ name ∧ TrimsTo s (name ++ '=' :: value) := by
  rw [← Text.trim_eq_iff]
  constructor
  · intro h
    obtain ⟨htrim, hname⟩ := Text.splitFirst_eq_some h
    exact ⟨hname, htrim⟩
  · rintro ⟨hname, htrim⟩
    rw [cookiePair?, htrim, Text.splitFirst_append_cons hname]

theorem isCookie_iff {name s : List Char} : IsCookie name s ↔ ∃ value, cookiePair? s = some (name, value) := by
  simp only [cookiePair?_eq_some, IsCookie, exists_and_left]

/-- A cookie has one name. -/
theorem IsCookie.unique {name name' s : List Char} (h : IsCookie name s) (h' : IsCookie name' s) : name = name' := by
  obtain ⟨value, hv⟩ := isCookie_iff.1 h
  obtain ⟨value', hv'⟩ := isCookie_iff.1 h'
  exact congrArg Prod.fst (Option.some.inj (hv.symm.trans hv'))

theorem IsCookie.signed {name s : List Char} (h : IsCookie name s) : '=' ∈ s := by
  obtain ⟨-, value, ⟨a, b, rfl, -, -⟩, -, -⟩ := h
  simp

/-! ## The four places -/

/-- Two headers with the same in the places that credentials are taken from. -/
structure Alike (hs hs' : Headers) : Prop where
  first : ∀ name ∈ [authorizationField, serviceKeyField],
    (Headers.all hs name).head? = (Headers.all hs' name).head?
  cookie : ∀ name ∈ [authorizationCookie, userInfoCookie],
    (cookies hs).lookup name.toList = (cookies hs').lookup name.toList

theorem Alike.ofHeaders_eq {hs hs' : Headers} (h : Alike hs hs') : ofHeaders hs = ofHeaders hs' := by
  have htoken := h.first authorizationField (by simp)
  have hkey := h.first serviceKeyField (by simp)
  have hcookie := h.cookie authorizationCookie (by simp)
  have hinfo := h.cookie userInfoCookie (by simp)
  simp only [ofHeaders, Headers.first?, cookie?, htoken, hkey, hcookie, hinfo]

theorem all_append (a b : Headers) (name : String) : Headers.all (a ++ b) name = Headers.all a name ++ Headers.all b name :=
  List.filter_append ..

theorem cookies_append (a b : Headers) : cookies (a ++ b) = cookies a ++ cookies b := by
  simp only [cookies, all_append, List.filterMap_append, List.flatMap_append]

/-- What stands behind the change is as it was. -/
theorem Alike.append_right {hs hs' : Headers} (h : Alike hs hs') (back : Headers) : Alike (hs ++ back) (hs' ++ back) where
  first name hn := by rw [all_append, all_append, List.head?_append, List.head?_append, h.first name hn]
  cookie name hn := by rw [cookies_append, cookies_append, List.lookup_append, List.lookup_append, h.cookie name hn]

/-- What stands in front of the change comes first. -/
theorem Alike.append_left {hs hs' : Headers} (h : Alike hs hs') (front : Headers) :
    Alike (front ++ hs) (front ++ hs') where
  first name hn := by rw [all_append, all_append, List.head?_append, List.head?_append, h.first name hn]
  cookie name hn := by rw [cookies_append, cookies_append, List.lookup_append, List.lookup_append, h.cookie name hn]

theorem mem_cookies {hs : Headers} {pair : List Char × List Char} : pair ∈ cookies hs ↔
    ∃ f ∈ hs, f.name = cookieField ∧ ∃ text, f.text? = some text ∧
      ∃ s ∈ Text.splitAll ';' text, cookiePair? s = some pair := by
  simp only [cookies, Headers.all, List.mem_flatMap, List.mem_filterMap, List.mem_filter, decide_eq_true_eq]
  constructor
  · rintro ⟨text, ⟨f, ⟨hf, hn⟩, ht⟩, s, hs, hp⟩
    exact ⟨f, hf, hn, text, ht, s, hs, hp⟩
  · rintro ⟨f, hf, hn, text, ht, s, hs, hp⟩
    exact ⟨text, ⟨f, ⟨hf, hn⟩, ht⟩, s, hs, hp⟩

/-! ## Single fields -/

theorem all_cons (f : HeaderField) (hs : Headers) (name : String) :
    Headers.all (f :: hs) name = if f.name = name then f :: Headers.all hs name else Headers.all hs name := by
  simp only [Headers.all, List.filter_cons, decide_eq_true_eq]

theorem cookies_of_other {f : HeaderField} (h : f.name ≠ cookieField) : cookies [f] = [] := by
  rw [cookies, all_cons, if_neg h]
  rfl

theorem cookies_of_dark {f : HeaderField} (h : f.text? = none) : cookies [f] = [] := by
  refine List.eq_nil_iff_forall_not_mem.2 fun pair hp => ?_
  obtain ⟨g, hg, -, text, ht, -⟩ := mem_cookies.1 hp
  rw [List.mem_singleton.1 hg, h] at ht
  cases ht

theorem cookies_of_segments {f : HeaderField} {segments : List (List Char)} (hn : f.name = cookieField)
    (h : Segments f.value segments) : cookies [f] = segments.filterMap cookiePair? := by
  obtain ⟨text, hr, hv, rfl⟩ := h
  rw [cookies, all_cons, if_pos hn, List.filterMap_cons_some (HeaderField.text?_of_readable hr hv)]
  exact List.append_nil _

/-- A field of a name that does not count. -/
theorem alike_of_foreign {f : HeaderField} (h : f.name ∉ [authorizationField, cookieField, serviceKeyField]) :
    Alike [] [f] where
  first name hn := by
    have hne : f.name ≠ name := by
      rintro rfl
      simp only [List.mem_cons, List.not_mem_nil, or_false, not_or] at h hn
      exact hn.elim h.1 h.2.2
    rw [all_cons, if_neg hne]
  cookie name _ := by
    have hne : f.name ≠ cookieField := by
      intro hf
      simp [hf] at h
    rw [cookies_of_other hne]
    rfl

theorem all_of_cookies {hs : Headers} (h : ∀ f ∈ hs, f.name = cookieField) {name : String}
    (hn : name ∈ [authorizationField, serviceKeyField]) : Headers.all hs name = [] := by
  refine List.filter_eq_nil_iff.2 fun f hf => ?_
  rw [h f hf, decide_eq_true_eq]
  rintro rfl
  exact absurd hn (by decide)

/-- Fields for cookies, behind others: only the cookies in them count. -/
theorem alike_of_cookies {front hs hs' : Headers} (h : ∀ f ∈ hs, f.name = cookieField)
    (h' : ∀ f ∈ hs', f.name = cookieField)
    (same : ∀ name ∈ [authorizationCookie, userInfoCookie],
      (cookies front ++ cookies hs).lookup name.toList = (cookies front ++ cookies hs').lookup name.toList) :
    Alike (front ++ hs) (front ++ hs') where
  first name hn := by rw [all_append, all_append, all_of_cookies h hn, all_of_cookies h' hn]
  cookie name hn := by
    rw [cookies_append, cookies_append]
    exact same name hn

/-! ## Segments that do not count -/

theorem lookup_isSome_of_mem {name value : List Char} {pairs : List (List Char × List Char)} (h : (name, value) ∈ pairs) :
    (pairs.lookup name).isSome = true := by
  refine Option.isSome_iff_ne_none.2 fun hn => ?_
  have hne := List.lookup_eq_none_iff.1 hn _ h
  simp at hne

theorem lookup_append_congr {name : List Char} {pairs pairs' : List (List Char × List Char)}
    (h : pairs.lookup name = pairs'.lookup name) (rest : List (List Char × List Char)) :
    (pairs ++ rest).lookup name = (pairs' ++ rest).lookup name := by
  rw [List.lookup_append, List.lookup_append, h]

theorem mem_cookies_of_holds {front : Sent} {name : List Char} (h : ∃ f ∈ front, Holds name f) :
    ∃ value, (name, value) ∈ cookies (front.map Sent.made) := by
  obtain ⟨f, hf, hn, _, ⟨text, hr, hv, rfl⟩, s, hs, hc⟩ := h
  obtain ⟨value, hp⟩ := isCookie_iff.1 hc
  have htext : (Sent.made f).text? = some text := HeaderField.text?_of_readable hr hv
  exact ⟨value, mem_cookies.2 ⟨_, List.mem_map_of_mem hf, hn, text, htext, s, hs, hp⟩⟩

/-- A segment that does not count gives no cookie of the two names, or not the first. -/
theorem lookup_passed {front : Sent} {before : List (List Char)} {s : List Char} (h : Passed front before s)
    {name : String} (hn : name ∈ [authorizationCookie, userInfoCookie]) :
    ((cookies (front.map Sent.made) ++ before.filterMap cookiePair?) ++ [s].filterMap cookiePair?).lookup name.toList =
      (cookies (front.map Sent.made) ++ before.filterMap cookiePair?).lookup name.toList := by
  rw [List.lookup_append]
  cases hs : cookiePair? s with
  | none => simp [hs]
  | some pair =>
    obtain ⟨found, value⟩ := pair
    have hfound : IsCookie found s := isCookie_iff.2 ⟨value, hs⟩
    by_cases hname : found = name.toList
    · -- The name counts, so this is not the first cookie of the name.
      cases h with
      | bystander h =>
        cases h with
        | unsigned hno => exact absurd hfound.signed hno
        | named hother other =>
          obtain rfl := hfound.unique hother
          rw [hname] at other
          exact absurd (List.mem_map_of_mem hn) other
      | again hagain earlier =>
        obtain rfl := hfound.unique hagain
        have hmem : ∃ value, (found, value) ∈ cookies (front.map Sent.made) ++ before.filterMap cookiePair? := by
          rcases earlier with earlier | ⟨p, hp, hcookie⟩
          · obtain ⟨value, hv⟩ := mem_cookies_of_holds earlier
            exact ⟨value, List.mem_append_left _ hv⟩
          · obtain ⟨value, hv⟩ := isCookie_iff.1 hcookie
            exact ⟨value, List.mem_append_right _ (List.mem_filterMap.2 ⟨p, hp, hv⟩)⟩
        obtain ⟨value, hv⟩ := hmem
        rw [← hname]
        exact Option.or_of_isSome (lookup_isSome_of_mem hv)
    · have hmiss : ([s].filterMap cookiePair?).lookup name.toList = none := by
        rw [List.filterMap_cons_some hs, List.filterMap_nil, List.lookup_cons, beq_eq_false_iff_ne.2 (Ne.symm hname)]
        rfl
      rw [hmiss, Option.or_none]

/-! ## One change -/

theorem isValueByte_of_isReadable {b : UInt8} (h : HeaderField.isReadable b = true) : HeaderField.isValueByte b = true := by
  have hb := HeaderField.isReadable_iff.1 h
  simp only [HeaderField.isValueByte, Bool.or_eq_true, Bool.and_eq_true, decide_eq_true_eq, UInt8.le_iff_toNat_le, ne_eq,
    ← UInt8.toNat_inj, UInt8.reduceToNat]
  omega

/-- A readable field for cookies may stand in a header, however its name is spelled. -/
theorem legal_of_segments {name : String} {value : List UInt8} {segments : List (List Char)}
    (hn : name.toLower = cookieField) (h : Segments value segments) : Sent.Legal (name, value) := by
  obtain ⟨text, hr, hv, -⟩ := h
  have htext : (Sent.made (name, value)).text? = some text := HeaderField.text?_of_readable hr hv
  rw [HeaderField.text?, Option.ite_none_right_eq_some] at htext
  refine ⟨?_, List.all_eq_true.2 fun b hb => isValueByte_of_isReadable (List.all_eq_true.1 htext.1 b hb)⟩
  rw [← Sent.isName_toLower, hn]
  decide

theorem alike_refl (hs : Headers) : Alike hs hs := ⟨fun _ _ => rfl, fun _ _ => rfl⟩

/-- Of two fields of different names only one can have a name. -/
theorem alike_of_exchange {f g : HeaderField} (h : f.name ≠ g.name) : Alike [f, g] [g, f] := by
  have hall (name : String) : Headers.all [f, g] name = Headers.all [g, f] name := by
    simp only [all_cons]
    by_cases hf : f.name = name
    · rw [if_pos hf, if_neg fun hg => h (hf.trans hg.symm), if_neg fun hg => h (hf.trans hg.symm), if_pos hf]
    · rw [if_neg hf, if_neg hf]
  exact ⟨fun name _ => by rw [hall], fun name _ => by rw [cookies, cookies, hall]⟩

/-- Behind the first field of a name, others of the name do not count. -/
theorem alike_of_again {front : Headers} {f g : HeaderField} (hf : f ∈ front) (same : g.name = f.name)
    (single : g.name ∈ [authorizationField, serviceKeyField]) : Alike front (front ++ [g]) where
  first name _ := by
    rw [all_append, List.head?_append, all_cons]
    by_cases hg : g.name = name
    · have hmem : f ∈ Headers.all front name := List.mem_filter.2 ⟨hf, by simp [← same, hg]⟩
      obtain ⟨first, hfirst⟩ := Option.isSome_iff_exists.1 (List.isSome_head?.2 (List.ne_nil_of_mem hmem))
      rw [hfirst]
      rfl
    · rw [if_neg hg]
      exact (Option.or_none).symm
  cookie name _ := by
    have hne : g.name ≠ cookieField := by
      intro hg
      rw [hg] at single
      exact absurd single (by decide)
    rw [cookies_append, cookies_of_other hne, List.append_nil]

variable {front m m' : Sent}

/-- No harmless change makes a request one that cannot be sent. -/
theorem Harmless.legal_iff (h : Harmless front m m') : (∀ f ∈ m, Sent.Legal f) ↔ ∀ f ∈ m', Sent.Legal f := by
  cases h with
  | foreign legal => simp [legal]
  | exchange => simp [and_comm]
  | @spelling name name' value same =>
    have hname : HeaderField.isName name = HeaderField.isName name' := by
      rw [← Sent.isName_toLower name, same, Sent.isName_toLower]
    simp [Sent.Legal, hname]
  | again legal => simp [legal]
  | dark legal => simp [legal]
  | segment named old new => simp [legal_of_segments named old, legal_of_segments named new]
  | alone named new => simp [legal_of_segments named new]
  | cut named old first second =>
    simp [legal_of_segments named old, legal_of_segments named first, legal_of_segments named second]

/-- **A harmless change keeps the four places.** -/
theorem Harmless.alike (h : Harmless front m m') :
    Alike (front.map Sent.made ++ m.map Sent.made) (front.map Sent.made ++ m'.map Sent.made) := by
  cases h with
  | foreign legal other => exact Alike.append_left (alike_of_foreign other) _
  | exchange apart => exact Alike.append_left (alike_of_exchange apart) _
  | @spelling name name' value same =>
    have hmade : Sent.made (name, value) = Sent.made (name', value) := congrArg (HeaderField.mk · value) same
    rw [List.map_singleton, List.map_singleton, hmade]
    exact alike_refl _
  | again legal first same single =>
    rw [List.map_nil, List.append_nil]
    exact alike_of_again (List.mem_map_of_mem first) same single
  | @dark f legal named unread =>
    refine alike_of_cookies nofun (by simpa [Sent.made] using named) fun name _ => ?_
    have hdark : (Sent.made f).text? = none := by
      obtain ⟨b, hb, hr⟩ := unread
      refine if_neg fun hall => ?_
      rw [List.all_eq_true.1 hall b hb] at hr
      cases hr
    rw [List.map_singleton, cookies_of_dark hdark]
    rfl
  | @segment name value value' before after s named old new passed =>
    refine alike_of_cookies (by simpa [Sent.made] using named) (by simpa [Sent.made] using named) fun name' hn => ?_
    rw [List.map_singleton, List.map_singleton, cookies_of_segments named old, cookies_of_segments named new]
    have hsplit : before ++ s :: after = before ++ [s] ++ after := by simp
    rw [hsplit, List.filterMap_append, List.filterMap_append, List.filterMap_append, ← List.append_assoc,
      ← List.append_assoc, ← List.append_assoc]
    exact lookup_append_congr (lookup_passed passed hn).symm _
  | @alone name value s named new passed =>
    refine alike_of_cookies nofun (by simpa [Sent.made] using named) fun name' hn => ?_
    rw [List.map_singleton, cookies_of_segments named new]
    have h := lookup_passed passed hn
    rw [List.filterMap_nil, List.append_nil] at h
    exact (congrArg _ (List.append_nil _)).trans h.symm
  | @cut name value left right before after named old first second =>
    refine alike_of_cookies (by simpa [Sent.made] using named) (by simpa [Sent.made] using named) fun name' _ => ?_
    have hpair : [(name, left), (name, right)].map Sent.made = [Sent.made (name, left)] ++ [Sent.made (name, right)] := rfl
    rw [hpair, List.map_singleton, cookies_append, cookies_of_segments named old, cookies_of_segments named first,
      cookies_of_segments named second, List.filterMap_append]

/-- One change keeps what a request brings. -/
theorem Change.credentials?_eq {r r' : Sent} (h : Change r r') : Sent.credentials? r = Sent.credentials? r' := by
  cases h with
  | @mk front back m m' h =>
    have hlegal : (∀ f ∈ front ++ m ++ back, Sent.Legal f) ↔ ∀ f ∈ front ++ m' ++ back, Sent.Legal f := by
      simp only [List.forall_mem_append, h.legal_iff]
    have halike : Alike ((front ++ m ++ back).map Sent.made) ((front ++ m' ++ back).map Sent.made) := by
      simp only [List.map_append]
      exact h.alike.append_right _
    rw [Sent.credentials?, Sent.credentials?, Sent.headers?_eq, Sent.headers?_eq]
    by_cases hr : ∀ f ∈ front ++ m ++ back, Sent.Legal f
    · rw [if_pos hr, if_pos (hlegal.1 hr), Option.map_some, Option.map_some, halike.ofHeaders_eq]
    · rw [if_neg hr, if_neg fun hr' => hr (hlegal.2 hr')]

/-- **Nothing else in a request touches its credentials.**  Any chain of harmless changes, made or taken back, leaves all
three as they were. -/
theorem credentials_unmoved {r r' : Sent} (h : Relation.EqvGen Change r r') :
    Sent.credentials? r = Sent.credentials? r' := by
  induction h with
  | rel r r' h => exact h.credentials?_eq
  | refl r => rfl
  | symm r r' _ ih => exact ih.symm
  | trans r s r' _ _ first second => exact first.trans second

/-! ## A request with much else in it -/

theorem segments_of (text : String) (h : Readable text.toList) :
    Segments (Text.encodeString text) (Text.splitAll ';' text.toList) := ⟨text.toList, h, rfl, rfl⟩

/-- A field with a text. -/
def written (name text : String) : String × List UInt8 := (name, Text.encodeString text)

/-- A request whose field for tokens has the scheme alone, and whose cookies are a token and a user-info token. -/
def sparse : Sent := [written "Authorization" "Bearer", written "Cookie" "authorization=a; user-info=u"]

/-- The same request with more fields and cookies of the same names. -/
def crowded : Sent :=
  [written "Authorization" "Bearer", written "AUTHORIZATION" "Bearer z", ("COOKIE", [0xE9]),
    written "Cookie" "authorization=a; user-info=u", written "Cookie" " authorization="]

theorem toLower_eq {name lower : String} (h : name.toList.map Char.toLower = lower.toList) : name.toLower = lower :=
  String.toList_inj.1 (String.toList_map.trans h)

theorem crowded_of_sparse : Relation.EqvGen Change sparse crowded := by
  let first := written "Authorization" "Bearer"
  let second := written "AUTHORIZATION" "Bearer z"
  let dark : String × List UInt8 := ("COOKIE", [0xE9])
  let cookies (text : String) := written "Cookie" text
  have hfirst : "Authorization".toLower = authorizationField := toLower_eq (by decide)
  have hsecond : "AUTHORIZATION".toLower = authorizationField := toLower_eq (by decide)
  have hcookie : "Cookie".toLower = cookieField := toLower_eq (by decide)
  have hdark : "COOKIE".toLower = cookieField := toLower_eq (by decide)
  have named (value : String) (s : List Char) (h : cookiePair? s = some (authorizationCookie.toList, value.toList)) :
      IsCookie authorizationCookie.toList s := isCookie_iff.2 ⟨_, h⟩
  have empty : Passed [first] ["authorization=a".toList, " user-info=u".toList] " authorization=".toList :=
    .again (named "" _ (by decide)) (.inr ⟨"authorization=a".toList, List.mem_cons_self, named "a" _ (by decide)⟩)
  have change (front m m' back : Sent) (h : Harmless front m m') :
      Relation.EqvGen Change (front ++ m ++ back) (front ++ m' ++ back) := .rel _ _ ⟨h⟩
  have emptied : Relation.EqvGen Change sparse [first, cookies "authorization=a; user-info=u; authorization="] :=
    change [first] [cookies _] [cookies _] []
      (.segment hcookie (segments_of _ (by decide)) (segments_of _ (by decide)) empty)
  have halved : Relation.EqvGen Change [first, cookies "authorization=a; user-info=u; authorization="]
      [first, cookies "authorization=a; user-info=u", cookies " authorization="] :=
    change [first] [cookies _] [cookies _, cookies _] []
      (.cut hcookie (segments_of _ (by decide)) (segments_of _ (by decide)) (segments_of _ (by decide)))
  have darkened : Relation.EqvGen Change [first, cookies "authorization=a; user-info=u", cookies " authorization="]
      [first, dark, cookies "authorization=a; user-info=u", cookies " authorization="] :=
    change [first] [] [dark] [cookies _, cookies _] (.dark (by decide) hdark ⟨0xE9, by decide, by decide⟩)
  have repeated : Relation.EqvGen Change
      [first, dark, cookies "authorization=a; user-info=u", cookies " authorization="] crowded :=
    change [first] [] [second] [dark, cookies _, cookies _]
      (.again (by decide) List.mem_cons_self (hsecond.trans hfirst.symm) (List.mem_cons.2 (.inl hsecond)))
  exact (emptied.trans _ _ _ halved).trans _ _ _ (darkened.trans _ _ _ repeated)

/-- The empty cookie of the name behind the first, and the field behind the first, do not count. -/
theorem credentials_unmoved_crowded : Relation.EqvGen Change sparse crowded ∧
    Sent.credentials? sparse = some ⟨some "a", some "u", none⟩ ∧
    Sent.credentials? crowded = some ⟨some "a", some "u", none⟩ := by
  have hsparse : Sent.credentials? sparse = some ⟨some "a", some "u", none⟩ := by cbv
  exact ⟨crowded_of_sparse, hsparse, (credentials_unmoved crowded_of_sparse).symm.trans hsparse⟩

end Credentials
end DatastoreAccess

import Mathlib
import DatastoreAccess.Proofs.Answers
import DatastoreAccess.Proofs.Keys.Trace
/-!
# Proofs.Keys.Isolation — what an entry that cannot be used does to the others

A key set is read in two steps.  First every entry has to be legible: an object whose fields are of their kinds and that
names a family of keys (`Legible`).  Then the entries without an id, and those whose parameters do not decode, are passed
over.  So an entry that cannot be used leaves all lookups as they are when it is legible, and only then: one illegible
entry, such as a key of a new family or on a new curve (`not_legible_of_family`, `not_legible_of_curve`), takes the whole
set away (`unusable_entry`, `spoiled_by_new_family`).
-/
namespace DatastoreAccess

open Json (Tree once? optional? required?)

namespace Jwk

/-! ## Legible entries -/

/-- What stands under a name, once, reads as `v`. -/
def Stands {α : Type} (ms : List (Option String × Tree)) (name : String) (read : Tree → Option α) (v : α) : Prop :=
  ∃ t, once? ms name = some (some t) ∧ read t = some v

/-- Nothing stands under a name, or null, or something readable. -/
def Fits {α : Type} (ms : List (Option String × Tree)) (name : String) (read : Tree → Option α) : Prop :=
  once? ms name = some none ∨ once? ms name = some (some .null) ∨ ∃ v, Stands ms name read v

def families : List String := ["EC", "RSA", "oct", "OKP"]

/-- An object names a family of keys and has the fields of that family. -/
inductive Family (ms : List (Option String × Tree)) : Prop where
  | elliptic {crv x y : String} (family : Stands ms "kty" (oneOf? families) "EC")
      (curve : Stands ms "crv" (oneOf? curves) crv) (first : Stands ms "x" Tree.string? x)
      (second : Stands ms "y" Tree.string? y)
  | rsa {n e : String} (family : Stands ms "kty" (oneOf? families) "RSA") (modulus : Stands ms "n" Tree.string? n)
      (exponent : Stands ms "e" Tree.string? e)
  | octets {k : String} (family : Stands ms "kty" (oneOf? families) "oct") (secret : Stands ms "k" Tree.string? k)
  | edwards {crv x : String} (family : Stands ms "kty" (oneOf? families) "OKP")
      (curve : Stands ms "crv" (oneOf? curves) crv) (point : Stands ms "x" Tree.string? x)

/-- An object that reads as a key, though perhaps not as one that can be used. -/
structure Typed (ms : List (Option String × Tree)) : Prop where
  values : ∃ vs, Json.memberValues? (Json.depthLimit - 3) ms = some vs
  texts : ∀ name ∈ ["use", "kid", "x5u", "x5t", "x5t#S256"], Fits ms name Tree.string?
  lists : ∀ name ∈ ["key_ops", "x5c"], Fits ms name Tree.strings?
  algorithm : Fits ms "alg" Tree.choice?
  family : Family ms

/-- An entry that a key set may have. -/
def Legible (t : Tree) : Prop := ∃ ms, t = .object ms ∧ Typed ms

theorem fits_iff {α : Type} {ms : List (Option String × Tree)} {name : String} {read : Tree → Option α} :
    (∃ v slot, once? ms name = some slot ∧ optional? read slot = some v) ↔ Fits ms name read := by
  unfold Fits Stands
  cases once? ms name with
  | none => simp
  | some slot =>
    cases slot with
    | none => simp [optional?]
    | some t => cases t <;> simp [optional?]

theorem stands_iff {α : Type} {ms : List (Option String × Tree)} {name : String} {read : Tree → Option α} {v : α} :
    (∃ slot, once? ms name = some slot ∧ required? read slot = some v) ↔ Stands ms name read v := by
  unfold Stands
  cases once? ms name with
  | none => simp
  | some slot => cases slot <;> simp [required?]

theorem mem_of_stands {ms : List (Option String × Tree)} {name v : String} {names : List String}
    (h : Stands ms name (oneOf? names) v) : v ∈ names := by
  obtain ⟨t, -, ht⟩ := h
  simpa using (Option.filter_eq_some_iff.1 ht).2

theorem exists_parameters? {ms : List (Option String × Tree)} : (∃ p, parameters? ms = some p) ↔ Family ms := by
  unfold parameters?
  simp only [Option.bind_eq_bind, Option.bind_eq_some_iff, stands_iff]
  constructor
  · rintro ⟨p, family, hf, hp⟩
    have hmem := mem_of_stands hf
    simp only [List.mem_cons, List.not_mem_nil, or_false] at hmem
    rcases hmem with rfl | rfl | rfl | rfl
    all_goals simp only [String.reduceEq, imp_self, Option.bind_eq_some_iff, stands_iff, Option.some.injEq,
      exists_and_right] at hp
    · obtain ⟨⟨crv, hc⟩, x, hx, y, hy, -⟩ := hp
      exact .elliptic hf hc hx hy
    · obtain ⟨n, hn, e, he, -⟩ := hp
      exact .rsa hf hn he
    · obtain ⟨k, hk, -⟩ := hp
      exact .octets hf hk
    · obtain ⟨⟨crv, hc⟩, x, hx, -⟩ := hp
      exact .edwards hf hc hx
  · intro h
    cases h with
    | @elliptic crv x y family curve first second =>
      refine ⟨.elliptic x y, "EC", family, ?_⟩
      simpa [Option.bind_eq_some_iff, stands_iff] using ⟨⟨crv, curve⟩, first, second⟩
    | @rsa n e family modulus exponent =>
      refine ⟨.rsa n e, "RSA", family, ?_⟩
      simpa [Option.bind_eq_some_iff, stands_iff] using ⟨modulus, exponent⟩
    | @octets k family secret =>
      refine ⟨.octets k, "oct", family, ?_⟩
      simpa [Option.bind_eq_some_iff, stands_iff] using secret
    | @edwards crv x family curve point =>
      refine ⟨.edwards x, "OKP", family, ?_⟩
      simpa [Option.bind_eq_some_iff, stands_iff] using ⟨⟨crv, curve⟩, point⟩

theorem exists_ofTree? {t : Tree} : (∃ j, ofTree? (Json.depthLimit - 3) t = some j) ↔ Legible t := by
  cases t with
  | object ms =>
    have hobject : Legible (.object ms) ↔ Typed ms := by simp [Legible]
    rw [hobject]
    unfold ofTree?
    simp only [Option.bind_eq_bind, Option.bind_eq_some_iff]
    constructor
    · rintro ⟨j, vs, hvs, use, huse, ops, hops, alg, halg, id, hid, x5u, hx5u, x5c, hx5c, x5t, hx5t, s, hs, p, hp, -⟩
      refine ⟨⟨vs, hvs⟩, ?_, ?_, fits_iff.1 ⟨alg, halg⟩, exists_parameters?.1 ⟨p, hp⟩⟩
      · simp only [List.forall_mem_cons]
        exact ⟨fits_iff.1 ⟨use, huse⟩, fits_iff.1 ⟨id, hid⟩, fits_iff.1 ⟨x5u, hx5u⟩, fits_iff.1 ⟨x5t, hx5t⟩,
          fits_iff.1 ⟨s, hs⟩, List.forall_mem_nil _⟩
      · simp only [List.forall_mem_cons]
        exact ⟨fits_iff.1 ⟨ops, hops⟩, fits_iff.1 ⟨x5c, hx5c⟩, List.forall_mem_nil _⟩
    · intro h
      obtain ⟨vs, hvs⟩ := h.values
      obtain ⟨p, hp⟩ := exists_parameters?.2 h.family
      obtain ⟨use, huse⟩ := fits_iff.2 (h.texts "use" (by decide))
      obtain ⟨ops, hops⟩ := fits_iff.2 (h.lists "key_ops" (by decide))
      obtain ⟨alg, halg⟩ := fits_iff.2 h.algorithm
      obtain ⟨id, hid⟩ := fits_iff.2 (h.texts "kid" (by decide))
      obtain ⟨x5u, hx5u⟩ := fits_iff.2 (h.texts "x5u" (by decide))
      obtain ⟨x5c, hx5c⟩ := fits_iff.2 (h.lists "x5c" (by decide))
      obtain ⟨x5t, hx5t⟩ := fits_iff.2 (h.texts "x5t" (by decide))
      obtain ⟨s, hs⟩ := fits_iff.2 (h.texts "x5t#S256" (by decide))
      exact ⟨⟨id, p⟩, vs, hvs, use, huse, ops, hops, alg, halg, id, hid, x5u, hx5u, x5c, hx5c, x5t, hx5t, s, hs, p, hp,
        rfl⟩
  | _ => simp [Legible, ofTree?]

theorem Stands.unique {α : Type} {ms : List (Option String × Tree)} {name : String} {read : Tree → Option α} {v v' : α}
    (h : Stands ms name read v) (h' : Stands ms name read v') : v = v' := by
  obtain ⟨t, ht, hv⟩ := h
  obtain ⟨t', ht', hv'⟩ := h'
  cases ht.symm.trans ht'
  exact Option.some.inj (hv.symm.trans hv')

theorem not_stands_of_choice {ms : List (Option String × Tree)} {name v : String} {names : List String} {t : Tree}
    (ht : once? ms name = some (some t)) (hn : ∀ f ∈ names, t.choice? ≠ some f) :
    ¬ Stands ms name (oneOf? names) v := by
  intro h
  have hmem := mem_of_stands h
  obtain ⟨t', ht', hv⟩ := h
  cases ht.symm.trans ht'
  exact hn v hmem (Option.filter_eq_some_iff.1 hv).1

/-- A key of a family that is not known is not even legible. -/
theorem not_legible_of_family {ms : List (Option String × Tree)} {t : Tree} (ht : once? ms "kty" = some (some t))
    (hf : ∀ f ∈ families, t.choice? ≠ some f) : ¬ Legible (.object ms) := by
  rintro ⟨_, h, typed⟩
  cases h
  cases typed.family with
  | elliptic family => exact not_stands_of_choice ht hf family
  | rsa family => exact not_stands_of_choice ht hf family
  | octets family => exact not_stands_of_choice ht hf family
  | edwards family => exact not_stands_of_choice ht hf family

/-- Nor is one on a curve that is not known. -/
theorem not_legible_of_curve {ms : List (Option String × Tree)} {t : Tree} {f : String} (hon : f = "EC" ∨ f = "OKP")
    (hk : Stands ms "kty" (oneOf? families) f) (ht : once? ms "crv" = some (some t))
    (hc : ∀ c ∈ curves, t.choice? ≠ some c) : ¬ Legible (.object ms) := by
  rintro ⟨_, h, typed⟩
  cases h
  cases typed.family with
  | elliptic family curve => exact not_stands_of_choice ht hc curve
  | rsa family =>
    obtain rfl := hk.unique family
    simp at hon
  | octets family =>
    obtain rfl := hk.unique family
    simp at hon
  | edwards family curve => exact not_stands_of_choice ht hc curve

end Jwk

/-! ## Documents -/

namespace KeySet

/-- A body that is a key set to look at: one slot `keys`, and in it the entries. -/
def Document (body : List UInt8) (ts : List Tree) : Prop :=
  (Tree.ofBytes? body).bind (Tree.slots? ["keys"]) = some [some (.list ts)]

/-- The key that one entry gives. -/
def key? (t : Tree) : Option SigningKey := (Jwk.ofTree? (Json.depthLimit - 3) t).bind Jwk.signingKey?

theorem ofBody?_of_document {body : List UInt8} {ts : List Tree} (h : Document body ts) :
    ofBody? body = ofTrees? ts := by
  obtain ⟨t, ht, hs⟩ := Option.bind_eq_some_iff.1 h
  simp only [ofBody?, ht, Option.bind_some, ofTree?, hs]

theorem exists_ofTrees? {ts : List Tree} : (∃ set, ofTrees? ts = some set) ↔ ∀ t ∈ ts, Jwk.Legible t := by
  simp only [← Jwk.exists_ofTree?, ← Answers.exists_mapM, ofTrees?, Option.map_eq_some_iff]
  constructor
  · rintro ⟨set, js, hjs, -⟩
    exact ⟨js, hjs⟩
  · rintro ⟨js, hjs⟩
    exact ⟨⟨js⟩, js, hjs, rfl⟩

theorem filterMap_of_mapM {α β γ : Type} {f : α → Option β} {g : β → Option γ} :
    ∀ {as : List α} {bs : List β}, as.mapM f = some bs → bs.filterMap g = as.filterMap fun a => (f a).bind g
  | [], bs, h => by
    cases h
    rfl
  | a :: as, bs, h => by
    rw [List.mapM_cons] at h
    obtain ⟨b, hb, h⟩ := Option.bind_eq_some_iff.1 h
    obtain ⟨bs', hbs, h⟩ := Option.bind_eq_some_iff.1 h
    cases h
    rw [List.filterMap_cons, List.filterMap_cons, hb, Option.bind_some, filterMap_of_mapM hbs]

/-- The usable keys of a set are the keys that its entries give, in their order. -/
theorem usable_of_ofTrees? {ts : List Tree} {set : KeySet} (h : ofTrees? ts = some set) :
    set.usable = ts.filterMap key? := by
  obtain ⟨js, hjs, rfl⟩ := Option.map_eq_some_iff.1 h
  exact filterMap_of_mapM hjs

/-- The key for an id is the last usable one that has it. -/
theorem find?_eq_last {set : KeySet} {id : String} {k : SigningKey} :
    set.find? id = some k ↔ ∃ before after, set.usable = before ++ k :: after ∧ k.id = id ∧ ∀ l ∈ after, l.id ≠ id := by
  rw [find?, List.find?_eq_some_iff_append]
  constructor
  · rintro ⟨hid, after, before, hu, hn⟩
    refine ⟨before.reverse, after.reverse, ?_, by simpa using hid, fun l hl => ?_⟩
    · simpa using congrArg List.reverse hu
    · simpa using hn l (List.mem_reverse.1 hl)
  · rintro ⟨before, after, hu, hid, hn⟩
    refine ⟨by simpa using hid, after.reverse, before.reverse, by simp [hu], fun l hl => ?_⟩
    simpa using hn l (List.mem_reverse.1 hl)

end KeySet

/-! ## Responses that answer alike -/

namespace Resolver

open KeyEndpoint (Response)

/-- Two responses of which each may stand for the other: in no run can they be told apart. -/
def Alike (a a' : Response) : Prop :=
  ∀ (r : Resolver) (endpoint endpoint' : Nat → Response),
    (∀ n, endpoint n = endpoint' n ∨ endpoint n = a ∧ endpoint' n = a') →
      ∀ calls s, r.run endpoint calls s = r.run endpoint' calls s

variable {r : Resolver} {endpoint endpoint' : Nat → Response} {a a' : Response}

theorem fetch_congr (h : a.keys = a'.keys) (m : Moments) (id : String) (s : State) :
    fetch m a id s = fetch m a' id s := by
  unfold fetch
  rw [h]

theorem keyFor_congr (h : ∀ n, (endpoint n).keys = (endpoint' n).keys) (m : Moments) (id : String) (s : State) :
    r.keyFor endpoint m id s = r.keyFor endpoint' m id s := by
  unfold keyFor
  rw [fetch_congr (h s.requests)]

theorem perform_congr (h : ∀ n, (endpoint n).keys = (endpoint' n).keys) (c : Call) (s : State) :
    r.perform endpoint c s = r.perform endpoint' c s := by
  simp only [perform, resolve, keyFor_congr h]

theorem run_congr (h : ∀ n, (endpoint n).keys = (endpoint' n).keys) (calls : List Call) (s : State) :
    r.run endpoint calls s = r.run endpoint' calls s := by
  induction calls generalizing s with
  | nil => rfl
  | cons c calls ih => simp only [run, perform_congr h, ih]

/-- Of a response nothing counts but the keys it publishes. -/
theorem alike_of_keys (h : a.keys = a'.keys) : Alike a a' := by
  intro r endpoint endpoint' he calls s
  refine run_congr (fun n => ?_) calls s
  rcases he n with he | ⟨he, he'⟩
  · rw [he]
  · rw [he, he', h]

theorem fetch_of_brings {set : KeySet} (h : a.Brings set) (m : Moments) (id : String) (s : State) :
    (fetch m a id s).1 = Interleaving.answerOf id (set.find? id) := by
  unfold fetch
  rw [h.keys]
  dsimp only
  rw [KeyCache.stale?_replace]
  rfl

theorem fetch_of_error {e : KeyFailure} (h : a.keys = .error e) (m : Moments) (id : String) (s : State) :
    fetch m a id s = (.error e, ⟨s.cache.noteFetch m.start, s.requests + 1⟩) := by
  unfold fetch
  rw [h]

theorem fetch_ne_notKeySet {set : KeySet} (h : a.Brings set) (m : Moments) (id : String) (s : State) :
    (fetch m a id s).1 ≠ .error .notKeySet := by
  rw [fetch_of_brings h]
  cases set.find? id <;> simp [Interleaving.answerOf]

theorem reported_inj {x y : Except KeyFailure SigningKey} (h : reported x = reported y) : x = y := by
  cases x <;> cases y <;> simp_all [reported, Except.mapError]

/-- A resolver as new has to ask. -/
theorem keyFor_initial (m : Moments) (id : String) :
    r.keyFor endpoint m id .initial = fetch m (endpoint 0) id .initial := rfl

theorem Alike.fetch_initial (h : Alike a a') (m : Moments) (id : String) :
    (fetch m a id .initial).1 = (fetch m a' id .initial).1 := by
  have hrun := h ⟨"", 0, 0⟩ (fun _ => a) (fun _ => a') (fun _ => .inr ⟨rfl, rfl⟩) [⟨.keyFor id, m⟩] .initial
  have hid : (Call.mk (.keyFor id) m).request.id? = some id := rfl
  rw [run, run, perform_of_id hid, perform_of_id hid, keyFor_initial, keyFor_initial] at hrun
  exact reported_inj (List.cons.inj (congrArg Prod.fst hrun)).1

/-! ## One more entry -/

/-- An entry that gives no key, put among the entries of a set, changes no lookup when it is legible.  When it is not,
no lookup that asks gets a key any more. -/
theorem keys_of_unusable {status : Nat} {body body' : List UInt8} {front back : List Tree} {t : Tree} {set : KeySet}
    (hbody : KeySet.Document body (front ++ back)) (hbody' : KeySet.Document body' (front ++ t :: back))
    (ht : KeySet.key? t = none) (hset : (Response.answered status body).Brings set) :
    (Jwk.Legible t → ∃ set', (Response.answered status body').Brings set' ∧ set'.usable = set.usable) ∧
    (¬ Jwk.Legible t → (Response.answered status body').keys = .error .notKeySet) := by
  obtain ⟨_, _, heq, hstatus, hof, hne⟩ := hset
  cases heq
  rw [KeySet.ofBody?_of_document hbody] at hof
  have hlegible := KeySet.exists_ofTrees?.1 ⟨set, hof⟩
  constructor
  · intro hl
    obtain ⟨set', hset'⟩ : ∃ set', KeySet.ofTrees? (front ++ t :: back) = some set' := by
      refine KeySet.exists_ofTrees?.2 fun u hu => ?_
      rcases List.mem_append.1 hu with hu | hu
      · exact hlegible u (List.mem_append_left _ hu)
      · rcases List.mem_cons.1 hu with rfl | hu
        · exact hl
        · exact hlegible u (List.mem_append_right _ hu)
    have husable : set'.usable = set.usable := by
      rw [KeySet.usable_of_ofTrees? hset', KeySet.usable_of_ofTrees? hof, List.filterMap_append, List.filterMap_append,
        List.filterMap_cons_none ht]
    have hof' : KeySet.ofBody? body' = some set' := by rw [KeySet.ofBody?_of_document hbody', hset']
    exact ⟨set', ⟨status, body', rfl, hstatus, hof', husable ▸ hne⟩, husable⟩
  · intro hl
    have hnone : KeySet.ofBody? body' = none := by
      rw [KeySet.ofBody?_of_document hbody', Option.eq_none_iff_forall_ne_some]
      intro set' hset'
      exact hl (KeySet.exists_ofTrees?.1 ⟨set', hset'⟩ t (by simp))
    simp [Response.keys, hstatus, hnone]

/-- **One entry that cannot be used leaves the others alone exactly when it is legible.**  Then the keys of a set are
those of its usable entries in their order, and of one id the last one counts. -/
theorem unusable_entry {status : Nat} {body body' : List UInt8} {front back : List Tree} {t : Tree} {set : KeySet}
    (hbody : KeySet.Document body (front ++ back)) (hbody' : KeySet.Document body' (front ++ t :: back))
    (ht : KeySet.key? t = none) (hset : (Response.answered status body).Brings set) :
    (Alike (.answered status body) (.answered status body') ↔ Jwk.Legible t) ∧
    ((∀ m id s, (fetch m (.answered status body') id s).1 = (fetch m (.answered status body) id s).1) ↔ Jwk.Legible t) ∧
    (Jwk.Legible t → ∃ set', (Response.answered status body').Brings set' ∧ set'.usable = set.usable) ∧
    (¬ Jwk.Legible t → ∀ m id s, fetch m (.answered status body') id s =
      (.error .notKeySet, ⟨s.cache.noteFetch m.start, s.requests + 1⟩)) ∧
    set.usable = (front ++ back).filterMap KeySet.key? ∧
    ∀ m id s k, (fetch m (.answered status body) id s).1 = .ok k ↔
      ∃ before after, set.usable = before ++ k :: after ∧ k.id = id ∧ ∀ l ∈ after, l.id ≠ id := by
  obtain ⟨hkept, hlost⟩ := keys_of_unusable hbody hbody' ht hset
  have hkeys (hl : Jwk.Legible t) : (Response.answered status body').keys = (Response.answered status body).keys := by
    obtain ⟨set', hset', husable⟩ := hkept hl
    rw [hset.keys, hset'.keys, husable]
  have hspoiled (hl : ¬ Jwk.Legible t) := fetch_of_error (hlost hl)
  refine ⟨⟨fun h => ?_, fun hl => alike_of_keys (hkeys hl).symm⟩, ⟨fun h => ?_, fun hl m id s => ?_⟩, hkept, hspoiled,
    ?_, ?_⟩
  · -- Told apart by the first lookup of a resolver as new.
    by_contra hl
    refine fetch_ne_notKeySet hset (.still 0) "" .initial ?_
    rw [h.fetch_initial, hspoiled hl]
  · by_contra hl
    refine fetch_ne_notKeySet hset (.still 0) "" .initial ?_
    rw [← h, hspoiled hl]
  · rw [fetch_congr (hkeys hl)]
  · obtain ⟨_, _, heq, -, hof, -⟩ := hset
    cases heq
    rw [KeySet.ofBody?_of_document hbody] at hof
    exact KeySet.usable_of_ofTrees? hof
  · intro m id s k
    rw [fetch_of_brings hset, answerOf_eq_ok, KeySet.find?_eq_last]

/-! ## Two sets with one more entry -/

/-- The set of one key under the id `k`, and of what else is published behind it. -/
def publishing (more : String) : List UInt8 :=
  Text.encodeString ("\x7b\"keys\":[\x7b\"kty\":\"oct\",\"kid\":\"k\",\"k\":\"AQ\"\x7d" ++ more ++ "]\x7d")

def secretEntry : Tree := .object [(some "kty", .text "oct"), (some "kid", .text "k"), (some "k", .text "AQ")]

/-- An RSA key under the same id, with a modulus that does not decode. -/
def brokenEntry : Tree :=
  .object [(some "kty", .text "RSA"), (some "kid", .text "k"), (some "n", .text "?"), (some "e", .text "AQAB")]

/-- A key of a family that is not known. -/
def strangeEntry : Tree := .object [(some "kty", .text "DH"), (some "kid", .text "d")]

theorem publishing_brings : (Response.answered 200 (publishing "")).Brings ⟨[⟨some "k", .octets "AQ"⟩]⟩ := by
  have hu : (KeySet.mk [⟨some "k", .octets "AQ"⟩]).usable = [⟨"k", .secret [1]⟩] := by cbv
  refine ⟨200, _, rfl, by decide, ?_, ?_⟩
  · cbv
  · simp [hu]

theorem publishing_document : KeySet.Document (publishing "") [secretEntry] := by
  unfold KeySet.Document
  cbv

/-- A broken key behind the usable one of the same id: nobody can tell. -/
theorem unusable_entry_broken :
    KeySet.Document (publishing "") ([secretEntry] ++ []) ∧
    KeySet.Document (publishing ",\x7b\"kty\":\"RSA\",\"kid\":\"k\",\"n\":\"?\",\"e\":\"AQAB\"\x7d")
      ([secretEntry] ++ brokenEntry :: []) ∧
    KeySet.key? brokenEntry = none ∧
    (Response.answered 200 (publishing "")).Brings ⟨[⟨some "k", .octets "AQ"⟩]⟩ ∧
    Alike (.answered 200 (publishing "")) (.answered 200
      (publishing ",\x7b\"kty\":\"RSA\",\"kid\":\"k\",\"n\":\"?\",\"e\":\"AQAB\"\x7d")) := by
  have hbody' : KeySet.Document (publishing ",\x7b\"kty\":\"RSA\",\"kid\":\"k\",\"n\":\"?\",\"e\":\"AQAB\"\x7d")
      ([secretEntry] ++ brokenEntry :: []) := by
    unfold KeySet.Document
    cbv
  have hbroken : KeySet.key? brokenEntry = none := by cbv
  have hlegible : Jwk.Legible brokenEntry := Jwk.exists_ofTree?.1 ⟨⟨some "k", .rsa "?" "AQAB"⟩, by cbv⟩
  exact ⟨publishing_document, hbody', hbroken, publishing_brings,
    (unusable_entry publishing_document hbody' hbroken publishing_brings).1.2 hlegible⟩

/-- A key of a new family behind the usable one: the id that was found is found no more. -/
theorem spoiled_by_new_family :
    KeySet.Document (publishing "") [secretEntry] ∧
    KeySet.Document (publishing ",\x7b\"kty\":\"DH\",\"kid\":\"d\"\x7d") [secretEntry, strangeEntry] ∧
    KeySet.key? strangeEntry = none ∧
    ((Resolver.mk "u" defaultLifetime defaultRefreshFloor).keyFor (fun _ => .answered 200 (publishing ""))
      (.still 0) "k" .initial).1 = .ok ⟨"k", .secret [1]⟩ ∧
    ((Resolver.mk "u" defaultLifetime defaultRefreshFloor).keyFor (fun _ => .answered 200
      (publishing ",\x7b\"kty\":\"DH\",\"kid\":\"d\"\x7d")) (.still 0) "k" .initial).1 = .error .notKeySet := by
  refine ⟨publishing_document, ?_, ?_, ?_, ?_⟩
  · unfold KeySet.Document
    cbv
  · cbv
  · cbv
  · cbv

end Resolver
end DatastoreAccess
